/-!
# Tables of keys

A table lists keys, each with its status, in two columns.  The first column is as wide as the
number of bytes of the longest key, at least as its own heading, and keys are filled up with spaces
by the number of their characters.  As no text has more characters than bytes, no key is wider than
the column.  The table ends with an empty line and a footer.
-/

namespace SchemaUpgrade.Cli

/-- A row of a table. -/
structure Row where
  key : String
  status : String
  deriving DecidableEq, Repr, Inhabited

namespace Table

/-- The heading of the keys. -/
def keyHeading : String := "KEY"

/-- The heading of the statuses. -/
def statusHeading : String := "STATUS"

/-- The width of the rule under the second heading. -/
def statusWidth : Nat := 8

/-- The width of the column of keys. -/
def keyWidth (rows : List Row) : Nat :=
  rows.foldl (fun width row => max width row.key.utf8ByteSize) keyHeading.length

/-- A text of one character. -/
def run (c : Char) (n : Nat) : String :=
  String.ofList (List.replicate n c)

/-- A text, filled up with spaces to a number of characters. -/
def fillUp (width : Nat) (text : String) : String :=
  text ++ run ' ' (width - text.length)

/-- What stands between the columns. -/
def gap : String := "  "

/-- A line of two cells. -/
def line (width : Nat) (key status : String) : String :=
  fillUp width key ++ gap ++ status

/-- The lines of a table. -/
def lines (rows : List Row) (footer : String) : List String :=
  let width := keyWidth rows
  line width keyHeading statusHeading
    :: line width (run '-' width) (run '-' statusWidth)
    :: rows.map (fun row => line width row.key row.status)
    ++ ["", footer]

end Table

end SchemaUpgrade.Cli
