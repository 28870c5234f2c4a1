/-!
# Records in JSON

A record of texts, missing texts and lists of texts, written in JSON over several lines: each
member on a line of its own, two spaces deeper than what it belongs to, and an empty list or record
on one line.  In a text, quotes, backslashes and control characters are escaped; everything else is
written as it is.
-/

namespace SchemaUpgrade.Text.Json

/-- A member of a record. -/
inductive Member where
  /-- A text, or `null` in its place. -/
  | text (value : Option String)
  | texts (values : List String)
  deriving DecidableEq, Repr, Inhabited

/-- The digit of a number below sixteen. -/
def hexDigit (n : Nat) : Char :=
  if n < 10 then Char.ofNat ('0'.toNat + n) else Char.ofNat ('a'.toNat + (n - 10))

/-- A character as it is written inside quotes. -/
def escape (c : Char) : List Char :=
  match c with
  | '"' => ['\\', '"']
  | '\\' => ['\\', '\\']
  | '\x08' => ['\\', 'b']
  | '\t' => ['\\', 't']
  | '\n' => ['\\', 'n']
  | '\x0c' => ['\\', 'f']
  | '\r' => ['\\', 'r']
  | _ =>
    if c.toNat < 32 then ['\\', 'u', '0', '0', hexDigit (c.toNat / 16), hexDigit (c.toNat % 16)]
    else [c]

/-- A text in quotes. -/
def quote (text : String) : String :=
  String.ofList ('"' :: text.toList.flatMap escape ++ ['"'])

/-- Puts a comma behind every line but the last. -/
def separate : List String → List String
  | [] => []
  | [line] => [line]
  | line :: rest => (line ++ ",") :: separate rest

/-- A line moved one level inwards. -/
def indent (line : String) : String :=
  "  " ++ line

/-- The lines of a member, after its name. -/
def Member.lines (name : String) : Member → List String
  | .text none => [quote name ++ ": null"]
  | .text (some value) => [quote name ++ ": " ++ quote value]
  | .texts [] => [quote name ++ ": []"]
  | .texts values =>
    (quote name ++ ": [") :: (separate (values.map quote)).map indent ++ ["]"]

/-- The lines of the members of a record, with a comma behind each member but the last. -/
def memberLines : List (String × Member) → List String
  | [] => []
  | [(name, member)] => member.lines name
  | (name, member) :: rest =>
    let lines := member.lines name
    lines.dropLast ++ [lines.getLast?.getD "" ++ ","] ++ memberLines rest

/-- The lines of a record. -/
def recordLines : List (String × Member) → List String
  | [] => ["\x7b\x7d"]
  | members => "\x7b" :: (memberLines members).map indent ++ ["\x7d"]

end SchemaUpgrade.Text.Json
