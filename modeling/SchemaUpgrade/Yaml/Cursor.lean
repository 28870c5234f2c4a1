/-!
# Reading YAML text

A `Cursor` stands somewhere in a text and knows the line and the column it is at, both counted from
zero; a column is one character wide, of however many bytes.  Five characters or pairs end a line:
line feed, carriage return, the two together, next line (U+0085), line separator (U+2028) and
paragraph separator (U+2029).  The first four of them are read as a line feed, the last two as
themselves.

A text is taken in portions of 16384 bytes, and a portion that holds a character that no YAML text
may hold cannot be read.  The text is then cut off in front of that portion, and breaks where a
character behind the cut is needed.

What can be wrong with a YAML text is a `Problem`; with the place where it was noticed it is a
`SyntaxError`.
-/

namespace SchemaUpgrade.Yaml

/-- A place in a text. -/
structure Mark where
  /-- The number of bytes in front of it. -/
  index : Nat := 0
  line : Nat := 0
  column : Nat := 0
  deriving DecidableEq, Repr, Inhabited

/-- What can be wrong with a YAML text. -/
inductive Problem where
  | controlCharacter
  | unknownStart
  | missingColon
  | entryNotAllowed
  | keyNotAllowed
  | valueNotAllowed
  | unexpectedColon
  | tabIndentation
  | unexpectedDocumentMark
  | unclosedQuote
  | unknownEscape
  | badHexDigit
  | badCodePoint
  | zeroIndentation
  | trailingText
  | badName
  | badTag
  | unknownDirective
  | repeatedDirective
  | unsupportedVersion
  | unknownTagHandle
  | expectedDocumentStart
  | expectedNode
  | expectedEntry
  | expectedKey
  | expectedComma
  | unknownAlias
  | manyDocuments
  | endOfStream
  deriving DecidableEq, Repr, Inhabited

/-- The words for a problem. -/
def Problem.text : Problem → String
  | .controlCharacter => "control characters are not allowed"
  | .unknownStart => "no token can start with this character"
  | .missingColon => "a key must be followed by a colon"
  | .entryNotAllowed => "a sequence entry is not allowed here"
  | .keyNotAllowed => "a mapping key is not allowed here"
  | .valueNotAllowed => "a mapping value is not allowed here"
  | .unexpectedColon => "a colon is not allowed here"
  | .tabIndentation => "a tab cannot indent a line"
  | .unexpectedDocumentMark => "a document mark is not allowed inside quotes"
  | .unclosedQuote => "a quoted text has no end"
  | .unknownEscape => "no such escape sequence"
  | .badHexDigit => "an escape sequence needs a hexadecimal digit here"
  | .badCodePoint => "an escape sequence names no character"
  | .zeroIndentation => "an indentation must not be zero"
  | .trailingText => "only a comment can follow here"
  | .badName => "a name must consist of letters and digits"
  | .badTag => "a tag is malformed"
  | .unknownDirective => "no such directive"
  | .repeatedDirective => "a directive is repeated"
  | .unsupportedVersion => "this version of YAML is not supported"
  | .unknownTagHandle => "a tag handle was not declared"
  | .expectedDocumentStart => "a document must start here"
  | .expectedNode => "a value must stand here"
  | .expectedEntry => "a sequence entry must stand here"
  | .expectedKey => "a mapping key must stand here"
  | .expectedComma => "a comma or a closing bracket must stand here"
  | .unknownAlias => "an alias names no anchor"
  | .manyDocuments => "there is more than one document"
  | .endOfStream => "the document ends too early"

/-- A problem and where it was noticed. -/
structure SyntaxError where
  problem : Problem
  mark : Mark
  deriving DecidableEq, Repr, Inhabited

/-- The place of a mark in words; lines and columns are counted from one. -/
def Mark.text (mark : Mark) : String :=
  "line " ++ toString (mark.line + 1) ++ " column " ++ toString (mark.column + 1)

/-- The sentence that describes a syntax error. -/
def SyntaxError.message (error : SyntaxError) : String :=
  error.problem.text ++ " at " ++ error.mark.text

/-! ## Characters -/

/-- Whether a character ends a line. -/
def isBreak (c : Char) : Bool :=
  c = '\n' || c = '\r' || c = '\u0085' || c = '\u2028' || c = '\u2029'

/-- Whether a character separates tokens within a line. -/
def isSpace (c : Char) : Bool :=
  c = ' ' || c = '\t'

/-- Whether a character separates tokens. -/
def isGap (c : Char) : Bool :=
  isSpace c || isBreak c

/-- Whether the next character, if there is one, separates tokens. -/
def endsToken (next : Option Char) : Bool :=
  next.all isGap

/-- Whether a character can stand in a name. -/
def isNameChar (c : Char) : Bool :=
  c.isAlphanum || c = '_' || c = '-'

/-- Whether a character can stand in a YAML text at all. -/
def isAllowed (c : Char) : Bool :=
  let n := c.toNat
  n == 0x9 || n == 0xA || n == 0xD || (0x20 ≤ n && n ≤ 0x7E) || n == 0x85
    || (0xA0 ≤ n && n ≤ 0xD7FF) || (0xE000 ≤ n && n ≤ 0xFFFD) || 0x10000 ≤ n

/-- A mark that some editors write in front of a text.  It has no meaning at the start of a line,
but takes a column there. -/
def byteOrderMark : Char := '\uFEFF'

/-! ## Portions -/

/-- The number of bytes of a portion. -/
def portionSize : Nat := 16384

/-- The number of characters in front of the first portion that cannot be read.  So far, `count`
characters were seen, `start` of them in front of the portion at hand, which holds `filled` bytes
of the others. -/
def cutLength? (start filled count : Nat) : List Char → Option Nat
  | [] => none
  | c :: rest =>
    let isNew := portionSize < filled + c.utf8Size
    let start := if isNew then count else start
    let filled := if isNew then 0 else filled
    if isAllowed c then cutLength? start (filled + c.utf8Size) (count + 1) rest else some start

/-! ## Cursors -/

/-- The text still to be read, and the place where it starts. -/
structure Cursor where
  rest : List Char
  mark : Mark := {}
  /-- Whether the text goes on behind its last character, but cannot be read there. -/
  isCut : Bool := false
  /-- The number of characters of the whole text, a bound for the steps of a reader. -/
  size : Nat := rest.length
  deriving Inhabited

namespace Cursor

/-- The start of a text. -/
def ofString (text : String) : Cursor :=
  match cutLength? 0 0 0 text.toList with
  | none => { rest := text.toList }
  | some length => { rest := text.toList.take length, isCut := true }

/-- The next character. -/
def peek (cursor : Cursor) : Option Char := cursor.rest.head?

/-- The character `n` places ahead. -/
def peekAt (cursor : Cursor) (n : Nat) : Option Char := cursor.rest[n]?

/-- Whether the next character is `c`. -/
def isAt (cursor : Cursor) (c : Char) : Bool := cursor.peek = some c

/-- The number of bytes of the next `n` characters. -/
def bytesAhead (cursor : Cursor) (n : Nat) : Nat :=
  (cursor.rest.take n).foldl (fun bytes c => bytes + c.utf8Size) 0

/-- Skips `n` characters of one line. -/
def advance (cursor : Cursor) (n : Nat := 1) : Cursor :=
  { cursor with
    rest := cursor.rest.drop n
    mark := { cursor.mark with
      index := cursor.mark.index + cursor.bytesAhead n
      column := cursor.mark.column + n } }

/-- Skips the characters in front that have a property. -/
def skipWhile (cursor : Cursor) (p : Char → Bool) : Cursor :=
  cursor.advance (cursor.rest.takeWhile p).length

/-- The start of the line after a line end of `n` characters. -/
def nextLine (cursor : Cursor) (n : Nat) : Cursor :=
  { cursor with
    rest := cursor.rest.drop n
    mark := {
      index := cursor.mark.index + cursor.bytesAhead n
      line := cursor.mark.line + 1
      column := 0 } }

/-- Reads a line end: the text it stands for, and the cursor after it. -/
def lineBreak? (cursor : Cursor) : Option (List Char × Cursor) :=
  match cursor.rest with
  | '\r' :: '\n' :: _ => some (['\n'], cursor.nextLine 2)
  | '\r' :: _ | '\n' :: _ | '\u0085' :: _ => some (['\n'], cursor.nextLine 1)
  | c :: _ => if isBreak c then some ([c], cursor.nextLine 1) else none
  | [] => none

/-- Reads a line end if there is one. -/
def skipBreak (cursor : Cursor) : Cursor :=
  match cursor.lineBreak? with
  | some (_, cursor) => cursor
  | none => cursor

/-- Whether `---` or `...` stands alone at the start of the line. -/
def isAtDocumentMark (cursor : Cursor) : Bool :=
  cursor.mark.column = 0
    && (cursor.rest.take 3 = ['-', '-', '-'] || cursor.rest.take 3 = ['.', '.', '.'])
    && endsToken (cursor.peekAt 3)

/-- The error of a problem at this place. -/
def fail {α : Type} (cursor : Cursor) (problem : Problem) : Except SyntaxError α :=
  .error ⟨problem, cursor.mark⟩

/-- Makes sure that the next `n` characters, or all that there are, can be read. -/
def require (cursor : Cursor) (n : Nat) : Except SyntaxError Unit :=
  if cursor.isCut && (cursor.rest.drop (n - 1)).isEmpty then cursor.fail .controlCharacter
  else .ok ()

end Cursor

end SchemaUpgrade.Yaml
