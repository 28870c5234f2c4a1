import SchemaUpgrade.Yaml.Token
/-!
# Scalars in a YAML text

The three ways to write a scalar: plain, in quotes, and as an indented block.  Plain and quoted
scalars may go on over several lines; a single line end is then read as a space, and each further
one as a line feed.  A literal block keeps its line ends, a folded block folds those between two
lines that are not indented further.

Each reader takes a cursor at the scalar and answers its text and the cursor after it.  While a text
is being read, it is kept in reverse order, the last character first.
-/

namespace SchemaUpgrade.Yaml

/-! ## The gap between two words -/

/-- What stands between two words of a scalar, in reverse order. -/
structure WordGap where
  /-- The white space, as long as the line goes on. -/
  spaces : List Char := []
  /-- Whether a line ended. -/
  broke : Bool := false
  /-- The first line end. -/
  first : List Char := []
  /-- The line ends after it. -/
  more : List Char := []
  deriving Inhabited

/-- The text that a gap stands for, in reverse order. -/
def WordGap.text (gap : WordGap) : List Char :=
  if !gap.broke then gap.spaces
  else if gap.first = ['\n'] then (if gap.more.isEmpty then [' '] else gap.more)
  else gap.more ++ gap.first

/-- Reads white space and line ends.  After a line end, no tab may stand left of `minColumn`. -/
def readGap (minColumn : Int) : (fuel : Nat) → WordGap → Cursor →
    Except SyntaxError (WordGap × Cursor)
  | 0, gap, cursor => .ok (gap, cursor)
  | fuel + 1, gap, cursor =>
    match cursor.peek with
    | none => .ok (gap, cursor)
    | some c =>
      if isSpace c then
        if gap.broke then
          if (cursor.mark.column : Int) < minColumn && c = '\t' then cursor.fail .tabIndentation
          else readGap minColumn fuel gap cursor.advance
        else readGap minColumn fuel { gap with spaces := c :: gap.spaces } cursor.advance
      else match cursor.lineBreak? with
        | none => .ok (gap, cursor)
        | some (text, next) =>
          if gap.broke then readGap minColumn fuel { gap with more := text ++ gap.more } next
          else readGap minColumn fuel { broke := true, first := text } next

/-! ## Plain scalars -/

/-- Whether a character structures flow collections. -/
def isFlowMark (c : Char) : Bool :=
  c = ',' || c = '[' || c = ']' || c = '\x7b' || c = '\x7d'

/-- The next word of a plain scalar, in reverse order and in addition to what was read of it: the
characters up to a gap, a colon in front of one, or, inside a flow collection, a character that
structures it.  There a colon just in front of such a character, or of a question mark, is an
error. -/
def plainWord (inFlow : Bool) (word : List Char) : List Char → Option (List Char)
  | [] => some word
  | c :: rest =>
    if isGap c then some word
    else if inFlow && c = ':' && rest.head?.any (fun d => isFlowMark d || d = '?') then none
    else if c = ':' && endsToken rest.head? then some word
    else if inFlow && isFlowMark c then some word
    else plainWord inFlow (c :: word) rest

/-- A scalar that was read. -/
structure ReadScalar where
  /-- The text, in reverse order. -/
  text : List Char
  /-- Where the scalar ends. -/
  stop : Mark
  /-- Where reading goes on. -/
  cursor : Cursor
  /-- Whether a line end was read after the last word. -/
  brokeAfter : Bool := false
  deriving Inhabited

/-- Reads the words of a plain scalar that must not stand left of `minColumn`. -/
def readPlainWords (inFlow : Bool) (minColumn : Int) : (fuel : Nat) → ReadScalar → WordGap →
    Except SyntaxError ReadScalar
  | 0, scalar, _ => .ok scalar
  | fuel + 1, scalar, gap => do
    let cursor := scalar.cursor
    let scalar := { scalar with brokeAfter := gap.broke }
    cursor.require 4
    if cursor.isAtDocumentMark || cursor.isAt '#' then return scalar
    match plainWord inFlow [] cursor.rest with
    | none => cursor.fail .unexpectedColon
    | some [] => return scalar
    | some word =>
      let cursor := cursor.advance word.length
      cursor.require 2
      let scalar : ReadScalar :=
        { text := word ++ (gap.text ++ scalar.text), stop := cursor.mark, cursor := cursor }
      if !cursor.peek.any isGap then return scalar
      let (gap, cursor) ← readGap minColumn cursor.size {} cursor
      let scalar := { scalar with cursor := cursor, brokeAfter := gap.broke }
      if !inFlow && (cursor.mark.column : Int) < minColumn then return scalar
      readPlainWords inFlow minColumn fuel scalar gap

/-- Reads a plain scalar. -/
def readPlain (inFlow : Bool) (minColumn : Int) (cursor : Cursor) :
    Except SyntaxError ReadScalar :=
  readPlainWords inFlow minColumn (cursor.size + 1)
    { text := [], stop := cursor.mark, cursor := cursor } {}

/-! ## Quoted scalars -/

/-- The character that a backslash and a character stand for. -/
def simpleEscape? : Char → Option Char
  | '0' => some '\x00'
  | 'a' => some '\x07'
  | 'b' => some '\x08'
  | 't' => some '\t'
  | '\t' => some '\t'
  | 'n' => some '\n'
  | 'v' => some '\x0b'
  | 'f' => some '\x0c'
  | 'r' => some '\r'
  | 'e' => some '\x1b'
  | ' ' => some ' '
  | '"' => some '"'
  | '/' => some '/'
  | '\\' => some '\\'
  | 'N' => some '\u0085'
  | '_' => some '\u00a0'
  | 'L' => some '\u2028'
  | 'P' => some '\u2029'
  | _ => none

/-- The number of hexadecimal digits that follow a backslash and a character. -/
def hexEscapeLength? : Char → Option Nat
  | 'x' => some 2
  | 'u' => some 4
  | 'U' => some 8
  | _ => none

/-- The value of hexadecimal digits, most significant first. -/
def hexNumber? (digits : List Char) : Option Nat :=
  digits.foldlM (fun value c => (hexValue? c).map (value * 16 + ·)) 0

/-- Reads an escape sequence, with the cursor at its backslash. -/
def readEscape (cursor : Cursor) : Except SyntaxError (Char × Cursor) :=
  match cursor.peekAt 1 with
  | none => cursor.fail .unknownEscape
  | some c =>
    match simpleEscape? c, hexEscapeLength? c with
    | some plain, _ => .ok (plain, cursor.advance 2)
    | none, none => cursor.fail .unknownEscape
    | none, some length =>
      let digits := (cursor.rest.drop 2).take length
      if digits.length < length then cursor.fail .badHexDigit
      else match hexNumber? digits with
        | none => cursor.fail .badHexDigit
        | some value =>
          if h : value.isValidChar then
            .ok (Char.ofNatAux value h, cursor.advance (2 + length))
          else cursor.fail .badCodePoint

/-- Reads the next word of a quoted scalar, in addition to the text in front of it: up to a gap, the
closing quote or an escaped line end.  Answers also whether a line end was escaped. -/
def readQuotedWord (single : Bool) : (fuel : Nat) → List Char → Cursor →
    Except SyntaxError (List Char × Bool × Cursor)
  | 0, text, cursor => .ok (text, false, cursor)
  | fuel + 1, text, cursor =>
    match cursor.peek with
    | none => .ok (text, false, cursor)
    | some c =>
      if isGap c then .ok (text, false, cursor)
      else if single && c = '\'' && cursor.peekAt 1 = some '\'' then
        readQuotedWord single fuel ('\'' :: text) (cursor.advance 2)
      else if c = (if single then '\'' else '"') then .ok (text, false, cursor)
      else if !single && c = '\\' then
        if (cursor.peekAt 1).any isBreak then .ok (text, true, cursor.advance.skipBreak)
        else match readEscape cursor with
          | .error error => .error error
          | .ok (plain, cursor) => readQuotedWord single fuel (plain :: text) cursor
      else readQuotedWord single fuel (c :: text) cursor.advance

/-- Reads the words of a quoted scalar up to the closing quote. -/
def readQuotedWords (single : Bool) : (fuel : Nat) → List Char → Cursor →
    Except SyntaxError ReadScalar
  | 0, _, cursor => cursor.fail .unclosedQuote
  | fuel + 1, text, cursor => do
    cursor.require 4
    if cursor.isAtDocumentMark then cursor.fail .unexpectedDocumentMark
    if cursor.rest.isEmpty then cursor.fail .unclosedQuote
    let (text, escapedBreak, cursor) ← readQuotedWord single cursor.size text cursor
    if cursor.isAt (if single then '\'' else '"') then
      return { text := text, stop := cursor.advance.mark, cursor := cursor.advance }
    let (gap, cursor) ← readGap 0 cursor.size { broke := escapedBreak } cursor
    readQuotedWords single fuel (gap.text ++ text) cursor

/-- Reads a quoted scalar, with the cursor at its opening quote. -/
def readQuoted (single : Bool) (cursor : Cursor) : Except SyntaxError ReadScalar :=
  readQuotedWords single (cursor.size + 1) [] cursor.advance

/-! ## Block scalars -/

/-- What happens to the line ends at the end of a block scalar. -/
inductive Chomping where
  /-- None is kept. -/
  | strip
  /-- The first is kept. -/
  | clip
  /-- All are kept. -/
  | keep
  deriving DecidableEq, Repr, Inhabited

/-- The chomping that a character asks for. -/
def chomping? : Char → Option Chomping
  | '+' => some .keep
  | '-' => some .strip
  | _ => none

/-- Reads a chomping mark if there is one. -/
def readChomping (cursor : Cursor) : Option Chomping × Cursor :=
  match cursor.peek.bind chomping? with
  | some chomping => (some chomping, cursor.advance)
  | none => (none, cursor)

/-- Reads an indentation digit if there is one. -/
def readIndentation (cursor : Cursor) : Except SyntaxError (Option Nat × Cursor) :=
  match cursor.peek with
  | some c =>
    if c = '0' then cursor.fail .zeroIndentation
    else if c.isDigit then .ok (some (c.toNat - '0'.toNat), cursor.advance)
    else .ok (none, cursor)
  | none => .ok (none, cursor)

/-- Reads the marks of a block scalar, in either order. -/
def readBlockMarks (cursor : Cursor) :
    Except SyntaxError (Chomping × Option Nat × Cursor) := do
  match readChomping cursor with
  | (some chomping, cursor) =>
    let (indentation, cursor) ← readIndentation cursor
    return (chomping, indentation, cursor)
  | (none, cursor) =>
    let (indentation, cursor) ← readIndentation cursor
    match indentation with
    | none => return (.clip, none, cursor)
    | some _ =>
      let (chomping, cursor) := readChomping cursor
      return (chomping.getD .clip, indentation, cursor)

/-- Empty lines in a block scalar. -/
structure BlockBreaks where
  /-- Their line ends, in reverse order. -/
  text : List Char := []
  /-- The widest indentation met. -/
  widest : Nat := 0
  stop : Mark
  cursor : Cursor
  deriving Inhabited

/-- Reads indentation and empty lines.  Without a known indentation all spaces are skipped. -/
def readBlockBreaks (indentation : Option Nat) : (fuel : Nat) → BlockBreaks →
    Except SyntaxError BlockBreaks
  | 0, breaks => .ok breaks
  | fuel + 1, breaks =>
    let start := breaks.cursor
    let spaces := (start.rest.takeWhile (· = ' ')).length
    let cursor := start.advance <|
      match indentation with
      | none => spaces
      | some width => min spaces (width - start.mark.column)
    let breaks := { breaks with cursor := cursor, widest := max breaks.widest cursor.mark.column }
    if indentation.all (cursor.mark.column < ·) && cursor.isAt '\t' then
      cursor.fail .tabIndentation
    else match cursor.lineBreak? with
      | none => .ok breaks
      | some (text, next) =>
        readBlockBreaks indentation fuel
          { breaks with text := text ++ breaks.text, cursor := next, stop := next.mark }

/-- The state between two lines of a block scalar. -/
structure BlockLines where
  /-- The text, in reverse order, without the line ends below. -/
  text : List Char := []
  /-- The line end of the last line. -/
  lineEnd : List Char := []
  /-- The line ends of the empty lines after it, in reverse order. -/
  empty : List Char := []
  /-- Whether the last line started with white space. -/
  wasIndented : Bool := false
  stop : Mark
  cursor : Cursor
  deriving Inhabited

/-- Reads the lines of a block scalar that stand at column `width`. -/
def readBlockLines (isLiteral : Bool) (width : Nat) : (fuel : Nat) → BlockLines →
    Except SyntaxError BlockLines
  | 0, lines => .ok lines
  | fuel + 1, lines =>
    let cursor := lines.cursor
    if cursor.mark.column = width && !cursor.rest.isEmpty then
      let isIndented := cursor.peek.any isSpace
      let folds := !isLiteral && lines.lineEnd = ['\n'] && !lines.wasIndented && !isIndented
      let between :=
        if folds then (if lines.empty.isEmpty then [' '] else []) else lines.lineEnd
      let line := cursor.rest.takeWhile (fun c => !isBreak c)
      let text := line.reverse ++ (lines.empty ++ (between ++ lines.text))
      let cursor := cursor.advance line.length
      let (lineEnd, cursor) := (cursor.lineBreak?).getD ([], cursor)
      match readBlockBreaks (some width) (cursor.size + 1)
          { stop := cursor.mark, cursor := cursor } with
      | .error error => .error error
      | .ok breaks =>
        readBlockLines isLiteral width fuel
          { text := text, lineEnd := lineEnd, empty := breaks.text, wasIndented := isIndented
            stop := breaks.stop, cursor := breaks.cursor }
    else .ok lines

/-- Reads a block scalar inside a collection indented by `indent`, with the cursor at its first
mark. -/
def readBlock (isLiteral : Bool) (indent : Int) (cursor : Cursor) :
    Except SyntaxError ReadScalar := do
  let (chomping, increment, cursor) ← readBlockMarks cursor.advance
  let cursor := cursor.skipWhile isSpace
  let cursor := if cursor.isAt '#' then cursor.skipWhile (fun c => !isBreak c) else cursor
  if cursor.peek.any (fun c => !isBreak c) then cursor.fail .trailingText
  let cursor := cursor.skipBreak
  let known := increment.map fun n => (max indent 0).toNat + n
  let breaks ← readBlockBreaks known (cursor.size + 1)
    { stop := cursor.mark, cursor := cursor }
  let width := known.getD (max breaks.widest (max (indent + 1).toNat 1))
  let lines ← readBlockLines isLiteral width (breaks.cursor.size + 1)
    { empty := breaks.text, stop := breaks.stop, cursor := breaks.cursor }
  let kept := if chomping = .strip then [] else lines.lineEnd
  let trailing := if chomping = .keep then lines.empty else []
  return { text := trailing ++ (kept ++ lines.text), stop := lines.stop, cursor := lines.cursor }

end SchemaUpgrade.Yaml
