import SchemaUpgrade.Yaml.Scalar
/-!
# From YAML text to tokens

`Tokens` is a text that is being read token by token.  Some tokens are known late: only the colon
after a scalar shows that the scalar was a key, and then a key token, perhaps with the start of a
block mapping, belongs in front of it.  So tokens wait in a queue as long as the first of them may
still turn out to start a key.

A place where a simple key may start is a `Candidate`.  There is at most one for each flow
collection that is open, and one outside of all of them.  A candidate is given up at the end of its
line, or 1024 bytes on; where only a key could stand, giving it up is an error.

## Main definitions

* `Tokens.peek`: the next token, and the tokens with that token still in front.
* `Tokens.skip`: the tokens after the next one.
-/

namespace SchemaUpgrade.Yaml

/-- A place where a simple key may start. -/
structure Candidate where
  /-- The number of flow collections that are open around it. -/
  depth : Nat
  /-- Whether only a key can stand here. -/
  isRequired : Bool
  /-- The number of the token that would be the key. -/
  number : Nat
  mark : Mark
  deriving DecidableEq, Repr, Inhabited

/-- A text that is being read token by token. -/
structure Tokens where
  cursor : Cursor
  /-- The flow collections that are open. -/
  flowDepth : Nat := 0
  /-- The column of the innermost block collection; -1 outside of all. -/
  indent : Int := -1
  /-- The columns of the block collections around it. -/
  outerIndents : List Int := []
  /-- Whether a simple key may start here. -/
  keyAllowed : Bool := true
  /-- The candidates, innermost and thus youngest first, at most one of each depth. -/
  candidates : List Candidate := []
  /-- The tokens that wait. -/
  queue : List Token := []
  /-- The number of the first token of the queue. -/
  taken : Nat := 0
  deriving Inhabited

namespace Tokens

/-- Answers of steps that may find a syntax error. -/
abbrev Attempt (α : Type) := Except SyntaxError α

/-! ## The queue -/

/-- Appends a token to the queue. -/
def push (tokens : Tokens) (token : Token) : Tokens :=
  { tokens with queue := tokens.queue ++ [token] }

/-- Puts a token in front of the waiting token with the given number. -/
def insert (tokens : Tokens) (number : Nat) (token : Token) : Tokens :=
  let place := number - tokens.taken
  { tokens with queue := tokens.queue.take place ++ token :: tokens.queue.drop place }

/-- Reads a token of `n` characters. -/
def pushMark (tokens : Tokens) (kind : TokenKind) (n : Nat) : Tokens :=
  let cursor := tokens.cursor.advance n
  { tokens with cursor := cursor }.push ⟨kind, tokens.cursor.mark, cursor.mark⟩

/-! ## Candidates for simple keys -/

/-- The candidate of the innermost collection, and those of the collections around it. -/
def candidate? (tokens : Tokens) : Option (Candidate × List Candidate) :=
  match tokens.candidates with
  | candidate :: rest => if candidate.depth = tokens.flowDepth then some (candidate, rest) else none
  | [] => none

/-- Gives up the candidate of the innermost collection. -/
def dropCandidate (tokens : Tokens) : Attempt Tokens :=
  match tokens.candidate? with
  | some (candidate, rest) =>
    if candidate.isRequired then tokens.cursor.fail .missingColon
    else .ok { tokens with candidates := rest }
  | none => .ok tokens

/-- Makes this place a candidate if a simple key may start here. -/
def addCandidate (tokens : Tokens) : Attempt Tokens := do
  if tokens.keyAllowed then
    let tokens ← tokens.dropCandidate
    let candidate : Candidate := {
      depth := tokens.flowDepth
      isRequired := tokens.flowDepth = 0 && tokens.indent = (tokens.cursor.mark.column : Int)
      number := tokens.taken + tokens.queue.length
      mark := tokens.cursor.mark }
    return { tokens with candidates := candidate :: tokens.candidates }
  else return tokens

/-- Whether a candidate is too far away to become a key. -/
def isStale (here : Mark) (candidate : Candidate) : Bool :=
  candidate.mark.line < here.line || candidate.mark.index + 1024 < here.index

/-- Gives up the candidates that are too far away.  Only the oldest can be required, since the
others stand in flow collections. -/
def dropStale (tokens : Tokens) : Attempt Tokens :=
  let here := tokens.cursor.mark
  match tokens.candidates.getLast? with
  | none => .ok tokens
  | some oldest =>
    if !isStale here oldest then .ok tokens
    else if oldest.isRequired then tokens.cursor.fail .missingColon
    else .ok { tokens with
      candidates := tokens.candidates.takeWhile fun candidate => !isStale here candidate }

/-! ## Indentation -/

/-- Opens a block collection at a column right of the innermost one.  Its token goes in front of
the waiting token with the given number, or to the end of the queue. -/
def indentTo (tokens : Tokens) (number : Option Nat) (kind : TokenKind) (mark : Mark) : Tokens :=
  if tokens.flowDepth = 0 && tokens.indent < (mark.column : Int) then
    let opened : Tokens := { tokens with
      indent := mark.column
      outerIndents := tokens.indent :: tokens.outerIndents }
    match number with
    | some number => opened.insert number (.bare kind mark)
    | none => opened.push (.bare kind mark)
  else tokens

/-- Closes the block collections right of a column, given the columns around them: the innermost
that stays open, those around it, and the number of those that were closed, `closed` of them
before. -/
def closeBlocks (column indent : Int) (closed : Nat) : List Int → Int × List Int × Nat
  | [] => (indent, [], closed)
  | outer :: rest =>
    if column < indent then closeBlocks column outer (closed + 1) rest
    else (indent, outer :: rest, closed)

/-- Closes the block collections right of a column. -/
def unindentTo (tokens : Tokens) (column : Int) : Tokens :=
  if tokens.flowDepth = 0 then
    let (indent, outers, closed) := closeBlocks column tokens.indent 0 tokens.outerIndents
    let closing := List.replicate closed (Token.bare .blockEnd tokens.cursor.mark)
    { tokens with indent := indent, outerIndents := outers, queue := tokens.queue ++ closing }
  else tokens

/-! ## Between tokens -/

/-- Skips white space, comments and line ends, and a byte order mark in front of a line. -/
def skipGap : (fuel : Nat) → Tokens → Tokens
  | 0, tokens => tokens
  | fuel + 1, tokens =>
    let start := tokens.cursor
    let start := if start.mark.column = 0 && start.isAt byteOrderMark then start.advance else start
    let tabs := 0 < tokens.flowDepth || !tokens.keyAllowed
    let cursor := start.skipWhile fun c => c = ' ' || (tabs && c = '\t')
    let cursor := if cursor.isAt '#' then cursor.skipWhile (fun c => !isBreak c) else cursor
    match cursor.lineBreak? with
    | some (_, next) =>
      skipGap fuel { tokens with
        cursor := next, keyAllowed := tokens.keyAllowed || tokens.flowDepth = 0 }
    | none => { tokens with cursor := cursor }

/-! ## Directives -/

/-- Reads a decimal number. -/
def readNumber (cursor : Cursor) : Attempt (Nat × Cursor) :=
  let digits := cursor.rest.takeWhile Char.isDigit
  if digits.isEmpty || 9 < digits.length then cursor.fail .unknownDirective
  else .ok (digits.foldl (fun n c => n * 10 + (c.toNat - '0'.toNat)) 0,
    cursor.advance digits.length)

/-- Reads the handle of a tag: `!`, `!!` or `!name!`.  Outside of directives the name need not be
closed. -/
def readTagHandle (inDirective : Bool) (cursor : Cursor) : Attempt (List Char × Cursor) :=
  if !cursor.isAt '!' then cursor.fail .badTag
  else
    let name := cursor.advance.rest.takeWhile isNameChar
    let after := cursor.advance (name.length + 1)
    if after.isAt '!' then .ok ('!' :: name ++ ['!'], after.advance)
    else if inDirective && !name.isEmpty then cursor.fail .badTag
    else .ok ('!' :: name, after)

/-- Whether a character can stand in a tag; more can inside angle brackets. -/
def isTagChar (bracketed : Bool) (c : Char) : Bool :=
  isNameChar c || c ∈ [';', '/', '?', ':', '@', '&', '=', '+', '$', '.', '%', '!', '~', '*', '\'',
    '(', ')'] || (bracketed && (c = ',' || c = '[' || c = ']'))

/-- Reads the characters of a tag, escapes included, in addition to the bytes read so far.  All
bytes are in reverse order. -/
def readTagBytes (bracketed : Bool) : (fuel : Nat) → List UInt8 → Cursor →
    Attempt (List UInt8 × Cursor)
  | 0, bytes, cursor => .ok (bytes, cursor)
  | fuel + 1, bytes, cursor =>
    match cursor.peek with
    | none => .ok (bytes, cursor)
    | some c =>
      if !isTagChar bracketed c then .ok (bytes, cursor)
      else if c = '%' then
        match escapedBytes? cursor.rest with
        | some escaped =>
          readTagBytes bracketed fuel (escaped.reverse ++ bytes)
            (cursor.advance (3 * escaped.length))
        | none => cursor.fail .badTag
      else readTagBytes bracketed fuel (Tag.byteOf c :: bytes) cursor.advance

/-- Reads the rest of a tag after `front`, whose exclamation mark is left out; the tag must not be
empty. -/
def readTagRest (bracketed : Bool) (front : List Char) (cursor : Cursor) :
    Attempt (Tag × Cursor) := do
  let (bytes, after) ←
    readTagBytes bracketed (cursor.size + 1) ((front.drop 1).map Tag.byteOf).reverse cursor
  if front.isEmpty && after.mark.index = cursor.mark.index then cursor.fail .badTag
  return (Tag.ofBytes bytes.reverse, after)

/-- Reads the directive at the cursor, without its line end. -/
def readDirective (cursor : Cursor) : Attempt (TokenKind × Cursor) := do
  let name := cursor.advance.rest.takeWhile isNameChar
  let after := cursor.advance (name.length + 1)
  if name.isEmpty || !endsToken after.peek then cursor.fail .unknownDirective
  let value := after.skipWhile isSpace
  if name = ['Y', 'A', 'M', 'L'] then
    let (major, cursor) ← readNumber value
    if !cursor.isAt '.' then cursor.fail .unknownDirective
    let (minor, cursor) ← readNumber cursor.advance
    return (.versionDirective major minor, cursor)
  else if name = ['T', 'A', 'G'] then
    let (handle, cursor) ← readTagHandle true value
    if !cursor.peek.any isSpace then cursor.fail .badTag
    let (front, cursor) ← readTagRest true [] (cursor.skipWhile isSpace)
    if !endsToken cursor.peek then cursor.fail .badTag
    return (.tagDirective (String.ofList handle) front, cursor)
  else cursor.fail .unknownDirective

/-- Reads a directive line. -/
def fetchDirective (tokens : Tokens) : Attempt Tokens := do
  let tokens ← (tokens.unindentTo (-1)).dropCandidate
  let start := tokens.cursor.mark
  let (kind, cursor) ← readDirective tokens.cursor
  let stop := cursor.mark
  let cursor := cursor.skipWhile isSpace
  let cursor := if cursor.isAt '#' then cursor.skipWhile (fun c => !isBreak c) else cursor
  if cursor.peek.any (fun c => !isBreak c) then cursor.fail .trailingText
  return { tokens with cursor := cursor.skipBreak, keyAllowed := false }.push ⟨kind, start, stop⟩

/-! ## One token after another -/

/-- Reads `---` or `...`. -/
def fetchDocumentMark (tokens : Tokens) (kind : TokenKind) : Attempt Tokens := do
  let tokens ← (tokens.unindentTo (-1)).dropCandidate
  return { tokens with keyAllowed := false }.pushMark kind 3

/-- Ends the text. -/
def fetchStreamEnd (tokens : Tokens) : Attempt Tokens := do
  let mark := tokens.cursor.mark
  let mark := if mark.column = 0 then mark else { mark with line := mark.line + 1, column := 0 }
  let tokens := { tokens with cursor := { tokens.cursor with mark := mark } }
  let tokens ← (tokens.unindentTo (-1)).dropCandidate
  return { tokens with keyAllowed := false }.push (.bare .streamEnd mark)

/-- Reads `[` or an opening brace. -/
def fetchFlowStart (tokens : Tokens) (kind : TokenKind) : Attempt Tokens := do
  let tokens ← tokens.addCandidate
  return { tokens with flowDepth := tokens.flowDepth + 1, keyAllowed := true }.pushMark kind 1

/-- Reads `]` or a closing brace. -/
def fetchFlowEnd (tokens : Tokens) (kind : TokenKind) : Attempt Tokens := do
  let tokens ← tokens.dropCandidate
  return { tokens with flowDepth := tokens.flowDepth - 1, keyAllowed := false }.pushMark kind 1

/-- Reads `,`. -/
def fetchFlowEntry (tokens : Tokens) : Attempt Tokens := do
  let tokens ← tokens.dropCandidate
  return { tokens with keyAllowed := true }.pushMark .flowEntry 1

/-- Reads `-`. -/
def fetchBlockEntry (tokens : Tokens) : Attempt Tokens := do
  if tokens.flowDepth = 0 && !tokens.keyAllowed then tokens.cursor.fail .entryNotAllowed
  let tokens ← (tokens.indentTo none .blockSequenceStart tokens.cursor.mark).dropCandidate
  return { tokens with keyAllowed := true }.pushMark .blockEntry 1

/-- Reads `?`. -/
def fetchKey (tokens : Tokens) : Attempt Tokens := do
  if tokens.flowDepth = 0 && !tokens.keyAllowed then tokens.cursor.fail .keyNotAllowed
  let tokens ← (tokens.indentTo none .blockMappingStart tokens.cursor.mark).dropCandidate
  return { tokens with keyAllowed := tokens.flowDepth = 0 }.pushMark .key 1

/-- Reads `:`, which makes the innermost candidate a key. -/
def fetchValue (tokens : Tokens) : Attempt Tokens :=
  match tokens.candidate? with
  | some (candidate, rest) =>
    let tokens := tokens.insert candidate.number (.bare .key candidate.mark)
    let tokens := tokens.indentTo (some candidate.number) .blockMappingStart candidate.mark
    .ok ({ tokens with candidates := rest, keyAllowed := false }.pushMark .value 1)
  | none =>
    if tokens.flowDepth = 0 && !tokens.keyAllowed then tokens.cursor.fail .valueNotAllowed
    else
      let tokens := tokens.indentTo none .blockMappingStart tokens.cursor.mark
      .ok ({ tokens with keyAllowed := tokens.flowDepth = 0 }.pushMark .value 1)

/-- Whether a character can follow the name of an anchor or an alias. -/
def endsName (next : Option Char) : Bool :=
  endsToken next || next.any (· ∈ ['?', ':', ',', ']', '\x7d', '%', '@', '\x60'])

/-- Reads an anchor or an alias. -/
def fetchName (tokens : Tokens) (kind : String → TokenKind) : Attempt Tokens := do
  let tokens ← tokens.addCandidate
  let name := tokens.cursor.advance.rest.takeWhile isNameChar
  let after := tokens.cursor.advance (name.length + 1)
  if name.isEmpty || !endsName after.peek then tokens.cursor.fail .badName
  return { tokens with keyAllowed := false }.pushMark (kind (String.ofList name)) (name.length + 1)

/-- Reads the handle and the suffix of a tag. -/
def readTag (cursor : Cursor) : Attempt (List Char × Tag × Cursor) := do
  if cursor.peekAt 1 = some '<' then
    let (suffix, cursor) ← readTagRest true [] (cursor.advance 2)
    if !cursor.isAt '>' then cursor.fail .badTag
    return ([], suffix, cursor.advance)
  else
    let (handle, after) ← readTagHandle false cursor
    if 1 < handle.length && handle.getLast? = some '!' then
      let (suffix, cursor) ← readTagRest false [] after
      return (handle, suffix, cursor)
    else
      let (suffix, cursor) ← readTagRest false handle after
      if suffix.bytes.isEmpty then return ([], Tag.bare, cursor)
      return (['!'], suffix, cursor)

/-- Reads a tag. -/
def fetchTag (tokens : Tokens) : Attempt Tokens := do
  let tokens ← tokens.addCandidate
  let start := tokens.cursor.mark
  let (handle, suffix, cursor) ← readTag tokens.cursor
  if !endsToken cursor.peek && !(0 < tokens.flowDepth && cursor.isAt ',') then
    cursor.fail .badTag
  return { tokens with cursor := cursor, keyAllowed := false }.push
    ⟨.tag (String.ofList handle) suffix, start, cursor.mark⟩

/-- Appends the token of a scalar that was read. -/
def pushScalar (tokens : Tokens) (style : ScalarStyle) (scalar : ReadScalar) : Tokens :=
  { tokens with cursor := scalar.cursor }.push
    ⟨.scalar (String.ofList scalar.text.reverse) style, tokens.cursor.mark, scalar.stop⟩

/-- Reads a block scalar. -/
def fetchBlockScalar (tokens : Tokens) (style : ScalarStyle) : Attempt Tokens := do
  let tokens ← tokens.dropCandidate
  let scalar ← readBlock (style = .literal) tokens.indent tokens.cursor
  return { tokens with keyAllowed := true }.pushScalar style scalar

/-- Reads a quoted scalar. -/
def fetchQuoted (tokens : Tokens) (style : ScalarStyle) : Attempt Tokens := do
  let tokens ← tokens.addCandidate
  let scalar ← readQuoted (style = .singleQuoted) tokens.cursor
  return { tokens with keyAllowed := false }.pushScalar style scalar

/-- Reads a plain scalar. -/
def fetchPlain (tokens : Tokens) : Attempt Tokens := do
  let tokens ← tokens.addCandidate
  let scalar ← readPlain (0 < tokens.flowDepth) (tokens.indent + 1) tokens.cursor
  return { tokens with keyAllowed := scalar.brokeAfter }.pushScalar .plain scalar

/-- Whether a plain scalar can start with this character, given the one after it. -/
def startsPlain (inFlow : Bool) (c : Char) (next : Option Char) : Bool :=
  !(isGap c || c ∈ ['-', '?', ':', ',', '[', ']', '\x7b', '\x7d', '#', '&', '*', '!', '|', '>',
    '\'', '"', '%', '@', '\x60'])
    || (c = '-' && !next.any isSpace)
    || (!inFlow && (c = '?' || c = ':') && !endsToken next)

/-- Reads the token at the cursor into the queue. -/
def fetchHere (tokens : Tokens) : Attempt Tokens :=
  let cursor := tokens.cursor
  let inFlow : Bool := 0 < tokens.flowDepth
  match cursor.peek with
  | none => tokens.fetchStreamEnd
  | some c =>
    let next := cursor.peekAt 1
    if cursor.mark.column = 0 && c = '%' then tokens.fetchDirective
    else if cursor.isAtDocumentMark then
      tokens.fetchDocumentMark (if c = '-' then .documentStart else .documentEnd)
    else if c = '[' then tokens.fetchFlowStart .flowSequenceStart
    else if c = '\x7b' then tokens.fetchFlowStart .flowMappingStart
    else if c = ']' then tokens.fetchFlowEnd .flowSequenceEnd
    else if c = '\x7d' then tokens.fetchFlowEnd .flowMappingEnd
    else if c = ',' then tokens.fetchFlowEntry
    else if c = '-' && endsToken next then tokens.fetchBlockEntry
    else if c = '?' && (inFlow || endsToken next) then tokens.fetchKey
    else if c = ':' && (inFlow || endsToken next) then tokens.fetchValue
    else if c = '*' then tokens.fetchName .alias
    else if c = '&' then tokens.fetchName .anchor
    else if c = '!' then tokens.fetchTag
    else if c = '|' && !inFlow then tokens.fetchBlockScalar .literal
    else if c = '>' && !inFlow then tokens.fetchBlockScalar .folded
    else if c = '\'' then tokens.fetchQuoted .singleQuoted
    else if c = '"' then tokens.fetchQuoted .doubleQuoted
    else if startsPlain inFlow c next then tokens.fetchPlain
    else cursor.fail .unknownStart

/-- Reads the next token into the queue. -/
def fetch (tokens : Tokens) : Attempt Tokens := do
  let tokens ← (skipGap (tokens.cursor.size + 1) tokens).dropStale
  let tokens := tokens.unindentTo tokens.cursor.mark.column
  tokens.cursor.require 4
  let tokens ← tokens.fetchHere
  tokens.cursor.require 1
  return tokens

/-! ## Taking tokens -/

/-- Whether the first token of the queue may still turn out to start a key.  The oldest candidate is
the one whose token comes first. -/
def headMayBeKey (tokens : Tokens) : Bool :=
  tokens.candidates.getLast?.any fun candidate => candidate.number = tokens.taken

/-- Reads on until the first token of the queue is certain. -/
def settle : (fuel : Nat) → Tokens → Attempt Tokens
  | 0, tokens => .ok tokens
  | fuel + 1, tokens => do
    if tokens.queue.isEmpty then settle fuel (← tokens.fetch)
    else
      let tokens ← tokens.dropStale
      if tokens.headMayBeKey then settle fuel (← tokens.fetch) else return tokens

/-- The next token, which stays in front of the queue. -/
def peek (tokens : Tokens) : Attempt (Token × Tokens) := do
  let tokens ← settle (tokens.cursor.size + 2) tokens
  match tokens.queue with
  | token :: _ => return (token, tokens)
  | [] => return (.bare .streamEnd tokens.cursor.mark, tokens)

/-- The tokens after the first of the queue. -/
def skip (tokens : Tokens) : Tokens :=
  { tokens with queue := tokens.queue.drop 1, taken := tokens.taken + 1 }

/-- A text from its start. -/
def ofString (text : String) : Tokens :=
  { cursor := .ofString text }

end Tokens

end SchemaUpgrade.Yaml
