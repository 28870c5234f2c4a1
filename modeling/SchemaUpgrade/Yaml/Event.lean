import SchemaUpgrade.Yaml.Tokens
/-!
# YAML events

The structure of a YAML document, flattened: scalars and aliases, and the starts and ends of
sequences and mappings.  In a mapping, keys and values alternate.  A key or a value that is not
written is an empty plain scalar.

`Events` is a text that is being read event by event; `Events.next?` answers the next event.  What
may come next is a stack of `Expect`s: the innermost one says what is being read, and those below
say how to go on after it.
-/

namespace SchemaUpgrade.Yaml

/-- A scalar, as it is written. -/
structure Scalar where
  text : String
  style : ScalarStyle
  anchor : Option String := none
  tag : Option Tag := none
  deriving DecidableEq, Repr, Inhabited

/-- The start of a sequence or a mapping, as it is written. -/
structure Opening where
  anchor : Option String := none
  tag : Option Tag := none
  deriving DecidableEq, Repr, Inhabited

/-- What an event is. -/
inductive EventKind where
  | streamEnd
  | documentStart
  | documentEnd
  | alias (name : String)
  | scalar (scalar : Scalar)
  | sequenceStart (opening : Opening)
  | sequenceEnd
  | mappingStart (opening : Opening)
  | mappingEnd
  deriving DecidableEq, Repr, Inhabited

/-- An event and the place where it starts. -/
structure Event where
  kind : EventKind
  mark : Mark
  deriving DecidableEq, Repr, Inhabited

/-- An empty plain scalar at a place where nothing is written. -/
def Event.nothing (mark : Mark) : Event :=
  ⟨.scalar { text := "", style := .plain }, mark⟩

/-- What may come next. -/
inductive Expect where
  /-- A document; only the first may do without `---`. -/
  | document (isFirst : Bool)
  /-- The content of a document that was opened by `---`. -/
  | content
  /-- A value in block style, of a document that was not. -/
  | blockNode
  /-- The end of a document. -/
  | documentEnd
  | blockSequence (isFirst : Bool)
  /-- A block sequence that is not indented below its key. -/
  | indentlessSequence
  | blockKey (isFirst : Bool)
  | blockValue
  | flowSequence (isFirst : Bool)
  /-- The key of a mapping with a single entry inside a flow sequence. -/
  | singleKey
  | singleValue
  | singleEnd
  | flowKey (isFirst : Bool)
  | flowValue
  /-- The value of a key of a flow mapping that was written without a question mark or colon. -/
  | flowNoValue
  /-- Nothing: the text is read. -/
  | finished
  deriving DecidableEq, Repr, Inhabited

/-- A text that is being read event by event. -/
structure Events where
  tokens : Tokens
  expect : Expect := .document true
  /-- How to go on after what is expected. -/
  after : List Expect := []
  /-- The tag handles that the document declared, with what they stand for. -/
  handles : List (String × Tag) := []
  deriving Inhabited

namespace Events

open Tokens (Attempt)

/-- The tag handles that need no declaration. -/
def knownHandles : List (String × Tag) :=
  [("!", Tag.bare), ("!!", Tag.coreFront)]

/-- The next token. -/
def peek (events : Events) : Attempt (Token × Events) := do
  let (token, tokens) ← events.tokens.peek
  return (token, { events with tokens := tokens })

/-- The events after the next token. -/
def skip (events : Events) : Events :=
  { events with tokens := events.tokens.skip }

/-- Goes on with what comes after the thing that was expected. -/
def pop (events : Events) : Events :=
  match events.after with
  | expect :: after => { events with expect := expect, after := after }
  | [] => { events with expect := .finished }

/-- Goes on with `expect`. -/
def goTo (events : Events) (expect : Expect) : Events :=
  { events with expect := expect }

/-- Remembers how to go on later. -/
def later (events : Events) (expect : Expect) : Events :=
  { events with after := expect :: events.after }

/-- The error of a problem at a token. -/
def fail {α : Type} (token : Token) (problem : Problem) : Attempt α :=
  .error ⟨problem, token.start⟩

/-! ## Values -/

/-- The anchor and the tag in front of a value. -/
structure Properties where
  anchor : Option String := none
  tag : Option Tag := none
  /-- Where they start. -/
  start : Mark
  deriving Inhabited

/-- The tag that a handle and a suffix mean. -/
def resolveTag (events : Events) (token : Token) (handle : String) (suffix : Tag) :
    Attempt Tag :=
  if handle.isEmpty then .ok suffix
  else match events.handles.lookup handle with
    | some front => .ok (front.append suffix)
    | none => fail token .unknownTagHandle

/-- Reads an anchor and a tag, in either order, up to the next token. -/
def readProperties (events : Events) : Attempt (Properties × Token × Events) := do
  let (token, events) ← events.peek
  let start := token.start
  match token.kind with
  | .anchor name =>
    let (second, events) ← events.skip.peek
    match second.kind with
    | .tag handle suffix =>
      let (third, events) ← events.skip.peek
      let tag ← events.resolveTag second handle suffix
      return ({ anchor := some name, tag := some tag, start := start }, third, events)
    | _ => return ({ anchor := some name, start := start }, second, events)
  | .tag handle suffix =>
    let (second, events) ← events.skip.peek
    match second.kind with
    | .anchor name =>
      let (third, events) ← events.skip.peek
      let tag ← events.resolveTag token handle suffix
      return ({ anchor := some name, tag := some tag, start := start }, third, events)
    | _ =>
      let tag ← events.resolveTag token handle suffix
      return ({ tag := some tag, start := start }, second, events)
  | _ => return ({ start := start }, token, events)

/-- Reads the start of a value.  Block collections are only read if `inBlock` holds, and entries
without an indentation of their own only if `indentless` holds. -/
def readNode (inBlock indentless : Bool) (events : Events) : Attempt (Event × Events) := do
  let (token, events) ← events.peek
  match token.kind with
  | .alias name => return (⟨.alias name, token.start⟩, events.pop.skip)
  | _ =>
    let (properties, token, events) ← events.readProperties
    let opening : Opening := { anchor := properties.anchor, tag := properties.tag }
    let sequenceStart : Event := ⟨.sequenceStart opening, properties.start⟩
    let mappingStart : Event := ⟨.mappingStart opening, properties.start⟩
    let empty : Scalar :=
      { text := "", style := .plain, anchor := properties.anchor, tag := properties.tag }
    let bare := properties.anchor.isNone && properties.tag.isNone
    match token.kind with
    | .scalar text style =>
      return (⟨.scalar { empty with text := text, style := style }, properties.start⟩,
        events.pop.skip)
    | .flowSequenceStart => return (sequenceStart, events.goTo (.flowSequence true))
    | .flowMappingStart => return (mappingStart, events.goTo (.flowKey true))
    | .blockEntry =>
      if indentless then return (sequenceStart, events.goTo .indentlessSequence)
      else if bare then fail token .expectedNode
      else return (⟨.scalar empty, properties.start⟩, events.pop)
    | .blockSequenceStart =>
      if inBlock then return (sequenceStart, events.goTo (.blockSequence true))
      else if bare then fail token .expectedNode
      else return (⟨.scalar empty, properties.start⟩, events.pop)
    | .blockMappingStart =>
      if inBlock then return (mappingStart, events.goTo (.blockKey true))
      else if bare then fail token .expectedNode
      else return (⟨.scalar empty, properties.start⟩, events.pop)
    | _ =>
      if bare then fail token .expectedNode
      else return (⟨.scalar empty, properties.start⟩, events.pop)

/-! ## Documents -/

/-- Reads the directives of a document, with those read so far. -/
def readDirectives : (fuel : Nat) → (version : Bool) → List (String × Tag) → Events →
    Attempt (List (String × Tag) × Events)
  | 0, _, handles, events => .ok (handles, events)
  | fuel + 1, version, handles, events => do
    let (token, events) ← events.peek
    match token.kind with
    | .versionDirective major minor =>
      if version then fail token .repeatedDirective
      if major != 1 || (minor != 1 && minor != 2) then fail token .unsupportedVersion
      readDirectives fuel true handles events.skip
    | .tagDirective handle front =>
      if (handles.lookup handle).isSome then fail token .repeatedDirective
      readDirectives fuel version (handles ++ [(handle, front)]) events.skip
    | _ => return (handles, events)

/-- Skips the marks that end documents. -/
def skipDocumentEnds : (fuel : Nat) → Events → Attempt Events
  | 0, events => .ok events
  | fuel + 1, events => do
    let (token, events) ← events.peek
    if token.kind = .documentEnd then skipDocumentEnds fuel events.skip else return events

/-- Whether a token can only stand between two documents. -/
def isBetweenDocuments : TokenKind → Bool
  | .versionDirective _ _ | .tagDirective _ _ | .documentStart | .documentEnd | .streamEnd => true
  | _ => false

/-- The number of tokens that may still be read, at most. -/
def fuel (events : Events) : Nat :=
  events.tokens.cursor.size + events.tokens.queue.length + 2

/-- Reads the start of a document, or the end of the text. -/
def readDocument (isFirst : Bool) (events : Events) : Attempt (Event × Events) := do
  let events ← if isFirst then pure events else skipDocumentEnds events.fuel events
  let (token, events) ← events.peek
  if token.kind = .streamEnd then
    return (⟨.streamEnd, token.start⟩, events.skip.goTo .finished)
  else if isFirst && (!isBetweenDocuments token.kind || token.kind = .documentEnd) then
    return (⟨.documentStart, token.start⟩,
      ({ events with handles := knownHandles }.later .documentEnd).goTo .blockNode)
  else
    let (declared, events) ← readDirectives events.fuel false [] events
    let (second, events) ← events.peek
    if second.kind = .documentStart then
      return (⟨.documentStart, token.start⟩,
        ({ events with handles := declared ++ knownHandles }.later .documentEnd).skip.goTo .content)
    else fail second .expectedDocumentStart

/-! ## One event after another -/

/-- Reads the value of an entry, and goes on with `next` after it; where `isAbsent` says that the
next token cannot start a value, the entry has none. -/
def readEntry (isAbsent : TokenKind → Bool) (inBlock indentless : Bool) (next : Expect)
    (nothing : Token → Mark) (events : Events) : Attempt (Event × Events) := do
  let (token, events) ← events.peek
  if isAbsent token.kind then return (.nothing (nothing token), events.goTo next)
  else (events.later next).readNode inBlock indentless

/-- Whether a token cannot start a value in a block sequence. -/
def endsBlockEntry (kind : TokenKind) : Bool :=
  kind = .blockEntry || kind = .blockEnd

/-- Whether a token cannot start a key or a value in a block mapping. -/
def endsBlockPart (kind : TokenKind) : Bool :=
  kind = .key || kind = .value || kind = .blockEnd

/-- Whether a token cannot start a value in a flow sequence. -/
def endsFlowItem (kind : TokenKind) : Bool :=
  kind = .flowEntry || kind = .flowSequenceEnd

/-- Whether a token cannot start a value in a flow mapping. -/
def endsFlowPart (kind : TokenKind) : Bool :=
  kind = .flowEntry || kind = .flowMappingEnd

/-- Skips the comma in front of an entry of a flow collection, unless the entry is the first or the
collection ends. -/
def readComma (isFirst : Bool) (closing : TokenKind) (events : Events) :
    Attempt (Token × Events) := do
  let (token, events) ← (if isFirst then events.skip else events).peek
  if isFirst || token.kind = closing then return (token, events)
  else if token.kind = .flowEntry then events.skip.peek
  else fail token .expectedComma

/-- Reads the next event. -/
def next (events : Events) : Attempt (Event × Events) := do
  match events.expect with
  | .document isFirst => events.readDocument isFirst
  | .content =>
    let (token, events) ← events.peek
    if isBetweenDocuments token.kind then return (.nothing token.start, events.pop)
    else events.readNode true false
  | .blockNode => events.readNode true false
  | .documentEnd =>
    let (token, events) ← events.peek
    let events := if token.kind = .documentEnd then events.skip else events
    return (⟨.documentEnd, token.start⟩, events.goTo (.document false))
  | .blockSequence isFirst =>
    let (token, events) ← (if isFirst then events.skip else events).peek
    match token.kind with
    | .blockEntry =>
      readEntry endsBlockEntry true false (.blockSequence false) (fun _ => token.stop) events.skip
    | .blockEnd => return (⟨.sequenceEnd, token.start⟩, events.pop.skip)
    | _ => fail token .expectedEntry
  | .indentlessSequence =>
    let (token, events) ← events.peek
    match token.kind with
    | .blockEntry =>
      readEntry (fun kind => endsBlockEntry kind || endsBlockPart kind) true false
        .indentlessSequence (fun _ => token.stop) events.skip
    | _ => return (⟨.sequenceEnd, token.start⟩, events.pop)
  | .blockKey isFirst =>
    let (token, events) ← (if isFirst then events.skip else events).peek
    match token.kind with
    | .key => readEntry endsBlockPart true true .blockValue (fun _ => token.stop) events.skip
    | .blockEnd => return (⟨.mappingEnd, token.start⟩, events.pop.skip)
    | _ => fail token .expectedKey
  | .blockValue =>
    let (token, events) ← events.peek
    match token.kind with
    | .value =>
      readEntry endsBlockPart true true (.blockKey false) (fun _ => token.stop) events.skip
    | _ => return (.nothing token.start, events.goTo (.blockKey false))
  | .flowSequence isFirst =>
    let (token, events) ← readComma isFirst .flowSequenceEnd events
    match token.kind with
    | .key => return (⟨.mappingStart {}, token.start⟩, events.skip.goTo .singleKey)
    | .flowSequenceEnd => return (⟨.sequenceEnd, token.start⟩, events.pop.skip)
    | _ => (events.later (.flowSequence false)).readNode false false
  | .singleKey =>
    let (token, events) ← events.peek
    if token.kind = .value || endsFlowItem token.kind then
      return (.nothing token.stop, events.skip.goTo .singleValue)
    else (events.later .singleValue).readNode false false
  | .singleValue =>
    let (token, events) ← events.peek
    match token.kind with
    | .value => readEntry endsFlowItem false false .singleEnd (fun next => next.start) events.skip
    | _ => return (.nothing token.start, events.goTo .singleEnd)
  | .singleEnd =>
    let (token, events) ← events.peek
    return (⟨.mappingEnd, token.start⟩, events.goTo (.flowSequence false))
  | .flowKey isFirst =>
    let (token, events) ← readComma isFirst .flowMappingEnd events
    match token.kind with
    | .key =>
      readEntry (fun kind => kind = .value || endsFlowPart kind) false false .flowValue
        (fun next => next.start) events.skip
    | .flowMappingEnd => return (⟨.mappingEnd, token.start⟩, events.pop.skip)
    | _ => (events.later .flowNoValue).readNode false false
  | .flowValue =>
    let (token, events) ← events.peek
    match token.kind with
    | .value =>
      readEntry endsFlowPart false false (.flowKey false) (fun next => next.start) events.skip
    | _ => return (.nothing token.start, events.goTo (.flowKey false))
  | .flowNoValue =>
    let (token, events) ← events.peek
    return (.nothing token.start, events.goTo (.flowKey false))
  | .finished => return (⟨.streamEnd, events.tokens.cursor.mark⟩, events)

end Events

end SchemaUpgrade.Yaml
