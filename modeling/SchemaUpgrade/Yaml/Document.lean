import SchemaUpgrade.Yaml.Event
/-!
# YAML documents

The first document of a text, as the list of the items it consists of.  Anchors are numbered, and
an alias holds a number instead of a name.  An anchor's number is the count of the different names
in front of it, so numbers repeat where a name does; a number leads to the last item of the whole
document that got it, even from an alias in front of that item.

If the text breaks, the document holds the items up to there, and the error: whoever reads the items
meets it only if the items before it did not already tell that the document is wrong.
-/

namespace SchemaUpgrade.Yaml

/-- What an item of a document is. -/
inductive ItemKind where
  /-- There is no document at all. -/
  | void
  /-- The item that an anchor's number leads to, once more. -/
  | alias (number : Nat)
  | scalar (scalar : Scalar)
  | sequenceStart (opening : Opening)
  | sequenceEnd
  | mappingStart (opening : Opening)
  | mappingEnd
  deriving DecidableEq, Repr, Inhabited

/-- An item of a document and the place in the text where it starts. -/
structure Item where
  kind : ItemKind
  mark : Mark
  deriving DecidableEq, Repr, Inhabited

/-- The anchors seen so far. -/
structure Anchors where
  /-- The number of the last anchor of each name. -/
  numbers : List (String × Nat) := []
  /-- The places of the items that got each number, the last ones first. -/
  places : List (Nat × Nat) := []
  deriving DecidableEq, Repr, Inhabited

namespace Anchors

/-- The anchors with one more, which names the item at `place`.  Its number is the count of the
names that are known, its own among them if it was used before. -/
def add (anchors : Anchors) (name : String) (place : Nat) : Anchors :=
  let number := anchors.numbers.length
  { numbers := (name, number) :: anchors.numbers.filter (fun known => known.1 != name)
    places := (number, place) :: anchors.places }

/-- The number that an alias of a name holds. -/
def number? (anchors : Anchors) (name : String) : Option Nat :=
  anchors.numbers.lookup name

/-- The place of the item that a number leads to. -/
def place? (anchors : Anchors) (number : Nat) : Option Nat :=
  anchors.places.lookup number

end Anchors

/-- A document. -/
structure Document where
  items : List Item := []
  anchors : Anchors := {}
  /-- Where the text breaks after these items, if it does. -/
  error : Option SyntaxError := none
  deriving DecidableEq, Repr, Inhabited

namespace Document

/-- How the reading of a document ended. -/
inductive Ending where
  /-- At the end of the document, where more text may follow. -/
  | more (events : Events)
  /-- At the end of the text. -/
  | last
  /-- At an error. -/
  | broken (error : SyntaxError)

/-- The document with one more item at `place`, which its anchor names. -/
def push (document : Document) (place : Nat) (item : Item) (anchor : Option String) : Document :=
  { document with
    items := item :: document.items
    anchors :=
      match anchor with
      | some name => document.anchors.add name place
      | none => document.anchors }

/-- Reads items up to the end of the document, in addition to those in front of `place`.  They are
kept in reverse order. -/
def readItems : (fuel place : Nat) → Events → Document → Document × Ending
  | 0, _, events, document => (document, .broken ⟨.endOfStream, events.tokens.cursor.mark⟩)
  | fuel + 1, place, events, document =>
    match events.next with
    | .error error => (document, .broken error)
    | .ok (event, events) =>
      let item (kind : ItemKind) (anchor : Option String) :=
        readItems fuel (place + 1) events (document.push place ⟨kind, event.mark⟩ anchor)
      match event.kind with
      | .documentStart => readItems fuel place events document
      | .documentEnd => (document, .more events)
      | .streamEnd => (document, .last)
      | .alias name =>
        match document.anchors.number? name with
        | some number => item (.alias number) none
        | none => (document, .broken ⟨.unknownAlias, event.mark⟩)
      | .scalar scalar => item (.scalar scalar) scalar.anchor
      | .sequenceStart opening => item (.sequenceStart opening) opening.anchor
      | .sequenceEnd => item .sequenceEnd none
      | .mappingStart opening => item (.mappingStart opening) opening.anchor
      | .mappingEnd => item .mappingEnd none

/-- More events than a text of this length can have. -/
def eventBound (text : String) : Nat :=
  8 * text.length + 16

/-- Reads the first document of a text.  Answers also whether more follows after it. -/
def ofString (text : String) : Document × Bool :=
  let (read, ending) := readItems (eventBound text) 0 { tokens := .ofString text } {}
  let document := { read with items := read.items.reverse }
  match ending with
  | .broken error => ({ document with error := some error }, false)
  | .last => (if document.items.isEmpty then { items := [⟨.void, {}⟩] } else document, false)
  | .more events =>
    let ends :=
      match events.next with
      | .ok (event, _) => event.kind = .streamEnd
      | .error _ => false
    (document, !ends)

/-- The items from the one on that an anchor's number leads to. -/
def itemsAt (document : Document) (number : Nat) : List Item :=
  match document.anchors.place? number with
  | some place => document.items.drop place
  | none => []

end Document

end SchemaUpgrade.Yaml
