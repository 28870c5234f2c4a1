import SchemaUpgrade.Text.Quoted
import SchemaUpgrade.Yaml.Document
import SchemaUpgrade.Yaml.Plain
/-!
# Reading values of a known shape

A reader of documents knows the shape of what it reads: records with certain fields, texts, choices
from a list of names.  It goes through the items of a document in order, and the first thing that
does not fit is the error, told with the path to the value and its place in the text.

* A text takes any scalar as it is written.
* A choice takes any scalar that spells one of the names, or a plain null under a tag that does.
* A record takes a mapping whose keys are different fields; an empty plain scalar, or no document
  at all, is the record without any field.

## Main definitions

* `Misfit`, and its words `Misfit.message`.
* `readText`, `readChoice`, `readRecord`.
-/

namespace SchemaUpgrade.Yaml

/-- What does not fit. -/
inductive Mismatch where
  | unknownField (name : String) (fields : List String)
  | duplicateField (name : String)
  | unknownChoice (name : String) (choices : List String)
  | invalidType (found expected : String)
  | invalidValue (found expected : String)
  deriving DecidableEq, Repr, Inhabited

/-- A name in backquotes. -/
def backquoted (name : String) : String :=
  "\x60" ++ name ++ "\x60"

/-- The names that are expected, in words. -/
def oneOf : List String → String
  | [] => "nothing"
  | [name] => backquoted name
  | [first, second] => backquoted first ++ " or " ++ backquoted second
  | names => "one of " ++ ", ".intercalate (names.map backquoted)

/-- The words for what does not fit. -/
def Mismatch.text : Mismatch → String
  | .unknownField name fields =>
    "unknown field " ++ backquoted name ++ ", expected " ++ oneOf fields
  | .duplicateField name => "duplicate field " ++ backquoted name
  | .unknownChoice name choices =>
    "unknown variant " ++ backquoted name ++ ", expected " ++ oneOf choices
  | .invalidType found expected => "invalid type: " ++ found ++ ", expected " ++ expected
  | .invalidValue found expected => "invalid value: " ++ found ++ ", expected " ++ expected

/-- Something that does not fit, or a break of the text that was met first. -/
inductive Misfit where
  | mismatch (what : Mismatch) (path : List String) (mark : Mark)
  | broken (error : SyntaxError)
  deriving DecidableEq, Repr, Inhabited

/-- The sentence that describes a misfit.  The place is left out if it is the start of the text. -/
def Misfit.message : Misfit → String
  | .mismatch what path mark =>
    (if path.isEmpty then "" else ".".intercalate path ++ ": ") ++ what.text
      ++ (if mark.line = 0 && mark.column = 0 then "" else " at " ++ mark.text)
  | .broken error => error.message

/-! ## What was found -/

/-- An integer in words; those beyond 64 bits are told by their width. -/
def integerText (value : Int) : String :=
  if (Nat.pow 2 64 : Int) ≤ value then "integer " ++ backquoted (toString value) ++ " as u128"
  else if value < -(Nat.pow 2 63 : Int) then "integer " ++ backquoted (toString value) ++ " as i128"
  else "integer " ++ backquoted (toString value)

/-- What a scalar means, in words. -/
def Meaning.words : Meaning → String
  | .null => "unit value"
  | .truth value => "boolean " ++ backquoted (if value then "true" else "false")
  | .integer value => integerText value
  | .float digits => "floating point " ++ backquoted digits
  | .text content => "string " ++ Text.quoted content

/-- The mismatch of a scalar where something else is expected. -/
def Scalar.mismatch (scalar : Scalar) (expected : String) : Mismatch :=
  let text := scalar.text
  let literal (meaning : Option Meaning) (kind : String) : Mismatch :=
    match meaning with
    | some meaning => .invalidType meaning.words expected
    | none => .invalidValue (Meaning.text text).words kind
  match scalar.tag with
  | some tag =>
    if tag = Tag.core "bool" then literal ((Plain.truth? text).map .truth) "a boolean"
    else if tag = Tag.core "int" then
      literal ((Plain.integer? text.toList).map .integer) "an integer"
    else if tag = Tag.core "float" then literal ((Plain.float? text).map .float) "a float"
    else if tag = Tag.core "null" then
      literal (if Plain.isNull text then some .null else none) "null"
    else if tag.isLocal && scalar.style = .plain then
      .invalidType (Plain.meaning text).words expected
    else .invalidType (Meaning.text text).words expected
  | none =>
    if scalar.style = .plain then .invalidType (Plain.meaning text).words expected
    else .invalidType (Meaning.text text).words expected

/-- The mismatch of an item where something else is expected. -/
def ItemKind.mismatch (kind : ItemKind) (expected : String) : Mismatch :=
  match kind with
  | .scalar found => found.mismatch expected
  | .sequenceStart _ | .sequenceEnd => .invalidType "sequence" expected
  | _ => .invalidType "map" expected

/-! ## Readers -/

namespace Document

variable (document : Document)

/-- What a reader answers: the value and the items after it. -/
abbrev Answer (α : Type) := Except Misfit (α × List Item)

/-- The error of running out of items. -/
def exhausted : Misfit :=
  .broken (document.error.getD ⟨.endOfStream, {}⟩)

/-- The items of a value: those at hand, or those that the alias at hand leads to. -/
def follow (items : List Item) : List Item :=
  match items with
  | ⟨.alias number, _⟩ :: _ => document.itemsAt number
  | _ => items

/-- The items after a value that is a single item or an alias. -/
def afterOne (items : List Item) : List Item := items.drop 1

/-- Reads a text. -/
def readText (path : List String) (expected : String) (items : List Item) : Answer String :=
  match document.follow items with
  | ⟨.scalar scalar, _⟩ :: _ => .ok (scalar.text, afterOne items)
  | ⟨kind, mark⟩ :: _ => .error (.mismatch (kind.mismatch expected) path mark)
  | [] => .error document.exhausted

/-- Where a field of a record stands. -/
structure FieldPlace where
  /-- The path to the record. -/
  recordPath : List String
  /-- Where the record starts. -/
  record : Mark
  /-- Where the name of the field starts. -/
  name : Mark
  /-- The path to the value of the field. -/
  path : List String
  deriving Inhabited

/-- The misfit of a field that the record does not have. -/
def FieldPlace.unknown (place : FieldPlace) (name : String) (fields : List String) : Misfit :=
  .mismatch (.unknownField name fields) place.recordPath place.name

/-- The misfit of a field that stands twice. -/
def FieldPlace.duplicate (place : FieldPlace) (name : String) : Misfit :=
  .mismatch (.duplicateField name) place.recordPath place.record

/-- What does not fit in an item whose tag is a choice: it must be a plain null. -/
def noContent (kind : ItemKind) : Option Mismatch :=
  match kind with
  | .scalar scalar =>
    if scalar.style = .plain && (scalar.text.isEmpty || Plain.isNull scalar.text) then none
    else some (.invalidValue (Meaning.text scalar.text).words "null")
  | _ => some (kind.mismatch "unit")

/-- The tag of an item, if it can have one. -/
def tagOf : ItemKind → Option Tag
  | .scalar scalar => scalar.tag
  | .sequenceStart opening | .mappingStart opening => opening.tag
  | _ => none

/-- Where a tag that spells no choice is told: at the record around the field, or at the field if an
alias stands there. -/
def tagPlace (place : FieldPlace) (items : List Item) : List String × Mark :=
  match items with
  | ⟨.alias _, mark⟩ :: _ => (place.path, mark)
  | _ => (place.recordPath, place.record)

/-- Reads one of the named choices, the value of a field. -/
def readChoice {α : Type} (place : FieldPlace) (choices : List (String × α))
    (items : List Item) : Answer α :=
  let names := choices.map Prod.fst
  match document.follow items with
  | [] => .error document.exhausted
  | ⟨kind, mark⟩ :: _ =>
    match (tagOf kind).bind Tag.localName? with
    | some name =>
      match choices.lookup name with
      | none =>
        let (path, mark) := tagPlace place items
        .error (.mismatch (.unknownChoice name names) path mark)
      | some choice =>
        match noContent kind with
        | none => .ok (choice, afterOne items)
        | some what => .error (.mismatch what place.path mark)
    | none =>
      match kind with
      | .scalar scalar =>
        match choices.lookup scalar.text with
        | some choice => .ok (choice, afterOne items)
        | none => .error (.mismatch (.unknownChoice scalar.text names) place.path mark)
      | _ => .error (.mismatch (kind.mismatch "a YAML tag starting with '!'") place.path mark)

/-- Whether an item stands for a record without any field. -/
def isNothing : ItemKind → Bool
  | .void => true
  | .scalar scalar => scalar.text.isEmpty && scalar.style = .plain
  | _ => false

/-- The last step of the path to the value of a field; a name that is an alias has no step. -/
def fieldStep (items : List Item) : String :=
  match items with
  | ⟨.scalar scalar, _⟩ :: _ => scalar.text
  | _ => "?"

/-- Reads the fields of a mapping up to its end.  `field` reads the value of the field of a name
into the record. -/
def readFields {α : Type} (path : List String) (start : Mark)
    (field : FieldPlace → String → α → List Item → Answer α) :
    (fuel : Nat) → α → List Item → Answer α
  | 0, _, _ => .error document.exhausted
  | fuel + 1, record, items =>
    match items with
    | ⟨.mappingEnd, _⟩ :: rest => .ok (record, rest)
    | _ =>
      match document.readText path "field identifier" items with
      | .error misfit => .error misfit
      | .ok (name, rest) =>
        let place : FieldPlace := {
          recordPath := path
          record := start
          name := ((document.follow items).head?.map Item.mark).getD {}
          path := path ++ [fieldStep items] }
        match field place name record rest with
        | .error misfit => .error misfit
        | .ok (record, rest) => readFields path start field fuel record rest

/-- Reads a record, starting from the record without any field. -/
def readRecord {α : Type} (path : List String) (expected : String)
    (field : FieldPlace → String → α → List Item → Answer α) (empty : α) (items : List Item) :
    Answer α :=
  match document.follow items with
  | [] => .error document.exhausted
  | ⟨kind, mark⟩ :: inside =>
    match kind with
    | .mappingStart _ =>
      let read := document.readFields path mark field document.items.length empty inside
      match items with
      | ⟨.alias _, _⟩ :: rest => read.map fun (record, _) => (record, rest)
      | _ => read
    | _ =>
      if isNothing kind then .ok (empty, afterOne items)
      else .error (.mismatch (kind.mismatch expected) path mark)

end Document

end SchemaUpgrade.Yaml
