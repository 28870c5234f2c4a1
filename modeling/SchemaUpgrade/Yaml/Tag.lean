import SchemaUpgrade.Text.Lines
/-!
# Tags

A tag is a sequence of bytes.  It is written with the characters that an address can have; any byte
can be written as a percent sign and two hexadecimal digits.  Such escapes come in groups that look
like the encoding of one character, but need not encode one.  A tag has no zero byte: it ends where
one is written.

## Main definitions

* `Tag.ofBytes`, `Tag.append`, `Tag.core`: tags from their bytes, from a front and a rest, and the
  tags of the core types.
* `Tag.localName?`: the name that a tag of the document's own spells.
* `escapedBytes?`: the bytes of a group of escapes.
-/

namespace SchemaUpgrade.Yaml

/-- The value of a hexadecimal digit. -/
def hexValue? (c : Char) : Option Nat :=
  if c.isDigit then some (c.toNat - '0'.toNat)
  else if 'a' ≤ c && c ≤ 'f' then some (c.toNat - 'a'.toNat + 10)
  else if 'A' ≤ c && c ≤ 'F' then some (c.toNat - 'A'.toNat + 10)
  else none

/-! ## Tags -/

/-- A tag. -/
structure Tag where
  bytes : List UInt8
  zero_notMem : 0 ∉ bytes
  deriving DecidableEq, Repr

namespace Tag

/-- The tag that bytes spell: those in front of the first zero. -/
def ofBytes (bytes : List UInt8) : Tag where
  bytes := bytes.takeWhile (· != 0)
  zero_notMem h := by
    have := List.all_takeWhile (p := (· != 0)) (l := bytes)
    exact absurd (List.all_eq_true.1 this 0 h) (by decide)

instance : Inhabited Tag := ⟨ofBytes []⟩

/-- The byte of an ASCII character. -/
def byteOf (c : Char) : UInt8 := c.toNat.toUInt8

/-- The tag that ASCII characters spell. -/
def ofAscii (text : String) : Tag :=
  ofBytes (text.toList.map byteOf)

/-- The tag that a front and a rest spell together. -/
def append (front rest : Tag) : Tag where
  bytes := front.bytes ++ rest.bytes
  zero_notMem := by simp [front.zero_notMem, rest.zero_notMem]

/-- The tag that is written as a sole exclamation mark. -/
def bare : Tag := ofAscii "!"

/-- What stands in front of the names of the core types. -/
def coreFront : Tag := ofAscii "tag:yaml.org,2002:"

/-- The tag of a core type. -/
def core (name : String) : Tag := coreFront.append (ofAscii name)

/-- Whether a tag is one of the document's own, which start with an exclamation mark. -/
def isLocal (tag : Tag) : Bool := tag.bytes.head? = some (byteOf '!')

/-- The name that a tag of the document's own spells: what follows the exclamation mark, or the mark
itself if nothing does. -/
def localName? (tag : Tag) : Option String :=
  if tag = bare then some "!"
  else if tag.isLocal then Text.decodeUtf8 (tag.bytes.drop 1)
  else none

end Tag

/-! ## Escapes -/

/-- The byte of the escape at the front of a text. -/
def escapedByte? : List Char → Option UInt8
  | '%' :: a :: b :: _ => do
    let high ← hexValue? a
    let low ← hexValue? b
    return (high * 16 + low).toUInt8
  | _ => none

/-- The number of bytes in the encoding of a character that starts with this byte. -/
def encodedLength (first : UInt8) : Nat :=
  if first < 0x80 then 1
  else if first &&& 0xE0 = 0xC0 then 2
  else if first &&& 0xF0 = 0xE0 then 3
  else if first &&& 0xF8 = 0xF0 then 4
  else 0

/-- Whether a byte can stand behind the first one in the encoding of a character. -/
def isContinuation (byte : UInt8) : Bool := byte &&& 0xC0 = 0x80

/-- The bytes of `n` escapes at the front of a text. -/
def escapedBytes : (n : Nat) → List Char → Option (List UInt8)
  | 0, _ => some []
  | n + 1, chars => do
    let byte ← escapedByte? chars
    let more ← escapedBytes n (chars.drop 3)
    return byte :: more

/-- The bytes of the group of escapes at the front of a text. -/
def escapedBytes? (chars : List Char) : Option (List UInt8) := do
  let first ← escapedByte? chars
  let bytes ← escapedBytes (encodedLength first) chars
  if bytes.isEmpty || !(bytes.drop 1).all isContinuation then none else return bytes

end SchemaUpgrade.Yaml
