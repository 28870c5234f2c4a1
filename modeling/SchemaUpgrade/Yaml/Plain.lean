import SchemaUpgrade.Decimal.Binary64
/-!
# What plain scalars mean

A plain scalar that nothing else determines is read by its looks: as null, a truth value, an
integer, a floating point number, or else a text.

* null: nothing at all, `~`, `null`, `Null`, `NULL`;
* truth values: `true` and `false`, also with a capital or all in capitals;
* integers: decimal digits, or `0x`, `0o`, `0b` and digits of that base, with an optional sign;
  decimal digits after a leading zero are a text;
* floating point numbers: digits with a point or an exponent, infinities and not-a-number; one that
  is too large is a text.

`Meaning.text` describes a meaning in the words of an error message.
-/

namespace SchemaUpgrade.Yaml

/-- What a scalar means. -/
inductive Meaning where
  | null
  | truth (value : Bool)
  | integer (value : Int)
  /-- A floating point number, in words. -/
  | float (text : String)
  | text (text : String)
  deriving DecidableEq, Repr, Inhabited

namespace Plain

/-- Whether a text means null. -/
def isNull (text : String) : Bool :=
  text ∈ ["null", "Null", "NULL", "~"]

/-- The truth value that a text means. -/
def truth? (text : String) : Option Bool :=
  if text ∈ ["true", "True", "TRUE"] then some true
  else if text ∈ ["false", "False", "FALSE"] then some false
  else none

/-- The value of a digit in a base. -/
def digitValue? (base : Nat) (c : Char) : Option Nat :=
  let value :=
    if c.isDigit then some (c.toNat - '0'.toNat)
    else if c.isLower then some (c.toNat - 'a'.toNat + 10)
    else if c.isUpper then some (c.toNat - 'A'.toNat + 10)
    else none
  value.filter (· < base)

/-- The number that digits of a base mean; at least one is needed, and the number must be less than
`limit`. -/
def digits? (base limit : Nat) (chars : List Char) : Option Nat :=
  if chars.isEmpty then none
  else chars.foldlM (fun n c => ((digitValue? base c).map (n * base + ·)).filter (· < limit)) 0

/-- Whether a text is a zero followed by more decimal digits, after an optional sign. -/
def isZeroPadded (chars : List Char) : Bool :=
  let unsigned :=
    match chars with
    | '-' :: rest | '+' :: rest => rest
    | _ => chars
  match unsigned with
  | '0' :: d :: rest => (d :: rest).all Char.isDigit
  | _ => false

/-- The least number that is too large for an integer. -/
def integerLimit : Nat := Nat.pow 2 128

/-- Digits with the mark of their base in front. -/
def marked? : List Char → Option Nat
  | '0' :: 'x' :: rest => digits? 16 integerLimit rest
  | '0' :: 'o' :: rest => digits? 8 integerLimit rest
  | '0' :: 'b' :: rest => digits? 2 integerLimit rest
  | _ => none

/-- The magnitude of the integer that a text means, without its sign. -/
def magnitude? (chars unsigned : List Char) : Option Nat :=
  match marked? unsigned with
  | some n => some n
  | none => if isZeroPadded chars then none else digits? 10 integerLimit unsigned

/-- The integer that a text means, within 128 bits. -/
def integer? (chars : List Char) : Option Int :=
  match chars with
  | '-' :: rest =>
    (magnitude? chars rest).bind fun n => if n ≤ Nat.pow 2 127 then some (-(n : Int)) else none
  | '+' :: rest =>
    (magnitude? chars rest).map fun n => (n : Int)
  | _ => (magnitude? chars chars).map fun n => (n : Int)

/-- The number that decimal digits mean. -/
def decimalNumber (digits : List Char) : Nat :=
  digits.foldl (fun n c => n * 10 + (c.toNat - '0'.toNat)) 0

/-- The number of digits that are taken as they are.  A number halfway between two 64-bit binary
numbers has fewer significant digits, so what follows tells only whether a number is above it. -/
def exactDigits : Nat := 800

/-- The numeral of decimal digits, the last of which counts units of `10 ^ scale`.  What follows the
exact digits is replaced by a single digit, which is zero only if all of it is. -/
def numeral (digits : List Char) (scale : Int) : Decimal.Numeral :=
  let significant := digits.dropWhile (· = '0')
  let rest := significant.drop exactDigits
  if rest.isEmpty then ⟨decimalNumber significant, scale⟩
  else
    let last := if rest.all (· = '0') then '0' else '1'
    ⟨decimalNumber (significant.take exactDigits ++ [last]), scale + (rest.length : Int) - 1⟩

/-- The exponent that digits mean; at least one is needed.  Once it has passed 65535, further digits
do not make it larger. -/
def exponent? (digits : List Char) : Option Nat :=
  if digits.isEmpty || !digits.all Char.isDigit then none
  else some (digits.foldl
    (fun n c => if n < 65536 then n * 10 + (c.toNat - '0'.toNat) else n) 0)

/-- The decimal number that unsigned digits, an optional point and an optional exponent mean. -/
def decimal? (chars : List Char) : Option Decimal.Numeral :=
  let whole := chars.takeWhile Char.isDigit
  let rest := chars.dropWhile Char.isDigit
  let (fraction, rest) :=
    match rest with
    | '.' :: after => (after.takeWhile Char.isDigit, after.dropWhile Char.isDigit)
    | _ => ([], rest)
  if whole.isEmpty && fraction.isEmpty then none
  else
    let digits := whole ++ fraction
    let scale : Int := -(fraction.length : Int)
    match rest with
    | [] => some (numeral digits scale)
    | mark :: after =>
      if mark = 'e' || mark = 'E' then
        match after with
        | '-' :: power => (exponent? power).map fun n => numeral digits (scale - n)
        | '+' :: power => (exponent? power).map fun n => numeral digits (scale + n)
        | power => (exponent? power).map fun n => numeral digits (scale + n)
      else none

/-- The words for the floating point number that a text means. -/
def float? (text : String) : Option String :=
  if text ∈ [".inf", ".Inf", ".INF", "+.inf", "+.Inf", "+.INF"] then some "inf"
  else if text ∈ ["-.inf", "-.Inf", "-.INF"] then some "-inf"
  else if text ∈ [".nan", ".NaN", ".NAN"] then some "NaN"
  else
    let (sign, unsigned) :=
      match text.toList with
      | '-' :: rest => ("-", rest)
      | '+' :: rest => ("", rest)
      | rest => ("", rest)
    ((decimal? unsigned).bind Decimal.Numeral.toBinary64).map fun x => sign ++ x.text

/-- What a plain text means. -/
def meaning (text : String) : Meaning :=
  if text.isEmpty || isNull text then .null
  else match truth? text with
    | some value => .truth value
    | none =>
      match integer? text.toList with
      | some value => .integer value
      | none =>
        match (if isZeroPadded text.toList then none else float? text) with
        | some words => .float words
        | none => .text text

end Plain

end SchemaUpgrade.Yaml
