/-!
# Decimal numbers and 64-bit binary numbers

A positive 64-bit binary number is `m · 2 ^ q` with `m < 2 ^ 53` and `-1074 ≤ q ≤ 971`.  A decimal
number is read as the nearest of these, ties going to the even `m`; a binary number is written with
the fewest digits that read back as it, and of those the nearest.

All arithmetic is exact, on natural numbers.

## Main definitions

* `Binary64.ofRatio`: the nearest binary number.
* `Binary64.shortest`: the shortest decimal digits and their exponent.
* `Binary64.text`: the positional notation, which always has a point in it.
-/

namespace SchemaUpgrade.Decimal

/-- The number `mantissa · 2 ^ exponent`. -/
structure Binary64 where
  mantissa : Nat
  exponent : Int
  deriving DecidableEq, Repr, Inhabited

/-- The quotient rounded to the nearest integer, ties going to the even one. -/
def roundDiv (num den : Nat) : Nat :=
  let floor := num / den
  let twice := 2 * (num % den)
  if twice < den then floor
  else if den < twice then floor + 1
  else floor + floor % 2

/-- The ratio `num · base ^ e / den`, as a numerator and a denominator. -/
def scaled (base num den : Nat) (e : Int) : Nat × Nat :=
  match e with
  | .ofNat n => (num * Nat.pow base n, den)
  | .negSucc n => (num, den * Nat.pow base (n + 1))

namespace Binary64

/-- The least mantissa of 53 bits. -/
def leading : Nat := 4503599627370496

/-- The least exponent. -/
def minExponent : Int := -1074

/-- The greatest exponent. -/
def maxExponent : Int := 971

/-- The nearest number to `num / den`; `none` if it is too large.  The exponent is chosen such that
the mantissa has 53 bits, or is the least one. -/
def ofRatio (num den : Nat) : Option Binary64 :=
  if num = 0 then some ⟨0, 0⟩
  else
    let guess : Int := (num.log2 : Int) - (den.log2 : Int) - 52
    let fits (e : Int) : Bool :=
      let (n, d) := scaled 2 num den (-e)
      n < d * leading * 2 && d * leading ≤ n
    let exponent := max minExponent (if fits guess then guess else guess - 1)
    let (n, d) := scaled 2 num den (-exponent)
    let mantissa := roundDiv n d
    let result : Binary64 :=
      if mantissa = leading * 2 then ⟨leading, exponent + 1⟩ else ⟨mantissa, exponent⟩
    if maxExponent < result.exponent then none else some result

/-- The ends of the interval of numbers that are read as `x`, and `x` itself, over one common
denominator: numerators of the lower end, of `x` and of the upper end. -/
def interval (x : Binary64) : (Nat × Nat × Nat) × Nat :=
  let isPower := x.mantissa = leading && minExponent < x.exponent
  let low := if isPower then 4 * x.mantissa - 1 else 4 * x.mantissa - 2
  let (one, den) := scaled 2 1 1 (x.exponent - 2)
  ((low * one, 4 * x.mantissa * one, (4 * x.mantissa + 2) * one), den)

/-- The least `k ≥ start` with `num / den < 10 ^ k`, as far as `fuel` goes. -/
def decimalMagnitude (num den : Nat) : (fuel : Nat) → (start : Int) → Int
  | 0, k => k
  | fuel + 1, k =>
    let (n, d) := scaled 10 num den (-k)
    if n < d then k else decimalMagnitude num den fuel (k + 1)

/-- Of the two neighbours of `x` on the grid of multiples of `10 ^ e`, the nearest that is read as
`x`. -/
def onGrid? (x : Binary64) (e : Int) : Option Nat :=
  let ((low, value, high), den) := x.interval
  let (value, grid) := scaled 10 value den (-e)
  let (low, _) := scaled 10 low den (-e)
  let (high, _) := scaled 10 high den (-e)
  let floor := value / grid
  let inside (n : Nat) : Bool :=
    if x.mantissa % 2 = 0 then low ≤ n * grid && n * grid ≤ high
    else low < n * grid && n * grid < high
  match inside floor, inside (floor + 1) with
  | true, false => some floor
  | false, true => some (floor + 1)
  | true, true => some (if 2 * (value % grid) < grid then floor else floor + 1)
  | false, false => none

/-- Tries one more digit at a time. -/
def shortestFrom (x : Binary64) (magnitude : Int) : (fuel : Nat) → (digits : Nat) → Nat × Int
  | 0, _ => (x.mantissa, x.exponent)
  | fuel + 1, digits =>
    let e := magnitude - digits
    match x.onGrid? e with
    | some n => (n, e)
    | none => shortestFrom x magnitude fuel (digits + 1)

/-- The shortest decimal number `n · 10 ^ e` that is read as `x`. -/
def shortest (x : Binary64) : Nat × Int :=
  if x.mantissa = 0 then (0, 0)
  else
    let ((_, value, _), den) := x.interval
    shortestFrom x (decimalMagnitude value den 640 (-325)) 17 1

/-- The number in positional notation, with at least one digit on each side of the point. -/
def text (x : Binary64) : String :=
  let (n, e) := x.shortest
  match e with
  | .ofNat k => toString (n * Nat.pow 10 k) ++ ".0"
  | .negSucc k =>
    let places := k + 1
    let unit := Nat.pow 10 places
    let whole := n / unit
    let digits := (toString (n % unit)).toList
    let padded := List.replicate (places - digits.length) '0' ++ digits
    let kept := (padded.reverse.dropWhile (· = '0')).reverse
    toString whole ++ "." ++ String.ofList (if kept.isEmpty then ['0'] else kept)

end Binary64

/-- A decimal numeral: `digits · 10 ^ exponent`. -/
structure Numeral where
  digits : Nat
  exponent : Int
  deriving DecidableEq, Repr, Inhabited

/-- The nearest binary number to a decimal one; `none` if it is too large.  Numbers far outside of
the range are decided by their magnitude alone. -/
def Numeral.toBinary64 (x : Numeral) : Option Binary64 :=
  let magnitude : Int := x.exponent + ((toString x.digits).length : Int)
  if x.digits = 0 then some ⟨0, 0⟩
  else if magnitude < -400 then some ⟨0, 0⟩
  else if 400 < magnitude then none
  else
    let (num, den) := scaled 10 x.digits 1 x.exponent
    Binary64.ofRatio num den

end SchemaUpgrade.Decimal
