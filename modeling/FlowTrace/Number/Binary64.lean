/-
  FlowTrace.Number.Binary64
  ────────────────────────────────
  **DOUBLES AS EXACT VALUES.**

  A JSON number with a fraction or an exponent denotes a double.  Here a
  double is the exact rational `± mantissa · 2^exponent`, so rounding,
  comparison and truncation are arithmetic on `Nat` and `Int`, with no
  machine floats:

      ofRatio    — the double nearest to a quotient, ties to even
      ofDecimal  — the double nearest to a decimal numeral
      ofInt?     — the double nearest to an integer, if it is in range
      truncate?  — the integer part, toward zero
-/
namespace FlowTrace

/-- A double: `± mantissa · 2^exponent`, an infinity, or not a number.  The
functions of this module build finite doubles in canonical form: the mantissa
is below `2^53`, the exponent at least `-1074`, and the mantissa is at least
`2^52` unless the exponent is `-1074`. -/
inductive Binary64 where
  /-- The value `± mantissa · 2^exponent`. -/
  | finite (negative : Bool) (mantissa : Nat) (exponent : Int)
  /-- Positive or negative infinity. -/
  | infinite (negative : Bool)
  /-- Not a number. -/
  | nan
  deriving DecidableEq, Repr, Inhabited

namespace Binary64

/-! ## §1. Rounding. -/

/-- The quotient `num / den` rounded to the nearest integer; a half goes to
the even neighbour. -/
def roundDiv (num den : Nat) : Nat :=
  let q := num / den
  let r := num % den
  if 2 * r < den then q
  else if den < 2 * r then q + 1
  else if q % 2 = 0 then q else q + 1

/-- `num / den` divided by `2^e`, as a quotient of naturals. -/
def scale (num den : Nat) (e : Int) : Nat × Nat :=
  if 0 ≤ e then (num, den * Nat.pow 2 e.toNat) else (num * Nat.pow 2 (-e).toNat, den)

/-- The greatest exponent of a finite double. -/
def maxExponent : Int := 971

/-- The least exponent of a finite double. -/
def minExponent : Int := -1074

/-- The double nearest to `num / den`, ties to even; too large a quotient is
an infinity.  `den` is positive. -/
def ofRatio (negative : Bool) (num den : Nat) : Binary64 :=
  if num = 0 then finite negative 0 minExponent
  else
    let guess : Int := (Nat.log2 num : Int) - Nat.log2 den
    let s := scale num den guess
    let binade := if s.2 ≤ s.1 then guess else guess - 1
    let e := max (binade - 52) minExponent
    let t := scale num den e
    let m := roundDiv t.1 t.2
    let r : Nat × Int := if m = Nat.pow 2 53 then (Nat.pow 2 52, e + 1) else (m, e)
    if maxExponent < r.2 then infinite negative else finite negative r.1 r.2

/-- The number of decimal digits of a natural, none for zero. -/
def digitCount (n : Nat) : Nat :=
  if n = 0 then 0 else (Nat.toDigits 10 n).length

/-- The double nearest to `± digits · 10^exponent`.  Exponents far outside the
range of doubles are answered without building the power of ten. -/
def ofDecimal (negative : Bool) (digits : Nat) (exponent : Int) : Binary64 :=
  if digits = 0 then finite negative 0 minExponent
  else
    let magnitude := exponent + digitCount digits
    if 400 < magnitude then infinite negative
    else if magnitude < -400 then finite negative 0 minExponent
    else if 0 ≤ exponent then ofRatio negative (digits * Nat.pow 10 exponent.toNat) 1
    else ofRatio negative digits (Nat.pow 10 (-exponent).toNat)

/-- The double nearest to an integer, `none` when it lies beyond the largest
finite double. -/
def ofInt? (n : Int) : Option Binary64 :=
  match ofRatio (decide (n < 0)) n.natAbs 1 with
  | infinite _ => none
  | x => some x

/-! ## §2. Reading a double. -/

/-- `± n`. -/
def signed (negative : Bool) (n : Nat) : Int := if negative then -(n : Int) else n

/-- The integer part, toward zero; `none` for infinities and not-a-number. -/
def truncate? : Binary64 → Option Int
  | finite negative m e =>
      some (signed negative (if 0 ≤ e then m * Nat.pow 2 e.toNat else m / Nat.pow 2 (-e).toNat))
  | _ => none

/-- Positive and negative zero. -/
def isZero : Binary64 → Bool
  | finite _ m _ => m == 0
  | _ => false

/-- Is the double a whole number, and which one? -/
def toInt? : Binary64 → Option Int
  | finite negative m e =>
      if 0 ≤ e then some (signed negative (m * Nat.pow 2 e.toNat))
      else if m % Nat.pow 2 (-e).toNat = 0 then some (signed negative (m / Nat.pow 2 (-e).toNat))
      else none
  | _ => none

/-- A finite double as a quotient with a positive denominator. -/
def ratio? : Binary64 → Option (Int × Nat)
  | finite negative m e => some (signed negative (scale m 1 (-e)).1, (scale m 1 (-e)).2)
  | _ => none

/-- The double nearest to one more. -/
def addOne (x : Binary64) : Binary64 :=
  match x.ratio? with
  | some (num, den) =>
      let sum := num + den
      ofRatio (decide (sum < 0)) sum.natAbs den
  | none => x

/-- Numeric equality: the two zeros are equal and not-a-number differs from
everything, itself included. -/
def same : Binary64 → Binary64 → Bool
  | nan, _ => false
  | x, y => (x.isZero && y.isZero) || x == y

end Binary64
end FlowTrace
