/-
  FlowTrace.Number.Shortest
  ────────────────────────────────
  **THE SHORTEST DECIMAL THAT READS BACK.**

  A finite double is written with the fewest significant digits whose
  decimal value still rounds to it, and of those with the nearest.  The
  search is exact: for 1, 2, … 17 digits it tests the two neighbours of the
  value on that decimal grid against the interval of reals that round to the
  double.
-/
import FlowTrace.Number.Binary64

namespace FlowTrace
namespace Binary64

/-! ## §1. The digits. -/

/-- Is `a / b ≤ c / d`?  The denominators are positive. -/
def ratioLe (a b c d : Nat) : Bool := decide (a * d ≤ c * b)

/-- `k · 2^e` as a quotient. -/
def binaryRatio (k : Nat) (e : Int) : Nat × Nat :=
  if 0 ≤ e then (k * Nat.pow 2 e.toNat, 1) else (k, Nat.pow 2 (-e).toNat)

/-- `q · 10^e` as a quotient. -/
def decimalRatio (q : Nat) (e : Int) : Nat × Nat :=
  if 0 ≤ e then (q * Nat.pow 10 e.toNat, 1) else (q, Nat.pow 10 (-e).toNat)

/-- The reals that round to `mantissa · 2^exponent`, both ends in quarters of
the unit in the last place; the gap below a power of two is half as wide. -/
def roundingEnds (mantissa : Nat) (exponent : Int) : Nat × Nat :=
  if mantissa = Nat.pow 2 52 ∧ minExponent < exponent then (4 * mantissa - 1, 4 * mantissa + 2)
  else (4 * mantissa - 2, 4 * mantissa + 2)

/-- Does `q · 10^e` round to `mantissa · 2^exponent`?  The ends of the
interval count exactly when the mantissa is even. -/
def readsBack (mantissa : Nat) (exponent : Int) (q : Nat) (e : Int) : Bool :=
  let ends := roundingEnds mantissa exponent
  let low := binaryRatio ends.1 (exponent - 2)
  let high := binaryRatio ends.2 (exponent - 2)
  let x := decimalRatio q e
  if mantissa % 2 = 0 then
    ratioLe low.1 low.2 x.1 x.2 && ratioLe x.1 x.2 high.1 high.2
  else
    !ratioLe x.1 x.2 low.1 low.2 && !ratioLe high.1 high.2 x.1 x.2

/-- The `k` with `10^(k-1) ≤ num / den < 10^k`: the position of the decimal
point before the first digit.  An estimate from the binary logarithm is at
most two too small. -/
def pointPosition (num den : Nat) : Int :=
  let bits : Int := (Nat.log2 num : Int) - Nat.log2 den
  let guess := (bits - 1) * 30103 / 100000
  let below (k : Int) : Bool :=
    let p := decimalRatio 1 k
    !ratioLe p.1 p.2 num den
  if below (guess - 1) then guess - 1
  else if below guess then guess
  else if below (guess + 1) then guess + 1
  else if below (guess + 2) then guess + 2
  else guess + 3

/-- With `n` digits: the neighbour of the value on the grid of `10^(k-n)` that
reads back, if there is one; of two the nearer, of two equally near the even
one. -/
def onGrid (mantissa : Nat) (exponent k : Int) (n : Nat) : Option (Nat × Int) :=
  let e := k - n
  let v := binaryRatio mantissa exponent
  let s := if 0 ≤ e then (v.1, v.2 * Nat.pow 10 e.toNat) else (v.1 * Nat.pow 10 (-e).toNat, v.2)
  let q := s.1 / s.2
  let nearest := roundDiv s.1 s.2
  let other := if nearest = q then q + 1 else q
  if readsBack mantissa exponent nearest e then some (nearest, e)
  else if readsBack mantissa exponent other e then some (other, e)
  else none

/-- The shortest digits `q` and the exponent `e` for which `q · 10^e` reads
back as `mantissa · 2^exponent`; the mantissa is positive. -/
def shortestDigits (mantissa : Nat) (exponent : Int) : Nat × Int :=
  let v := binaryRatio mantissa exponent
  let k := pointPosition v.1 v.2
  ((List.range' 1 17).findSome? (onGrid mantissa exponent k)).getD (mantissa, exponent)

/-! ## §2. The text. -/

/-- Digits without trailing zeros. -/
def trimZeros (ds : List Char) : List Char :=
  (ds.reverse.dropWhile (· == '0')).reverse

/-- The text of positive digits `ds` with the decimal point before position
`point`: positional when the point lies between `-3` and `16`, else with an
exponent of at least two digits. -/
def layout (ds : List Char) (point : Int) : String :=
  if -4 < point ∧ point ≤ 16 then
    if point ≤ 0 then
      "0." ++ String.ofList (List.replicate (-point).toNat '0' ++ ds)
    else if ds.length ≤ point.toNat then
      String.ofList (ds ++ List.replicate (point.toNat - ds.length) '0') ++ ".0"
    else
      String.ofList (ds.take point.toNat) ++ "." ++ String.ofList (ds.drop point.toNat)
  else
    let fraction := ds.drop 1
    let e := point - 1
    let digits := Nat.toDigits 10 e.natAbs
    String.ofList (ds.take 1) ++ (if fraction.isEmpty then "" else "." ++ String.ofList fraction)
      ++ "e" ++ (if e < 0 then "-" else "+")
      ++ String.ofList (if digits.length < 2 then '0' :: digits else digits)

/-- The text of a double: the shortest digits that read back. -/
def toText : Binary64 → String
  | nan => "nan"
  | infinite negative => if negative then "-inf" else "inf"
  | finite negative m e =>
      (if negative then "-" else "") ++
        (if m = 0 then "0.0"
         else
           let s := shortestDigits m e
           let ds := Nat.toDigits 10 s.1
           layout (trimZeros ds) (s.2 + ds.length))

end Binary64
end FlowTrace
