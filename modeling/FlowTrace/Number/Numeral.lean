/-
  FlowTrace.Number.Numeral
  ────────────────────────────────
  **READING NUMBERS FROM TEXT.**

  Fields that should hold numbers may hold their text instead.  A whole
  number is an optional sign and decimal digits of any script, with single
  underscores between digits if any, and blanks around.  A decimal number
  adds a fraction, an exponent and the names of infinity and not-a-number.

  Whole numbers are read and written in at most 4300 digits.
-/
import FlowTrace.Number.Binary64
import FlowTrace.Text.Blank
import FlowTrace.Text.DecimalDigit

namespace FlowTrace
namespace Numeral

/-! ## §1. Whole numbers. -/

/-- The most digits in which a whole number is read or written. -/
def digitLimit : Nat := 4300

/-- The least natural with too many digits. -/
def digitBound : Nat := Nat.pow 10 digitLimit

/-- Has the number too many digits to be written? -/
def isOverlong (n : Int) : Bool := decide (digitBound ≤ n.natAbs)

/-- A blank that may stand around a numeral: every blank but the ASCII
separators U+001C to U+001F. -/
def isMargin (c : Char) : Bool := isBlank c && !decide (28 ≤ c.toNat ∧ c.toNat ≤ 31)

/-- The characters without the margin on both sides. -/
def trimMargin (cs : List Char) : List Char :=
  trimRightBy isMargin (trimLeftBy isMargin cs)

/-- The value of digits in which single underscores may separate digits, read
after digits of value `acc`.  `gap` holds when a digit has to come next: at the
start and after an underscore. -/
def digitsValue? (acc : Nat) (gap : Bool) : List Char → Option Nat
  | [] => if gap then none else some acc
  | c :: rest =>
      if c = '_' then
        if gap then none else digitsValue? acc true rest
      else
        match DecimalDigit.value? c with
        | some d => digitsValue? (acc * 10 + d) false rest
        | none => none

/-- The sign in front of a numeral, true for minus, and what follows it. -/
def splitSign : List Char → Bool × List Char
  | '-' :: rest => (true, rest)
  | '+' :: rest => (false, rest)
  | cs => (false, cs)

/-- The whole number that a text spells.  Every digit counts toward the limit,
leading zeros too; underscores do not. -/
def readInt? (s : String) : Option Int :=
  let t := splitSign (trimMargin s.toList)
  if digitLimit < t.2.countP (· != '_') then none
  else (digitsValue? 0 true t.2).map (fun n => if t.1 then -(n : Int) else (n : Int))

/-! ## §2. Decimal numbers. -/

/-- A character of a numeral in ASCII: digits of every script as ASCII digits. -/
def toAscii (c : Char) : Char :=
  match DecimalDigit.value? c with
  | some d => Char.ofNat (48 + d)
  | none => c

/-- The characters without the underscores, if each underscore stands between
two digits.  `afterDigit` tells whether a digit was read last. -/
def dropGrouping? (afterDigit : Bool) : List Char → Option (List Char)
  | [] => some []
  | c :: rest =>
      if c = '_' then
        match rest with
        | d :: _ =>
            if afterDigit && DecimalDigit.isAscii d then dropGrouping? false rest else none
        | [] => none
      else (dropGrouping? (DecimalDigit.isAscii c) rest).map (c :: ·)

/-- The value of ASCII digits. -/
def asciiValue (cs : List Char) : Nat :=
  cs.foldl (fun n c => n * 10 + (c.toNat - 48)) 0

/-- The exponent part of a decimal number, zero when there is none. -/
def readExponent? : List Char → Option Int
  | [] => some 0
  | c :: rest =>
      if c = 'e' ∨ c = 'E' then
        let t := splitSign rest
        if t.2.isEmpty || !t.2.all DecimalDigit.isAscii then none
        else some (if t.1 then -(asciiValue t.2 : Int) else (asciiValue t.2 : Int))
      else none

/-- An unsigned decimal number in ASCII: digits before and after the point, at
least one of them, and an exponent. -/
def readDecimal? (negative : Bool) (cs : List Char) : Option Binary64 :=
  let whole := cs.takeWhile DecimalDigit.isAscii
  let afterWhole := cs.dropWhile DecimalDigit.isAscii
  let fraction := match afterWhole with
    | '.' :: rest => rest.takeWhile DecimalDigit.isAscii
    | _ => []
  let tail := match afterWhole with
    | '.' :: rest => rest.dropWhile DecimalDigit.isAscii
    | _ => afterWhole
  if whole.isEmpty && fraction.isEmpty then none
  else
    (readExponent? tail).map (fun e =>
      Binary64.ofDecimal negative (asciiValue (whole ++ fraction)) (e - fraction.length))

/-- The double that a text spells. -/
def readFloat? (s : String) : Option Binary64 :=
  match dropGrouping? false ((trimMargin s.toList).map toAscii) with
  | none => none
  | some cs =>
      let t := splitSign cs
      let name := String.ofList (t.2.map Char.toLower)
      if name = "inf" ∨ name = "infinity" then some (.infinite t.1)
      else if name = "nan" then some .nan
      else readDecimal? t.1 t.2

end Numeral
end FlowTrace
