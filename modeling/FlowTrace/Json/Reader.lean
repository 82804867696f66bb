/-
  FlowTrace.Json.Reader
  ────────────────────────────────
  **READING JSON TEXT.**

  Strict JSON, with the names `NaN`, `Infinity` and `-Infinity` for doubles
  that have no numeral.  An error names what was expected and where: readers
  work on the characters that are left, so a place is kept as the number of
  characters left there, and turned into line and column at the end.

  A text may be well formed and still not be read: a whole number with too
  many digits and lists or objects nested too deeply are faults of their own,
  found where reading comes to them.
-/
import FlowTrace.Json.Nesting
import FlowTrace.Number.Numeral
import FlowTrace.Text.CodePoint

namespace FlowTrace
namespace Json

/-! ## §1. Errors. -/

/-- What is wrong with a text that is not JSON. -/
inductive Problem where
  | expectingValue
  | expectingName
  | expectingColon
  | expectingComma
  | unterminatedString
  | controlCharacter
  | badEscape
  | badUnicodeEscape
  | extraData
  | byteOrderMark
  | overlongNumber
  | deepNesting
  deriving DecidableEq, Repr

/-- The wording of a problem. -/
def Problem.message : Problem → String
  | expectingValue => "Expecting value"
  | expectingName => "Expecting property name enclosed in double quotes"
  | expectingColon => "Expecting ':' delimiter"
  | expectingComma => "Expecting ',' delimiter"
  | unterminatedString => "Unterminated string starting at"
  | controlCharacter => "Invalid control character at"
  | badEscape => "Invalid \\escape"
  | badUnicodeEscape => "Invalid \\uXXXX escape"
  | extraData => "Extra data"
  | byteOrderMark => "Unexpected UTF-8 BOM (decode using utf-8-sig)"
  | overlongNumber => "Too many digits"
  | deepNesting => "Nested too deeply"

/-- A problem and the number of characters left where it was found. -/
structure ReadError where
  problem : Problem
  left : Nat
  deriving DecidableEq, Repr

/-- The wording of an error in the text `cs`: the problem, then line, column
and index, all in code points. -/
def ReadError.message (e : ReadError) (cs : List Char) : String :=
  let before := CodePoint.decode (cs.take (cs.length - e.left))
  let line := before.count (.char '\n') + 1
  let column := (before.reverse.takeWhile (· != .char '\n')).length + 1
  e.problem.message ++ ": line " ++ toString line ++ " column " ++ toString column
    ++ " (char " ++ toString before.length ++ ")"

/-- The fault that an error in the text `cs` is. -/
def ReadError.fault (e : ReadError) (cs : List Char) : Fault :=
  match e.problem with
  | .overlongNumber => .badValue (e.message cs)
  | .deepNesting => .tooDeep
  | _ => .notJson (e.message cs)

/-- The outcome of a reader: a value and the characters after it. -/
abbrev Reading (α : Type) := Except ReadError (α × List Char)

/-! ## §2. Strings. -/

/-- The value of a hexadecimal digit. -/
def hexValue? (c : Char) : Option Nat :=
  if '0' ≤ c ∧ c ≤ '9' then some (c.toNat - 48)
  else if 'a' ≤ c ∧ c ≤ 'f' then some (c.toNat - 87)
  else if 'A' ≤ c ∧ c ≤ 'F' then some (c.toNat - 55)
  else none

/-- The value of four hexadecimal digits at the front.  They are not the end of
the text: the quote that closes their string is still to come. -/
def hexFour? : List Char → Option (Nat × List Char)
  | a :: b :: c :: d :: e :: rest =>
      match hexValue? a, hexValue? b, hexValue? c, hexValue? d with
      | some w, some x, some y, some z => some (((w * 16 + x) * 16 + y) * 16 + z, e :: rest)
      | _, _, _, _ => none
  | _ => none

/-- The second half of a surrogate pair at the front: a `\u` escape of a low
surrogate. -/
def lowSurrogate? : List Char → Option (Nat × List Char)
  | '\\' :: 'u' :: rest =>
      match hexFour? rest with
      | some (n, after) => if 0xdc00 ≤ n ∧ n ≤ 0xdfff then some (n, after) else none
      | none => none
  | _ => none

/-- The code point that a `\u` escape stands for, after its `u`.  A high and a
low surrogate make one character; a lone one is a half. -/
def unicodeEscape? (cs : List Char) : Option (CodePoint × List Char) :=
  match hexFour? cs with
  | none => none
  | some (n, rest) =>
      if 0xd800 ≤ n ∧ n ≤ 0xdbff then
        match lowSurrogate? rest with
        | some (m, after) =>
            some (.ofNat (0x10000 + (n - 0xd800) * 0x400 + (m - 0xdc00)), after)
        | none => some (.ofNat n, rest)
      else some (.ofNat n, rest)

/-- The character that a one-letter escape stands for. -/
def letterEscape? (c : Char) : Option Char :=
  if c = '\x22' then some '\x22'
  else if c = '\\' then some '\\'
  else if c = '/' then some '/'
  else if c = 'b' then some '\x08'
  else if c = 'f' then some '\x0c'
  else if c = 'n' then some '\n'
  else if c = 'r' then some '\r'
  else if c = 't' then some '\t'
  else none

/-- The rest of a string after its opening quote; `start` is the number of
characters left at that quote.  Every round uses up at least one character, so
`fuel` above their number is enough. -/
def readStringBody (start : Nat) : Nat → List Char → Reading (List Char)
  | 0, _ => .error ⟨.unterminatedString, start⟩
  | _ + 1, [] => .error ⟨.unterminatedString, start⟩
  | fuel + 1, c :: rest =>
      if c = '\x22' then .ok ([], rest)
      else if c = '\\' then
        match rest with
        | [] => .error ⟨.unterminatedString, start⟩
        | e :: after =>
            if e = 'u' then
              match unicodeEscape? after with
              | none => .error ⟨.badUnicodeEscape, rest.length⟩
              | some (p, tail) =>
                  (readStringBody start fuel tail).map (fun r => (p.encode ++ r.1, r.2))
            else
              match letterEscape? e with
              | none => .error ⟨.badEscape, rest.length + 1⟩
              | some x => (readStringBody start fuel after).map (fun r => (x :: r.1, r.2))
      else if c.toNat < 32 then .error ⟨.controlCharacter, rest.length + 1⟩
      else (readStringBody start fuel rest).map (fun r => (c :: r.1, r.2))

/-- The rest of a string after its opening quote. -/
def readString (cs : List Char) : Reading (List Char) :=
  readStringBody (cs.length + 1) (cs.length + 1) cs

/-! ## §3. Names and numbers. -/

/-- What follows `word` at the front of `cs`, if it stands there. -/
def after? : (word cs : List Char) → Option (List Char)
  | [], cs => some cs
  | w :: word, c :: cs => if w = c then after? word cs else none
  | _ :: _, [] => none

/-- The digits at the front. -/
def digits (cs : List Char) : List Char := cs.takeWhile DecimalDigit.isAscii

/-- What follows the digits at the front. -/
def afterDigits (cs : List Char) : List Char := cs.dropWhile DecimalDigit.isAscii

/-- The fraction at the front, its digits only: a point and at least one digit. -/
def fraction : List Char → List Char × List Char
  | '.' :: rest => if (digits rest).isEmpty then ([], '.' :: rest) else (digits rest, afterDigits rest)
  | cs => ([], cs)

/-- The exponent at the front, `none` unless the letter is followed by an
optional sign and at least one digit. -/
def exponent? : List Char → Option (Int × List Char)
  | c :: rest =>
      if c = 'e' ∨ c = 'E' then
        let t := Numeral.splitSign rest
        if (digits t.2).isEmpty then none
        else
          let n : Int := Numeral.asciiValue (digits t.2)
          some (if t.1 then -n else n, afterDigits t.2)
      else none
  | [] => none

/-- The digits of a whole part: a lone zero or digits that do not start with
one. -/
def wholePart? : List Char → Option (List Char × List Char)
  | '0' :: rest => some (['0'], rest)
  | cs => if (digits cs).isEmpty then none else some (digits cs, afterDigits cs)

/-- The whole number with some digits, unless they are too many. -/
def wholeNumber (negative : Bool) (ds : List Char) : Except Problem Json :=
  if Numeral.digitLimit < ds.length then .error .overlongNumber
  else
    let n : Int := Numeral.asciiValue ds
    .ok (int (if negative then -n else n))

/-- The double with the digits of a whole part and a fraction, and an exponent. -/
def decimal (negative : Bool) (whole fraction : List Char) (exponent : Int) : Json :=
  float (Binary64.ofDecimal negative (Numeral.asciiValue (whole ++ fraction))
    (exponent - fraction.length))

/-- A number at the front: a whole number unless it has a fraction or an
exponent. -/
def readNumber? (cs : List Char) : Option (Except Problem Json × List Char) :=
  let negative := cs.head? == some '-'
  let unsigned := if negative then cs.drop 1 else cs
  match wholePart? unsigned with
  | none => none
  | some (whole, afterWhole) =>
      let f := fraction afterWhole
      match exponent? f.2 with
      | some (e, rest) => some (.ok (decimal negative whole f.1 e), rest)
      | none =>
          if f.1.isEmpty then some (wholeNumber negative whole, f.2)
          else some (.ok (decimal negative whole f.1 0), f.2)

/-- The names of values. -/
def names : List (String × Json) :=
  [("null", null), ("true", bool true), ("false", bool false), ("NaN", float .nan),
    ("Infinity", float (.infinite false)), ("-Infinity", float (.infinite true))]

/-- A name or a number at the front. -/
def readAtom (cs : List Char) : Reading Json :=
  match names.findSome? (fun e => (after? e.1.toList cs).map (fun rest => (e.2, rest))) with
  | some r => .ok r
  | none =>
      match readNumber? cs with
      | some (.ok v, rest) => .ok (v, rest)
      | some (.error problem, _) => .error ⟨problem, cs.length⟩
      | none => .error ⟨.expectingValue, cs.length⟩

/-! ## §4. Values. -/

/-- Is the character white space between tokens? -/
def isSpace (c : Char) : Bool := c == ' ' || c == '\t' || c == '\n' || c == '\r'

/-- The characters after leading white space. -/
def skipSpace (cs : List Char) : List Char := cs.dropWhile isSpace

mutual

/-- A value at the front, with `room` for that many lists and objects inside one
another.  Two rounds use up at least one character, so `fuel` above twice their
number is enough. -/
def readValue (room : Nat) : Nat → List Char → Reading Json
  | 0, cs => .error ⟨.expectingValue, cs.length⟩
  | _ + 1, [] => .error ⟨.expectingValue, 0⟩
  | fuel + 1, c :: rest =>
      if c = '\x22' then (readString rest).map (fun r => (str (String.ofList r.1), r.2))
      else if c = '[' ∨ c = '{' then
        match room with
        | 0 => .error ⟨.deepNesting, rest.length + 1⟩
        | room + 1 =>
            if c = '[' then
              match skipSpace rest with
              | ']' :: after => .ok (arr [], after)
              | items => (readItems room fuel items).map (fun r => (arr r.1, r.2))
            else
              match skipSpace rest with
              | '}' :: after => .ok (obj [], after)
              | fields =>
                  (readFields room fuel fields).map (fun r => (obj (Fields.ofList r.1), r.2))
      else readAtom (c :: rest)

/-- The items of a list that has some, through its closing bracket. -/
def readItems (room : Nat) : Nat → List Char → Reading (List Json)
  | 0, cs => .error ⟨.expectingValue, cs.length⟩
  | fuel + 1, cs =>
      match readValue room fuel cs with
      | .error e => .error e
      | .ok (v, rest) =>
          match skipSpace rest with
          | ']' :: after => .ok ([v], after)
          | ',' :: after => (readItems room fuel (skipSpace after)).map (fun r => (v :: r.1, r.2))
          | other => .error ⟨.expectingComma, other.length⟩

/-- The fields of an object that has some, through its closing brace. -/
def readFields (room : Nat) : Nat → List Char → Reading (List (String × Json))
  | 0, cs => .error ⟨.expectingName, cs.length⟩
  | fuel + 1, cs =>
      match cs with
      | '\x22' :: name =>
          match readString name with
          | .error e => .error e
          | .ok (key, afterKey) =>
              match skipSpace afterKey with
              | ':' :: value =>
                  match readValue room fuel (skipSpace value) with
                  | .error e => .error e
                  | .ok (v, rest) =>
                      match skipSpace rest with
                      | '}' :: after => .ok ([(String.ofList key, v)], after)
                      | ',' :: after =>
                          (readFields room fuel (skipSpace after)).map
                            (fun r => ((String.ofList key, v) :: r.1, r.2))
                      | other => .error ⟨.expectingComma, other.length⟩
              | other => .error ⟨.expectingColon, other.length⟩
      | other => .error ⟨.expectingName, other.length⟩

end

/-- The value that the characters spell, with `room` for that many lists and
objects inside one another. -/
def readChars (room : Nat) (cs : List Char) : Except ReadError Json :=
  if cs.head? = some (Char.ofNat 0xfeff) then .error ⟨.byteOrderMark, cs.length⟩
  else
    match readValue room (2 * cs.length + 2) (skipSpace cs) with
    | .error e => .error e
    | .ok (v, rest) =>
        match skipSpace rest with
        | [] => .ok v
        | other => .error ⟨.extraData, other.length⟩

/-- The value that the characters spell, or what is wrong with them. -/
def readWithin (room : Nat) (cs : List Char) : Except Fault Json :=
  match readChars room cs with
  | .ok v => .ok v
  | .error e => .error (e.fault cs)

/-- The value that a text spells, or what is wrong with it. -/
def read (room : Nat) (s : String) : Except Fault Json := readWithin room s.toList

end Json
end FlowTrace
