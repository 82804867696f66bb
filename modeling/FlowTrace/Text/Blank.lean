/-
  FlowTrace.Text.Blank
  ────────────────────────────────
  **BLANKS AND TRIMMING.**

  Trimming and the gaps between tokens use one set of blanks: the Unicode
  white space together with the four ASCII separators U+001C to U+001F.
-/
namespace FlowTrace

/-- Is the character a blank? -/
def isBlank (c : Char) : Bool :=
  let n := c.toNat
  decide ((9 ≤ n ∧ n ≤ 13) ∨ (28 ≤ n ∧ n ≤ 32) ∨ n = 0x85 ∨ n = 0xa0 ∨ n = 0x1680
    ∨ (0x2000 ≤ n ∧ n ≤ 0x200a) ∨ n = 0x2028 ∨ n = 0x2029 ∨ n = 0x202f ∨ n = 0x205f
    ∨ n = 0x3000)

/-- The characters without the leading ones that satisfy `p`. -/
def trimLeftBy (p : Char → Bool) (cs : List Char) : List Char := cs.dropWhile p

/-- The characters without the trailing ones that satisfy `p`. -/
def trimRightBy (p : Char → Bool) (cs : List Char) : List Char :=
  (cs.reverse.dropWhile p).reverse

/-- Text without trailing blanks. -/
def trimRight (s : String) : String := String.ofList (trimRightBy isBlank s.toList)

/-- Text without leading and trailing blanks. -/
def trim (s : String) : String :=
  String.ofList (trimRightBy isBlank (trimLeftBy isBlank s.toList))

end FlowTrace
