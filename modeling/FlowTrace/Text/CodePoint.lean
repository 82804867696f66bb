/-
  FlowTrace.Text.CodePoint
  ────────────────────────────────
  **TEXTS WITH LONE SURROGATES.**

  An escape in JSON text may name one half of a surrogate pair by itself, so a
  text is a sequence of code points: characters and halves.  A text with a
  half can be read, compared and shown, but not written to a file.

  A string has characters only, so it holds a text in a marked form: a half is
  the mark U+10FFFF and a character that tells which half it is, the mark
  itself is written twice, and any other character is itself.

      decode (ps.flatMap encode) = ps

  So different texts have different strings.  What counts, orders, searches
  or shows the code points of a text decodes it first.  No character below
  U+100000 is part of a marked pair, so a string may be cut at those as it
  stands.
-/
namespace FlowTrace

/-- A code point of a text: a character, or one of the halves of surrogate pairs,
counted from U+D800. -/
inductive CodePoint where
  | char (c : Char)
  | half (index : Fin 2048)
  deriving DecidableEq, Repr

namespace CodePoint

/-! ## §1. Numbers. -/

/-- The code point with a number. -/
def ofNat (n : Nat) : CodePoint :=
  if h : 0xd800 ≤ n ∧ n - 0xd800 < 2048 then half ⟨n - 0xd800, h.2⟩ else char (Char.ofNat n)

/-- The number of a code point. -/
def toNat : CodePoint → Nat
  | char c => c.toNat
  | half i => 0xd800 + i.val

/-! ## §2. The marked form. -/

/-- The character that begins a marked pair. -/
def mark : Char := Char.ofNat 0x10ffff

/-- A code point in marked form. -/
def encode : CodePoint → List Char
  | char c => if c = mark then [mark, mark] else [c]
  | half i => [mark, Char.ofNat (0x100000 + i.val)]

/-- The code point that a character after the mark tells. -/
def ofMarked (c : Char) : CodePoint :=
  if h : 0x100000 ≤ c.toNat ∧ c.toNat - 0x100000 < 2048 then half ⟨c.toNat - 0x100000, h.2⟩
  else char c

/-- The code points of characters in marked form. -/
def decode : List Char → List CodePoint
  | [] => []
  | [c] => [char c]
  | c :: d :: rest =>
      if c = mark then ofMarked d :: decode rest else char c :: decode (d :: rest)

/-- A character that is not the mark is itself. -/
theorem decode_cons_of_ne {c : Char} (h : c ≠ mark) (cs : List Char) :
    decode (c :: cs) = char c :: decode cs := by
  match cs with
  | [] => rfl
  | d :: rest => rw [decode, if_neg h]

/-- The mark stands for itself after the mark. -/
theorem ofMarked_mark : ofMarked mark = char mark := by decide

/-- The character of a half tells that half. -/
theorem ofMarked_half (i : Fin 2048) : ofMarked (Char.ofNat (0x100000 + i.val)) = half i := by
  have hv : (0x100000 + i.val).isValidChar := by
    simp only [Nat.isValidChar]
    omega
  have hn : (Char.ofNat (0x100000 + i.val)).toNat = 0x100000 + i.val := by
    rw [Char.ofNat, dif_pos hv]
    rfl
  rw [ofMarked, dif_pos (by omega)]
  simp [hn]

/-- A code point is read back from its marked form. -/
theorem decode_encode_append (p : CodePoint) (cs : List Char) :
    decode (p.encode ++ cs) = p :: decode cs := by
  match p with
  | char c =>
      by_cases h : c = mark
      · subst h
        simp only [encode, if_true, List.cons_append, List.nil_append, decode, ofMarked_mark]
      · rw [encode, if_neg h]
        exact decode_cons_of_ne h cs
  | half i => simp only [encode, List.cons_append, List.nil_append, decode, if_true, ofMarked_half]

/-- A text is read back from its marked form. -/
theorem decode_flatMap_encode (ps : List CodePoint) : decode (ps.flatMap encode) = ps := by
  induction ps with
  | nil => rfl
  | cons p ps ih => rw [List.flatMap_cons, decode_encode_append, ih]

/-! ## §3. Strings. -/

/-- The code points of the text that a string holds. -/
def split (s : String) : List CodePoint := decode s.toList

/-- The string that holds a text. -/
def join (ps : List CodePoint) : String := String.ofList (ps.flatMap encode)

/-- A string holds the text it was made of. -/
theorem split_join (ps : List CodePoint) : split (join ps) = ps := by
  rw [split, join, String.toList_ofList, decode_flatMap_encode]

/-- The string that holds a text of characters. -/
def ofPlain (s : String) : String := join (s.toList.map char)

/-- The number of code points. -/
def count (s : String) : Nat := (split s).length

/-- Does the text hold a half? -/
def hasHalf (s : String) : Bool :=
  (split s).any (fun p => match p with | char _ => false | half _ => true)

/-- A code point as characters, an escape for a half. -/
def plain : CodePoint → List Char
  | char c => [c]
  | half i => '\\' :: 'u' :: Nat.toDigits 16 (0xd800 + i.val)

/-- The text in characters, with an escape for every half. -/
def toPlain (s : String) : String := String.ofList ((split s).flatMap plain)

end CodePoint

/-- Does one text come before another in the order of code points? -/
def precedes (s t : String) : Bool :=
  decide ((CodePoint.split s).map CodePoint.toNat < (CodePoint.split t).map CodePoint.toNat)

end FlowTrace
