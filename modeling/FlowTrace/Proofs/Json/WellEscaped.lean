/-
  FlowTrace.Proofs.Json.WellEscaped
  ────────────────────────────────
  **WHICH STRING TOKENS CAN BE READ.**

  Between the quotes of a string token stand, in any order and number,

      itself             — no quote, no backslash, no control character
      backslash, letter  — one of the eight letters
      backslash, u, hex  — four digits, also of a half of a surrogate pair

  and a token with anything else is refused: another letter behind the backslash, a
  code with fewer digits, a control character, a quote that ends the string too early.
  The reader takes two codes at once where they are the halves of a pair, so a round of
  it is not one of the three; what is left behind it still is a string of them.
-/
import FlowTrace.Proofs.Json.StringToken
import FlowTrace.Proofs.Outcome
import Mathlib.Data.List.TakeWhile

namespace FlowTrace
namespace Json

open Outcome

/-! ## §1. Characters between quotes. -/

/-- A hexadecimal digit. -/
def IsHex (c : Char) : Prop :=
  ('0' ≤ c ∧ c ≤ '9') ∨ ('a' ≤ c ∧ c ≤ 'f') ∨ ('A' ≤ c ∧ c ≤ 'F')

/-- The letters of the short escapes. -/
def escapeLetters : List Char := ['\x22', '\\', '/', 'b', 'f', 'n', 'r', 't']

/-- What may stand between the quotes of a string token. -/
inductive WellEscaped : List Char → Prop where
  | nil : WellEscaped []
  | itself {c : Char} {cs : List Char} (hquote : c ≠ '\x22') (hslash : c ≠ '\\')
      (hcontrol : ¬ c.toNat < 32) (h : WellEscaped cs) : WellEscaped (c :: cs)
  | letter {e : Char} {cs : List Char} (hletter : e ∈ escapeLetters) (h : WellEscaped cs) :
      WellEscaped ('\\' :: e :: cs)
  | code {a b c d : Char} {cs : List Char} (ha : IsHex a) (hb : IsHex b) (hc : IsHex c)
      (hd : IsHex d) (h : WellEscaped cs) : WellEscaped ('\\' :: 'u' :: a :: b :: c :: d :: cs)

theorem exists_hexValue? {c : Char} : (∃ n, hexValue? c = some n) ↔ IsHex c := by
  unfold hexValue? IsHex
  by_cases h1 : '0' ≤ c ∧ c ≤ '9'
  · simp [h1]
  · by_cases h2 : 'a' ≤ c ∧ c ≤ 'f'
    · simp [h1, h2]
    · by_cases h3 : 'A' ≤ c ∧ c ≤ 'F'
      · simp [h1, h2, h3]
      · simp [h1, h2, h3]

theorem exists_letterEscape? {e : Char} : (∃ x, letterEscape? e = some x) ↔ e ∈ escapeLetters := by
  simp only [escapeLetters, List.mem_cons, List.not_mem_nil, or_false]
  constructor
  · rintro ⟨x, hx⟩
    refine Decidable.byContradiction fun hother => ?_
    simp only [not_or] at hother
    simp [letterEscape?, hother] at hx
  · rintro (rfl | rfl | rfl | rfl | rfl | rfl | rfl | rfl) <;> exact ⟨_, rfl⟩

/-! ## §2. Codes. -/

variable {cs rest : List Char}

theorem hexFour?_eq_some {xs : List Char} {n : Nat} (h : hexFour? xs = some (n, rest)) :
    ∃ a b c d e after, xs = a :: b :: c :: d :: e :: after ∧ rest = e :: after
      ∧ IsHex a ∧ IsHex b ∧ IsHex c ∧ IsHex d := by
  unfold hexFour? at h
  split at h
  · next a b c d e after =>
    split at h
    · next ha hb hc hd =>
      cases h
      exact ⟨a, b, c, d, e, after, rfl, rfl, exists_hexValue?.mp ⟨_, ha⟩,
        exists_hexValue?.mp ⟨_, hb⟩, exists_hexValue?.mp ⟨_, hc⟩, exists_hexValue?.mp ⟨_, hd⟩⟩
    · cases h
  · cases h

/-- Four digits in front of the closing quote stand in front of what is left. -/
theorem hexFour?_quote {n : Nat} (h : hexFour? (cs ++ ['\x22']) = some (n, rest)) :
    ∃ a b c d left, cs = a :: b :: c :: d :: left ∧ rest = left ++ ['\x22']
      ∧ IsHex a ∧ IsHex b ∧ IsHex c ∧ IsHex d := by
  obtain ⟨a, b, c, d, e, after, heq, rfl, ha, hb, hc, hd⟩ := hexFour?_eq_some h
  -- a fifth character has to follow the four, so the quote is none of them
  rcases cs with _ | ⟨a', _ | ⟨b', _ | ⟨c', _ | ⟨d', left⟩⟩⟩⟩
  · simp at heq
  · simp at heq
  · simp at heq
  · simp at heq
  · simp only [List.cons_append, List.cons.injEq] at heq
    obtain ⟨rfl, rfl, rfl, rfl, hleft⟩ := heq
    exact ⟨_, _, _, _, left, rfl, hleft.symm, ha, hb, hc, hd⟩

theorem hexFour?_of_isHex {a b c d : Char} (ha : IsHex a) (hb : IsHex b) (hc : IsHex c)
    (hd : IsHex d) (cs : List Char) :
    ∃ n, hexFour? (a :: b :: c :: d :: (cs ++ ['\x22'])) = some (n, cs ++ ['\x22']) := by
  obtain ⟨w, hw⟩ := exists_hexValue?.mpr ha
  obtain ⟨x, hx⟩ := exists_hexValue?.mpr hb
  obtain ⟨y, hy⟩ := exists_hexValue?.mpr hc
  obtain ⟨z, hz⟩ := exists_hexValue?.mpr hd
  obtain ⟨e, after, heq⟩ := List.exists_cons_of_ne_nil (l := cs ++ ['\x22']) (by simp)
  refine ⟨((w * 16 + x) * 16 + y) * 16 + z, ?_⟩
  rw [heq]
  simp only [hexFour?, hw, hx, hy, hz]

/-- A second half in front of the closing quote is a code. -/
theorem lowSurrogate?_quote {n : Nat} (h : lowSurrogate? (cs ++ ['\x22']) = some (n, rest)) :
    ∃ a b c d left, cs = '\\' :: 'u' :: a :: b :: c :: d :: left ∧ rest = left ++ ['\x22']
      ∧ IsHex a ∧ IsHex b ∧ IsHex c ∧ IsHex d := by
  unfold lowSurrogate? at h
  split at h
  · next more heq =>
    split at h
    · next m after hfour =>
      have hrest : after = rest := by
        split at h
        · cases h
          rfl
        · cases h
      subst hrest
      rcases cs with _ | ⟨x, _ | ⟨y, left⟩⟩
      · simp at heq
      · simp at heq
      · simp only [List.cons_append, List.cons.injEq] at heq
        obtain ⟨rfl, rfl, rfl⟩ := heq
        obtain ⟨a, b, c, d, left', rfl, hleft, hhex⟩ := hexFour?_quote hfour
        exact ⟨a, b, c, d, left', rfl, hleft, hhex⟩
    · cases h
  · cases h

/-- A code that the reader takes, alone or with the second half of its pair: if what is
left is well escaped, the whole was. -/
theorem wellEscaped_of_unicodeEscape? {p : CodePoint}
    (h : unicodeEscape? (cs ++ ['\x22']) = some (p, rest)) :
    ∃ left, rest = left ++ ['\x22'] ∧ (WellEscaped left → WellEscaped ('\\' :: 'u' :: cs)) := by
  unfold unicodeEscape? at h
  split at h
  · cases h
  · next n after hfour =>
    obtain ⟨a, b, c, d, left, rfl, rfl, ha, hb, hc, hd⟩ := hexFour?_quote hfour
    -- what is left behind this code alone
    have halone : ∃ left', left ++ ['\x22'] = left' ++ ['\x22']
        ∧ (WellEscaped left' → WellEscaped ('\\' :: 'u' :: a :: b :: c :: d :: left)) :=
      ⟨left, rfl, .code ha hb hc hd⟩
    split at h
    · split at h
      · next m after hlow =>
        simp only [Option.some.injEq, Prod.mk.injEq] at h
        obtain ⟨-, rfl⟩ := h
        obtain ⟨a', b', c', d', left', rfl, rfl, ha', hb', hc', hd'⟩ := lowSurrogate?_quote hlow
        exact ⟨left', rfl, fun hleft => .code ha hb hc hd (.code ha' hb' hc' hd' hleft)⟩
      · cases h
        exact halone
    · cases h
      exact halone

/-- The reader takes a code, and what is left is well escaped. -/
theorem unicodeEscape?_of_wellEscaped {a b c d : Char} (ha : IsHex a) (hb : IsHex b)
    (hc : IsHex c) (hd : IsHex d) (h : WellEscaped cs) :
    ∃ p left, unicodeEscape? (a :: b :: c :: d :: (cs ++ ['\x22'])) = some (p, left ++ ['\x22'])
      ∧ WellEscaped left ∧ left.length ≤ cs.length := by
  obtain ⟨n, hfour⟩ := hexFour?_of_isHex ha hb hc hd cs
  unfold unicodeEscape?
  rw [hfour]
  by_cases hhigh : 0xd800 ≤ n ∧ n ≤ 0xdbff
  · simp only [if_pos hhigh]
    cases hlow : lowSurrogate? (cs ++ ['\x22']) with
    | none => exact ⟨_, cs, rfl, h, Nat.le_refl _⟩
    | some low =>
      obtain ⟨m, after⟩ := low
      obtain ⟨a', b', c', d', left, rfl, rfl, -⟩ := lowSurrogate?_quote hlow
      -- a well-escaped string with the backslash and `u` in front begins with a code
      cases h with
      | itself _ hslash => exact absurd rfl hslash
      | letter hletter => exact absurd hletter (by decide)
      | code _ _ _ _ hleft =>
        refine ⟨_, left, rfl, hleft, ?_⟩
        simp only [List.length_cons]
        omega
  · simp only [if_neg hhigh]
    exact ⟨_, cs, rfl, h, Nat.le_refl _⟩

/-! ## §3. The reader. -/

theorem readStringBody_cons (start fuel : Nat) (c : Char) (rest : List Char) :
    readStringBody start (fuel + 1) (c :: rest)
      = if c = '\x22' then .ok ([], rest)
        else if c = '\\' then
          match rest with
          | [] => .error ⟨.unterminatedString, start⟩
          | e :: after =>
              if e = 'u' then
                match unicodeEscape? after with
                | none => .error ⟨.badUnicodeEscape, rest.length⟩
                | some (p, tail) =>
                    (readStringBody start fuel tail).map (fun r => (p.encode ++ r.1, r.2))
              else
                match letterEscape? e with
                | none => .error ⟨.badEscape, rest.length + 1⟩
                | some x => (readStringBody start fuel after).map (fun r => (x :: r.1, r.2))
        else if c.toNat < 32 then .error ⟨.controlCharacter, rest.length + 1⟩
        else (readStringBody start fuel rest).map (fun r => (c :: r.1, r.2)) := rfl

/-- The reader comes to the closing quote through well-escaped characters, or it stops at
a quote in front of it. -/
theorem wellEscaped_of_readStringBody {start fuel : Nat} {text : List Char}
    (h : readStringBody start fuel (cs ++ ['\x22']) = .ok (text, rest)) :
    (WellEscaped cs ∧ rest = []) ∨ '\x22' ∈ rest := by
  induction fuel generalizing cs text with
  | zero => cases h
  | succ fuel ih =>
    cases cs with
    | nil =>
      cases h
      exact .inl ⟨.nil, rfl⟩
    | cons c cs =>
      rw [List.cons_append, readStringBody_cons] at h
      by_cases hquote : c = '\x22'
      · rw [if_pos hquote] at h
        cases h
        exact .inr (by simp)
      rw [if_neg hquote] at h
      by_cases hslash : c = '\\'
      · subst hslash
        rw [if_pos rfl] at h
        cases cs with
        | nil =>
          -- the backslash takes the closing quote, and the text ends without another
          obtain ⟨_, hnone, -⟩ := map_eq_ok.mp
            (show (readStringBody start fuel []).map (fun r => ('\x22' :: r.1, r.2)) = _ from h)
          cases fuel <;> cases hnone
        | cons e cs =>
          simp only [List.cons_append] at h
          split at h
          · next hu =>
            subst hu
            split at h
            · cases h
            · next p tail hcode =>
              obtain ⟨left, rfl, hleft⟩ := wellEscaped_of_unicodeEscape? hcode
              obtain ⟨⟨text', rest⟩, htext, heq⟩ := map_eq_ok.mp h
              cases heq
              exact (ih htext).imp_left (fun hrest => ⟨hleft hrest.1, hrest.2⟩)
          · split at h
            · cases h
            · next x hletter =>
              obtain ⟨⟨text', rest⟩, htext, heq⟩ := map_eq_ok.mp h
              cases heq
              exact (ih htext).imp_left
                (fun hrest => ⟨.letter (exists_letterEscape?.mp ⟨x, hletter⟩) hrest.1, hrest.2⟩)
      · rw [if_neg hslash] at h
        split at h
        · cases h
        · next hcontrol =>
          obtain ⟨⟨text', rest⟩, htext, heq⟩ := map_eq_ok.mp h
          cases heq
          exact (ih htext).imp_left
            (fun hrest => ⟨.itself hquote hslash hcontrol hrest.1, hrest.2⟩)

/-- The reader takes well-escaped characters up to the closing quote. -/
theorem readStringBody_of_wellEscaped (start : Nat) {fuel : Nat} (h : WellEscaped cs)
    (hfuel : cs.length < fuel) :
    ∃ text, readStringBody start fuel (cs ++ ['\x22']) = .ok (text, []) := by
  have hbackslash : ('\\' : Char) ≠ '\x22' := by decide
  induction fuel generalizing cs with
  | zero => omega
  | succ fuel ih =>
    cases h with
    | nil => exact ⟨[], rfl⟩
    | @itself c cs hquote hslash hcontrol h =>
      obtain ⟨text, htext⟩ := ih h (by simpa using hfuel)
      refine ⟨c :: text, ?_⟩
      rw [List.cons_append, readStringBody_cons, if_neg hquote, if_neg hslash, if_neg hcontrol, htext]
      rfl
    | @letter e cs hletter h =>
      have hu : e ≠ 'u' := by
        rintro rfl
        exact absurd hletter (by decide)
      obtain ⟨x, hx⟩ := exists_letterEscape?.mpr hletter
      obtain ⟨text, htext⟩ := ih h (by simp only [List.length_cons] at hfuel; omega)
      refine ⟨x :: text, ?_⟩
      rw [List.cons_append, List.cons_append, readStringBody_cons, if_neg hbackslash, if_pos rfl]
      simp only [if_neg hu, hx, htext]
      rfl
    | @code a b c d cs ha hb hc hd h =>
      -- a code takes the second half of its pair with it, if there is one
      obtain ⟨p, left, hcode, hleft, hlength⟩ := unicodeEscape?_of_wellEscaped ha hb hc hd h
      obtain ⟨text, htext⟩ := ih hleft (by simp only [List.length_cons] at hfuel; omega)
      refine ⟨p.encode ++ text, ?_⟩
      simp only [List.cons_append]
      rw [readStringBody_cons, if_neg hbackslash, if_pos rfl]
      simp only [if_true, hcode, htext]
      rfl

/-- A text that spells a value is taken up by it, but for white space. -/
theorem readValue_of_readWithin {room : Nat} {c : Char} {v : Json} (hspace : isSpace c = false)
    (hmark : c ≠ Char.ofNat 0xfeff) (h : readWithin room (c :: cs) = .ok v) :
    ∃ rest, readValue room (2 * (c :: cs).length + 2) (c :: cs) = .ok (v, rest)
      ∧ ∀ x ∈ rest, isSpace x = true := by
  obtain ⟨hstart, hskip⟩ := begins_visibly hspace hmark cs
  rw [readWithin, readChars, if_neg hstart, hskip] at h
  cases hvalue : readValue room (2 * (c :: cs).length + 2) (c :: cs) with
  | error e =>
    rw [hvalue] at h
    cases h
  | ok r =>
    obtain ⟨w, rest⟩ := r
    rw [hvalue] at h
    cases hrest : skipSpace rest with
    | nil =>
      simp only [hrest] at h
      cases h
      exact ⟨rest, rfl, List.dropWhile_eq_nil_iff.mp hrest⟩
    | cons x xs =>
      simp only [hrest] at h
      cases h

/-- **A string token can be read exactly if it is well escaped.** -/
theorem exists_readWithin_token (room : Nat) (cs : List Char) :
    (∃ v, readWithin room ('\x22' :: (cs ++ ['\x22'])) = .ok v) ↔ WellEscaped cs := by
  constructor
  · rintro ⟨v, h⟩
    obtain ⟨rest, hvalue, hspace⟩ := readValue_of_readWithin rfl (by decide) h
    unfold readValue at hvalue
    rw [if_pos rfl, readString] at hvalue
    obtain ⟨⟨text, rest⟩, hbody, heq⟩ := map_eq_ok.mp hvalue
    cases heq
    rcases wellEscaped_of_readStringBody hbody with hescaped | hquote
    · exact hescaped.1
    · -- a quote is no white space
      exact absurd (hspace _ hquote) (by decide)
  · intro h
    have hfuel : cs.length < (cs ++ ['\x22']).length + 1 := by
      rw [List.length_append]
      omega
    obtain ⟨text, htext⟩ :=
      readStringBody_of_wellEscaped ((cs ++ ['\x22']).length + 1) h hfuel
    refine ⟨.str (String.ofList text), ?_⟩
    apply readWithin_of_readValue (by decide) (by decide)
    unfold readValue
    rw [if_pos rfl, readString, htext]
    rfl

end Json
end FlowTrace
