/-
  FlowTrace.Proofs.Json.StringToken
  ────────────────────────────────
  **STRING TOKENS ARE READ BACK.**

  A string token is its characters, each escaped if it has to be, between
  quotes.  Three readers meet such tokens: the JSON reader, and in scripts the
  scanner, which only looks for the closing quote.  Both stop at the right
  quote whatever the string holds, because an escaped character is one of three
  things:

      itself             — no quote, no backslash, no control character
      backslash, letter  — a letter that stands for the character, not `u`
      backslash, u, hex  — four digits, for a control character
-/
import FlowTrace.Block.Scan

namespace FlowTrace
namespace Json

/-! ## §1. Escaped characters. -/

/-- What an escaped character can be. -/
inductive Escaped (c : Char) : List Char → Prop where
  | itself (hquote : c ≠ '\x22') (hslash : c ≠ '\\') (hcontrol : ¬ c.toNat < 32) : Escaped c [c]
  | letter (e : Char) (hu : e ≠ 'u') (hletter : letterEscape? e = some c) : Escaped c ['\\', e]
  | code (hcontrol : c.toNat < 32) : Escaped c ('\\' :: 'u' :: Quoted.hex 4 c.toNat)

theorem escaped_encodeChar (c : Char) : Escaped c (encodeChar c) := by
  have letter : ∀ e x : Char, c = x → e ≠ 'u' → letterEscape? e = some x →
      Escaped c ['\\', e] := by
    rintro e x rfl hu hletter
    exact .letter e hu hletter
  unfold encodeChar
  -- the quote, the backslash and the five controls that have a letter, in the order of the encoder
  by_cases h1 : c = '\x22'
  · rw [if_pos h1]
    exact letter _ _ h1 (by decide) rfl
  by_cases h2 : c = '\\'
  · rw [if_neg h1, if_pos h2]
    exact letter _ _ h2 (by decide) rfl
  rw [if_neg h1, if_neg h2]
  by_cases h3 : c = '\n'
  · rw [if_pos h3]
    exact letter _ _ h3 (by decide) rfl
  by_cases h4 : c = '\r'
  · rw [if_neg h3, if_pos h4]
    exact letter _ _ h4 (by decide) rfl
  rw [if_neg h3, if_neg h4]
  by_cases h5 : c = '\t'
  · rw [if_pos h5]
    exact letter _ _ h5 (by decide) rfl
  by_cases h6 : c = '\x0c'
  · rw [if_neg h5, if_pos h6]
    exact letter _ _ h6 (by decide) rfl
  rw [if_neg h5, if_neg h6]
  by_cases h7 : c = '\x08'
  · rw [if_pos h7]
    exact letter _ _ h7 (by decide) rfl
  rw [if_neg h7]
  -- the other controls have a code, and all else stands for itself
  by_cases h8 : c.toNat < 32
  · rw [if_pos h8]
    exact .code h8
  · rw [if_neg h8]
    exact .itself h1 h2 h8

/-- The four digits of a control character. -/
theorem hex_four_of_lt : ∀ n < 32,
    Quoted.hex 4 n = ['0', '0', Nat.digitChar (n / 16), Nat.digitChar (n % 16)] := by
  decide

/-- No control character is left in an escaped one. -/
theorem not_control_of_mem_encodeChar {c x : Char} (h : x ∈ encodeChar c) : ¬ x.toNat < 32 := by
  have hletter : ∀ e y : Char, letterEscape? e = some y → ¬ e.toNat < 32 := by
    intro e y he
    unfold letterEscape? at he
    -- the letters of escapes, one after the other
    repeat' split at he
    all_goals cases he
    all_goals
      subst_vars
      decide
  have hescaped := escaped_encodeChar c
  generalize encodeChar c = es at hescaped h
  cases hescaped with
  | itself hquote hslash hcontrol =>
    rw [List.mem_singleton.mp h]
    exact hcontrol
  | letter e hu he =>
    simp only [List.mem_cons, List.not_mem_nil, or_false] at h
    rcases h with rfl | rfl
    · decide
    · exact hletter _ c he
  | code hcontrol =>
    have hdigit : ∀ n < 16, ¬ (Nat.digitChar n).toNat < 32 := by decide
    rw [hex_four_of_lt _ hcontrol] at h
    simp only [List.mem_cons, List.not_mem_nil, or_false] at h
    rcases h with rfl | rfl | rfl | rfl | rfl | rfl
    · decide
    · decide
    · decide
    · decide
    · exact hdigit (c.toNat / 16) (by omega)
    · exact hdigit (c.toNat % 16) (by omega)

/-- A string token holds no control character. -/
theorem not_control_of_mem_encodeString {cs : List Char} {x : Char} (h : x ∈ encodeString cs) :
    ¬ x.toNat < 32 := by
  simp only [encodeString, List.cons_append, List.mem_cons, List.mem_append, List.mem_flatMap,
    List.not_mem_nil, or_false] at h
  rcases h with rfl | ⟨c, _, hc⟩ | rfl
  · decide
  · exact not_control_of_mem_encodeChar hc
  · decide

theorem hexValue?_digitChar : ∀ d < 16, hexValue? (Nat.digitChar d) = some d := by decide

/-- Four digits are read back; some character has to follow them. -/
theorem hexFour?_hex {n : Nat} (h : n < 32) (x : Char) (rest : List Char) :
    hexFour? (Quoted.hex 4 n ++ x :: rest) = some (n, x :: rest) := by
  have hzero : hexValue? '0' = some 0 := by decide
  have hvalue : ((0 * 16 + 0) * 16 + n / 16) * 16 + n % 16 = n := by omega
  rw [hex_four_of_lt n h]
  simp only [List.cons_append, List.nil_append, hexFour?, hzero,
    hexValue?_digitChar (n / 16) (by omega), hexValue?_digitChar (n % 16) (by omega), hvalue]

/-- The escape of a control character stands for it. -/
theorem unicodeEscape?_hex {c : Char} (h : c.toNat < 32) (x : Char) (rest : List Char) :
    unicodeEscape? (Quoted.hex 4 c.toNat ++ x :: rest) = some (.char c, x :: rest) := by
  have hhigh : ¬ (0xd800 ≤ c.toNat ∧ c.toNat ≤ 0xdbff) := by omega
  have hhalf : ¬ (0xd800 ≤ c.toNat ∧ c.toNat - 0xd800 < 2048) := by omega
  simp only [unicodeEscape?, hexFour?_hex h, if_neg hhigh, CodePoint.ofNat, dif_neg hhalf,
    Char.ofNat_toNat]

/-! ## §2. The reader. -/

/-- One round of the reader takes one escaped character. -/
theorem readStringBody_encodeChar (start fuel : Nat) (c x : Char) (rest : List Char) :
    readStringBody start (fuel + 1) (encodeChar c ++ x :: rest)
      = (readStringBody start fuel (x :: rest)).map (fun r => (c :: r.1, r.2)) := by
  have hslash : ('\\' : Char) ≠ '\x22' := by decide
  have hescaped := escaped_encodeChar c
  generalize encodeChar c = es at hescaped ⊢
  cases hescaped with
  | itself hquote hbackslash hcontrol =>
    rw [List.singleton_append, readStringBody, if_neg hquote, if_neg hbackslash, if_neg hcontrol]
  | letter e hu hletter =>
    simp only [List.cons_append, List.nil_append, readStringBody, if_neg hslash, if_neg hu,
      if_true, hletter]
  | code hcontrol =>
    have hmark : c ≠ CodePoint.mark := by
      rintro rfl
      exact absurd hcontrol (by decide)
    simp only [List.cons_append, readStringBody, if_neg hslash, if_true,
      unicodeEscape?_hex hcontrol, CodePoint.encode, if_neg hmark, List.nil_append]

/-- The reader takes the escaped characters up to the closing quote. -/
theorem readStringBody_flatMap (start : Nat) (cs rest : List Char) {fuel : Nat}
    (h : cs.length < fuel) :
    readStringBody start fuel (cs.flatMap encodeChar ++ '\x22' :: rest) = .ok (cs, rest) := by
  induction cs generalizing fuel with
  | nil =>
    obtain ⟨fuel, rfl⟩ : ∃ n, fuel = n + 1 := ⟨fuel - 1, by simp at h; omega⟩
    rfl
  | cons c cs ih =>
    obtain ⟨fuel, rfl⟩ : ∃ n, fuel = n + 1 := ⟨fuel - 1, by simp at h; omega⟩
    rw [List.flatMap_cons, List.append_assoc]
    -- what follows an escaped character is never empty: the closing quote is still to come
    obtain ⟨x, tail, htail⟩ : ∃ x tail, cs.flatMap encodeChar ++ '\x22' :: rest = x :: tail :=
      List.exists_cons_of_ne_nil (by simp)
    rw [htail, readStringBody_encodeChar, ← htail, ih (by simp at h; omega)]
    rfl

theorem length_le_flatMap_encodeChar (cs : List Char) :
    cs.length ≤ (cs.flatMap encodeChar).length := by
  induction cs with
  | nil => simp
  | cons c cs ih =>
    have hone : 1 ≤ (encodeChar c).length := by
      have hescaped := escaped_encodeChar c
      generalize encodeChar c = es at hescaped ⊢
      cases hescaped <;> simp
    rw [List.flatMap_cons, List.length_append, List.length_cons]
    omega

/-- A text that begins visibly has no mark in front and no white space. -/
theorem begins_visibly {c : Char} (hspace : isSpace c = false) (hmark : c ≠ Char.ofNat 0xfeff)
    (cs : List Char) :
    ¬ (c :: cs).head? = some (Char.ofNat 0xfeff) ∧ skipSpace (c :: cs) = c :: cs := by
  constructor
  · rw [List.head?_cons]
    exact fun heq => hmark (Option.some.inj heq)
  · rw [skipSpace, List.dropWhile_cons_of_neg (by simp [hspace])]

/-- A text that a value takes up as a whole spells the value. -/
theorem readWithin_of_readValue {room : Nat} {c : Char} {cs : List Char} {v : Json}
    (hspace : isSpace c = false) (hmark : c ≠ Char.ofNat 0xfeff)
    (h : readValue room (2 * (c :: cs).length + 2) (c :: cs) = .ok (v, [])) :
    readWithin room (c :: cs) = .ok v := by
  obtain ⟨hstart, hskip⟩ := begins_visibly hspace hmark cs
  rw [readWithin, readChars, if_neg hstart, hskip, h]
  rfl

/-- **A string token spells its string.** -/
theorem readWithin_encodeString (room : Nat) (cs : List Char) :
    readWithin room (encodeString cs) = .ok (.str (String.ofList cs)) := by
  have hfuel : cs.length < (cs.flatMap encodeChar ++ ['\x22']).length + 1 := by
    have := length_le_flatMap_encodeChar cs
    rw [List.length_append, List.length_singleton]
    omega
  have hbody := readStringBody_flatMap ((cs.flatMap encodeChar ++ ['\x22']).length + 1) cs [] hfuel
  rw [encodeString, List.cons_append]
  apply readWithin_of_readValue (by decide) (by decide)
  unfold readValue
  rw [if_pos rfl, readString, hbody]
  rfl

end Json

/-! ## §3. The scanner. -/

namespace Scan

open Json

/-- The scanner takes an escaped character as a whole. -/
theorem stringTail?_encodeChar (c : Char) (rest : List Char) :
    stringTail? (encodeChar c ++ rest)
      = (stringTail? rest).map (fun r => (encodeChar c ++ r.1, r.2)) := by
  -- a character that is neither the quote nor the backslash is passed over
  have hplain : ∀ (x : Char) (cs : List Char), x ≠ '\x22' → x ≠ '\\' →
      stringTail? (x :: cs) = (stringTail? cs).map (fun r => (x :: r.1, r.2)) := by
    intro x cs hquote hslash
    rw [stringTail?.eq_def]
    split
    · contradiction
    · next heq => exact absurd (List.cons.inj heq).1 hslash
    · next heq =>
      obtain ⟨rfl, rfl⟩ := List.cons.inj heq
      rw [if_neg hquote, if_neg hslash]
  have hescaped := escaped_encodeChar c
  generalize encodeChar c = es at hescaped ⊢
  cases hescaped with
  | itself hquote hslash hcontrol => exact hplain c rest hquote hslash
  | letter e hu hletter => rfl
  | code hcontrol =>
    have hdigit : ∀ d < 16, Nat.digitChar d ≠ '\x22' ∧ Nat.digitChar d ≠ '\\' := by decide
    have hhigh := hdigit (c.toNat / 16) (by omega)
    have hlow := hdigit (c.toNat % 16) (by omega)
    have hzero : ('0' : Char) ≠ '\x22' ∧ ('0' : Char) ≠ '\\' := by decide
    rw [hex_four_of_lt _ hcontrol]
    simp only [List.cons_append, List.nil_append]
    rw [stringTail?, hplain _ _ hzero.1 hzero.2, hplain _ _ hzero.1 hzero.2,
      hplain _ _ hhigh.1 hhigh.2, hplain _ _ hlow.1 hlow.2]
    cases stringTail? rest <;> rfl

theorem stringTail?_flatMap (cs rest : List Char) :
    stringTail? (cs.flatMap encodeChar ++ '\x22' :: rest)
      = some (cs.flatMap encodeChar ++ ['\x22'], rest) := by
  induction cs with
  | nil => rfl
  | cons c cs ih =>
    rw [List.flatMap_cons, List.append_assoc, stringTail?_encodeChar, ih, List.append_assoc]
    rfl

/-- A string token that the scanner takes ends with a quote. -/
theorem stringTail?_eq_some {cs token rest : List Char} (h : stringTail? cs = some (token, rest)) :
    ∃ inside, token = inside ++ ['\x22'] ∧ cs = token ++ rest := by
  fun_induction stringTail? cs generalizing token rest with
  | case1 => cases h
  | case2 c cs ih =>
    obtain ⟨⟨tail, after⟩, htail, heq⟩ := Option.map_eq_some_iff.mp h
    cases heq
    obtain ⟨inside, rfl, rfl⟩ := ih htail
    exact ⟨'\\' :: c :: inside, rfl, rfl⟩
  | case3 cs =>
    cases h
    exact ⟨[], rfl, rfl⟩
  | case4 => cases h
  | case5 c cs _ _ _ ih =>
    obtain ⟨⟨tail, after⟩, htail, heq⟩ := Option.map_eq_some_iff.mp h
    cases heq
    obtain ⟨inside, rfl, rfl⟩ := ih htail
    exact ⟨c :: inside, rfl, rfl⟩

/-- **The scanner finds the end of a string token**, whatever quotes and
backslashes the string holds. -/
theorem stringToken?_encodeString (cs rest : List Char) :
    stringToken? (encodeString cs ++ rest) = some (encodeString cs, rest) := by
  have htail := stringTail?_flatMap cs rest
  simp only [encodeString, List.cons_append, List.append_assoc, List.nil_append, stringToken?,
    htail, Option.map_some]

/-- A string token decodes to its string. -/
theorem decode_encodeString (cs : List Char) :
    decode (encodeString cs) = .ok (.str (String.ofList cs)) :=
  readWithin_encodeString 0 cs

end Scan
end FlowTrace
