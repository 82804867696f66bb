/-
  FlowTrace.Proofs.Script.Numbers
  ────────────────────────────────
  **WHICH NUMBERS REACH THE SCRIPT AS NUMBERS.**

  An input that the catalog calls a number is emitted as it stands if its text is a
  decimal numeral: an optional minus sign, digits with an optional point, and an
  optional exponent (`Numeral.DecimalForm`).  Two things are compared here:

      the numeral  — its digits may be of any script, and it has the value that its
                     digits spell
      the literal  — what a script reads as a number (`Script.NumberLiteral`, one
                     constructor for each production of the grammar): ASCII digits,
                     and no zero in front of another digit

  `DecimalForm.numberLiteral_iff` says where they agree: a numeral in ASCII digits
  that does not begin with a needless zero is a literal of the same value, and every
  other numeral is no literal at all.  Such a numeral is emitted nevertheless.
-/
import Mathlib.Algebra.Field.Rat
import Mathlib.Data.List.TakeWhile
import Mathlib.Tactic.FieldSimp
import Mathlib.Tactic.Ring
import FlowTrace.Proofs.Number.WholeForm
import FlowTrace.Proofs.Script.Lossless

namespace FlowTrace

/-! ## §1. Numbers in scripts. -/

namespace Script

/-- ASCII digits, at least one. -/
structure IsDigits (ds : List Char) : Prop where
  nonempty : ds ≠ []
  ascii : ∀ c ∈ ds, DecimalDigit.isAscii c = true

/-- The whole part of a literal: a zero by itself, or digits that do not begin with one. -/
structure IsWhole (ds : List Char) : Prop extends IsDigits ds where
  lead : ds.head? = some '0' → ds = ['0']

/-- The exponent of a literal, if it has one, and its value. -/
inductive ExponentPart : List Char → ℤ → Prop
  | absent : ExponentPart [] 0
  | unsigned {e : Char} {ds : List Char} (letter : e = 'e' ∨ e = 'E') (digits : IsDigits ds) :
      ExponentPart (e :: ds) (Numeral.asciiValue ds)
  | plus {e : Char} {ds : List Char} (letter : e = 'e' ∨ e = 'E') (digits : IsDigits ds) :
      ExponentPart (e :: '+' :: ds) (Numeral.asciiValue ds)
  | minus {e : Char} {ds : List Char} (letter : e = 'e' ∨ e = 'E') (digits : IsDigits ds) :
      ExponentPart (e :: '-' :: ds) (-(Numeral.asciiValue ds : ℤ))

/-- **A decimal literal and its value.**  Digits behind the point count as many tenths of
tenths as there are of them. -/
inductive DecimalLiteral : List Char → ℚ → Prop
  | whole {w x : List Char} {k : ℤ} (digits : IsWhole w) (exponent : ExponentPart x k) :
      DecimalLiteral (w ++ x) (Numeral.asciiValue w * 10 ^ k)
  | pointed {w f x : List Char} {k : ℤ} (digits : IsWhole w)
      (fraction : ∀ c ∈ f, DecimalDigit.isAscii c = true) (exponent : ExponentPart x k) :
      DecimalLiteral (w ++ '.' :: (f ++ x))
        ((Numeral.asciiValue w + Numeral.asciiValue f / 10 ^ f.length) * 10 ^ k)
  | fraction {f x : List Char} {k : ℤ} (digits : IsDigits f) (exponent : ExponentPart x k) :
      DecimalLiteral ('.' :: (f ++ x)) (Numeral.asciiValue f / 10 ^ f.length * 10 ^ k)

/-- A decimal literal, with a minus sign in front or without. -/
inductive NumberLiteral : List Char → ℚ → Prop
  | positive {cs : List Char} {v : ℚ} (literal : DecimalLiteral cs v) : NumberLiteral cs v
  | negative {cs : List Char} {v : ℚ} (literal : DecimalLiteral cs v) :
      NumberLiteral ('-' :: cs) (-v)

end Script

/-! ## §2. Decimal numerals. -/

namespace Numeral

/-- The digits of a numeral are of whatever scripts. -/
def AreDigits (ds : List Char) : Prop := ∀ c ∈ ds, DecimalDigit.isDigit c = true

instance (ds : List Char) : Decidable (AreDigits ds) :=
  decidable_of_iff (ds.all DecimalDigit.isDigit = true) List.all_eq_true

/-- An exponent as it is written: a letter, a sign or none, and digits. -/
structure ExponentForm where
  letter : Char
  sign : Option Char
  digits : List Char

namespace ExponentForm

/-- The text of an exponent. -/
def text (x : ExponentForm) : List Char := x.letter :: (x.sign.toList ++ x.digits)

/-- The exponent is one. -/
structure Valid (x : ExponentForm) : Prop where
  letter : x.letter = 'e' ∨ x.letter = 'E'
  sign : x.sign = none ∨ x.sign = some '+' ∨ x.sign = some '-'
  nonempty : x.digits ≠ []
  digits : AreDigits x.digits

/-- The value of an exponent. -/
def value (x : ExponentForm) : ℤ :=
  if x.sign = some '-' then -(digitsValue x.digits) else digitsValue x.digits

end ExponentForm

/-- A decimal numeral as it is written. -/
structure DecimalForm where
  negative : Bool
  whole : List Char
  /-- The digits behind the point, if it has one. -/
  fraction : Option (List Char)
  exponent : Option ExponentForm

namespace DecimalForm

/-- The text of the fraction and its point. -/
def fractionText : Option (List Char) → List Char
  | none => []
  | some ds => '.' :: ds

/-- The text of the exponent. -/
def exponentText : Option ExponentForm → List Char
  | none => []
  | some x => x.text

/-- The text of a numeral without its sign. -/
def body (n : DecimalForm) : List Char :=
  n.whole ++ (fractionText n.fraction ++ exponentText n.exponent)

/-- The text of a numeral. -/
def text (n : DecimalForm) : List Char := if n.negative then '-' :: n.body else n.body

/-- The numeral is one: it has a digit in front of its exponent. -/
structure Valid (n : DecimalForm) : Prop where
  whole : AreDigits n.whole
  fraction : ∀ ds, n.fraction = some ds → AreDigits ds
  nonempty : n.whole ≠ [] ∨ ∃ ds, n.fraction = some ds ∧ ds ≠ []
  exponent : ∀ x, n.exponent = some x → x.Valid

/-- The value of the exponent, zero without one. -/
def exponentValue (x : Option ExponentForm) : ℤ := (x.map ExponentForm.value).getD 0

/-- The value of a numeral without its sign: all its digits are read as one number, and
the point and the exponent say how often it is multiplied by ten. -/
def magnitude (n : DecimalForm) : ℚ :=
  digitsValue (n.whole ++ n.fraction.getD [])
    * 10 ^ (exponentValue n.exponent - (n.fraction.getD []).length)

/-- The decimal value of a numeral. -/
def value (n : DecimalForm) : ℚ := if n.negative then -n.magnitude else n.magnitude

/-- The digits of a numeral, those of its exponent included. -/
def digits (n : DecimalForm) : List Char :=
  n.whole ++ n.fraction.getD [] ++ (n.exponent.map ExponentForm.digits).getD []

/-- All digits are ASCII digits, and no zero stands in front of another digit of the
whole part. -/
structure IsPlain (n : DecimalForm) : Prop where
  ascii : ∀ c ∈ n.digits, DecimalDigit.isAscii c = true
  lead : n.whole.head? = some '0' → n.whole = ['0']

end DecimalForm

/-! ## §3. Runs of digits. -/

/-- What can follow digits: nothing, or something that is none. -/
def Ends (rest : List Char) : Prop := ∀ c, rest.head? = some c → DecimalDigit.isDigit c = false

theorem ends_nil : Ends [] := fun _ h => nomatch h

theorem ends_cons {c : Char} {rest : List Char} (h : DecimalDigit.isDigit c = false) :
    Ends (c :: rest) := by
  intro d hd
  rw [← Option.some.inj hd]
  exact h

/-- A run of digits ends where they end. -/
theorem span_digits {ds rest : List Char} (hds : AreDigits ds) (hrest : Ends rest) :
    (ds ++ rest).takeWhile DecimalDigit.isDigit = ds
      ∧ (ds ++ rest).dropWhile DecimalDigit.isDigit = rest := by
  have hnone : rest.takeWhile DecimalDigit.isDigit = []
      ∧ rest.dropWhile DecimalDigit.isDigit = rest := by
    cases rest with
    | nil => exact ⟨rfl, rfl⟩
    | cons c rest =>
      have hc := hrest c rfl
      simp [hc]
  rw [List.takeWhile_append_of_pos hds, List.dropWhile_append_of_pos hds, hnone.1, hnone.2]
  simp

/-- Digits are told from what follows them. -/
theorem digits_append_inj {ds ds' rest rest' : List Char} (hds : AreDigits ds)
    (hds' : AreDigits ds') (hrest : Ends rest) (hrest' : Ends rest')
    (h : ds ++ rest = ds' ++ rest') : ds = ds' ∧ rest = rest' := by
  have hspan := span_digits hds hrest
  rw [h, (span_digits hds' hrest').1, (span_digits hds' hrest').2] at hspan
  exact ⟨hspan.1.symm, hspan.2.symm⟩

theorem isDigit_letter {c : Char} (h : c = 'e' ∨ c = 'E') : DecimalDigit.isDigit c = false := by
  rcases h with rfl | rfl <;> decide

theorem ends_exponentText {x : Option ExponentForm} (h : ∀ e, x = some e → e.Valid) :
    Ends (DecimalForm.exponentText x) := by
  cases x with
  | none => exact ends_nil
  | some e => exact ends_cons (isDigit_letter (h e rfl).letter)

theorem ends_tail (f : Option (List Char)) {x : Option ExponentForm}
    (h : ∀ e, x = some e → e.Valid) :
    Ends (DecimalForm.fractionText f ++ DecimalForm.exponentText x) := by
  cases f with
  | none => exact ends_exponentText h
  | some ds => exact ends_cons (by decide)

/-! ## §4. Reading numerals. -/

/-- A sign is told from the digits behind it. -/
theorem splitSign_digits {sign : Option Char} {ds : List Char}
    (hsign : sign = none ∨ sign = some '+' ∨ sign = some '-') (hsome : ds ≠ [])
    (hds : AreDigits ds) :
    splitSign (sign.toList ++ ds) = (decide (sign = some '-'), ds) := by
  rcases hsign with rfl | rfl | rfl
  · -- a digit is no sign
    obtain ⟨d, ds, rfl⟩ := List.exists_cons_of_ne_nil hsome
    exact splitSign_of_isDigit (hds d List.mem_cons_self)
  · rfl
  · rfl

theorem ExponentForm.Valid.isExponent {x : ExponentForm} (h : x.Valid) :
    Script.isExponent x.text = true := by
  rw [ExponentForm.text, Script.isExponent, if_pos h.letter,
    splitSign_digits h.sign h.nonempty h.digits]
  simp only [Bool.and_eq_true, Bool.not_eq_true', List.isEmpty_eq_false_iff, List.all_eq_true]
  exact ⟨h.nonempty, h.digits⟩

theorem exists_exponentForm {cs : List Char} (h : Script.isExponent cs = true) :
    ∃ x : Option ExponentForm, (∀ e, x = some e → e.Valid) ∧ DecimalForm.exponentText x = cs := by
  cases cs with
  | nil => exact ⟨none, by simp, rfl⟩
  | cons c rest =>
    rw [Script.isExponent] at h
    split at h
    · next hletter =>
      obtain ⟨sign, hsign, hrest⟩ := exists_sign rest
      simp only [Bool.and_eq_true, Bool.not_eq_true', List.isEmpty_eq_false_iff,
        List.all_eq_true] at h
      refine ⟨some ⟨c, sign, (splitSign rest).2⟩, ?_, ?_⟩
      · intro e he
        cases he
        exact ⟨hletter, hsign, h.1, h.2⟩
      · exact congrArg (c :: ·) hrest.symm
    · cases h

theorem isExponent_exponentText {x : Option ExponentForm} (h : ∀ e, x = some e → e.Valid) :
    Script.isExponent (DecimalForm.exponentText x) = true := by
  cases x with
  | none => rfl
  | some e => exact (h e rfl).isExponent

namespace DecimalForm

variable {n : DecimalForm}

/-- The whole part of a numeral is the run of digits in front. -/
theorem Valid.span_body (h : n.Valid) :
    n.body.takeWhile DecimalDigit.isDigit = n.whole
      ∧ n.body.dropWhile DecimalDigit.isDigit
        = fractionText n.fraction ++ exponentText n.exponent :=
  span_digits h.whole (ends_tail n.fraction h.exponent)

theorem Valid.isUnsigned (h : n.Valid) : Script.isUnsigned n.body = true := by
  have hexponent := isExponent_exponentText h.exponent
  have hends := ends_exponentText h.exponent
  unfold Script.isUnsigned
  simp only [h.span_body]
  cases hf : n.fraction with
  | none =>
    have hwhole : n.whole ≠ [] := by
      rcases h.nonempty with hw | ⟨ds, hds, _⟩
      · exact hw
      · rw [hf] at hds
        cases hds
    simp only [List.isEmpty_eq_false_iff.mpr hwhole, fractionText, List.nil_append]
    -- an exponent begins with its letter, so it is not taken for a point
    split
    · next heq =>
      rw [heq] at hexponent
      simp [Script.isExponent] at hexponent
    · exact hexponent
    · next hempty _ => cases hempty
    · next hempty _ => cases hempty
  | some ds =>
    obtain ⟨htake, hdrop⟩ := span_digits (h.fraction ds hf) hends
    simp only [fractionText, List.cons_append]
    cases hw : n.whole.isEmpty with
    | false => simp only [hdrop, hexponent]
    | true =>
      have hds : ds ≠ [] := by
        rcases h.nonempty with hwhole | ⟨ds', hds', hsome⟩
        · exact absurd (List.isEmpty_iff.mp hw) hwhole
        · rw [hf] at hds'
          cases hds'
          exact hsome
      simp only [htake, hdrop, hexponent, List.isEmpty_eq_false_iff.mpr hds, Bool.not_false,
        Bool.and_self]

/-- The sign aside, a text that is a number has the form of a numeral. -/
theorem exists_of_isUnsigned {cs : List Char} (h : Script.isUnsigned cs = true)
    (negative : Bool) : ∃ n : DecimalForm, n.Valid ∧ n.negative = negative ∧ n.body = cs := by
  have hwhole : AreDigits (cs.takeWhile DecimalDigit.isDigit) :=
    fun c hc => List.mem_takeWhile_imp hc
  have hsplit : cs.takeWhile DecimalDigit.isDigit ++ cs.dropWhile DecimalDigit.isDigit = cs :=
    List.takeWhile_append_dropWhile
  -- with a point, the digits may stand on either side of it
  have pointed : ∀ rest, cs.dropWhile DecimalDigit.isDigit = '.' :: rest →
      Script.isExponent (rest.dropWhile DecimalDigit.isDigit) = true →
      cs.takeWhile DecimalDigit.isDigit ≠ [] ∨ rest.takeWhile DecimalDigit.isDigit ≠ [] →
      ∃ n : DecimalForm, n.Valid ∧ n.negative = negative ∧ n.body = cs := by
    intro rest hrest hexponent hsome
    obtain ⟨x, hx, htext⟩ := exists_exponentForm hexponent
    refine ⟨⟨negative, cs.takeWhile DecimalDigit.isDigit,
      some (rest.takeWhile DecimalDigit.isDigit), x⟩, ⟨hwhole, ?_, ?_, hx⟩, rfl, ?_⟩
    · intro ds hds
      cases hds
      exact fun c hc => List.mem_takeWhile_imp hc
    · exact hsome.imp id (fun hne => ⟨_, rfl, hne⟩)
    · simp only [body, fractionText, htext, List.cons_append, List.takeWhile_append_dropWhile]
      rw [← hrest, hsplit]
  unfold Script.isUnsigned at h
  simp only at h
  split at h
  · next hw hrest => exact pointed _ hrest h (.inl (List.isEmpty_eq_false_iff.mp hw))
  · next hw _ =>
    obtain ⟨x, hx, htext⟩ := exists_exponentForm h
    refine ⟨⟨negative, cs.takeWhile DecimalDigit.isDigit, none, x⟩,
      ⟨hwhole, by simp, .inl (List.isEmpty_eq_false_iff.mp hw), hx⟩, rfl, ?_⟩
    simp only [body, fractionText, htext, List.nil_append]
    exact hsplit
  · next hw hrest =>
    simp only [Bool.and_eq_true, Bool.not_eq_true', List.isEmpty_eq_false_iff] at h
    exact pointed _ hrest h.2 (.inr h.1)
  · cases h

/-- A numeral without its sign begins with a digit or with a point. -/
theorem Valid.head_body (h : n.Valid) (rest : List Char) : n.body ≠ '-' :: rest := by
  intro heq
  unfold body at heq
  cases hw : n.whole with
  | cons d ds =>
    rw [hw] at heq
    have hd : DecimalDigit.isDigit d = true := h.whole d (by rw [hw]; exact List.mem_cons_self)
    rw [(List.cons.inj heq).1] at hd
    exact absurd hd (by decide)
  | nil =>
    rcases h.nonempty with hwhole | ⟨ds, hds, _⟩
    · exact hwhole hw
    · rw [hw, hds] at heq
      exact absurd (List.cons.inj heq).1 (by decide)

/-- **A text is taken for a number exactly if it is a decimal numeral.** -/
theorem isNumber_iff {cs : List Char} :
    Script.isNumber cs = true ↔ ∃ n : DecimalForm, n.Valid ∧ n.text = cs := by
  constructor
  · intro h
    unfold Script.isNumber at h
    split at h
    · obtain ⟨n, hn, hneg, hbody⟩ := exists_of_isUnsigned h true
      exact ⟨n, hn, by rw [text, hneg, if_pos rfl, hbody]⟩
    · obtain ⟨n, hn, hneg, hbody⟩ := exists_of_isUnsigned h false
      exact ⟨n, hn, by rw [text, hneg, if_neg (by decide), hbody]⟩
  · rintro ⟨n, hn, rfl⟩
    unfold text
    split
    · exact hn.isUnsigned
    · unfold Script.isNumber
      split
      · next heq => exact absurd heq (hn.head_body _)
      · exact hn.isUnsigned

/-! ## §5. One form for each text. -/

end DecimalForm

/-- The sign and the digits of an exponent are told from its text. -/
theorem ExponentForm.Valid.text_injective {x y : ExponentForm} (hx : x.Valid) (hy : y.Valid)
    (h : x.text = y.text) : x = y := by
  obtain ⟨letter, sign, ds⟩ := x
  obtain ⟨letter', sign', ds'⟩ := y
  obtain ⟨hletter, hrest⟩ := List.cons.inj h
  have hdigits : ds = ds' := by
    have hsplit := congrArg (fun cs => (splitSign cs).2) hrest
    simp only [splitSign_digits hx.sign hx.nonempty hx.digits,
      splitSign_digits hy.sign hy.nonempty hy.digits] at hsplit
    exact hsplit
  subst hletter hdigits
  have hsign : sign.toList = sign'.toList := List.append_cancel_right hrest
  have : sign = sign' := by
    cases sign <;> cases sign' <;> simp_all
  rw [this]

namespace DecimalForm

theorem exponentText_injective {x y : Option ExponentForm} (hx : ∀ e, x = some e → e.Valid)
    (hy : ∀ e, y = some e → e.Valid) (h : exponentText x = exponentText y) : x = y := by
  cases x with
  | none =>
    cases y with
    | none => rfl
    | some e => cases h
  | some e =>
    cases y with
    | none => cases h
    | some e' => rw [(hx e rfl).text_injective (hy e' rfl) h]

/-- An exponent does not begin with a point. -/
theorem exponentText_ne_point {x : Option ExponentForm} (hx : ∀ e, x = some e → e.Valid)
    (rest : List Char) : exponentText x ≠ '.' :: rest := by
  intro h
  have hexponent := isExponent_exponentText hx
  rw [h] at hexponent
  simp [Script.isExponent] at hexponent

/-- A text is spelled by one numeral only. -/
theorem Valid.text_injective {m : DecimalForm} (hn : n.Valid) (hm : m.Valid)
    (h : n.text = m.text) : n = m := by
  obtain ⟨negative, whole, fraction, exponent⟩ := n
  obtain ⟨negative', whole', fraction', exponent'⟩ := m
  have hsign : negative = negative' := by
    cases negative <;> cases negative'
    · rfl
    · exact absurd h (hn.head_body _)
    · exact absurd h.symm (hm.head_body _)
    · rfl
  subst hsign
  have hbody : body ⟨negative, whole, fraction, exponent⟩
      = body ⟨negative, whole', fraction', exponent'⟩ := by
    cases negative with
    | false => exact h
    | true => exact (List.cons.inj h).2
  obtain ⟨hwhole, htail⟩ : whole = whole' ∧ fractionText fraction ++ exponentText exponent
      = fractionText fraction' ++ exponentText exponent' :=
    digits_append_inj hn.whole hm.whole (ends_tail fraction hn.exponent)
      (ends_tail fraction' hm.exponent) hbody
  have hx : ∀ e, exponent = some e → e.Valid := hn.exponent
  have hx' : ∀ e, exponent' = some e → e.Valid := hm.exponent
  -- behind the whole part stands a point, or an exponent, which does not begin with one
  have hrest : fraction = fraction' ∧ exponent = exponent' := by
    cases fraction with
    | none =>
      cases fraction' with
      | none => exact ⟨rfl, exponentText_injective hx hx' htail⟩
      | some ds => exact absurd htail (exponentText_ne_point hx _)
    | some ds =>
      cases fraction' with
      | none => exact absurd htail.symm (exponentText_ne_point hx' _)
      | some ds' =>
        obtain ⟨hds, hexponent⟩ := digits_append_inj (hn.fraction ds rfl) (hm.fraction ds' rfl)
          (ends_exponentText hx) (ends_exponentText hx') (List.cons.inj htail).2
        exact ⟨congrArg some hds, exponentText_injective hx hx' hexponent⟩
  rw [hwhole, hrest.1, hrest.2]

end DecimalForm

/-! ## §6. Values. -/

theorem value?_of_isAscii {c : Char} (h : DecimalDigit.isAscii c = true) :
    DecimalDigit.value? c = some (c.toNat - 48) :=
  DecimalDigit.value?_of_isDigit (Char.isDigit_iff_toNat.mpr (of_decide_eq_true h))

theorem areDigits_of_ascii {ds : List Char} (h : ∀ c ∈ ds, DecimalDigit.isAscii c = true) :
    AreDigits ds := by
  intro c hc
  rw [DecimalDigit.isDigit, value?_of_isAscii (h c hc)]
  rfl

/-- ASCII digits count what they are. -/
theorem digitsValue_of_ascii {ds : List Char} (h : ∀ c ∈ ds, DecimalDigit.isAscii c = true) :
    digitsValue ds = asciiValue ds := by
  unfold digitsValue asciiValue
  refine List.foldl_ext _ _ _ ?_
  intro n c hc
  rw [value?_of_isAscii (h c hc), Option.getD_some]

/-- Digits that follow others move those to the left. -/
theorem asciiValue_append (xs ys : List Char) :
    asciiValue (xs ++ ys) = asciiValue xs * 10 ^ ys.length + asciiValue ys := by
  have hfold : ∀ (cs : List Char) (acc : ℕ), cs.foldl (fun n c => n * 10 + (c.toNat - 48)) acc
      = acc * 10 ^ cs.length + asciiValue cs := by
    intro cs
    induction cs with
    | nil => simp [asciiValue]
    | cons c cs ih =>
      intro acc
      rw [asciiValue, List.foldl_cons, List.foldl_cons, ih, ih, List.length_cons]
      ring
  rw [asciiValue, List.foldl_append]
  exact hfold ys _

/-- Digits behind the point may as well be read together with those in front of it. -/
theorem pointed_value (w f : List Char) (k : ℤ) :
    ((asciiValue w : ℚ) + asciiValue f / 10 ^ f.length) * 10 ^ k
      = asciiValue (w ++ f) * 10 ^ (k - f.length) := by
  have hten : (10 : ℚ) ≠ 0 := by norm_num
  rw [asciiValue_append, zpow_sub₀ hten, zpow_natCast]
  push_cast
  field_simp

/-! ## §7. Numerals that are literals. -/

/-- An exponent in ASCII digits is one in scripts. -/
theorem ExponentForm.Valid.exponentPart {x : ExponentForm} (h : x.Valid)
    (hascii : ∀ c ∈ x.digits, DecimalDigit.isAscii c = true) :
    Script.ExponentPart x.text x.value := by
  obtain ⟨letter, sign, ds⟩ := x
  have hdigits : Script.IsDigits ds := ⟨h.nonempty, hascii⟩
  unfold text value
  rw [digitsValue_of_ascii hascii]
  rcases h.sign with hsign | hsign | hsign <;> simp only at hsign <;> subst hsign
  · exact .unsigned h.letter hdigits
  · exact .plus h.letter hdigits
  · exact .minus h.letter hdigits

/-- Every exponent of scripts is one in ASCII digits. -/
theorem exists_of_exponentPart {cs : List Char} {k : ℤ} (h : Script.ExponentPart cs k) :
    ∃ x : Option ExponentForm, (∀ e, x = some e → e.Valid)
      ∧ (∀ c ∈ (x.map ExponentForm.digits).getD [], DecimalDigit.isAscii c = true)
      ∧ DecimalForm.exponentText x = cs ∧ DecimalForm.exponentValue x = k := by
  -- the three signs differ in the value only
  have signed : ∀ {e : Char} {ds : List Char} (sign : Option Char),
      sign = none ∨ sign = some '+' ∨ sign = some '-' → e = 'e' ∨ e = 'E' → Script.IsDigits ds →
      (∀ x, some ⟨e, sign, ds⟩ = some x → ExponentForm.Valid x)
        ∧ (∀ c ∈ ds, DecimalDigit.isAscii c = true)
        ∧ DecimalForm.exponentValue (some ⟨e, sign, ds⟩)
          = if sign = some '-' then -(asciiValue ds : ℤ) else asciiValue ds := by
    intro e ds sign hsign hletter hds
    refine ⟨?_, hds.ascii, ?_⟩
    · intro x hx
      cases hx
      exact ⟨hletter, hsign, hds.nonempty, areDigits_of_ascii hds.ascii⟩
    · rw [← digitsValue_of_ascii hds.ascii]
      rfl
  cases h with
  | absent => exact ⟨none, by simp, by simp, rfl, rfl⟩
  | unsigned hletter hds =>
    obtain ⟨hvalid, hascii, hvalue⟩ := signed none (.inl rfl) hletter hds
    exact ⟨_, hvalid, hascii, rfl, hvalue⟩
  | plus hletter hds =>
    obtain ⟨hvalid, hascii, hvalue⟩ := signed (some '+') (.inr (.inl rfl)) hletter hds
    exact ⟨_, hvalid, hascii, rfl, hvalue⟩
  | minus hletter hds =>
    obtain ⟨hvalid, hascii, hvalue⟩ := signed (some '-') (.inr (.inr rfl)) hletter hds
    exact ⟨_, hvalid, hascii, rfl, hvalue⟩

namespace DecimalForm

variable {n : DecimalForm}

theorem exponentPart_exponentText {x : Option ExponentForm} (h : ∀ e, x = some e → e.Valid)
    (hascii : ∀ c ∈ (x.map ExponentForm.digits).getD [], DecimalDigit.isAscii c = true) :
    Script.ExponentPart (exponentText x) (exponentValue x) := by
  cases x with
  | none => exact .absent
  | some e => exact (h e rfl).exponentPart hascii

/-- A plain numeral is a decimal literal of the same value. -/
theorem Valid.decimalLiteral (h : n.Valid) (hplain : n.IsPlain) :
    Script.DecimalLiteral n.body n.magnitude := by
  obtain ⟨negative, whole, fraction, exponent⟩ := n
  have hdigits : ∀ c ∈ whole ++ fraction.getD [], DecimalDigit.isAscii c = true :=
    fun c hc => hplain.ascii c (List.mem_append_left _ hc)
  have hwhole : ∀ c ∈ whole, DecimalDigit.isAscii c = true :=
    fun c hc => hdigits c (List.mem_append_left _ hc)
  have hfraction : ∀ c ∈ fraction.getD [], DecimalDigit.isAscii c = true :=
    fun c hc => hdigits c (List.mem_append_right _ hc)
  have hexponent := exponentPart_exponentText h.exponent
    (fun c hc => hplain.ascii c (List.mem_append_right _ hc))
  unfold body magnitude
  rw [digitsValue_of_ascii hdigits]
  -- scripts have three forms of a literal: whole, with a point behind digits, with a point first
  cases fraction with
  | none =>
    -- without a fraction the whole part cannot be empty
    have hsome : whole ≠ [] := by
      rcases h.nonempty with hw | ⟨ds, hds, _⟩
      · exact hw
      · cases hds
    have := Script.DecimalLiteral.whole ⟨⟨hsome, hwhole⟩, hplain.lead⟩ hexponent
    simpa [fractionText] using this
  | some ds =>
    cases whole with
    | cons w ws =>
      have := Script.DecimalLiteral.pointed ⟨⟨List.cons_ne_nil w ws, hwhole⟩, hplain.lead⟩
        hfraction hexponent
      rw [pointed_value] at this
      exact this
    | nil =>
      have hsome : ds ≠ [] := by
        rcases h.nonempty with hw | ⟨ds', hds', hsome⟩
        · exact absurd rfl hw
        · cases hds'
          exact hsome
      have := Script.DecimalLiteral.fraction ⟨hsome, hfraction⟩ hexponent
      rw [← zero_add (_ / _), ← Nat.cast_zero, ← show asciiValue [] = 0 from rfl,
        pointed_value] at this
      exact this

/-- Every decimal literal is a plain numeral of the same value. -/
theorem exists_of_decimalLiteral {cs : List Char} {v : ℚ} (h : Script.DecimalLiteral cs v)
    (negative : Bool) : ∃ n : DecimalForm, n.Valid ∧ n.IsPlain ∧ n.negative = negative
      ∧ n.body = cs ∧ n.magnitude = v := by
  cases h with
  | whole hw hx =>
    next w x k =>
    obtain ⟨exponent, hvalid, hascii, rfl, rfl⟩ := exists_of_exponentPart hx
    refine ⟨⟨negative, w, none, exponent⟩,
      ⟨areDigits_of_ascii hw.ascii, by simp, .inl hw.nonempty, hvalid⟩, ⟨?_, hw.lead⟩, rfl, rfl, ?_⟩
    · intro c hc
      simp only [digits, Option.getD_none, List.append_nil, List.mem_append] at hc
      exact hc.elim (hw.ascii c) (hascii c)
    · simp [magnitude, digitsValue_of_ascii hw.ascii]
  | pointed hw hf hx =>
    next w f x k =>
    obtain ⟨exponent, hvalid, hascii, rfl, rfl⟩ := exists_of_exponentPart hx
    have hdigits : ∀ c ∈ w ++ f, DecimalDigit.isAscii c = true := by
      intro c hc
      exact (List.mem_append.mp hc).elim (hw.ascii c) (hf c)
    refine ⟨⟨negative, w, some f, exponent⟩, ⟨areDigits_of_ascii hw.ascii, ?_,
      .inl hw.nonempty, hvalid⟩, ⟨?_, hw.lead⟩, rfl, rfl, ?_⟩
    · intro ds hds
      cases hds
      exact areDigits_of_ascii hf
    · intro c hc
      exact (List.mem_append.mp hc).elim (hdigits c) (hascii c)
    · rw [pointed_value, ← digitsValue_of_ascii hdigits]
      rfl
  | fraction hf hx =>
    next f x k =>
    obtain ⟨exponent, hvalid, hascii, rfl, rfl⟩ := exists_of_exponentPart hx
    refine ⟨⟨negative, [], some f, exponent⟩, ⟨by simp [AreDigits], ?_,
      .inr ⟨f, rfl, hf.nonempty⟩, hvalid⟩, ⟨?_, by simp⟩, rfl, rfl, ?_⟩
    · intro ds hds
      cases hds
      exact areDigits_of_ascii hf.ascii
    · intro c hc
      exact (List.mem_append.mp hc).elim (hf.ascii c) (hascii c)
    · -- without a digit in front of the point the whole part counts zero
      rw [← zero_add (_ / _), ← Nat.cast_zero, ← show asciiValue [] = 0 from rfl,
        pointed_value, List.nil_append, ← digitsValue_of_ascii hf.ascii]
      rfl

/-- **A numeral is a number of scripts exactly if it is plain,** and it has the same value
there. -/
theorem Valid.numberLiteral_iff (hn : n.Valid) {v : ℚ} :
    Script.NumberLiteral n.text v ↔ n.IsPlain ∧ v = n.value := by
  constructor
  · intro h
    -- the literal has a form of its own, and no text has two
    have same : ∀ {m : DecimalForm}, m.Valid → m.IsPlain → m.text = n.text → m.value = v →
        n.IsPlain ∧ v = n.value := by
      intro m hm hplain htext hvalue
      rw [hn.text_injective hm htext.symm]
      exact ⟨hplain, hvalue.symm⟩
    generalize htext : n.text = cs at h
    cases h with
    | positive hliteral =>
      obtain ⟨m, hm, hplain, hneg, hbody, hvalue⟩ := exists_of_decimalLiteral hliteral false
      apply same hm hplain
      · rw [text, hneg, htext, if_neg (by decide), hbody]
      · rw [value, hneg, if_neg (by decide), hvalue]
    | negative hliteral =>
      obtain ⟨m, hm, hplain, hneg, hbody, hvalue⟩ := exists_of_decimalLiteral hliteral true
      apply same hm hplain
      · rw [text, hneg, htext, if_pos rfl, hbody]
      · rw [value, hneg, if_pos rfl, hvalue]
  · rintro ⟨hplain, rfl⟩
    have hliteral := hn.decimalLiteral hplain
    unfold text value
    split
    · exact .negative hliteral
    · exact .positive hliteral

end DecimalForm
end Numeral

/-! ## §8. The law. -/

namespace Script

/-- A number that is a decimal numeral is emitted without the blanks around it. -/
theorem literalOfText_number {s : String} (h : isNumber (trim s).toList = true) :
    literalOfText (some "number") s = trim s := by
  unfold literalOfText
  exact if_pos ⟨rfl, h⟩

/-- A number that is none is treated as a text. -/
theorem literalOfText_not_number {s : String} (h : ¬ isNumber (trim s).toList = true) :
    literalOfText (some "number") s = literalOfText none s := by
  have hboolean : some "number" ≠ some "boolean" := by simp
  rw [literalOfText_none]
  unfold literalOfText
  simp only
  rw [if_neg (fun hn => h hn.2), if_neg (fun hb => hboolean hb.1)]

/-- **WHICH NUMBERS ARE EMITTED.**  If an input is called a number, its text without the
blanks around it is emitted as it stands whenever it is a decimal numeral; scripts then
read the value of the numeral if it is plain, and no number at all otherwise.  Any
other text becomes a template if it holds a placeholder, and a string if not. -/
theorem number_literals {item : Input} {s : String} (hvalue : item.value = .str s)
    (htype : valueType? item.config = some "number") :
    (∀ n : Numeral.DecimalForm, n.Valid → n.text = (trim s).toList →
        literal item = .ok (trim s)
          ∧ ∀ v : ℚ, NumberLiteral (trim s).toList v ↔ n.IsPlain ∧ v = n.value)
      ∧ ((¬ ∃ n : Numeral.DecimalForm, n.Valid ∧ n.text = (trim s).toList) →
        (HoldsPlaceholder s.toList → literal item = .ok (String.ofList (template s.toList)))
          ∧ (¬ HoldsPlaceholder s.toList → literal item = .ok (Json.quote s))) := by
  have hliteral : literal item = .ok (literalOfText (some "number") s) := by
    simp only [literal, hvalue, htype]
  constructor
  · intro n hn htext
    constructor
    · rw [hliteral, literalOfText_number (Numeral.DecimalForm.isNumber_iff.mpr ⟨n, hn, htext⟩)]
    · intro v
      rw [← htext]
      exact hn.numberLiteral_iff
  · intro hnone
    have hplain := literalOfText_not_number (mt Numeral.DecimalForm.isNumber_iff.mp hnone)
    rw [hliteral, hplain, literalOfText_none]
    constructor
    · intro hp
      rw [if_pos (hasPlaceholder_iff.mpr hp)]
    · intro hp
      rw [if_neg (fun hb => hp (hasPlaceholder_iff.mp hb))]

/-- An input that is called a number. -/
def numberInput (s : String) : Input :=
  { value := .str s, config := .obj [("valueType", .str "number")] }

/-- A numeral with everything that one can have. -/
def fullNumeral : Numeral.DecimalForm :=
  ⟨true, ['1', '2'], some ['5', '0'], some ⟨'e', some '+', ['3']⟩⟩

theorem number_literals_full :
    fullNumeral.value = -12500 ∧ literal (numberInput " -12.50e+3\n") = .ok "-12.50e+3"
      ∧ (∀ v : ℚ, NumberLiteral "-12.50e+3".toList v ↔ fullNumeral.IsPlain ∧ v = fullNumeral.value)
      ∧ literal (numberInput "12a") = .ok (Json.quote "12a") := by
  have hvalid : fullNumeral.Valid := by
    refine ⟨by decide, ?_, .inl (by decide), ?_⟩
    · intro ds hds
      cases hds
      decide
    · intro x hx
      cases hx
      exact ⟨.inl rfl, .inr (.inl rfl), by decide, by decide⟩
  have hvalue : fullNumeral.value = -12500 := by
    have hdigits : Numeral.digitsValue ['1', '2', '5', '0'] = 1250 := by decide
    have hexponent : Numeral.digitsValue ['3'] = 3 := by decide
    simp [fullNumeral, Numeral.DecimalForm.value, Numeral.DecimalForm.magnitude,
      Numeral.DecimalForm.exponentValue, Numeral.ExponentForm.value, hdigits, hexponent]
    norm_num
  have htrim : trim " -12.50e+3\n" = "-12.50e+3" := by decide
  obtain ⟨hnumber, _⟩ :=
    @number_literals (numberInput " -12.50e+3\n") " -12.50e+3\n" rfl rfl
  obtain ⟨hliteral, hread⟩ := hnumber fullNumeral hvalid (by rw [htrim]; decide)
  rw [htrim] at hliteral hread
  obtain ⟨_, htext⟩ := @number_literals (numberInput "12a") "12a" rfl rfl
  have hnone : ¬ ∃ n : Numeral.DecimalForm, n.Valid ∧ n.text = (trim "12a").toList := by
    rw [← Numeral.DecimalForm.isNumber_iff]
    decide
  exact ⟨hvalue, hliteral, hread, (htext hnone).2 (by rw [← hasPlaceholder_iff]; decide)⟩

/-- A needless zero, and a digit of another script, are emitted as they stand although no
script reads a number there. -/
theorem emitted_without_being_numbers :
    (literal (numberInput "010") = .ok "010" ∧ ¬ ∃ v : ℚ, NumberLiteral "010".toList v)
      ∧ literal (numberInput "\u0663") = .ok "\u0663"
      ∧ ¬ ∃ v : ℚ, NumberLiteral "\u0663".toList v := by
  have whole : ∀ d ds, Numeral.AreDigits (d :: ds) →
      Numeral.DecimalForm.Valid ⟨false, d :: ds, none, none⟩ := by
    intro d ds h
    exact ⟨h, by simp, .inl (List.cons_ne_nil d ds), by simp⟩
  have hzero : literalOfText (some "number") "010" = "010" := by decide
  have hthree : literalOfText (some "number") "\u0663" = "\u0663" := by decide
  refine ⟨⟨congrArg Except.ok hzero, ?_⟩, congrArg Except.ok hthree, ?_⟩
  · rintro ⟨v, hv⟩
    have hplain := ((whole '0' ['1', '0'] (by decide)).numberLiteral_iff (v := v)).mp hv
    exact absurd (hplain.1.lead rfl) (by decide)
  · rintro ⟨v, hv⟩
    have hplain := ((whole '\u0663' [] (by decide)).numberLiteral_iff (v := v)).mp hv
    exact absurd (hplain.1.ascii '\u0663' (by decide)) (by decide)

end Script
end FlowTrace
