/-
  FlowTrace.Proofs.Number.WholeForm
  ────────────────────────────────
  **WHICH TEXTS ARE WHOLE NUMBERS.**

  A whole number may be written in many ways.  All of them have the same parts, the first,
  the second and the last of which may be missing:

      blanks  sign  digits  blanks

  The digits may be of any script, and a single underscore may stand between two of them.
  The reader takes exactly the texts of this form that have at most so many digits as are
  read at all (`Numeral.digitLimit`), and gives the value that they spell.
-/
import FlowTrace.Proofs.Number.Decimal
import FlowTrace.Proofs.Text.Trimming

namespace FlowTrace
namespace Numeral

/-! ## §1. The form of a whole number. -/

/-- The value of digits of any script. -/
def digitsValue (ds : List Char) : ℕ :=
  ds.foldl (fun n c => n * 10 + (DecimalDigit.value? c).getD 0) 0

/-- Digits with underscores between them, never two in a row. -/
inductive IsDigitRun : List Char → Prop
  | last {d : Char} (digit : DecimalDigit.isDigit d = true) : IsDigitRun [d]
  | next {d : Char} {cs : List Char} (digit : DecimalDigit.isDigit d = true)
      (rest : IsDigitRun cs) : IsDigitRun (d :: cs)
  | grouped {d : Char} {cs : List Char} (digit : DecimalDigit.isDigit d = true)
      (rest : IsDigitRun cs) : IsDigitRun (d :: '_' :: cs)

/-- The characters without the underscores. -/
def ungrouped (cs : List Char) : List Char := cs.filter (· != '_')

/-- A whole number as it is written. -/
structure WholeForm where
  before : List Char
  sign : Option Char
  digits : List Char
  after : List Char

namespace WholeForm

/-- The text of a whole number without the blanks around it. -/
def body (w : WholeForm) : List Char := w.sign.toList ++ w.digits

/-- The text of a whole number. -/
def text (w : WholeForm) : List Char := w.before ++ w.body ++ w.after

/-- The parts are what they should be. -/
structure Valid (w : WholeForm) : Prop where
  before : ∀ c ∈ w.before, isMargin c = true
  sign : w.sign = none ∨ w.sign = some '+' ∨ w.sign = some '-'
  digits : IsDigitRun w.digits
  after : ∀ c ∈ w.after, isMargin c = true

/-- The value of a whole number without its sign. -/
def magnitude (w : WholeForm) : ℕ := digitsValue (ungrouped w.digits)

/-- The value of a whole number. -/
def value (w : WholeForm) : ℤ := if w.sign = some '-' then -(w.magnitude : ℤ) else w.magnitude

end WholeForm

/-- The text is a whole number of a value. -/
def Spells (cs : List Char) (n : ℤ) : Prop :=
  ∃ w : WholeForm, w.Valid ∧ w.text = cs ∧ w.value = n

/-! ## §2. Runs of digits. -/

/-- A digit is read. -/
theorem digitsValue?_digit {d : Char} (hd : DecimalDigit.isDigit d = true) (acc : ℕ) (gap : Bool)
    (cs : List Char) : digitsValue? acc gap (d :: cs)
      = digitsValue? (acc * 10 + (DecimalDigit.value? d).getD 0) false cs := by
  obtain ⟨v, hv⟩ := Option.isSome_iff_exists.mp hd
  rw [digitsValue?, if_neg (DecimalDigit.plain_of_isDigit hd).2.1]
  simp only [hv, Option.getD_some]

/-- An underscore behind a digit is passed over. -/
theorem digitsValue?_underscore (acc : ℕ) (cs : List Char) :
    digitsValue? acc false ('_' :: cs) = digitsValue? acc true cs := rfl

theorem ungrouped_digit {d : Char} (hd : DecimalDigit.isDigit d = true) (cs : List Char) :
    ungrouped (d :: cs) = d :: ungrouped cs := by
  refine List.filter_cons_of_pos ?_
  simpa using (DecimalDigit.plain_of_isDigit hd).2.1

theorem ungrouped_underscore (cs : List Char) : ungrouped ('_' :: cs) = ungrouped cs := rfl

namespace IsDigitRun

variable {cs : List Char}

theorem exists_cons (h : IsDigitRun cs) :
    ∃ d rest, cs = d :: rest ∧ DecimalDigit.isDigit d = true := by
  cases h with
  | last hd => exact ⟨_, _, rfl, hd⟩
  | next hd _ => exact ⟨_, _, rfl, hd⟩
  | grouped hd _ => exact ⟨_, _, rfl, hd⟩

/-- A run holds digits and underscores only. -/
theorem digit_or_underscore (h : IsDigitRun cs) :
    ∀ c ∈ cs, DecimalDigit.isDigit c = true ∨ c = '_' := by
  induction h with
  | last hd => simp [hd]
  | next hd _ ih => simpa [hd] using ih
  | grouped hd _ ih => simpa [hd] using ih

/-- What is no underscore in a run is a digit. -/
theorem countP_isDigit (h : IsDigitRun cs) :
    cs.countP DecimalDigit.isDigit = cs.countP (· != '_') := by
  have hunder : DecimalDigit.isDigit '_' = false := by decide
  refine List.countP_congr fun c hc => ?_
  rcases h.digit_or_underscore c hc with hd | rfl
  · simp [hd, (DecimalDigit.plain_of_isDigit hd).2.1]
  · simp [hunder]

/-- **A run is read** as the value of its digits. -/
theorem digitsValue?_eq (h : IsDigitRun cs) (acc : ℕ) (gap : Bool) :
    digitsValue? acc gap cs
      = some ((ungrouped cs).foldl (fun n c => n * 10 + (DecimalDigit.value? c).getD 0) acc) := by
  induction h generalizing acc gap with
  | last hd =>
    rw [digitsValue?_digit hd, ungrouped_digit hd]
    rfl
  | next hd _ ih =>
    rw [digitsValue?_digit hd, ih, ungrouped_digit hd, List.foldl_cons]
  | grouped hd _ ih =>
    rw [digitsValue?_digit hd, digitsValue?_underscore, ih, ungrouped_digit hd,
      ungrouped_underscore, List.foldl_cons]

/-- **What is read is a run,** or what may follow a digit: nothing, or an underscore and a
run. -/
theorem of_digitsValue? {acc n : ℕ} {gap : Bool} (h : digitsValue? acc gap cs = some n) :
    IsDigitRun cs ∨ gap = false ∧ (cs = [] ∨ ∃ rest, cs = '_' :: rest ∧ IsDigitRun rest) := by
  induction cs generalizing acc gap with
  | nil =>
    cases gap with
    | false => exact .inr ⟨rfl, .inl rfl⟩
    | true => cases h
  | cons c cs ih =>
    rw [digitsValue?] at h
    split at h
    · next hc =>
      subst hc
      cases gap with
      | true => cases h
      | false =>
        -- a digit has to come next, so the rest is a run
        rcases ih h with hrun | ⟨hgap, -⟩
        · exact .inr ⟨rfl, .inr ⟨cs, rfl, hrun⟩⟩
        · cases hgap
    · split at h
      · next d hd =>
        have hdigit : DecimalDigit.isDigit c = true := by
          rw [DecimalDigit.isDigit, hd]
          rfl
        rcases ih h with hrun | ⟨-, rfl | ⟨rest, rfl, hrun⟩⟩
        · exact .inl (.next hdigit hrun)
        · exact .inl (.last hdigit)
        · exact .inl (.grouped hdigit hrun)
      · cases h

end IsDigitRun

/-! ## §3. Reading whole numbers. -/

/-- What may stand around a numeral is a blank. -/
theorem isMargin_eq_false {c : Char} (h : isBlank c = false) : isMargin c = false := by
  rw [isMargin, h, Bool.false_and]

/-- No blank is a digit. -/
theorem countP_isDigit_margin {cs : List Char} (h : ∀ c ∈ cs, isMargin c = true) :
    cs.countP DecimalDigit.isDigit = 0 := by
  refine List.countP_eq_zero.mpr fun c hc hd => ?_
  have hplain := isMargin_eq_false (DecimalDigit.plain_of_isDigit hd).1
  rw [h c hc] at hplain
  cases hplain

namespace WholeForm.Valid

variable {w : WholeForm}

/-- The sign is told from the digits behind it. -/
theorem splitSign_body (h : w.Valid) :
    splitSign w.body = (decide (w.sign = some '-'), w.digits) := by
  unfold body
  rcases h.sign with hsign | hsign | hsign
  · obtain ⟨d, rest, hdigits, hd⟩ := h.digits.exists_cons
    rw [hsign, hdigits]
    exact splitSign_of_isDigit hd
  · rw [hsign]
    rfl
  · rw [hsign]
    rfl

/-- There are no blanks between the sign and the last digit. -/
theorem isMargin_body (h : w.Valid) : ∀ c ∈ w.body, isMargin c = false := by
  intro c hc
  apply isMargin_eq_false
  rcases List.mem_append.mp hc with hc | hc
  · have hsign : c = '+' ∨ c = '-' := by
      rcases h.sign with hs | hs | hs <;> simp_all
    rcases hsign with rfl | rfl <;> rfl
  · rcases h.digits.digit_or_underscore c hc with hd | rfl
    · exact (DecimalDigit.plain_of_isDigit hd).1
    · rfl

theorem trimMargin_text (h : w.Valid) : trimMargin w.text = w.body := by
  have hne : w.body ≠ [] := by
    obtain ⟨d, rest, hdigits, -⟩ := h.digits.exists_cons
    simp [body, hdigits]
  obtain ⟨c, rest, hfirst⟩ := List.exists_cons_of_ne_nil hne
  have hlast := List.dropLast_append_getLast hne
  refine trimBy_around h.before ⟨c, rest, hfirst, ?_⟩ ⟨_, _, hlast.symm, ?_⟩ h.after
  · exact h.isMargin_body c (hfirst ▸ List.mem_cons_self)
  · exact h.isMargin_body _ (List.getLast_mem hne)

/-- All digits of the text are behind its sign. -/
theorem countP_text (h : w.Valid) :
    w.text.countP DecimalDigit.isDigit = w.digits.countP (· != '_') := by
  have hsign : w.sign.toList.countP DecimalDigit.isDigit = 0 := by
    rcases h.sign with hs | hs | hs <;> rw [hs] <;> decide +kernel
  simp only [text, body, List.countP_append, countP_isDigit_margin h.before, hsign,
    h.digits.countP_isDigit, countP_isDigit_margin h.after, Nat.zero_add, Nat.add_zero]

/-- **The text of a whole number is read as its value,** unless it has too many digits. -/
theorem readInt?_text (h : w.Valid) {s : String} (hs : w.text = s.toList) :
    readInt? s
      = if digitLimit < s.toList.countP DecimalDigit.isDigit then none else some w.value := by
  simp only [readInt?, ← hs, h.trimMargin_text, h.splitSign_body, h.countP_text,
    h.digits.digitsValue?_eq, decide_eq_true_eq]
  rfl

end WholeForm.Valid

/-- The sign in front of a text, as it is written. -/
theorem exists_sign (cs : List Char) : ∃ sign : Option Char,
    (sign = none ∨ sign = some '+' ∨ sign = some '-') ∧ cs = sign.toList ++ (splitSign cs).2 := by
  unfold splitSign
  split
  · exact ⟨some '-', .inr (.inr rfl), rfl⟩
  · exact ⟨some '+', .inr (.inl rfl), rfl⟩
  · exact ⟨none, .inl rfl, rfl⟩

/-- What is read has the form of a whole number. -/
theorem exists_wholeForm {s : String} {n : ℤ} (h : readInt? s = some n) :
    ∃ w : WholeForm, w.Valid ∧ w.text = s.toList := by
  obtain ⟨before, after, hbefore, hafter, htext⟩ := exists_around isMargin s.toList
  obtain ⟨sign, hsign, hbody⟩ := exists_sign (trimMargin s.toList)
  have hrun : IsDigitRun (splitSign (trimMargin s.toList)).2 := by
    simp only [readInt?] at h
    split at h
    · cases h
    · obtain ⟨_, hread, -⟩ := Option.map_eq_some_iff.mp h
      obtain ⟨m, hm, -⟩ := Option.bind_eq_some_iff.mp hread
      -- a digit has to come first, so it is a run
      rcases IsDigitRun.of_digitsValue? hm with hrun | ⟨hgap, -⟩
      · exact hrun
      · cases hgap
  refine ⟨⟨before, sign, _, after⟩, ⟨hbefore, hsign, hrun, hafter⟩, ?_⟩
  rw [WholeForm.text, WholeForm.body, ← hbody]
  exact htext

/-- **WHICH TEXTS ARE READ AS WHOLE NUMBERS.**  A text is read exactly if it has the form of
a whole number and not too many digits. -/
theorem readInt?_eq_some_iff {s : String} {n : ℤ} :
    readInt? s = some n
      ↔ Spells s.toList n ∧ s.toList.countP DecimalDigit.isDigit ≤ digitLimit := by
  constructor
  · intro h
    obtain ⟨w, hw, htext⟩ := exists_wholeForm h
    rw [hw.readInt?_text htext] at h
    split at h
    · cases h
    · next hcount => exact ⟨⟨w, hw, htext, Option.some.inj h⟩, Nat.not_lt.mp hcount⟩
  · rintro ⟨⟨w, hw, htext, rfl⟩, hcount⟩
    rw [hw.readInt?_text htext, if_neg (Nat.not_lt.mpr hcount)]

/-! ## §4. Written numbers. -/

theorem isDigitRun_of_forall {ds : List Char} (hne : ds ≠ [])
    (hall : ∀ c ∈ ds, DecimalDigit.isDigit c = true) : IsDigitRun ds := by
  induction ds with
  | nil => exact absurd rfl hne
  | cons d ds ih =>
    have hd := hall d List.mem_cons_self
    cases ds with
    | nil => exact .last hd
    | cons e es =>
      exact .next hd (ih (List.cons_ne_nil e es) fun c hc => hall c (List.mem_cons_of_mem d hc))

/-- The digits of a natural number count what it is. -/
theorem digitsValue_toDigits (n : ℕ) : digitsValue (Nat.toDigits 10 n) = n := by
  have hfold : digitsValue (Nat.toDigits 10 n) = Nat.ofDigitChars 10 (Nat.toDigits 10 n) 0 := by
    refine List.foldl_ext _ _ _ fun m c hc => ?_
    rw [DecimalDigit.value?_of_isDigit (isDigit_of_mem_digits hc), Nat.mul_comm]
    rfl
  rw [hfold, Nat.ofDigitChars_ten_toDigits]

/-- The form in which a whole number is written. -/
def writtenForm (n : ℤ) : WholeForm :=
  { before := [], sign := if n < 0 then some '-' else none, digits := Nat.toDigits 10 n.natAbs,
    after := [] }

theorem isDigit_of_mem_writtenForm {n : ℤ} :
    ∀ c ∈ (writtenForm n).digits, DecimalDigit.isDigit c = true :=
  fun _ hc => DecimalDigit.isDigit_of_isDigit (isDigit_of_mem_digits hc)

theorem valid_writtenForm (n : ℤ) : (writtenForm n).Valid where
  before := by simp [writtenForm]
  sign := by
    unfold writtenForm
    split <;> simp
  digits := isDigitRun_of_forall Nat.toDigits_ne_nil isDigit_of_mem_writtenForm
  after := by simp [writtenForm]

theorem text_writtenForm (n : ℤ) : (writtenForm n).text = (toString n).toList := by
  rw [toList_toString_int, intChars]
  unfold writtenForm WholeForm.text WholeForm.body
  split <;> simp

theorem value_writtenForm (n : ℤ) : (writtenForm n).value = n := by
  have hdigits : ungrouped (Nat.toDigits 10 n.natAbs) = Nat.toDigits 10 n.natAbs := by
    refine List.filter_eq_self.mpr fun c hc => ?_
    simpa using (DecimalDigit.plain_of_isDigit (isDigit_of_mem_writtenForm c hc)).2.1
  unfold writtenForm WholeForm.value WholeForm.magnitude
  rw [hdigits, digitsValue_toDigits]
  by_cases hneg : n < 0
  · rw [if_pos (by simp [hneg])]
    omega
  · rw [if_neg (by simp [hneg])]
    omega

/-- A written number has the digits of its absolute value. -/
theorem countP_toString (n : ℤ) :
    (toString n).toList.countP DecimalDigit.isDigit = (Nat.toDigits 10 n.natAbs).length := by
  rw [← text_writtenForm, (valid_writtenForm n).countP_text,
    ← (valid_writtenForm n).digits.countP_isDigit]
  exact List.countP_eq_length.mpr isDigit_of_mem_writtenForm

/-- **A written number is read back,** unless it has too many digits. -/
theorem readInt?_written (n : ℤ) :
    readInt? (toString n) = if isOverlong n then none else some n := by
  rw [(valid_writtenForm n).readInt?_text (text_writtenForm n), countP_toString,
    value_writtenForm]
  cases hlong : isOverlong n with
  | false => rw [if_neg (Nat.not_lt.mpr (length_digits_le_iff.mpr hlong)), if_neg (by decide)]
  | true =>
    have hcount : ¬ (Nat.toDigits 10 n.natAbs).length ≤ digitLimit := by
      rw [length_digits_le_iff, hlong]
      decide
    rw [if_pos (Nat.not_le.mp hcount), if_pos rfl]

end Numeral

/-- The text of a number that could be written, used as a number, is that number. -/
theorem Json.toInt_of_numeral {n : ℤ} {s : String} (h : Json.numeral n = .ok s) :
    s = toString n ∧ (Json.str s).toInt = .ok n := by
  unfold numeral at h
  split at h
  · cases h
  · next hshort =>
    cases h
    have hread := Numeral.readInt?_written n
    rw [if_neg hshort] at hread
    refine ⟨rfl, ?_⟩
    simp only [toInt, hread]

end FlowTrace
