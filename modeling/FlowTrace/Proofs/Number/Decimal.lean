/-
  FlowTrace.Proofs.Number.Decimal
  ────────────────────────────────
  **WHOLE NUMBERS AND THEIR DIGITS.**

  A whole number is written in ASCII digits, behind a minus sign when it is
  negative, unless it has too many of them.  Digits of other scripts are read,
  but never written.
-/
import FlowTrace.Json.Access

namespace FlowTrace

/-! ## §1. Digits of every script. -/

/-- A digit is one of the ten of its script. -/
theorem DecimalDigit.exists_zero {c : Char} (h : isDigit c = true) :
    ∃ z ∈ zeros, z ≤ c.toNat ∧ c.toNat < z + 10 := by
  obtain ⟨n, hn⟩ := Option.isSome_iff_exists.mp h
  obtain ⟨z, hfind, -⟩ := Option.map_eq_some_iff.mp hn
  exact ⟨z, List.mem_of_find?_eq_some hfind, by simpa using List.find?_some hfind⟩

/-- No digit of any script is a blank, an underscore or a sign. -/
theorem DecimalDigit.plain_of_isDigit {c : Char} (h : isDigit c = true) :
    isBlank c = false ∧ c ≠ '_' ∧ c ≠ '-' ∧ c ≠ '+' := by
  have hruns : ∀ z ∈ zeros, ∀ k < 10, isBlank (Char.ofNat (z + k)) = false
      ∧ Char.ofNat (z + k) ≠ '_' ∧ Char.ofNat (z + k) ≠ '-' ∧ Char.ofNat (z + k) ≠ '+' := by
    decide +kernel
  obtain ⟨z, hz, hlow, hhigh⟩ := exists_zero h
  have hplain := hruns z hz (c.toNat - z) (by omega)
  rwa [Nat.add_sub_of_le hlow, Char.ofNat_toNat] at hplain

/-- A digit in front is no sign. -/
theorem Numeral.splitSign_of_isDigit {d : Char} {ds : List Char}
    (hd : DecimalDigit.isDigit d = true) : splitSign (d :: ds) = (false, d :: ds) := by
  obtain ⟨-, -, hminus, hplus⟩ := DecimalDigit.plain_of_isDigit hd
  unfold splitSign
  split
  · next heq => exact absurd (List.cons.inj heq).1 hminus
  · next heq => exact absurd (List.cons.inj heq).1 hplus
  · rfl

/-! ## §2. ASCII digits. -/

/-- The bounds of an ASCII digit. -/
theorem bounds_of_isDigit {c : Char} (h : c.isDigit = true) : 48 ≤ c.toNat ∧ c.toNat ≤ 57 :=
  Char.isDigit_iff_toNat.mp h

theorem DecimalDigit.value?_of_isDigit {c : Char} (h : c.isDigit = true) :
    value? c = some (c.toNat - 48) := by
  obtain ⟨hlow, hhigh⟩ := bounds_of_isDigit h
  unfold value? zeros
  rw [List.find?_cons_of_pos (by simp; omega)]
  rfl

theorem DecimalDigit.isDigit_of_isDigit {c : Char} (h : c.isDigit = true) : isDigit c = true := by
  rw [isDigit, value?_of_isDigit h]
  rfl

/-! ## §3. Whole numbers. -/

/-- The characters of a whole number: a minus sign if it is negative, and the
digits of its absolute value. -/
def intChars (n : Int) : List Char :=
  if n < 0 then '-' :: Nat.toDigits 10 n.natAbs else Nat.toDigits 10 n.natAbs

theorem toList_toString_int (n : Int) : (toString n).toList = intChars n := by
  cases n with
  | ofNat n =>
    have h : ¬ (Int.ofNat n < 0) := by simp
    rw [intChars, if_neg h]
    exact Nat.toList_repr
  | negSucc n =>
    rw [intChars, if_pos (Int.negSucc_lt_zero n)]
    show ("-" ++ Nat.repr (n + 1)).toList = _
    rw [String.toList_append, Nat.toList_repr]
    rfl

theorem isDigit_of_mem_digits {n : Nat} {c : Char} (h : c ∈ Nat.toDigits 10 n) :
    c.isDigit = true :=
  Nat.isDigit_of_mem_toDigits (by decide) (by decide) h

/-- A whole number has no character that a reader would trim. -/
theorem isBlank_of_mem_intChars {n : Int} {c : Char} (h : c ∈ intChars n) : isBlank c = false := by
  have hdigit : ∀ d : Char, d.isDigit = true → isBlank d = false := by
    intro d hd
    have := bounds_of_isDigit hd
    simp only [isBlank, decide_eq_false_iff_not]
    omega
  unfold intChars at h
  split at h
  · rcases List.mem_cons.mp h with rfl | h
    · rfl
    · exact hdigit c (isDigit_of_mem_digits h)
  · exact hdigit c (isDigit_of_mem_digits h)

/-- A number may be written exactly if it has few enough digits to be read. -/
theorem Numeral.length_digits_le_iff {n : Int} :
    (Nat.toDigits 10 n.natAbs).length ≤ digitLimit ↔ isOverlong n = false := by
  have hlimit : 0 < digitLimit := by decide
  unfold isOverlong digitBound
  rw [Nat.pow_eq, decide_eq_false_iff_not, Nat.not_le,
    ← Nat.length_toDigits_le_iff (by decide) hlimit]

end FlowTrace
