/-
  FlowTrace.Proofs.Text.Order
  ────────────────────────────────
  **THE ORDER OF TEXTS.**

  Texts are ordered by the numbers of their code points.  A string holds a text in marked
  form, and of two strings that hold different texts one comes before the other.  So texts
  of which none comes twice are strictly increasing once they are sorted:

      sorted s t   — the second does not come before the first
      s ≠ t        — and is another, so the first comes before it
-/
import FlowTrace.Text.CodePoint
import Mathlib.Data.List.Lex

namespace FlowTrace

/-! ## §1. Texts. -/

namespace CodePoint

/-- The string is the marked form of a text.  Every string that a text is held in is. -/
def HoldsText (s : String) : Prop := ∃ text : List CodePoint, s = join text

/-- No character has the number of a half. -/
theorem toNat_injective : Function.Injective toNat := by
  have hchar (c : Char) : c.toNat < 0xd800 ∨ 0xd800 + 2048 ≤ c.toNat := by
    rcases c.valid with h | h
    · exact .inl h
    · exact .inr h.1
  intro p q h
  cases p with
  | char c =>
    cases q with
    | char d => exact congrArg char (Char.toNat_inj.mp h)
    | half j =>
      simp only [toNat] at h
      have := hchar c
      omega
  | half i =>
    cases q with
    | char d =>
      simp only [toNat] at h
      have := hchar d
      omega
    | half j =>
      simp only [toNat] at h
      exact congrArg half (Fin.ext (by omega))

end CodePoint

/-! ## §2. Before. -/

/-- The numbers of the code points of a text. -/
def codeNumbers (s : String) : List Nat := (CodePoint.split s).map CodePoint.toNat

theorem precedes_iff {s t : String} : precedes s t = true ↔ codeNumbers s < codeNumbers t := by
  rw [precedes, decide_eq_true_iff]
  rfl

theorem not_precedes_iff {s t : String} :
    (!precedes t s) = true ↔ codeNumbers s ≤ codeNumbers t := by
  rw [Bool.not_eq_true', ← Bool.not_eq_true, precedes_iff, not_lt]

/-- Different texts have different numbers. -/
theorem eq_of_codeNumbers_eq {s t : String} (hs : CodePoint.HoldsText s)
    (ht : CodePoint.HoldsText t) (h : codeNumbers s = codeNumbers t) : s = t := by
  obtain ⟨text, rfl⟩ := hs
  obtain ⟨text', rfl⟩ := ht
  have hsplit : CodePoint.split (CodePoint.join text) = CodePoint.split (CodePoint.join text') :=
    CodePoint.toNat_injective.list_map h
  rw [CodePoint.split_join, CodePoint.split_join] at hsplit
  rw [hsplit]

/-! ## §3. Sorting. -/

theorem pairwise_sorted (texts : List String) :
    (texts.mergeSort (fun a b => !precedes b a)).Pairwise (fun a b => (!precedes b a) = true) := by
  apply List.pairwise_mergeSort
  · intro a b c hab hbc
    rw [not_precedes_iff] at *
    exact hab.trans hbc
  · intro a b
    rw [Bool.or_eq_true, not_precedes_iff, not_precedes_iff]
    exact le_total _ _

/-- **Sorted texts of which none comes twice are strictly increasing.** -/
theorem increasing_of_sorted {texts : List String} (htexts : ∀ s ∈ texts, CodePoint.HoldsText s)
    (hnodup : texts.Nodup) (hsorted : texts.Pairwise (fun a b => (!precedes b a) = true)) :
    texts.Pairwise (fun a b => precedes a b = true) := by
  have hboth := hsorted.imp₂ (fun a b hle hne => And.intro hle hne) hnodup
  refine hboth.imp_of_mem fun {a b} ha hb ⟨hle, hne⟩ => ?_
  rw [not_precedes_iff] at hle
  rw [precedes_iff]
  exact lt_of_le_of_ne hle fun heq => hne (eq_of_codeNumbers_eq (htexts a ha) (htexts b hb) heq)

end FlowTrace
