/-
  FlowTrace.Proofs.Text.Trimming
  ────────────────────────────────
  **WHAT TRIMMING LEAVES.**

  A text is solid if it begins and ends with a character that is no blank.  Blanks around
  a solid text are what trimming takes away, and all that it takes away.  The same goes for
  whatever other characters are trimmed.
-/
import FlowTrace.Text.Blank
import Mathlib.Data.List.DropRight
import Mathlib.Data.List.TakeWhile

namespace FlowTrace

/-- The text begins and ends with a character that is no blank. -/
structure IsSolid (s : String) : Prop where
  first : ∃ c rest, s.toList = c :: rest ∧ isBlank c = false
  last : ∃ rest c, s.toList = rest ++ [c] ∧ isBlank c = false

/-- The text has blanks only. -/
def IsBlankText (s : String) : Prop := ∀ c ∈ s.toList, isBlank c = true

instance (s : String) : Decidable (IsBlankText s) :=
  decidable_of_iff (s.toList.all isBlank = true) List.all_eq_true

variable {before body after : String}

theorem IsSolid.toList_ne_nil (h : IsSolid body) : body.toList ≠ [] := by
  obtain ⟨c, rest, heq, -⟩ := h.first
  rw [heq]
  exact List.cons_ne_nil c rest

theorem isBlankText_empty : IsBlankText "" := fun _ h => nomatch h

/-- What stands between characters to be trimmed is left, if it neither begins nor ends with
such a character. -/
theorem trimBy_around {p : Char → Bool} {before body after : List Char}
    (hbefore : ∀ c ∈ before, p c = true) (hfirst : ∃ c rest, body = c :: rest ∧ p c = false)
    (hlast : ∃ rest c, body = rest ++ [c] ∧ p c = false) (hafter : ∀ c ∈ after, p c = true) :
    trimRightBy p (trimLeftBy p (before ++ body ++ after)) = body := by
  have hleft : trimLeftBy p (before ++ body ++ after) = body ++ after := by
    obtain ⟨c, rest, rfl, hc⟩ := hfirst
    rw [List.append_assoc, trimLeftBy, List.dropWhile_append_of_pos hbefore, List.cons_append,
      List.dropWhile_cons_of_neg (by simp [hc])]
  have hright : trimRightBy p (body ++ after) = body := by
    obtain ⟨rest, d, rfl, hd⟩ := hlast
    have hall : ∀ x ∈ after.reverse, p x = true := fun x hx => hafter x (List.mem_reverse.mp hx)
    rw [trimRightBy, List.reverse_append, List.dropWhile_append_of_pos hall, List.reverse_append,
      List.reverse_singleton, List.singleton_append, List.dropWhile_cons_of_neg (by simp [hd]),
      List.reverse_cons, List.reverse_reverse]
  rw [hleft, hright]

/-- Trimming takes away characters to be trimmed, on both sides. -/
theorem exists_around (p : Char → Bool) (cs : List Char) :
    ∃ before after : List Char, (∀ c ∈ before, p c = true) ∧ (∀ c ∈ after, p c = true)
      ∧ before ++ trimRightBy p (trimLeftBy p cs) ++ after = cs := by
  refine ⟨cs.takeWhile p, (cs.dropWhile p).rtakeWhile p, fun _ hc => List.mem_takeWhile_imp hc,
    fun _ hc => List.mem_rtakeWhile_imp hc, ?_⟩
  rw [List.append_assoc]
  show cs.takeWhile p ++ ((cs.dropWhile p).rdropWhile p ++ (cs.dropWhile p).rtakeWhile p) = cs
  rw [List.rdropWhile_append_rtakeWhile, List.takeWhile_append_dropWhile]

/-- **Blanks around a solid text are trimmed, and nothing else.** -/
theorem trim_around (hbefore : IsBlankText before) (hbody : IsSolid body)
    (hafter : IsBlankText after) : trim (before ++ body ++ after) = body := by
  rw [trim, String.toList_append, String.toList_append,
    trimBy_around hbefore hbody.first hbody.last hafter, String.ofList_toList]

end FlowTrace
