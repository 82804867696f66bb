/-
  FlowTrace.Proofs.Debug.Registry
  ────────────────────────────────
  **THE OUTLINE OF A REGISTRY.**

  A breakpoint is wanted at a place, armed under an id, and keeps what was seen there at
  the last pause.  The outline of a registry leaves the last away.  It says which
  breakpoints are armed, and where each of them is found:

      a pause           — leaves the outline as it is
      an added one      — is not armed
      one that gets id  — is armed from then on, and the others as before
      one taken out     — is armed no longer, and the others as before
-/
import FlowTrace.Debug.Breakpoint
import FlowTrace.Proofs.Json.Identity
import Mathlib.Data.List.InsertIdx

namespace FlowTrace

/-- A breakpoint that is armed: an id and a place. -/
structure Armed where
  id : Json
  url : Json
  line : Json
  deriving DecidableEq

/-- The breakpoint without what was seen there. -/
def Breakpoint.outline (bp : Breakpoint) : Armed := { id := bp.id, url := bp.url, line := bp.line }

namespace BreakpointRegistry

variable {r r' : BreakpointRegistry}

/-- The breakpoints without what was seen there. -/
def outline (r : BreakpointRegistry) : List Armed := r.items.map Breakpoint.outline

/-- The breakpoints that are armed. -/
def entries (r : BreakpointRegistry) : List Armed := r.outline.filter (fun a => a.id ≠ .null)

theorem entries_congr (h : r.outline = r'.outline) : r.entries = r'.entries := by
  unfold entries
  rw [h]

theorem outline_getElem? (r : BreakpointRegistry) (i : Nat) :
    r.outline[i]? = (r.items[i]?).map Breakpoint.outline := List.getElem?_map ..

theorem outline_of_item {i : Nat} {bp : Breakpoint} (h : r.items[i]? = some bp) :
    r.outline[i]? = some bp.outline := by
  rw [outline_getElem?, h]
  rfl

theorem item_of_outline {i : Nat} {a : Armed} (h : r.outline[i]? = some a) :
    ∃ bp, r.items[i]? = some bp ∧ bp.outline = a := by
  rwa [outline_getElem?, Option.map_eq_some_iff] at h

/-! ## §1. Pauses. -/

/-- What was seen at a breakpoint does not show in the outline. -/
theorem outline_modify (r : BreakpointRegistry) (i : Nat) (f : Breakpoint → Breakpoint)
    (hf : ∀ bp, (f bp).outline = bp.outline) : (r.modify i f).outline = r.outline := by
  apply List.ext_getElem?
  intro j
  rw [outline_getElem?, outline_getElem?]
  show ((r.items.modify i f)[j]?).map _ = _
  rw [List.getElem?_modify]
  cases r.items[j]? with
  | none => rfl
  | some bp =>
    by_cases hij : i = j
    · simp [hij, hf]
    · simp [hij]

/-- The breakpoints behind one that has changed. -/
theorem outline_drop_modify (r : BreakpointRegistry) (i : Nat) (f : Breakpoint → Breakpoint) :
    (r.modify i f).outline.drop (i + 1) = r.outline.drop (i + 1) := by
  apply List.ext_getElem?
  intro j
  rw [List.getElem?_drop, List.getElem?_drop, outline_getElem?, outline_getElem?]
  show ((r.items.modify i f)[i + 1 + j]?).map _ = _
  rw [List.getElem?_modify]
  have hlater : i ≠ i + 1 + j := by omega
  simp [hlater]

/-! ## §2. Places. -/

/-- Where a breakpoint is found depends on the outline only. -/
theorem indexIn_congr (url line : Json) : ∀ {xs ys : List Breakpoint},
    xs.map Breakpoint.outline = ys.map Breakpoint.outline →
      indexIn url line xs = indexIn url line ys := by
  intro xs
  induction xs with
  | nil =>
    intro ys h
    cases ys with
    | nil => rfl
    | cons y ys => cases h
  | cons x xs ih =>
    intro ys h
    cases ys with
    | nil => cases h
    | cons y ys =>
      obtain ⟨hfirst, hrest⟩ := List.cons.inj h
      have hurl : x.url = y.url := congrArg Armed.url hfirst
      have hline : x.line = y.line := congrArg Armed.line hfirst
      have hplace : x.isAt url line = y.isAt url line := by
        unfold Breakpoint.isAt
        rw [hurl, hline]
      unfold indexIn
      rw [hplace, ih hrest]

theorem index?_congr (h : r.outline = r'.outline) (url line : Json) :
    r.index? url line = r'.index? url line := indexIn_congr url line h

/-- An index at which a breakpoint is found is one of the registry. -/
theorem indexIn_lt {url line : Json} : ∀ {items : List Breakpoint} {i : Nat},
    indexIn url line items = .ok (some i) → i < items.length := by
  intro items
  induction items with
  | nil => exact fun h => nomatch h
  | cons bp rest ih =>
    intro i h
    unfold indexIn at h
    cases hat : bp.isAt url line with
    | error f =>
      rw [hat] at h
      cases h
    | ok found =>
      rw [hat] at h
      cases found with
      | true =>
        cases h
        simp
      | false =>
        cases hrest : indexIn url line rest with
        | error f =>
          rw [hrest] at h
          cases h
        | ok j? =>
          rw [hrest] at h
          cases j? with
          | none => cases h
          | some j =>
            cases h
            have := ih hrest
            simp only [List.length_cons]
            omega

/-- A breakpoint that is found is the first at its place. -/
theorem find_some {url line : Json} {bp : Breakpoint} (h : r.find url line = .ok (some bp)) :
    ∃ i, r.index? url line = .ok (some i) ∧ r.items[i]? = some bp := by
  unfold find at h
  cases hindex : r.index? url line with
  | error f =>
    rw [hindex] at h
    cases h
  | ok found =>
    rw [hindex] at h
    cases found with
    | none => cases h
    | some i => exact ⟨i, rfl, Except.ok.inj h⟩

theorem find_none {url line : Json} (h : r.find url line = .ok none) :
    r.index? url line = .ok none := by
  unfold find at h
  cases hindex : r.index? url line with
  | error f =>
    rw [hindex] at h
    cases h
  | ok found =>
    rw [hindex] at h
    cases found with
    | none => rfl
    | some i =>
      have hnone : r.items[i]? = none := Except.ok.inj h
      have := indexIn_lt hindex
      rw [List.getElem?_eq_none_iff] at hnone
      omega

/-- The registry without the breakpoint at an index. -/
def without (r : BreakpointRegistry) (i : Nat) : BreakpointRegistry := ⟨r.items.eraseIdx i⟩

theorem outline_without (r : BreakpointRegistry) (i : Nat) :
    (r.without i).outline = r.outline.eraseIdx i := by
  show (r.items.eraseIdx i).map Breakpoint.outline = (r.items.map Breakpoint.outline).eraseIdx i
  exact (List.eraseIdx_map ..).symm

/-- Taking out what is at a place depends on the outline only. -/
theorem remove_congr {url line : Json} {i : Nat} (h : r'.outline = r.outline)
    (hindex : r.index? url line = .ok (some i)) :
    r'.remove url line = .ok (r'.without i, r'.items[i]?) := by
  unfold remove
  rw [index?_congr h, hindex]
  rfl

/-! ## §3. Armed breakpoints. -/

/-- A new breakpoint stands at the end and is not armed, and one that was wanted before is
left as it is. -/
theorem add_cases {bp : Breakpoint} {i : Nat} (h : r.add bp = .ok (r', i)) :
    (r' = r ∧ i < r.items.length) ∨ (r' = ⟨r.items ++ [bp]⟩ ∧ i = r.items.length) := by
  unfold add at h
  cases hindex : r.index? bp.url bp.line with
  | error f =>
    rw [hindex] at h
    cases h
  | ok found =>
    rw [hindex] at h
    cases found with
    | none =>
      cases h
      exact .inr ⟨rfl, rfl⟩
    | some j =>
      cases h
      exact .inl ⟨rfl, indexIn_lt hindex⟩

theorem entries_append_unarmed {bp : Breakpoint} (hnull : bp.id = .null) :
    (⟨r.items ++ [bp]⟩ : BreakpointRegistry).entries = r.entries := by
  unfold entries outline
  simp [Breakpoint.outline, hnull]

theorem entries_clearIds (r : BreakpointRegistry) : ∀ a ∈ r.clearIds.outline, a.id = .null := by
  intro a ha
  obtain ⟨bp, hbp, rfl⟩ := List.mem_map.mp ha
  obtain ⟨bp', _, rfl⟩ := List.mem_map.mp hbp
  rfl

/-- If no breakpoint has an id, none is armed. -/
theorem entries_eq_nil (h : ∀ a ∈ r.outline, a.id = .null) : r.entries = [] := by
  unfold entries
  rw [List.filter_eq_nil_iff]
  intro a ha
  simp [h a ha]

/-- The entries before a breakpoint, its own, and those behind it. -/
theorem entries_split (before after : List Breakpoint) (bp : Breakpoint) :
    (⟨before ++ bp :: after⟩ : BreakpointRegistry).entries.Perm
      ((⟨before ++ after⟩ : BreakpointRegistry).entries
        ++ [bp.outline].filter (fun a => a.id ≠ .null)) := by
  unfold entries outline
  simp only [List.map_append, List.map_cons, List.filter_append]
  rw [List.filter_cons, List.append_assoc, List.filter_cons, List.filter_nil]
  refine List.Perm.append_left _ ?_
  split
  · exact (List.perm_append_singleton _ _).symm
  · rw [List.append_nil]

/-- The breakpoints before and behind the one at an index. -/
theorem exists_split {i : Nat} {bp : Breakpoint} (h : r.items[i]? = some bp) :
    ∃ before after, r.items = before ++ bp :: after ∧ before.length = i := by
  obtain ⟨hlt, hget⟩ := List.getElem?_eq_some_iff.mp h
  refine ⟨r.items.take i, r.items.drop (i + 1), ?_, List.length_take_of_le (Nat.le_of_lt hlt)⟩
  rw [← hget, List.getElem_cons_drop, List.take_append_drop]

theorem modify_split (before after : List Breakpoint) (bp : Breakpoint) (f : Breakpoint → Breakpoint) :
    (before ++ bp :: after).modify before.length f = before ++ f bp :: after := by
  induction before with
  | nil => rfl
  | cons b before ih => simpa using ih

/-- A breakpoint that gets an id is armed from then on. -/
theorem entries_assign {i : Nat} {bp : Breakpoint} {id : Json} (h : r.items[i]? = some bp)
    (hnull : bp.id = .null) (hid : id ≠ .null) :
    (r.modify i (fun bp => { bp with id := id })).entries.Perm
      (r.entries ++ [{ id := id, url := bp.url, line := bp.line }]) := by
  obtain ⟨before, after, hitems, rfl⟩ := exists_split h
  have hbefore : r.entries.Perm (⟨before ++ after⟩ : BreakpointRegistry).entries := by
    have hsplit := entries_split before after bp
    rw [List.filter_eq_nil_iff.mpr (by simp [Breakpoint.outline, hnull]), List.append_nil] at hsplit
    show (⟨r.items⟩ : BreakpointRegistry).entries.Perm _
    rw [hitems]
    exact hsplit
  have hafter := entries_split before after { bp with id := id }
  rw [List.filter_eq_self.mpr (by simp [Breakpoint.outline, hid])] at hafter
  show (⟨r.items.modify before.length _⟩ : BreakpointRegistry).entries.Perm _
  rw [hitems, modify_split]
  exact hafter.trans (hbefore.symm.append_right _)

/-- One that gets none is as it was. -/
theorem entries_assign_null {i : Nat} {bp : Breakpoint} (h : r.items[i]? = some bp)
    (hnull : bp.id = .null) :
    (r.modify i (fun bp => { bp with id := .null })).entries = r.entries := by
  obtain ⟨before, after, hitems, rfl⟩ := exists_split h
  have hsame : ({ bp with id := .null } : Breakpoint) = bp := by rw [← hnull]
  have hmodify : r.modify before.length (fun bp => { bp with id := .null }) = r := by
    unfold modify
    rw [hitems, modify_split, hsame, ← hitems]
  rw [hmodify]

/-- A breakpoint that is taken out was armed if it had an id. -/
theorem entries_without {i : Nat} {bp : Breakpoint} (h : r.items[i]? = some bp) :
    r.entries.Perm ((r.without i).entries ++ [bp.outline].filter (fun a => a.id ≠ .null)) := by
  obtain ⟨before, after, hitems, rfl⟩ := exists_split h
  have herase : r.items.eraseIdx before.length = before ++ after := by
    rw [hitems, List.eraseIdx_append_of_length_le (Nat.le_refl _), Nat.sub_self]
    rfl
  unfold without
  rw [herase]
  show (⟨r.items⟩ : BreakpointRegistry).entries.Perm _
  rw [hitems]
  exact entries_split before after bp

theorem entries_without_armed {i : Nat} {bp : Breakpoint} (h : r.items[i]? = some bp)
    (harmed : bp.id ≠ .null) : r.entries.Perm ((r.without i).entries ++ [bp.outline]) := by
  have hsplit := entries_without h
  rwa [List.filter_eq_self.mpr (by simp [Breakpoint.outline, harmed])] at hsplit

theorem entries_without_unarmed {i : Nat} {bp : Breakpoint} (h : r.items[i]? = some bp)
    (hnull : bp.id = .null) : r.entries.Perm (r.without i).entries := by
  have hsplit := entries_without h
  rwa [List.filter_eq_nil_iff.mpr (by simp [Breakpoint.outline, hnull]), List.append_nil] at hsplit

end BreakpointRegistry
end FlowTrace
