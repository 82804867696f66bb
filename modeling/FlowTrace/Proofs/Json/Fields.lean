/-
  FlowTrace.Proofs.Json.Fields
  ────────────────────────────────
  **ENTRIES BY KEY.**

  Putting an entry makes its key lead to it and leaves every other key where it led.  A
  key that is new comes last, so no key comes twice in what is put together.
-/
import FlowTrace.Json.Basic

namespace FlowTrace
namespace Fields

variable {κ α : Type} [DecidableEq κ]

/-! ## §1. Look-up. -/

theorem get?_put (key key' : κ) (value : α) (fields : List (κ × α)) :
    get? (put key value fields) key'
      = if key = key' then some value else get? fields key' := by
  unfold get?
  induction fields with
  | nil =>
    by_cases h : key = key'
    · simp [put, h]
    · have h' : (key' == key) = false := by simpa using fun hsame => h hsame.symm
      simp [put, List.lookup_cons, h, h']
  | cons e rest ih =>
    obtain ⟨k, v⟩ := e
    unfold put
    by_cases hk : k = key
    · subst hk
      by_cases h : k = key'
      · simp [h]
      · have h' : (key' == k) = false := by simpa using fun hsame => h hsame.symm
        simp [List.lookup_cons, h, h']
    · rw [if_neg hk]
      by_cases hkey : key' = k
      · subst hkey
        simp [Ne.symm hk]
      · have h' : (key' == k) = false := by simpa using hkey
        simp only [List.lookup_cons, h']
        exact ih

theorem mem_keys_iff {fields : List (κ × α)} {key : κ} :
    key ∈ keys fields ↔ ∃ value, get? fields key = some value := by
  unfold get? keys
  induction fields with
  | nil => simp
  | cons e rest ih =>
    obtain ⟨k, v⟩ := e
    rw [List.map_cons, List.mem_cons, List.lookup_cons]
    by_cases h : key = k
    · simp [h]
    · have h' : (key == k) = false := by simpa using h
      rw [h', ih]
      simp [h]

/-! ## §2. Keys. -/

theorem put_of_not_mem {key : κ} {fields : List (κ × α)}
    (h : key ∉ keys fields) (value : α) : put key value fields = fields ++ [(key, value)] := by
  induction fields with
  | nil => rfl
  | cons f rest ih =>
    obtain ⟨k, v⟩ := f
    simp only [keys, List.map_cons, List.mem_cons, not_or] at h
    rw [put, if_neg (Ne.symm h.1), ih h.2, List.cons_append]

/-- Entries with different keys are put as they stand. -/
theorem ofList_of_nodup {fields : List (κ × α)} (h : (keys fields).Nodup) :
    ofList fields = fields := by
  have hfold : ∀ xs ys : List (κ × α), (keys (xs ++ ys)).Nodup →
      ys.foldl (fun acc e => put e.1 e.2 acc) xs = xs ++ ys := by
    intro xs ys
    induction ys generalizing xs with
    | nil => simp
    | cons y ys ih =>
      intro hnodup
      have hy : y.1 ∉ keys xs := by
        intro hmem
        simp only [keys, List.map_append, List.map_cons, List.nodup_append] at hnodup
        exact hnodup.2.2 _ hmem _ List.mem_cons_self rfl
      have hsplit : xs ++ y :: ys = xs ++ [y] ++ ys := by simp
      rw [List.foldl_cons, put_of_not_mem hy, ih _ (by rwa [← hsplit]), hsplit]
  exact hfold [] fields h

theorem mem_keys_put {key key' : κ} {value : α} {fields : List (κ × α)} :
    key' ∈ keys (put key value fields) ↔ key' = key ∨ key' ∈ keys fields := by
  rw [mem_keys_iff, mem_keys_iff, get?_put]
  by_cases h : key = key'
  · simp [h]
  · simp [h, Ne.symm h]

/-- Putting an entry makes no key come twice. -/
theorem nodup_keys_put {fields : List (κ × α)} (h : (keys fields).Nodup) (key : κ)
    (value : α) : (keys (put key value fields)).Nodup := by
  induction fields with
  | nil => simp [put, keys]
  | cons e rest ih =>
    obtain ⟨k, v⟩ := e
    obtain ⟨hk, hrest⟩ := List.nodup_cons.mp h
    unfold put
    split
    · next heq =>
      exact List.nodup_cons.mpr ⟨heq ▸ hk, hrest⟩
    · next hne =>
      refine List.nodup_cons.mpr ⟨fun hmem => ?_, ih hrest⟩
      rcases mem_keys_put.mp hmem with rfl | hmem
      · exact hne rfl
      · exact hk hmem

end Fields
end FlowTrace
