/-
  FlowTrace.Proofs.Block.Lookup
  ────────────────────────────────
  **LOOK-UP IN A BLOCK TABLE.**

  Entries given in increasing order of their lines are the table's entries as
  they stand.  A look-up answers with the entry that is the last one not
  behind the line, and with nothing when every entry is behind it.
-/
import FlowTrace.Block.Table

namespace FlowTrace

/-! ## §1. Tables of increasing entries. -/

/-- Inserting behind every line appends. -/
theorem insertEntry_of_forall_lt {line : Int} {b : Block} {es : List (Int × Block)}
    (h : ∀ e ∈ es, e.1 < line) : insertEntry line b es = es ++ [(line, b)] := by
  induction es with
  | nil => rfl
  | cons e rest ih =>
    have he : e.1 < line := h e List.mem_cons_self
    rw [insertEntry, if_neg (by omega), if_neg (by omega),
      ih (fun x hx => h x (List.mem_cons_of_mem e hx))]
    rfl

namespace BlockTable

@[ext] theorem ext {t u : BlockTable} (h : t.entries = u.entries) : t = u := by
  cases t
  cases u
  cases h
  rfl

/-- Entries behind those of a table, in increasing order, are appended to it. -/
theorem entries_foldl_insert {es : List (Int × Block)} :
    ∀ {t : BlockTable}, ((t.entries ++ es).map Prod.fst).Pairwise (· < ·) →
      (es.foldl (fun t e => t.insert e.1 e.2) t).entries = t.entries ++ es := by
  induction es with
  | nil => intro t _; simp
  | cons e es ih =>
    intro t h
    have hlast : ∀ x ∈ t.entries, x.1 < e.1 := by
      intro x hx
      rw [List.map_append, List.pairwise_append] at h
      exact h.2.2 x.1 (List.mem_map_of_mem hx) e.1 (by simp)
    have hinsert : (t.insert e.1 e.2).entries = t.entries ++ [e] := insertEntry_of_forall_lt hlast
    have happend : (t.insert e.1 e.2).entries ++ es = t.entries ++ e :: es := by
      rw [hinsert, List.append_assoc, List.singleton_append]
    rw [List.foldl_cons, ih (by rw [happend]; exact h), happend]

/-- A table of increasing entries has them as they stand. -/
theorem entries_ofList {es : List (Int × Block)} (h : (es.map Prod.fst).Pairwise (· < ·)) :
    (ofList es).entries = es :=
  entries_foldl_insert (t := empty) h

/-! ## §2. Look-up. -/

/-- The entries of a table cut at one of them: those before it are before its
line, those after it behind its line. -/
theorem entries_split {t : BlockTable} {i : Nat} {e : Int × Block} (h : t.entries[i]? = some e) :
    t.entries = t.entries.take i ++ e :: t.entries.drop (i + 1)
      ∧ (∀ x ∈ t.entries.take i, x.1 < e.1) := by
  obtain ⟨hi, he⟩ := List.getElem?_eq_some_iff.mp h
  have hsplit : t.entries = t.entries.take i ++ e :: t.entries.drop (i + 1) := by
    rw [← he, List.getElem_cons_drop, List.take_append_drop]
  refine ⟨hsplit, ?_⟩
  intro x hx
  have hinc := t.increasing
  rw [hsplit, List.map_append, List.pairwise_append] at hinc
  exact hinc.2.2 x.1 (List.mem_map_of_mem hx) e.1 (by simp)

/-- **Look-up answers with the last entry that is not behind the line.** -/
theorem lookup?_eq_some {t : BlockTable} {i : Nat} {e : Int × Block} {line : Int}
    (h : t.entries[i]? = some e) (hle : e.1 ≤ line)
    (hnext : ∀ x, t.entries[i + 1]? = some x → line < x.1) : t.lookup? line = some e.2 := by
  obtain ⟨hsplit, hbefore⟩ := entries_split h
  have hafter : (t.entries.drop (i + 1)).takeWhile (fun x => decide (x.1 ≤ line)) = [] := by
    cases hdrop : t.entries.drop (i + 1) with
    | nil => rfl
    | cons x xs =>
      have hx : line < x.1 := hnext x (by rw [← List.head?_drop, hdrop]; rfl)
      rw [List.takeWhile_cons, if_neg (by simpa using hx)]
  have hwhile : t.entries.takeWhile (fun x => decide (x.1 ≤ line)) = t.entries.take i ++ [e] := by
    conv => lhs; rw [hsplit]
    rw [List.takeWhile_append_of_pos, List.takeWhile_cons, if_pos (by simpa using hle), hafter]
    intro x hx
    have hx' := hbefore x hx
    simp only [decide_eq_true_eq]
    omega
  rw [lookup?, hwhile, List.getLast?_append]
  rfl

/-- Nothing is found before every entry. -/
theorem lookup?_eq_none {t : BlockTable} {line : Int} (h : ∀ e ∈ t.entries, line < e.1) :
    t.lookup? line = none := by
  rw [lookup?]
  cases hes : t.entries with
  | nil => rfl
  | cons e es =>
    have he : line < e.1 := h e (by rw [hes]; exact List.mem_cons_self)
    rw [List.takeWhile_cons, if_neg (by simpa using he)]
    rfl

/-- A whole number is looked up as it is. -/
theorem find_int (t : BlockTable) (line : Int) : t.find (.int line) = .ok (t.lookup? line) := by
  rw [find]
  cases hes : t.entries with
  | nil => simp [lookup?, hes]
  | cons e es => simp [Json.isNull, Json.toInt, Except.map]

end BlockTable
end FlowTrace
