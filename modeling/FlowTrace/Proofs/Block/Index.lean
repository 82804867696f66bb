/-
  FlowTrace.Proofs.Block.Index
  ────────────────────────────────
  **THE TWO PARTS OF A TABLE AGREE.**

  A table is kept as a sorted list of lines and a map from lines to blocks.  The parts could
  fall out of step: a line without a block would make a look-up fail, a block without a line
  would be lost, and a line sorted in at the wrong place would hide others from the search.
  None of it happens.  However blocks were put, the index holds the entries of the table that
  `BlockTable.insert` makes (`LineIndex.Keeps`), so each of its answers is that of the table,
  and none of them fails for a missing line.

      search   — `bisect_spec`: everything in front of the place is not greater, everything
                 from it on is
      step     — `Keeps.add`
      run      — `keeps_addAll`, `keeps_ofList`
      answers  — `Keeps.answers`

  Main result: `LineIndex.answers_ofList`.
-/
import FlowTrace.Block.Index
import FlowTrace.Proofs.Block.Floor
import FlowTrace.Proofs.Json.Fields

namespace FlowTrace

open Outcome

/-! ## §1. The search. -/

/-- The lines in front of a place are not greater than the one sought, those from it on are. -/
def Parts (lines : List Int) (line : Int) (k : Nat) : Prop :=
  (∀ i, (h : i < lines.length) → i < k → lines[i] ≤ line)
    ∧ ∀ i, (h : i < lines.length) → k ≤ i → line < lines[i]

variable {lines : List Int}

/-- **Halving keeps the place between its bounds.**  Everything in front of `lo` is not
greater, everything from `hi` on is, and one of the bounds moves to the middle. -/
theorem parts_bisectFrom (hsorted : lines.Pairwise (· < ·)) (line : Int) (lo hi : Nat)
    (h : hi ≤ lines.length) (hlo : lo ≤ hi)
    (hfront : ∀ i, (h : i < lines.length) → i < lo → lines[i] ≤ line)
    (hbehind : ∀ i, (h : i < lines.length) → hi ≤ i → line < lines[i]) :
    Parts lines line (bisectFrom lines line lo hi h) := by
  fun_induction bisectFrom lines line lo hi h with
  | case1 lo hi h hlt hmid hless ih =>
    refine ih (by omega) hfront (fun i hi' hle => ?_)
    -- from the middle on the lines only get greater
    rcases Nat.eq_or_lt_of_le hle with rfl | hgt
    · exact hless
    · exact Int.lt_trans hless (List.pairwise_iff_getElem.mp hsorted _ i (by omega) hi' hgt)
  | case2 lo hi h hlt hmid hge ih =>
    refine ih (by omega) (fun i hi' hle => ?_) hbehind
    rcases Nat.eq_or_lt_of_le (Nat.le_of_lt_succ hle) with rfl | hgt
    · exact Int.not_lt.mp hge
    · have := List.pairwise_iff_getElem.mp hsorted i ((lo + hi) / 2) hi' (by omega) hgt
      omega
  | case3 lo hi h hge =>
    have hsame : lo = hi := by omega
    subst hsame
    exact ⟨hfront, hbehind⟩

theorem bisect_spec (hsorted : lines.Pairwise (· < ·)) (line : Int) :
    Parts lines line (bisect lines line) :=
  parts_bisectFrom hsorted line 0 lines.length (Nat.le_refl _) (Nat.zero_le _)
    (fun _ _ h => absurd h (Nat.not_lt_zero _)) (fun _ h hle => absurd h (Nat.not_lt.mpr hle))

/-! ## §2. The lines of entries. -/

/-- A line that has a block keeps its place when it gets another. -/
theorem lines_insertEntry_of_mem {line : Int} {b : Block} {es : List (Int × Block)}
    (hsorted : (es.map Prod.fst).Pairwise (· < ·)) (h : line ∈ es.map Prod.fst) :
    (insertEntry line b es).map Prod.fst = es.map Prod.fst := by
  induction es with
  | nil => cases h
  | cons e rest ih =>
    rw [List.map_cons, List.pairwise_cons] at hsorted
    rw [List.map_cons, List.mem_cons] at h
    rw [insertEntry]
    by_cases hline : line = e.1
    · rw [if_neg (by omega), if_pos hline, List.map_cons, List.map_cons, hline]
    · have hrest := h.resolve_left hline
      have hbehind := hsorted.1 line hrest
      rw [if_neg (by omega), if_neg hline, List.map_cons, List.map_cons, ih hsorted.2 hrest]

/-- A new line comes to stand where it parts the lines. -/
theorem lines_insertEntry_of_parts {line : Int} {b : Block} {es : List (Int × Block)} {k : Nat}
    (hle : k ≤ es.length) (hparts : Parts (es.map Prod.fst) line k)
    (h : line ∉ es.map Prod.fst) :
    (insertEntry line b es).map Prod.fst = (es.map Prod.fst).insertIdx k line := by
  induction es generalizing k with
  | nil =>
    obtain rfl : k = 0 := Nat.le_zero.mp hle
    rfl
  | cons e rest ih =>
    obtain ⟨hfront, hbehind⟩ := hparts
    rw [List.map_cons, List.mem_cons, not_or] at h
    rw [insertEntry]
    cases k with
    | zero =>
      have hfirst : line < e.1 := hbehind 0 (by simp) (Nat.le_refl 0)
      rw [if_pos hfirst]
      rfl
    | succ k =>
      have hfirst : e.1 ≤ line := hfront 0 (by simp) (Nat.succ_pos k)
      rw [if_neg (by omega), if_neg h.1, List.map_cons, List.map_cons, List.insertIdx_succ_cons,
        ih (Nat.le_of_succ_le_succ hle) ⟨?_, ?_⟩ h.2]
      · intro i hi hik
        exact hfront (i + 1) (by simpa using hi) (Nat.succ_lt_succ hik)
      · intro i hi hik
        exact hbehind (i + 1) (by simpa using hi) (Nat.succ_le_succ hik)

/-! ## §3. The parts of a table. -/

namespace LineIndex

/-- The parts are those of the table: its lines, and for each the block that it has. -/
structure Keeps (ix : LineIndex) (t : BlockTable) : Prop where
  lines : ix.lines = t.lines
  blocks : ∀ l b, Fields.get? ix.blocks l = some b ↔ (l, b) ∈ t.entries

variable {ix : LineIndex} {t : BlockTable}

theorem keeps_empty : Keeps {} BlockTable.empty where
  lines := rfl
  blocks := by simp [BlockTable.empty, Fields.get?]

/-- Exactly the lines have blocks. -/
theorem Keeps.contains_iff (h : ix.Keeps t) (l : Int) :
    Fields.contains ix.blocks l = true ↔ l ∈ t.lines := by
  rw [Fields.contains, Option.isSome_iff_exists, BlockTable.lines, List.mem_map]
  constructor
  · rintro ⟨b, hb⟩
    exact ⟨(l, b), (h.blocks l b).mp hb, rfl⟩
  · rintro ⟨⟨l, b⟩, he, rfl⟩
    exact ⟨b, (h.blocks l b).mpr he⟩

/-- **One block is put in both parts.** -/
theorem Keeps.add (h : ix.Keeps t) (line : Int) (b : Block) :
    (ix.add line b).Keeps (t.insert line b) where
  lines := by
    show (if Fields.contains ix.blocks line then ix.lines
      else ix.lines.insertIdx (bisect ix.lines line) line)
      = (insertEntry line b t.entries).map Prod.fst
    rw [h.lines]
    by_cases hthere : Fields.contains ix.blocks line = true
    · rw [if_pos hthere]
      exact (lines_insertEntry_of_mem t.increasing ((h.contains_iff line).mp hthere)).symm
    · rw [if_neg hthere]
      have hplace : bisect t.lines line ≤ t.entries.length := by
        have := bisect_le t.lines line
        rwa [BlockTable.lines, List.length_map] at this
      exact (lines_insertEntry_of_parts hplace (bisect_spec t.increasing line)
        (mt (h.contains_iff line).mpr hthere)).symm
  blocks := by
    intro l x
    show Fields.get? (Fields.put line b ix.blocks) l = some x
      ↔ (l, x) ∈ insertEntry line b t.entries
    rw [Fields.get?_put, BlockTable.mem_insertEntry_iff t.increasing]
    by_cases hl : l = line
    · subst hl
      simp [eq_comm]
    · rw [if_neg hl, if_neg (Ne.symm hl)]
      exact h.blocks l x

theorem Keeps.addAll (h : ix.Keeps t) (es : List (Int × Block)) :
    (ix.addAll es).Keeps (t.insertAll es) := by
  induction es generalizing ix t with
  | nil => exact h
  | cons e es ih => exact ih (h.add e.1 e.2)

theorem keeps_ofList (es : List (Int × Block)) : (ofList es).Keeps (BlockTable.ofList es) :=
  keeps_empty.addAll es

/-! ## §4. Answers. -/

theorem Keeps.blockAt (h : ix.Keeps t) {e : Int × Block} (he : e ∈ t.entries) :
    ix.blockAt e.1 = .ok e.2 := by
  unfold LineIndex.blockAt
  rw [(h.blocks e.1 e.2).mpr he]

/-- **A look-up finds what the table finds**, and the line that it comes to has a block. -/
theorem Keeps.lookup (h : ix.Keeps t) (line : Int) : ix.lookup line = .ok (t.lookup? line) := by
  have hlen : ix.lines.length = t.entries.length := by
    rw [h.lines, BlockTable.lines, List.length_map]
  have hentry : ∀ i (hi : i < ix.lines.length) (hi' : i < t.entries.length),
      ix.lines[i] = t.entries[i].1 := by
    intro i hi hi'
    simp [h.lines, BlockTable.lines]
  have hsorted : ix.lines.Pairwise (· < ·) := by
    rw [h.lines]
    exact t.increasing
  obtain ⟨hfront, hbehind⟩ := bisect_spec hsorted line
  unfold LineIndex.lookup
  split
  next hplace =>
    rw [hplace] at hbehind
    rw [BlockTable.lookup?_eq_none]
    intro e he
    obtain ⟨i, hi, rfl⟩ := List.getElem_of_mem he
    rw [← hentry i (by omega) hi]
    exact hbehind i (by omega) (Nat.zero_le i)
  next k hplace =>
    rw [hplace] at hfront hbehind
    have hk : k < ix.lines.length := by
      have := bisect_le ix.lines line
      omega
    have hk' : k < t.entries.length := by omega
    have hfound : t.lookup? line = some t.entries[k].2 := by
      refine BlockTable.lookup?_eq_some (List.getElem?_eq_getElem hk') ?_ ?_
      · rw [← hentry k hk hk']
        exact hfront k hk (Nat.lt_succ_self k)
      · intro x hx
        obtain ⟨hnext, rfl⟩ := List.getElem?_eq_some_iff.mp hx
        rw [← hentry (k + 1) (by omega) hnext]
        exact hbehind (k + 1) (by omega) (Nat.le_refl _)
    show (ix.blockAt ix.lines[k]).map some = _
    rw [hentry k hk hk', h.blockAt (List.getElem_mem hk'), hfound]
    rfl

theorem Keeps.find (h : ix.Keeps t) (line : Json) : ix.find line = t.find line := by
  have hempty : ix.lines.isEmpty = t.entries.isEmpty := by
    rw [h.lines, BlockTable.lines, List.isEmpty_map]
  unfold LineIndex.find BlockTable.find
  rw [hempty]
  split
  · rfl
  · cases line.toInt with
    | error f => rfl
    | ok l => exact h.lookup l

theorem Keeps.startLine (h : ix.Keeps t) (number : Json) :
    ix.startLine number = .ok (t.startLine? number) := by
  have hamong : ∀ es : List (Int × Block), (∀ e ∈ es, e ∈ t.entries) →
      ix.startAmong number (es.map Prod.fst)
        = .ok ((es.find? (fun e => e.2.line.same number)).map Prod.fst) := by
    intro es
    induction es with
    | nil => exact fun _ => rfl
    | cons e es ih =>
      intro hes
      rw [List.map_cons, startAmong, h.blockAt (hes e List.mem_cons_self), List.find?_cons]
      show (if e.2.line.same number then _ else _) = _
      cases e.2.line.same number with
      | true => rfl
      | false => exact ih (fun x hx => hes x (List.mem_cons_of_mem e hx))
  unfold LineIndex.startLine
  rw [h.lines]
  exact hamong t.entries (fun _ he => he)

theorem Keeps.entries (h : ix.Keeps t) : ix.entries = .ok t.entries := by
  have hall : ∀ es : List (Int × Block), (∀ e ∈ es, e ∈ t.entries) →
      (es.map Prod.fst).mapM (fun line => (ix.blockAt line).map (fun b => (line, b)))
        = .ok es := by
    intro es
    induction es with
    | nil => exact fun _ => rfl
    | cons e es ih =>
      intro hes
      rw [List.map_cons, List.mapM_cons, h.blockAt (hes e List.mem_cons_self),
        ih (fun x hx => hes x (List.mem_cons_of_mem e hx))]
      rfl
  unfold LineIndex.entries
  rw [h.lines]
  exact hall t.entries (fun _ he => he)

/-- What an index says is what a table says: no answer fails for want of a block. -/
structure Answers (ix : LineIndex) (t : BlockTable) : Prop where
  entries : ix.entries = .ok t.entries
  size : ix.size = t.size
  lookup : ∀ line, ix.lookup line = .ok (t.lookup? line)
  find : ∀ line, ix.find line = t.find line
  startLine : ∀ number, ix.startLine number = .ok (t.startLine? number)

theorem Keeps.answers (h : ix.Keeps t) : ix.Answers t where
  entries := h.entries
  size := by rw [LineIndex.size, h.lines, BlockTable.lines, List.length_map, BlockTable.size]
  lookup := h.lookup
  find := h.find
  startLine := h.startLine

/-- **THE TWO PARTS AGREE.**  Whatever blocks an index was made of and whatever was put on it
later, it answers as the table of the same blocks does, and so it shows what was put last. -/
theorem answers_ofList (es more : List (Int × Block)) :
    ((ofList es).addAll more).Answers ((BlockTable.ofList es).insertAll more)
      ∧ BlockTable.Describes (es ++ more) ((BlockTable.ofList es).insertAll more) :=
  ⟨((keeps_ofList es).addAll more).answers,
    ((BlockTable.holds_ofList es).insertAll more).describes⟩

end LineIndex
end FlowTrace
