/-
  FlowTrace.Proofs.Block.Floor
  ────────────────────────────────
  **A TABLE IS A MAP FROM LINES, ASKED FOR THE FLOOR.**

  However a table was made (from entries, a document or a script, with more entries
  put on it later), blocks were put at lines one after the other.  For each line the
  block that was put there last counts, and the table shows nothing else:

      iteration  — each line once, in increasing order, with that block
      size       — the number of different lines
      look-up    — that block at the greatest line that is not behind the one asked for
      start line — the least line whose block has the number

  So only the order of the entries of one line matters: entries of different lines
  may be put in any order.
-/
import FlowTrace.Block.Scan
import FlowTrace.Proofs.Block.Lookup
import FlowTrace.Proofs.Outcome
import Mathlib.Data.List.Dedup
import Mathlib.Order.Bounds.Defs

namespace FlowTrace

open Outcome

namespace BlockTable

/-! ## §1. The last block of a line. -/

/-- The entries that were put at a line, in order. -/
def entriesAt (es : List (Int × Block)) (line : Int) : List (Int × Block) :=
  es.filter (fun e => decide (e.1 = line))

/-- The block that was put last at a line. -/
def latest? (es : List (Int × Block)) (line : Int) : Option Block :=
  (entriesAt es line).getLast?.map Prod.snd

variable {es es' : List (Int × Block)}

theorem latest?_concat (es : List (Int × Block)) (e : Int × Block) (line : Int) :
    latest? (es ++ [e]) line = if e.1 = line then some e.2 else latest? es line := by
  rw [latest?, entriesAt, List.filter_append]
  by_cases h : e.1 = line
  · simp [h]
  · simp [h, latest?, entriesAt]

/-- It is one of those that were put. -/
theorem mem_of_latest? {line : Int} {b : Block} (h : latest? es line = some b) :
    (line, b) ∈ es := by
  obtain ⟨e, he, rfl⟩ := Option.map_eq_some_iff.mp h
  obtain ⟨hmem, hline⟩ := List.mem_filter.mp (List.mem_of_getLast? he)
  rw [decide_eq_true_eq] at hline
  rw [← hline]
  exact hmem

/-- The lines with a block are those at which one was put. -/
theorem exists_latest? {line : Int} :
    (∃ b, latest? es line = some b) ↔ line ∈ es.map Prod.fst := by
  constructor
  · rintro ⟨b, h⟩
    exact List.mem_map_of_mem (mem_of_latest? h)
  · intro h
    obtain ⟨e, he, hline⟩ := List.mem_map.mp h
    have hmem : e ∈ entriesAt es line := List.mem_filter.mpr ⟨he, by simpa using hline⟩
    have hlast := List.getLast?_eq_getLast_of_ne_nil (List.ne_nil_of_mem hmem)
    exact ⟨_, by rw [latest?, hlast, Option.map_some]⟩

/-- The entries of every line are put in the same order. -/
def SameByLine (es es' : List (Int × Block)) : Prop :=
  ∀ line, entriesAt es line = entriesAt es' line

theorem SameByLine.latest? (h : SameByLine es es') (line : Int) :
    BlockTable.latest? es line = BlockTable.latest? es' line := by
  rw [BlockTable.latest?, BlockTable.latest?, h line]

/-! ## §2. Entries of a table. -/

/-- Putting a block at a line changes the entry of that line only. -/
theorem mem_insertEntry_iff {line l : Int} {b x : Block}
    (h : (es.map Prod.fst).Pairwise (· < ·)) :
    (l, x) ∈ insertEntry line b es ↔ if l = line then x = b else (l, x) ∈ es := by
  induction es with
  | nil =>
    rw [insertEntry, List.mem_singleton, Prod.mk.injEq]
    split
    · simp [*]
    · simp [*]
  | cons e rest ih =>
    obtain ⟨k, y⟩ := e
    rw [List.map_cons, List.pairwise_cons] at h
    have hbehind : ∀ z, (l, z) ∈ rest → k < l := fun z hz => h.1 l (List.mem_map_of_mem hz)
    rw [insertEntry]
    by_cases hlt : line < k
    · -- the line is in front of all of them, so none of them is at it
      rw [if_pos hlt, List.mem_cons, Prod.mk.injEq]
      by_cases hl : l = line
      · subst hl
        rw [if_pos rfl]
        constructor
        · rintro (⟨-, hx⟩ | hmem)
          · exact hx
          · rcases List.mem_cons.mp hmem with heq | hmem
            · have := (Prod.mk.inj heq).1
              omega
            · have := hbehind x hmem
              omega
        · exact fun hx => Or.inl ⟨rfl, hx⟩
      · rw [if_neg hl]
        exact ⟨fun hmem => hmem.resolve_left (fun heq => hl heq.1), Or.inr⟩
    · rw [if_neg hlt]
      by_cases hline : line = k
      · -- the line is there, so its block is the one that is replaced
        subst hline
        rw [if_pos rfl, List.mem_cons, List.mem_cons, Prod.mk.injEq, Prod.mk.injEq]
        by_cases hl : l = line
        · subst hl
          rw [if_pos rfl]
          constructor
          · rintro (⟨-, hx⟩ | hmem)
            · exact hx
            · have := hbehind x hmem
              omega
          · exact fun hx => Or.inl ⟨rfl, hx⟩
        · rw [if_neg hl]
          simp [hl]
      · -- the line is behind the first entry, which stays
        rw [if_neg hline, List.mem_cons, ih h.2, List.mem_cons, Prod.mk.injEq]
        by_cases hl : l = line
        · subst hl
          simp [hline]
        · rw [if_neg hl, if_neg hl]

variable {t : BlockTable}

/-- The table has, for each line, the block that was put there last. -/
def Holds (t : BlockTable) (es : List (Int × Block)) : Prop :=
  ∀ l b, (l, b) ∈ t.entries ↔ latest? es l = some b

theorem holds_empty : empty.Holds [] := by
  intro l b
  simp [empty, latest?, entriesAt]

/-- One more block is put on the table. -/
theorem Holds.insert (h : t.Holds es) (line : Int) (b : Block) :
    (t.insert line b).Holds (es ++ [(line, b)]) := by
  intro l x
  rw [BlockTable.insert, mem_insertEntry_iff t.increasing, latest?_concat, h l x]
  by_cases hl : l = line
  · subst hl
    simp [eq_comm]
  · rw [if_neg hl, if_neg (fun heq => hl heq.symm)]

/-- Blocks that are put on a table one after the other. -/
def insertAll (t : BlockTable) (es : List (Int × Block)) : BlockTable :=
  es.foldl (fun t e => t.insert e.1 e.2) t

theorem Holds.insertAll (h : t.Holds es) (more : List (Int × Block)) :
    (t.insertAll more).Holds (es ++ more) := by
  induction more generalizing t es with
  | nil =>
    rw [List.append_nil]
    exact h
  | cons e more ih =>
    have hsplit : es ++ e :: more = es ++ [e] ++ more := by simp
    rw [hsplit]
    exact ih (h.insert e.1 e.2)

theorem holds_ofList (es : List (Int × Block)) : (ofList es).Holds es :=
  holds_empty.insertAll es

/-- The entries determine each other: a line has one block. -/
theorem Holds.ext {t' : BlockTable} (h : t.Holds es) (h' : t'.Holds es')
    (hsame : SameByLine es es') : t = t' := by
  have hmem : ∀ e, e ∈ t.entries ↔ e ∈ t'.entries := by
    rintro ⟨l, b⟩
    rw [h l b, h' l b, hsame.latest? l]
  have hsorted : ∀ u : BlockTable, u.entries.Pairwise (fun x y => x.1 < y.1) :=
    fun u => List.pairwise_map.mp u.increasing
  have hnodup : ∀ u : BlockTable, u.entries.Nodup := by
    intro u
    refine (hsorted u).imp ?_
    rintro x y hlt rfl
    omega
  have hperm : t.entries.Perm t'.entries :=
    (List.perm_ext_iff_of_nodup (hnodup t) (hnodup t')).mpr hmem
  apply BlockTable.ext
  refine hperm.eq_of_pairwise ?_ (hsorted t) (hsorted t')
  intro x y _ _ hxy hyx
  omega

theorem Holds.mem_lines (h : t.Holds es) (l : Int) : l ∈ t.lines ↔ l ∈ es.map Prod.fst := by
  rw [lines, List.mem_map, ← exists_latest?]
  constructor
  · rintro ⟨⟨l, b⟩, he, rfl⟩
    exact ⟨b, (h l b).mp he⟩
  · rintro ⟨b, hb⟩
    exact ⟨(l, b), (h l b).mpr hb, rfl⟩

/-- The table has as many entries as there are different lines. -/
theorem Holds.size_eq (h : t.Holds es) : t.size = (es.map Prod.fst).dedup.length := by
  have hnodup : t.lines.Nodup := by
    refine t.increasing.imp ?_
    rintro x y hlt rfl
    omega
  have hperm : t.lines.Perm (es.map Prod.fst).dedup := by
    rw [List.perm_ext_iff_of_nodup hnodup (List.nodup_dedup _)]
    intro l
    rw [h.mem_lines l, List.mem_dedup]
  rw [← hperm.length_eq, lines, List.length_map]
  rfl

/-! ## §3. Floor and start line. -/

/-- The entries that are not behind a line stand in front of all others. -/
theorem takeWhile_eq_filter (t : BlockTable) (line : Int) :
    t.entries.takeWhile (fun e => decide (e.1 ≤ line))
      = t.entries.filter (fun e => decide (e.1 ≤ line)) := by
  have hsorted := List.pairwise_map.mp t.increasing
  generalize t.entries = es at hsorted
  induction es with
  | nil => rfl
  | cons e rest ih =>
    rw [List.pairwise_cons] at hsorted
    by_cases he : e.1 ≤ line
    · rw [List.takeWhile_cons_of_pos (by simpa using he),
        List.filter_cons_of_pos (by simpa using he), ih hsorted.2]
    · -- the first that is behind the line has only such behind it
      rw [List.takeWhile_cons_of_neg (by simpa using he),
        List.filter_cons_of_neg (by simpa using he), Eq.comm, List.filter_eq_nil_iff]
      intro x hx
      have := hsorted.1 x hx
      simp only [decide_eq_true_eq]
      omega

/-- What a look-up finds is an entry that is not behind the line, with no entry between
them. -/
theorem lookup?_eq_some_iff {line : Int} {b : Block} :
    t.lookup? line = some b ↔ ∃ l, (l, b) ∈ t.entries ∧ l ≤ line
      ∧ ∀ x ∈ t.entries, x.1 ≤ line → x.1 ≤ l := by
  have hsorted := List.pairwise_map.mp t.increasing
  constructor
  · intro h
    rw [lookup?, takeWhile_eq_filter] at h
    obtain ⟨⟨l, b⟩, hlast, rfl⟩ := Option.map_eq_some_iff.mp h
    obtain ⟨before, hfilter⟩ := List.getLast?_eq_some_iff.mp hlast
    obtain ⟨hmem, hle⟩ := List.mem_filter.mp (List.mem_of_getLast? hlast)
    refine ⟨l, hmem, by simpa using hle, ?_⟩
    intro x hx hxle
    have hin : x ∈ before ++ [(l, b)] := by
      rw [← hfilter]
      exact List.mem_filter.mpr ⟨hx, by simpa using hxle⟩
    have hbefore := hsorted.filter (fun e => decide (e.1 ≤ line))
    rw [hfilter, List.pairwise_append] at hbefore
    rcases List.mem_append.mp hin with hin | hin
    · have := hbefore.2.2 x hin (l, b) List.mem_cons_self
      omega
    · exact Int.le_of_eq (congrArg Prod.fst (List.mem_singleton.mp hin))
  · rintro ⟨l, hmem, hle, hgreatest⟩
    obtain ⟨i, hi⟩ := List.getElem?_of_mem hmem
    refine lookup?_eq_some hi hle ?_
    intro x hx
    -- the next entry is behind this one, so it cannot be in front of the line
    have hnext : l < x.1 := by
      obtain ⟨hilt, hie⟩ := List.getElem?_eq_some_iff.mp hi
      obtain ⟨hxlt, hxe⟩ := List.getElem?_eq_some_iff.mp hx
      have := List.pairwise_iff_getElem.mp hsorted i (i + 1) hilt hxlt (by omega)
      rwa [hie, hxe] at this
    have := hgreatest x (List.mem_of_getElem? hx)
    omega

/-- A look-up finds nothing exactly in front of every entry. -/
theorem lookup?_eq_none_iff {line : Int} :
    t.lookup? line = none ↔ ∀ e ∈ t.entries, line < e.1 := by
  refine ⟨?_, lookup?_eq_none⟩
  intro h e he
  rw [lookup?, takeWhile_eq_filter, Option.map_eq_none_iff, List.getLast?_eq_none_iff,
    List.filter_eq_nil_iff] at h
  simpa using h e he

/-- The start line is that of the first entry whose block has the number. -/
theorem startLine?_eq_some_iff {number : Json} {l : Int} :
    t.startLine? number = some l ↔ ∃ b, (l, b) ∈ t.entries ∧ b.line.same number = true
      ∧ ∀ x ∈ t.entries, x.2.line.same number = true → l ≤ x.1 := by
  have hsorted := List.pairwise_map.mp t.increasing
  constructor
  · intro h
    obtain ⟨⟨l, b⟩, hfind, rfl⟩ := Option.map_eq_some_iff.mp h
    obtain ⟨hb, before, after, hsplit, hbefore⟩ := List.find?_eq_some_iff_append.mp hfind
    refine ⟨b, by rw [hsplit]; simp, hb, ?_⟩
    intro x hx hnumber
    rw [hsplit] at hx hsorted
    rw [List.pairwise_append, List.pairwise_cons] at hsorted
    rcases List.mem_append.mp hx with hx | hx
    · -- those in front of it were passed over
      have := hbefore x hx
      rw [hnumber] at this
      cases this
    · rcases List.mem_cons.mp hx with rfl | hx
      · exact Int.le_refl _
      · exact Int.le_of_lt (hsorted.2.1.1 x hx)
  · rintro ⟨b, hmem, hb, hleast⟩
    -- some entry is found, and as the lines increase it is the one with the least line
    obtain ⟨e, hfind⟩ := Option.isSome_iff_exists.mp
      (List.find?_isSome (p := fun e : Int × Block => e.2.line.same number) |>.mpr ⟨_, hmem, hb⟩)
    obtain ⟨he, before, after, hsplit, hbefore⟩ := List.find?_eq_some_iff_append.mp hfind
    have hle : l ≤ e.1 := hleast e (by rw [hsplit]; simp) he
    rw [hsplit] at hmem hsorted
    rw [List.pairwise_append, List.pairwise_cons] at hsorted
    rw [startLine?, hfind, Option.map_some, Option.some.injEq]
    rcases List.mem_append.mp hmem with hmem | hmem
    · have := hbefore _ hmem
      rw [hb] at this
      cases this
    · rcases List.mem_cons.mp hmem with heq | hmem
      · rw [← heq]
      · have := hsorted.2.1.1 _ hmem
        simp only at this
        omega

/-! ## §4. The map. -/

/-- What a table is made from. -/
inductive Origin where
  | entries (es : List (Int × Block))
  | document (v : Json)
  | script (text factory : String)

/-- The entries that a document gives, in order. -/
def documentEntries (v : Json) : Except Fault (List (Int × Block)) := do
  let blocks ← v.get "blocks"
  let items ← (blocks.orElse (.arr [])).toItems
  entriesOf items

namespace Origin

/-- The table that is made. -/
def table : Origin → Except Fault BlockTable
  | .entries es => .ok (ofList es)
  | .document v => ofDocument v
  | .script text factory => ofSource (.str text) (.str factory)

/-- The entries that are put on it, in order. -/
def puts : Origin → Except Fault (List (Int × Block))
  | .entries es => .ok es
  | .document v => documentEntries v
  | .script text factory => Scan.scanLines factory.toList 0 (FlowTrace.lines text.toList)

theorem table_eq_map (o : Origin) : o.table = o.puts.map ofList := by
  cases o with
  | entries es => rfl
  | document v =>
    rw [table, puts, ofDocument, documentEntries]
    cases v.get "blocks" with
    | error e => rfl
    | ok blocks =>
      simp only [bind, Except.bind]
      cases (blocks.orElse (.arr [])).toItems with
      | error e => rfl
      | ok items => cases entriesOf items <;> rfl
  | script text factory => rfl

end Origin

/-- What a table shows of the entries that were put on it, repeated lines and lines of
any order and sign among them. -/
structure Describes (es : List (Int × Block)) (t : BlockTable) : Prop where
  increasing : t.lines.Pairwise (· < ·)
  mem_lines : ∀ l, l ∈ t.lines ↔ l ∈ es.map Prod.fst
  /-- Each line stands with the block that was put there last. -/
  mem_entries : ∀ l b, (l, b) ∈ t.entries ↔ latest? es l = some b
  size : t.size = (es.map Prod.fst).dedup.length
  lookup_some : ∀ line b, t.lookup? line = some b
    ↔ ∃ l, IsGreatest {l | l ∈ es.map Prod.fst ∧ l ≤ line} l ∧ latest? es l = some b
  lookup_none : ∀ line, t.lookup? line = none ↔ ∀ l ∈ es.map Prod.fst, line < l
  find : ∀ line, t.find (.int line) = .ok (t.lookup? line)
  /-- Only the order of the entries of one line matters. -/
  reorder : ∀ es', SameByLine es es' → ofList es' = t
  start_some : ∀ number l, t.startLine? number = some l
    ↔ IsLeast {l | ∃ b, latest? es l = some b ∧ b.line.same number = true} l
  start_none : ∀ number, t.startLine? number = none
    ↔ ∀ l b, latest? es l = some b → b.line.same number = false

theorem Holds.lookup?_eq_some_iff (h : t.Holds es) (line : Int) (b : Block) :
    t.lookup? line = some b
      ↔ ∃ l, IsGreatest {l | l ∈ es.map Prod.fst ∧ l ≤ line} l ∧ latest? es l = some b := by
  rw [BlockTable.lookup?_eq_some_iff]
  constructor
  · rintro ⟨l, hmem, hle, hgreatest⟩
    have hl : l ∈ es.map Prod.fst := (h.mem_lines l).mp (List.mem_map_of_mem hmem)
    refine ⟨l, ⟨⟨hl, hle⟩, ?_⟩, (h l b).mp hmem⟩
    rintro k ⟨hk, hkle⟩
    obtain ⟨x, hx, rfl⟩ := List.mem_map.mp ((h.mem_lines k).mpr hk)
    exact hgreatest x hx hkle
  · rintro ⟨l, ⟨⟨_, hle⟩, hgreatest⟩, hlatest⟩
    refine ⟨l, (h l b).mpr hlatest, hle, ?_⟩
    intro x hx hxle
    exact hgreatest ⟨(h.mem_lines x.1).mp (List.mem_map_of_mem hx), hxle⟩

theorem Holds.lookup?_eq_none_iff (h : t.Holds es) (line : Int) :
    t.lookup? line = none ↔ ∀ l ∈ es.map Prod.fst, line < l := by
  rw [BlockTable.lookup?_eq_none_iff]
  constructor
  · intro hnone l hl
    obtain ⟨e, he, rfl⟩ := List.mem_map.mp ((h.mem_lines l).mpr hl)
    exact hnone e he
  · exact fun hall e he => hall e.1 ((h.mem_lines e.1).mp (List.mem_map_of_mem he))

theorem Holds.startLine?_eq_some_iff (h : t.Holds es) (number : Json) (l : Int) :
    t.startLine? number = some l
      ↔ IsLeast {l | ∃ b, latest? es l = some b ∧ b.line.same number = true} l := by
  rw [BlockTable.startLine?_eq_some_iff]
  constructor
  · rintro ⟨b, hmem, hb, hleast⟩
    refine ⟨⟨b, (h l b).mp hmem, hb⟩, ?_⟩
    rintro k ⟨x, hx, hnumber⟩
    exact hleast (k, x) ((h k x).mpr hx) hnumber
  · rintro ⟨⟨b, hlatest, hb⟩, hleast⟩
    -- a line has one block, so the entries with the number are the lines with it
    refine ⟨b, (h l b).mpr hlatest, hb, ?_⟩
    exact fun x hx hnumber => hleast ⟨x.2, (h x.1 x.2).mp hx, hnumber⟩

theorem Holds.startLine?_eq_none_iff (h : t.Holds es) (number : Json) :
    t.startLine? number = none ↔ ∀ l b, latest? es l = some b → b.line.same number = false := by
  rw [startLine?, Option.map_eq_none_iff, List.find?_eq_none]
  constructor
  · intro hnone l b hlatest
    simpa using hnone (l, b) ((h l b).mpr hlatest)
  · intro hall x hx
    simpa using hall x.1 x.2 ((h x.1 x.2).mp hx)

theorem Holds.describes (h : t.Holds es) : Describes es t where
  increasing := t.increasing
  mem_lines := h.mem_lines
  mem_entries := h
  size := h.size_eq
  lookup_some := h.lookup?_eq_some_iff
  lookup_none := h.lookup?_eq_none_iff
  find := t.find_int
  reorder := by
    intro es' hsame
    exact (h.ext (holds_ofList es') hsame).symm
  start_some := h.startLine?_eq_some_iff
  start_none := h.startLine?_eq_none_iff

/-- **THE FLOOR MAP.**  Make a table from entries, from a document or from a script,
and put more entries on it.  Then it shows of each line the block that was put there
last, in increasing order, and finds blocks by floor and by number accordingly. -/
theorem floor_map {o : Origin} (h : o.table = .ok t) (more : List (Int × Block)) :
    ∃ es, o.puts = .ok es ∧ Describes (es ++ more) (t.insertAll more) := by
  rw [o.table_eq_map] at h
  cases hputs : o.puts with
  | error e =>
    rw [hputs] at h
    cases h
  | ok es =>
    rw [hputs] at h
    cases h
    exact ⟨es, rfl, ((holds_ofList es).insertAll more).describes⟩

/-- A script with calls on its first and its third line. -/
def twoCalls : String :=
  "_b = generateBlock(1, \"f\", \"F\", \"a\", \"A\", \"terminate\", 0, 0);\n\n" ++
  "_b = generateBlock(2, \"f\", \"F\", \"b\", \"B\", \"terminate\", 0, 0);"

/-- Blocks that are put on its table later: one in front of line zero, two at line two. -/
def afterwards : List (Int × Block) :=
  [2, -3, 2].zipIdx.map (fun e =>
    (e.1, ⟨.int (e.2 + 3), "f", "F", "c", "C", "ignore", .int 0, .int 0⟩))

theorem floor_map_twoCalls :
    ∃ t es, (Origin.script twoCalls "generateBlock").table = .ok t
      ∧ (Origin.script twoCalls "generateBlock").puts = .ok es
      ∧ Describes (es ++ afterwards) (t.insertAll afterwards)
      ∧ (t.insertAll afterwards).lines = [-3, 0, 2]
      ∧ (t.insertAll afterwards).startLine? (.int 5) = some 2 := by
  obtain ⟨t, ht, hshown⟩ := exists_of_toOption_map
    (show ((Origin.script twoCalls "generateBlock").table).toOption.map
        (fun t => ((t.insertAll afterwards).lines, (t.insertAll afterwards).startLine? (.int 5)))
      = some ([-3, 0, 2], some 2) by decide +kernel)
  obtain ⟨es, hputs, hes⟩ := floor_map ht afterwards
  exact ⟨t, es, ht, hputs, hes, (Prod.mk.inj hshown).1, (Prod.mk.inj hshown).2⟩

end BlockTable
end FlowTrace
