/-
  FlowTrace.Proofs.Text.Rows
  ────────────────────────────────
  **ROWS OF JOINED TEXTS.**

  The rows of a text are what its line feeds separate, so a text has one row
  more than it has line feeds.  Texts joined by single line feeds keep their
  rows: text `i` begins at row `startRow texts i`, its rows follow each other
  from there on, and every row of the whole lies in exactly one of the texts.
-/
import FlowTrace.Compiler

namespace FlowTrace

/-! ## §1. Rows. -/

/-- The rows of a text: what its line feeds separate. -/
def rows (cs : List Char) : List (List Char) := cs.splitOn '\n'

theorem rows_ne_nil (cs : List Char) : rows cs ≠ [] := List.splitOn_ne_nil '\n' cs

theorem rows_append_newline (xs ys : List Char) :
    rows (xs ++ '\n' :: ys) = rows xs ++ rows ys :=
  List.splitOn_append_cons_self xs ys

/-- Text behind characters without a line feed begins on their row. -/
theorem rows_append_of_not_mem {xs : List Char} (h : '\n' ∉ xs) (ys : List Char) :
    rows (xs ++ ys) = (xs ++ (rows ys).headD []) :: (rows ys).tail := by
  induction xs with
  | nil =>
    obtain ⟨r, rs, hrs⟩ := List.exists_cons_of_ne_nil (rows_ne_nil ys)
    simp [hrs]
  | cons x xs ih =>
    have hx : x ≠ '\n' := fun hx => h (hx ▸ List.mem_cons_self)
    have hcons : rows (x :: (xs ++ ys)) = (rows (xs ++ ys)).modifyHead (x :: ·) := by
      rw [rows, List.splitOn_cons_eq_if_modifyHead, if_neg (by simpa using hx), rows]
    rw [List.cons_append, hcons, ih (fun hmem => h (List.mem_cons_of_mem x hmem))]
    rfl

/-- A text has one row more than it has line feeds. -/
theorem length_rows (cs : List Char) : (rows cs).length = cs.count '\n' + 1 := by
  induction cs with
  | nil => rfl
  | cons c cs ih =>
    unfold rows at ih ⊢
    rw [List.splitOn_cons_eq_if_modifyHead]
    by_cases hc : c = '\n'
    · subst hc
      simp [ih]
    · simp [hc, ih]

theorem length_rows_toList (s : String) :
    (rows s.toList).length = Compiler.newlineCount s + 1 := length_rows s.toList

/-- Joining by line feeds keeps the rows of every text. -/
theorem rows_intercalate {texts : List String} (h : texts ≠ []) :
    rows (String.intercalate "\n" texts).toList = texts.flatMap (fun t => rows t.toList) := by
  rw [String.toList_intercalate]
  induction texts with
  | nil => exact absurd rfl h
  | cons t ts ih =>
    cases ts with
    | nil => simp
    | cons u us =>
      have hrest := ih (by simp)
      rw [List.map_cons, List.intercalate_cons_of_ne_nil (by simp), List.append_assoc,
        show ("\n" : String).toList = ['\n'] from rfl, List.singleton_append,
        rows_append_newline]
      rw [show ("\n" : String).toList = ['\n'] from rfl] at hrest
      simp only [hrest, List.flatMap_cons]

/-- A character of joined texts is a line feed or stands in one of them. -/
theorem mem_intercalate {texts : List String} {x : Char}
    (h : x ∈ (String.intercalate "\n" texts).toList) : x = '\n' ∨ ∃ t ∈ texts, x ∈ t.toList := by
  rw [String.toList_intercalate, show ("\n" : String).toList = ['\n'] from rfl] at h
  induction texts with
  | nil => simp at h
  | cons t ts ih =>
    cases ts with
    | nil => exact Or.inr ⟨t, List.mem_cons_self, by simpa using h⟩
    | cons u us =>
      rw [List.map_cons, List.intercalate_cons_of_ne_nil (by simp), List.mem_append,
        List.mem_append, List.mem_singleton] at h
      rcases h with (h | h) | h
      · exact Or.inr ⟨t, List.mem_cons_self, h⟩
      · exact Or.inl h
      · rcases ih h with hx | ⟨v, hv, hx⟩
        · exact Or.inl hx
        · exact Or.inr ⟨v, List.mem_cons_of_mem t hv, hx⟩

/-! ## §2. Where the texts begin. -/

/-- The row at which text `i` begins when the texts are joined by line feeds. -/
def startRow : List String → Nat → Nat
  | t :: ts, i + 1 => Compiler.newlineCount t + 1 + startRow ts i
  | _, _ => 0

@[simp] theorem startRow_zero (texts : List String) : startRow texts 0 = 0 := by
  cases texts <;> rfl

@[simp] theorem startRow_cons_succ (t : String) (ts : List String) (i : Nat) :
    startRow (t :: ts) (i + 1) = Compiler.newlineCount t + 1 + startRow ts i := rfl

/-- Text `i` ends where text `i + 1` begins. -/
theorem startRow_succ {texts : List String} {i : Nat} {t : String} (h : texts[i]? = some t) :
    startRow texts (i + 1) = startRow texts i + (rows t.toList).length := by
  induction texts generalizing i with
  | nil => simp at h
  | cons u us ih =>
    rw [startRow_cons_succ]
    cases i with
    | zero =>
      simp only [List.getElem?_cons_zero, Option.some.injEq] at h
      subst h
      simp [length_rows_toList]
    | succ i =>
      rw [List.getElem?_cons_succ] at h
      rw [ih h, startRow_cons_succ]
      omega

/-- Behind the last text stand as many rows as there are. -/
theorem startRow_length (texts : List String) :
    startRow texts texts.length = (texts.flatMap (fun t => rows t.toList)).length := by
  induction texts with
  | nil => rfl
  | cons t ts ih =>
    rw [List.length_cons, startRow_cons_succ, ih, List.flatMap_cons, List.length_append,
      length_rows_toList]

/-- Later texts begin at later rows. -/
theorem startRow_lt {texts : List String} {i j : Nat} (hij : i < j) (hi : i < texts.length) :
    startRow texts i < startRow texts j := by
  induction texts generalizing i j with
  | nil => simp at hi
  | cons t ts ih =>
    cases j with
    | zero => omega
    | succ j =>
      cases i with
      | zero =>
        rw [startRow_zero, startRow_cons_succ]
        omega
      | succ i =>
        have := ih (Nat.lt_of_succ_lt_succ hij) (Nat.lt_of_succ_lt_succ hi)
        rw [startRow_cons_succ, startRow_cons_succ]
        omega

/-! ## §3. In which text a row lies. -/

/-- Row `p` of the joined texts lies in text `i`. -/
def LiesIn (texts : List String) (p i : Nat) : Prop :=
  ∃ t, texts[i]? = some t ∧ startRow texts i ≤ p ∧ p < startRow texts i + (rows t.toList).length

theorem LiesIn.lt_length {texts : List String} {p i : Nat} (h : LiesIn texts p i) :
    i < texts.length := by
  obtain ⟨t, ht, _⟩ := h
  exact (List.getElem?_eq_some_iff.mp ht).1

/-- A row lies in one text only. -/
theorem LiesIn.unique {texts : List String} {p i j : Nat}
    (hi : LiesIn texts p i) (hj : LiesIn texts p j) : i = j := by
  -- two texts in different places do not overlap, whichever comes first
  have apart : ∀ {a b : Nat}, LiesIn texts p a → LiesIn texts p b → ¬ a < b := by
    intro a b ⟨t, ht, _, hend⟩ ⟨u, hu, hbegin, _⟩ hab
    have hb : b < texts.length := (List.getElem?_eq_some_iff.mp hu).1
    have hsucc := startRow_succ ht
    rcases Nat.lt_or_ge (a + 1) b with hlt | hge
    · have hlater : startRow texts (a + 1) < startRow texts b := startRow_lt hlt (by omega)
      omega
    · have : b = a + 1 := by omega
      subst this
      omega
  have h1 := apart hi hj
  have h2 := apart hj hi
  omega

/-- Every row lies in one of the texts. -/
theorem exists_liesIn {texts : List String} {p : Nat}
    (h : p < (texts.flatMap (fun t => rows t.toList)).length) : ∃ i, LiesIn texts p i := by
  induction texts generalizing p with
  | nil => simp at h
  | cons t ts ih =>
    by_cases hp : p < (rows t.toList).length
    · exact ⟨0, t, rfl, by simp, by simpa using hp⟩
    · rw [List.flatMap_cons, List.length_append] at h
      obtain ⟨i, u, hu, hle, hlt⟩ := ih (p := p - (rows t.toList).length) (by omega)
      have hlen := length_rows_toList t
      refine ⟨i + 1, u, by simpa using hu, ?_, ?_⟩ <;> rw [startRow_cons_succ] <;> omega

/-- The rows of a text stand in the joined texts as they stand in the text. -/
theorem getElem?_flatMap_rows {texts : List String} {i r : Nat} {t : String}
    (ht : texts[i]? = some t) (hr : r < (rows t.toList).length) :
    (texts.flatMap (fun t => rows t.toList))[startRow texts i + r]? = (rows t.toList)[r]? := by
  induction texts generalizing i with
  | nil => simp at ht
  | cons u us ih =>
    rw [List.flatMap_cons]
    cases i with
    | zero =>
      simp only [List.getElem?_cons_zero, Option.some.injEq] at ht
      subst ht
      rw [startRow_zero, Nat.zero_add, List.getElem?_append_left hr]
    | succ i =>
      rw [List.getElem?_cons_succ] at ht
      have hlen := length_rows_toList u
      rw [startRow_cons_succ, List.getElem?_append_right (by omega), ← ih ht]
      congr 1
      omega

/-! ## §4. Lines and rows. -/

theorem isLineBreak_newline : isLineBreak '\n' = true := by decide

theorem modifyHead_nil_append (rs : List (List Char)) :
    rs.modifyHead (([] : List Char).reverse ++ ·) = rs := by
  cases rs <;> rfl

/-- A character that opens no pair of carriage return and line feed stands for itself. -/
theorem linesFrom_cons {c : Char} (h : c ≠ '\r') (current cs : List Char) :
    linesFrom current (c :: cs)
      = if isLineBreak c then current.reverse :: linesFrom [] cs
        else linesFrom (c :: current) cs := by
  rw [linesFrom.eq_def]
  split
  · contradiction
  · next heq => exact absurd (List.cons.inj heq).1 h
  · next heq =>
    obtain ⟨rfl, rfl⟩ := List.cons.inj heq
    rfl

/-- Lines that are open from `current` on: the rows, the first of them behind
what is open; an empty last row is no line. -/
theorem rows_eq_linesFrom (current cs : List Char)
    (h : ∀ c ∈ cs, isLineBreak c = true → c = '\n') :
    (rows cs).modifyHead (current.reverse ++ ·) = linesFrom current cs
      ∨ (rows cs).modifyHead (current.reverse ++ ·) = linesFrom current cs ++ [[]] := by
  induction cs generalizing current with
  | nil =>
    cases current with
    | nil => exact Or.inr rfl
    | cons c current => exact Or.inl (by simp [rows, linesFrom])
  | cons c cs ih =>
    have hrest : ∀ x ∈ cs, isLineBreak x = true → x = '\n' :=
      fun x hx => h x (List.mem_cons_of_mem c hx)
    -- no carriage return is there to join with a line feed
    have hreturn : c ≠ '\r' := by
      rintro rfl
      exact absurd (h _ List.mem_cons_self (by decide)) (by decide)
    have hlines := linesFrom_cons hreturn current cs
    by_cases hbreak : isLineBreak c = true
    · obtain rfl := h c List.mem_cons_self hbreak
      have hrows : rows ('\n' :: cs) = [] :: rows cs := by
        simpa [rows] using rows_append_newline [] cs
      rw [hlines, if_pos hbreak, hrows]
      have hcs := ih [] hrest
      rw [modifyHead_nil_append] at hcs
      simpa using hcs
    · have hne : c ≠ '\n' := by
        rintro rfl
        exact hbreak isLineBreak_newline
      have hrows : rows (c :: cs) = (rows cs).modifyHead (c :: ·) := by
        rw [rows, List.splitOn_cons_eq_if_modifyHead, if_neg (by simpa using hne), rows]
      rw [hlines, if_neg hbreak, hrows, List.modifyHead_modifyHead]
      simpa [Function.comp_def] using ih (c :: current) hrest

/-- Where line feeds are the only line boundaries, the lines are the rows
without an empty last one. -/
theorem rows_eq_lines {cs : List Char} (h : ∀ c ∈ cs, isLineBreak c = true → c = '\n') :
    rows cs = lines cs ∨ rows cs = lines cs ++ [[]] := by
  have hrows := rows_eq_linesFrom [] cs h
  rwa [modifyHead_nil_append] at hrows

/-- A text without carriage returns is read from a file as it was written. -/
theorem unifyNewlines_of_not_mem {cs : List Char} (h : '\r' ∉ cs) : unifyNewlines cs = cs := by
  fun_induction unifyNewlines cs with
  | case1 => rfl
  | case2 rest ih => exact absurd List.mem_cons_self h
  | case3 c rest _ ih =>
    rw [List.mem_cons, not_or] at h
    rw [if_neg (Ne.symm h.1), ih h.2]

end FlowTrace
