/-
  FlowTrace.Proofs.Console.Expression
  ────────────────────────────────
  **WHEN AN EXPRESSION IS TAKEN AS IT STANDS.**

  Three names are followed by an expression, which is not to be split.  The name is cut off
  at the first space, though, while any blank may stand behind it and the words of other
  lines end at four of them.  So the first character behind the name decides:

      a space                 — the expression is taken as it stands
      another gap             — the line is split like any other, and quoting in the
                                expression is undone
      another blank           — the name goes on, and it is another name

  Main result: `CommandLine.expression_kept_iff`.
-/
import FlowTrace.Proofs.Console.Words
import FlowTrace.Proofs.Outcome

namespace FlowTrace

open Outcome

/-! ## §1. What splitting takes away. -/

/-- The most characters that the words can have, read at a place after a word so far. -/
def WordPlace.capacity : WordPlace → List Char → List Char → Nat
  | .gap, _, cs => cs.length
  | .doubleEscaped, w, cs => w.length + cs.length + 1
  | _, w, cs => w.length + cs.length

theorem capacity_enterWord_le (w cs : List Char) (c : Char) :
    (enterWord w c).1.capacity (enterWord w c).2 cs ≤ w.length + cs.length + 1 := by
  unfold enterWord
  split
  · exact Nat.le_succ _
  · split
    · exact Nat.le_succ _
    · split
      · exact Nat.le_succ _
      · simp only [WordPlace.capacity, List.length_append, List.length_singleton]
        omega

/-- A quote and a backslash are taken away. -/
theorem capacity_enterWord_of_not_plain {c : Char} (hgap : isWordGap c = false)
    (hc : isPlain c = false) (w cs : List Char) :
    (enterWord w c).1.capacity (enterWord w c).2 cs = w.length + cs.length := by
  have hquoting : c = '\x27' ∨ c = '\x22' ∨ c = '\\' := by
    by_contra hnone
    simp only [not_or] at hnone
    simp [isPlain, hgap, hnone] at hc
  rcases hquoting with rfl | rfl | rfl <;> rfl

/-- Splitting adds no character. -/
theorem splitWords_length_le {place : WordPlace} {w cs : List Char} {ws : List (List Char)}
    (h : splitWords place w cs = .ok ws) : ws.flatten.length ≤ place.capacity w cs := by
  have hunescape (c : Char) : (unescapeInDouble c).length ≤ 2 := by
    unfold unescapeInDouble
    split <;> simp
  have hkept (w cs : List Char) (c : Char) :
      (w ++ [c]).length + cs.length = w.length + (c :: cs).length := by
    simp only [List.length_append, List.length_cons, List.length_nil]
    omega
  -- the capacity of a place says what the rest of the text can still add; only an escape
  -- between quotes adds two characters at once
  fun_induction splitWords place w cs generalizing ws with
  | case1 => cases h; simp
  | case2 w => cases h; simp [WordPlace.capacity]
  | case3 | case4 | case5 | case6 => cases h
  | case7 w c rest hgap ih => exact (ih h).trans (Nat.le_succ _)
  | case8 w c rest hgap ih =>
    have hrest := capacity_enterWord_le [] rest c
    rw [List.length_nil, Nat.zero_add] at hrest
    exact (ih h).trans hrest
  | case9 w c rest hgap ih =>
    obtain ⟨vs, hvs, rfl⟩ := map_eq_ok.mp h
    have hrest : vs.flatten.length ≤ rest.length := ih hvs
    simp only [WordPlace.capacity, List.flatten_cons, List.length_append, List.length_cons]
    omega
  | case10 w c rest hgap ih => exact (ih h).trans (capacity_enterWord_le w rest c)
  | case11 w rest ih => exact (ih h).trans (Nat.le_succ _)
  | case12 w c rest hopen ih => exact (ih h).trans (Nat.le_of_eq (hkept w rest c))
  | case13 w rest ih => exact (ih h).trans (Nat.le_succ _)
  | case14 w rest hopen ih => exact ih h
  | case15 w c rest hopen hescape ih => exact (ih h).trans (Nat.le_of_eq (hkept w rest c))
  | case16 w c rest ih => exact (ih h).trans (Nat.le_of_eq (hkept w rest c))
  | case17 w c rest ih =>
    have hrest := ih h
    have := hunescape c
    simp only [WordPlace.capacity, List.length_append, List.length_cons] at hrest ⊢
    omega

/-- **Splitting takes away every quote, backslash and gap outside quotes.** -/
theorem isPlain_of_splitWords {cs : List Char} : ∀ {w : List Char} {ws : List (List Char)},
    splitWords .word w cs = .ok ws → ws.flatten.length = w.length + cs.length →
      ∀ c ∈ cs, isPlain c = true := by
  induction cs with
  | nil => exact fun _ _ _ h => nomatch h
  | cons c cs ih =>
    intro w ws h hlength
    cases hgap : isWordGap c with
    | true =>
      -- the gap is gone
      rw [splitWords, if_pos hgap] at h
      obtain ⟨vs, hvs, rfl⟩ := map_eq_ok.mp h
      have hle : vs.flatten.length ≤ cs.length := splitWords_length_le hvs
      simp only [List.flatten_cons, List.length_append, List.length_cons] at hlength
      omega
    | false =>
      rw [splitWords, if_neg (by rw [hgap]; decide)] at h
      cases hplain : isPlain c with
      | true =>
        rw [enterWord_of_isPlain hplain] at h
        refine List.forall_mem_cons.mpr ⟨hplain, ih h ?_⟩
        rw [hlength]
        simp only [List.length_append, List.length_cons, List.length_nil]
        omega
      | false =>
        have hle := splitWords_length_le h
        rw [capacity_enterWord_of_not_plain hgap hplain, hlength, List.length_cons] at hle
        omega

theorem enterWord_spec (w : List Char) (c : Char) :
    (enterWord w c).1 ≠ .gap ∧ ∃ v, (enterWord w c).2 = w ++ v := by
  have hsame : ∃ v, w = w ++ v := ⟨[], (List.append_nil w).symm⟩
  unfold enterWord
  split
  · exact ⟨nofun, hsame⟩
  · split
    · exact ⟨nofun, hsame⟩
    · split
      · exact ⟨nofun, hsame⟩
      · exact ⟨nofun, [c], rfl⟩

/-- What was read of a word stands at its front. -/
theorem exists_of_splitWords {place : WordPlace} {w cs : List Char} {ws : List (List Char)}
    (hplace : place ≠ .gap) (h : splitWords place w cs = .ok ws) :
    ∃ v vs, ws = (w ++ v) :: vs := by
  -- in every place but a gap the word that was begun is kept and only made longer
  have hlonger {w u : List Char} {ws : List (List Char)}
      (hrest : ∃ v vs, ws = (w ++ u ++ v) :: vs) : ∃ v vs, ws = (w ++ v) :: vs := by
    obtain ⟨v, vs, rfl⟩ := hrest
    exact ⟨u ++ v, vs, by rw [List.append_assoc]⟩
  fun_induction splitWords place w cs generalizing ws with
  | case1 | case7 | case8 => exact absurd rfl hplace
  | case2 w =>
    cases h
    exact ⟨[], [], by rw [List.append_nil]⟩
  | case3 | case4 | case5 | case6 => cases h
  | case9 w c rest hgap ih =>
    obtain ⟨vs, -, rfl⟩ := map_eq_ok.mp h
    exact ⟨[], vs, by rw [List.append_nil]⟩
  | case10 w c rest hgap ih =>
    obtain ⟨hentered, u, hu⟩ := enterWord_spec w c
    rw [hu] at ih h
    exact hlonger (ih hentered h)
  | case11 w rest ih => exact ih (by decide) h
  | case12 w c rest hopen ih => exact hlonger (ih (by decide) h)
  | case13 w rest ih => exact ih (by decide) h
  | case14 w rest hopen ih => exact ih (by decide) h
  | case15 w c rest hopen hescape ih => exact hlonger (ih (by decide) h)
  | case16 w c rest ih => exact hlonger (ih (by decide) h)
  | case17 w c rest ih => exact hlonger (ih (by decide) h)

/-! ## §2. Blanks and what stands behind them. -/

theorem isPlain_of_isBlank {c : Char} (hblank : isBlank c = true) (hgap : isWordGap c = false) :
    isPlain c = true := by
  have hquoting : c ≠ '\x27' ∧ c ≠ '\x22' ∧ c ≠ '\\' := by
    refine ⟨?_, ?_, ?_⟩ <;> rintro rfl <;> exact absurd hblank (by decide)
  simp [isPlain, hgap, hquoting]

theorem isWordGap_of_not_isBlank {c : Char} (h : isBlank c = false) : isWordGap c = false := by
  by_contra hgap
  simp only [isWordGap, Bool.not_eq_false, Bool.or_eq_true, beq_iff_eq] at hgap
  rcases hgap with ((rfl | rfl) | rfl) | rfl <;> exact absurd h (by decide)

variable {gap cs : List Char}

/-- A solid word by itself is read as it stands exactly if it has no quoting and no gap. -/
theorem splitWords_solid_iff (hsolid : ∃ c rest, cs = c :: rest ∧ isBlank c = false) :
    splitWords .gap [] cs = .ok [cs] ↔ ∀ c ∈ cs, isPlain c = true := by
  obtain ⟨c, rest, hcs, hc⟩ := hsolid
  have hword : splitWords .gap [] cs = splitWords .word [] (cs ++ []) := by
    rw [List.append_nil, hcs, splitWords_gap_cons (isWordGap_of_not_isBlank hc)]
  rw [hword]
  constructor
  · intro h
    rw [List.append_nil] at h
    exact isPlain_of_splitWords h (by simp)
  · intro h
    rw [splitWords_word_plain h]
    rfl

/-- **A solid word behind blanks.**  Induction on the blanks: a gap goes away, and another blank
begins a word that is not solid. -/
theorem splitWords_blanks_iff (hblank : ∀ c ∈ gap, isBlank c = true)
    (hsolid : ∃ c rest, cs = c :: rest ∧ isBlank c = false) :
    splitWords .gap [] (gap ++ cs) = .ok [cs] ↔
      (∀ c ∈ gap, isWordGap c = true) ∧ ∀ c ∈ cs, isPlain c = true := by
  induction gap with
  | nil => simpa using splitWords_solid_iff hsolid
  | cons b gap ih =>
    obtain ⟨hb, hgap⟩ := List.forall_mem_cons.mp hblank
    rw [List.cons_append, List.forall_mem_cons]
    cases hword : isWordGap b with
    | true =>
      rw [splitWords, if_pos hword, ih hgap]
      simp only [true_and]
    | false =>
      have hne : splitWords .gap [] (b :: (gap ++ cs)) ≠ .ok [cs] := by
        intro h
        rw [splitWords_gap_cons hword, splitWords, if_neg (by rw [hword]; decide),
          enterWord_of_isPlain (isPlain_of_isBlank hb hword)] at h
        obtain ⟨v, vs, hws⟩ := exists_of_splitWords (by decide : WordPlace.word ≠ .gap) h
        obtain ⟨c, rest, hcs, hc⟩ := hsolid
        obtain ⟨rfl, -⟩ : c = b ∧ rest = v := by simpa [hcs] using (List.cons.inj hws).1
        exact absurd (hc.symm.trans hb) (by decide)
      simp only [hne, Bool.false_eq_true, false_and]

/-- **A name, blanks and a solid word.**  The first blank decides where the name ends. -/
theorem splitWords_asked_iff {name : List Char} (hname : ∀ c ∈ name, isPlain c = true)
    (hne : name ≠ []) (hsome : gap ≠ []) (hblank : ∀ c ∈ gap, isBlank c = true)
    (hsolid : ∃ c rest, cs = c :: rest ∧ isBlank c = false) :
    splitWords .gap [] (name ++ (gap ++ cs)) = .ok [name, cs] ↔
      (∀ c ∈ gap, isWordGap c = true) ∧ ∀ c ∈ cs, isPlain c = true := by
  have hstart : splitWords .gap [] (name ++ (gap ++ cs)) = splitWords .word name (gap ++ cs) := by
    obtain ⟨c, rest, hc⟩ := List.exists_cons_of_ne_nil hne
    have hfirst : isWordGap c = false :=
      isWordGap_of_isPlain (hname c (by rw [hc]; exact List.mem_cons_self))
    rw [hc, List.cons_append, splitWords_gap_cons hfirst, ← List.cons_append, ← hc,
      splitWords_word_plain hname, List.nil_append]
  obtain ⟨b, gap, rfl⟩ := List.exists_cons_of_ne_nil hsome
  obtain ⟨hb, hgap⟩ := List.forall_mem_cons.mp hblank
  rw [hstart, List.cons_append, splitWords, List.forall_mem_cons]
  cases hword : isWordGap b with
  | true =>
    have hargs : (splitWords .gap [] (gap ++ cs)).map (name :: ·) = .ok [name, cs] ↔
        splitWords .gap [] (gap ++ cs) = .ok [cs] := by
      rw [map_eq_ok]
      constructor
      · rintro ⟨ws, hws, heq⟩
        rw [hws, (List.cons.inj heq).2]
      · exact fun h => ⟨[cs], h, rfl⟩
    rw [if_pos rfl, hargs, splitWords_blanks_iff hgap hsolid]
    simp only [true_and]
  | false =>
    -- the name goes on
    have hother : splitWords .word (name ++ [b]) (gap ++ cs) ≠ .ok [name, cs] := by
      intro h
      obtain ⟨v, vs, hws⟩ := exists_of_splitWords (by decide : WordPlace.word ≠ .gap) h
      have hlength := congrArg List.length (List.cons.inj hws).1
      simp only [List.length_append, List.length_cons, List.length_nil] at hlength
      omega
    rw [if_neg (by decide), enterWord_of_isPlain (isPlain_of_isBlank hb hword)]
    simp only [hother, Bool.false_eq_true, false_and]

/-! ## §3. Lines that ask for an expression. -/

/-- Blanks around, the line is a name that is followed by an expression, a gap of blanks, and
the expression. -/
structure Asks (line name gap expression : String) : Prop where
  named : name ∈ CommandLine.verbatimNames
  apart : gap ≠ ""
  blank : IsBlankText gap
  solid : IsSolid expression
  around : ∃ before after, IsBlankText before ∧ IsBlankText after ∧
    line = before ++ (name ++ gap ++ expression) ++ after

namespace CommandLine

variable {line name gap expression : String}

theorem ne_nil_of_verbatim : ∀ name ∈ verbatimNames, name.toList ≠ [] := by decide

theorem isSolid_asked (hname : name ∈ verbatimNames) (hsolid : IsSolid expression) :
    IsSolid (name ++ gap ++ expression) := by
  obtain ⟨rest, d, hlast, hd⟩ := hsolid.last
  refine ⟨?_, name.toList ++ gap.toList ++ rest, d, ?_, hd⟩
  · obtain ⟨c, cs, hc⟩ := List.exists_cons_of_ne_nil (ne_nil_of_verbatim name hname)
    refine ⟨c, cs ++ gap.toList ++ expression.toList, ?_, ?_⟩
    · rw [String.toList_append, String.toList_append, hc]
      simp
    · exact (isPlain_of_verbatim name hname c (by rw [hc]; exact List.mem_cons_self)).2
  · rw [String.toList_append, String.toList_append, hlast, List.append_assoc _ _ [d]]

/-- A name has no blank, so a part of the line that has one is none of the names. -/
theorem not_verbatim_of_blank {c : Char} (hc : c ∈ name.toList) (hblank : isBlank c = true) :
    name ∉ verbatimNames := by
  intro hname
  exact absurd (hblank.symm.trans (isPlain_of_verbatim name hname c hc).2) (by decide)

theorem ne_space_of_verbatim (hname : name ∈ verbatimNames) :
    ∀ c ∈ name.toList, (c != ' ') = true := by
  intro c hc
  rw [bne_iff_ne]
  rintro rfl
  exact not_verbatim_of_blank hc (by decide) hname

/-- Behind a space the expression is taken as it stands. -/
theorem ofText_of_space (h : Asks line name gap expression) (hspace : gap.toList.head? = some ' ') :
    ofText line = .ok (some { name := name, args := [expression] }) := by
  obtain ⟨before, after, hbefore, hafter, rfl⟩ := h.around
  obtain ⟨rest, hgap⟩ : ∃ rest, gap.toList = ' ' :: rest := by
    cases hcs : gap.toList with
    | nil => rw [hcs] at hspace; cases hspace
    | cons c rest => rw [hcs] at hspace; exact ⟨rest, by rw [Option.some.inj hspace]⟩
  have hno := ne_space_of_verbatim h.named
  have hfull : (name ++ gap ++ expression).toList
      = name.toList ++ ' ' :: (rest ++ expression.toList) := by
    rw [String.toList_append, String.toList_append, hgap]
    simp
  -- the name has no space in it, so the first one is that of the gap
  have htake : (name ++ gap ++ expression).toList.takeWhile (· != ' ') = name.toList := by
    rw [hfull, List.takeWhile_append_of_pos hno, List.takeWhile_cons_of_neg (by decide),
      List.append_nil]
  have hdrop : String.ofList ((name ++ gap ++ expression).toList.dropWhile (· != ' '))
      = gap ++ expression ++ "" := by
    rw [hfull, List.dropWhile_append_of_pos hno, List.dropWhile_cons_of_neg (by decide),
      ← List.cons_append, ← hgap]
    simp
  have hsolid : IsSolid (name ++ gap ++ expression) := isSolid_asked h.named h.solid
  have hline : (name ++ gap ++ expression).toList.isEmpty = false := by
    simpa using hsolid.toList_ne_nil
  have hgiven : expression.isEmpty = false := by
    simpa using h.solid.toList_ne_nil
  unfold ofText
  rw [trim_around hbefore hsolid hafter]
  simp only [hline, Bool.false_eq_true, if_false]
  rw [htake, String.ofList_toList, if_pos (by simpa using h.named), hdrop,
    trim_around h.blank h.solid isBlankText_empty, hgiven]
  rfl

/-- Behind another blank the line is split. -/
theorem ofText_of_not_space (h : Asks line name gap expression)
    (hspace : gap.toList.head? ≠ some ' ') :
    ofText line = (splitWords .gap [] (name ++ gap ++ expression).toList).map ofWords := by
  obtain ⟨before, after, hbefore, hafter, rfl⟩ := h.around
  obtain ⟨b, rest, hgap⟩ := List.exists_cons_of_ne_nil (mt String.toList_eq_nil_iff.mp h.apart)
  have hb : (b != ' ') = true := by
    rw [bne_iff_ne]
    rintro rfl
    exact hspace (by rw [hgap]; rfl)
  have hmem : b ∈ (leading (name ++ gap ++ expression)).toList := by
    rw [leading, String.toList_ofList, String.toList_append, String.toList_append, hgap,
      List.append_assoc, List.takeWhile_append_of_pos (ne_space_of_verbatim h.named),
      List.cons_append, List.takeWhile_cons, if_pos hb]
    simp
  have hblank : isBlank b = true := h.blank b (by rw [hgap]; exact List.mem_cons_self)
  exact ofText_of_not_verbatim hbefore (isSolid_asked h.named h.solid) hafter
    (not_verbatim_of_blank hmem hblank)

theorem ofWords_eq_some_iff {ws : List (List Char)} :
    ofWords ws = some { name := name, args := [expression] } ↔
      ws = [name.toList, expression.toList] := by
  have hword (cs : List Char) (s : String) : String.ofList cs = s ↔ cs = s.toList :=
    ⟨fun h => by rw [← h, String.toList_ofList], fun h => by rw [h, String.ofList_toList]⟩
  cases ws with
  | nil => exact ⟨nofun, nofun⟩
  | cons w ws =>
    rcases ws with _ | ⟨v, _ | ⟨u, us⟩⟩ <;> simp [ofWords, hword]

/-- **When an expression is taken as it stands.**  Behind a space it always is.  Behind another
blank the line is split like any other, and the expression comes out of that whole exactly if
there is nothing but gaps in front of it and neither quoting nor a gap in it. -/
theorem expression_kept_iff (h : Asks line name gap expression) :
    (gap.toList.head? ≠ some ' ' →
      ofText line = (splitWords .gap [] (name ++ gap ++ expression).toList).map ofWords) ∧
    (ofText line = .ok (some { name := name, args := [expression] }) ↔
      gap.toList.head? = some ' ' ∨
        (∀ c ∈ gap.toList, isWordGap c = true) ∧ ∀ c ∈ expression.toList, isPlain c = true) := by
  refine ⟨ofText_of_not_space h, ?_⟩
  by_cases hspace : gap.toList.head? = some ' '
  · exact iff_of_true (ofText_of_space h hspace) (Or.inl hspace)
  · have hasked := splitWords_asked_iff
      (fun c hc => (isPlain_of_verbatim name h.named c hc).1) (ne_nil_of_verbatim name h.named)
      (mt String.toList_eq_nil_iff.mp h.apart) h.blank h.solid.first
    have hwords : ofText line = .ok (some { name := name, args := [expression] }) ↔
        splitWords .gap [] (name.toList ++ (gap.toList ++ expression.toList))
          = .ok [name.toList, expression.toList] := by
      rw [ofText_of_not_space h hspace, map_eq_ok, String.toList_append, String.toList_append,
        List.append_assoc]
      constructor
      · rintro ⟨ws, hws, hcommand⟩
        rw [hws, ofWords_eq_some_iff.mp hcommand]
      · exact fun hws => ⟨_, hws, ofWords_eq_some_iff.mpr rfl⟩
    rw [hwords, hasked, or_iff_right hspace]

theorem isSolid_quoted : IsSolid "'a b'" where
  first := ⟨'\x27', _, rfl, by decide⟩
  last := ⟨"'a b".toList, '\x27', by decide, by decide⟩

/-- A space and a tab in front of a quoted text: the quotes are kept. -/
theorem expression_kept_iff_spaced :
    Asks "  p \t'a b' " "p" " \t" "'a b'" ∧
      ofText "  p \t'a b' " = .ok (some { name := "p", args := ["'a b'"] }) := by
  have hasked : Asks "  p \t'a b' " "p" " \t" "'a b'" :=
    { named := by decide
      apart := by decide
      blank := by decide
      solid := isSolid_quoted
      around := ⟨"  ", " ", by decide, by decide, by decide⟩ }
  exact ⟨hasked, (expression_kept_iff hasked).2.mpr (Or.inl (by decide))⟩

/-- **A tab alone in front of it, and the quotes are gone.** -/
theorem unquoted_behind_tab :
    ¬ ∀ line name gap expression, Asks line name gap expression →
      ofText line = .ok (some { name := name, args := [expression] }) := by
  intro h
  have hasked : Asks "eval\t'a b'" "eval" "\t" "'a b'" :=
    { named := by decide
      apart := by decide
      blank := by decide
      solid := isSolid_quoted
      around := ⟨"", "", isBlankText_empty, isBlankText_empty, by decide⟩ }
  have hsplit : ofText "eval\t'a b'" = .ok (some { name := "eval", args := ["a b"] }) := by rfl
  have hkept := (h _ _ _ _ hasked).symm.trans hsplit
  injection hkept with hkept
  exact absurd hkept (by decide)

end CommandLine
end FlowTrace
