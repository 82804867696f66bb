/-
  FlowTrace.Proofs.Console.Words
  ────────────────────────────────
  **SPLITTING UNDOES QUOTING.**

  A word is quoted by single quotes around it.  A single quote cannot stand inside them, so
  it is written as a closing quote, a quote in double quotes, and an opening quote:

      it's   ↦   'it'"'"'s'

  The splitter goes through that without leaving the word, so it reads a quoted word back
  whatever is in it, and quoted words with blanks between them one by one.
-/
import FlowTrace.Console.Words
import FlowTrace.Proofs.Text.Trimming

namespace FlowTrace

/-! ## §1. Characters that stand for themselves. -/

/-- Does the character stand for itself outside quotes? -/
def isPlain (c : Char) : Bool := !isWordGap c && c != '\x27' && c != '\x22' && c != '\\'

theorem isWordGap_of_isPlain {c : Char} (h : isPlain c = true) : isWordGap c = false := by
  simp only [isPlain, Bool.and_eq_true, Bool.not_eq_true'] at h
  exact h.1.1.1

theorem enterWord_of_isPlain {c : Char} (h : isPlain c = true) (w : List Char) :
    enterWord w c = (.word, w ++ [c]) := by
  simp only [isPlain, Bool.and_eq_true, bne_iff_ne, ne_eq] at h
  rw [enterWord, if_neg h.1.1.2, if_neg h.1.2, if_neg h.2]

/-- Plain characters go to the word that they stand in. -/
theorem splitWords_word_plain {cs : List Char} (h : ∀ c ∈ cs, isPlain c = true)
    (w rest : List Char) : splitWords .word w (cs ++ rest) = splitWords .word (w ++ cs) rest := by
  induction cs generalizing w with
  | nil => rw [List.nil_append, List.append_nil]
  | cons c cs ih =>
    obtain ⟨hc, hcs⟩ := List.forall_mem_cons.mp h
    rw [List.cons_append, splitWords, isWordGap_of_isPlain hc, if_neg (by decide),
      enterWord_of_isPlain hc, ih hcs, List.append_assoc]
    rfl

/-- A character that separates no words begins one. -/
theorem splitWords_gap_cons {c : Char} (h : isWordGap c = false) (w rest : List Char) :
    splitWords .gap w (c :: rest) = splitWords .word [] (c :: rest) := by
  rw [splitWords, splitWords, h]
  simp only [Bool.false_eq_true, if_false]

/-! ## §2. Quoted words. -/

/-- A character inside single quotes. -/
def quotedChar (c : Char) : List Char :=
  if c = '\x27' then ['\x27', '\x22', '\x27', '\x22', '\x27'] else [c]

/-- A word in single quotes. -/
def quotedWord (w : List Char) : List Char := '\x27' :: (w.flatMap quotedChar ++ ['\x27'])

/-- Inside single quotes a word is read up to the closing one.  Induction on the word: a quote
in it is read through the double quotes and back. -/
theorem splitWords_single (w : List Char) : ∀ before rest : List Char,
    splitWords .single before (w.flatMap quotedChar ++ '\x27' :: rest)
      = splitWords .word (before ++ w) rest := by
  induction w with
  | nil =>
    intro before rest
    rw [List.flatMap_nil, List.nil_append, List.append_nil, splitWords, if_pos rfl]
  | cons c w ih =>
    intro before rest
    rw [List.flatMap_cons, List.append_assoc]
    have hcut : before ++ c :: w = before ++ [c] ++ w := by simp
    by_cases hc : c = '\x27'
    · subst hc
      rw [hcut, ← ih]
      rfl
    · rw [quotedChar, if_neg hc, List.singleton_append, splitWords, if_neg hc, ih, hcut]

theorem splitWords_quotedWord (w rest : List Char) :
    splitWords .gap [] (quotedWord w ++ rest) = splitWords .word w rest := by
  have hquote : isWordGap '\x27' = false := by decide
  rw [quotedWord, List.cons_append, List.append_assoc, List.singleton_append,
    splitWords_gap_cons hquote]
  exact splitWords_single w [] rest

theorem intercalate_quotedWords (w v : List Char) (ws : List (List Char)) :
    [' '].intercalate ((w :: v :: ws).map quotedWord)
      = quotedWord w ++ ' ' :: [' '].intercalate ((v :: ws).map quotedWord) := by
  simp [List.intercalate]

/-- Induction on the words: behind each of them stands a blank or nothing. -/
theorem splitWords_quotedWords (w : List Char) (ws : List (List Char)) :
    splitWords .gap [] ([' '].intercalate ((w :: ws).map quotedWord)) = .ok (w :: ws) := by
  induction ws generalizing w with
  | nil =>
    have hone : [' '].intercalate ([w].map quotedWord) = quotedWord w ++ [] := by simp
    rw [hone, splitWords_quotedWord]
    rfl
  | cons v ws ih =>
    have hblank : isWordGap ' ' = true := by decide
    rw [intercalate_quotedWords, splitWords_quotedWord, splitWords, if_pos hblank, ih]
    rfl

/-! ## §3. Quoted lines. -/

namespace CommandLine

/-- A text as a single-quoted word. -/
def quotedText (s : String) : String := String.ofList (quotedWord s.toList)

/-- The line of quoted words with single blanks between them. -/
def quotedLine (words : List String) : String := String.intercalate " " (words.map quotedText)

theorem toList_quotedLine (words : List String) :
    (quotedLine words).toList = [' '].intercalate ((words.map String.toList).map quotedWord) := by
  have hspace : " ".toList = [' '] := rfl
  have hword (s : String) : (quotedText s).toList = quotedWord s.toList := String.toList_ofList
  rw [quotedLine, String.toList_intercalate, hspace, List.map_map, List.map_map]
  exact congrArg _ (List.map_congr_left fun s _ => hword s)

/-- A line of quoted words begins with a quote. -/
theorem exists_quotedLine (name : String) (args : List String) :
    ∃ rest, (quotedLine (name :: args)).toList = '\x27' :: rest := by
  rw [toList_quotedLine]
  cases args <;> exact ⟨_, rfl⟩

/-- It ends with one, too. -/
theorem isSolid_quotedLine (name : String) (args : List String) :
    IsSolid (quotedLine (name :: args)) := by
  have hquote : isBlank '\x27' = false := by decide
  have hlast : ∀ (w : List Char) (ws : List (List Char)),
      ∃ rest, [' '].intercalate ((w :: ws).map quotedWord) = rest ++ ['\x27'] := by
    intro w ws
    induction ws generalizing w with
    | nil => exact ⟨'\x27' :: w.flatMap quotedChar, by simp [quotedWord]⟩
    | cons v ws ih =>
      obtain ⟨rest, hrest⟩ := ih v
      exact ⟨quotedWord w ++ ' ' :: rest, by rw [intercalate_quotedWords, hrest]; simp⟩
  obtain ⟨rest, hfirst⟩ := exists_quotedLine name args
  obtain ⟨rest', hend⟩ := hlast name.toList (args.map String.toList)
  refine ⟨⟨'\x27', rest, hfirst, hquote⟩, rest', '\x27', ?_, hquote⟩
  rw [toList_quotedLine]
  exact hend

/-- The names whose argument is the rest of the line are spelled without quoting. -/
theorem isPlain_of_verbatim : ∀ name ∈ verbatimNames, ∀ c ∈ name.toList,
    isPlain c = true ∧ isBlank c = false := by
  intro name hname c hc
  have hall : ∀ name ∈ verbatimNames,
      name.toList.all (fun c => isPlain c && !isBlank c) = true := by decide
  simpa using List.all_eq_true.mp (hall name hname) c hc

/-- What stands in front of the first space, which is where a command's name is looked for. -/
def leading (line : String) : String := String.ofList (line.toList.takeWhile (· != ' '))

/-- A line whose leading part is none of the names is split into words. -/
theorem ofText_of_not_verbatim {before body after : String} (hbefore : IsBlankText before)
    (hbody : IsSolid body) (hafter : IsBlankText after)
    (hname : leading body ∉ verbatimNames) :
    ofText (before ++ body ++ after) = (splitWords .gap [] body.toList).map ofWords := by
  have hfull : body.toList.isEmpty = false := by simpa using hbody.toList_ne_nil
  have hlead : verbatimNames.contains (leading body) = false := by simpa using hname
  unfold ofText
  rw [trim_around hbefore hbody hafter]
  simp only [hfull, Bool.false_eq_true, if_false]
  rw [if_neg (by rw [← leading, hlead]; decide)]

/-- **Splitting undoes quoting.**  Words that are quoted one by one and joined by single blanks
are the name of the command and its arguments. -/
theorem ofText_quotedLine (name : String) (args : List String) :
    ofText (quotedLine (name :: args)) = .ok (some { name := name, args := args }) := by
  have hsolid := isSolid_quotedLine name args
  have hname : leading (quotedLine (name :: args)) ∉ verbatimNames := by
    -- it begins with a quote, and no such name does
    obtain ⟨rest, hline⟩ := exists_quotedLine name args
    rw [leading, hline, List.takeWhile_cons_of_pos (by decide)]
    intro hmem
    have hplain := (isPlain_of_verbatim _ hmem '\x27' (by simp)).1
    exact absurd hplain (by decide)
  have hsplit := ofText_of_not_verbatim isBlankText_empty hsolid isBlankText_empty hname
  rw [String.empty_append, String.append_empty] at hsplit
  rw [hsplit, toList_quotedLine, List.map_cons, splitWords_quotedWords]
  simp [Except.map, ofWords]

/-- A name that would take the rest of the line, a quote, and nothing. -/
example : quotedLine ["p", "it's", ""] = "'p' 'it'\"'\"'s' ''" := by decide +kernel

end CommandLine
end FlowTrace
