/-
  FlowTrace.Proofs.Block.ReadBack
  ────────────────────────────────
  **WHEN A BLOCK CALL CAN BE READ BACK.**

  A block call keeps its texts on one line as far as JSON does: line feeds and
  the other control characters are escaped.  Three line boundaries of scripts
  are no control characters for JSON and stay as they are:

      U+0085   next line
      U+2028   line separator
      U+2029   paragraph separator

  A call without them is read back, whatever else its texts hold.  A call with
  one of them stands on several lines, and none of these holds a call: a call
  needs the ten quotes of its five texts on one line.  What counts here are
  the quotes that no backslash takes (`openQuotes`), wherever a scan begins.
-/
import FlowTrace.Proofs.Block.Rescan

namespace FlowTrace

open Outcome

/-! ## §1. Line boundaries that are not escaped. -/

/-- Is the character a line boundary that stands in JSON text as it is? -/
def isBareBreak (c : Char) : Bool := isLineBreak c && !decide (c.toNat < 32)

namespace Json

/-- An escaped character holds a line boundary exactly if it is a bare one. -/
theorem any_encodeChar (c : Char) : (encodeChar c).any isLineBreak = isBareBreak c := by
  have hletter : ∀ e x : Char, letterEscape? e = some x →
      isLineBreak e = false ∧ isBareBreak x = false := by
    intro e x h
    unfold letterEscape? at h
    -- the letters of escapes, one after the other
    repeat' split at h
    all_goals cases h
    all_goals
      subst_vars
      decide
  have hescaped := escaped_encodeChar c
  generalize encodeChar c = es at hescaped ⊢
  cases hescaped with
  | itself hquote hslash hcontrol => simp [isBareBreak, hcontrol]
  | letter e hu h =>
    obtain ⟨he, hc⟩ := hletter e c h
    have hslash : isLineBreak '\\' = false := by decide
    simp [he, hc, hslash]
  | code hcontrol =>
    have hdigit : ∀ n < 16, isLineBreak (Nat.digitChar n) = false := by decide
    have hplain : isLineBreak '\\' = false ∧ isLineBreak 'u' = false ∧ isLineBreak '0' = false := by
      decide
    rw [hex_four_of_lt _ hcontrol]
    simp [isBareBreak, hcontrol, hplain, hdigit (c.toNat / 16) (by omega),
      hdigit (c.toNat % 16) (by omega)]

theorem any_encodeString (cs : List Char) :
    (encodeString cs).any isLineBreak = cs.any isBareBreak := by
  have hquote : isLineBreak '\x22' = false := by decide
  have hbody : (cs.flatMap encodeChar).any isLineBreak = cs.any isBareBreak := by
    induction cs with
    | nil => rfl
    | cons c cs ih => rw [List.flatMap_cons, List.any_append, any_encodeChar, ih, List.any_cons]
  simp [encodeString, hquote, hbody]

end Json

/-! ## §2. Open quotes. -/

namespace Scan

/-- The number of quotes that no backslash takes. -/
def openQuotes : List Char → Nat
  | [] => 0
  | '\\' :: _ :: rest => openQuotes rest
  | c :: rest => (if c = '\x22' then 1 else 0) + openQuotes rest

theorem openQuotes_cons {c : Char} (h : c ≠ '\\') (cs : List Char) :
    openQuotes (c :: cs) = (if c = '\x22' then 1 else 0) + openQuotes cs := by
  rw [openQuotes.eq_def]
  split
  · contradiction
  · next heq => exact absurd (List.cons.inj heq).1 h
  · next heq =>
    obtain ⟨rfl, rfl⟩ := List.cons.inj heq
    rfl

/-- Is the character neither a quote nor a backslash? -/
def isPlain (c : Char) : Bool := c != '\x22' && c != '\\'

theorem openQuotes_plain {c : Char} (h : isPlain c = true) (cs : List Char) :
    openQuotes (c :: cs) = openQuotes cs := by
  simp only [isPlain, Bool.and_eq_true, bne_iff_ne] at h
  rw [openQuotes_cons h.2, if_neg h.1, Nat.zero_add]

/-- Plain characters in front change nothing. -/
theorem openQuotes_append {xs : List Char} (h : ∀ c ∈ xs, isPlain c = true) (ys : List Char) :
    openQuotes (xs ++ ys) = openQuotes ys := by
  induction xs with
  | nil => rfl
  | cons x xs ih =>
    rw [List.cons_append, openQuotes_plain (h x List.mem_cons_self),
      ih (fun c hc => h c (List.mem_cons_of_mem x hc))]

/-- A plain character parts the open quotes, even if a backslash takes it. -/
theorem openQuotes_part {x : Char} (hx : isPlain x = true) :
    ∀ xs ys : List Char, openQuotes (xs ++ x :: ys) = openQuotes xs + openQuotes ys
  | [], ys => by rw [List.nil_append, openQuotes_plain hx, openQuotes, Nat.zero_add]
  | ['\\'], ys => by simp [openQuotes]
  | '\\' :: c :: xs, ys => by
    simpa [openQuotes] using openQuotes_part hx xs ys
  | c :: xs, ys => by
    by_cases hc : c = '\\'
    · subst hc
      match xs with
      | [] => simp [openQuotes]
      | d :: xs => simpa [openQuotes] using openQuotes_part hx xs ys
    · rw [List.cons_append, openQuotes_cons hc, openQuotes_cons hc, openQuotes_part hx xs ys,
        Nat.add_assoc]

/-- A suffix that begins with a plain character has no more open quotes than the
whole, even if it begins behind a backslash. -/
theorem openQuotes_le {x : Char} (hx : isPlain x = true) (xs ys : List Char) :
    openQuotes (x :: ys) ≤ openQuotes (xs ++ x :: ys) := by
  rw [openQuotes_part hx, openQuotes_plain hx]
  omega

theorem openQuotes_encodeChar (c : Char) (rest : List Char) :
    openQuotes (Json.encodeChar c ++ rest) = openQuotes rest := by
  have hescaped := Json.escaped_encodeChar c
  generalize Json.encodeChar c = es at hescaped ⊢
  cases hescaped with
  | itself hquote hslash hcontrol =>
    exact openQuotes_plain (by simp [isPlain, hquote, hslash]) rest
  | letter e hu hletter => rfl
  | code hcontrol =>
    have hdigit : ∀ n < 16, isPlain (Nat.digitChar n) = true := by decide
    have hzero : isPlain '0' = true := by decide
    rw [Json.hex_four_of_lt _ hcontrol]
    simp only [List.cons_append, List.nil_append]
    rw [openQuotes, openQuotes_plain hzero, openQuotes_plain hzero,
      openQuotes_plain (hdigit _ (by omega)), openQuotes_plain (hdigit _ (by omega))]

/-- The characters inside a string token hold no open quote. -/
theorem openQuotes_flatMap (cs rest : List Char) :
    openQuotes (cs.flatMap Json.encodeChar ++ rest) = openQuotes rest := by
  induction cs with
  | nil => rfl
  | cons c cs ih => rw [List.flatMap_cons, List.append_assoc, openQuotes_encodeChar, ih]

theorem openQuotes_quote (rest : List Char) : openQuotes ('\x22' :: rest) = 1 + openQuotes rest :=
  openQuotes_cons (by decide) rest

theorem openQuotes_encodeString (cs rest : List Char) :
    openQuotes (Json.encodeString cs ++ rest) = 2 + openQuotes rest := by
  rw [Json.encodeString, List.append_assoc, List.cons_append, openQuotes_quote, openQuotes_flatMap,
    List.singleton_append, openQuotes_quote]
  omega

/-! ## §3. A call needs ten of them. -/

theorem isPlain_of_isBlank {c : Char} (h : isBlank c = true) : isPlain c = true := by
  simp only [isPlain, Bool.and_eq_true, bne_iff_ne]
  constructor
  · rintro rfl
    revert h
    decide
  · rintro rfl
    revert h
    decide

theorem isPlain_of_isDigit {c : Char} (h : DecimalDigit.isDigit c = true) : isPlain c = true := by
  have hquote : DecimalDigit.isDigit '\x22' = false := by decide +kernel
  have hslash : DecimalDigit.isDigit '\\' = false := by decide +kernel
  simp only [isPlain, Bool.and_eq_true, bne_iff_ne]
  constructor
  · rintro rfl
    rw [hquote] at h
    cases h
  · rintro rfl
    rw [hslash] at h
    cases h

theorem openQuotes_dropWhile {p : Char → Bool} (hp : ∀ c, p c = true → isPlain c = true)
    (cs : List Char) : openQuotes (cs.dropWhile p) = openQuotes cs := by
  induction cs with
  | nil => rfl
  | cons c cs ih =>
    by_cases hc : p c = true
    · rw [List.dropWhile_cons_of_pos hc, ih, openQuotes_plain (hp c hc)]
    · rw [List.dropWhile_cons_of_neg hc]

theorem openQuotes_skipBlanks (cs : List Char) : openQuotes (skipBlanks cs) = openQuotes cs :=
  openQuotes_dropWhile (fun _ => isPlain_of_isBlank) cs

theorem openQuotes_afterChar? {c : Char} (hc : isPlain c = true) {cs rest : List Char}
    (h : afterChar? c cs = some rest) : openQuotes cs = openQuotes rest := by
  cases cs with
  | nil => cases h
  | cons d cs =>
    simp only [afterChar?] at h
    split at h
    · next heq =>
      cases h
      exact openQuotes_plain (heq ▸ hc) _
    · cases h

theorem openQuotes_afterComma? {cs rest : List Char} (h : afterComma? cs = some rest) :
    openQuotes cs = openQuotes rest := by
  obtain ⟨after, hafter, rfl⟩ := Option.map_eq_some_iff.mp h
  rw [openQuotes_skipBlanks, ← openQuotes_afterChar? (by decide) hafter, openQuotes_skipBlanks]

theorem openQuotes_digitsToken? {cs ds rest : List Char} (h : digitsToken? cs = some (ds, rest)) :
    openQuotes cs = openQuotes rest := by
  simp only [digitsToken?] at h
  split at h
  · cases h
  · cases h
    exact (openQuotes_dropWhile (fun _ => isPlain_of_isDigit) cs).symm

theorem openQuotes_stringTail? {cs token rest : List Char}
    (h : stringTail? cs = some (token, rest)) : openQuotes cs = 1 + openQuotes rest := by
  fun_induction stringTail? cs generalizing token rest with
  | case1 => cases h
  | case2 c cs ih =>
    obtain ⟨⟨token', rest'⟩, htail, heq⟩ := Option.map_eq_some_iff.mp h
    cases heq
    rw [openQuotes, ih htail]
  | case3 cs =>
    cases h
    exact openQuotes_quote _
  | case4 cs => cases h
  | case5 c cs _ hquote hslash ih =>
    obtain ⟨⟨token', rest'⟩, htail, heq⟩ := Option.map_eq_some_iff.mp h
    cases heq
    rw [openQuotes_cons hslash, if_neg hquote, Nat.zero_add, ih htail]

/-- A string token takes two. -/
theorem openQuotes_stringToken? {cs token rest : List Char}
    (h : stringToken? cs = some (token, rest)) : openQuotes cs = 2 + openQuotes rest := by
  unfold stringToken? at h
  split at h
  · obtain ⟨⟨token', rest'⟩, htail, heq⟩ := Option.map_eq_some_iff.mp h
    cases heq
    rw [openQuotes_quote, openQuotes_stringTail? htail, ← Nat.add_assoc]
  · cases h

/-- **A call has ten open quotes**, two for each of its five texts. -/
theorem ten_le_openQuotes {factory cs : List Char} (hfactory : ∀ c ∈ factory, isPlain c = true)
    {call : Call} (h : callHere? factory cs = some call) : 10 ≤ openQuotes cs := by
  -- the steps of the match, one after another, through the fifth text
  obtain ⟨_, hafter, h⟩ := Option.bind_eq_some_iff.mp h
  obtain ⟨_, hparen, h⟩ := Option.bind_eq_some_iff.mp h
  obtain ⟨⟨_, _⟩, hline, h⟩ := Option.bind_eq_some_iff.mp h
  obtain ⟨_, hc1, h⟩ := Option.bind_eq_some_iff.mp h
  obtain ⟨⟨_, _⟩, hs1, h⟩ := Option.bind_eq_some_iff.mp h
  obtain ⟨_, hc2, h⟩ := Option.bind_eq_some_iff.mp h
  obtain ⟨⟨_, _⟩, hs2, h⟩ := Option.bind_eq_some_iff.mp h
  obtain ⟨_, hc3, h⟩ := Option.bind_eq_some_iff.mp h
  obtain ⟨⟨_, _⟩, hs3, h⟩ := Option.bind_eq_some_iff.mp h
  obtain ⟨_, hc4, h⟩ := Option.bind_eq_some_iff.mp h
  obtain ⟨⟨_, _⟩, hs4, h⟩ := Option.bind_eq_some_iff.mp h
  obtain ⟨_, hc5, h⟩ := Option.bind_eq_some_iff.mp h
  obtain ⟨⟨_, _⟩, hs5, _⟩ := Option.bind_eq_some_iff.mp h
  rw [prefix_of_after? hafter, openQuotes_append hfactory, openQuotes_afterChar? (by decide) hparen,
    ← openQuotes_skipBlanks, openQuotes_digitsToken? hline, openQuotes_afterComma? hc1,
    openQuotes_stringToken? hs1, openQuotes_afterComma? hc2, openQuotes_stringToken? hs2,
    openQuotes_afterComma? hc3, openQuotes_stringToken? hs3, openQuotes_afterComma? hc4,
    openQuotes_stringToken? hs4, openQuotes_afterComma? hc5, openQuotes_stringToken? hs5]
  omega

/-- A line with fewer open quotes than a call needs holds none. -/
theorem firstCall?_eq_none_of_openQuotes {factory cs : List Char}
    (hfactory : ∀ c ∈ factory, isPlain c = true) (h : openQuotes cs < 10) :
    firstCall? factory cs = none := by
  rw [Option.eq_none_iff_forall_ne_some]
  intro call hcall
  obtain ⟨before, site, rfl, hhere⟩ := exists_callHere? hcall
  have hten := ten_le_openQuotes hfactory hhere
  -- a call begins with a character of the factory's name or the parenthesis
  obtain ⟨x, tail, rfl, hx⟩ : ∃ x tail, site = x :: tail ∧ isPlain x = true := by
    obtain ⟨tail, htail⟩ := prefix_of_callHere? hhere
    cases factory with
    | nil => exact ⟨'(', tail, by simpa using htail.symm, by decide⟩
    | cons x xs =>
      exact ⟨x, xs ++ ['('] ++ tail, by simpa using htail.symm, hfactory x List.mem_cons_self⟩
  have hle := openQuotes_le hx before tail
  omega

/-! ## §4. Lines share the open quotes. -/

theorem isBlank_of_isLineBreak {c : Char} (h : isLineBreak c = true) : isBlank c = true := by
  simp only [isLineBreak, isBlank, decide_eq_true_eq] at h ⊢
  omega

theorem isLineBreak_of_isBlank_eq_false {c : Char} (h : isBlank c = false) :
    isLineBreak c = false := by
  cases hbreak : isLineBreak c with
  | false => rfl
  | true =>
    rw [isBlank_of_isLineBreak hbreak] at h
    cases h

theorem isPlain_of_isLineBreak {c : Char} (h : isLineBreak c = true) : isPlain c = true :=
  isPlain_of_isBlank (isBlank_of_isLineBreak h)

/-- No line has more open quotes than the text. -/
theorem openQuotes_le_of_mem_linesFrom {current cs row : List Char}
    (h : row ∈ linesFrom current cs) : openQuotes row ≤ openQuotes (current.reverse ++ cs) := by
  fun_induction linesFrom current cs with
  | case1 current hempty => cases h
  | case2 current hempty =>
    exact Nat.le_of_eq (by rw [List.mem_singleton.mp h, List.append_nil])
  | case3 current cs ih =>
    have hpart : openQuotes (current.reverse ++ '\r' :: '\n' :: cs)
        = openQuotes current.reverse + openQuotes cs := by
      rw [openQuotes_part (by decide), openQuotes_plain (by decide)]
    rw [hpart]
    rcases List.mem_cons.mp h with rfl | h
    · omega
    · have := ih h
      simp only [List.reverse_nil, List.nil_append] at this
      omega
  | case4 current c cs hne hbreak ih =>
    rw [openQuotes_part (isPlain_of_isLineBreak hbreak)]
    rcases List.mem_cons.mp h with rfl | h
    · omega
    · have := ih h
      simp only [List.reverse_nil, List.nil_append] at this
      omega
  | case5 current c cs hne hbreak ih => simpa using ih h

/-- A text up to its first line boundary is its first line. -/
theorem linesFrom_append {x : Char} (hx : isLineBreak x = true) (hreturn : x ≠ '\r')
    {xs : List Char} (h : ∀ c ∈ xs, isLineBreak c = false) (current rest : List Char) :
    linesFrom current (xs ++ x :: rest) = (current.reverse ++ xs) :: linesFrom [] rest := by
  induction xs generalizing current with
  | nil =>
    rw [List.nil_append, linesFrom_cons hreturn, if_pos hx, List.append_nil]
  | cons c xs ih =>
    have hc : isLineBreak c = false := h c List.mem_cons_self
    have hne : c ≠ '\r' := by
      rintro rfl
      revert hc
      decide
    rw [List.cons_append, linesFrom_cons hne, if_neg (by simp [hc]),
      ih (fun y hy => h y (List.mem_cons_of_mem _ hy))]
    simp

/-- **Where both sides of the first line boundary have open quotes, every line has
fewer than the text.** -/
theorem openQuotes_lt_of_mem_lines {x : Char} (hx : isLineBreak x = true) (hreturn : x ≠ '\r')
    {xs : List Char} (h : ∀ c ∈ xs, isLineBreak c = false) {rest : List Char}
    (hbefore : 1 ≤ openQuotes xs) (hafter : 1 ≤ openQuotes rest) :
    ∀ row ∈ lines (xs ++ x :: rest), openQuotes row < openQuotes (xs ++ x :: rest) := by
  intro row hrow
  rw [openQuotes_part (isPlain_of_isLineBreak hx)]
  rw [lines, linesFrom_append hx hreturn h, List.reverse_nil, List.nil_append] at hrow
  rcases List.mem_cons.mp hrow with rfl | hrow
  · omega
  · have := openQuotes_le_of_mem_linesFrom hrow
    simp only [List.reverse_nil, List.nil_append] at this
    omega

/-! ## §5. The characters of a call. -/

theorem isPlain_of_mem_intChars {n : Int} {c : Char} (h : c ∈ intChars n) : isPlain c = true := by
  have hdigit : ∀ d : Char, d.isDigit = true → isPlain d = true :=
    fun d hd => isPlain_of_isDigit (DecimalDigit.isDigit_of_isDigit hd)
  unfold intChars at h
  split at h
  · rcases List.mem_cons.mp h with rfl | h
    · rfl
    · exact hdigit c (isDigit_of_mem_digits h)
  · exact hdigit c (isDigit_of_mem_digits h)

/-- String tokens, a comma and a blank behind each. -/
def tokenChars (texts : List (List Char)) : List Char :=
  texts.flatMap (fun t => Json.encodeString t ++ [',', ' '])

theorem openQuotes_tokenChars (texts : List (List Char)) (rest : List Char) :
    openQuotes (tokenChars texts ++ rest) = 2 * texts.length + openQuotes rest := by
  induction texts with
  | nil => simp [tokenChars]
  | cons t texts ih =>
    have hsplit : tokenChars (t :: texts) ++ rest
        = Json.encodeString t ++ ([',', ' '] ++ (tokenChars texts ++ rest)) := by
      simp [tokenChars]
    rw [hsplit, openQuotes_encodeString,
      openQuotes_append (forall_mem_of_all (by decide)), ih, List.length_cons]
    omega

theorem encodeChar_of_isBareBreak {c : Char} (h : isBareBreak c = true) :
    Json.encodeChar c = [c] := by
  have hne : ∀ x : Char, isBareBreak x = false → c ≠ x := by
    rintro x hx rfl
    rw [h] at hx
    cases hx
  have hcontrol : ¬ c.toNat < 32 := by
    simp only [isBareBreak, Bool.and_eq_true, Bool.not_eq_true', decide_eq_false_iff_not] at h
    exact h.2
  unfold Json.encodeChar
  rw [if_neg (hne _ (by decide)), if_neg (hne _ (by decide)), if_neg (hne _ (by decide)),
    if_neg (hne _ (by decide)), if_neg (hne _ (by decide)), if_neg (hne _ (by decide)),
    if_neg (hne _ (by decide)), if_neg hcontrol]

/-- The first bare line boundary of the texts parts their tokens in two, each with an
open quote: the one that begins the text before it, the one that ends it behind. -/
theorem exists_bareBreak {texts : List (List Char)}
    (h : texts.any (fun t => t.any isBareBreak) = true) (rest : List Char) :
    ∃ xs x ys, tokenChars texts ++ rest = xs ++ x :: ys ∧ isBareBreak x = true
      ∧ (∀ c ∈ xs, isLineBreak c = false) ∧ 1 ≤ openQuotes xs ∧ 1 ≤ openQuotes ys := by
  have hescaped : ∀ cs : List Char, cs.any isBareBreak = false →
      ∀ c ∈ Json.encodeString cs, isLineBreak c = false := by
    intro cs hcs
    rw [← Json.any_encodeString] at hcs
    simpa using hcs
  have hcomma : ∀ c ∈ [',', ' '], isLineBreak c = false := forall_mem_of_all (by decide)
  induction texts with
  | nil => cases h
  | cons t texts ih =>
    have hsplit : tokenChars (t :: texts) ++ rest
        = Json.encodeString t ++ ([',', ' '] ++ (tokenChars texts ++ rest)) := by
      simp [tokenChars]
    rw [hsplit]
    cases ht : t.any isBareBreak with
    | false =>
      rw [List.any_cons, ht, Bool.false_or] at h
      obtain ⟨xs, x, ys, htokens, hx, hxs, _, hys⟩ := ih h
      refine ⟨Json.encodeString t ++ ([',', ' '] ++ xs), x, ys, ?_, hx, ?_, ?_, hys⟩
      · rw [htokens]
        simp
      · intro c hc
        rcases List.mem_append.mp hc with hc | hc
        · exact hescaped t ht c hc
        · rcases List.mem_append.mp hc with hc | hc
          · exact hcomma c hc
          · exact hxs c hc
      · rw [openQuotes_encodeString]
        omega
    | true =>
      -- the text up to the boundary, and what follows it there
      obtain ⟨x, hfind⟩ := Option.isSome_iff_exists.mp (List.find?_isSome.mpr (by simpa using ht))
      obtain ⟨hx, before, after, rfl, hbefore⟩ := List.find?_eq_some_iff_append.mp hfind
      refine ⟨'\x22' :: before.flatMap Json.encodeChar, x,
        after.flatMap Json.encodeChar ++ '\x22' :: ([',', ' '] ++ (tokenChars texts ++ rest)),
        ?_, hx, ?_, ?_, ?_⟩
      · rw [Json.encodeString, List.flatMap_append, List.flatMap_cons, encodeChar_of_isBareBreak hx]
        simp
      · intro c hc
        refine hescaped before (by simpa using hbefore) c ?_
        rw [Json.encodeString]
        exact List.mem_append_left _ hc
      · rw [openQuotes_quote]
        omega
      · rw [openQuotes_flatMap, openQuotes_quote]
        omega

/-- The tokens hold a line boundary exactly if a text holds a bare one. -/
theorem any_tokenChars (texts : List (List Char)) :
    (tokenChars texts).any isLineBreak = texts.any (fun t => t.any isBareBreak) := by
  have hcomma : isLineBreak ',' = false ∧ isLineBreak ' ' = false := by decide
  induction texts with
  | nil => rfl
  | cons t texts ih =>
    rw [tokenChars, List.flatMap_cons, ← tokenChars, List.any_append, List.any_append,
      Json.any_encodeString, ih, List.any_cons]
    simp [hcomma]

/-- Lines without a call give no entries. -/
theorem scanLines_eq_nil {factory : List Char} {xs : List (List Char)}
    (h : ∀ row ∈ xs, firstCall? factory row = none) (line : Nat) :
    scanLines factory line xs = .ok [] := by
  induction xs generalizing line with
  | nil => rfl
  | cons row xs ih =>
    rw [scanLines, h row List.mem_cons_self]
    exact ih (fun x hx => h x (List.mem_cons_of_mem row hx)) (line + 1)

end Scan

/-! ## §6. Reading a call back. -/

/-- The texts of a record, in the order of its call. -/
def Block.texts (b : Block) : List (List Char) :=
  [b.flowName, b.flowAlias, b.directiveName, b.displayName, b.failureStrategy].map
    (fun v => v.text.toList)

/-- Does one of the record's texts hold a line boundary that is not escaped? -/
def Block.breaksLine (b : Block) : Bool := b.texts.any (fun t => t.any isBareBreak)

namespace Script

/-- A name without blanks, opening parentheses, quotes and backslashes, as every
identifier is and every path of identifiers. -/
def IsName (s : String) : Prop :=
  ∀ c ∈ s.toList, isBlank c = false ∧ c ≠ '(' ∧ Scan.isPlain c = true

instance (s : String) : Decidable (IsName s) := List.decidableBAll _ _

theorem IsName.isLineBreak {s : String} (h : IsName s) : ∀ c ∈ s.toList, isLineBreak c = false :=
  fun c hc => Scan.isLineBreak_of_isBlank_eq_false (h c hc).1

/-- What stands in front of the texts of a call. -/
def callHead (factory target : String) (line : Nat) : List Char :=
  target.toList ++ " = ".toList ++ (factory.toList ++ '(' :: (intChars line ++ [',', ' ']))

/-- What stands behind them. -/
def callTail (wait retries : Int) : List Char :=
  intChars wait ++ ',' :: ' ' :: (intChars retries ++ [')'])

theorem toList_blockCall {b : Block} (hb : b.IsCallable) {factory target code : String}
    (h : blockCall b factory target = .ok code) : ∃ line wait retries,
      code.toList = callHead factory target line
        ++ (Scan.tokenChars b.texts ++ callTail wait retries) := by
  obtain ⟨bline, bflow, bother, bname, bdisplay, bstrategy, bwait, bretries⟩ := b
  obtain ⟨⟨line, h1⟩, ⟨flow, h2⟩, ⟨other, h3⟩, ⟨name, h4⟩, ⟨display, h5⟩, ⟨strategy, h6⟩,
    ⟨wait, h7⟩, ⟨retries, h8⟩⟩ := hb
  simp only at h1 h2 h3 h4 h5 h6 h7 h8
  subst h1 h2 h3 h4 h5 h6 h7 h8
  simp only [blockCall, bind_eq_ok, pure_eq_ok] at h
  obtain ⟨l, hl, w, hw, r, hr, rfl⟩ := h
  refine ⟨line, wait, retries, ?_⟩
  simp [callHead, callTail, Scan.tokenChars, Block.texts, Json.text, (wholeNumber_int hl).1,
    (wholeNumber_int hw).1, (wholeNumber_int hr).1, Json.render, Json.quote]

variable {factory target : String}

theorem isLineBreak_of_mem_intChars {n : Int} {c : Char} (h : c ∈ intChars n) :
    isLineBreak c = false :=
  Scan.isLineBreak_of_isBlank_eq_false (isBlank_of_mem_intChars h)

/-- What holds of the names, the digits and the marks holds in front of the texts. -/
theorem forall_mem_callHead {p : Char → Prop} (hfactory : ∀ c ∈ factory.toList, p c)
    (htarget : ∀ c ∈ target.toList, p c) (hnumber : ∀ n : Int, ∀ c ∈ intChars n, p c)
    (hmarks : ∀ c ∈ [' ', '=', '(', ','], p c) (line : Nat) :
    ∀ c ∈ callHead factory target line, p c := by
  have hequals : " = ".toList = [' ', '=', ' '] := rfl
  intro c hc
  simp only [callHead, hequals, List.mem_append, List.mem_cons, List.not_mem_nil, or_false] at hc
  rcases hc with (hc | rfl | rfl | rfl) | hc | rfl | hc | rfl | rfl
  · exact htarget c hc
  · exact hmarks _ (by simp)
  · exact hmarks _ (by simp)
  · exact hmarks _ (by simp)
  · exact hfactory c hc
  · exact hmarks _ (by simp)
  · exact hnumber line c hc
  · exact hmarks _ (by simp)
  · exact hmarks _ (by simp)

/-- What holds of the digits and the marks holds behind the texts. -/
theorem forall_mem_callTail {p : Char → Prop} (hnumber : ∀ n : Int, ∀ c ∈ intChars n, p c)
    (hmarks : ∀ c ∈ [',', ' ', ')'], p c) (wait retries : Int) :
    ∀ c ∈ callTail wait retries, p c := by
  intro c hc
  simp only [callTail, List.mem_append, List.mem_cons, List.not_mem_nil, or_false] at hc
  rcases hc with hc | rfl | rfl | hc | rfl
  · exact hnumber wait c hc
  · exact hmarks _ (by simp)
  · exact hmarks _ (by simp)
  · exact hnumber retries c hc
  · exact hmarks _ (by simp)

theorem isLineBreak_of_mem_callHead (hfactory : IsName factory) (htarget : IsName target)
    (line : Nat) : ∀ c ∈ callHead factory target line, isLineBreak c = false :=
  forall_mem_callHead hfactory.isLineBreak htarget.isLineBreak
    (fun _ _ => isLineBreak_of_mem_intChars) (forall_mem_of_all (by decide)) line

theorem isPlain_of_mem_callHead (hfactory : IsName factory) (htarget : IsName target)
    (line : Nat) : ∀ c ∈ callHead factory target line, Scan.isPlain c = true :=
  forall_mem_callHead (fun c hc => (hfactory c hc).2.2) (fun c hc => (htarget c hc).2.2)
    (fun _ _ => Scan.isPlain_of_mem_intChars) (forall_mem_of_all (by decide)) line

theorem isLineBreak_of_mem_callTail (wait retries : Int) :
    ∀ c ∈ callTail wait retries, isLineBreak c = false :=
  forall_mem_callTail (fun _ _ => isLineBreak_of_mem_intChars) (forall_mem_of_all (by decide))
    wait retries

theorem openQuotes_callTail (wait retries : Int) : Scan.openQuotes (callTail wait retries) = 0 := by
  have hplain : ∀ c ∈ callTail wait retries, Scan.isPlain c = true :=
    forall_mem_callTail (fun _ _ => Scan.isPlain_of_mem_intChars) (forall_mem_of_all (by decide))
      wait retries
  simpa [Scan.openQuotes] using Scan.openQuotes_append hplain []

end Script

namespace BlockTable

variable {b : Block} {factory target code : String}

/-- A call whose texts hold no bare line boundary is read back. -/
theorem ofSource_of_breaksLine_eq_false (hb : b.IsCallable) (hfactory : Script.IsName factory)
    (htarget : Script.IsName target) (hcode : Script.blockCall b factory target = .ok code)
    (h : b.breaksLine = false) :
    ofSource (.str code) (.str factory) = .ok (ofList [(0, b)]) := by
  obtain ⟨line, wait, retries, hchars⟩ := Script.toList_blockCall hb hcode
  have hline : ∀ c ∈ code.toList, isLineBreak c = false := by
    have htokens : (Scan.tokenChars b.texts).any isLineBreak = false := by
      rw [Scan.any_tokenChars]
      exact h
    intro c hc
    rw [hchars, List.mem_append, List.mem_append] at hc
    rcases hc with hc | hc | hc
    · exact Script.isLineBreak_of_mem_callHead hfactory htarget line c hc
    · simpa using List.any_eq_false.mp htokens c hc
    · exact Script.isLineBreak_of_mem_callTail wait retries c hc
  have hblank : ' ' ∉ factory.toList := fun hmem => absurd (hfactory ' ' hmem).1 (by decide)
  -- the call is a whole statement of a script with these names
  obtain ⟨options, rfl, rfl⟩ : ∃ o : Options, o.blockFactory = factory ∧ o.blockVar = target :=
    ⟨{ blockFactory := factory, blockVar := target }, rfl, rfl⟩
  have hexposed : Scan.Exposed options [] code.toList [] :=
    { first_line := hline
      boundaries := fun c hc => by cases hc
      before := by
        intro hmentions
        have hopen : '(' ∈ [] ++ options.blockVar.toList ++ " = ".toList :=
          hmentions.subset (List.mem_append_right _ List.mem_cons_self)
        simp only [List.nil_append, List.mem_append] at hopen
        rcases hopen with hopen | hopen
        · exact (htarget '(' hopen).2.1 rfl
        · revert hopen
          decide
      later := fun row hrow => by cases hrow }
  have hscan := Scan.scanLines_statement hb hblank hcode hexposed 0 []
  simp only [List.nil_append, List.append_nil] at hscan
  have hbreaks : ∀ c ∈ code.toList, isLineBreak c = true → c = '\n' := by
    intro c hc hbreak
    rw [hline c hc] at hbreak
    cases hbreak
  simp only [ofSource]
  rw [Scan.scanLines_lines hbreaks, hscan]
  rfl

/-- A call whose texts hold one is not found. -/
theorem ofSource_of_breaksLine (hb : b.IsCallable) (hfactory : Script.IsName factory)
    (htarget : Script.IsName target) (hcode : Script.blockCall b factory target = .ok code)
    (h : b.breaksLine = true) : ofSource (.str code) (.str factory) = .ok empty := by
  obtain ⟨line, wait, retries, hchars⟩ := Script.toList_blockCall hb hcode
  have hhead := Script.isPlain_of_mem_callHead hfactory htarget line
  -- the call has five texts, which makes ten quotes
  have hten : Scan.openQuotes code.toList = 10 := by
    rw [hchars, Scan.openQuotes_append hhead, Scan.openQuotes_tokenChars,
      Script.openQuotes_callTail]
    rfl
  obtain ⟨xs, x, ys, hsplit, hx, hxs, hbefore, hafter⟩ :=
    Scan.exists_bareBreak h (Script.callTail wait retries)
  have hbreak : isLineBreak x = true := by
    unfold isBareBreak at hx
    exact (Bool.and_eq_true_iff.mp hx).1
  have hreturn : x ≠ '\r' := by
    rintro rfl
    revert hx
    decide
  have hlead : ∀ c ∈ Script.callHead factory target line ++ xs, isLineBreak c = false := by
    intro c hc
    rcases List.mem_append.mp hc with hc | hc
    · exact Script.isLineBreak_of_mem_callHead hfactory htarget line c hc
    · exact hxs c hc
  -- the bare break leaves fewer than ten of them on every row
  have hrows := Scan.openQuotes_lt_of_mem_lines hbreak hreturn hlead
    (by rw [Scan.openQuotes_append hhead]; exact hbefore) hafter
  rw [List.append_assoc, ← hsplit, ← hchars, hten] at hrows
  have hnone : ∀ row ∈ FlowTrace.lines code.toList,
      Scan.firstCall? factory.toList row = none := fun row hrow =>
    Scan.firstCall?_eq_none_of_openQuotes (fun c hc => (hfactory c hc).2.2) (hrows row hrow)
  simp only [ofSource]
  rw [Scan.scanLines_eq_nil hnone]
  rfl

/-- **READING A CALL BACK.**  The call of a record is emitted exactly if its numbers
can be written.  Scanning it gives the record back at line 0, unless one of its
texts holds a line boundary that JSON does not escape: then the scan finds
nothing. -/
theorem ofSource_blockCall (hb : b.IsCallable) (hfactory : Script.IsName factory)
    (htarget : Script.IsName target) :
    ((∃ code, Script.blockCall b factory target = .ok code) ↔ b.IsWritable)
      ∧ ∀ code, Script.blockCall b factory target = .ok code →
        ofSource (.str code) (.str factory)
          = .ok (if b.breaksLine then empty else ofList [(0, b)]) := by
  obtain ⟨line, hline⟩ := hb.line
  refine ⟨Script.exists_blockCall ⟨line, hline⟩ hb.intervalTime hb.retryCount factory target, ?_⟩
  intro code hcode
  cases h : b.breaksLine with
  | false => exact ofSource_of_breaksLine_eq_false hb hfactory htarget hcode h
  | true => exact ofSource_of_breaksLine hb hfactory htarget hcode h

/-- A record whose texts are full of quotes, backslashes and calls. -/
def quotingBlock : Block :=
  { line := .int 7, flowName := "\"f\"", flowAlias := "\\", directiveName := "\n\t\u001f\u000b"
    displayName := "generateBlock(1, \"a\", \"b\", \"c\", \"d\", \"e\", 1, 2)"
    failureStrategy := "", intervalTime := .int (-3), retryCount := .int 12 }

theorem ofSource_blockCall_quoting :
    quotingBlock.IsCallable ∧ Script.IsName "generateBlock" ∧ Script.IsName "_block"
      ∧ ∃ code, Script.blockCall quotingBlock "generateBlock" "_block" = .ok code
        ∧ ofSource (.str code) "generateBlock" = .ok (ofList [(0, quotingBlock)]) := by
  have hb : quotingBlock.IsCallable :=
    ⟨⟨7, rfl⟩, ⟨_, rfl⟩, ⟨_, rfl⟩, ⟨_, rfl⟩, ⟨_, rfl⟩, ⟨_, rfl⟩, ⟨_, rfl⟩, ⟨_, rfl⟩⟩
  have hfactory : Script.IsName "generateBlock" := by decide
  have htarget : Script.IsName "_block" := by decide
  have hwritable : quotingBlock.IsWritable := by
    refine ⟨?_, ?_, ?_⟩ <;> exact Json.isWritable_int.mpr (by decide +kernel)
  obtain ⟨hemits, hreads⟩ := ofSource_blockCall hb hfactory htarget
  obtain ⟨code, hcode⟩ := hemits.mpr hwritable
  have hstays : quotingBlock.breaksLine = false := by decide +kernel
  refine ⟨hb, hfactory, htarget, code, hcode, ?_⟩
  have hread := hreads code hcode
  rw [hstays] at hread
  exact hread

/-- A record whose flow has a line separator in its name. -/
def separatedBlock : Block :=
  { line := .int 1, flowName := "a\u2028b", flowAlias := "", directiveName := "d", displayName := "d" }

/-- Its call is emitted, and scanning it gives a table without the entry. -/
theorem separated_call_lost :
    separatedBlock.IsCallable ∧ ∃ code t,
      Script.blockCall separatedBlock "generateBlock" "_block" = .ok code
        ∧ ofSource (.str code) "generateBlock" = .ok t ∧ t.size = 0
        ∧ (ofList [(0, separatedBlock)]).size = 1 := by
  have hb : separatedBlock.IsCallable :=
    ⟨⟨1, rfl⟩, ⟨_, rfl⟩, ⟨_, rfl⟩, ⟨_, rfl⟩, ⟨_, rfl⟩, ⟨_, rfl⟩, ⟨_, rfl⟩, ⟨_, rfl⟩⟩
  have hlost : (Script.blockCall separatedBlock "generateBlock" "_block" >>= fun code =>
      ofSource (.str code) "generateBlock").toOption.map size = some 0 := by decide +kernel
  obtain ⟨t, hscan, hsize⟩ := exists_of_toOption_map hlost
  obtain ⟨code, hcode, ht⟩ := bind_eq_ok.mp hscan
  exact ⟨hb, code, t, hcode, ht, hsize, rfl⟩

end BlockTable
end FlowTrace
