/-
  FlowTrace.Proofs.Compiler.CallRow
  ────────────────────────────────
  **IN WHICH ROW OF ITS STATEMENT A BLOCK CALL STANDS.**

  The table of a flow records for every directive the line at which its
  statement begins.  The block call does not always stand there:

      verbatim  — the call comes first, so it stands in the first row
      standard  — the parameters come first, and with them every line feed of
                  an input that is emitted as it is: variables, arrays, and
                  literals that hold a placeholder

  So a call of the standard generator stands as many rows behind the recorded
  line as its inputs have such line feeds (`Directive.lineFeeds`).  Everything
  else in front of it escapes its line feeds or has none.
-/
import FlowTrace.Proofs.Compiler.Totality
import FlowTrace.Proofs.Script.Lossless

namespace FlowTrace

open Outcome

/-! ## §1. Line feeds of texts. -/

namespace Compiler

@[simp] theorem newlineCount_append (s t : String) :
    newlineCount (s ++ t) = newlineCount s + newlineCount t := by
  simp [newlineCount]

theorem newlineCount_ofList (cs : List Char) : newlineCount (String.ofList cs) = cs.count '\n' := by
  simp [newlineCount]

theorem newlineCount_eq_zero {s : String} : newlineCount s = 0 ↔ '\n' ∉ s.toList :=
  List.count_eq_zero

/-- Joined texts have the line feeds of each, if what joins them has none. -/
theorem newlineCount_intercalate_cons {sep : String} (h : newlineCount sep = 0) (t : String)
    (ts : List String) : newlineCount (String.intercalate sep (t :: ts))
      = newlineCount t + newlineCount (String.intercalate sep ts) := by
  simp only [newlineCount, String.toList_intercalate] at h ⊢
  cases ts with
  | nil => simp
  | cons u us =>
    rw [List.map_cons, List.intercalate_cons_of_ne_nil (by simp), List.count_append,
      List.count_append, h, Nat.add_zero]

end Compiler

open Compiler

theorem newline_not_mem_digits (n : Nat) : '\n' ∉ Nat.toDigits 10 n := by
  intro h
  have := isDigit_of_mem_digits h
  cases this

theorem newlineCount_toString_int (n : Int) : newlineCount (toString n) = 0 := by
  rw [newlineCount_eq_zero, toList_toString_int]
  intro h
  have hblank := isBlank_of_mem_intChars h
  revert hblank
  decide

namespace Binary64

theorem newline_not_mem_trimZeros {ds : List Char} (h : '\n' ∉ ds) : '\n' ∉ trimZeros ds := by
  intro hmem
  rw [trimZeros, List.mem_reverse] at hmem
  exact h (List.mem_reverse.mp ((List.dropWhile_sublist _).subset hmem))

theorem newlineCount_layout {ds : List Char} (h : '\n' ∉ ds) (point : Int) :
    newlineCount (layout ds point) = 0 := by
  have hzeros : ∀ n, (List.replicate n '0').count '\n' = 0 := by
    intro n
    simp [List.count_replicate]
  have htake : ∀ n, (ds.take n).count '\n' = 0 :=
    fun n => List.count_eq_zero.mpr (fun hmem => h (List.mem_of_mem_take hmem))
  have hdrop : ∀ n, (ds.drop n).count '\n' = 0 :=
    fun n => List.count_eq_zero.mpr (fun hmem => h (List.mem_of_mem_drop hmem))
  have hds : ds.count '\n' = 0 := List.count_eq_zero.mpr h
  have hpoint : newlineCount "0." = 0 ∧ newlineCount ".0" = 0 ∧ newlineCount "." = 0
      ∧ newlineCount "e" = 0 ∧ newlineCount "-" = 0 ∧ newlineCount "+" = 0 := by decide
  obtain ⟨h1, h2, h3, h4, h5, h6⟩ := hpoint
  have hexponent : ∀ n : Nat, newlineCount (String.ofList
      (if (Nat.toDigits 10 n).length < 2 then '0' :: Nat.toDigits 10 n else Nat.toDigits 10 n))
      = 0 := by
    intro n
    have hdigits := List.count_eq_zero.mpr (newline_not_mem_digits n)
    rw [newlineCount_ofList]
    split
    · rw [List.count_cons_of_ne (by decide), hdigits]
    · exact hdigits
  -- fixed point with the point in front of, behind or among the digits; else an exponent
  unfold layout
  split
  · split
    · simp [newlineCount_ofList, hzeros, hds, h1]
    · split
      · simp [newlineCount_ofList, hzeros, hds, h2]
      · simp [newlineCount_ofList, htake, hdrop, h3]
  · have hfraction : newlineCount (if (ds.drop 1).isEmpty = true then ""
        else "." ++ String.ofList (ds.drop 1)) = 0 := by
      split
      · rfl
      · rw [newlineCount_append, h3, newlineCount_ofList, hdrop]
    have hsign : newlineCount (if point - 1 < 0 then "-" else "+") = 0 := by
      split <;> assumption
    simp only [newlineCount_append, hexponent, hfraction, hsign, h4]
    rw [newlineCount_ofList, htake]

theorem newlineCount_toText (x : Binary64) : newlineCount x.toText = 0 := by
  cases x with
  | nan => rfl
  | infinite negative => cases negative <;> rfl
  | finite negative m e =>
    have hsign : newlineCount (if negative = true then "-" else "") = 0 := by
      cases negative <;> rfl
    rw [toText, newlineCount_append, hsign, Nat.zero_add]
    split
    · rfl
    · exact newlineCount_layout (newline_not_mem_trimZeros (newline_not_mem_digits _)) _

end Binary64

namespace Json

/-- A string token stands in one row. -/
theorem newlineCount_quote (s : String) : newlineCount (quote s) = 0 := by
  rw [quote, newlineCount_ofList, List.count_eq_zero]
  intro h
  exact not_control_of_mem_encodeString h (by decide)

mutual

/-- JSON text on one line stands in one row. -/
theorem newlineCount_render : ∀ v : Json, newlineCount v.render = 0
  | null => rfl
  | bool b => by cases b <;> rfl
  | int n => newlineCount_toString_int n
  | float x => by
    rw [render]
    unfold floatToken
    split
    · rfl
    · split <;> rfl
    · exact x.newlineCount_toText
  | str s => newlineCount_quote s
  | arr items => by
    rw [render, newlineCount_append, newlineCount_append, newlineCount_renderItems items]
    rfl
  | obj fields => by
    rw [render, newlineCount_append, newlineCount_append, newlineCount_renderFields fields]
    rfl

theorem newlineCount_renderItems : ∀ items : List Json, newlineCount (renderItems items) = 0
  | [] => rfl
  | [x] => newlineCount_render x
  | x :: y :: rest => by
    rw [renderItems, newlineCount_append, newlineCount_append, newlineCount_render x,
      newlineCount_renderItems (y :: rest)]
    rfl

theorem newlineCount_renderFields :
    ∀ fields : List (String × Json), newlineCount (renderFields fields) = 0
  | [] => rfl
  | [(k, v)] => by
    rw [renderFields, newlineCount_append, newlineCount_append, newlineCount_quote,
      newlineCount_render v]
    rfl
  | (k, v) :: f :: rest => by
    rw [renderFields, newlineCount_append, newlineCount_append, newlineCount_append,
      newlineCount_append, newlineCount_quote, newlineCount_render v,
      newlineCount_renderFields (f :: rest)]
    rfl

end

end Json

/-! ## §2. Line feeds of inputs. -/

/-- Is the input emitted as it is?  A literal is if it is a template. -/
def Input.isVerbatim (item : Input) : Bool :=
  item.kind.same (.str "variable") || item.kind.same (.str "array")
    || item.kind.same (.str "arrayObject") || Script.hasPlaceholder item.value.textOrEmpty.toList

/-- The line feeds that the script text of an input has. -/
def Input.lineFeeds (item : Input) : Nat :=
  if item.isVerbatim then newlineCount item.value.textOrEmpty else 0

/-- The line feeds that the parameters of a directive have. -/
def Directive.lineFeeds (d : Directive) : Nat :=
  d.inputs.foldr (fun e n => e.2.lineFeeds + n) 0

theorem mem_dropWhile {p : Char → Bool} {x : Char} (hx : p x = false) {cs : List Char}
    (h : x ∈ cs) : x ∈ cs.dropWhile p := by
  induction cs with
  | nil => cases h
  | cons c cs ih =>
    by_cases hc : p c = true
    · rw [List.dropWhile_cons_of_pos hc]
      rcases List.mem_cons.mp h with rfl | h
      · rw [hx] at hc
        cases hc
      · exact ih h
    · rwa [List.dropWhile_cons_of_neg hc]

/-- Trimming keeps what is no blank. -/
theorem mem_trim {x : Char} (hx : isBlank x = false) {s : String} (h : x ∈ s.toList) :
    x ∈ (trim s).toList := by
  rw [trim, String.toList_ofList, trimRightBy, List.mem_reverse]
  exact mem_dropWhile hx (List.mem_reverse.mpr (mem_dropWhile hx h))

namespace Script

theorem mem_of_hasPlaceholder {cs : List Char} (h : hasPlaceholder cs = true) : '$' ∈ cs := by
  obtain ⟨before, between, after, rfl⟩ := hasPlaceholder_iff.mp h
  simp

/-- May the character stand in a number? -/
def isNumberChar (c : Char) : Bool :=
  DecimalDigit.isDigit c || c == '.' || c == 'e' || c == 'E' || c == '+' || c == '-'

theorem isNumberChar_of_isExponent {cs : List Char} (h : isExponent cs = true) :
    ∀ c ∈ cs, isNumberChar c = true := by
  cases cs with
  | nil => simp
  | cons x rest =>
    simp only [isExponent] at h
    split at h
    · next hx =>
      simp only [Bool.and_eq_true, List.all_eq_true] at h
      have hx' : isNumberChar x = true := by rcases hx with rfl | rfl <;> simp [isNumberChar]
      have hdigits : ∀ c ∈ (Numeral.splitSign rest).2, isNumberChar c = true := by
        intro c hc
        simp [isNumberChar, h.2 c hc]
      have hrest : ∀ c ∈ rest, isNumberChar c = true := by
        unfold Numeral.splitSign at hdigits
        split at hdigits
        · simpa [isNumberChar] using hdigits
        · simpa [isNumberChar] using hdigits
        · exact hdigits
      simpa [hx'] using hrest
    · cases h

theorem isNumberChar_of_takeWhile {cs : List Char}
    (h : ∀ c ∈ cs.dropWhile DecimalDigit.isDigit, isNumberChar c = true) :
    ∀ c ∈ cs, isNumberChar c = true := by
  intro c hc
  rw [← List.takeWhile_append_dropWhile (p := DecimalDigit.isDigit) (l := cs)] at hc
  rcases List.mem_append.mp hc with hc | hc
  · have hall := List.all_takeWhile (p := DecimalDigit.isDigit) (l := cs)
    simp [isNumberChar, List.all_eq_true.mp hall c hc]
  · exact h c hc

theorem isNumberChar_of_isUnsigned {cs : List Char} (h : isUnsigned cs = true) :
    ∀ c ∈ cs, isNumberChar c = true := by
  have hpoint : isNumberChar '.' = true := by simp [isNumberChar]
  apply isNumberChar_of_takeWhile
  simp only [isUnsigned] at h
  split at h
  · next rest _ hdrop =>
    rw [hdrop, List.forall_mem_cons]
    exact ⟨hpoint, isNumberChar_of_takeWhile (isNumberChar_of_isExponent h)⟩
  · exact isNumberChar_of_isExponent h
  · next rest _ hdrop =>
    rw [Bool.and_eq_true] at h
    rw [hdrop, List.forall_mem_cons]
    exact ⟨hpoint, isNumberChar_of_takeWhile (isNumberChar_of_isExponent h.2)⟩
  · cases h

theorem isNumberChar_of_isNumber {cs : List Char} (h : isNumber cs = true) :
    ∀ c ∈ cs, isNumberChar c = true := by
  unfold isNumber at h
  split at h
  · rw [List.forall_mem_cons]
    exact ⟨by simp [isNumberChar], isNumberChar_of_isUnsigned h⟩
  · exact isNumberChar_of_isUnsigned h

theorem count_guardChar {c : Char} (hc : c ≠ '\n') (cs : List Char) :
    (guardChar c cs).count '\n' = cs.count '\n' := by
  have hchar : ∀ d : Char, (if d = c then ['\\', c] else [d]).count '\n'
      = if d = '\n' then 1 else 0 := by
    intro d
    split
    · next h => simp [h, hc]
    · simp [List.count_singleton]
  unfold guardChar
  induction cs with
  | nil => rfl
  | cons d cs ih =>
    rw [List.flatMap_cons, List.count_append, hchar, ih, List.count_cons]
    simp [Nat.add_comm]

theorem count_template (cs : List Char) : (template cs).count '\n' = cs.count '\n' := by
  rw [template, List.count_append, List.count_cons_of_ne (by decide), templateBody,
    count_guardChar (by decide), count_guardChar (by decide)]
  rfl

/-- A literal has line feeds only if it is a template. -/
theorem newlineCount_literalOfText (valueType : Option String) (s : String) :
    newlineCount (literalOfText valueType s)
      = if hasPlaceholder s.toList = true then newlineCount s else 0 := by
  have hdollar : hasPlaceholder s.toList = true → '$' ∈ (trim s).toList :=
    fun h => mem_trim (by decide) (mem_of_hasPlaceholder h)
  -- a number has neither a line feed nor the dollar sign of a placeholder
  have hbare : ∀ c ∈ ['$', '\n'], isNumberChar c = false :=
    forall_mem_of_all (by decide +kernel)
  have hnumber : isNumber (trim s).toList = true → ∀ c ∈ ['$', '\n'], c ∉ (trim s).toList := by
    intro h c hc hmem
    have := isNumberChar_of_isNumber h c hmem
    rw [hbare c hc] at this
    cases this
  unfold literalOfText
  dsimp only
  split
  · next h =>
    have hno := hnumber h.2
    rw [if_neg (fun hp => hno '$' (by simp) (hdollar hp)), newlineCount_eq_zero]
    exact hno '\n' (by simp)
  · split
    · next h =>
      rcases h.2 with h | h
      · rw [h] at hdollar ⊢
        rw [if_neg (fun hp => absurd (hdollar hp) (by decide))]
        rfl
      · rw [h] at hdollar ⊢
        rw [if_neg (fun hp => absurd (hdollar hp) (by decide))]
        rfl
    · split
      · rw [newlineCount_ofList, count_template]
        rfl
      · exact Json.newlineCount_quote s

/-- **The line feeds of an input's script text.** -/
theorem newlineCount_input {item : Input} (htext : item.value.IsTextOrNull) {v : Json}
    (h : input item = .ok v) : newlineCount v.text = item.lineFeeds := by
  have habsent : newlineCount absent = 0 := by decide
  -- what is inserted as it stands is the text, or the word for nothing, which has no line feed
  have hverbatim : newlineCount (verbatim item.value).text
      = newlineCount item.value.textOrEmpty := by
    rcases htext with hnull | ⟨s, hs⟩
    · rw [hnull]
      rfl
    · rw [hs, verbatim, Json.orElse, Json.textOrEmpty]
      split <;> rfl
  unfold Input.lineFeeds Input.isVerbatim
  unfold input at h
  split at h
  · next hkind =>
    cases h
    simp [hkind, hverbatim]
  · next hvariable =>
    split at h
    · next hkind =>
      cases h
      have hbrackets : newlineCount "[" = 0 ∧ newlineCount "]" = 0 := by decide
      simp [hkind, Json.text, hbrackets]
    · next harray =>
      split at h
      · next hkind =>
        cases h
        simp [hkind, hverbatim]
      · next hobjects =>
        rcases htext with hnull | ⟨s, hs⟩
        · simp only [literal, hnull] at h
          cases h
          have hempty : newlineCount "" = 0 := rfl
          simp [hnull, Json.textOrEmpty, Json.truthy, Json.text, habsent, hempty]
        · simp only [literal, hs] at h
          cases h
          -- a literal has its line feeds escaped, unless it is a template
          have hs' : item.value.textOrEmpty = s := by rw [hs, Json.textOrEmpty_str]
          simp [hvariable, harray, hobjects, hs', Json.text, newlineCount_literalOfText]

/-- **The line feeds of the parameters.** -/
theorem newlineCount_params {inputs : List (String × Input)}
    (htext : ∀ e ∈ inputs, e.2.value.IsTextOrNull) {s : String} (h : params inputs = .ok s) :
    newlineCount s = inputs.foldr (fun e n => e.2.lineFeeds + n) 0 := by
  obtain ⟨ps, hps, rfl⟩ : ∃ ps, pairs inputs = .ok ps
      ∧ "\x7b" ++ String.intercalate "," ps ++ "\x7d" = s := by
    unfold params at h
    cases hpairs : pairs inputs with
    | error e => rw [hpairs] at h; cases h
    | ok ps => rw [hpairs] at h; cases h; exact ⟨ps, rfl, rfl⟩
  have hmarks : newlineCount "\x7b" = 0 ∧ newlineCount "\x7d" = 0 ∧ newlineCount ":" = 0 := by
    decide
  have hpairs : newlineCount (String.intercalate "," ps)
      = inputs.foldr (fun e n => e.2.lineFeeds + n) 0 := by
    clear h
    induction inputs generalizing ps with
    | nil =>
      cases hps
      rfl
    | cons e rest ih =>
      obtain ⟨k, item⟩ := e
      simp only [pairs, bind_eq_ok, pure_eq_ok] at hps
      obtain ⟨v, hv, vs, hvs, rfl⟩ := hps
      -- neither the quoted key nor the marks around it have a line feed
      have hitem := newlineCount_input (htext _ List.mem_cons_self) hv
      have hrest := ih (fun x hx => htext x (List.mem_cons_of_mem _ hx)) vs hvs
      rw [newlineCount_intercalate_cons (by decide), hrest]
      simp [Json.newlineCount_quote, hitem, hmarks]
  rw [newlineCount_append, newlineCount_append, hpairs, hmarks.1, hmarks.2.1]
  omega

end Script

/-! ## §3. Where the generators put the call. -/

/-- The generator puts the block call of a directive between two texts, whatever
the call is. -/
def Generator.Puts (g : Generator) (d : Directive) (options : Options) (lead tail : String) :
    Prop :=
  ∀ call, g d call options = .ok (lead ++ call ++ tail)

/-- The names that emitted code uses hold no line feeds. -/
structure Options.IsFlat (options : Options) : Prop where
  runtimeName : newlineCount options.runtimeName = 0
  blockFactory : newlineCount options.blockFactory = 0
  blockVar : newlineCount options.blockVar = 0

/-- The row of its statement in which the block call of a directive stands: the
first for the verbatim generator, for the standard one as many further on as the
parameters have line feeds. -/
inductive Generator.CallRow : Generator → Directive → Nat → Prop where
  | verbatim (d : Directive) : CallRow Generator.verbatim d 0
  | standard (d : Directive) : CallRow Generator.standard d d.lineFeeds

namespace Generator

variable {d : Directive} {options : Options}

theorem verbatim_puts (d : Directive) (options : Options) :
    ∃ tail, verbatim.Puts d options "" tail := by
  have hsemicolon : isBlank ';' = false := by decide
  obtain ⟨code, hcode⟩ : ∃ code, ∀ call, verbatim d call options
      = .ok (trimRight (call ++ "; " ++ code)) := ⟨_, fun _ => rfl⟩
  have htrim : ∀ xs ys : List Char, trimRightBy isBlank (xs ++ ';' :: ys)
      = xs ++ trimRightBy isBlank (';' :: ys) := by
    intro xs ys
    simp only [trimRightBy, List.reverse_append, List.reverse_cons, List.append_assoc,
      List.dropWhile_append]
    split
    · simp [hsemicolon]
    · simp
  refine ⟨trimRight ("; " ++ code), fun call => ?_⟩
  rw [hcode]
  refine congrArg Except.ok ?_
  rw [← String.toList_inj]
  simp only [trimRight, String.toList_append, String.toList_ofList, String.append_assoc]
  exact htrim call.toList (' ' :: code.toList)

theorem standard_puts {params : String} (options : Options)
    (h : Script.params d.inputs = .ok params) :
    ∃ tail, standard.Puts d options
      ("await " ++ options.runtimeName ++ "." ++ d.identity.text ++ "(" ++ params ++ ",") tail := by
  refine ⟨").then(" ++ Script.resultName ++ "=>\x7b "
    ++ Script.bindings d.outputs Script.resultName ++ "\x7d);", fun call => ?_⟩
  have hcode : standard d call options = .ok (Script.invocation d.identity.text params call
      (Script.bindings d.outputs Script.resultName) options.runtimeName) := by
    rw [standard, h]
    rfl
  rw [hcode]
  refine congrArg Except.ok ?_
  unfold Script.invocation
  simp only [String.append_assoc]

/-- Where a built-in generator puts the call. -/
theorem exists_puts {g : Generator} (hg : g = standard ∨ g = verbatim)
    (htext : ∀ e ∈ d.inputs, e.2.value.IsTextOrNull) (hflat : options.IsFlat)
    (hidentity : newlineCount d.identity.text = 0) :
    ∃ lead tail, g.Puts d options lead tail ∧ g.CallRow d (newlineCount lead) := by
  rcases hg with rfl | rfl
  · obtain ⟨params, hparams⟩ := Script.exists_params htext
    obtain ⟨tail, hputs⟩ := standard_puts options hparams
    refine ⟨_, tail, hputs, ?_⟩
    have hmarks : newlineCount "await " = 0 ∧ newlineCount "." = 0 ∧ newlineCount "(" = 0
        ∧ newlineCount "," = 0 := by decide
    have hlead : newlineCount ("await " ++ options.runtimeName ++ "." ++ d.identity.text ++ "("
        ++ params ++ ",") = d.lineFeeds := by
      simp [hmarks, hflat.runtimeName, hidentity, Script.newlineCount_params htext hparams,
        Directive.lineFeeds]
    rw [hlead]
    exact .standard d
  · obtain ⟨tail, hputs⟩ := verbatim_puts d options
    exact ⟨"", tail, hputs, .verbatim d⟩

end Generator

/-- A block call stands in one row. -/
theorem Script.newlineCount_blockCall {b : Block} {factory target code : String}
    (hfactory : newlineCount factory = 0) (htarget : newlineCount target = 0)
    (h : blockCall b factory target = .ok code) : newlineCount code = 0 := by
  have hnumber : ∀ {v : Json} {s : String}, wholeNumber v = .ok s → newlineCount s = 0 := by
    intro v s hs
    obtain ⟨n, _, hn⟩ := bind_eq_ok.mp hs
    rw [(Json.toInt_of_numeral hn).1, newlineCount_toString_int]
  simp only [blockCall, bind_eq_ok, pure_eq_ok] at h
  obtain ⟨line, hline, wait, hwait, retries, hretries, rfl⟩ := h
  have hmarks : newlineCount " = " = 0 ∧ newlineCount "(" = 0 ∧ newlineCount ")" = 0 := by decide
  have hargs : newlineCount (String.intercalate ", " [line, b.flowName.render, b.flowAlias.render,
      b.directiveName.render, b.displayName.render, b.failureStrategy.render, wait, retries])
      = 0 := by
    simp only [newlineCount_intercalate_cons (show newlineCount ", " = 0 by decide),
      Json.newlineCount_render, hnumber hline, hnumber hwait, hnumber hretries]
    rfl
  simp only [newlineCount_append, hmarks, hfactory, htarget, hargs]

/-- A text among texts that are joined by line feeds begins at its row. -/
theorem exists_split_intercalate {texts : List String} {i : Nat} {t : String}
    (h : texts[i]? = some t) : ∃ before after,
      (String.intercalate "\n" texts).toList = before ++ t.toList ++ after
        ∧ before.count '\n' = startRow texts i := by
  simp only [String.toList_intercalate, show ("\n" : String).toList = ['\n'] from rfl]
  induction texts generalizing i with
  | nil => cases h
  | cons u us ih =>
    cases i with
    | zero =>
      obtain rfl := Option.some.inj h
      cases us with
      | nil => exact ⟨[], [], by simp, by simp⟩
      | cons w ws =>
        refine ⟨[], '\n' :: ['\n'].intercalate ((w :: ws).map String.toList), ?_, by simp⟩
        rw [List.map_cons, List.intercalate_cons_of_ne_nil (by simp)]
        simp
    | succ i =>
      rw [List.getElem?_cons_succ] at h
      obtain ⟨before, after, hsplit, hcount⟩ := ih h
      -- there is a text at the next index, so a line feed stands between
      have hne : us.map String.toList ≠ [] := by
        rintro hnil
        rw [List.map_eq_nil_iff] at hnil
        rw [hnil] at h
        cases h
      refine ⟨u.toList ++ '\n' :: before, after, ?_, ?_⟩
      · rw [List.map_cons, List.intercalate_cons_of_ne_nil hne, hsplit]
        simp
      · rw [startRow_cons_succ, List.count_append, List.count_cons_self, hcount, newlineCount]
        omega

/-! ## §4. The rows of block calls. -/

namespace Compiler

variable {c : Compiler} {d : Directive}

/-- One of the built-in generators compiles the directive. -/
def UsesBuiltin (c : Compiler) (d : Directive) : Prop :=
  ∀ r, c.chooseGenerator (c.restored d) = .ok r →
    r.2 = Generator.standard ∨ r.2 = Generator.verbatim

/-- How the statement of a directive that is block `number` is made: the generator
that is chosen for it puts the block call between `lead` and `tail`, and the call
stands in one row. -/
structure Placed (c : Compiler) (d : Directive) (number : Int) (flow : Option Flow)
    (code : String) (g : Generator) (lead call tail : String) : Prop where
  chosen : ∃ name, c.chooseGenerator (c.restored d) = .ok (name, g)
  puts : g.Puts (c.restored d) c.options lead tail
  call_eq : Script.blockCall (c.block d (.int number) flow) c.options.blockFactory
    c.options.blockVar = .ok call
  code_eq : code = lead ++ call ++ tail
  flat : newlineCount call = 0
  row : g.CallRow d (newlineCount lead)

/-- Descriptors do not change how an input is emitted, as far as line feeds go. -/
theorem lineFeeds_restored : (c.restored d).lineFeeds = d.lineFeeds := by
  simp only [Directive.lineFeeds, restored, List.foldr_map]
  rfl

theorem callRow_restored {g : Generator} {r : Nat} (h : g.CallRow (c.restored d) r) :
    g.CallRow d r := by
  cases h with
  | verbatim => exact .verbatim d
  | standard =>
    rw [lineFeeds_restored]
    exact .standard d

/-- The statement of a directive of texts is made this way. -/
theorem placed_of_compileDirective (hflat : c.options.IsFlat)
    (htext : ∀ e ∈ d.inputs, e.2.value.IsTextOrNull)
    (hidentity : newlineCount d.identity.text = 0) (hbuiltin : c.UsesBuiltin d) {number : Int}
    {flow : Option Flow} {code : String} {d' : Directive}
    (h : c.compileDirective d (.int number) flow = .ok (code, d')) :
    ∃ g lead call tail, c.Placed d number flow code g lead call tail := by
  simp only [compileDirective, bind_eq_ok, pure_eq_ok] at h
  obtain ⟨call, hcall, r, hrestore, ⟨name, g⟩, hchoose, code', hreport, heq⟩ := h
  cases heq
  -- a generator was chosen, so the identity could be looked up
  have hkey : d.identity.isKey = true := by
    obtain ⟨_, hfrom, _⟩ := bind_eq_ok.mp hchoose
    rw [← (restore_keeps hrestore).1]
    exact Catalog.isKey_of_generator hfrom
  obtain ⟨_, _, rfl⟩ := (restore_eq_ok hkey).mp hrestore
  have hg : g = Generator.standard ∨ g = Generator.verbatim := hbuiltin _ hchoose
  obtain ⟨lead, tail, hputs, hrow⟩ :=
    Generator.exists_puts (d := c.restored d) hg (inputs_restored htext) hflat hidentity
  have hcode : g (c.restored d) call c.options = .ok code := eq_ok_of_report hreport
  rw [hputs call, Except.ok.injEq] at hcode
  exact ⟨g, lead, call, tail,
    { chosen := ⟨name, hchoose⟩
      puts := hputs
      call_eq := hcall
      code_eq := hcode.symm
      flat := Script.newlineCount_blockCall hflat.blockFactory hflat.blockVar hcall
      row := callRow_restored hrow }⟩

/-- **THE ROW OF A BLOCK CALL.**  In the statement of a directive that was read, the
call stands in row `newlineCount lead`: in the first one for the verbatim
generator, and for the standard one behind the line feeds of the parameters.  In
the script of a flow it stands as many lines behind the line that the table
records. -/
theorem call_row (hflat : c.options.IsFlat) {v : Json} (hd : Directive.ofDocument v = .ok d)
    (hidentity : newlineCount d.identity.text = 0) (hbuiltin : c.UsesBuiltin d) :
    (∀ (index : Int) (flow : Option Flow) (code : String),
        c.compileDocument v (.int index) flow = .ok code →
          ∃ g lead call tail, c.Placed d (index + 1) flow code g lead call tail)
      ∧ ∀ (flow : Flow) (k : Int) (out : CompiledFlow) (i : Nat), flow.directives[i]? = some d →
          c.compileFlow flow k = .ok out →
          ∃ line code g lead call tail before after,
            out.blocks.entries[i]? = some (line, c.block d (.int (1 + i)) (some flow))
              ∧ c.Placed d (1 + i) (some flow) code g lead call tail
              ∧ out.source.toList = before ++ call.toList ++ after
              ∧ k + before.count '\n' = line + newlineCount lead := by
  have htext := Directive.inputs_of_ofDocument hd
  constructor
  · intro index flow code hcode
    obtain ⟨d', hd'⟩ := (compileDocument_eq_ok hd index flow).mp hcode
    exact placed_of_compileDirective hflat htext hidentity hbuiltin hd'
  · intro flow k out i hi hout
    obtain ⟨ss, hss, hpure⟩ := bind_eq_ok.mp hout
    obtain ⟨_, hat⟩ := statements_getElem? hss
    obtain ⟨code, d', hcode, hs⟩ := hat i d hi
    obtain ⟨g, lead, call, tail, hplaced⟩ :=
      placed_of_compileDirective hflat htext hidentity hbuiltin hcode
    have htexts : (ss.map Statement.code)[i]? = some code := by
      rw [List.getElem?_map, hs]
      rfl
    -- the code stands in the source behind the codes of the directives before it
    obtain ⟨before, after, hsplit, hcount⟩ := exists_split_intercalate htexts
    refine ⟨k + startRow (ss.map Statement.code) i, code, g, lead, call, tail,
      before ++ lead.toList, tail.toList ++ after, ?_, hplaced, ?_, ?_⟩
    · rw [entries_of_statements hss hout, List.getElem?_map, hs]
      rfl
    · rw [← pure_eq_ok.mp hpure, hsplit, hplaced.code_eq]
      simp
    · rw [List.count_append, hcount, newlineCount]
      omega

/-- A directive whose input is a variable on two lines. -/
def spreadStep : Json :=
  .obj
    [("name", "a"), ("inputs", .obj [("x", .obj [("type", "variable"), ("value", "p\nq")])]),
      ("outputs", .obj [])]

/-- The directive that `spreadStep` is read as. -/
def spreadDirective : Directive :=
  { name := "a", inputs := [("x", { kind := "variable", value := "p\nq" })] }

theorem call_row_spread :
    ({} : Compiler).options.IsFlat ∧ Directive.ofDocument spreadStep = .ok spreadDirective
      ∧ newlineCount spreadDirective.identity.text = 0
      ∧ ({} : Compiler).UsesBuiltin spreadDirective
      ∧ ∃ code g lead call tail, ({} : Compiler).compileDocument spreadStep (.int 0) none = .ok code
          ∧ ({} : Compiler).Placed spreadDirective (0 + 1) none code g lead call tail := by
  have hflat : ({} : Compiler).options.IsFlat := ⟨by decide, by decide, by decide⟩
  have hread : Directive.ofDocument spreadStep = .ok spreadDirective := rfl
  have hidentity : newlineCount spreadDirective.identity.text = 0 := by decide
  have hbuiltin : ({} : Compiler).UsesBuiltin spreadDirective :=
    fun _ hr => chooseGenerator_of_builtin rfl hr
  obtain ⟨code, hcode⟩ := exists_of_toOption
    (show (({} : Compiler).compileDocument spreadStep (.int 0) none).toOption.isSome = true by
      decide +kernel)
  obtain ⟨g, lead, call, tail, hplaced⟩ :=
    (call_row hflat hread hidentity hbuiltin).1 0 none code hcode
  exact ⟨hflat, hread, hidentity, hbuiltin, code, g, lead, call, tail, hcode, hplaced⟩

/-- Its call does not stand in the first row of its statement. -/
theorem spread_call_behind :
    ∃ code call, ({} : Compiler).compileDocument spreadStep (.int 0) none = .ok code
      ∧ Script.blockCall (({} : Compiler).block spreadDirective (.int 1) none) "generateBlock"
          "_block" = .ok call
      ∧ ¬ call.toList <:+: code.toList.takeWhile (· != '\n') := by
  have hbehind : (({} : Compiler).compileDocument spreadStep (.int 0) none >>= fun code =>
      Script.blockCall (({} : Compiler).block spreadDirective (.int 1) none) "generateBlock"
        "_block" >>= fun call => pure (code, call)).toOption.map
          (fun r => decide ((r.1.toList.takeWhile (· != '\n')).length < r.2.toList.length))
            = some true := by
    decide +kernel
  obtain ⟨⟨code, call⟩, hboth, hshort⟩ := exists_of_toOption_map hbehind
  obtain ⟨_, hcode, hrest⟩ := bind_eq_ok.mp hboth
  obtain ⟨_, hcall, heq⟩ := bind_eq_ok.mp hrest
  cases heq
  -- the first row is too short to hold the call
  have hlt : (code.toList.takeWhile (· != '\n')).length < call.toList.length :=
    of_decide_eq_true hshort
  exact ⟨code, call, hcode, hcall, fun hinfix => Nat.not_le.mpr hlt hinfix.length_le⟩

end Compiler
end FlowTrace
