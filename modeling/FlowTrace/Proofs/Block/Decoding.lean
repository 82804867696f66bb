/-
  FlowTrace.Proofs.Block.Decoding
  ────────────────────────────────
  **WHICH SCRIPTS CAN BE SCANNED.**

  The scanner takes a block call by its shape, and other readers decode its tokens
  afterwards.  They are stricter than the shape:

                shape                                    decoded
      text    — quotes, and a backslash takes any        JSON's escapes only, and no
                character between them                   control character
      number  — digits of any script                     at most 4300 of them

  So a script has a table exactly if the tokens of every call that is found are of the
  stricter kind.  One that is not, as a tab between quotes or an escape that scripts have
  and JSON does not, ends the scan of the whole script.
-/
import FlowTrace.Proofs.Block.Rescan
import FlowTrace.Proofs.Json.WellEscaped
import FlowTrace.Proofs.Number.WholeForm

namespace FlowTrace

open Outcome

/-! ## §1. Numbers. -/

namespace Scan

/-- A number token: digits of any script, and perhaps a minus sign in front. -/
inductive IsNumber : List Char → Prop where
  | plain {ds : List Char} (hne : ds ≠ []) (hall : ∀ c ∈ ds, DecimalDigit.isDigit c = true) :
      IsNumber ds
  | negative {ds : List Char} (hne : ds ≠ []) (hall : ∀ c ∈ ds, DecimalDigit.isDigit c = true) :
      IsNumber ('-' :: ds)

/-- A number token has the form of a whole number. -/
theorem IsNumber.exists_wholeForm {token : List Char} (h : IsNumber token) :
    ∃ w : Numeral.WholeForm, w.Valid ∧ w.text = token := by
  cases h with
  | plain hne hall =>
    refine ⟨⟨[], none, token, []⟩, ⟨by simp, .inl rfl, ?_, by simp⟩, ?_⟩
    · exact Numeral.isDigitRun_of_forall hne hall
    · simp [Numeral.WholeForm.text, Numeral.WholeForm.body]
  | @negative ds hne hall =>
    refine ⟨⟨[], some '-', ds, []⟩, ⟨by simp, .inr (.inr rfl), ?_, by simp⟩, ?_⟩
    · exact Numeral.isDigitRun_of_forall hne hall
    · simp [Numeral.WholeForm.text, Numeral.WholeForm.body]

/-- **A number token can be decoded exactly if it is not too long.** -/
theorem exists_number {token : List Char} (h : IsNumber token) :
    (∃ v, number token = .ok v)
      ↔ token.countP DecimalDigit.isDigit ≤ Numeral.digitLimit := by
  obtain ⟨w, hw, htext⟩ := h.exists_wholeForm
  have hread := hw.readInt?_text (htext.trans (String.toList_ofList).symm)
  rw [String.toList_ofList] at hread
  rw [← Nat.not_lt]
  by_cases hlong : Numeral.digitLimit < token.countP DecimalDigit.isDigit
  · rw [if_pos hlong] at hread
    simp [number, Json.toInt, hread, Except.map, hlong]
  · rw [if_neg hlong] at hread
    simp [number, Json.toInt, hread, Except.map, hlong]

/-! ## §2. Texts. -/

/-- A string token: characters between quotes. -/
def IsQuoted (token : List Char) : Prop := ∃ inside, token = '\x22' :: (inside ++ ['\x22'])

/-- A string token whose escapes are JSON's. -/
def IsJsonString (token : List Char) : Prop :=
  ∃ inside, token = '\x22' :: (inside ++ ['\x22']) ∧ Json.WellEscaped inside

/-- A reader decodes a string token alike, however deep it may read. -/
theorem readWithin_token {token : List Char} (h : IsQuoted token) (room : Nat) :
    Json.readWithin room token = decode token := by
  obtain ⟨inside, rfl⟩ := h
  rfl

/-- **A string token can be decoded exactly if its escapes are JSON's.** -/
theorem exists_decode {token : List Char} (h : IsQuoted token) :
    (∃ v, decode token = .ok v) ↔ IsJsonString token := by
  obtain ⟨inside, rfl⟩ := h
  rw [decode, Json.exists_readWithin_token]
  constructor
  · exact fun hescaped => ⟨inside, rfl, hescaped⟩
  · rintro ⟨inside', heq, hescaped⟩
    rw [List.append_cancel_right (List.cons.inj heq).2]
    exact hescaped

theorem isQuoted_of_stringToken? {cs token rest : List Char}
    (h : stringToken? cs = some (token, rest)) : IsQuoted token := by
  unfold stringToken? at h
  split at h
  · obtain ⟨⟨tail, rest⟩, htail, heq⟩ := Option.map_eq_some_iff.mp h
    cases heq
    obtain ⟨inside, rfl, -⟩ := stringTail?_eq_some htail
    exact ⟨inside, rfl⟩
  · cases h

/-! ## §3. Calls. -/

theorem digits_of_digitsToken? {cs token rest : List Char}
    (h : digitsToken? cs = some (token, rest)) :
    token ≠ [] ∧ ∀ c ∈ token, DecimalDigit.isDigit c = true := by
  simp only [digitsToken?] at h
  split at h
  · cases h
  · next hempty =>
    cases h
    refine ⟨by simpa using hempty, ?_⟩
    exact fun c hc => List.mem_takeWhile_imp hc

theorem isNumber_of_digitsToken? {cs token rest : List Char}
    (h : digitsToken? cs = some (token, rest)) : IsNumber token :=
  .plain (digits_of_digitsToken? h).1 (digits_of_digitsToken? h).2

theorem isNumber_of_numberToken? {cs token rest : List Char}
    (h : numberToken? cs = some (token, rest)) : IsNumber token := by
  unfold numberToken? at h
  split at h
  · obtain ⟨⟨ds, rest⟩, hds, heq⟩ := Option.map_eq_some_iff.mp h
    cases heq
    exact .negative (digits_of_digitsToken? hds).1 (digits_of_digitsToken? hds).2
  · exact isNumber_of_digitsToken? h

/-- The tokens of a call have their shapes. -/
structure Call.IsShaped (call : Call) : Prop where
  line : IsNumber call.line
  flowName : IsQuoted call.flowName
  flowAlias : IsQuoted call.flowAlias
  directiveName : IsQuoted call.directiveName
  displayName : IsQuoted call.displayName
  failureStrategy : IsQuoted call.failureStrategy
  intervalTime : IsNumber call.intervalTime
  retryCount : IsNumber call.retryCount

/-- Whatever call is found, its tokens were cut out by their shapes. -/
theorem isShaped_of_callHere? {factory cs : List Char} {call : Call}
    (h : callHere? factory cs = some call) : call.IsShaped := by
  -- the steps of the match, one after another, each with its token
  obtain ⟨_, _, h⟩ := Option.bind_eq_some_iff.mp h
  obtain ⟨_, _, h⟩ := Option.bind_eq_some_iff.mp h
  obtain ⟨⟨line, _⟩, hline, h⟩ := Option.bind_eq_some_iff.mp h
  obtain ⟨_, _, h⟩ := Option.bind_eq_some_iff.mp h
  obtain ⟨⟨flowName, _⟩, hflowName, h⟩ := Option.bind_eq_some_iff.mp h
  obtain ⟨_, _, h⟩ := Option.bind_eq_some_iff.mp h
  obtain ⟨⟨flowAlias, _⟩, hflowAlias, h⟩ := Option.bind_eq_some_iff.mp h
  obtain ⟨_, _, h⟩ := Option.bind_eq_some_iff.mp h
  obtain ⟨⟨directiveName, _⟩, hdirectiveName, h⟩ := Option.bind_eq_some_iff.mp h
  obtain ⟨_, _, h⟩ := Option.bind_eq_some_iff.mp h
  obtain ⟨⟨displayName, _⟩, hdisplayName, h⟩ := Option.bind_eq_some_iff.mp h
  obtain ⟨_, _, h⟩ := Option.bind_eq_some_iff.mp h
  obtain ⟨⟨failureStrategy, _⟩, hfailureStrategy, h⟩ := Option.bind_eq_some_iff.mp h
  obtain ⟨_, _, h⟩ := Option.bind_eq_some_iff.mp h
  obtain ⟨⟨intervalTime, _⟩, hintervalTime, h⟩ := Option.bind_eq_some_iff.mp h
  obtain ⟨_, _, h⟩ := Option.bind_eq_some_iff.mp h
  obtain ⟨⟨retryCount, _⟩, hretryCount, h⟩ := Option.bind_eq_some_iff.mp h
  obtain ⟨_, _, h⟩ := Option.bind_eq_some_iff.mp h
  cases h
  exact
    { line := isNumber_of_digitsToken? hline
      flowName := isQuoted_of_stringToken? hflowName
      flowAlias := isQuoted_of_stringToken? hflowAlias
      directiveName := isQuoted_of_stringToken? hdirectiveName
      displayName := isQuoted_of_stringToken? hdisplayName
      failureStrategy := isQuoted_of_stringToken? hfailureStrategy
      intervalTime := isNumber_of_numberToken? hintervalTime
      retryCount := isNumber_of_numberToken? hretryCount }

/-- The tokens of a call can be decoded: the escapes of its texts are JSON's, and its
numbers are not too long. -/
structure Call.IsDecodable (call : Call) : Prop where
  line : call.line.countP DecimalDigit.isDigit ≤ Numeral.digitLimit
  flowName : IsJsonString call.flowName
  flowAlias : IsJsonString call.flowAlias
  directiveName : IsJsonString call.directiveName
  displayName : IsJsonString call.displayName
  failureStrategy : IsJsonString call.failureStrategy
  intervalTime : call.intervalTime.countP DecimalDigit.isDigit ≤ Numeral.digitLimit
  retryCount : call.retryCount.countP DecimalDigit.isDigit ≤ Numeral.digitLimit

/-- **A call can be decoded exactly if each of its tokens can.** -/
theorem exists_toBlock {call : Call} (h : call.IsShaped) :
    (∃ b, call.toBlock = .ok b) ↔ call.IsDecodable := by
  simp only [Call.toBlock, bind_eq_ok, pure_eq_ok]
  constructor
  · rintro ⟨_, line, hline, flowName, hflowName, flowAlias, hflowAlias, directiveName,
      hdirectiveName, displayName, hdisplayName, failureStrategy, hfailureStrategy, intervalTime,
      hintervalTime, retryCount, hretryCount, _⟩
    exact
      { line := (exists_number h.line).mp ⟨_, hline⟩
        flowName := (exists_decode h.flowName).mp ⟨_, hflowName⟩
        flowAlias := (exists_decode h.flowAlias).mp ⟨_, hflowAlias⟩
        directiveName := (exists_decode h.directiveName).mp ⟨_, hdirectiveName⟩
        displayName := (exists_decode h.displayName).mp ⟨_, hdisplayName⟩
        failureStrategy := (exists_decode h.failureStrategy).mp ⟨_, hfailureStrategy⟩
        intervalTime := (exists_number h.intervalTime).mp ⟨_, hintervalTime⟩
        retryCount := (exists_number h.retryCount).mp ⟨_, hretryCount⟩ }
  · intro hd
    -- every argument can be decoded by itself, and the block is made of all of them
    obtain ⟨line, hline⟩ := (exists_number h.line).mpr hd.line
    obtain ⟨flowName, hflowName⟩ := (exists_decode h.flowName).mpr hd.flowName
    obtain ⟨flowAlias, hflowAlias⟩ := (exists_decode h.flowAlias).mpr hd.flowAlias
    obtain ⟨directiveName, hdirectiveName⟩ := (exists_decode h.directiveName).mpr hd.directiveName
    obtain ⟨displayName, hdisplayName⟩ := (exists_decode h.displayName).mpr hd.displayName
    obtain ⟨failureStrategy, hfailureStrategy⟩ :=
      (exists_decode h.failureStrategy).mpr hd.failureStrategy
    obtain ⟨intervalTime, hintervalTime⟩ := (exists_number h.intervalTime).mpr hd.intervalTime
    obtain ⟨retryCount, hretryCount⟩ := (exists_number h.retryCount).mpr hd.retryCount
    exact ⟨_, line, hline, flowName, hflowName, flowAlias, hflowAlias, directiveName,
      hdirectiveName, displayName, hdisplayName, failureStrategy, hfailureStrategy, intervalTime,
      hintervalTime, retryCount, hretryCount, rfl⟩

/-! ## §4. Scripts. -/

/-- Every call that is found on the lines can be decoded. -/
def AllDecodable (factory : List Char) (rows : List (List Char)) : Prop :=
  ∀ row ∈ rows, ∀ call, firstCall? factory row = some call → call.IsDecodable

theorem exists_scanLines {factory : List Char} {rows : List (List Char)} (line : Nat) :
    (∃ es, scanLines factory line rows = .ok es) ↔ AllDecodable factory rows := by
  induction rows generalizing line with
  | nil => simp [scanLines, AllDecodable]
  | cons row rows ih =>
    rw [AllDecodable, List.forall_mem_cons, ← AllDecodable]
    cases hfirst : firstCall? factory row with
    | none =>
      simp only [scanLines, hfirst]
      rw [ih (line + 1)]
      simp
    | some call =>
      -- the call is the first of its line, and shaped because it was found there
      obtain ⟨_, _, _, hsite⟩ := exists_callHere? hfirst
      have hblock := exists_toBlock (isShaped_of_callHere? hsite)
      simp only [scanLines, hfirst, bind_eq_ok, pure_eq_ok, Option.some.injEq, forall_eq']
      rw [← hblock, ← ih (line + 1)]
      constructor
      · rintro ⟨_, b, hb, es, hes, _⟩
        exact ⟨⟨b, hb⟩, es, hes⟩
      · rintro ⟨⟨b, hb⟩, es, hes⟩
        exact ⟨_, b, hb, es, hes, rfl⟩

end Scan

namespace BlockTable

/-- **WHICH SCRIPTS CAN BE SCANNED.**  A script has a table exactly if every call that is
found on its lines can be decoded. -/
theorem exists_ofSource (text factory : String) :
    (∃ t, ofSource (.str text) (.str factory) = .ok t)
      ↔ Scan.AllDecodable factory.toList (FlowTrace.lines text.toList) := by
  rw [← Scan.exists_scanLines 0, ofSource]
  constructor
  · rintro ⟨t, ht⟩
    obtain ⟨es, hes, -⟩ := map_eq_ok.mp ht
    exact ⟨es, hes⟩
  · rintro ⟨es, hes⟩
    exact ⟨ofList es, map_eq_ok.mpr ⟨es, hes, rfl⟩⟩

/-- A call whose first text holds a tab between its quotes. -/
def tabbedCall : String :=
  "_block = generateBlock(1, \"a\tb\", \"F\", \"d\", \"D\", \"terminate\", 0, 0)"

/-- A call whose first text holds an escape of scripts that JSON does not have. -/
def apostropheCall : String :=
  "_block = generateBlock(1, \"it\\'s\", \"F\", \"d\", \"D\", \"terminate\", 0, 0)"

theorem undecodable_scripts :
    (¬ ∃ t, ofSource (.str tabbedCall) (.str "generateBlock") = .ok t)
      ∧ ¬ ∃ t, ofSource (.str apostropheCall) (.str "generateBlock") = .ok t := by
  have hnone : ∀ {x : Except Fault BlockTable}, x.toOption.isSome = false → ¬ ∃ t, x = .ok t := by
    rintro _ hx ⟨t, rfl⟩
    cases hx
  exact ⟨hnone (by decide +kernel), hnone (by decide +kernel)⟩

end BlockTable
end FlowTrace
