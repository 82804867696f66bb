/-
  FlowTrace.Proofs.Bridge.Attribution
  ────────────────────────────────
  **AN EXCEPTION IS ATTRIBUTED TO ITS BLOCK, EITHER WAY.**

  A bridge attributes an exception by a block table.  It is given one, or it
  asks the host for the source of the flow script and scans that:

      given    — the report is published at once
      known    — the script was scanned before: at once as well
      unknown  — the source is asked for; the report waits for the reply

  For a script as the compiler emitted it the three ways publish the same
  report, and the report says what the directive says whose text holds the
  line.  The first two pair the line with its own script.  The third searches
  the stack anew when the reply arrives and does not ask whether the frame it
  finds is still one of the script whose source came; so the stack has to lead
  there then, and §7 shows what goes wrong when it does not.
-/
import FlowTrace.Bridge.Events
import FlowTrace.Link.Rehearsal
import FlowTrace.Proofs.Block.Rescan
import FlowTrace.Proofs.Bridge.Heed

namespace FlowTrace

open Outcome

/-! ## §1. What a report says. -/

namespace Compiler

variable {c : Compiler} {flow : Flow} {codes : List String} {k line : Int} {out : CompiledFlow}

/-- Every line from the first one on belongs to a directive, if there is one. -/
theorem exists_owns (hcodes : codes ≠ []) (hline : k ≤ line) :
    ∃ i, i < codes.length ∧ Owns codes k line i := by
  have hlast : codes.length - 1 + 1 = codes.length := by
    have := List.length_pos_iff.mpr hcodes
    omega
  by_cases hend : k + startRow codes codes.length ≤ line
  · exact ⟨codes.length - 1, by omega, Or.inr ⟨hlast, hend⟩⟩
  · have hrow : (line - k).toNat < (codes.flatMap (fun t => rows t.toList)).length := by
      rw [← startRow_length]
      omega
    obtain ⟨i, hi⟩ := exists_liesIn hrow
    exact ⟨i, hi.lt_length, Or.inl ⟨(line - k).toNat, by omega, hi⟩⟩

/-- What the report of an exception at a line of a compiled flow says: what the
directive says to which the line belongs, and nothing about a block when there
is none. -/
def Reports (flow : Flow) (codes : List String) (k line : Int) (description : Json)
    (report : ExceptionReport) : Prop :=
  (∃ i d, flow.directives[i]? = some d ∧ Owns codes k line i
    ∧ report =
      { description := description, blockLine := .int (i + 1), flowName := flow.name
        directiveName := d.name, displayName := d.displayName.orElse d.name
        failureStrategy := d.failureStrategy })
  ∨ ((line < k ∨ flow.directives = []) ∧ report = { description := description })

end Compiler

/-- The report of an exception at a line, by a table. -/
def BlockTable.reportAt (t : BlockTable) (description : Json) (line : Int) : ExceptionReport :=
  match t.lookup? line with
  | none => { description := description }
  | some block => Bridge.attributed { description := description } block

/-- **The table of a compiled flow reports what its directives say.** -/
theorem Compiler.LaidOut.reports {c : Compiler} {flow : Flow} {codes : List String} {k : Int}
    {out : CompiledFlow} (h : c.LaidOut flow k codes out) (description : Json) (line : Int) :
    Reports flow codes k line description (out.blocks.reportAt description line) := by
  by_cases hnone : line < k ∨ flow.directives = []
  · have hlookup : out.blocks.lookup? line = none := by
      rcases hnone with hline | hnil
      · exact h.lookup_before line hline
      · apply BlockTable.lookup?_eq_none
        have hempty := h.entries_length
        rw [hnil, List.length_nil, List.length_eq_zero_iff] at hempty
        simp [hempty]
    refine Or.inr ⟨hnone, ?_⟩
    rw [BlockTable.reportAt, hlookup]
  · rw [not_or, Int.not_lt] at hnone
    have hcodes : codes ≠ [] := by
      intro hnil
      have hlength := h.codes_length
      rw [hnil, List.length_nil] at hlength
      exact hnone.2 (List.length_eq_zero_iff.mp hlength.symm)
    obtain ⟨i, hi, howns⟩ := exists_owns hcodes hnone.1
    have hd := List.getElem?_eq_getElem (l := flow.directives) (i := i) (by rw [← h.codes_length]; exact hi)
    have hlookup := lookup?_of_owns h.codes_length h.entries_length h.entries_getElem? hd howns
    refine Or.inl ⟨i, _, hd, howns, ?_⟩
    rw [BlockTable.reportAt, hlookup]
    rfl

/-! ## §2. The bridge. -/

namespace Bridge

variable {b : Bridge} {e : Thrown} {scriptId : Json} {line : Int}

/-- The stack of an exception leads to a line of a script: its first frame in a
flow script names both. -/
def LeadsTo (b : Bridge) (e : Thrown) (scriptId : Json) (line : Int) : Prop :=
  ∃ f, b.flowFrame? e.frames = .ok (some f) ∧ Json.field f "scriptId" = scriptId
    ∧ Json.field f "lineNumber" = .int line

/-- Where a stack leads depends on the marker and the recorded scripts only. -/
theorem flowFrame?_congr {b' : Bridge} (hmarker : b'.config.marker = b.config.marker)
    (htracker : b'.tracker = b.tracker) (frames : List Record) :
    b'.flowFrame? frames = b.flowFrame? frames := by
  induction frames with
  | nil => rfl
  | cons f rest ih =>
    unfold flowFrame? isFlowScript urlOr
    rw [hmarker, htracker, ih]

theorem LeadsTo.congr {b' : Bridge} (h : b.LeadsTo e scriptId line) (hconfig : b'.config = b.config)
    (htracker : b'.tracker = b.tracker) : b'.LeadsTo e scriptId line := by
  unfold LeadsTo
  rw [flowFrame?_congr (congrArg BridgeConfig.marker hconfig) htracker]
  exact h

theorem LeadsTo.flowLocation (h : b.LeadsTo e scriptId line) :
    b.flowLocation e = .ok { scriptId := scriptId, line := .int line } := by
  obtain ⟨f, hf, rfl, hline⟩ := h
  unfold Bridge.flowLocation
  rw [hf, ← hline]
  rfl

/-- An exception is described by the table at hand. -/
theorem LeadsTo.describe (h : b.LeadsTo e scriptId line) {table : Option BlockTable}
    {t : BlockTable} (ht : table.or b.blocks = some t) :
    b.describe e table = .ok (t.reportAt e.description line) := by
  unfold Bridge.describe
  rw [h.flowLocation]
  simp only [ht, bind, Except.bind, BlockTable.find_int, BlockTable.reportAt]
  cases t.lookup? line <;> rfl

end Bridge

namespace Site

variable {ε : Type}

/-! ## §3. Publishing. -/

/-- The report of an exception that can be described is published. -/
theorem exec_publishException {s : Site ε} {e : Thrown} {table : Option BlockTable}
    {report : ExceptionReport} (h : s.bridge.describe e table = .ok report) :
    (publishException e table).exec s = (emit (.exception report)).exec s := by
  have hdescribe : (Act.ofExcept (s.bridge.describe e table) : Act (Site ε) _).exec s
      = (.ok report, s) := by rw [Act.exec_ofExcept, h]
  unfold publishException
  rw [Act.exec_bind_ok (exec_look s), Act.exec_bind_ok hdescribe]

variable {s : Site ε} {e : Thrown} {scriptId : Json} {line : Int} {t : BlockTable}

/-- Where the stack leads is found without a change. -/
theorem exec_flowLocation (h : s.bridge.LeadsTo e scriptId line) :
    (Act.ofExcept (s.bridge.flowLocation e) : Act (Site ε) _).exec s
      = (.ok { scriptId := scriptId, line := .int line }, s) := by
  rw [Act.exec_ofExcept, h.flowLocation]

/-! ## §4. The reply. -/

/-- A reply that carries the source of a script. -/
structure CarriesSource (reply : Record) (source : String) : Prop where
  method : Fields.contains reply "method" = false
  error : (Json.field reply "error").isObj = false
  result : ∃ fields, Json.field reply "result" = .obj fields
    ∧ Json.field fields "scriptSource" = .str source

/-- A link takes in the reply to a pending command. -/
theorem answer_of_pending? {l : Link} {reply : Record} {p : Pending}
    (h : l.pending? (Json.field reply "id") = some p) :
    l.answer reply = (l.dropPending p.id).complete p.id (Link.replyOutcome p.method reply) := by
  have hsame := List.find?_some h
  have hkey : (Json.field reply "id").isKey = true := by
    cases hid : Json.field reply "id" <;> rw [hid] at hsame <;> first | rfl | cases hsame
  have hempty : l.pending.isEmpty = false := by
    have hmem := List.mem_of_find?_eq_some h
    cases hpending : l.pending with
    | nil => simp [hpending] at hmem
    | cons q rest => rfl
  simp [Link.answer, hempty, hkey, h]

/-- A reply is taken in by the link alone. -/
theorem exec_accept {w : Wire ε} {reply : Record} {p : Pending}
    (hmethod : Fields.contains reply "method" = false)
    (hp : w.link.pending? (Json.field reply "id") = some p) :
    (Wire.accept reply).exec w = (.ok .handled, { w with link := w.link.answer reply }) := by
  -- a reply without an id would be equal to no number
  have hid : Fields.contains reply "id" = true := by
    have hsame := List.find?_some hp
    unfold Json.field at hsame
    unfold Fields.contains
    cases hget : Fields.get? reply "id" with
    | none =>
      rw [hget] at hsame
      cases hsame
    | some v => rfl
  unfold Wire.accept
  rw [if_neg (by simp [hmethod])]
  simp only [hid, if_true]
  rfl

/-- A bridge acts on the only signal of its link. -/
theorem exec_heedLink {signal : Signal} (h : s.bridge.link.signals = [signal]) :
    ((heedLink : Act (Site ε) Unit).exec s).2 = ((heed signal).exec
      { s with bridge := { s.bridge with link := { s.bridge.link with signals := [] } } }).2 := by
  unfold heedLink
  rw [Act.exec_bind_ok (exec_look s), Act.exec_bind_ok (exec_update _ s), h]
  unfold heedAll
  rw [Act.exec_bind_snd (fun _ _ => rfl), Act.exec_contained_snd]

/-- A bridge whose link has no signals left acts on the one that the reply makes. -/
theorem exec_onLink_accept {reply : Record} {p : Pending}
    (hmethod : Fields.contains reply "method" = false)
    (hp : s.bridge.link.pending? (Json.field reply "id") = some p)
    (hsignals : s.bridge.link.signals = []) :
    ∃ link : Link, ((onLink (Wire.accept reply)).exec s).2
      = ((heed (.completed p.id (Link.replyOutcome p.method reply))).exec
          { s with bridge := { s.bridge with link := link } }).2 := by
  have haccept : (Act.attempt (Act.within
      (fun s : Site ε => ({ link := s.bridge.link, network := s.network } : Wire ε))
      (fun w s => { bridge := { s.bridge with link := w.link }, network := w.network })
      (Wire.accept reply))).exec s
      = (.ok (.ok .handled),
          { s with bridge := { s.bridge with link := s.bridge.link.answer reply } }) := by
    rw [Act.exec_attempt, Act.exec_within, exec_accept hmethod hp]
  have hone : (s.bridge.link.answer reply).signals
      = [.completed p.id (Link.replyOutcome p.method reply)] := by
    rw [answer_of_pending? hp]
    show s.bridge.link.signals ++ _ = _
    rw [hsignals, List.nil_append]
  refine ⟨{ s.bridge.link.answer reply with signals := [] }, ?_⟩
  unfold onLink
  rw [Act.exec_bind_ok haccept, Act.exec_bind_snd (fun _ _ => rfl), exec_heedLink hone]

/-- A source that is scanned to a table gives that table. -/
theorem tableOfSource_of_field {fields : Record} {source factory : String}
    (hsource : Json.field fields "scriptSource" = .str source)
    (hscan : BlockTable.ofSource (.str source) (.str factory) = .ok t) :
    tableOfSource (.str factory) (.obj fields) = .ok t := by
  have htext : (Json.str source).textOrEmpty = source := by
    unfold Json.textOrEmpty
    split
    · rfl
    · next hempty =>
      have hnil : source = "" := by simpa [Json.truthy] using hempty
      exact hnil.symm
  unfold tableOfSource
  show BlockTable.ofSource (.str (Json.field fields "scriptSource").textOrEmpty) (.str factory) = _
  rw [hsource, htext, hscan]

/-- A source that has come is scanned, its table is kept for the script, and the
exception that waited for it is reported. -/
theorem exec_finishFetch {f : Fetch} {result : Json}
    (ht : tableOfSource s.bridge.config.blockFactory result = .ok t)
    (h : s.bridge.LeadsTo f.exception scriptId line) :
    (finishFetch f (.ok result)).exec s
      = (emit (.exception (t.reportAt f.exception.description line))).exec
        { s with
          bridge := { s.bridge with tables := Fields.put f.scriptId t s.bridge.tables } } := by
  have htable : (Act.ofExcept (tableOfSource s.bridge.config.blockFactory result)
      : Act (Site ε) _).exec s = (.ok t, s) := by rw [Act.exec_ofExcept, ht]
  unfold finishFetch
  simp only
  rw [Act.exec_bind_ok (exec_look s), Act.exec_bind_ok htable, Act.exec_bind_ok (exec_update _ s)]
  have hafter : Bridge.LeadsTo { s.bridge with tables := Fields.put f.scriptId t s.bridge.tables }
      f.exception scriptId line := h.congr rfl rfl
  exact exec_publishException (hafter.describe rfl)

/-- The end of a command that a fetch waits for ends the fetch. -/
theorem exec_heed_completed {id : Nat} {result : Json} {f : Fetch}
    (hf : s.bridge.fetches.find? (fun f => f.id == id) = some f)
    (ht : tableOfSource s.bridge.config.blockFactory result = .ok t)
    (h : s.bridge.LeadsTo f.exception scriptId line) :
    (heed (.completed id (.ok result))).exec s
      = (emit (.exception (t.reportAt f.exception.description line))).exec
        { s with
          bridge :=
            { s.bridge with
              fetches := s.bridge.fetches.filter (fun f => f.id != id)
              tables := Fields.put f.scriptId t s.bridge.tables } } := by
  have hbefore : Bridge.LeadsTo
      { s.bridge with fetches := s.bridge.fetches.filter (fun f => f.id != id) }
      f.exception scriptId line := h.congr rfl rfl
  unfold heed
  simp only
  unfold completeCommand
  rw [Act.exec_bind_ok (exec_look s)]
  simp only [hf]
  rw [Act.exec_bind_ok (exec_update _ s)]
  exact exec_finishFetch ht hbefore

/-- **The reply**: the frame that carries the source makes the bridge report the
exception that waits for it. -/
theorem exec_onLink_accept_source {reply : Record} {source factory : String} {p : Pending}
    {f : Fetch} (hreply : CarriesSource reply source)
    (hscan : BlockTable.ofSource (.str source) (.str factory) = .ok t)
    (hfactory : s.bridge.config.blockFactory = .str factory)
    (hp : s.bridge.link.pending? (Json.field reply "id") = some p)
    (hsignals : s.bridge.link.signals = [])
    (hf : s.bridge.fetches.find? (fun f => f.id == p.id) = some f)
    (h : s.bridge.LeadsTo f.exception scriptId line) :
    ∃ link fetches, ((onLink (Wire.accept reply)).exec s).2
      = ((emit (.exception (t.reportAt f.exception.description line))).exec
          { s with
            bridge :=
              { s.bridge with
                link := link, fetches := fetches
                tables := Fields.put f.scriptId t s.bridge.tables } }).2 := by
  obtain ⟨fields, hresult, hsource⟩ := hreply.result
  obtain ⟨link, hlink⟩ := exec_onLink_accept hreply.method hp hsignals
  -- the result holds a source, so it is not replaced by the empty object
  have houtcome : Link.replyOutcome p.method reply = .ok (.obj fields) := by
    have hne : fields ≠ [] := by
      rintro rfl
      cases hsource
    have hobject : (Json.obj fields).orObject = .obj fields :=
      if_pos (by simpa [Json.truthy] using hne)
    have herror := hreply.error
    unfold Link.replyOutcome
    rw [hresult, hobject]
    cases hcase : Json.field reply "error" <;> first | rfl | (rw [hcase] at herror; cases herror)
  have ht : tableOfSource s.bridge.config.blockFactory (.obj fields) = .ok t := by
    rw [hfactory]
    exact tableOfSource_of_field hsource hscan
  refine ⟨link, s.bridge.fetches.filter (fun f => f.id != p.id), ?_⟩
  have hlater : Bridge.LeadsTo { s.bridge with link := link } f.exception scriptId line :=
    h.congr rfl rfl
  rw [hlink, houtcome]
  exact congrArg Prod.snd (exec_heed_completed hf ht hlater)

/-! ## §5. The notification. -/

variable [Endpoint ε]

/-- The notification of an exception is that exception. -/
theorem exec_onMessage {message : Record} {n : Notification}
    (hn : Notification.ofFields message = .ok n) (he : n.report = .thrown e) :
    (onMessage message : Act (Site ε) Unit).exec s = (onException e).exec s := by
  have hread : (Act.ofExcept (Notification.ofFields message) : Act (Site ε) _).exec s
      = (.ok n, s) := by rw [Act.exec_ofExcept, hn]
  unfold onMessage
  rw [Act.exec_bind_ok hread]
  unfold onNotification
  rw [he]

/-- **The given table**: the exception is reported at once. -/
theorem exec_onException_given (h : s.bridge.LeadsTo e scriptId line)
    (ht : s.bridge.blocks = some t) :
    (onException e).exec s = (emit (.exception (t.reportAt e.description line))).exec s := by
  unfold onException
  rw [Act.exec_bind_ok (exec_look s), Act.exec_bind_ok (exec_flowLocation h), if_pos (by simp [ht])]
  exact exec_publishException (h.describe (by simp [ht]))

/-- **The known script**: the exception is reported at once. -/
theorem exec_onException_known (h : s.bridge.LeadsTo e scriptId line)
    (hid : scriptId.truthy = true) (hnone : s.bridge.blocks = none)
    (ht : Fields.get? s.bridge.tables scriptId.text = some t) :
    (onException e).exec s = (emit (.exception (t.reportAt e.description line))).exec s := by
  unfold onException
  rw [Act.exec_bind_ok (exec_look s), Act.exec_bind_ok (exec_flowLocation h),
    if_neg (by simp [hnone, hid])]
  simp only [ht]
  exact exec_publishException (h.describe (by simp))

/-- **The unknown script**: its source is asked for, and the exception is kept
with the request. -/
theorem exec_onException_unknown (h : s.bridge.LeadsTo e scriptId line)
    (hid : scriptId.truthy = true) (hnone : s.bridge.blocks = none)
    (ht : Fields.get? s.bridge.tables scriptId.text = none) {id : Nat} {s' : Site ε}
    (hsubmit : (onLink (Wire.submit "Debugger.getScriptSource"
      (.obj [("scriptId", .str scriptId.text)]))).exec s = (.ok id, s')) :
    (onException e).exec s = (.ok ⟨⟩, { s' with
      bridge :=
        { s'.bridge with
          fetches := s'.bridge.fetches
            ++ [{ id := id, scriptId := scriptId.text, exception := e }] } }) := by
  have hattempt : (Act.attempt (onLink (Wire.submit "Debugger.getScriptSource"
      (.obj [("scriptId", .str scriptId.text)])))).exec s = (.ok (.ok id), s') := by
    rw [Act.exec_attempt, hsubmit]
  unfold onException
  rw [Act.exec_bind_ok (exec_look s), Act.exec_bind_ok (exec_flowLocation h),
    if_neg (by simp [hnone, hid])]
  simp only [ht]
  rw [Act.exec_bind_ok hattempt]
  rfl

/-! ## §6. The ways agree. -/

/-- The site attributes an exception: whenever its stack leads to a line of the
script with the given source and table, the report is published, at once or with
the reply that carries the source. -/
structure Attributes (s : Site ε) (source factory : String) (t : BlockTable) (message : Record)
    (e : Thrown) (scriptId : Json) (report : ExceptionReport) : Prop where
  /-- With the table given, the message is reported. -/
  given : s.bridge.blocks = some t →
    (onMessage message).exec s = (emit (.exception report)).exec s
  /-- With the script known, the message is reported. -/
  known : s.bridge.blocks = none → Fields.get? s.bridge.tables scriptId.text = some t →
    (onMessage message).exec s = (emit (.exception report)).exec s
  /-- With the script unknown, the exception is kept with a request for the source. -/
  unknown : s.bridge.blocks = none → Fields.get? s.bridge.tables scriptId.text = none →
    ∀ id s', (onLink (Wire.submit "Debugger.getScriptSource"
        (.obj [("scriptId", .str scriptId.text)]))).exec s = (.ok id, s') →
      (onMessage message).exec s = (.ok ⟨⟩, { s' with
        bridge :=
          { s'.bridge with
            fetches := s'.bridge.fetches
              ++ [{ id := id, scriptId := scriptId.text, exception := e }] } })
  /-- The reply to the request is reported, and the script is known from then on. -/
  replied : s.bridge.config.blockFactory = .str factory → ∀ reply p,
    CarriesSource reply source → s.bridge.link.pending? (Json.field reply "id") = some p →
    s.bridge.link.signals = [] →
    s.bridge.fetches.find? (fun f => f.id == p.id)
      = some { id := p.id, scriptId := scriptId.text, exception := e } →
    ∃ link fetches, ((onLink (Wire.accept reply)).exec s).2
      = ((emit (.exception report)).exec
          { s with
            bridge :=
              { s.bridge with
                link := link, fetches := fetches
                tables := Fields.put scriptId.text t s.bridge.tables } }).2

/-- **THE ATTRIBUTION THEOREM**: for the script of a flow as it was compiled, a
bridge that was given the table and a bridge that asks for the source publish one
and the same report, wherever the stack leads when they publish it; and the report
says what the directive says to which the line belongs. -/
theorem attributes_of_compileFlowDocument {c : Compiler} {flow : Flow} {header : List String}
    {v : Json} {out : CompiledFlow} (hflow : Flow.ofDocument v = .ok flow)
    (hscan : c.Scannable flow header)
    (hout : c.compileFlowDocument v (.int header.length) = .ok out)
    {message : Record} {n : Notification} (hn : Notification.ofFields message = .ok n)
    (he : n.report = .thrown e) (hid : scriptId.truthy = true) :
    ∃ codes report, c.LaidOut flow header.length codes out
      ∧ Compiler.Reports flow codes header.length line e.description report
      ∧ ∀ s : Site ε, s.bridge.LeadsTo e scriptId line →
          s.Attributes (headerText header ++ out.source) c.options.blockFactory out.blocks
            message e scriptId report := by
  obtain ⟨flow', hflow', hcompile⟩ := Compiler.compileFlowDocument_eq_ok.mp hout
  rw [hflow] at hflow'
  cases hflow'
  obtain ⟨hname, hsaved⟩ := Flow.isSaved_of_ofDocument hflow
  obtain ⟨codes, hlaid⟩ := Compiler.laidOut_of_compileFlow hsaved hcompile
  -- the scan of the script finds the same blocks as the compiler put into the table
  have hsource := Compiler.ofSource_compileFlow hscan hname hsaved hcompile
  refine ⟨codes, out.blocks.reportAt e.description line, hlaid, hlaid.reports _ _, ?_⟩
  intro s h
  constructor
  case given =>
    intro ht
    rw [exec_onMessage hn he, exec_onException_given h ht]
  case known =>
    intro hnone ht
    rw [exec_onMessage hn he, exec_onException_known h hid hnone ht]
  case unknown =>
    intro hnone ht id s' hsubmit
    rw [exec_onMessage hn he, exec_onException_unknown h hid hnone ht hsubmit]
  case replied =>
    intro hfactory reply p hreply hp hsignals hf
    exact exec_onLink_accept_source hreply hsource hfactory hp hsignals hf h

/-- A message about an exception under a frame of a script that is not known yet. -/
def boomMessage : Record :=
  [("method", "Runtime.exceptionThrown"),
    ("params", .obj [("exceptionDetails", .obj
      [("text", "boom"), ("stackTrace", .obj [("callFrames", .arr
        [.obj [("scriptId", "9"), ("lineNumber", .int 0)],
          .obj [("scriptId", "7"), ("url", "flow.js"), ("lineNumber", .int 3)]])])])])]

/-- The exception that `boomMessage` is about. -/
def boom : Thrown :=
  { details :=
      [("text", "boom"), ("stackTrace", .obj [("callFrames", .arr
        [.obj [("scriptId", "9"), ("lineNumber", .int 0)],
          .obj [("scriptId", "7"), ("url", "flow.js"), ("lineNumber", .int 3)]])])]
    description := "boom", line := none, column := none, scriptId := .null, url := .null
    frames :=
      [[("scriptId", "9"), ("lineNumber", .int 0)],
        [("scriptId", "7"), ("url", "flow.js"), ("lineNumber", .int 3)]] }

theorem ofFields_boomMessage :
    ∃ n, Notification.ofFields boomMessage = .ok n ∧ n.report = .thrown boom :=
  ⟨_, rfl, rfl⟩

theorem attributes_of_compileFlowDocument_boom :
    ∃ out n, Flow.ofDocument Compiler.twoSteps = .ok Compiler.twoStepsFlow
      ∧ ({} : Compiler).Scannable Compiler.twoStepsFlow ["//"]
      ∧ ({} : Compiler).compileFlowDocument Compiler.twoSteps (.int ["//"].length) = .ok out
      ∧ Notification.ofFields boomMessage = .ok n ∧ n.report = .thrown boom
      ∧ (Json.str "7").truthy = true
      ∧ ∃ codes report, ({} : Compiler).LaidOut Compiler.twoStepsFlow ["//"].length codes out
        ∧ Compiler.Reports Compiler.twoStepsFlow codes ["//"].length 3 boom.description report
        ∧ ∀ s : Site RehearsedHost, s.bridge.LeadsTo boom "7" 3 →
            s.Attributes (headerText ["//"] ++ out.source) ({} : Compiler).options.blockFactory
              out.blocks boomMessage boom "7" report := by
  obtain ⟨out, hout⟩ := exists_of_toOption
    (show (({} : Compiler).compileFlowDocument Compiler.twoSteps
      (.int ["//"].length)).toOption.isSome = true by decide +kernel)
  obtain ⟨n, hn, he⟩ := ofFields_boomMessage
  have hid : (Json.str "7").truthy = true := by decide +kernel
  exact ⟨out, n, Compiler.ofDocument_twoSteps, Compiler.scannable_twoSteps, hout, hn, he, hid,
    attributes_of_compileFlowDocument Compiler.ofDocument_twoSteps Compiler.scannable_twoSteps hout
      hn he hid⟩

/-! ## §7. A script that is recorded too late. -/

/-- A message about the script of the upper frame of `boomMessage`. -/
def lateMessage : Record :=
  [("method", "Debugger.scriptParsed"),
    ("params", .obj [("scriptId", "9"), ("url", "lib/flow.js")])]

/-- The reply to the first command, with a source. -/
def sourceReply (source : String) : Record :=
  [("id", .int 1), ("result", .obj [("scriptSource", .str source)])]

/-- A bridge with a connection and a listener, and with a table if one is given. -/
def listening (blocks : Option BlockTable) : Site RehearsedHost :=
  { bridge :=
      { config := { listeners := [{ kind := .exception, name := "report" }] }
        link := { url := "ws", status := .connected, socket := some 0 }
        status := .ready, blocks := blocks }
    network := { endpoint := { sockets := [{}] } } }

/-- The exception and the late script arrive. -/
def receiveLate : Act (Site RehearsedHost) Unit := do
  onMessage boomMessage
  onMessage lateMessage

/-- The block numbers that were reported. -/
def reportedBlocks (s : Site RehearsedHost) : List String :=
  s.bridge.calls.map (fun call => match call.2 with
    | .exception report => report.blockLine.render
    | _ => "")

/-- The listener is called with a report that is published. -/
theorem exec_emit {s : Site RehearsedHost}
    (h : s.bridge.config.listeners = [{ kind := .exception, name := "report" }])
    (report : ExceptionReport) :
    (emit (.exception report)).exec s = (.ok ⟨⟩, { s with
      bridge := { s.bridge with calls := s.bridge.calls ++ [("report", .exception report)] } }) := by
  unfold emit
  rw [Act.exec_bind_ok (exec_look s), h]
  rfl

/-- The upper frame counts as one of a flow script from the late message on, so the
bridge that waits for the source of script 7 looks up a line of script 9 in the table
of script 7, and misses the block that the other bridge reports. -/
theorem reportedBlocks_of_late_script :
    ∃ out, Flow.ofDocument Compiler.twoSteps = .ok Compiler.twoStepsFlow
      ∧ ({} : Compiler).Scannable Compiler.twoStepsFlow ["//"]
      ∧ ({} : Compiler).compileFlowDocument Compiler.twoSteps (.int ["//"].length) = .ok out
      ∧ (∀ blocks, (listening blocks).bridge.LeadsTo boom "7" 3)
      ∧ CarriesSource (sourceReply (headerText ["//"] ++ out.source))
          (headerText ["//"] ++ out.source)
      ∧ reportedBlocks (receiveLate.exec (listening (some out.blocks))).2 = ["2"]
      ∧ reportedBlocks ((onLink (Wire.accept (sourceReply (headerText ["//"] ++ out.source)))).exec
          (receiveLate.exec (listening none)).2).2 = ["0"] := by
  have hrow : (({} : Compiler).compileFlowDocument Compiler.twoSteps
      (.int ["//"].length)).toOption.map
        (fun out => (out.blocks.reportAt boom.description 3).blockLine.render) = some "2" := by
    decide +kernel
  obtain ⟨out, hout, hrow⟩ := exists_of_toOption_map hrow
  obtain ⟨flow, hflow, hcompile⟩ := Compiler.compileFlowDocument_eq_ok.mp hout
  rw [Compiler.ofDocument_twoSteps] at hflow
  cases hflow
  obtain ⟨hname, hsaved⟩ := Flow.isSaved_of_ofDocument Compiler.ofDocument_twoSteps
  obtain ⟨codes, hlaid⟩ := Compiler.laidOut_of_compileFlow hsaved hcompile
  have hsource := Compiler.ofSource_compileFlow Compiler.scannable_twoSteps hname hsaved hcompile
  have hleads : (listening none).bridge.LeadsTo boom "7" 3 := ⟨_, rfl, rfl, rfl⟩
  have hcarries : CarriesSource (sourceReply (headerText ["//"] ++ out.source))
      (headerText ["//"] ++ out.source) := ⟨rfl, rfl, _, rfl, rfl⟩
  obtain ⟨n, hn, he⟩ := ofFields_boomMessage
  refine ⟨out, Compiler.ofDocument_twoSteps, Compiler.scannable_twoSteps, hout,
    fun _ => hleads.congr rfl rfl, hcarries, ?_, ?_⟩
  · -- the given table: the report is out before the late message arrives
    have hreport := exec_onException_given (s := listening (some out.blocks)) (t := out.blocks)
      (hleads.congr rfl rfl) rfl
    rw [exec_emit rfl] at hreport
    unfold receiveLate
    rw [Act.exec_bind_ok ((exec_onMessage hn he).trans hreport)]
    exact congrArg (fun text => [text]) hrow
  · -- the source that was asked for: the stack leads to script 9 when it arrives
    have hlate : (receiveLate.exec (listening none)).2.bridge.LeadsTo boom "9" 0 :=
      ⟨_, rfl, rfl, rfl⟩
    have hlookup : out.blocks.lookup? 0 = none := hlaid.lookup_before 0 (by decide)
    obtain ⟨link, fetches, hreply⟩ := exec_onLink_accept_source
      (p := { id := 1, method := "Debugger.getScriptSource" })
      (f := { id := 1, scriptId := "7", exception := boom }) hcarries hsource rfl rfl rfl rfl hlate
    rw [hreply, exec_emit rfl, BlockTable.reportAt, hlookup]
    rfl

end Site
end FlowTrace
