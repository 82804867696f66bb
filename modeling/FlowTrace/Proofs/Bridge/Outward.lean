/-
  FlowTrace.Proofs.Bridge.Outward
  ────────────────────────────────
  **WHAT IS SHOWN IS WHAT WAS TOLD.**

  Most of what a host tells concerns the bridge alone.  Two kinds of notifications are
  passed on to listeners as they come:

      a console call              — with its parameters as received
      a pause in a flow script    — with the top frame as received

  Which events these are can be read off the notifications of a connection, in order: a
  pause is one in a flow script by the scripts that were reported before.  Everything else
  that a bridge does, whatever it is asked, adds no event of these kinds: replies and lost
  requests end in reports of exceptions, and a lost connection in its closing.
-/
import FlowTrace.Proofs.Bridge.Reporting

namespace FlowTrace

/-! ## §1. What notifications are shown as. -/

/-- Is the event one that a notification is shown as? -/
def Event.isOutward (e : Event) : Bool := e.kind == .console || e.kind == .breakpoint

namespace ConsoleParams

/-- The context of a console call, if it has one. -/
def context? (params : Record) : Option Int :=
  match Json.field params "executionContextId" with
  | .int n => some n
  | _ => none

/-- The time of a console call, zero if it has none. -/
def time (params : Record) : Binary64 :=
  match Json.field params "timestamp" with
  | .float x => x
  | .int n => (Binary64.ofInt? n).getD (.ofRatio false 0 1)
  | _ => .ofRatio false 0 1

/-- The console call with its parameters. -/
def call (params : Record) : ConsoleCall :=
  { kind := ((Json.field params "type").orElse (.str "log")).text
    args := (Json.field params "args").objects
    contextId := context? params, timestamp := time params
    stackTrace := Json.field params "stackTrace" }

/-- The context is absent or a whole number, and the time is absent or a number within the
range of a double. -/
structure WellFormed (params : Record) : Prop where
  context : Json.field params "executionContextId" = .null ∨
    ∃ n, Json.field params "executionContextId" = .int n
  time : Json.field params "timestamp" = .null ∨
    (∃ x, Json.field params "timestamp" = .float x) ∨
      ∃ n x, Json.field params "timestamp" = .int n ∧ Binary64.ofInt? n = some x

/-- A well-formed console call is read. -/
theorem WellFormed.ofConsole {params : Record} (h : WellFormed params) :
    Report.ofConsole params = .ok (.console (call params)) := by
  have hcontext : (Json.field params "executionContextId").toInt? = .ok (context? params) := by
    unfold context?
    rcases h.context with hnull | ⟨n, hn⟩
    · rw [hnull]
      rfl
    · rw [hn]
      rfl
  have htime : (Json.field params "timestamp").toFloatOrZero = .ok (ConsoleParams.time params) := by
    unfold ConsoleParams.time
    rcases h.time with hnull | ⟨x, hx⟩ | ⟨n, x, hn, hx⟩
    · rw [hnull]
      rfl
    · rw [hx]
      rfl
    · rw [hn]
      simp only [Json.toFloatOrZero, hx]
      rfl
  unfold Report.ofConsole
  rw [hcontext, htime]
  rfl

end ConsoleParams

namespace Message

/-- A notification whose pause or console call is well formed, if it is of one. -/
structure WellFormed (message : Record) : Prop where
  pause : method message = "Debugger.paused" →
    ∃ params, Message.params message = .obj params ∧ PauseParams.WellFormed params
  console : method message = "Runtime.consoleAPICalled" →
    ∃ params, Message.params message = .obj params ∧ ConsoleParams.WellFormed params

/-- The reports of scripts in a notification. -/
def scripts (message : Record) : List Record :=
  if method message = "Debugger.scriptParsed" then (params message).fields?.toList else []

/-- The event of a pause, if it is in a flow script. -/
def pauseEvent? (marker : String) (history : List Record) (params : Record) : Option Event :=
  (flowTop? marker history params).map fun frame =>
    .breakpoint ((CallFrame.url? history frame).getD "")
      (.int (CallFrame.number frame "lineNumber")) (CallFrame.scopes frame) frame

/-- The event that a notification is shown as, after these reports of scripts. -/
def event? (marker : String) (history : List Record) (message : Record) : Option Event :=
  if method message = "Debugger.paused" then
    (params message).fields?.bind (pauseEvent? marker history)
  else if method message = "Runtime.consoleAPICalled" then
    (params message).fields?.map fun params => .console (ConsoleParams.call params) (.obj params)
  else none

end Message

/-- **The events that notifications are shown as**, in their order. -/
def outward (marker : String) (history : List Record) : List Record → List Event
  | [] => []
  | message :: rest => (Message.event? marker history message).toList ++
      outward marker (history ++ Message.scripts message) rest

theorem outward_concat (marker : String) (messages : List Record) (message : Record) :
    ∀ history, outward marker history (messages ++ [message]) = outward marker history messages ++
      (Message.event? marker (history ++ messages.flatMap Message.scripts) message).toList := by
  induction messages with
  | nil => intro history; simp [outward]
  | cons first rest ih => intro history; simp [outward, ih]

/-- The events that a listener was called with, by its name. -/
def callsTo (name : String) (calls : List (String × Event)) : List Event :=
  (calls.filter (fun c => c.1 == name)).map Prod.snd

/-- **The outward streams** of calls after notifications. -/
structure Projected (marker : String) (config : BridgeConfig) (messages : List Record)
    (calls : List (String × Event)) : Prop where
  /-- The calls are those of some events, each of which called every listener of its kind in
  the order of registration; the outward ones are as the notifications are shown. -/
  ordered : ∃ events : List Event, calls = events.flatMap config.callsOf ∧
    events.filter Event.isOutward = outward marker [] messages
  /-- So each listener was called once for every notification that is shown to its kind. -/
  each : (config.listeners.map (·.name)).Nodup → ∀ l ∈ config.listeners,
    l.kind = .console ∨ l.kind = .breakpoint →
      callsTo l.name calls = (outward marker [] messages).filter (fun e => l.kind == e.kind)

/-- An event calls a listener of its kind once, and no other. -/
theorem callsTo_callsOf {l : Listener} (e : Event) : ∀ {listeners : List Listener},
    (listeners.map (·.name)).Nodup → l ∈ listeners →
      callsTo l.name ((listeners.filter (fun l => l.kind == e.kind)).map (fun l => (l.name, e)))
        = [e].filter (fun e => l.kind == e.kind) := by
  intro listeners hnodup hl
  have hsame : (listeners.filter (fun l => l.kind == e.kind)).filter (fun l' => l'.name == l.name)
      = [l].filter (fun l => l.kind == e.kind) := by
    rw [List.filter_comm]
    congr 1
    -- Induction on the listeners: this one has its name, and no other has it.
    induction listeners with
    | nil => cases hl
    | cons first rest ih =>
      obtain ⟨hfirst, hrest⟩ := List.nodup_cons.mp hnodup
      have hother {l' : Listener} (hl' : l' ∈ rest) : first.name ≠ l'.name :=
        fun hname => hfirst (List.mem_map.mpr ⟨l', hl', hname.symm⟩)
      rcases List.mem_cons.mp hl with rfl | hin
      · rw [List.filter_cons, if_pos (beq_self_eq_true _), List.filter_eq_nil_iff.mpr]
        exact fun l' hl' => by simpa using (hother hl').symm
      · rw [List.filter_cons, if_neg (by simpa using hother hin)]
        exact ih hrest hin
  unfold callsTo
  rw [List.filter_map, List.map_map]
  show ((listeners.filter _).filter (fun l' => l'.name == l.name)).map (fun _ => e) = _
  rw [hsame, List.filter_singleton, List.filter_singleton]
  cases l.kind == e.kind <;> rfl

/-- The calls of events make outward streams. -/
theorem Projected.of_events {marker : String} {config : BridgeConfig} {messages : List Record}
    {events : List Event}
    (hout : events.filter Event.isOutward = outward marker [] messages) :
    Projected marker config messages (events.flatMap config.callsOf) where
  ordered := ⟨events, rfl, hout⟩
  each hnodup l hl hkind := by
    have hcalls : callsTo l.name (events.flatMap config.callsOf)
        = events.filter (fun e => l.kind == e.kind) := by
      clear hout
      induction events with
      | nil => rfl
      | cons e rest ih =>
        have hfirst : callsTo l.name (config.callsOf e) = [e].filter (fun e => l.kind == e.kind) :=
          callsTo_callsOf e hnodup hl
        have hsplit : callsTo l.name ((e :: rest).flatMap config.callsOf)
            = callsTo l.name (config.callsOf e)
              ++ callsTo l.name (rest.flatMap config.callsOf) := by
          unfold callsTo
          rw [List.flatMap_cons, List.filter_append, List.map_append]
        rw [hsplit, hfirst, ih, ← List.filter_append]
        rfl
    rw [hcalls, ← hout, List.filter_filter]
    refine List.filter_congr fun e _ => ?_
    -- what calls the listener is outward
    unfold Event.isOutward
    rcases hkind with hconsole | hbreakpoint
    · rw [hconsole]
      cases e <;> rfl
    · rw [hbreakpoint]
      cases e <;> rfl

/-- Any other notification is of the end of a pause or of an exception, or says nothing. -/
theorem Report.read_other {method : String} {params : Json} {report : Report}
    (hparsed : method ≠ "Debugger.scriptParsed") (hpaused : method ≠ "Debugger.paused")
    (hconsole : method ≠ "Runtime.consoleAPICalled") (h : Report.read method params = .ok report) :
    report = .other ∨ report = .resumed ∨ ∃ e, report = .thrown e := by
  unfold Report.read at h
  rw [if_neg hparsed, if_neg hpaused, if_neg hconsole] at h
  split_ifs at h with hresumed hthrown
  · cases h
    exact .inr (.inl rfl)
  · cases hdetails : params.get "exceptionDetails" with
    | error f => rw [hdetails] at h; cases h
    | ok details =>
      cases hread : Thrown.ofDetails details with
      | error f => simp [hdetails, hread, bind, Except.bind] at h
      | ok e =>
        simp only [hdetails, hread, bind, Except.bind] at h
        cases h
        exact .inr (.inr ⟨e, rfl⟩)
  · cases h
    exact .inl rfl

namespace Site

/-! ## §2. Calls of listeners. -/

section Calls

variable {ε : Type} {s s' s'' : Site ε} {es es' : List Event}

/-- Listeners were called with events, and these of them were outward; what the bridge knows of
scripts is as before. -/
structure Voices (es : List Event) (s s' : Site ε) : Prop where
  config : s'.bridge.config = s.bridge.config
  scripts : s'.bridge.tracker.scripts = s.bridge.tracker.scripts
  calls : ∃ events : List Event,
    s'.bridge.calls = s.bridge.calls ++ events.flatMap s.bridge.config.callsOf ∧
      events.filter Event.isOutward = es

namespace Voices

/-- Nobody was called. -/
theorem silence (hconfig : s'.bridge.config = s.bridge.config)
    (hscripts : s'.bridge.tracker.scripts = s.bridge.tracker.scripts)
    (hcalls : s'.bridge.calls = s.bridge.calls) : Voices [] s s' :=
  ⟨hconfig, hscripts, [], by rw [hcalls]; exact (List.append_nil _).symm, rfl⟩

theorem refl (s : Site ε) : Voices [] s s := .silence rfl rfl rfl

theorem trans (h : Voices es s s') (h' : Voices es' s' s'') : Voices (es ++ es') s s'' := by
  obtain ⟨events, hcalls, hout⟩ := h.calls
  obtain ⟨events', hcalls', hout'⟩ := h'.calls
  refine ⟨h'.config.trans h.config, h'.scripts.trans h.scripts, events ++ events', ?_, ?_⟩
  · rw [hcalls', hcalls, h.config, List.flatMap_append, List.append_assoc]
  · rw [List.filter_append, hout, hout']

/-- An event calls every listener of its kind. -/
theorem calling (s : Site ε) (e : Event) :
    Voices ([e].filter Event.isOutward) s (s.calling (s.bridge.config.callsOf e)) :=
  ⟨rfl, rfl, [e], by rw [List.flatMap_singleton]; rfl, rfl⟩

end Voices

/-- The action calls no listener with an outward event, and records no script. -/
def Mum {α : Type} (a : Act (Site ε) α) : Prop :=
  ∀ s : Site ε, s.bridge.config.Tame → Voices [] s (a.exec s).2

namespace Mum

variable {α β : Type}

theorem of_snd_eq {a : Act (Site ε) α} (h : ∀ s, (a.exec s).2 = s) : Mum a :=
  fun s _ => by rw [h s]; exact .refl s

theorem bind {a : Act (Site ε) α} {f : α → Act (Site ε) β} (ha : Mum a) (hf : ∀ x, Mum (f x)) :
    Mum (a >>= f) := by
  intro s htame
  have hfirst := ha s htame
  rw [Act.exec_bind]
  cases hr : a.exec s with
  | mk r s₁ =>
    rw [hr] at hfirst
    cases r with
    | error e => exact hfirst
    | ok x => exact hfirst.trans (hf x s₁ (by rw [hfirst.config]; exact htame))

/-- What follows a computation may rely on how it has ended. -/
theorem ofExcept_bind {r : Except Fault α} {f : α → Act (Site ε) β}
    (hf : ∀ x, r = .ok x → Mum (f x)) : Mum (Act.ofExcept r >>= f) := by
  intro s htame
  rw [exec_ofExcept_bind]
  cases r with
  | error e => exact .refl s
  | ok x => exact hf x rfl s htame

theorem look : Mum (look : Act (Site ε) Bridge) := .of_snd_eq fun _ => rfl

theorem attempt {a : Act (Site ε) α} (ha : Mum a) : Mum (Act.attempt a) := ha

theorem contained {a : Act (Site ε) Unit} (ha : Mum a) : Mum (Act.contained a) := by
  intro s htame
  rw [Act.exec_contained_snd]
  exact ha s htame

theorem update {f : Bridge → Bridge} (hconfig : ∀ b, (f b).config = b.config)
    (hscripts : ∀ b, (f b).tracker.scripts = b.tracker.scripts)
    (hcalls : ∀ b, (f b).calls = b.calls) : Mum (update f : Act (Site ε) Unit) :=
  fun s _ => .silence (hconfig s.bridge) (hscripts s.bridge) (hcalls s.bridge)

theorem emit {e : Event} (he : e.isOutward = false) : Mum (emit e : Act (Site ε) Unit) := by
  intro s htame
  rw [exec_emit_tame htame]
  have hcalled := Voices.calling s e
  rwa [List.filter_singleton, he] at hcalled

/-! Signals. -/

theorem publishException (e : Thrown) (table : Option BlockTable) :
    Mum (publishException e table : Act (Site ε) Unit) :=
  .bind .look fun _ => .bind (.of_snd_eq fun _ => rfl) fun _ => .emit rfl

theorem finishFetch (f : Fetch) (outcome : Outcome) :
    Mum (finishFetch f outcome : Act (Site ε) Unit) := by
  cases outcome with
  | error _ => exact .publishException _ _
  | ok result =>
    exact .bind .look fun _ => .bind (.of_snd_eq fun _ => rfl) fun _ =>
      .bind (.update (fun _ => rfl) (fun _ => rfl) fun _ => rfl) fun _ => .publishException _ _

theorem completeCommand (id : Nat) (outcome : Outcome) :
    Mum (completeCommand id outcome : Act (Site ε) Unit) := by
  refine .bind .look fun b => ?_
  cases b.fetches.find? (fun f => f.id == id) with
  | none => exact .of_snd_eq fun _ => rfl
  | some f =>
    exact .bind (.update (fun _ => rfl) (fun _ => rfl) fun _ => rfl) fun _ =>
      .finishFetch f outcome

/-- **No signal is shown**: neither the end of a command nor the loss of the connection. -/
theorem heed (signal : Signal) : Mum (heed signal : Act (Site ε) Unit) := by
  cases signal with
  | up => exact .of_snd_eq fun _ => rfl
  | down =>
    exact .bind (.update (fun _ => rfl) (fun _ => rfl) fun _ => rfl) fun _ =>
      .bind .look fun _ => .emit rfl
  | completed id outcome => exact .completeCommand id outcome

theorem heedAll (signals : List Signal) : Mum (heedAll signals : Act (Site ε) Unit) := by
  induction signals with
  | nil => exact .of_snd_eq fun _ => rfl
  | cons signal rest ih => exact .bind (.contained (.heed signal)) fun _ => ih

/-- No operation of the link is shown by itself. -/
theorem onLink (a : Act (Wire ε) α) : Mum (onLink a) := by
  refine .bind (fun s _ => ?_) fun r => .bind ?_ fun _ => .of_snd_eq fun _ => rfl
  · exact .silence rfl rfl rfl
  · exact .bind .look fun _ => .bind (.update (fun _ => rfl) (fun _ => rfl) fun _ => rfl) fun _ =>
      .heedAll _

/-! Notifications. -/

variable [Endpoint ε]

theorem resume : Mum (resume : Act (Site ε) Unit) :=
  .bind (.update (fun _ => rfl) (fun _ => rfl) fun _ => rfl) fun _ =>
    .bind (.onLink _) fun _ => .of_snd_eq fun _ => rfl

theorem onException (e : Thrown) : Mum (onException e : Act (Site ε) Unit) := by
  refine .bind .look fun b => .bind (.of_snd_eq fun _ => rfl) fun location => ?_
  split
  · exact .publishException _ _
  dsimp only
  split
  · exact .publishException _ _
  refine .bind (.attempt (.onLink _)) fun r => ?_
  cases r with
  | ok id => exact .update (fun _ => rfl) (fun _ => rfl) fun _ => rfl
  | error f =>
    dsimp only
    split
    · exact .publishException _ _
    · exact .of_snd_eq fun _ => rfl

/-- A notification that tells of no script, pause or console call. -/
theorem onMessage {message : Record} (hparsed : Message.method message ≠ "Debugger.scriptParsed")
    (hpaused : Message.method message ≠ "Debugger.paused")
    (hconsole : Message.method message ≠ "Runtime.consoleAPICalled") :
    Mum (onMessage message : Act (Site ε) Unit) := by
  refine .ofExcept_bind fun n hn => ?_
  rw [Message.ofFields_eq] at hn
  cases hread : Report.read (Message.method message) (Message.params message) with
  | error f => rw [hread] at hn; cases hn
  | ok report =>
    rw [hread] at hn
    cases hn
    unfold onNotification
    rcases Report.read_other hparsed hpaused hconsole hread with rfl | rfl | ⟨e, rfl⟩
    · exact .of_snd_eq fun _ => rfl
    · exact .update (fun _ => rfl) (fun _ => rfl) fun _ => rfl
    · exact .onException e

end Mum

/-! ## §3. Notifications. -/

variable [Endpoint ε] {marker : String} {config : BridgeConfig} {base : List (String × Event)}
  {messages history : List Record} {message params : Record}

/-- **A pause is shown exactly if it is in a flow script.** -/
theorem voices_onPause (htame : s.bridge.config.Tame)
    (hmarker : s.bridge.config.marker = .str marker)
    (hhistory : s.bridge.tracker.scripts = scriptsOf history) (hpause : IsPause message params)
    (hwell : PauseParams.WellFormed params) :
    Voices (Message.pauseEvent? marker history params).toList s ((onMessage message).exec s).2 := by
  unfold Message.pauseEvent? flowTop?
  cases hframes : PauseParams.frames params with
  | nil =>
    rw [hpause.exec_onMessage, hframes]
    exact Mum.resume s htame
  | cons frame rest =>
    have htop := hwell.top frame rest hframes
    rw [hpause.exec_onMessage_cons hmarker hhistory hframes htop, List.head?_cons]
    cases hflow : CallFrame.inFlow marker history frame with
    | false =>
      rw [Option.filter_some_neg (by simp [hflow])]
      exact Mum.resume s htame
    | true =>
      obtain ⟨url, hurl⟩ : ∃ url, CallFrame.url? history frame = some url := by
        unfold CallFrame.inFlow at hflow
        cases hurl : CallFrame.url? history frame with
        | none => rw [hurl] at hflow; cases hflow
        | some url => exact ⟨url, rfl⟩
      rw [Option.filter_some_pos hflow, Option.map_some, if_pos rfl, exec_enterPause htame,
        htop.ofFrame, Bridge.url_of_history hhistory, hurl]
      dsimp only
      rw [hwell.hitIds]
      obtain ⟨registry, hstaying, _⟩ :=
        s.bridge.staying_eq (CallFrame.kept frame) (PauseParams.hits params)
      -- the frame is kept in silence, then the listeners are called
      have hstays : Voices [] s
          (s.hearing (s.bridge.staying (CallFrame.kept frame) (PauseParams.hits params))) := by
        rw [hstaying]
        exact .silence rfl rfl rfl
      have hcalled := Voices.calling
        (s.hearing (s.bridge.staying (CallFrame.kept frame) (PauseParams.hits params)))
        (.breakpoint url (.int (CallFrame.number frame "lineNumber"))
          (CallFrame.scopes frame) frame)
      rw [show (s.hearing _).bridge.config = s.bridge.config from hstays.config] at hcalled
      exact hstays.trans hcalled

/-- **A console call is shown with its parameters as received.** -/
theorem voices_onConsole (htame : s.bridge.config.Tame)
    (hmethod : Message.method message = "Runtime.consoleAPICalled")
    (hparams : Message.params message = .obj params) (hwell : ConsoleParams.WellFormed params) :
    Voices [.console (ConsoleParams.call params) (.obj params)] s
      ((onMessage message).exec s).2 := by
  have hread : Notification.ofFields message = .ok
      { method := "Runtime.consoleAPICalled", params := .obj params
        report := .console (ConsoleParams.call params) } := by
    rw [Message.ofFields_eq, hmethod, hparams]
    show (Report.ofConsole params).map _ = _
    rw [hwell.ofConsole]
    rfl
  unfold onMessage
  rw [exec_ofExcept_bind, hread]
  show Voices _ s ((emit _).exec s).2
  rw [exec_emit_tame htame]
  exact Voices.calling s (.console (ConsoleParams.call params) (.obj params))

/-- The scripts that a bridge knows are those of the notifications, and its listeners were
called with the events that these are shown as, among others that are not outward. -/
structure Spoken (marker : String) (config : BridgeConfig) (base : List (String × Event))
    (messages : List Record) (s : Site ε) : Prop where
  configured : s.bridge.config = config
  scripts : s.bridge.tracker.scripts = scriptsOf (messages.flatMap Message.scripts)
  calls : ∃ events : List Event, s.bridge.calls = base ++ events.flatMap config.callsOf ∧
    events.filter Event.isOutward = outward marker [] messages

namespace Spoken

omit [Endpoint ε] in
theorem mum (h : Spoken marker config base messages s) (hvoices : Voices [] s s') :
    Spoken marker config base messages s' := by
  obtain ⟨events, hcalls, hout⟩ := h.calls
  obtain ⟨events', hcalls', hout'⟩ := hvoices.calls
  refine ⟨hvoices.config.trans h.configured, hvoices.scripts.trans h.scripts,
    events ++ events', ?_, ?_⟩
  · rw [hcalls', hcalls, h.configured, List.flatMap_append, List.append_assoc]
  · rw [List.filter_append, hout, hout', List.append_nil]

omit [Endpoint ε] in
/-- A notification is shown that is no report of a script. -/
theorem shown (h : Spoken marker config base messages s) (hvoices : Voices es s s')
    (hscripts : Message.scripts message = [])
    (hevent : (Message.event? marker (messages.flatMap Message.scripts) message).toList = es) :
    Spoken marker config base (messages ++ [message]) s' := by
  obtain ⟨events, hcalls, hout⟩ := h.calls
  obtain ⟨events', hcalls', hout'⟩ := hvoices.calls
  refine ⟨hvoices.config.trans h.configured, ?_, events ++ events', ?_, ?_⟩
  · rw [hvoices.scripts, h.scripts, List.flatMap_append, List.flatMap_singleton, hscripts,
      List.append_nil]
  · rw [hcalls', hcalls, h.configured, List.flatMap_append, List.append_assoc]
  · rw [List.filter_append, hout, hout', outward_concat, List.nil_append, hevent]

/-- **Every notification is shown as its event, or not at all.** -/
theorem onMessage (h : Spoken marker config base messages s) (htame : s.bridge.config.Tame)
    (hmarker : config.marker = .str marker) (hwell : Message.WellFormed message) :
    Spoken marker config base (messages ++ [message]) ((onMessage message).exec s).2 := by
  -- the report of a script alone is recorded, and calls nobody
  by_cases hparsed : Message.method message = "Debugger.scriptParsed"
  · have hevent (history : List Record) : Message.event? marker history message = none := by
      simp [Message.event?, hparsed]
    unfold Site.onMessage
    rw [exec_ofExcept_bind, Message.ofFields_eq, hparsed]
    cases hparams : Message.params message with
    | obj params =>
      have hscripts : Message.scripts message = [params] := by
        unfold Message.scripts
        rw [if_pos hparsed, hparams]
        rfl
      refine ⟨h.configured, ?_, ?_⟩
      · rw [List.flatMap_append, List.flatMap_singleton, hscripts, scriptsOf_concat, ← h.scripts]
        rfl
      · obtain ⟨events, hcalls, hout⟩ := h.calls
        exact ⟨events, hcalls, by rw [outward_concat, hevent, hout]; exact (List.append_nil _).symm⟩
    | _ =>
      refine h.shown (.refl s) ?_ (by rw [hevent]; rfl)
      unfold Message.scripts
      rw [if_pos hparsed, hparams]
      rfl
  have hscripts : Message.scripts message = [] := if_neg hparsed
  by_cases hpaused : Message.method message = "Debugger.paused"
  · obtain ⟨params, hparams, hpause⟩ := hwell.pause hpaused
    have hmarked : s.bridge.config.marker = .str marker := h.configured ▸ hmarker
    refine h.shown (voices_onPause htame hmarked h.scripts ⟨hpaused, hparams⟩ hpause) hscripts ?_
    unfold Message.event?
    rw [if_pos hpaused, hparams]
    rfl
  by_cases hconsole : Message.method message = "Runtime.consoleAPICalled"
  · obtain ⟨params, hparams, hcall⟩ := hwell.console hconsole
    refine h.shown (voices_onConsole htame hconsole hparams hcall) hscripts ?_
    unfold Message.event?
    rw [if_neg hpaused, if_pos hconsole, hparams]
    rfl
  · refine h.shown (Mum.onMessage hparsed hpaused hconsole s htame) hscripts ?_
    unfold Message.event?
    rw [if_neg hpaused, if_neg hconsole]
    rfl

end Spoken
end Calls
end Site

/-! ## §4. Notifications of a conversation. -/

/-- The notifications that were received, in order. -/
def notifications (xs : List Exchange) : List Record := xs.filterMap Exchange.notification?

theorem notifications_append (xs ys : List Exchange) :
    notifications (xs ++ ys) = notifications xs ++ notifications ys := List.filterMap_append

/-- An exchange that is no notification adds none. -/
theorem notifications_concat_other {x : Exchange} (xs : List Exchange)
    (h : x.notification? = none) : notifications (xs ++ [x]) = notifications xs := by
  have hnone : notifications [x] = [] := List.filterMap_cons_none h
  rw [notifications_append, hnone, List.append_nil]

namespace Wire

/-- The notification that was read, if one was. -/
def Poll.told : Poll → List Record
  | notification m => [m]
  | _ => []

variable {ε : Type} [Endpoint ε] {w w' : Wire (Recorded ε)}

/-- Reading a frame adds the notification that it is. -/
theorem Polled.told_eq {p : Poll} (h : Polled w p w') :
    notifications w'.conversation = notifications w.conversation ++ p.told := by
  have hread {k : Nat} {frame : Frame} (hframe : (w.network.receive k).1 = some frame) :
      (w.reading k).conversation = w.conversation ++ [.received k frame] := by
    show w.network.conversation ++ (w.network.receive k).1.toList.map (.received k) = _
    rw [hframe]
    rfl
  cases h with
  | idle => exact (List.append_nil _).symm
  | @nothing k hsocket hnone =>
    show notifications (w.network.conversation
      ++ (w.network.receive k).1.toList.map (.received k)) = _
    rw [hnone, notifications_append]
    rfl
  | ignored d hsocket hframe hno =>
    show notifications (w.reading _).conversation = _ ++ []
    rw [hread hframe, List.append_nil]
    exact notifications_concat_other _ (Exchange.notification?_none fun m hm => (hno m hm).1)
  | answered hsocket hframe hfields hresponse =>
    show notifications (w.reading _).conversation = _ ++ []
    rw [hread hframe, List.append_nil]
    refine notifications_concat_other _ (Exchange.notification?_none fun m hm => ?_)
    cases hfields.symm.trans hm
    exact hresponse.1
  | @notified k frame m hsocket hframe hfields hmethod =>
    rw [hread hframe, notifications_append]
    exact congrArg (notifications w.conversation ++ ·)
      (List.filterMap_cons_some (Exchange.notification?_some hfields hmethod))
  | @ended k frame hsocket hframe hno =>
    show notifications ((w.reading k).conversation ++ [.closed k _]) = _ ++ []
    rw [notifications_concat_other _ rfl, hread hframe, List.append_nil]
    refine notifications_concat_other _ (Exchange.notification?_none fun m hm => ?_)
    cases hno.symm.trans hm

/-- Sending is no reading. -/
theorem Posted.notifications_eq {awaited : Option Pending} {e : Envelope}
    {r : Except Fault Nat × Wire (Recorded ε)} (h : Posted awaited e w r) :
    notifications r.2.conversation = notifications w.conversation := by
  cases h with
  | refused m hno => rfl
  | put hsocket hopen => exact notifications_concat_other _ rfl
  | lost m hsocket hopen =>
    exact (notifications_concat_other _ rfl).trans (notifications_concat_other w.conversation rfl)

/-- Nor is connecting. -/
theorem Dialled.notifications_eq {r : Except Fault Unit × Wire (Recorded ε)} (h : Dialled w r) :
    notifications r.2.conversation = notifications w.conversation := by
  cases h with
  | already hsocket => rfl
  | shut m hsocket hshut => rfl
  | opened hsocket hopen hdial => exact notifications_concat_other w.conversation rfl
  | refused m hsocket hopen hdial => exact notifications_concat_other w.conversation rfl

/-- Nor is closing. -/
theorem notifications_close (hbare : w.link.Bare)
    (hclean : Uninterrupted (close.exec w).2.conversation) :
    notifications (close.exec w).2.conversation = notifications w.conversation := by
  cases hsocket : w.link.socket with
  | some k =>
    rw [exec_close_some hbare hsocket hclean]
    exact notifications_concat_other w.conversation rfl
  | none =>
    rw [exec_close_none hbare hsocket]
    rfl

end Wire

namespace Site

variable {ε : Type} [Endpoint ε] {s s' : Site (Recorded ε)} {marker : String}
  {config : BridgeConfig} {base : List (String × Event)} {before : List Record}

theorem notifications_posted {awaited : Option Pending} {e : Envelope}
    {a : Act (Wire (Recorded ε)) Nat} (hready : s.Ready)
    (hposted : Wire.Posted awaited e s.wire (a.exec s.wire)) :
    notifications ((onLink a).exec s).2.conversation = notifications s.conversation := by
  rw [conversation_onLink hready]
  exact hposted.notifications_eq

theorem notifications_submit (method params : Json) (hready : s.Ready)
    (hclean : Uninterrupted ((onLink (Wire.submit method params)).exec s).2.conversation) :
    notifications ((onLink (Wire.submit method params)).exec s).2.conversation
      = notifications s.conversation := by
  rw [conversation_onLink hready] at hclean
  exact notifications_posted hready
    (Wire.posted_submit (w := s.wire) method params hready.bare hclean)

theorem notifications_notify (method params : Json) (hready : s.Ready)
    (hclean : Uninterrupted ((onLink (Wire.notify method params)).exec s).2.conversation) :
    notifications ((onLink (Wire.notify method params)).exec s).2.conversation
      = notifications s.conversation := by
  rw [conversation_onLink hready] at hclean
  exact notifications_posted hready
    (Wire.posted_notify (w := s.wire) method params hready.bare hclean)

/-! Handling a notification reads no other one. -/

theorem notifications_pausing (told : List Record) :
    Pausing (fun s : Site (Recorded ε) => notifications s.conversation = told) where
  update _ _ _ h _ _ _ _ _ := h
  notify method params _ _ hready h hclean :=
    (notifications_notify method params hready hclean).trans h
  calling _ _ _ _ h := h

theorem notifications_onException (told : List Record) (e : Thrown) :
    Preserves (fun s : Site (Recorded ε) => notifications s.conversation = told)
      (onException e) := by
  -- to publish calls listeners and says nothing to the host
  have hpublish (table : Option BlockTable) :
      Preserves (fun s : Site (Recorded ε) => notifications s.conversation = told)
        (publishException e table) := by
    refine ⟨.setsAside (.publishException e table), fun s hready h _ => ?_⟩
    obtain ⟨-, haside⟩ := SetsAside.publishException e table s hready.tame
    refine ⟨hready.aside haside, ?_⟩
    unfold conversation
    rw [haside.network]
    exact h
  refine .bind (.of_snd_eq fun _ => rfl) fun b => .bind (.of_snd_eq fun _ => rfl) fun location => ?_
  split
  · exact hpublish _
  dsimp only
  split
  · exact hpublish _
  refine .bind (.attempt ⟨grows_submit _ _, fun s hready h hclean =>
    ⟨ready_submit hready hclean, (notifications_submit _ _ hready hclean).trans h⟩⟩) fun r => ?_
  cases r with
  | ok id => exact .update (fun _ => rfl) (fun _ => rfl) fun _ _ h => h
  | error f =>
    dsimp only
    split
    · exact hpublish _
    · exact .of_snd_eq fun _ => rfl

theorem notifications_onMessage {message : Record} (hready : s.Ready)
    (hclean : Uninterrupted ((onMessage message).exec s).2.conversation) :
    notifications ((onMessage message).exec s).2.conversation = notifications s.conversation :=
  (notifications_pausing _).onMessage hready (fun _ => rfl)
    (fun e _ hclean => ((notifications_onException _ e).keeps s hready rfl hclean).2) hclean

/-! ## §5. Runs. -/

/-- What was told since is shown, if it is well formed. -/
def SpokenSince (marker : String) (config : BridgeConfig) (base : List (String × Event))
    (before : List Record) (s : Site (Recorded ε)) : Prop :=
  ∃ messages, notifications s.conversation = before ++ messages ∧
    ((∀ m ∈ messages, Message.WellFormed m) → Spoken marker config base messages s)

namespace SpokenSince

omit [Endpoint ε] in
/-- Nothing is read, and nothing is shown. -/
theorem mum (h : SpokenSince marker config base before s)
    (hsaid : notifications s'.conversation = notifications s.conversation)
    (hvoices : Voices [] s s') : SpokenSince marker config base before s' := by
  obtain ⟨messages, hmessages, hspoken⟩ := h
  exact ⟨messages, hsaid.trans hmessages, fun hwell => (hspoken hwell).mum hvoices⟩

omit [Endpoint ε] in
theorem onLink {α : Type} {a : Act (Wire (Recorded ε)) α}
    (h : SpokenSince marker config base before s) (hready : s.Ready)
    (hsaid : notifications ((onLink a).exec s).2.conversation = notifications s.conversation) :
    SpokenSince marker config base before ((onLink a).exec s).2 :=
  h.mum hsaid (Mum.onLink a s hready.tame)

/-- **Reading what waits** shows what is told. -/
theorem pumpWith (hmarker : config.marker = .str marker) (burst : Nat) (s : Site (Recorded ε))
    (hready : s.Ready) (h : SpokenSince marker config base before s)
    (hclean : Uninterrupted
      ((FlowTrace.pumpWith (Site.onLink Wire.poll) onMessage burst).exec s).2.conversation) :
    SpokenSince marker config base before
      ((FlowTrace.pumpWith (Site.onLink Wire.poll) onMessage burst).exec s).2 := by
  -- between reading a notification and handling it, that one is told and not yet shown
  refine keeps_pumpWith (Q := fun m s => ∃ messages,
      notifications s.conversation = before ++ messages ++ [m] ∧
        ((∀ m ∈ messages, Message.WellFormed m) → Spoken marker config base messages s))
    (fun s hready h hclean => ?_) (fun m s hready h hclean => ?_) burst s hready h hclean
  · obtain ⟨p, s', w, hexec, hready', -, hpolled, hsaid⟩ := polled_onLink hready hclean
    have hvoices := Mum.onLink Wire.poll s hready.tame
    rw [hexec] at hvoices
    have htold : notifications s'.conversation = notifications s.conversation ++ p.told := by
      rw [hsaid]
      exact hpolled.told_eq
    obtain ⟨messages, hmessages, hspoken⟩ := h
    refine ⟨p, s', hexec, hready', ?_, fun hother => ?_⟩
    · rintro m rfl
      exact ⟨messages, by rw [htold, hmessages]; rfl, fun hwell => (hspoken hwell).mum hvoices⟩
    · refine mum ⟨messages, hmessages, hspoken⟩ ?_ hvoices
      cases p with
      | notification m => exact absurd rfl (hother m)
      | _ => exact htold.trans (List.append_nil _)
  · obtain ⟨messages, hmessages, hspoken⟩ := h
    refine ⟨messages ++ [m], ?_, fun hwell => ?_⟩
    · rw [notifications_onMessage hready hclean, hmessages, List.append_assoc]
    · rw [List.forall_mem_append, List.forall_mem_singleton] at hwell
      exact (hspoken hwell.1).onMessage hready.tame hmarker hwell.2

end SpokenSince

/-- **What was told is shown through every task but a start.** -/
theorem spoken_abiding (hmarker : config.marker = .str marker) :
    Abiding (SpokenSince (ε := ε) marker config base before) where
  pump s hready h hclean := by
    unfold pump at hclean ⊢
    rw [Act.exec_bind_ok (exec_look s)] at hclean ⊢
    exact .pumpWith hmarker _ s hready h hclean
  submit method params s _ hready h hclean :=
    h.onLink hready (notifications_submit method params hready hclean)
  notify method params s _ hready h hclean :=
    h.onLink hready (notifications_notify method params hready hclean)
  dropping _ _ s _ h _ _ := h.mum rfl (.silence rfl rfl rfl)
  left _ _ h := h.mum rfl (.silence rfl rfl rfl)
  registering _ _ _ h := h.mum rfl (.silence rfl rfl rfl)
  stirring _ _ _ h := h.mum rfl (.silence rfl rfl rfl)
  close s hready h hclean := by
    refine h.onLink hready ?_
    rw [conversation_onLink hready] at hclean ⊢
    exact Wire.notifications_close hready.bare hclean
  stopping _ _ h := h.mum rfl (.silence rfl rfl rfl)
  closing _ _ h := h.mum rfl (.silence rfl rfl rfl)

/-- **A start forgets the scripts**, and shows what is told from then on. -/
theorem spoken_start (hmarker : s.bridge.config.marker = .str marker) (hready : s.Ready)
    (hrunning : s.bridge.stopped = false)
    (hclean : Uninterrupted ((start : Act (Site (Recorded ε)) Unit).exec s).2.conversation) :
    SpokenSince marker s.bridge.config s.bridge.calls (notifications s.conversation)
      ((start : Act (Site (Recorded ε)) Unit).exec s).2 := by
  have hrenewed : s.renewed.Ready := ⟨hready.tame, hready.bare⟩
  have hbegin : SpokenSince marker s.bridge.config s.bridge.calls (notifications s.conversation)
      s.renewed :=
    ⟨[], (List.append_nil _).symm, fun _ => ⟨rfl, rfl, [], (List.append_nil _).symm, rfl⟩⟩
  rw [exec_start, if_neg (by rw [hrunning]; decide), exec_settlingOn] at hclean ⊢
  suffices hestablished : SpokenSince marker s.bridge.config s.bridge.calls
      (notifications s.conversation)
      ((establish : Act (Site (Recorded ε)) Unit).exec s.renewed).2 by
    exact hestablished.mum rfl (.silence rfl rfl rfl)
  change Uninterrupted ((establish : Act (Site (Recorded ε)) Unit).exec s.renewed).2.conversation
    at hclean
  rw [establish_eq] at hclean ⊢
  have hconnects : Preserves (SpokenSince marker s.bridge.config s.bridge.calls
      (notifications s.conversation)) (onLink Wire.connect : Act (Site (Recorded ε)) Unit) := by
    refine ⟨grows_connect, fun s hready h hclean => ⟨ready_connect hready hclean, ?_⟩⟩
    refine h.onLink hready ?_
    rw [conversation_onLink hready] at hclean ⊢
    exact (Wire.dialled_connect (w := s.wire) hclean).notifications_eq
  exact ((Preserves.bind hconnects fun _ => (spoken_abiding hmarker).enabling).keeps _ hrenewed
    hbegin hclean).2

/-- **WHAT IS SHOWN IS WHAT WAS TOLD**: the calls that a bridge has made since its last start
make the outward streams of the notifications since, if these are well formed. -/
theorem afterTasks_projected {config : BridgeConfig} (htame : config.Tame) {marker : String}
    (hmarker : config.marker = .str marker) (url : Json) (registry : BreakpointRegistry)
    (blocks : Option BlockTable) (host : ε) (before tasks : List (Task ε))
    (htasks : ∀ task ∈ tasks, task ≠ .start)
    (hrunning :
      ((fresh config url registry blocks host).afterTasks before).bridge.stopped = false)
    (hclean : Uninterrupted ((fresh config url registry blocks host).afterTasks
      (before ++ .start :: tasks)).conversation) :
    ∃ told,
      notifications ((fresh config url registry blocks host).afterTasks
          (before ++ .start :: tasks)).conversation
        = notifications ((fresh config url registry blocks host).afterTasks before).conversation
          ++ told ∧
      ((∀ m ∈ told, Message.WellFormed m) → ∃ calls,
        ((fresh config url registry blocks host).afterTasks
            (before ++ .start :: tasks)).bridge.calls
          = ((fresh config url registry blocks host).afterTasks before).bridge.calls ++ calls ∧
        Projected marker config told calls) := by
  have hspoken : SpokenSince marker config
      ((fresh config url registry blocks host).afterTasks before).bridge.calls
      (notifications ((fresh config url registry blocks host).afterTasks before).conversation)
      ((fresh config url registry blocks host).afterTasks (before ++ .start :: tasks)) := by
    -- the start is the moment from which on the calls are compared
    refine since_start htame hmarker url registry blocks host before tasks htasks hclean
      (spoken_abiding hmarker) fun s hs hready haccount hclean => ?_
    have hconfig : s.bridge.config = config := haccount.config
    rw [← hs] at hrunning ⊢
    rw [← hconfig] at hmarker ⊢
    exact spoken_start hmarker hready hrunning hclean
  obtain ⟨told, htold, hshown⟩ := hspoken
  refine ⟨told, htold, fun hwell => ?_⟩
  obtain ⟨events, hcalls, hout⟩ := (hshown hwell).calls
  exact ⟨_, hcalls, .of_events hout⟩

end Site
end FlowTrace
