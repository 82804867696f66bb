/-
  FlowTrace.Proofs.Bridge.Listeners
  ────────────────────────────────
  **NO LISTENER IS IN ANOTHER'S WAY.**

  What a listener raises stays with it.  So it makes no difference to anything else which
  of the listeners of a bridge return and which raise, nor when they are called: in reading,
  in the completion of a command, or as the connection is lost.  Let others stand in for
  any of them, and the bridge goes through the same states, calls the same listeners with
  the same events, and says the same.

  Every action is compared with itself on two sites that differ in their listeners only.
  Listeners are called in one place, so there the argument is made, and everywhere else it
  is carried along.
-/
import FlowTrace.Proofs.Bridge.Attribution
import FlowTrace.Proofs.Bridge.Outward
import FlowTrace.Proofs.Simulation

namespace FlowTrace

open Act

/-! ## §1. Listeners that stand in for others. -/

/-- A listener of the same kind and name, which does as it likes within a guard. -/
structure Listener.StandsIn (l' l : Listener) : Prop where
  kind : l'.kind = l.kind
  name : l'.name = l.name
  mild : ∀ e, Mild (l'.answer e)

/-- The listeners are tame, and others stand in for them. -/
structure Staffing (ls ls' : List Listener) : Prop where
  tame : ∀ l ∈ ls, ∀ e, Mild (l.answer e)
  stands : List.Forall₂ Listener.StandsIn ls' ls

namespace Staffing

variable {ls ls' : List Listener}

/-- Those that stand in are tame, too. -/
theorem tame' (h : Staffing ls ls') : ∀ l ∈ ls', ∀ e, Mild (l.answer e) := by
  obtain ⟨-, hstands⟩ := h
  induction hstands with
  | nil => exact nofun
  | cons hl _ ih => exact List.forall_mem_cons.mpr ⟨hl.mild, ih⟩

/-- Whoever stands in is called in the same place, and by the same name. -/
theorem names_eq (h : Staffing ls ls') (e : Event) :
    (ls'.filter (fun l => l.kind == e.kind)).map (fun l => (l.name, e))
      = (ls.filter (fun l => l.kind == e.kind)).map (fun l => (l.name, e)) := by
  obtain ⟨-, hstands⟩ := h
  induction hstands with
  | nil => rfl
  | cons hl _ ih =>
    rw [List.filter_cons, List.filter_cons, hl.kind]
    split
    · rw [List.map_cons, List.map_cons, hl.name, ih]
    · exact ih

end Staffing

/-- The bridge with other listeners. -/
def Bridge.staffed (b : Bridge) (ls : List Listener) : Bridge :=
  { b with config := { b.config with listeners := ls } }

/-- Where an exception has happened is no matter of listeners, nor is how it is described. -/
theorem Bridge.flowLocation_staffed (b : Bridge) (ls : List Listener) (e : Thrown) :
    (b.staffed ls).flowLocation e = b.flowLocation e := by
  unfold Bridge.flowLocation
  have hmarker : (b.staffed ls).config.marker = b.config.marker := rfl
  rw [flowFrame?_congr hmarker rfl]
  rfl

theorem Bridge.describe_staffed (b : Bridge) (ls : List Listener) (e : Thrown)
    (table : Option BlockTable) : (b.staffed ls).describe e table = b.describe e table := by
  unfold Bridge.describe
  rw [flowLocation_staffed]
  rfl

/-- The frame of a pause is noted at the same breakpoints. -/
theorem Bridge.recordHits_staffed (ls : List Listener) (frame : PausedFrame) (ids : List Json) :
    ∀ b : Bridge, (b.staffed ls).recordHits frame ids = (b.recordHits frame ids).staffed ls := by
  induction ids with
  | nil => exact fun _ => rfl
  | cons id rest ih =>
    intro b
    unfold recordHits
    rw [show (b.staffed ls).registry = b.registry from rfl]
    cases b.registry.indexOfId? id with
    | none => exact ih b
    | some i =>
      exact ih { b with
        registry := b.registry.modify i (fun bp =>
          { bp with hitFrame := some frame.frame, hitScopes := frame.scopeChain }) }

namespace Site

variable {ε : Type} {ls ls' : List Listener}

/-- The site with other listeners. -/
def staffed (s : Site ε) (ls : List Listener) : Site ε := { s with bridge := s.bridge.staffed ls }

/-- A site with its listeners, and with others. -/
structure Staffed (ls ls' : List Listener) (s s' : Site ε) : Prop where
  listeners : s.bridge.config.listeners = ls
  same : s' = s.staffed ls'

/-- The action does the same with other listeners, and ends in the same way. -/
structure Unmoved {α : Type} (ls ls' : List Listener) (a : Act (Site ε) α) : Prop where
  simulates : Simulates (Staffed ls ls') Eq a a

namespace Unmoved

variable {α β : Type}

theorem pure (x : α) : Unmoved ls ls' (Pure.pure x : Act (Site ε) α) := ⟨.pure rfl⟩

theorem throw (f : Fault) : Unmoved ls ls' (MonadExcept.throw f : Act (Site ε) α) := ⟨.throw f⟩

theorem ofExcept (r : Except Fault α) : Unmoved ls ls' (Act.ofExcept r : Act (Site ε) α) :=
  ⟨.ofExcept (.refl r)⟩

theorem bind {a : Act (Site ε) α} {f : α → Act (Site ε) β} (ha : Unmoved ls ls' a)
    (hf : ∀ x, Unmoved ls ls' (f x)) : Unmoved ls ls' (a >>= f) :=
  ⟨.bind_eq ha.simulates fun x => (hf x).simulates⟩

theorem ite {c : Prop} [Decidable c] {a a' : Act (Site ε) α} (ha : Unmoved ls ls' a)
    (ha' : Unmoved ls ls' a') : Unmoved ls ls' (if c then a else a') :=
  ⟨.ite (fun _ => ha.simulates) fun _ => ha'.simulates⟩

theorem contained {a : Act (Site ε) Unit} (ha : Unmoved ls ls' a) :
    Unmoved ls ls' (Act.contained a) := ⟨.contained ha.simulates⟩

theorem attempt_bind {a : Act (Site ε) α} {f : Except Fault α → Act (Site ε) β}
    (ha : Unmoved ls ls' a) (hf : ∀ r, Unmoved ls ls' (f r)) :
    Unmoved ls ls' (Act.attempt a >>= f) := by
  refine ⟨.bind (.attempt ha.simulates) fun r r' hr => ?_⟩
  obtain rfl := hr.eq
  exact (hf r).simulates

/-- A look at anything but the listeners. -/
theorem look_bind {f : Bridge → Act (Site ε) α} (hsame : ∀ b : Bridge, f (b.staffed ls') = f b)
    (hf : ∀ b, Unmoved ls ls' (f b)) : Unmoved ls ls' (look >>= f) := by
  constructor
  rintro s _ ⟨hlisteners, rfl⟩
  rw [exec_bind_ok (exec_look s), exec_bind_ok (exec_look _)]
  show Agree Eq _ ((f (s.bridge.staffed ls')).exec _).1 ∧ Staffed ls ls' _
    ((f (s.bridge.staffed ls')).exec _).2
  rw [hsame]
  exact (hf s.bridge).simulates s _ ⟨hlisteners, rfl⟩

/-- A change of anything but the configuration. -/
theorem update {f : Bridge → Bridge} (hconfig : ∀ b, (f b).config = b.config)
    (hsame : ∀ b : Bridge, f (b.staffed ls') = (f b).staffed ls') :
    Unmoved ls ls' (update f : Act (Site ε) Unit) := by
  constructor
  rintro s _ ⟨hlisteners, rfl⟩
  refine ⟨.ok rfl, (congrArg BridgeConfig.listeners (hconfig s.bridge)).trans hlisteners, ?_⟩
  show ({ s with bridge := f (s.bridge.staffed ls') } : Site ε) = _
  rw [hsame]
  rfl

/-- **The same listeners are called**, whatever any of them raises. -/
theorem emit (h : Staffing ls ls') (e : Event) :
    Unmoved ls ls' (emit e : Act (Site ε) Unit) := by
  constructor
  rintro s _ ⟨hlisteners, rfl⟩
  have htame : s.bridge.config.Tame := fun l hl => h.tame l (hlisteners ▸ hl)
  have htame' : (s.staffed ls').bridge.config.Tame := h.tame'
  have hcalls : (s.staffed ls').bridge.config.callsOf e = s.bridge.config.callsOf e := by
    unfold BridgeConfig.callsOf
    rw [hlisteners]
    exact h.names_eq e
  -- tame listeners leave nothing behind but that they were called, on either side
  rw [exec_emit_tame htame, exec_emit_tame htame', hcalls]
  exact ⟨.ok rfl, hlisteners, rfl⟩

/-! Signals. -/

theorem publishException (h : Staffing ls ls') (e : Thrown) (table : Option BlockTable) :
    Unmoved ls ls' (publishException e table : Act (Site ε) Unit) :=
  .look_bind (fun b => by rw [b.describe_staffed]) fun _ =>
    .bind (.ofExcept _) fun _ => .emit h _

theorem loseConnection (h : Staffing ls ls') :
    Unmoved ls ls' (loseConnection : Act (Site ε) Unit) :=
  .bind (.update (fun _ => rfl) fun _ => rfl) fun _ => .look_bind (fun _ => rfl) fun _ => .emit h _

theorem finishFetch (h : Staffing ls ls') (f : Fetch) (outcome : Outcome) :
    Unmoved ls ls' (finishFetch f outcome : Act (Site ε) Unit) := by
  cases outcome with
  | error _ => exact .publishException h _ _
  | ok result =>
    exact .look_bind (fun _ => rfl) fun _ => .bind (.ofExcept _) fun _ =>
      .bind (.update (fun _ => rfl) fun _ => rfl) fun _ => .publishException h _ _

theorem completeCommand (h : Staffing ls ls') (id : Nat) (outcome : Outcome) :
    Unmoved ls ls' (completeCommand id outcome : Act (Site ε) Unit) := by
  refine .look_bind (fun _ => rfl) fun b => ?_
  cases b.fetches.find? (fun f => f.id == id) with
  | none => exact .pure _
  | some f =>
    exact .bind (.update (fun _ => rfl) fun _ => rfl) fun _ => .finishFetch h f outcome

theorem heed (h : Staffing ls ls') (signal : Signal) :
    Unmoved ls ls' (heed signal : Act (Site ε) Unit) := by
  cases signal with
  | up => exact .pure _
  | down => exact .loseConnection h
  | completed id outcome => exact .completeCommand h id outcome

theorem heedAll (h : Staffing ls ls') (signals : List Signal) :
    Unmoved ls ls' (heedAll signals : Act (Site ε) Unit) := by
  induction signals with
  | nil => exact .pure _
  | cons signal rest ih => exact .bind (.contained (.heed h signal)) fun _ => ih

/-- The link knows of no listener. -/
theorem onLink (h : Staffing ls ls') (a : Act (Wire ε) α) : Unmoved ls ls' (onLink a) := by
  have hwithin : Unmoved ls ls' (Act.within
      (fun s : Site ε => ({ link := s.bridge.link, network := s.network } : Wire ε))
      (fun w s => { bridge := { s.bridge with link := w.link }, network := w.network }) a) := by
    refine ⟨.within (Q := Eq) ?_ ?_ ?_⟩
    · rintro w _ rfl
      exact ⟨.refl _, rfl⟩
    · rintro s _ ⟨-, rfl⟩
      rfl
    · rintro s _ w _ ⟨hlisteners, rfl⟩ rfl
      exact ⟨hlisteners, rfl⟩
  refine .attempt_bind hwithin fun r => .bind ?_ fun _ => .ofExcept r
  exact .look_bind (fun _ => rfl) fun _ => .bind (.update (fun _ => rfl) fun _ => rfl) fun _ =>
    .heedAll h _

/-! Notifications. -/

variable [Endpoint ε]

theorem running (h : Staffing ls ls') (method params : Json) : Unmoved ls ls' (do
    Site.update Bridge.leavePause
    let _ ← Site.onLink (Wire.notify method params) : Act (Site ε) Unit) :=
  .bind (.update (fun _ => rfl) fun _ => rfl) fun _ => .bind (.onLink h _) fun _ => .pure _

omit [Endpoint ε] in
theorem enterPause (h : Staffing ls ls') (url : String) (frame : Record) (params : Json) :
    Unmoved ls ls' (enterPause url frame params : Act (Site ε) Unit) := by
  refine .bind (.ofExcept _) fun paused => .bind (.update (fun _ => rfl) fun _ => rfl)
    fun _ => .bind (.ofExcept _) fun hits => .bind (.update (fun b => ?_) fun b => ?_)
    fun _ => .emit h _
  · obtain ⟨registry, hhits, _⟩ := Bridge.recordHits_eq paused hits b
    rw [hhits]
  · rw [Bridge.recordHits_staffed]
    rfl

theorem onPaused (h : Staffing ls ls') (frames : List Record) (params : Json) :
    Unmoved ls ls' (onPaused frames params : Act (Site ε) Unit) := by
  cases frames with
  | nil => exact .running h _ _
  | cons frame rest =>
    refine .bind (.ofExcept _) fun scriptId => .look_bind (fun _ => rfl) fun b =>
      .bind (.ofExcept _) fun flow => ?_
    exact .ite (.enterPause h _ _ _) (.running h _ _)

omit [Endpoint ε] in
theorem requested (h : Staffing ls ls') (scriptId : String) (e : Thrown) (r : Except Fault Nat) :
    Unmoved ls ls' (requested scriptId e r : Act (Site ε) Unit) := by
  cases r with
  | ok id =>
    unfold Site.requested
    exact .update (fun _ => rfl) fun _ => rfl
  | error f => exact .ite (.publishException h _ _) (.throw f)

theorem onException (h : Staffing ls ls') (e : Thrown) :
    Unmoved ls ls' (onException e : Act (Site ε) Unit) := by
  refine .look_bind (fun b => by rw [b.flowLocation_staffed]; rfl) fun b =>
    .bind (.ofExcept _) fun location => .ite (.publishException h _ _) ?_
  dsimp only
  cases Fields.get? b.tables location.scriptId.text with
  | some table => exact .publishException h _ _
  | none => exact .attempt_bind (.onLink h _) fun r => .requested h _ e r

theorem onMessage (h : Staffing ls ls') (message : Record) :
    Unmoved ls ls' (onMessage message : Act (Site ε) Unit) := by
  refine .bind (.ofExcept _) fun n => ?_
  unfold onNotification
  cases n.report with
  | other => exact .pure _
  | scriptParsed scriptId url => exact .update (fun _ => rfl) fun _ => rfl
  | paused frames reason => exact .onPaused h frames n.params
  | resumed => exact .update (fun _ => rfl) fun _ => rfl
  | thrown e => exact .onException h e
  | console c => exact .emit h _

theorem pumpWith (h : Staffing ls ls') (burst : Nat) : Unmoved ls ls'
    (FlowTrace.pumpWith (Site.onLink Wire.poll) Site.onMessage burst : Act (Site ε) Unit) := by
  -- Induction on the number of frames that may be read.
  induction burst with
  | zero => exact .pure _
  | succ burst ih =>
    rw [pumpWith_succ]
    refine .bind (.onLink h _) fun p => ?_
    cases p with
    | idle => exact .pure _
    | handled => exact ih
    | notification m => exact .bind (.contained (.onMessage h m)) fun _ => ih

theorem pump (h : Staffing ls ls') : Unmoved ls ls' (pump : Act (Site ε) Unit) :=
  .look_bind (fun _ => rfl) fun _ => .pumpWith h _

/-! ## §2. Operations. -/

theorem await (h : Staffing ls ls') (id : Nat) (method : Json) :
    Unmoved ls ls' (await id method : Act (Site ε) Json) :=
  .bind (.pump h) fun _ => .onLink h _

theorem command (h : Staffing ls ls') (method params : Json) :
    Unmoved ls ls' (command method params : Act (Site ε) Json) :=
  .bind (.onLink h _) fun id => .await h id method

omit [Endpoint ε] in
theorem registering {f : Bridge → BreakpointRegistry}
    (hsame : ∀ b : Bridge, f (b.staffed ls') = f b) :
    Unmoved ls ls' (Site.update (fun b => { b with registry := f b }) : Act (Site ε) Unit) :=
  .update (fun _ => rfl) fun b => by rw [hsame]; rfl

theorem submitArming (h : Staffing ls ls') (bps : List Breakpoint) :
    Unmoved ls ls' (submitArming bps : Act (Site ε) (List Nat)) := by
  induction bps with
  | nil => exact .pure _
  | cons bp rest ih => exact .bind (.onLink h _) fun _ => .bind ih fun _ => .pure _

omit [Endpoint ε] in
theorem armingReply (r : Except Fault Json) :
    Unmoved ls ls' (armingReply r : Act (Site ε) Json) := by
  unfold Site.armingReply
  split
  · exact .pure _
  · exact .pure _
  · exact .throw _

theorem awaitArming (h : Staffing ls ls') (ids : List Nat) :
    Unmoved ls ls' (awaitArming ids : Act (Site ε) (List Json)) := by
  induction ids with
  | nil => exact .pure _
  | cons id rest ih =>
    rw [awaitArming_cons]
    exact .attempt_bind (.await h id armMethod) fun r => .bind (.armingReply r) fun _ =>
      .bind ih fun _ => .pure _

omit [Endpoint ε] in
theorem assignIds (replies : List Json) :
    ∀ i, Unmoved ls ls' (assignIds i replies : Act (Site ε) Unit) := by
  induction replies with
  | nil => exact fun _ => .pure _
  | cons reply rest ih =>
    exact fun i => .bind (.ofExcept _) fun _ => .bind (.registering fun _ => rfl) fun _ =>
      ih (i + 1)

theorem armBreakpoints (h : Staffing ls ls') :
    Unmoved ls ls' (armBreakpoints : Act (Site ε) (List Breakpoint)) :=
  .look_bind (fun _ => rfl) fun _ => .bind (.submitArming h _) fun _ =>
    .bind (.awaitArming h _) fun _ => .bind (.assignIds _ _) fun _ =>
      .look_bind (fun _ => rfl) fun _ => .pure _

omit [Endpoint ε] in
theorem readingBack (i : Nat) :
    Unmoved ls ls' (readingBack i : Act (Site ε) (Option Breakpoint)) :=
  .look_bind (fun _ => rfl) fun _ => .pure _

theorem addBreakpoint (h : Staffing ls ls') (url line : Json) :
    Unmoved ls ls' (addBreakpoint url line : Act (Site ε) (Option Breakpoint)) := by
  rw [addBreakpoint_eq]
  refine .bind (.ofExcept _) fun n => .look_bind (fun _ => rfl) fun b =>
    .bind (.ofExcept _) fun added => .bind (.registering fun _ => rfl) fun _ => ?_
  cases added.1.items[added.2]? with
  | none => exact .pure _
  | some bp =>
    refine .look_bind (fun _ => rfl) fun b' => .ite ?_ (.readingBack _)
    exact .bind (.command h _ _) fun reply => .bind (.ofExcept _) fun id =>
      .bind (.registering fun _ => rfl) fun _ => .readingBack _

theorem removeBreakpoint (h : Staffing ls ls') (url line : Json) :
    Unmoved ls ls' (removeBreakpoint url line : Act (Site ε) Bool) := by
  have hforget (n : Int) : Unmoved ls ls' (forgetting url n : Act (Site ε) Bool) :=
    .look_bind (fun _ => rfl) fun _ => .bind (.ofExcept _) fun _ =>
      .bind (.registering fun _ => rfl) fun _ => .pure _
  rw [removeBreakpoint_eq]
  refine .bind (.ofExcept _) fun n => .look_bind (fun _ => rfl) fun b =>
    .bind (.ofExcept _) fun found => ?_
  cases found with
  | none => exact .pure _
  | some bp => exact .ite (.bind (.command h _ _) fun _ => hforget n) (hforget n)

theorem establish (h : Staffing ls ls') : Unmoved ls ls' (establish : Act (Site ε) Unit) :=
  .bind (.onLink h _) fun _ => .bind (.command h _ _) fun _ =>
    .bind (.command h _ _) fun _ => .bind (.armBreakpoints h) fun _ => .pure _

omit [Endpoint ε] in
/-- A bridge settles on how starting went. -/
theorem settlingOn (r : Except Fault Unit) :
    Unmoved ls ls' (settlingOn r : Act (Site ε) Unit) := by
  constructor
  rintro s _ ⟨hlisteners, rfl⟩
  rw [exec_settlingOn, exec_settlingOn]
  exact ⟨.refl _, hlisteners, rfl⟩

theorem start (h : Staffing ls ls') : Unmoved ls ls' (start : Act (Site ε) Unit) := by
  rw [start_eq]
  have hrest : Unmoved ls ls'
      (Site.update Bridge.renew >>= fun _ => Act.attempt Site.establish >>= Site.settlingOn
        : Act (Site ε) Unit) :=
    .bind (.update (fun _ => rfl) fun _ => rfl) fun _ =>
      .attempt_bind (.establish h) fun r => .settlingOn r
  exact .look_bind (fun _ => rfl) fun _ => .ite (.bind (.throw _) fun _ => hrest) hrest

theorem stop (h : Staffing ls ls') : Unmoved ls ls' (stop : Act (Site ε) Unit) :=
  .bind (.update (fun _ => rfl) fun _ => rfl) fun _ => .bind (.onLink h _) fun _ =>
    .update (fun _ => rfl) fun _ => rfl

theorem evaluate (h : Staffing ls ls') (expression : Json) :
    Unmoved ls ls' (evaluate expression : Act (Site ε) Json) :=
  .look_bind (fun _ => rfl) fun _ => .bind (.ofExcept _) fun _ => .command h _ _

theorem properties (h : Staffing ls ls') (objectId : Json) :
    Unmoved ls ls' (properties objectId : Act (Site ε) (List Json)) :=
  .bind (.command h _ _) fun _ => .ofExcept _

/-- **Every task does the same with other listeners.** -/
theorem act (h : Staffing ls ls') (task : Task ε) : Unmoved ls ls' task.act := by
  cases task with
  | start => exact .start h
  | stop => exact .stop h
  | resume => exact .running h _ _
  | stepOver => exact .running h _ _
  | evaluate expression => exact .bind (.evaluate h expression) fun _ => .pure _
  | properties objectId => exact .bind (.properties h objectId) fun _ => .pure _
  | add url line => exact .bind (.addBreakpoint h url line) fun _ => .pure _
  | remove url line => exact .bind (.removeBreakpoint h url line) fun _ => .pure _
  | arm => exact .bind (.armBreakpoints h) fun _ => .pure _
  | pump => exact .pump h
  | stir f =>
    constructor
    rintro s _ ⟨hlisteners, rfl⟩
    exact ⟨.ok rfl, hlisteners, rfl⟩

end Unmoved

/-! ## §3. Runs. -/

variable [Endpoint ε]

/-- **A run with other listeners is the same run.** -/
theorem afterTasks_staffed (h : Staffing ls ls') (tasks : List (Task ε)) :
    ∀ s : Site (Recorded ε), s.bridge.config.listeners = ls →
      (s.staffed ls').afterTasks tasks = (s.afterTasks tasks).staffed ls' := by
  -- Induction on the tasks, for all sites: each task ends in the same site, staffed again.
  induction tasks with
  | nil => exact fun _ _ => rfl
  | cons task rest ih =>
    intro s hlisteners
    obtain ⟨-, hlisteners', hsame⟩ := (Unmoved.act h task).simulates s _ ⟨hlisteners, rfl⟩
    show ((task.act.exec (s.staffed ls')).2).afterTasks rest = _
    rw [hsame]
    exact ih _ hlisteners'

/-- **WHAT IS SHOWN IS WHAT WAS TOLD, AND NO LISTENER IS IN ANOTHER'S WAY**: since its last start
a bridge has called its listeners for the notifications of its connection, in order, as long as
these are well formed; and whoever stands in for any of the listeners, and whatever they raise,
every run is the same but for the listeners themselves: the calls, the conversation, the
status, the frame and the tables. -/
theorem listeners_isolated {config : BridgeConfig} (htame : config.Tame) {marker : String}
    (hmarker : config.marker = .str marker) (url : Json) (registry : BreakpointRegistry)
    (blocks : Option BlockTable) (host : ε) :
    (∀ before tasks : List (Task ε), (∀ task ∈ tasks, task ≠ .start) →
      ((fresh config url registry blocks host).afterTasks before).bridge.stopped = false →
      Uninterrupted ((fresh config url registry blocks host).afterTasks
        (before ++ .start :: tasks)).conversation →
      ∃ told,
        notifications ((fresh config url registry blocks host).afterTasks
            (before ++ .start :: tasks)).conversation
          = notifications ((fresh config url registry blocks host).afterTasks before).conversation
            ++ told ∧
        ((∀ m ∈ told, Message.WellFormed m) → ∃ calls,
          ((fresh config url registry blocks host).afterTasks
              (before ++ .start :: tasks)).bridge.calls
            = ((fresh config url registry blocks host).afterTasks before).bridge.calls ++ calls ∧
          Projected marker config told calls)) ∧
    ∀ others, List.Forall₂ Listener.StandsIn others config.listeners → ∀ tasks : List (Task ε),
      (fresh { config with listeners := others } url registry blocks host).afterTasks tasks
        = ((fresh config url registry blocks host).afterTasks tasks).staffed others :=
  ⟨fun before tasks htasks hrunning hclean =>
    afterTasks_projected htame hmarker url registry blocks host before tasks htasks hrunning hclean,
    fun _ hstands tasks =>
      afterTasks_staffed ⟨htame, hstands⟩ tasks (fresh config url registry blocks host) rfl⟩

/-! ## §4. A run with listeners that raise. -/

/-- Two listeners for the console and two for pauses; the first of each kind raises. -/
def crowd : BridgeConfig where
  listeners :=
    [{ kind := .console, name := "a", answer := fun _ => .error .callback },
      { kind := .breakpoint, name := "b", answer := fun _ => .error .badKind },
      { kind := .console, name := "c" }, { kind := .breakpoint, name := "d" }]

/-- The same listeners, of which all raise. -/
def unruly : List Listener :=
  crowd.listeners.map (fun l => { l with answer := fun _ => .error .callback })

/-- What a host says of a console call. -/
def consoleMessage (text : String) : Record :=
  [("method", "Runtime.consoleAPICalled"),
    ("params", .obj [("type", "log"), ("executionContextId", .int 1), ("timestamp", .int 5),
      ("args", .arr [.obj [("value", .str text)]])])]

/-- A console call, a frame that is no object, a pause in no script, the report of a script,
a pause there, a notification that nobody knows, and a console call again. -/
def chatter : List Json :=
  [.obj (consoleMessage "one"), .arr [], .obj pauseMessage,
    .obj [("method", "Debugger.scriptParsed"), ("params", .obj (parsedParams "lib/flow.js"))],
    .obj pauseMessage, .obj [("method", "Network.dataReceived")], .obj (consoleMessage "two")]

/-- The bridge is started, and all of this is read. -/
def crowded : Site (Recorded RehearsedHost) :=
  (fresh crowd "ws" {} none {}).afterTasks ([] ++ .start ::
    [.stir (fun h => h.enqueue 0 (chatter.map .message)), .pump])

/-- Every notification of the run is well formed. -/
theorem wellFormed_crowded : ∀ m ∈ notifications crowded.conversation, Message.WellFormed m := by
  have htold : notifications crowded.conversation =
      [consoleMessage "one", pauseMessage,
        [("method", "Debugger.scriptParsed"), ("params", .obj (parsedParams "lib/flow.js"))],
        pauseMessage, [("method", "Network.dataReceived")], consoleMessage "two"] := rfl
  have hpause : Message.WellFormed pauseMessage :=
    ⟨fun _ => ⟨pauseParams, rfl, wellFormed_pauseParams⟩, fun h => absurd h (by decide)⟩
  have hconsole (text : String) : Message.WellFormed (consoleMessage text) := by
    have hmethod : Message.method (consoleMessage text) = "Runtime.consoleAPICalled" := rfl
    refine ⟨fun h => absurd (hmethod.symm.trans h) (by decide), fun _ => ?_⟩
    exact ⟨_, rfl, .inr ⟨1, rfl⟩, .inr (.inr ⟨5, _, rfl, rfl⟩)⟩
  intro m hm
  rw [htold] at hm
  simp only [List.mem_cons, List.not_mem_nil, or_false] at hm
  rcases hm with rfl | rfl | rfl | rfl | rfl | rfl
  · exact hconsole "one"
  · exact hpause
  · exact ⟨fun h => absurd h (by decide), fun h => absurd h (by decide)⟩
  · exact hpause
  · exact ⟨fun h => absurd h (by decide), fun h => absurd h (by decide)⟩
  · exact hconsole "two"

theorem listeners_isolated_crowded :
    crowd.Tame ∧ crowd.marker = .str "flow.js" ∧ Uninterrupted crowded.conversation ∧
      (∀ m ∈ notifications crowded.conversation, Message.WellFormed m) ∧
      crowded.bridge.calls.map (fun c => (c.1, c.2.kind)) =
        [("a", .console), ("c", .console), ("b", .breakpoint), ("d", .breakpoint),
          ("a", .console), ("c", .console)] ∧
      (∃ calls, crowded.bridge.calls = [] ++ calls ∧
        Projected "flow.js" crowd (notifications crowded.conversation) calls) ∧
      ∀ tasks : List (Task RehearsedHost),
        (fresh { crowd with listeners := unruly } "ws" {} none {}).afterTasks tasks
          = ((fresh crowd "ws" {} none {}).afterTasks tasks).staffed unruly := by
  have htame : crowd.Tame := by
    intro l hl e
    simp only [crowd, List.mem_cons, List.not_mem_nil, or_false] at hl
    rcases hl with rfl | rfl | rfl | rfl
    · exact .error rfl
    · exact .error rfl
    · exact .ok ()
    · exact .ok ()
  have hclean : Uninterrupted crowded.conversation := by decide +kernel
  have hstands : List.Forall₂ Listener.StandsIn unruly crowd.listeners := by
    refine List.forall₂_map_left_iff.mpr (List.forall₂_same.mpr fun l _ => ?_)
    exact ⟨rfl, rfl, fun _ => .error rfl⟩
  obtain ⟨hprojected, hsame⟩ :=
    listeners_isolated htame rfl "ws" {} none ({} : RehearsedHost)
  obtain ⟨told, htold, hshown⟩ := hprojected [] _ (by simp) rfl hclean
  obtain rfl : notifications crowded.conversation = told := htold
  exact ⟨htame, rfl, hclean, wellFormed_crowded, rfl, hshown wellFormed_crowded,
    hsame unruly hstands⟩

end Site
end FlowTrace
