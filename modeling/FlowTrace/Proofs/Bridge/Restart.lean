/-
  FlowTrace.Proofs.Bridge.Restart
  ────────────────────────────────
  **A RESTARTED BRIDGE IS LIKE A NEW ONE.**

  A bridge whose connection has gone down is started again.  From there on it does what
  a bridge does that was just made for the same places: it answers the same, goes through
  the same states, tells its listeners the same, and sends the same commands, under
  numbers that go on from those of the old connection.

      restarted   — start, then anything:   n + d, n + d + 1, …
      new         — start, then the same:   n,     n + 1,     …

  One thing is left of the old connection.  The registry outlives it, and a breakpoint
  keeps the frame and the scopes of its last hit until it is hit again.
-/
import FlowTrace.Proofs.Bridge.Attentive
import FlowTrace.Proofs.Bridge.Mirror

namespace FlowTrace

open Act

/-! ## §1. Requests. -/

/-- What a debugger answers to a request. -/
inductive Answer where
  | done
  | flag (b : Bool)
  | value (v : Json)
  | values (vs : List Json)
  | breakpoint (bp : Option Breakpoint)
  | breakpoints (bps : List Breakpoint)
  | report (r : ExceptionReport)

/-- The answers are the same, but for the last hits of breakpoints on an old connection. -/
inductive Answer.Renews (old : List Breakpoint) : Answer → Answer → Prop
  | same (a : Answer) : Renews old a a
  | breakpoint {bp bp' : Option Breakpoint} (h : Option.Rel (Breakpoint.Renews old) bp bp') :
      Renews old (.breakpoint bp) (.breakpoint bp')
  | breakpoints {bps bps' : List Breakpoint} (h : List.Forall₂ (Breakpoint.Renews old) bps bps') :
      Renews old (.breakpoints bps) (.breakpoints bps')

/-- What a debugger can be asked, and what its host may do by itself. -/
inductive Site.Request (ε : Type) where
  | start
  | stop
  | resume
  | stepOver
  | evaluate (expression : Json)
  | properties (objectId : Json)
  | add (url line : Json)
  | remove (url line : Json)
  | arm
  | setBlocks (table : Option BlockTable)
  | isFlow (url : Json)
  | describe (e : Thrown)
  /-- The link is read. -/
  | pump
  /-- The host does something by itself. -/
  | stir (f : ε → ε)

namespace Site.Request

variable {ε : Type}

/-- Ask, and take the answer. -/
def ask [Endpoint ε] : Request ε → Act (Site (Recorded ε)) Answer
  | start => do
      Site.start
      return .done
  | stop => do
      Site.stop
      return .done
  | resume => do
      Site.resume
      return .done
  | stepOver => do
      Site.stepOver
      return .done
  | evaluate expression => do return .value (← Site.evaluate expression)
  | properties objectId => do return .values (← Site.properties objectId)
  | add url line => do return .breakpoint (← Site.addBreakpoint url line)
  | remove url line => do return .flag (← Site.removeBreakpoint url line)
  | arm => do return .breakpoints (← Site.armBreakpoints)
  | setBlocks table => do
      Site.update (fun b => { b with blocks := table })
      return .done
  | isFlow url => do
      let b ← Site.look
      return .flag (← Act.ofExcept (b.isFlowScript url))
  | describe e => do
      let b ← Site.look
      return .report (← Act.ofExcept (b.describe e none))
  | pump => do
      Site.pump
      return .done
  | stir f => do
      modify (fun s =>
        { s with network := { s.network with endpoint := s.network.endpoint.stir f } })
      return .done

/-- The request where the host is talked to through a relay: what the host does by itself, the
host behind the relay does. -/
def relayed : Request ε → Request (Relay ε)
  | start => start
  | stop => stop
  | resume => resume
  | stepOver => stepOver
  | evaluate expression => evaluate expression
  | properties objectId => properties objectId
  | add url line => add url line
  | remove url line => remove url line
  | arm => arm
  | setBlocks table => setBlocks table
  | isFlow url => isFlow url
  | describe e => describe e
  | pump => pump
  | stir f => stir (fun r => r.turned (f r.host))

variable [Endpoint ε] {past : Bridge.Past}

/-- **Every request keeps the bridges in step**, a stop if it is no surprise. -/
theorem inStep (r : Request ε) (hstop : r = .stop → past.closed) :
    Site.InStep past (BehindRelay past.shift) (Answer.Renews past.breakpoints) r.ask
      r.relayed.ask := by
  have hrelays : Relays past.shift (BehindRelay (ε := ε) past.shift) := relays_behindRelay _
  cases r with
  | start => exact .bind_eq (Site.inStep_start hrelays) fun _ => .pure (.same _)
  | stop => exact .bind_eq (Site.inStep_stop hrelays (hstop rfl)) fun _ => .pure (.same _)
  | resume => exact .bind_eq (Site.inStep_running hrelays _ _) fun _ => .pure (.same _)
  | stepOver => exact .bind_eq (Site.inStep_running hrelays _ _) fun _ => .pure (.same _)
  | evaluate expression =>
    exact .bind_eq (Site.inStep_evaluate hrelays expression) fun _ => .pure (.same _)
  | properties objectId =>
    exact .bind_eq (Site.inStep_properties hrelays objectId) fun _ => .pure (.same _)
  | add url line =>
    exact .bind (Site.inStep_addBreakpoint hrelays url line) fun _ _ hbp => .pure (.breakpoint hbp)
  | remove url line =>
    exact .bind_eq (Site.inStep_removeBreakpoint hrelays url line) fun _ => .pure (.same _)
  | arm =>
    exact .bind (Site.inStep_armBreakpoints hrelays) fun _ _ hbps => .pure (.breakpoints hbps)
  | setBlocks table =>
    exact .bind_eq (Site.inStep_update fun _ _ h => { h with blocks := rfl }) fun _ =>
      .pure (.same _)
  | isFlow url =>
    refine .bind Site.inStep_look fun b b' hb => ?_
    exact .bind_eq (.ofExcept (.of_eq (hb.isFlowScript url))) fun _ => .pure (.same _)
  | describe e =>
    refine .bind Site.inStep_look fun b b' hb => ?_
    exact .bind_eq (.ofExcept (.of_eq (hb.describe e none))) fun _ => .pure (.same _)
  | pump => exact .bind_eq (Site.inStep_pump hrelays) fun _ => .pure (.same _)
  | stir f =>
    -- what is behind the relay is the same host, and so it does the same
    intro s s' h
    refine ⟨.ok (.same _), h.bridge, ?_, h.log⟩
    show s'.network.endpoint.host.turned _ = Relay.mk past.shift (f s.network.endpoint.host)
    rw [show s'.network.endpoint.host = _ from h.host]
    rfl

end Site.Request

/-! ## §2. Runs. -/

namespace Site

variable {ε : Type} [Endpoint ε]

/-- What comes of requests, one after the other: every answer, and the site after it. -/
def trace (s : Site (Recorded ε)) :
    List (Request ε) → List (Except Fault Answer × Site (Recorded ε))
  | [] => []
  | r :: rest => r.ask.exec s :: trace (r.ask.exec s).2 rest

/-- The site after requests, however each of them ends. -/
def afterRequests (s : Site (Recorded ε)) : List (Request ε) → Site (Recorded ε)
  | [] => s
  | r :: rest => afterRequests (r.ask.exec s).2 rest

variable {past : Bridge.Past} {s : Site (Recorded ε)} {s' : Site (Recorded (Relay ε))}

/-- Bridges in step stay in step through every run. -/
theorem Mirrors.afterRequests (rs : List (Request ε)) :
    ∀ {s : Site (Recorded ε)} {s' : Site (Recorded (Relay ε))}, (∀ r ∈ rs, r ≠ .stop) →
      s.Mirrors past (BehindRelay past.shift) s' →
        (s.afterRequests rs).Mirrors past (BehindRelay past.shift)
          (s'.afterRequests (rs.map Request.relayed)) := by
  induction rs with
  | nil => exact fun _ h => h
  | cons r rest ih =>
    intro s s' hrs h
    have hr : r = .stop → past.closed := fun hstop => absurd hstop (hrs r (List.mem_cons_self ..))
    exact ih (fun q hq => hrs q (List.mem_cons_of_mem r hq)) (r.inStep hr s s' h).2

/-- Every answer is the same, and after it the bridges are still in step. -/
theorem Mirrors.trace (hclosed : past.closed) (rs : List (Request ε)) :
    ∀ {s : Site (Recorded ε)} {s' : Site (Recorded (Relay ε))},
      s.Mirrors past (BehindRelay past.shift) s' →
        List.Forall₂ (fun x x' => Agree (Answer.Renews past.breakpoints) x.1 x'.1 ∧
            x.2.Mirrors past (BehindRelay past.shift) x'.2)
          (s.trace rs) (s'.trace (rs.map Request.relayed)) := by
  induction rs with
  | nil => exact fun _ => .nil
  | cons r rest ih =>
    intro s s' h
    have hstep := r.inStep (fun _ => hclosed) s s' h
    exact .cons hstep (ih hstep.2)

/-! ## §3. Behind a relay that shifts nothing. -/

/-- What is behind a bridge that was just made: nothing. -/
def noPast : Bridge.Past where
  shift := 0
  outcomes := []
  log := []
  bounded := nofun
  given := 0
  closed := False
  fetches := []
  asked := nofun
  calls := []
  breakpoints := []

omit [Endpoint ε] in
/-- A bridge that was just made is in step with one behind a relay. -/
theorem mirrors_fresh (config : BridgeConfig) (url : Json) (registry : BreakpointRegistry)
    (blocks : Option BlockTable) (host : ε) :
    (fresh config url registry blocks host).Mirrors noPast (BehindRelay 0)
      (fresh config url registry blocks ({ shift := 0, host := host } : Relay ε)) where
  bridge :=
    { config := rfl
      link :=
        { url := rfl, status := Iff.rfl, shutdown := rfl, nextId := rfl, socket := rfl
          deaf := fun _ => rfl, pending := rfl, outcomes := rfl, signals := rfl
          plans := ⟨rfl, rfl⟩, first := Nat.one_pos, given := Nat.zero_le _, counted := nofun
          ended := nofun, told := nofun, closed := nofun }
      registry := List.forall₂_same.mpr fun bp _ => .refl bp
      tracker := rfl, status := rfl, stopped := rfl, blocks := rfl, tables := rfl, fetches := rfl
      calls := rfl, awaited := nofun, silent := rfl, closed := nofun }
  host := rfl
  log := rfl

/-- What a run keeps, as long as the bridge is not stopped. -/
structure Grounded (s : Site (Recorded ε)) : Prop where
  first : 0 < s.bridge.link.nextId
  ended : ∀ o ∈ s.bridge.link.outcomes, o.1 < s.bridge.link.nextId
  awaited : ∀ f ∈ s.bridge.fetches, f.id < s.bridge.link.nextId
  plans : s.bridge.link.downPlans = []
  silent : s.bridge.link.signals = []
  unshut : s.bridge.link.shutdown = false
  running : s.bridge.stopped = false

/-- **Every run that does not stop the bridge leaves it so.**  It is read off the bridge behind
a relay that shifts nothing. -/
theorem grounded_afterRequests (config : BridgeConfig) (url : Json) (registry : BreakpointRegistry)
    (blocks : Option BlockTable) (host : ε) {rs : List (Request ε)} (hrs : ∀ r ∈ rs, r ≠ .stop) :
    ((fresh config url registry blocks host).afterRequests rs).Grounded := by
  have h := (mirrors_fresh config url registry blocks host).afterRequests rs hrs
  generalize (fresh config url registry blocks host).afterRequests rs = s at h ⊢
  obtain ⟨h, _, _⟩ := h
  have hnext : s.bridge.link.nextId = _ := h.link.nextId
  -- without a past nothing can have been closed in it
  have hnot : ∀ x : Bool, (x = true → noPast.closed) → x = false := by
    intro x hx
    cases x with
    | false => rfl
    | true => exact (hx rfl).elim
  exact
    { first := by
        rw [hnext]
        exact h.link.first
      ended := by
        intro o ho
        rw [h.link.outcomes] at ho
        obtain ⟨o', ho', rfl⟩ := List.mem_map.mp ho
        rw [hnext]
        exact h.link.ended o' ho'
      awaited := by
        intro f hf
        rw [h.fetches] at hf
        obtain ⟨f', hf', rfl⟩ := List.mem_map.mp hf
        rw [hnext]
        exact h.awaited f' hf'
      plans := h.link.plans.1
      silent := by
        rw [h.link.signals, h.silent]
        rfl
      unshut := h.link.shutdown.trans (hnot _ h.link.closed)
      running := h.stopped.trans (hnot _ h.closed) }

end Site

/-! ## §4. Starting again. -/

/-- The connection has gone down: there is none, and no command waits on it. -/
structure Link.Lost (l : Link) : Prop where
  status : l.status ≠ .connected
  socket : l.socket = none
  pending : l.pending = []

namespace Site

variable {ε : Type} [Endpoint ε] {s : Site (Recorded ε)}

/-- A new bridge with the listeners, the block table and the wanted places of an older one.  It
talks to the same host, through a relay that makes good for the commands of the older one. -/
def anew (s : Site (Recorded ε)) : Site (Recorded (Relay ε)) :=
  fresh s.bridge.config s.bridge.link.url s.bridge.registry.unarmed s.bridge.blocks
    { shift := s.bridge.link.nextId - 1, host := s.network.endpoint.host }

/-- What a bridge has behind it that is started again. -/
def past (s : Site (Recorded ε)) (h : s.Grounded) : Bridge.Past where
  shift := s.bridge.link.nextId - 1
  outcomes := s.bridge.link.outcomes
  log := s.network.log
  bounded o ho := Nat.le_sub_one_of_lt (h.ended o ho)
  given := 0
  closed := True
  fetches := s.bridge.fetches
  asked f hf := Nat.le_sub_one_of_lt (h.awaited f hf)
  calls := s.bridge.calls
  breakpoints := s.bridge.registry.items

omit [Endpoint ε] in
/-- As a new connection finds them, the two bridges are in step. -/
theorem mirrors_renewed (h : s.Grounded) (hlost : s.bridge.link.Lost) :
    s.renewed.Mirrors (s.past h) (BehindRelay (s.bridge.link.nextId - 1)) s.anew.renewed where
  bridge :=
    { config := rfl
      link :=
        { url := rfl
          status := ⟨fun hon => absurd hon hlost.status, nofun⟩
          shutdown := h.unshut
          nextId := (Nat.add_sub_cancel' h.first).symm
          socket := hlost.socket
          deaf := nofun
          pending := hlost.pending
          outcomes := (List.append_nil _).symm
          signals := h.silent
          plans := ⟨h.plans, rfl⟩
          first := Nat.one_pos, given := Nat.zero_le _, counted := nofun, ended := nofun
          told := nofun, closed := fun _ => trivial }
      registry := by
        show s.bridge.registry.clearIds.Renews _ s.bridge.registry.unarmed.clearIds
        rw [BreakpointRegistry.clearIds_unarmed]
        exact s.bridge.registry.renews_clearIds
      tracker := rfl, status := rfl, stopped := h.running, blocks := rfl, tables := rfl
      fetches := (List.append_nil _).symm
      calls := (List.append_nil _).symm
      awaited := nofun, silent := rfl, closed := fun _ => trivial }
  host := rfl
  log := (List.append_nil _).symm

/-- A bridge on its new connection shows the same as a new bridge, but for what was there when it
was started again: its numbers go on, and breakpoints keep their last hits. -/
structure Alike (before s : Site (Recorded ε)) (s' : Site (Recorded (Relay ε))) : Prop where
  status : s.bridge.status = s'.bridge.status
  /-- The scripts that were told of, and the paused frame. -/
  tracker : s.bridge.tracker = s'.bridge.tracker
  breakpoints : s.bridge.registry.Renews before.bridge.registry.items s'.bridge.registry
  told : s.bridge.calls = before.bridge.calls ++ s'.bridge.calls
  sent : s.network.log
    = before.network.log ++ s'.network.log.map (Traffic.raise (before.bridge.link.nextId - 1))

omit [Endpoint ε] in
theorem Mirrors.alike {before : Site (Recorded ε)} {h : before.Grounded}
    {s' : Site (Recorded (Relay ε))}
    (hs : s.Mirrors (before.past h) (BehindRelay (before.past h).shift) s') : before.Alike s s' :=
  ⟨hs.bridge.status, hs.bridge.tracker, hs.bridge.registry, hs.bridge.calls, hs.log⟩

/-- What is done on a new connection, and what comes of it. -/
def settling {ε : Type} [Endpoint ε] : Act (Site ε) Answer := do
  Act.attempt establish >>= settlingOn
  return .done

/-- A start is what is done on the new connection, once the bridge is renewed for it. -/
theorem exec_ask_start {ε : Type} [Endpoint ε] {s : Site (Recorded ε)}
    (hrunning : s.bridge.stopped = false) :
    Request.start.ask.exec s = settling.exec s.renewed := by
  have hstart : start.exec s = (Act.attempt establish >>= settlingOn).exec s.renewed := by
    rw [start_eq, exec_bind_ok (exec_look s), if_neg (by simp [hrunning]),
      exec_bind_ok (exec_update _ s)]
    rfl
  show (start >>= fun _ => pure Answer.done).exec s = _
  unfold settling
  rw [exec_bind, exec_bind, hstart]

/-- **A restarted bridge is like a new one.**  A bridge was not stopped, and its connection has
gone down.  Started again, and asked whatever comes next, it answers as a new bridge does at the
same host, and shows the same after every answer. -/
theorem restart_anew (config : BridgeConfig) (url : Json) (registry : BreakpointRegistry)
    (blocks : Option BlockTable) (host : ε) (before after : List (Request ε))
    (hrunning : ∀ r ∈ before, r ≠ .stop)
    (hs : s = (fresh config url registry blocks host).afterRequests before)
    (hlost : s.bridge.link.Lost) :
    List.Forall₂ (fun x x' => Agree (Answer.Renews s.bridge.registry.items) x.1 x'.1 ∧
        s.Alike x.2 x'.2)
      (s.trace (.start :: after)) (s.anew.trace (.start :: after.map Request.relayed)) := by
  have h : s.Grounded := hs ▸ grounded_afterRequests config url registry blocks host hrunning
  have hstart : InStep (s.past h) (BehindRelay (ε := ε) (s.past h).shift)
      (Answer.Renews (s.past h).breakpoints) settling settling :=
    .bind_eq (inStep_settling (relays_behindRelay _)) fun _ => .pure (.same _)
  have hfirst := hstart _ _ (mirrors_renewed h hlost)
  rw [← exec_ask_start h.running, ← exec_ask_start (s := s.anew) rfl] at hfirst
  have hclosed : (s.past h).closed := trivial
  have hrest := Mirrors.trace hclosed after hfirst.2
  exact .cons ⟨hfirst.1, hfirst.2.alike⟩ (hrest.imp fun _ _ hx => ⟨hx.1, hx.2.alike⟩)

/-! ## §5. A hit, and a restart. -/

/-- The frame of a pause at the place of a breakpoint. -/
def hitFrame : Record :=
  [("callFrameId", "f"), ("location", .obj [("scriptId", "7"), ("lineNumber", .int 4)])]

/-- A bridge with one breakpoint is started, the breakpoint is hit, and the connection is lost. -/
def hitThenLost : List (Request RehearsedHost) :=
  [.start,
    .stir (fun h => h.enqueue 0
      [.message (.obj [("method", "Debugger.scriptParsed"),
          ("params", .obj (parsedParams "lib/flow.js"))]),
        .message (.obj [("method", "Debugger.paused"),
          ("params", .obj [("callFrames", .arr [.obj hitFrame]),
            ("hitBreakpoints", .arr ["bp:lib/flow.js:4"])])]),
        .ended]),
    .pump]

/-- The place of the breakpoint. -/
def onePlace : BreakpointRegistry := ⟨[{ url := "lib/flow.js", line := .int 4 }]⟩

/-- The site after these requests. -/
def atLoss : Site (Recorded RehearsedHost) :=
  (fresh {} "ws" onePlace none {}).afterRequests hitThenLost

theorem lost_atLoss : atLoss.bridge.link.Lost where
  status := by decide +kernel
  socket := by decide +kernel
  pending := List.isEmpty_iff.mp (by decide +kernel)

theorem restart_anew_atLoss : (∀ r ∈ hitThenLost, r ≠ .stop) ∧ atLoss.bridge.link.Lost ∧
    List.Forall₂ (fun x x' => Agree (Answer.Renews atLoss.bridge.registry.items) x.1 x'.1 ∧
        atLoss.Alike x.2 x'.2)
      (atLoss.trace (.start :: [.arm, .resume]))
      (atLoss.anew.trace (.start :: [.arm, .resume].map Request.relayed)) := by
  have hrunning : ∀ r ∈ hitThenLost, r ≠ .stop := by simp [hitThenLost]
  exact ⟨hrunning, lost_atLoss,
    restart_anew (s := atLoss) {} "ws" onePlace none {} hitThenLost [.arm, .resume] hrunning rfl
      lost_atLoss⟩

/-- The frames that an answer shows at breakpoints. -/
def framesShown : Except Fault Answer → List (Option Record)
  | .ok (.breakpoints bps) => bps.map (·.hitFrame)
  | _ => []

/-- **The last hit is left of the old connection**: when the breakpoints are armed again, the
restarted bridge shows the frame of a pause that a new one knows nothing of. -/
theorem hit_survives_restart : atLoss.bridge.stopped = false ∧ atLoss.bridge.link.Lost ∧
    (atLoss.trace [.start, .arm]).map Prod.fst
      ≠ (atLoss.anew.trace [.start, .arm]).map Prod.fst := by
  have hold : ((atLoss.trace [.start, .arm]).map Prod.fst).map framesShown
      = [[], [some hitFrame]] := by
    decide +kernel
  have hnew : ((atLoss.anew.trace [.start, .arm]).map Prod.fst).map framesShown = [[], [none]] := by
    decide +kernel
  refine ⟨by decide +kernel, lost_atLoss, fun hsame => ?_⟩
  rw [hsame, hnew] at hold
  exact absurd hold (by decide)

end Site
end FlowTrace
