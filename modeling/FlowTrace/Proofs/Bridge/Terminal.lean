/-
  FlowTrace.Proofs.Bridge.Terminal
  ────────────────────────────────
  **A BRIDGE THAT WAS STOPPED.**

  Stopping ends with a severed link, no signal left to heed, and the status closed,
  whatever the bridge was doing and whoever tries to connect from a callback.  From
  there every operation has a guard of its own in the way:

      start               — the bridge was stopped
      arm, commands       — the link is shut
      add, remove         — the bridge is not live
      read                — there is no socket

  So what is left to change is the list of wanted breakpoints, the numbers that
  refused commands use up, and a pause that is let go.
-/
import FlowTrace.Proofs.Bridge.Agreement
import FlowTrace.Proofs.Link.Severed

namespace FlowTrace

/-! ## §1. Editing the registry. -/

namespace BreakpointRegistry

/-- A breakpoint is wanted: the registry with it, and the breakpoint that stands there. -/
def wanting (r : BreakpointRegistry) (url line : Json) :
    Except Fault (BreakpointRegistry × Option Breakpoint) := do
  let n ← line.toInt
  let (r', i) ← r.add { url := url, line := .int n }
  pure (r', r'.items[i]?)

/-- A breakpoint is wanted no longer: the registry without it, and whether it was there. -/
def forgetting (r : BreakpointRegistry) (url line : Json) :
    Except Fault (BreakpointRegistry × Bool) := do
  let n ← line.toInt
  match ← r.find url (.int n) with
  | none => pure (r, false)
  | some _ => do
      let (r', _) ← r.remove url (.int n)
      pure (r', true)

theorem wanting_misplaced {r : BreakpointRegistry} {url line : Json} {f : Fault}
    (hline : line.toInt = .error f) : r.wanting url line = .error f := by
  unfold wanting
  rw [hline]
  rfl

theorem wanting_failed {r : BreakpointRegistry} {url line : Json} {n : Int} {f : Fault}
    (hline : line.toInt = .ok n) (hadd : r.add { url := url, line := .int n } = .error f) :
    r.wanting url line = .error f := by
  unfold wanting
  rw [hline]
  show (r.add { url := url, line := .int n } >>= _) = _
  rw [hadd]
  rfl

theorem wanting_ok {r r' : BreakpointRegistry} {url line : Json} {n : Int} {i : Nat}
    (hline : line.toInt = .ok n) (hadd : r.add { url := url, line := .int n } = .ok (r', i)) :
    r.wanting url line = .ok (r', r'.items[i]?) := by
  unfold wanting
  rw [hline]
  show (r.add { url := url, line := .int n } >>= _) = _
  rw [hadd]
  rfl

/-- The registry after an attempt to edit it. -/
def after {α : Type} (r : BreakpointRegistry) : Except Fault (BreakpointRegistry × α) →
    BreakpointRegistry
  | .ok (r', _) => r'
  | .error _ => r

end BreakpointRegistry

namespace Site

/-- What a task makes of the registry of a stopped bridge. -/
def Task.edits {ε : Type} (r : BreakpointRegistry) : Task ε → BreakpointRegistry
  | .add url line => r.after (r.wanting url line)
  | .remove url line => r.after (r.forgetting url line)
  | _ => r

/-! ## §2. Stopping. -/

variable {ε : Type} {s s' : Site ε}

/-- The link and the network of the site, and whether the site was stopped, are these. -/
def LinkedTo (w : Wire ε) (stopped : Bool) (s : Site ε) : Prop :=
  s.wire = w ∧ s.bridge.stopped = stopped

section

variable {w : Wire ε} {stopped : Bool}

theorem linkedTo_update {f : Bridge → Bridge}
    (hf : ∀ b, (f b).link = b.link ∧ (f b).stopped = b.stopped) :
    Act.Keeps (LinkedTo w stopped) (update f : Act (Site ε) Unit) := by
  intro s hs
  refine ⟨Eq.trans ?_ hs.1, (hf s.bridge).2.trans hs.2⟩
  show ({ link := (f s.bridge).link, network := s.network } : Wire ε) = s.wire
  rw [(hf s.bridge).1]
  rfl

/-- Listeners do nothing to the link, whatever they raise. -/
theorem linkedTo_emit (e : Event) :
    Act.Keeps (LinkedTo w stopped) (emit e : Act (Site ε) Unit) := by
  refine .bind (.of_snd_eq fun _ _ => rfl) fun b => ?_
  induction b.config.listeners.filter (fun l => l.kind == e.kind) with
  | nil => exact .of_snd_eq fun _ _ => rfl
  | cons listener rest ih =>
    exact .bind (.bind (linkedTo_update fun _ => ⟨rfl, rfl⟩) fun _ =>
      .contained (.of_snd_eq fun _ _ => rfl)) fun _ => ih

theorem linkedTo_publishException (e : Thrown) (table : Option BlockTable) :
    Act.Keeps (LinkedTo w stopped) (publishException e table : Act (Site ε) Unit) :=
  .bind (.of_snd_eq fun _ _ => rfl) fun _ => .bind (.of_snd_eq fun _ _ => rfl) fun _ =>
    linkedTo_emit _

theorem linkedTo_heed (signal : Signal) :
    Act.Keeps (LinkedTo w stopped) (heed signal : Act (Site ε) Unit) := by
  cases signal with
  | up => exact .of_snd_eq fun _ _ => rfl
  | down =>
    exact .bind (linkedTo_update fun _ => ⟨rfl, rfl⟩) fun _ =>
      .bind (.of_snd_eq fun _ _ => rfl) fun _ => linkedTo_emit _
  | completed id outcome =>
    refine .bind (.of_snd_eq fun _ _ => rfl) fun b => ?_
    cases b.fetches.find? (fun f => f.id == id) with
    | none => exact .of_snd_eq fun _ _ => rfl
    | some f =>
      refine .bind (linkedTo_update fun _ => ⟨rfl, rfl⟩) fun _ => ?_
      cases outcome with
      | error _ => exact linkedTo_publishException _ _
      | ok result =>
        exact .bind (.of_snd_eq fun _ _ => rfl) fun _ => .bind (.of_snd_eq fun _ _ => rfl) fun _ =>
          .bind (linkedTo_update fun _ => ⟨rfl, rfl⟩) fun _ => linkedTo_publishException _ _

theorem linkedTo_heedAll (signals : List Signal) :
    Act.Keeps (LinkedTo w stopped) (heedAll signals : Act (Site ε) Unit) := by
  induction signals with
  | nil => exact .of_snd_eq fun _ _ => rfl
  | cons signal rest ih => exact .bind (.contained (linkedTo_heed signal)) fun _ => ih

end

/-- However an operation of the link ends, heeding its signals changes nothing of the link and
the network. -/
theorem onLink_linkedTo {α : Type} (a : Act (Wire ε) α) (s : Site ε) :
    LinkedTo { link := (a.exec s.wire).2.link.silenced, network := (a.exec s.wire).2.network }
      s.bridge.stopped ((onLink a).exec s).2 := by
  have hkept := linkedTo_heedAll (a.exec s.wire).2.link.signals
    (s.rewired (a.exec s.wire).2) ⟨rfl, rfl⟩
  unfold onLink
  rw [Act.exec_bind_ok (exec_attempt_within (r := (a.exec s.wire).1) (w := (a.exec s.wire).2) rfl),
    Act.exec_bind_snd fun _ _ => rfl]
  exact hkept

/-- An operation of the link that ends well has left the link as it is then, every
signal heeded. -/
theorem onLink_ok {α : Type} {a : Act (Wire ε) α} {x : α} (h : (onLink a).exec s = (.ok x, s')) :
    ∃ w, a.exec s.wire = (.ok x, w) ∧ s'.bridge.link = w.link.silenced ∧
      s'.bridge.stopped = s.bridge.stopped := by
  have hlinked := onLink_linkedTo a s
  rw [h] at hlinked
  refine ⟨(a.exec s.wire).2, Prod.ext ?_ rfl, congrArg Wire.link hlinked.1, hlinked.2⟩
  unfold onLink at h
  rw [Act.exec_bind_ok (exec_attempt_within (r := (a.exec s.wire).1) (w := (a.exec s.wire).2) rfl)]
    at h
  obtain ⟨_, s₁, -, h⟩ := Act.of_exec_bind_ok h
  rw [Act.exec_ofExcept] at h
  exact (Prod.mk.inj h).1

/-- The bridge was stopped: nothing is left that could come to life again. -/
structure Terminal (s : Site ε) : Prop where
  stopped : s.bridge.stopped = true
  closed : s.bridge.status = .closed
  severed : Wire.SeveredAt .disconnected s.wire
  silent : s.bridge.link.signals = []

/-- **Stopping a bridge that is in any state at all ends in a terminal one**, if it ends
well. -/
theorem terminal_stop [Endpoint ε] (h : stop.exec s = (.ok (), s')) : s'.Terminal := by
  unfold stop at h
  rw [Act.exec_bind_ok (exec_update _ s)] at h
  obtain ⟨_, s₁, hclose, h⟩ := Act.of_exec_bind_ok h
  obtain ⟨w, hw, hlink, hstopped⟩ := onLink_ok hclose
  obtain ⟨⟨hshut, hsocket, hidle⟩, hstatus⟩ := Wire.severed_close hw
  rw [exec_update] at h
  obtain ⟨-, rfl⟩ := Prod.mk.inj h
  refine ⟨hstopped, rfl, ⟨⟨?_, ?_, ?_⟩, ?_⟩, ?_⟩
  · show s₁.bridge.link.shutdown = true
    rw [hlink, Link.silenced_shutdown, hshut]
  · show s₁.bridge.link.socket = none
    rw [hlink, Link.silenced_socket, hsocket]
  · show s₁.bridge.link.pending = []
    rw [hlink, Link.silenced_pending, hidle]
  · show s₁.bridge.link.status = .disconnected
    rw [hlink, Link.silenced_status, hstatus]
  · show s₁.bridge.link.signals = []
    rw [hlink]
    rfl

/-! ## §3. What a stopped bridge does. -/

variable {s s' : Site (Recorded ε)} {r r' : BreakpointRegistry}

/-- The site with another number to come, another pause, another registry and another state
of the host. -/
def lingering (s : Site (Recorded ε)) (n : Nat) (tracker : PauseTracker)
    (r : BreakpointRegistry) (host : ε) : Site (Recorded ε) :=
  { bridge := { s.bridge with
      link := { s.bridge.link with nextId := n }, tracker := tracker, registry := r }
    network := { s.network with endpoint := { s.network.endpoint with host := host } } }

/-- All that has changed is numbers, the pause, the state of the host, and the registry, which
is this one. -/
def Lingers (r : BreakpointRegistry) (s s' : Site (Recorded ε)) : Prop :=
  ∃ n tracker host, s' = s.lingering n tracker r host

theorem Lingers.refl (s : Site (Recorded ε)) : Lingers s.bridge.registry s s :=
  ⟨_, _, _, rfl⟩

theorem Lingers.trans {s'' : Site (Recorded ε)} (h : Lingers r s s') (h' : Lingers r' s' s'') :
    Lingers r' s s'' := by
  obtain ⟨_, _, _, rfl⟩ := h
  obtain ⟨n, tracker, host, rfl⟩ := h'
  exact ⟨n, tracker, host, rfl⟩

theorem Lingers.terminal (h : Lingers r s s') (hs : s.Terminal) : s'.Terminal := by
  obtain ⟨_, _, _, rfl⟩ := h
  obtain ⟨hstopped, hclosed, ⟨hsevered, hdown⟩, hsilent⟩ := hs
  exact ⟨hstopped, hclosed, ⟨hsevered.same rfl rfl rfl, hdown⟩, hsilent⟩

theorem Lingers.registry (h : Lingers r s s') : s'.bridge.registry = r := by
  obtain ⟨_, _, _, rfl⟩ := h
  rfl

namespace Terminal

theorem lingers_numbered (h : s.Terminal) : Lingers s.bridge.registry s s.numbered := by
  have hlink : s.bridge.link.allocate.2.silenced
      = { s.bridge.link with nextId := s.bridge.link.nextId + 1 } := by
    unfold Link.silenced Link.allocate
    rw [← h.silent]
  refine ⟨s.bridge.link.nextId + 1, s.bridge.tracker, s.network.endpoint.host, ?_⟩
  show ({ s with bridge := { s.bridge with link := s.bridge.link.allocate.2.silenced } }
    : Site (Recorded ε)) = _
  rw [hlink]
  rfl

/-- An operation that leaves a silent link alone. -/
theorem exec_onLink_idle {α : Type} {a : Act (Wire (Recorded ε)) α} {x : Except Fault α}
    (h : s.Terminal) (ha : a.exec s.wire = (x, s.wire)) : (onLink a).exec s = (x, s) := by
  have hsame : s.rewired s.wire = s := by
    show ({ s with bridge := { s.bridge with link := s.bridge.link.silenced } }
      : Site (Recorded ε)) = s
    unfold Link.silenced
    rw [← h.silent]
  rw [exec_onLink_silent ha h.silent, hsame]

variable [Endpoint ε]

/-- It does not start again. -/
theorem exec_start (h : s.Terminal) : start.exec s = (.error (.link "bridge closed"), s) := by
  unfold Site.start
  rw [Act.exec_bind_ok (exec_look s), if_pos h.stopped]
  rfl

/-- Stopping it once more changes nothing. -/
theorem exec_stop (h : s.Terminal) : stop.exec s = (.ok (), s) := by
  have hstopped : ({ s with bridge := { s.bridge with stopped := true } } : Site (Recorded ε)) = s := by
    rw [← h.stopped]
  have hclosed : ({ s with bridge := { s.bridge with status := .closed } } : Site (Recorded ε)) = s := by
    rw [← h.closed]
  unfold Site.stop
  rw [Act.exec_bind_ok (exec_update _ s), hstopped,
    Act.exec_bind_ok (h.exec_onLink_idle h.severed.exec_close), exec_update, hclosed]

omit [Endpoint ε] in
/-- A closed bridge is not live. -/
theorem not_live (h : s.Terminal) : s.bridge.isLive = false := by
  unfold Bridge.isLive
  rw [h.closed]
  rfl

/-- No command is sent. -/
theorem exec_submit (h : s.Terminal) (method params : Json) :
    (onLink (Wire.submit method params)).exec s
      = (.error (.link "transport closed"), s.numbered) :=
  exec_onLink_silent (h.severed.1.exec_submitWith method params false) h.silent

theorem exec_command (h : s.Terminal) (method params : Json) :
    (command method params).exec s = (.error (.link "transport closed"), s.numbered) :=
  Act.exec_bind_error (h.exec_submit method params)

/-- There is nothing to read, whatever waits on whichever socket. -/
theorem exec_pump (h : s.Terminal) : pump.exec s = (.ok (), s) := by
  unfold Site.pump
  rw [Act.exec_bind_ok (exec_look s)]
  cases s.bridge.config.burst with
  | zero => rfl
  | succ burst =>
    rw [pumpWith_succ, Act.exec_bind_ok (h.exec_onLink_idle h.severed.1.exec_poll)]
    rfl

/-- The end of reading a socket that was dropped changes nothing. -/
theorem exec_finish (h : s.Terminal) (k : Nat) :
    (onLink (Wire.finish k)).exec s = (.ok .handled, s) := by
  refine h.exec_onLink_idle (Wire.exec_finish_stale ?_)
  rw [h.severed.1.unplugged]
  exact nofun

theorem exec_armBreakpoints (h : s.Terminal) :
    armBreakpoints.exec s = if s.bridge.registry.items = [] then (.ok [], s)
      else (.error (.link "transport closed"), s.numbered) := by
  unfold Site.armBreakpoints
  rw [Act.exec_bind_ok (exec_look s)]
  cases hitems : s.bridge.registry.items with
  | nil =>
    rw [if_pos rfl]
    show (Except.ok s.bridge.registry.items, s) = _
    rw [hitems]
  | cons bp rest =>
    rw [if_neg (List.cons_ne_nil _ _)]
    exact Act.exec_bind_error (Act.exec_bind_error (h.exec_submit _ _))

/-- Letting the script run, or run a step, ends the pause and sends nothing. -/
theorem lingers_running (h : s.Terminal) (method params : Json) :
    Lingers s.bridge.registry s ((do
      update Bridge.leavePause
      let _ ← onLink (Wire.notify method params) : Act (Site (Recorded ε)) Unit).exec s).2 := by
  let left : Site (Recorded ε) := { s with bridge := s.bridge.leavePause }
  have hleft : Lingers s.bridge.registry s left := by
    refine ⟨s.bridge.link.nextId, s.bridge.tracker.clear, s.network.endpoint.host, ?_⟩
    have hstatus : (if s.bridge.status = .paused then .ready else s.bridge.status)
        = s.bridge.status := if_neg (by rw [h.closed]; decide)
    show ({ s with bridge := { s.bridge with
      tracker := s.bridge.tracker.clear
      status := if s.bridge.status = .paused then .ready else s.bridge.status } }
        : Site (Recorded ε)) = _
    rw [hstatus]
    rfl
  have hterminal := hleft.terminal h
  have hnotify : (onLink (Wire.notify method params)).exec left
      = (.error (.link "transport closed"), left.numbered) :=
    exec_onLink_silent (hterminal.severed.1.exec_notify method params) hterminal.silent
  rw [Act.exec_bind_ok (exec_update _ s), Act.exec_bind_error hnotify]
  exact hleft.trans hterminal.lingers_numbered

/-- **Adding a breakpoint edits the registry**, and does nothing else. -/
theorem exec_addBreakpoint (h : s.Terminal) (url line : Json) :
    (addBreakpoint url line).exec s
      = ((s.bridge.registry.wanting url line).map Prod.snd,
          s.registering (s.bridge.registry.after (s.bridge.registry.wanting url line))) := by
  rw [addBreakpoint_eq, exec_ofExcept_bind]
  cases hline : line.toInt with
  | error f =>
    rw [BreakpointRegistry.wanting_misplaced hline]
    rfl
  | ok n =>
    dsimp only
    rw [Act.exec_bind_ok (exec_look s), exec_ofExcept_bind]
    cases hadd : s.bridge.registry.add { url := url, line := .int n } with
    | error f =>
      rw [BreakpointRegistry.wanting_failed hline hadd]
      rfl
    | ok added =>
      obtain ⟨r, i⟩ := added
      rw [BreakpointRegistry.wanting_ok hline hadd]
      dsimp only
      rw [Act.exec_bind_ok (exec_update _ s)]
      cases hbp : r.items[i]? with
      | none => rfl
      | some bp =>
        -- a closed bridge arms nothing
        have hdead : (bp.id.isNull && (s.registering r).bridge.isLive) = false := by
          rw [show (s.registering r).bridge.isLive = false from h.not_live, Bool.and_false]
        show (armingIfLive i bp).exec (s.registering r) = _
        unfold armingIfLive
        rw [Act.exec_bind_ok (exec_look _), if_neg (by rw [hdead]; decide)]
        exact congrArg (fun bp => (Except.ok bp, s.registering r)) hbp

/-- **Removing a breakpoint edits the registry**, and does nothing else. -/
theorem exec_removeBreakpoint (h : s.Terminal) (url line : Json) :
    (removeBreakpoint url line).exec s
      = ((s.bridge.registry.forgetting url line).map Prod.snd,
          s.registering (s.bridge.registry.after (s.bridge.registry.forgetting url line))) := by
  rw [removeBreakpoint_eq, exec_ofExcept_bind]
  unfold BreakpointRegistry.forgetting
  cases hline : line.toInt with
  | error f => rfl
  | ok n =>
    dsimp only
    rw [Act.exec_bind_ok (exec_look s), exec_ofExcept_bind]
    show _ = (Except.map Prod.snd (s.bridge.registry.find url (.int n) >>= _),
      s.registering (s.bridge.registry.after (s.bridge.registry.find url (.int n) >>= _)))
    cases hfind : s.bridge.registry.find url (.int n) with
    | error f => rfl
    | ok found =>
      cases found with
      | none => rfl
      | some bp =>
        dsimp only
        unfold disarmingIf
        rw [h.not_live, Bool.and_false, if_neg (by decide)]
        unfold Site.forgetting
        rw [Act.exec_bind_ok (exec_look s), exec_ofExcept_bind]
        show _ = (Except.map Prod.snd (s.bridge.registry.remove url (.int n) >>= _),
          s.registering (s.bridge.registry.after (s.bridge.registry.remove url (.int n) >>= _)))
        cases hremove : s.bridge.registry.remove url (.int n) with
        | error f => rfl
        | ok removed => rfl

omit [Endpoint ε] in
theorem lingers_registering (s : Site (Recorded ε)) (r : BreakpointRegistry) :
    Lingers r s (s.registering r) := ⟨_, _, _, rfl⟩

/-- A command is refused whoever sends it, and what depends on its reply is not reached. -/
theorem lingers_command {α : Type} (h : s.Terminal) (method params : Json)
    (f : Json → Act (Site (Recorded ε)) α) :
    Lingers s.bridge.registry s ((command method params >>= f).exec s).2 := by
  rw [Act.exec_bind_error (h.exec_command method params)]
  exact h.lingers_numbered

/-- **No task wakes a stopped bridge**: it edits the registry at most. -/
theorem act (h : s.Terminal) (task : Task ε) :
    Lingers (task.edits s.bridge.registry) s (task.act.exec s).2 := by
  cases task with
  | start =>
    show Lingers _ s (Site.start.exec s).2
    rw [h.exec_start]
    exact .refl s
  | stop =>
    show Lingers _ s (Site.stop.exec s).2
    rw [h.exec_stop]
    exact .refl s
  | resume => exact h.lingers_running _ _
  | stepOver => exact h.lingers_running _ _
  | evaluate expression =>
    show Lingers _ s ((Site.evaluate expression >>= fun _ => pure ()).exec s).2
    rw [Act.exec_bind_snd (fun _ _ => rfl)]
    unfold Site.evaluate
    rw [Act.exec_bind_ok (exec_look s), exec_ofExcept_bind]
    -- there may be a frame of the last pause, but the command for it goes nowhere
    cases s.bridge.tracker.require with
    | error f => exact .refl s
    | ok frame =>
      dsimp only
      rw [h.exec_command]
      exact h.lingers_numbered
  | properties objectId =>
    show Lingers _ s ((Site.properties objectId >>= fun _ => pure ()).exec s).2
    rw [Act.exec_bind_snd (fun _ _ => rfl)]
    exact h.lingers_command _ _ _
  | add url line =>
    show Lingers _ s ((addBreakpoint url line >>= fun _ => pure ()).exec s).2
    rw [Act.exec_bind_snd (fun _ _ => rfl), h.exec_addBreakpoint]
    exact lingers_registering s _
  | remove url line =>
    show Lingers _ s ((removeBreakpoint url line >>= fun _ => pure ()).exec s).2
    rw [Act.exec_bind_snd (fun _ _ => rfl), h.exec_removeBreakpoint]
    exact lingers_registering s _
  | arm =>
    show Lingers _ s ((Site.armBreakpoints >>= fun _ => pure ()).exec s).2
    rw [Act.exec_bind_snd (fun _ _ => rfl), h.exec_armBreakpoints]
    split
    · exact .refl s
    · exact h.lingers_numbered
  | pump =>
    show Lingers _ s (Site.pump.exec s).2
    rw [h.exec_pump]
    exact .refl s
  | stir f => exact ⟨_, _, f s.network.endpoint.host, rfl⟩

/-- Nor does any number of tasks. -/
theorem afterTasks (tasks : List (Task ε)) : ∀ {s : Site (Recorded ε)}, s.Terminal →
    Lingers (tasks.foldl Task.edits s.bridge.registry) s (s.afterTasks tasks) := by
  induction tasks with
  | nil => exact fun {s} _ => .refl s
  | cons task rest ih =>
    intro s h
    have hfirst := h.act task
    have hrest := ih (hfirst.terminal h)
    rw [hfirst.registry] at hrest
    exact hfirst.trans hrest

end Terminal

/-- The site is stopped for good since it was in another state: that of the network, the
connection and the listeners is as it was, and every way back is closed. -/
structure StoppedSince (s' s : Site (Recorded ε)) [Endpoint ε] : Prop where
  closed : s.bridge.status = .closed
  unplugged : s.bridge.link.socket = none
  /-- Nothing was dialled, sent, received or closed. -/
  mute : s.conversation = s'.conversation
  log : s.network.log = s'.network.log
  opened : s.network.openSockets = s'.network.openSockets
  uncalled : s.bridge.calls = s'.bridge.calls
  starts : start.exec s = (.error (.link "bridge closed"), s)
  stops : stop.exec s = (.ok (), s)
  /-- The reader of any socket finds nothing to do at its end. -/
  finishes : ∀ k, (onLink (Wire.finish k)).exec s = (.ok .handled, s)
  adds : ∀ url line, (addBreakpoint url line).exec s
    = ((s.bridge.registry.wanting url line).map Prod.snd,
        s.registering (s.bridge.registry.after (s.bridge.registry.wanting url line)))
  removes : ∀ url line, (removeBreakpoint url line).exec s
    = ((s.bridge.registry.forgetting url line).map Prod.snd,
        s.registering (s.bridge.registry.after (s.bridge.registry.forgetting url line)))

theorem Terminal.since [Endpoint ε] (hterminal : s.Terminal) (h : Lingers r s' s) :
    StoppedSince s' s := by
  have hlinger := h
  obtain ⟨_, _, _, hsame⟩ := hlinger
  exact {
    closed := hterminal.closed
    unplugged := hterminal.severed.1.unplugged
    mute := by rw [hsame]; rfl
    log := by rw [hsame]; rfl
    opened := by rw [hsame]; rfl
    uncalled := by rw [hsame]; rfl
    starts := hterminal.exec_start
    stops := hterminal.exec_stop
    finishes := hterminal.exec_finish
    adds := hterminal.exec_addBreakpoint
    removes := hterminal.exec_removeBreakpoint }

/-- **Stopping is final.**  A bridge in any state whatever, whose stopping has ended
well, stays stopped through every list of tasks, among them everything that a host may push
on any socket: the status is closed, no connection is opened, nothing is sent or
received and no listener is called.  It cannot be started, which changes nothing; and
adding and removing breakpoints changes the list of wanted breakpoints alone, which at
the end is what the additions and removals have made of it. -/
theorem stop_final [Endpoint ε] (hstop : stop.exec s = (.ok (), s')) (tasks : List (Task ε)) :
    StoppedSince s' (s'.afterTasks tasks) ∧
      (s'.afterTasks tasks).bridge.registry = tasks.foldl Task.edits s'.bridge.registry := by
  have hterminal := terminal_stop hstop
  have hlingers := hterminal.afterTasks tasks
  exact ⟨(hlingers.terminal hterminal).since hlingers, hlingers.registry⟩

/-- What is tried with a bridge that was stopped: it is started, and a breakpoint is added to
be armed, while the host reports another pause. -/
def lateTasks : List (Task RehearsedHost) :=
  [.start, .add "flow.js" (.int 3), .stir (fun h => h.enqueue 0 [.message (.obj pauseMessage)]),
    .pump, .arm, .resume]

/-- A bridge that is stopped at a pause: the breakpoint is noted, and that is all. -/
theorem stop_final_atPause :
    stop.exec atPause = (.ok (), (stop.exec atPause).2) ∧
      StoppedSince (stop.exec atPause).2 ((stop.exec atPause).2.afterTasks lateTasks) ∧
      ((stop.exec atPause).2.afterTasks lateTasks).bridge.registry
        = ⟨[{ url := "flow.js", line := .int 3 }]⟩ := by
  have hstop : stop.exec atPause = (.ok (), (stop.exec atPause).2) := Prod.ext rfl rfl
  have hfinal := stop_final hstop lateTasks
  exact ⟨hstop, hfinal.1, hfinal.2.trans rfl⟩

end Site
end FlowTrace
