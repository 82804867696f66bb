/-
  FlowTrace.Proofs.Bridge.Command
  ────────────────────────────────
  **WHAT COMES OF A COMMAND.**

  A bridge that waits for a reply reads its link meanwhile, and then takes the
  outcome of the command or gives the command up.  So a command ends in one of four
  ways, and between sending and ending the bridge only takes the steps of reading:

      refused   — there is no connection to send it on
      lost      — the connection is lost in sending it
      ended     — it has an outcome by the time the reading is over
      late      — it has none

  Connecting and closing end in as few ways.
-/
import FlowTrace.Proofs.Bridge.Reading

namespace FlowTrace

/-! ## §1. Outcomes. -/

namespace Wire

variable {ε : Type} [Endpoint ε] {w : Wire ε} {id : Nat}

omit [Endpoint ε] in
theorem exec_conclude_some {outcome : Outcome} (h : w.link.outcome? id = some outcome)
    (method : Json) : (conclude id method).exec w = (outcome, w) := by
  unfold conclude
  rw [Act.exec_bind_ok (exec_look w), h]
  cases outcome <;> rfl

omit [Endpoint ε] in
theorem exec_conclude_none (h : w.link.outcome? id = none) (method : Json) :
    (conclude id method).exec w
      = (.error (.timeout method), { w with link := w.link.dropPending id }) := by
  unfold conclude
  rw [Act.exec_bind_ok (exec_look w), h]
  rfl

end Wire
namespace Site

variable {ε : Type} {s s' : Site (Recorded ε)}

/-- A command is awaited no longer. -/
def dropping (s : Site (Recorded ε)) (id : Nat) : Site (Recorded ε) :=
  s.rewired { s.wire with link := s.bridge.link.dropPending id }

/-- Nothing happens to a site when its own link is put back. -/
theorem Ready.rewired_wire (h : s.Ready) : s.rewired s.wire = s := by
  show ({ bridge := { s.bridge with link := s.bridge.link.silenced }, network := s.network }
    : Site (Recorded ε)) = s
  rw [h.bare.silenced]

theorem Ready.dropping (h : s.Ready) (id : Nat) : (s.dropping id).Ready := by
  refine ⟨h.tame, ?_⟩
  show (s.bridge.link.dropPending id).silenced.Bare
  rw [(h.bare.dropPending id).silenced]
  exact h.bare.dropPending id

variable [Endpoint ε]

theorem Ready.putting (h : s.Ready) {k : Nat} {method params : Json}
    (hsocket : s.bridge.link.socket = some k) :
    (s.putting k (some { id := s.bridge.link.nextId, method := method })
      { id := s.bridge.link.nextId, method := method, params := params }).Ready :=
  h.submitting hsocket rfl ⟨rfl, rfl, rfl⟩

/-- What comes of waiting for a reply. -/
inductive Awaited (id : Nat) (method : Json) (s : Site (Recorded ε)) :
    Except Fault Json × Site (Recorded ε) → Prop
  | ended {s' : Site (Recorded ε)} {outcome : Outcome} (steps : Steps s s')
      (hout : s'.bridge.link.outcome? id = some outcome) : Awaited id method s (outcome, s')
  | late {s' : Site (Recorded ε)} (steps : Steps s s')
      (hnone : s'.bridge.link.outcome? id = none) :
      Awaited id method s (.error (.timeout method), s'.dropping id)

theorem awaited_await (id : Nat) (method : Json) (hready : s.Ready)
    (hclean : Uninterrupted ((await id method).exec s).2.conversation) :
    Awaited id method s ((await id method).exec s) := by
  have hread := hclean.of_prefix (Grows.conversation_bind grows_pump
    (fun _ => grows_conclude id method) hready.sane)
  obtain ⟨hok, steps⟩ := steps_pump hready hread
  have hready' := steps.ready hready
  have hpump : (pump : Act (Site (Recorded ε)) Unit).exec s = (.ok (), (pump.exec s).2) := by
    rw [← hok]
  unfold await
  rw [Act.exec_bind_ok hpump]
  generalize (pump.exec s).2 = s' at steps hready'
  cases hout : s'.bridge.link.outcome? id with
  | some outcome =>
    have hconclude : (Wire.conclude id method).exec s'.wire = (outcome, s'.wire) :=
      Wire.exec_conclude_some hout method
    rw [exec_onLink_silent hconclude hready'.bare.silent, hready'.rewired_wire]
    exact .ended steps hout
  | none =>
    have hconclude : (Wire.conclude id method).exec s'.wire
        = (.error (.timeout method), { s'.wire with link := s'.bridge.link.dropPending id }) :=
      Wire.exec_conclude_none hout method
    rw [exec_onLink_silent hconclude hready'.bare.silent]
    exact .late steps hout

/-- What comes of a command whose reply is awaited. -/
inductive Commanded (method params : Json) (s : Site (Recorded ε)) :
    Except Fault Json × Site (Recorded ε) → Prop
  | refused (m : String)
      (hno : s.bridge.link.socket = none ∨ s.bridge.link.shutdown = true) :
      Commanded method params s (.error (.link m), s.numbered)
  | lost {k : Nat} {s' : Site (Recorded ε)} (m : String)
      (hsocket : s.bridge.link.socket = some k) (hopen : s.bridge.link.shutdown = false)
      (haside : Aside ((s.putting k (some { id := s.bridge.link.nextId, method := method })
        { id := s.bridge.link.nextId, method := method, params := params }).gone k) s') :
      Commanded method params s (.error (.link m), s')
  | awaited {k : Nat} {r : Except Fault Json × Site (Recorded ε)}
      (hsocket : s.bridge.link.socket = some k) (hopen : s.bridge.link.shutdown = false)
      (hawaited : Awaited s.bridge.link.nextId method
        (s.putting k (some { id := s.bridge.link.nextId, method := method })
          { id := s.bridge.link.nextId, method := method, params := params }) r) :
      Commanded method params s r

theorem commanded_command (method params : Json) (hready : s.Ready)
    (hclean : Uninterrupted ((command method params).exec s).2.conversation) :
    Commanded method params.orObject s ((command method params).exec s) := by
  have hsent := hclean.of_prefix (Grows.conversation_bind (grows_submit method params)
    (fun id => grows_await id method) hready.sane)
  have hposted := posted_submit method params hready hsent
  unfold command at hclean ⊢
  rw [Act.exec_bind] at hclean ⊢
  generalize (onLink (Wire.submit method params)).exec s = r at hposted hclean
  cases hposted with
  | refused m hno => exact .refused m hno
  | put hsocket hopen =>
    exact .awaited hsocket hopen (awaited_await _ _ (hready.putting hsocket) hclean)
  | lost m hsocket hopen haside => exact .lost m hsocket hopen haside

/-- On a connection what is posted is sent, first of all. -/
theorem Posted.said {awaited : Option Pending} {e : Envelope}
    {r : Except Fault Nat × Site (Recorded ε)} (h : Posted awaited e s r)
    (hjoined : ¬ (s.bridge.link.socket = none ∨ s.bridge.link.shutdown = true)) :
    ∃ k a rest, r.2.conversation = s.conversation ++ .sent k e a :: rest := by
  cases h with
  | refused m hno => exact absurd hno hjoined
  | put hsocket hopen => exact ⟨_, _, [], conversation_putting s _ awaited e⟩
  | @lost k s' m hsocket hopen haside =>
    have hgone : s'.conversation = ((s.putting k awaited e).gone k).conversation :=
      congrArg Network.conversation haside.network
    rw [hgone, conversation_gone, conversation_putting, List.append_assoc]
    exact ⟨_, _, _, rfl⟩

/-- On a connection the command is sent once, first of all; what follows is said in reading. -/
theorem Commanded.said {method params : Json} {r : Except Fault Json × Site (Recorded ε)}
    (h : Commanded method params s r)
    (hjoined : ¬ (s.bridge.link.socket = none ∨ s.bridge.link.shutdown = true)) :
    ∃ k a rest, r.2.conversation = s.conversation ++ .sent k
        { id := s.bridge.link.nextId, method := method, params := params } a :: rest ∧
      ∀ x ∈ rest, InReading x := by
  have hafter {k : Nat} {s' : Site (Recorded ε)}
      (steps : Steps (s.putting k (some { id := s.bridge.link.nextId, method := method })
        { id := s.bridge.link.nextId, method := method, params := params }) s') :
      ∃ k a rest, s'.conversation = s.conversation ++ .sent k
          { id := s.bridge.link.nextId, method := method, params := params } a :: rest ∧
        ∀ x ∈ rest, InReading x := by
    obtain ⟨xs, hxs, hall⟩ := steps.said
    rw [conversation_putting, List.append_assoc] at hxs
    exact ⟨_, _, xs, hxs, hall⟩
  cases h with
  | refused m hno => exact absurd hno hjoined
  | lost m hsocket hopen haside => exact hafter (.tail (.single (.lost hsocket)) (.aside haside))
  | awaited hsocket hopen hawaited =>
    cases hawaited with
    | ended steps hout => exact hafter steps
    | late steps hnone =>
      obtain ⟨k, a, rest, hsaid, hall⟩ := hafter steps
      exact ⟨k, a, rest, hsaid, hall⟩

/-! ## §2. Connecting and closing. -/

/-- The site with a new connection. -/
def opening (s : Site (Recorded ε)) (k : Nat) : Site (Recorded ε) :=
  s.rewired
    { link := { s.bridge.link with socket := some k, deaf := false, status := .connected }
      network := (s.network.dial s.bridge.link.url).2 }

/-- The site after an attempt to connect that failed. -/
def turnedAway (s : Site (Recorded ε)) : Site (Recorded ε) :=
  s.rewired
    { link := { s.bridge.link with status := .disconnected }
      network := (s.network.dial s.bridge.link.url).2 }

/-- What comes of connecting. -/
inductive Joined (s : Site (Recorded ε)) : Except Fault Unit × Site (Recorded ε) → Prop
  | already (hsocket : s.bridge.link.socket.isSome = true) : Joined s (.ok (), s)
  | shut (m : String) (hsocket : s.bridge.link.socket = none)
      (hshut : s.bridge.link.shutdown = true) : Joined s (.error (.link m), s)
  | opened {k : Nat} {s' : Site (Recorded ε)} (hsocket : s.bridge.link.socket = none)
      (hopen : s.bridge.link.shutdown = false)
      (hdial : (s.network.dial s.bridge.link.url).1 = .ok k) (haside : Aside (s.opening k) s') :
      Joined s (.ok (), s')
  | refused (m : String) (hsocket : s.bridge.link.socket = none)
      (hopen : s.bridge.link.shutdown = false) : Joined s (.error (.link m), s.turnedAway)

theorem Ready.opening (h : s.Ready) (k : Nat) : (s.opening k).Ready := by
  refine ⟨h.tame, ?_⟩
  show ({ s.bridge.link with socket := some k, deaf := false, status := .connected }
    : Link).silenced.Bare
  rw [(h.bare.opened k).silenced]
  exact h.bare.opened k

theorem Ready.turnedAway (h : s.Ready) (hsocket : s.bridge.link.socket = none) :
    s.turnedAway.Ready := by
  refine ⟨h.tame, ?_⟩
  show ({ s.bridge.link with status := .disconnected } : Link).silenced.Bare
  rw [(h.bare.refused hsocket).silenced]
  exact h.bare.refused hsocket

/-- A link that is connected is not connected again. -/
theorem exec_connect_joined (hready : s.Ready) (hsocket : s.bridge.link.socket.isSome = true) :
    (onLink Wire.connect).exec s = (.ok (), s) := by
  have hconnect : (Wire.connect).exec s.wire = (.ok (), s.wire) := by
    unfold Wire.connect
    have hthere : s.wire.link.socket.isSome = true := hsocket
    rw [Act.exec_bind_ok (Wire.exec_look s.wire), if_pos hthere]
    rfl
  rw [exec_onLink_silent hconnect hready.bare.silent, hready.rewired_wire]

theorem joined_connect (hready : s.Ready)
    (hclean : Uninterrupted ((onLink Wire.connect).exec s).2.conversation) :
    Joined s ((onLink Wire.connect).exec s) := by
  rw [conversation_onLink hready] at hclean
  have hdialled := Wire.dialled_connect (w := s.wire) hclean
  have hsilent := hready.bare.silent
  cases hr : (Wire.connect).exec s.wire with
  | mk r w =>
    rw [hr] at hdialled
    cases hdialled with
    | already hsocket =>
      rw [exec_onLink_silent hr hsilent, hready.rewired_wire]
      exact .already hsocket
    | shut m hsocket hshut =>
      rw [exec_onLink_silent hr hsilent, hready.rewired_wire]
      exact .shut m hsocket hshut
    | @opened k hsocket hopen hdial =>
      obtain ⟨s', hexec, haside⟩ := exec_onLink hready.tame hr
      rw [hexec]
      refine .opened hsocket hopen hdial ?_
      -- the only signal is that of the new connection
      have hchanges : ({ s.bridge.link with
          socket := some k, deaf := false, status := .connected }.signal .up : Link).changes
            = [.up] := by
        rw [Link.changes_signal]
        unfold Link.changes
        show s.bridge.link.signals.filterMap Signal.change? ++ _ = _
        rw [hsilent]
        rfl
      change Aside (heeded _ ({ s.bridge.link with
        socket := some k, deaf := false, status := .connected }.signal .up : Link).changes) s'
        at haside
      rw [hchanges] at haside
      exact haside
    | refused m hsocket hopen hdial =>
      rw [exec_onLink_silent hr hsilent]
      exact .refused m hsocket hopen

/-- The site with a link that will not connect again. -/
def shutting (s : Site (Recorded ε)) : Site (Recorded ε) :=
  { s with bridge := { s.bridge with link := { s.bridge.link with shutdown := true } } }

/-- What comes of closing the link. -/
inductive Shut (s : Site (Recorded ε)) : Except Fault Unit × Site (Recorded ε) → Prop
  | gone {k : Nat} {s' : Site (Recorded ε)} (hsocket : s.bridge.link.socket = some k)
      (haside : Aside (s.shutting.gone k) s') : Shut s (.ok (), s')
  | idle (hsocket : s.bridge.link.socket = none) :
      Shut s (.ok (), s.rewired
        { link := { s.bridge.link with shutdown := true, status := .disconnected }
          network := s.network })

theorem shut_close (hready : s.Ready)
    (hclean : Uninterrupted ((onLink Wire.close).exec s).2.conversation) :
    Shut s ((onLink Wire.close).exec s) := by
  rw [conversation_onLink hready] at hclean
  cases hsocket : s.bridge.link.socket with
  | some k =>
    have hr := Wire.exec_close_some (w := s.wire) hready.bare hsocket hclean
    obtain ⟨s', hexec, haside⟩ := exec_onLink hready.tame hr
    rw [heeded_fallen (hready.bare.connected hsocket)] at haside
    rw [hexec]
    exact .gone hsocket haside
  | none =>
    have hr := Wire.exec_close_none (w := s.wire) hready.bare hsocket
    rw [exec_onLink_silent hr hready.bare.silent]
    exact .idle hsocket

/-! ## §3. Runs. -/

/-- A bridge that was just made, with a link that was just made. -/
def fresh (config : BridgeConfig) (url : Json) (registry : BreakpointRegistry)
    (blocks : Option BlockTable) (host : ε) : Site (Recorded ε) :=
  { bridge := { config := config, link := { url := url }, registry := registry, blocks := blocks }
    network := { endpoint := { host := host } } }

omit [Endpoint ε] in
theorem ready_fresh {config : BridgeConfig} (htame : config.Tame) (url : Json)
    (registry : BreakpointRegistry) (blocks : Option BlockTable) (host : ε) :
    (fresh config url registry blocks host).Ready where
  tame := htame
  bare :=
    { plain := fun _ hp => nomatch hp
      plans := rfl
      silent := rfl
      connected_iff := by
        constructor
        · exact fun h => nomatch h
        · exact fun h => nomatch h
      idle := fun _ => rfl
      numbered := ⟨(fun _ hp => nomatch hp), List.nodup_nil, (fun _ ho => nomatch ho)⟩ }

/-- What a debugger can be asked, and what may happen by itself. -/
inductive Task (ε : Type) where
  | start
  | stop
  | resume
  | stepOver
  | evaluate (expression : Json)
  | properties (objectId : Json)
  | add (url line : Json)
  | remove (url line : Json)
  | arm
  /-- The link is read. -/
  | pump
  /-- The host does something by itself. -/
  | stir (f : ε → ε)

/-- Do a task.  What it answers is not looked at. -/
def Task.act : Task ε → Act (Site (Recorded ε)) Unit
  | start => Site.start
  | stop => Site.stop
  | resume => Site.resume
  | stepOver => Site.stepOver
  | evaluate expression => do let _ ← Site.evaluate expression
  | properties objectId => do let _ ← Site.properties objectId
  | add url line => do let _ ← addBreakpoint url line
  | remove url line => do let _ ← removeBreakpoint url line
  | arm => do let _ ← armBreakpoints
  | pump => Site.pump
  | stir f => modify (fun s =>
      { s with network := { s.network with endpoint := s.network.endpoint.stir f } })

/-- The site after tasks, one after the other, however each of them ends. -/
def afterTasks (s : Site (Recorded ε)) : List (Task ε) → Site (Recorded ε)
  | [] => s
  | task :: rest => afterTasks (task.act.exec s).2 rest

end Site
end FlowTrace
