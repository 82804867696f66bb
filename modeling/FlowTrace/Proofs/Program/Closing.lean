/-
  FlowTrace.Proofs.Program.Closing
  ────────────────────────────────
  **WHAT IS OPEN WHEN THE PROGRAM ENDS.**

  The program detaches at its end in any case, and detaching stops the bridge that its
  session is attached to.  So what is open then depends on one thing:

      the session was attached   — nothing is open, and the link is shut
                                   (`Session.Released`), whatever the command came to
      it could not be attached   — the socket of the bridge that could not be started
                                   is open, if it has one, and the link is not shut
                                   (`Session.Stranded`)

  The second is because a session is attached only once its bridge has started, so
  that detaching finds nothing to stop.  A host that refuses to be debugged is enough
  for it (`AttachRequest.refused_stays_open`).
-/
import FlowTrace.Link.Rehearsal
import FlowTrace.Program.Attach
import FlowTrace.Proofs.Bridge.Sockets

namespace FlowTrace

/-! ## §1. Attaching and detaching. -/

namespace Session

variable {ε α : Type} {s s' : Session ε}

/-- The socket of the session's bridge. -/
def socket? (s : Session ε) : Option Nat := s.bridge.bind fun b => b.link.socket

/-- The session is attached, and the sockets that are open are the one of its bridge. -/
structure Attended (s : Session ε) : Prop where
  attached : s.attached = true
  held : ∃ b, s.bridge = some b ∧ s.network.openSockets = b.link.socket.toList

/-- The session has let its bridge go: the link is shut, and no socket is open. -/
structure Released (s : Session ε) : Prop where
  left : s.attached = false
  closed : s.network.openSockets = []
  severed : ∃ b, s.bridge = some b ∧ b.link.shutdown = true ∧ b.link.socket = none

/-- The session is not attached; the sockets that are open are the one of its bridge, and
nobody has shut its link. -/
structure Stranded (s : Session ε) : Prop where
  left : s.attached = false
  held : s.network.openSockets = s.socket?.toList
  unshut : ∀ b, s.bridge = some b → b.link.shutdown = false

/-- The session as it is before it is attached for the first time. -/
structure Unopened (s : Session ε) : Prop where
  left : s.attached = false
  vacant : s.bridge = none
  closed : s.network.openSockets = []

theorem exec_onBridge {b : Bridge} (hbridge : s.bridge = some b) (a : Act (Site ε) α) :
    (onBridge a).exec s = ((a.exec { bridge := b, network := s.network }).1,
      { s with
        bridge := some { (a.exec { bridge := b, network := s.network }).2.bridge with calls := [] }
        network := (a.exec { bridge := b, network := s.network }).2.network
        bus := publishAll s.bus
          (a.exec { bridge := b, network := s.network }).2.bridge.calls }) := by
  unfold onBridge
  rw [Act.exec_bind_ok (Act.exec_get s), hbridge]
  rfl

theorem attended_onBridge {a : Act (Site ε) α} (ha : Act.Keeps Site.Holding a) :
    Act.Keeps Attended (onBridge a) := by
  intro s hs
  obtain ⟨b, hbridge, hheld⟩ := hs.held
  rw [exec_onBridge hbridge]
  exact ⟨hs.attached, _, rfl, ha { bridge := b, network := s.network } hheld⟩

/-- What keeps a site tidy leaves an attached session with the one socket. -/
theorem attended_tidy {a : Act (Site ε) α} (ha : ∀ shut, Act.Keeps (Site.Tidy shut 0) a) :
    Act.Keeps Attended (onBridge a) :=
  attended_onBridge (Site.holding_of_tidy fun shut => ⟨shut, ha shut⟩)

variable [Endpoint ε]

/-- Detaching, if nobody interrupts it, closes what is open. -/
theorem Attended.detach (h : s.Attended) (hexec : Session.detach.exec s = (.ok (), s')) :
    s'.Released := by
  obtain ⟨b, hbridge, hheld⟩ := h.held
  unfold Session.detach at hexec
  rw [Act.exec_bind_ok (Act.exec_get s), if_pos h.attached] at hexec
  obtain ⟨_, s₁, hcontained, hleave⟩ := Act.of_exec_bind_ok hexec
  obtain ⟨-, rfl⟩ := Prod.mk.inj hleave
  have hstop := Act.of_exec_contained_ok (fun f s₂ hfails => by
    rw [exec_onBridge hbridge] at hfails
    obtain ⟨hfault, -⟩ := Prod.mk.inj hfails
    exact Site.guarded_stop _ f _ (Prod.ext hfault rfl)) hcontained
  rw [exec_onBridge hbridge] at hstop
  obtain ⟨hok, rfl⟩ := Prod.mk.inj hstop
  have hterminal := Site.terminal_stop (Prod.ext hok rfl)
  have htidy : Site.Tidy true 0 (Site.stop.exec { bridge := b, network := s.network }).2 :=
    Site.leads_stop _ ⟨hheld, rfl, Nat.zero_le _⟩
  have hunplugged := hterminal.severed.1.unplugged
  refine ⟨rfl, htidy.held.trans ?_, _, rfl, hterminal.severed.1.shut, hunplugged⟩
  exact congrArg Option.toList hunplugged

omit [Endpoint ε] in
/-- The bridge that a session makes has no socket yet, and its listeners raise nothing. -/
theorem newBridge_unopened {c : SessionConfig} {b : Bridge} (h : c.newBridge = .ok b)
    (network : Network ε) (hclosed : network.openSockets = []) :
    b.config.Tame ∧ b.link.socket = none ∧
      Site.Tidy false 1 { bridge := b, network := network } := by
  unfold SessionConfig.newBridge at h
  obtain ⟨blocks, -, h⟩ := Outcome.bind_eq_ok.mp h
  obtain ⟨items, -, h⟩ := Outcome.bind_eq_ok.mp h
  obtain ⟨registry, -, h⟩ := Outcome.bind_eq_ok.mp h
  obtain rfl := Except.ok.inj h
  refine ⟨fun l hl e => ?_, rfl, hclosed, rfl, Nat.le_refl _⟩
  obtain ⟨k, -, rfl⟩ := List.mem_map.mp hl
  exact .ok _

/-- What becomes of a session whose new bridge was started: it is attached, or the bridge before
takes its place again if it never connected. -/
def afterStart (before : Option Bridge) :
    Except Fault Unit × Session ε → Except Fault Unit × Session ε
  | (.ok _, s) => (.ok (), { s with attached := true })
  | (.error f, s) => (.error f, if s.neverConnected then { s with bridge := before } else s)

/-- A session that is not attached starts a new bridge. -/
theorem exec_attach (hleft : s.attached = false) {b : Bridge} (hnew : s.config.newBridge = .ok b) :
    Session.attach.exec s
      = afterStart s.bridge ((onBridge Site.start).exec { s with bridge := some b }) := by
  unfold Session.attach
  rw [Act.exec_bind_ok (Act.exec_get s), if_neg (by rw [hleft]; decide), hnew,
    Act.exec_bind_ok (Act.exec_ofExcept _ _), Act.exec_bind_ok (Act.exec_set _ _),
    Act.exec_bind_ok (Act.exec_attempt _ _)]
  rcases (onBridge Site.start).exec { s with bridge := some b } with ⟨_ | _, _⟩ <;> rfl

omit [Endpoint ε] in
theorem Unopened.not_some (h : s.Unopened) (b : Bridge) : s.bridge ≠ some b :=
  fun hb => Option.some_ne_none b (hb.symm.trans h.vacant)

/-- **Attaching for the first time** ends with an attended session or with a stranded one. -/
theorem Unopened.attach (h : s.Unopened) {r : Except Fault Unit}
    (hexec : Session.attach.exec s = (r, s')) :
    (∀ u, r = .ok u → s'.Attended) ∧ ∀ f, r = .error f → s'.Stranded := by
  cases hnew : s.config.newBridge with
  | error f =>
    have hfails : Session.attach.exec s = (.error f, s) := by
      unfold Session.attach
      rw [Act.exec_bind_ok (Act.exec_get s), if_neg (by rw [h.left]; decide), hnew]
      exact Act.exec_bind_error (Act.exec_ofExcept _ _)
    rw [hfails] at hexec
    obtain ⟨rfl, rfl⟩ := Prod.mk.inj hexec
    refine ⟨nofun, fun _ _ => ⟨h.left, ?_, fun b hb => absurd hb (h.not_some b)⟩⟩
    rw [h.closed, socket?, h.vacant]
    rfl
  | ok b =>
    obtain ⟨htame, hnone, htidy⟩ := newBridge_unopened hnew s.network h.closed
    obtain ⟨hstarted, hfirst⟩ := Site.tidy_start_first htame htidy hnone
    rw [exec_attach h.left hnew, exec_onBridge rfl] at hexec
    dsimp only at hexec
    generalize Site.start.exec ({ bridge := b, network := s.network } : Site ε) = run
      at hstarted hfirst hexec
    obtain ⟨result, s₁⟩ := run
    cases result with
    | ok u =>
      obtain ⟨rfl, rfl⟩ := Prod.mk.inj hexec
      exact ⟨fun _ _ => ⟨rfl, _, rfl, hstarted.held⟩, nofun⟩
    | error f =>
      obtain ⟨rfl, rfl⟩ := Prod.mk.inj hexec
      refine ⟨nofun, fun _ _ => ?_⟩
      split
      next hnever =>
        -- the bridge is given up, and it holds nothing
        have hnothing := hfirst (by simpa [neverConnected] using hnever)
        refine ⟨h.left, hstarted.held.trans ?_, ?_⟩
        · show _ = (s.bridge.bind fun b => b.link.socket).toList
          rw [h.vacant]
          exact congrArg Option.toList hnothing
        · exact fun b hb => absurd hb (h.not_some b)
      next =>
        refine ⟨h.left, hstarted.held, fun b' hb' => ?_⟩
        obtain rfl := Option.some.inj hb'
        exact hstarted.shutdown

/-! ## §2. Commands. -/

omit [Endpoint ε] in
/-- Printing changes the output only. -/
theorem keeps_say {P : Session ε → Prop} (hP : ∀ s out, P s → P { s with out := out })
    (text : String) : Act.Keeps P (say text : Act (Session ε) Unit) := fun s hs => hP s _ hs

omit [Endpoint ε] in
theorem Attended.printing (s : Session ε) (out : String) (h : s.Attended) :
    ({ s with out := out } : Session ε).Attended := ⟨h.attached, h.held⟩

omit [Endpoint ε] in
theorem attended_say (text : String) : Act.Keeps Attended (say text : Act (Session ε) Unit) :=
  keeps_say Attended.printing text

omit [Endpoint ε] in
theorem attended_report (message data : Json) :
    Act.Keeps Attended (report message data : Act (Session ε) Unit) :=
  .bind (.of_snd_eq fun _ _ => rfl) fun _ => attended_say _

omit [Endpoint ε] in
theorem attended_complain (message : Json) :
    Act.Keeps Attended (complain message : Act (Session ε) Unit) :=
  .bind (.of_snd_eq fun _ _ => rfl) fun _ => attended_say _

/-- An attended session is attached already. -/
theorem attended_attach : Act.Keeps Attended (Session.attach : Act (Session ε) Unit) := by
  intro s hs
  unfold Session.attach
  rw [Act.exec_bind_ok (Act.exec_get s), if_pos hs.attached]
  exact hs

omit [Endpoint ε] in
theorem attended_orLinkError (title : String) {a : Act (Session ε) α}
    {andThen : α → Act (Session ε) Int} (ha : Act.Keeps Attended a)
    (hthen : ∀ x, Act.Keeps Attended (andThen x)) :
    Act.Keeps Attended (orLinkError title a andThen) := by
  refine .bind (.attempt ha) fun r => ?_
  cases r with
  | ok v => exact hthen v
  | error f =>
    exact .ite (.bind (attended_complain _) fun _ => .of_snd_eq fun _ _ => rfl)
      (.of_snd_eq fun _ _ => rfl)

omit [Endpoint ε] in
/-- Print and end with a code. -/
theorem attended_ending {a : Act (Session ε) Unit} (ha : Act.Keeps Attended a) (code : Int) :
    Act.Keeps Attended (a >>= fun _ => pure code) := .bind ha fun _ => .of_snd_eq fun _ _ => rfl

omit [Endpoint ε] in
theorem attended_help (t : CommandTable) (c : Command) (args : List String) :
    Act.Keeps Attended (help t c args : Act (Session ε) Int) := by
  unfold help
  split
  · exact .bind (.of_snd_eq fun _ _ => rfl) fun _ => attended_ending (attended_say _) _
  · exact .of_snd_eq fun _ _ => rfl

omit [Endpoint ε] in
theorem attended_status : Act.Keeps Attended (status : Act (Session ε) Int) :=
  .bind (.of_snd_eq fun _ _ => rfl) fun _ => attended_ending (attended_report _ _) 0

theorem attended_addBreakpoint (url line : Json) :
    Act.Keeps Attended (addBreakpoint url line : Act (Session ε) Int) :=
  .bind attended_attach fun _ => attended_orLinkError _
    (attended_tidy fun _ => Site.tidy_addBreakpoint url line)
    fun _ => attended_ending (attended_report _ _) 0

theorem attended_removeBreakpoint (url line : Json) :
    Act.Keeps Attended (removeBreakpoint url line : Act (Session ε) Int) :=
  .bind attended_attach fun _ => attended_orLinkError _
    (attended_tidy fun _ => Site.tidy_removeBreakpoint url line)
    fun _ => attended_ending (attended_report _ _) 0

omit [Endpoint ε] in
theorem attended_look : Act.Keeps Attended (onBridge Site.look : Act (Session ε) Bridge) :=
  attended_tidy fun _ => Site.tidy_look

theorem attended_listBreakpoints : Act.Keeps Attended (listBreakpoints : Act (Session ε) Int) :=
  .bind attended_attach fun _ => .bind attended_look fun _ =>
    .bind (.of_snd_eq fun _ _ => rfl) fun _ =>
      .ite (.bind (attended_report _ _) fun _ => .of_snd_eq fun _ _ => rfl)
        (.bind (attended_say _) fun _ => .bind (attended_say _) fun _ => .of_snd_eq fun _ _ => rfl)

theorem attended_breakpoints (args : List String) :
    Act.Keeps Attended (breakpoints args : Act (Session ε) Int) := by
  unfold breakpoints
  rcases BreakRequest.ofWords? args with _ | (⟨url, line⟩ | ⟨url, line⟩ | _)
  · exact .of_snd_eq fun _ _ => rfl
  · exact attended_addBreakpoint url line
  · exact attended_removeBreakpoint url line
  · exact attended_listBreakpoints

theorem attended_go (title message result : String) {a : Act (Site ε) Unit}
    (ha : ∀ shut, Act.Keeps (Site.Tidy shut 0) a) :
    Act.Keeps Attended (go title message result a) :=
  .bind attended_attach fun _ => .bind (.of_snd_eq fun _ _ => rfl) fun _ =>
    .ite
      (attended_orLinkError _ (attended_tidy ha) fun _ => attended_ending (attended_report _ _) 0)
      (attended_ending (attended_complain _) 1)

omit [Endpoint ε] in
theorem attended_sayEvaluation (result : Json) :
    Act.Keeps Attended (sayEvaluation result : Act (Session ε) Int) :=
  .bind (.of_snd_eq fun _ _ => rfl) fun _ => .bind (.of_snd_eq fun _ _ => rfl) fun _ =>
    .bind (.of_snd_eq fun _ _ => rfl) fun _ => .bind (.of_snd_eq fun _ _ => rfl) fun _ =>
      .ite (.bind (.of_snd_eq fun _ _ => rfl) fun _ => attended_ending (attended_say _) 1)
        (attended_ending (attended_report _ _) 0)

theorem attended_evaluate (args : List String) :
    Act.Keeps Attended (evaluate args : Act (Session ε) Int) := by
  refine .ite (attended_ending (attended_complain _) 1) <| .bind attended_attach fun _ =>
    .bind (.attempt (attended_tidy fun _ => Site.tidy_evaluate _)) fun r => ?_
  have hsaid : Act.Keeps Attended
      (orLinkError "eval" (Act.ofExcept r) sayEvaluation : Act (Session ε) Int) :=
    attended_orLinkError _ (.of_snd_eq fun _ _ => rfl) attended_sayEvaluation
  rcases r with f | v
  · cases f with
    | notPaused => exact attended_ending (attended_complain _) 1
    | _ => exact hsaid
  · exact hsaid

omit [Endpoint ε] in
theorem attended_sayProperties (items : List Json) :
    Act.Keeps Attended (sayProperties items : Act (Session ε) Int) :=
  .bind (.of_snd_eq fun _ _ => rfl) fun _ => .ite (attended_ending (attended_report _ _) 0)
    (.bind (attended_say _) fun _ => .bind (.of_snd_eq fun _ _ => rfl) fun _ =>
      .of_snd_eq fun _ _ => rfl)

theorem attended_properties (args : List String) :
    Act.Keeps Attended (properties args : Act (Session ε) Int) := by
  rcases args with _ | ⟨id, _ | ⟨_, _⟩⟩
  · exact attended_ending (attended_complain _) 1
  · exact .bind attended_attach fun _ => attended_orLinkError _
      (attended_tidy fun _ => Site.tidy_properties _) attended_sayProperties
  · exact attended_ending (attended_complain _) 1

theorem attended_scopes : Act.Keeps Attended (scopes : Act (Session ε) Int) := by
  refine .bind attended_attach fun _ => .bind attended_look fun b => ?_
  cases b.tracker.require with
  | error f => exact attended_ending (attended_complain _) 1
  | ok frame =>
    exact .bind (.of_snd_eq fun _ _ => rfl) fun _ => .bind (.of_snd_eq fun _ _ => rfl) fun _ =>
      .ite (attended_ending (attended_report _ _) 0)
        (.bind (attended_say _) fun _ => .bind (attended_say _) fun _ =>
          .bind (.of_snd_eq fun _ _ => rfl) fun _ => .of_snd_eq fun _ _ => rfl)

/-- The session is attached, or it has let its bridge go. -/
def Settled (s : Session ε) : Prop := s.Attended ∨ s.Released

omit [Endpoint ε] in
theorem Settled.printing (s : Session ε) (out : String) (h : s.Settled) :
    ({ s with out := out } : Session ε).Settled :=
  h.imp (fun h => ⟨h.attached, h.held⟩) fun h => ⟨h.left, h.closed, h.severed⟩

/-- Leaving the program detaches, unless somebody interrupts. -/
theorem leads_leave : Act.Leads Attended Settled (leave : Act (Session ε) Int) := by
  intro s hs
  have hstop : Act.Keeps Attended (onBridge Site.stop : Act (Session ε) Unit) :=
    attended_onBridge (Site.holding_of_tidy fun _ => ⟨true, Site.leads_stop⟩)
  unfold leave
  rw [Act.exec_bind_snd fun _ _ => rfl]
  cases hr : Session.detach.exec s with
  | mk r s₁ =>
    cases r with
    | ok u => exact .inr (hs.detach hr)
    | error f =>
      refine .inl ?_
      unfold Session.detach at hr
      rw [Act.exec_bind_ok (Act.exec_get s), if_pos hs.attached, Act.exec_bind] at hr
      have hkept := Act.Keeps.contained hstop s hs
      rcases hcontained : (Act.contained (onBridge Site.stop)).exec s with ⟨_ | _, s₂⟩ <;>
        rw [hcontained] at hr hkept
      · obtain ⟨-, rfl⟩ := Prod.mk.inj hr
        exact hkept
      · exact absurd (congrArg Prod.fst hr) nofun

/-- Whatever command is run, at its end the session is attached or has been left. -/
theorem leads_run (t : CommandTable) (c : Command) (args : List String) :
    Act.Leads Attended Settled (run t c args : Act (Session ε) Int) := by
  have hattended {a : Act (Session ε) Int} (ha : Act.Keeps Attended a) :
      Act.Leads Attended Settled a := fun s hs => .inl (ha s hs)
  unfold run
  cases c.action with
  | missing => exact hattended (.of_snd_eq fun _ _ => rfl)
  | help => exact hattended (attended_help t c args)
  | status => exact hattended attended_status
  | breakpoints => exact hattended (attended_breakpoints args)
  | resume => exact hattended (attended_go _ _ _ fun _ => Site.tidy_running _ _)
  | stepOver => exact hattended (attended_go _ _ _ fun _ => Site.tidy_running _ _)
  | evaluate => exact hattended (attended_evaluate args)
  | properties => exact hattended (attended_properties args)
  | scopes => exact hattended attended_scopes
  | leave => exact leads_leave

theorem leads_runGuarded (name : String) (c : Command) (args : List String) :
    Act.Leads Attended Settled (runGuarded name c args : Act (Session ε) Int) := by
  have hsay (text : String) (code : Int) :
      Act.Keeps Settled (say text >>= fun _ => pure code : Act (Session ε) Int) :=
    .bind (keeps_say Settled.printing text) fun _ => .of_snd_eq fun _ _ => rfl
  refine .bind (leads_run .builtin c args).attempt fun r => ?_
  cases r with
  | ok code => exact .of_snd_eq fun _ _ => rfl
  | error f =>
    exact .ite (.of_snd_eq fun _ _ => rfl) <| .ite
      (.bind (.bind (.of_snd_eq fun _ _ => rfl) fun _ => keeps_say Settled.printing _) fun _ =>
        .of_snd_eq fun _ _ => rfl) (hsay _ _)

theorem leads_dispatch (line : Json) :
    Act.Leads Attended Settled (dispatch line : Act (Session ε) Int) := by
  have hsay (text : String) (code : Int) : Act.Leads Attended Settled
      (say text >>= fun _ => pure code : Act (Session ε) Int) :=
    fun s hs => .inl (attended_ending (attended_say text) code s hs)
  unfold dispatch
  split
  · exact hsay _ _
  · exact fun _ hs => .inl hs
  · exact fun _ hs => .inl hs
  · split
    · exact leads_runGuarded _ _ _
    · exact hsay _ _

/-- What is left open once a settled session is detached: nothing. -/
theorem Settled.detach (h : s.Settled) (hexec : Session.detach.exec s = (.ok (), s')) :
    s'.Released := by
  rcases h with h | h
  · exact h.detach hexec
  · unfold Session.detach at hexec
    rw [Act.exec_bind_ok (Act.exec_get s), if_neg (by rw [h.left]; decide)] at hexec
    obtain ⟨-, rfl⟩ := Prod.mk.inj hexec
    exact h

end Session

/-! ## §3. The whole command. -/

namespace AttachRequest

variable {ε : Type} {s s' : Session ε}

theorem keeps_conclude {P : Session ε → Prop} (hP : ∀ s out, P s → P { s with out := out })
    (outcome : Except Fault Int) :
    Act.Keeps (fun p => P p.session) (conclude outcome : Act (Prompting ε) (Except Fault Int)) := by
  intro p hp
  rcases outcome with f | code
  · cases f with
    | interrupt => exact hP p.session _ hp
    | _ => exact hp
  · exact hp

theorem session_unopened (r : AttachRequest) (folder : Folder) (host : ε) :
    (r.session folder { endpoint := host }).session.Unopened := ⟨rfl, rfl, rfl⟩

variable [Endpoint ε]

/-- The program detaches at its end, whatever came before. -/
theorem of_run {r : AttachRequest} {inputs : List (PromptInput ε)} {p p' : Prompting ε} {code : Int}
    (hrun : (r.run inputs).exec p = (.ok code, p')) :
    ∃ p₁, (conclude ((r.work inputs).exec p).1).exec ((r.work inputs).exec p).2
        = (.ok (.ok code), p₁) ∧
      Session.detach.exec p₁.session = (.ok (), p'.session) := by
  unfold run at hrun
  rw [Act.exec_bind_ok (Act.exec_attempt _ _)] at hrun
  obtain ⟨outcome, p₁, hconclude, hrun⟩ := Act.of_exec_bind_ok hrun
  obtain ⟨_, p₂, hdetach, hend⟩ := Act.of_exec_bind_ok hrun
  obtain ⟨rfl, rfl⟩ := Prod.mk.inj hend
  obtain ⟨hok, rfl⟩ := Prod.mk.inj hdetach
  exact ⟨p₁, hconclude, Prod.ext hok rfl⟩

/-- The one command is run in a session that could be attached. -/
theorem exec_work_attached {r : AttachRequest} (hcommand : r.command.isEmpty = false)
    (inputs : List (PromptInput ε)) {p : Prompting ε} {u : Unit} {s₀ : Session ε}
    (hattach : Session.attach.exec p.session = (.ok u, s₀)) :
    (r.work inputs).exec p = (((Session.dispatch r.command).exec s₀).1,
      { p with session := ((Session.dispatch r.command).exec s₀).2 }) := by
  unfold work attached
  rw [if_neg (by rw [hcommand]; decide), Act.exec_bind_ok (Act.exec_attempt _ _)]
  unfold Prompting.onSession
  rw [Act.exec_within, hattach]
  rfl

/-- If it could not be attached, that is all. -/
theorem exec_work_failed {r : AttachRequest} (hcommand : r.command.isEmpty = false)
    (inputs : List (PromptInput ε)) {p : Prompting ε} {f : Fault} {s₀ : Session ε}
    (hattach : Session.attach.exec p.session = (.error f, s₀)) :
    ∃ out, (r.work inputs).exec p
      = (if f.isLink then .ok 2 else .error f, { p with session := { s₀ with out := out } }) := by
  unfold work attached
  rw [if_neg (by rw [hcommand]; decide), Act.exec_bind_ok (Act.exec_attempt _ _)]
  unfold Prompting.onSession
  rw [Act.exec_within, hattach]
  by_cases hlink : f.isLink = true
  · simp only [if_pos hlink]
    exact ⟨_, rfl⟩
  · simp only [if_neg hlink]
    exact ⟨s₀.out, rfl⟩

/-- **What is open when the program has run one command.**  If the session could be attached,
nothing is, and the link is shut: whatever the host did meanwhile, and whatever the command
came to.  If it could not be attached, everything is left as attaching left it: the socket of a
bridge that could not be started is open, if it has one, and nobody has shut its link. -/
theorem run_command {r : AttachRequest} {folder : Folder} {host : ε} {inputs : List (PromptInput ε)}
    {code : Int} {p : Prompting ε} (hcommand : r.command.isEmpty = false)
    (hrun : (r.run inputs).exec (r.session folder { endpoint := host }) = (.ok code, p)) :
    (∀ u s₀, Session.attach.exec (r.session folder { endpoint := host }).session = (.ok u, s₀) →
      p.session.Released) ∧
    ∀ f s₀, Session.attach.exec (r.session folder { endpoint := host }).session = (.error f, s₀) →
      p.session.Stranded ∧ (∃ out, p.session = { s₀ with out := out }) ∧ (f.isLink → code = 2) := by
  obtain ⟨p₁, hconclude, hdetach⟩ := of_run hrun
  have hfresh := session_unopened r folder host
  constructor
  · intro u s₀ hattach
    have hsettled := Session.leads_dispatch r.command s₀ ((hfresh.attach hattach).1 u rfl)
    rw [exec_work_attached hcommand inputs hattach] at hconclude
    generalize (Session.dispatch r.command).exec s₀ = run at hsettled hconclude
    obtain ⟨outcome, s₁⟩ := run
    have hkept := keeps_conclude Session.Settled.printing outcome
      { r.session folder { endpoint := host } with session := s₁ } hsettled
    rw [hconclude] at hkept
    exact hkept.detach hdetach
  · intro f s₀ hattach
    have hstranded := (hfresh.attach hattach).2 f rfl
    obtain ⟨out, hwork⟩ := exec_work_failed hcommand inputs hattach
    rw [hwork] at hconclude
    dsimp only at hconclude
    have hkept := keeps_conclude (P := fun s => ∃ out, s = { s₀ with out := out })
      (fun _ out' ⟨_, heq⟩ => ⟨out', by rw [heq]⟩)
      (if f.isLink then .ok 2 else .error f)
      { r.session folder { endpoint := host } with session := { s₀ with out := out } } ⟨out, rfl⟩
    rw [hconclude] at hkept
    obtain ⟨out', hsame⟩ := hkept
    -- a session that is not attached is not detached
    have hleft : p.session = p₁.session := by
      unfold Session.detach at hdetach
      rw [Act.exec_bind_ok (Act.exec_get _), hsame,
        if_neg (by rw [hstranded.left]; decide)] at hdetach
      rw [hsame]
      exact (Prod.mk.inj hdetach).2.symm
    rw [hleft, hsame]
    refine ⟨⟨hstranded.left, hstranded.held, hstranded.unshut⟩, ⟨out', rfl⟩, fun hlink => ?_⟩
    rw [if_pos hlink] at hconclude
    obtain ⟨hcode, -⟩ := Prod.mk.inj hconclude
    cases hcode
    rfl

/-- Ask for the status, and end. -/
def status : AttachRequest := { url := "ws", command := "status" }

/-- The status is asked for, of a host with rules. -/
def statusWith (rules : List HostRule) : Except Fault Int × Prompting RehearsedHost :=
  (status.run []).exec (status.session {} { endpoint := { rules := rules } })

/-- A host that answers every command is left by the end; nothing stays open. -/
theorem run_command_answered :
    (status.command.isEmpty = false ∧ (statusWith []).1 = .ok 0) ∧
      (statusWith []).2.session.Released := by
  have hrun : statusWith [] = (.ok 0, (statusWith []).2) := Prod.ext rfl rfl
  exact ⟨⟨rfl, rfl⟩, (run_command rfl hrun).1 () _ (Prod.ext rfl rfl)⟩

/-- **A host that refuses to be debugged keeps its connection**: the program has ended with its
code, and the socket that it opened is open. -/
theorem refused_stays_open :
    ∃ rules, status.command.isEmpty = false ∧ (statusWith rules).1 = .ok 2 ∧
      (statusWith rules).2.session.network.openSockets = [0] ∧
      (statusWith rules).2.session.bridge.map (fun b => b.link.shutdown) = some false :=
  ⟨[{ method := "Debugger.enable", actions := [.refuse (.obj [("message", "no")])] }],
    rfl, rfl, rfl, rfl⟩

end AttachRequest
end FlowTrace
