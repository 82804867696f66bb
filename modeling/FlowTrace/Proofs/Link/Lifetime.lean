/-
  FlowTrace.Proofs.Link.Lifetime
  ────────────────────────────────
  **EVERY CONNECTION IS LOST AT MOST ONCE.**

  The conversation of a link tells which connection is the current one: the one
  that was dialled last, unless it was closed since.  A link agrees with it after
  every step, and tells its owner of each connection that comes and goes:

      current    — the socket is the one that the conversation leaves open
      told       — one signal for each connection opened, one for each closed
      plans      — each loss takes one plan of callbacks
      idle       — without a connection no command is pending

  A step that loses a connection fails every command pending on it.  The end of
  reading a socket that is no longer current changes nothing, so a socket that is
  reported dead twice is lost once.
-/
import FlowTrace.Link.Rehearsal
import FlowTrace.Proofs.Link.Callbacks

namespace FlowTrace

/-! ## §1. Connections that come and go. -/

/-- A connection comes or goes. -/
inductive Change where
  | up
  | down
  deriving DecidableEq

/-- What a signal tells of the connection. -/
def Signal.change? : Signal → Option Change
  | up => some .up
  | down => some .down
  | completed _ _ => none

namespace Exchange

/-- What an exchange does to the connection. -/
def change? : Exchange → Option Change
  | dialled (.ok _) => some .up
  | closed _ _ => some .down
  | _ => none

/-- The socket that is open after an exchange.  Only without a socket is there
dialling, and every other exchange is on the open socket: there is no way out of
turn. -/
def turn : Option Nat → Exchange → Option (Option Nat)
  | none, dialled (.ok s) => some (some s)
  | none, dialled (.error _) => some none
  | some s, sent s' _ _ => if s' = s then some (some s) else none
  | some s, received s' _ => if s' = s then some (some s) else none
  | some s, closed s' _ => if s' = s then some none else none
  | _, _ => none

/-- The socket that a conversation leaves open, if every exchange was in turn. -/
def open? (xs : List Exchange) : Option (Option Nat) := xs.foldlM turn none

theorem open?_append {xs : List Exchange} {s : Option Nat} (h : open? xs = some s)
    (ys : List Exchange) : open? (xs ++ ys) = ys.foldlM turn s := by
  unfold open? at h ⊢
  rw [List.foldlM_append, h]
  rfl

/-- Exchanges on the open socket leave it open. -/
theorem foldlM_turn_eq {s : Option Nat} {xs : List Exchange}
    (h : ∀ x ∈ xs, turn s x = some s) : xs.foldlM turn s = some s := by
  induction xs with
  | nil => rfl
  | cons x rest ih =>
    rw [List.foldlM_cons, h x (List.mem_cons_self ..)]
    exact ih (fun y hy => h y (List.mem_cons_of_mem x hy))

end Exchange

namespace Link

/-- The comings and goings that the owner was told of. -/
def changes (l : Link) : List Change := l.signals.filterMap Signal.change?

/-- How many connections were lost. -/
def losses (l : Link) : Nat := l.changes.count .down

theorem changes_signal (l : Link) (s : Signal) :
    (l.signal s).changes = l.changes ++ s.change?.toList := by
  unfold changes signal
  rw [List.filterMap_append]
  cases hs : s.change? <;> simp [hs]

theorem changes_complete (l : Link) (id : Nat) (outcome : Outcome) :
    (l.complete id outcome).changes = l.changes := by
  unfold complete
  rw [changes_signal]
  exact List.append_nil _

@[simp] theorem changes_answer (l : Link) (reply : List (String × Json)) :
    (l.answer reply).changes = l.changes := by
  rcases l.answer_eq reply with heq | heq | ⟨p, _, heq⟩
  · rw [heq]
  · rw [heq]
    rfl
  · rw [heq, changes_complete]
    rfl

/-- Failing commands tells nothing of the connection. -/
theorem changes_failing (l : Link) (ps : List Pending) : (l.failing ps).changes = l.changes := by
  have hnone : (ps.map fun p => Signal.completed p.id lostOutcome).filterMap Signal.change? = [] := by
    rw [List.filterMap_eq_nil_iff]
    intro s hs
    obtain ⟨p, _, rfl⟩ := List.mem_map.mp hs
    rfl
  unfold changes failing
  rw [List.filterMap_append, hnone, List.append_nil]

theorem changes_fallen_connected {l : Link} (h : l.status = .connected) :
    l.fallen.changes = l.changes ++ [.down] := by
  have hstatus : ({ l.failing l.pending with pending := [] } : Link).status = .connected := h
  unfold fallen
  rw [disconnected_of_connected hstatus, changes_signal]
  show (l.failing l.pending).changes ++ _ = _
  rw [changes_failing]
  rfl

theorem changes_fallen_of_ne {l : Link} (h : l.status ≠ .connected) :
    l.fallen.changes = l.changes := by
  have hstatus : ({ l.failing l.pending with pending := [] } : Link).status ≠ .connected := h
  unfold fallen
  rw [disconnected_of_ne hstatus]
  exact changes_failing l l.pending

theorem downPlans_fallen_connected {l : Link} (h : l.status = .connected) :
    l.fallen.downPlans = l.downPlans.drop 1 := by
  have hstatus : ({ l.failing l.pending with pending := [] } : Link).status = .connected := h
  unfold fallen
  rw [disconnected_of_connected hstatus]
  rfl

theorem downPlans_fallen_of_ne {l : Link} (h : l.status ≠ .connected) :
    l.fallen.downPlans = l.downPlans := by
  have hstatus : ({ l.failing l.pending with pending := [] } : Link).status ≠ .connected := h
  unfold fallen
  rw [disconnected_of_ne hstatus]
  rfl

end Link

/-! ## §2. The invariant. -/

namespace Wire

variable {ε : Type}

/-- The link is in order with its conversation; `plans` are those it began with. -/
structure Orderly (plans : List (List (List DownAction))) (w : Wire (Recorded ε)) : Prop where
  /-- Connected means to have a current socket. -/
  connected_iff : w.link.status = .connected ↔ w.link.socket.isSome = true
  /-- Every exchange was in turn, and the current socket is the one left open. -/
  current : Exchange.open? w.conversation = some w.link.socket
  /-- The owner is told of each connection that is opened and each that is closed. -/
  told : w.link.changes = w.conversation.filterMap Exchange.change?
  /-- Every connection was lost once, but for the current one. -/
  balance : w.link.changes.count .up = w.link.losses + (if w.link.socket.isSome then 1 else 0)
  /-- Each loss took one plan. -/
  plans : w.link.downPlans = plans.drop w.link.losses
  /-- Without a connection no command is pending. -/
  idle : w.link.socket = none → w.link.pending = []

variable {plans : List (List (List DownAction))} {w w' : Wire (Recorded ε)}

theorem Orderly.connected (h : w.Orderly plans) {s : Nat} (hsocket : w.link.socket = some s) :
    w.link.status = .connected := h.connected_iff.mpr (by rw [hsocket]; rfl)

theorem Orderly.not_connected (h : w.Orderly plans) (hsocket : w.link.socket = none) :
    w.link.status ≠ .connected := by
  intro hon
  have := h.connected_iff.mp hon
  rw [hsocket] at this
  cases this

/-- The callbacks for the loss of the current connection are those of the next plan. -/
theorem Orderly.callbacks (h : w.Orderly plans) {s : Nat} (hsocket : w.link.socket = some s) :
    w.link.callbacks = (plans[w.link.losses]?).getD [] := by
  unfold Link.callbacks
  rw [if_pos (h.connected hsocket), h.plans, List.head?_drop]

/-- A link in which nothing changes but what is pending, finished or numbered stays in
order, if it goes on talking on its socket. -/
theorem Orderly.keep (h : w.Orderly plans) {xs : List Exchange}
    (hconversation : w'.conversation = w.conversation ++ xs)
    (hturn : ∀ x ∈ xs, x.turn w.link.socket = some w.link.socket)
    (hchange : xs.filterMap Exchange.change? = [])
    (hsocket : w'.link.socket = w.link.socket)
    (hstatus : w'.link.status = .connected ↔ w.link.status = .connected)
    (hchanges : w'.link.changes = w.link.changes) (hplans : w'.link.downPlans = w.link.downPlans)
    (hidle : w.link.socket = none → w.link.pending = [] → w'.link.pending = []) :
    w'.Orderly plans := by
  have hlosses : w'.link.losses = w.link.losses := by
    unfold Link.losses
    rw [hchanges]
  constructor
  case connected_iff =>
    rw [hstatus, hsocket]
    exact h.connected_iff
  case current =>
    rw [hconversation, hsocket, Exchange.open?_append h.current]
    exact Exchange.foldlM_turn_eq hturn
  case told => rw [hchanges, h.told, hconversation, List.filterMap_append, hchange, List.append_nil]
  case balance =>
    rw [hchanges, hlosses, hsocket]
    exact h.balance
  case plans =>
    rw [hplans, hlosses]
    exact h.plans
  case idle =>
    intro hnone
    rw [hsocket] at hnone
    exact hidle hnone (h.idle hnone)

/-- A link that opens a connection is told of it. -/
theorem Orderly.opened (h : w.Orderly plans) {s : Nat} (hsocket : w.link.socket = none)
    (hconversation : w'.conversation = w.conversation ++ [.dialled (.ok s)])
    (hlink : w'.link = { w.link with socket := some s, deaf := false, status := .connected }.signal .up) :
    w'.Orderly plans := by
  have hchanges : w'.link.changes = w.link.changes ++ [.up] := by
    rw [hlink, Link.changes_signal]
    rfl
  -- to come up is no loss
  have hlosses : w'.link.losses = w.link.losses := by
    unfold Link.losses
    rw [hchanges, List.count_append]
    rfl
  have hnow : w'.link.socket = some s := by rw [hlink]; rfl
  constructor
  case connected_iff =>
    rw [hlink]
    exact ⟨fun _ => rfl, fun _ => rfl⟩
  case current =>
    rw [hconversation, Exchange.open?_append h.current, hsocket, hnow]
    rfl
  case told =>
    rw [hchanges, h.told, hconversation, List.filterMap_append]
    rfl
  case balance =>
    have := h.balance
    rw [hsocket] at this
    rw [hchanges, hlosses, hnow, List.count_append, this]
    rfl
  case plans =>
    rw [hlosses, hlink]
    exact h.plans
  case idle =>
    intro hnone
    rw [hnow] at hnone
    cases hnone

/-- A connection that is lost takes a plan and leaves nothing pending. -/
theorem Orderly.lost [Endpoint ε] (h : w.Orderly plans) {s : Nat} (hsocket : w.link.socket = some s) :
    (w.hangUp s).fallen.Orderly plans := by
  have hon := h.connected hsocket
  have hconversation : (w.hangUp s).fallen.conversation
      = w.conversation ++ [.closed s (w.network.close s).1] := Network.conversation_close w.network s
  have hchanges : (w.hangUp s).fallen.link.changes = w.link.changes ++ [.down] :=
    Link.changes_fallen_connected (l := (w.hangUp s).link) hon
  have hlosses : (w.hangUp s).fallen.link.losses = w.link.losses + 1 := by
    unfold Link.losses
    rw [hchanges, List.count_append]
    rfl
  constructor
  case connected_iff => simp
  case current =>
    rw [hconversation, Exchange.open?_append h.current, hsocket]
    simp [Exchange.turn]
  case told =>
    rw [hchanges, h.told, hconversation, List.filterMap_append]
    rfl
  case balance =>
    have := h.balance
    rw [hsocket] at this
    rw [hchanges, hlosses, List.count_append, this]
    simp
  case plans =>
    -- the loss used up the next plan
    have hplans : (w.hangUp s).fallen.link.downPlans = w.link.downPlans.drop 1 :=
      Link.downPlans_fallen_connected (l := (w.hangUp s).link) hon
    rw [hplans, hlosses, h.plans, List.drop_drop]
  case idle => simp

variable [Endpoint ε]

/-- **Every step keeps a link in order**, unless the user interrupts it. -/
theorem Step.orderly (step : Step w w') (h : w.Orderly plans)
    (hclean : Uninterrupted w'.conversation) : w'.Orderly plans := by
  -- most steps say nothing, and leave socket and status alone
  have hquiet {v : Wire (Recorded ε)} (hconversation : v.conversation = w.conversation)
      (hsocket : v.link.socket = w.link.socket) (hstatus : v.link.status = w.link.status)
      (hchanges : v.link.changes = w.link.changes) (hplans : v.link.downPlans = w.link.downPlans)
      (hidle : w.link.pending = [] → v.link.pending = []) : v.Orderly plans := by
    have hsaid : v.conversation = w.conversation ++ [] := by rw [hconversation, List.append_nil]
    exact h.keep hsaid (fun _ hx => nomatch hx) rfl hsocket (by rw [hstatus]) hchanges hplans
      (fun _ => hidle)
  have hturn {s : Option Nat} {x : Exchange} (hsocket : w.link.socket = s)
      (hx : Exchange.turn s x = some s) :
      ∀ y ∈ [x], Exchange.turn w.link.socket y = some w.link.socket := by
    intro y hy
    obtain rfl := List.mem_singleton.mp hy
    rw [hsocket, hx]
  cases step with
  | @refused b status hsocket hdial hstatus =>
    refine h.keep (Network.conversation_dial ..) (hturn hsocket ?_) ?_ rfl ?_ rfl rfl
      (fun _ hnone => hnone)
    · rw [hdial]
      rfl
    · rw [hdial]
      rfl
    · exact ⟨fun hon => absurd hon hstatus, fun hon => absurd hon (h.not_connected hsocket)⟩
  | opened hsocket hdial =>
    refine h.opened hsocket ?_ rfl
    rw [← hdial]
    exact Network.conversation_dial w.network w.link.url
  | numbered => exact hquiet rfl rfl rfl rfl rfl (fun hnone => hnone)
  | submitted hsocket hp =>
    refine h.keep (Network.conversation_send ..) (hturn hsocket (if_pos rfl)) rfl rfl .rfl rfl rfl ?_
    intro hnone
    rw [hsocket] at hnone
    cases hnone
  | notified hsocket =>
    exact h.keep (Network.conversation_send ..) (hturn hsocket (if_pos rfl)) rfl rfl .rfl rfl rfl
      (fun _ hnone => hnone)
  | dropped id =>
    refine hquiet rfl rfl rfl rfl rfl (fun hnone => ?_)
    show w.link.pending.filter _ = []
    rw [hnone]
    rfl
  | @read s hsocket =>
    refine h.keep (Network.conversation_receive ..) ?_ ?_ rfl .rfl rfl rfl (fun _ hnone => hnone)
    · intro x hx
      obtain ⟨frame, _, rfl⟩ := List.mem_map.mp hx
      rw [hsocket]
      exact if_pos rfl
    · rw [List.filterMap_map, List.filterMap_eq_nil_iff]
      intro frame _
      rfl
  | answered message =>
    refine hquiet rfl (Link.answer_socket ..) (Link.answer_status ..) (Link.changes_answer ..)
      (Link.answer_downPlans ..) (fun hnone => ?_)
    show (w.link.answer message).pending = []
    rw [Link.answer_of_idle hnone, hnone]
  | deafened => exact hquiet rfl rfl rfl rfl rfl (fun hnone => hnone)
  | lost hsocket hclose => exact h.lost hsocket
  | @cut s hsocket hclose =>
    exfalso
    revert hclean
    show ¬ Uninterrupted (w.network.close s).2.conversation
    rw [Network.conversation_close, hclose]
    exact not_uninterrupted_append rfl
  | settled hsocket =>
    have hoff := h.not_connected hsocket
    have hsaid : w.fallen.conversation = w.conversation ++ [] := (List.append_nil _).symm
    refine h.keep hsaid (fun _ hx => nomatch hx) rfl (Link.fallen_socket _) ?_
      (Link.changes_fallen_of_ne hoff) (Link.downPlans_fallen_of_ne hoff)
      (fun _ _ => Link.fallen_pending _)
    simp [hoff]
  | shut => exact hquiet rfl rfl rfl rfl rfl (fun hnone => hnone)
  | stirred f => exact hquiet rfl rfl rfl rfl rfl (fun hnone => hnone)

theorem Steps.orderly (steps : Steps w w') (h : w.Orderly plans)
    (hclean : Uninterrupted w'.conversation) : w'.Orderly plans := by
  induction steps with
  | refl => exact h
  | tail _ step ih => exact step.orderly (ih (hclean.of_prefix step.conversation)) hclean

/-! ## §3. Commands on a lost connection. -/

/-- Outcomes are kept. -/
theorem Step.outcomes (step : Step w w') : w.link.outcomes <+: w'.link.outcomes := by
  cases step with
  | answered message => exact w.link.answer_outcomes_prefix message
  | lost hsocket hclose =>
    rw [fallen_link, Link.fallen_outcomes]
    exact List.prefix_append _ _
  | settled hsocket =>
    rw [fallen_link, Link.fallen_outcomes]
    exact List.prefix_append _ _
  | _ => exact List.prefix_refl _

theorem Steps.outcomes (steps : Steps w w') : w.link.outcomes <+: w'.link.outcomes := by
  induction steps with
  | refl => exact List.prefix_refl _
  | tail _ step ih => exact ih.trans step.outcomes

/-- **A step that loses the connection fails every pending command.** -/
theorem Step.failed (step : Step w w') (h : w.Orderly plans)
    (hloss : w.link.losses < w'.link.losses) {p : Pending} (hp : p ∈ w.link.pending) :
    (p.id, lostOutcome) ∈ w'.link.outcomes := by
  have hsame {l : Link} (hchanges : l.changes = w.link.changes) : ¬ w.link.losses < l.losses := by
    unfold Link.losses
    rw [hchanges]
    exact Nat.lt_irrefl _
  cases step with
  | lost hsocket hclose =>
    rw [fallen_link, Link.fallen_outcomes]
    exact List.mem_append_right _ (List.mem_map.mpr ⟨p, hp, rfl⟩)
  | settled hsocket =>
    exact absurd hloss (hsame (Link.changes_fallen_of_ne (h.not_connected hsocket)))
  | answered message => exact absurd hloss (hsame (Link.changes_answer ..))
  | opened hsocket hdial =>
    refine absurd hloss ?_
    unfold Link.losses
    rw [Link.changes_signal, List.count_append]
    simp [Signal.change?, Link.changes]
  | _ => exact absurd hloss (hsame rfl)

end Wire

/-! ## §4. Runs. -/

/-- What happens to a link whose submitters leave it alone: what is done with it, and
what its sockets and the other side do. -/
inductive LinkEvent (ε : Type) where
  | connect
  | submit (method params : Json)
  | notify (method params : Json)
  | conclude (id : Nat) (method : Json)
  /-- Read what waits on the current socket. -/
  | poll
  /-- The reader of a socket, current or not, comes to its end. -/
  | exhausted (socket : Nat)
  | close
  /-- The host does something by itself. -/
  | stir (f : ε → ε)

namespace Wire

variable {ε : Type}

/-- A link that was never used, and a record of what will be said. -/
def recording (url : Json) (plans : List (List (List DownAction))) (host : ε) :
    Wire (Recorded ε) := fresh url plans { host := host }

theorem orderly_recording (url : Json) (plans : List (List (List DownAction))) (host : ε) :
    (recording url plans host).Orderly plans where
  connected_iff := by simp [recording, fresh]
  current := rfl
  told := rfl
  balance := rfl
  plans := rfl
  idle := fun _ => rfl

variable [Endpoint ε]

/-- The state after one event, however it ends. -/
def afterEvent (w : Wire (Recorded ε)) : LinkEvent ε → Wire (Recorded ε)
  | .connect => (connect.exec w).2
  | .submit method params => ((submit method params).exec w).2
  | .notify method params => ((notify method params).exec w).2
  | .conclude id method => ((conclude id method).exec w).2
  | .poll => (poll.exec w).2
  | .exhausted s => ((finish s).exec w).2
  | .close => (close.exec w).2
  | .stir f => { w with network := { w.network with endpoint := w.network.endpoint.stir f } }

/-- The state after a run of events. -/
def afterEvents (w : Wire (Recorded ε)) (events : List (LinkEvent ε)) : Wire (Recorded ε) :=
  events.foldl afterEvent w

theorem steps_afterEvent {w : Wire (Recorded ε)} (hplain : w.link.Plain) (event : LinkEvent ε) :
    Steps w (w.afterEvent event) := by
  cases event with
  | connect => exact stepping_connect.steps w hplain
  | submit method params => exact (stepping_submit method params).steps w hplain
  | notify method params => exact steps_notify method params hplain
  | conclude id method => exact steps_conclude id method w
  | poll => exact steps_poll hplain
  | exhausted s => exact steps_finish s hplain
  | close => exact stepping_close.steps w hplain
  | stir f => exact .single (.stirred f)

theorem steps_afterEvents (events : List (LinkEvent ε)) : ∀ w : Wire (Recorded ε),
    w.link.Plain → Steps w (w.afterEvents events) := by
  induction events with
  | nil => exact fun _ _ => .refl
  | cons event rest ih =>
    intro w hplain
    have hfirst := steps_afterEvent hplain event
    exact hfirst.trans (ih _ (hfirst.plain hplain))

/-- Every connection of a run has its one loss. -/
structure Lifetime (plans : List (List (List DownAction))) (start w : Wire (Recorded ε)) : Prop where
  /-- Status, socket, signals and plans agree with the conversation. -/
  orderly : w.Orderly plans
  /-- The run is made of steps. -/
  steps : Steps start w
  /-- A command that was pending when its connection was lost, at whatever point of the
  run, has failed. -/
  failed : ∀ v v', Steps start v → Step v v' → Steps v' w → v.link.losses < v'.link.losses →
    ∀ p ∈ v.link.pending, (p.id, lostOutcome) ∈ w.link.outcomes
  /-- Tearing the current connection down, at whatever point of the run, calls every
  callback of the plan for that loss, each once and in order. -/
  called : ∀ v, Steps start v → Steps v w → ∀ s owner, v.link.socket = some s →
    v.OwnedBy owner → Uninterrupted ((teardown owner).exec v).2.conversation →
      (teardown owner).exec v
        = (.ok (), (v.hangUp s).fallen.afterCallbacks ((plans[v.link.losses]?).getD []))
  /-- The end of a stale reader changes nothing. -/
  stale : ∀ s, w.link.socket ≠ some s → (finish s).exec w = (.ok .handled, w)

/-- **THE LIFETIME THEOREM**: after any run of events in which the user interrupts
nothing, whatever the host does and whatever the callbacks do in turn, the link is
connected exactly when it has a socket, and every connection that went down was lost
once, with its callbacks called once and its pending commands failed. -/
theorem run_lifetime (url : Json) (plans : List (List (List DownAction))) (host : ε)
    (events : List (LinkEvent ε))
    (hclean : Uninterrupted
      ((recording url plans host).afterEvents events).conversation) :
    Lifetime plans (recording url plans host)
      ((recording url plans host).afterEvents events) := by
  have hplain : (recording url plans host).link.Plain := fun _ hp => nomatch hp
  have hfresh := orderly_recording url plans host
  have hsteps := steps_afterEvents events _ hplain
  constructor
  case orderly => exact hsteps.orderly hfresh hclean
  case steps => exact hsteps
  case failed =>
    intro v v' hbefore hstep hafter hloss p hp
    have hcleanAt : Uninterrupted v.conversation :=
      hclean.of_prefix (hstep.conversation.trans hafter.conversation)
    exact hafter.outcomes.subset (hstep.failed (hbefore.orderly hfresh hcleanAt) hloss hp)
  case called =>
    intro v hbefore hafter s owner hsocket howner hquiet
    have hv := hbefore.orderly hfresh (hclean.of_prefix hafter.conversation)
    rw [← hv.callbacks hsocket]
    exact exec_teardown_loss (hbefore.plain hplain) hsocket howner hquiet
  case stale => exact fun s hstale => exec_finish_stale hstale

/-- Two callbacks at the first loss, of which one connects again and sends a command
that cannot be sent, and one callback at the second. -/
def nestedPlans : List (List (List DownAction)) := [[[.connect, .submit "a"], [.fail]], [[.connect]]]

/-- A host whose every socket breaks when the command is sent. -/
def breakingHost : RehearsedHost :=
  { rules := [{ method := "a", actions := [.breakSend (.error "gone")] }] }

/-- A connection that ends by itself, with a command pending on it. -/
def endingEvents : List (LinkEvent RehearsedHost) :=
  [.connect, .submit "b" (.obj []), .stir (fun h => { h with sockets := [{ queue := [.ended] }] }),
    .poll, .exhausted 0]

/-- One loss in another: of three connections that were opened two are lost, and the
third is the current one. -/
theorem run_lifetime_nested :
    Uninterrupted ((recording "ws" nestedPlans breakingHost).afterEvents
        endingEvents).conversation ∧
      ((recording "ws" nestedPlans breakingHost).afterEvents endingEvents).link.losses = 2 ∧
      ((recording "ws" nestedPlans breakingHost).afterEvents endingEvents).link.socket
        = some 2 ∧
      Lifetime nestedPlans (recording "ws" nestedPlans breakingHost)
        ((recording "ws" nestedPlans breakingHost).afterEvents endingEvents) := by
  have hclean : Uninterrupted ((recording "ws" nestedPlans breakingHost).afterEvents
      endingEvents).conversation := by decide +kernel
  exact ⟨hclean, by decide +kernel, by decide +kernel,
    run_lifetime "ws" nestedPlans breakingHost endingEvents hclean⟩

end Wire
end FlowTrace
