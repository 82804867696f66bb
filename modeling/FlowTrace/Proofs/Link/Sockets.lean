/-
  FlowTrace.Proofs.Link.Sockets
  ────────────────────────────────
  **NO SOCKET IS FORGOTTEN.**

  A link dials only when it has no socket, and closes the socket that it gives up.  So
  the sockets that are open are exactly the one that it has, if it has one:

      tidy_connect     — a socket is opened only by taking it
      tidy_teardown    — a socket is dropped only by closing it
      tidy_submit, tidy_notify, tidy_poll, tidy_conclude

  This holds whatever the other side does, through every interruption, and whatever
  the callbacks at a loss try.  Nothing but closing the link shuts it.
-/
import FlowTrace.Proofs.Link.Severed

namespace FlowTrace
namespace Wire

variable {ε : Type} {w w' : Wire ε} {shut : Bool} {given : Nat}

/-- The sockets that are open are the one of the link, if it has one; the link is shut or
not, and the numbers below a bound are given. -/
structure Tidy (shut : Bool) (given : Nat) (w : Wire ε) : Prop where
  held : w.network.openSockets = w.link.socket.toList
  shutdown : w.link.shutdown = shut
  numbered : given ≤ w.link.nextId

/-! ## §1. Pieces. -/

/-- A link with the same socket, as shut, that has given no fewer numbers. -/
theorem Tidy.same (h : w.Tidy shut given) (hopen : w'.network.openSockets = w.network.openSockets)
    (hsocket : w'.link.socket = w.link.socket) (hshut : w'.link.shutdown = w.link.shutdown)
    (hnext : w.link.nextId ≤ w'.link.nextId) : w'.Tidy shut given where
  held := by rw [hopen, hsocket, h.held]
  shutdown := hshut.trans h.shutdown
  numbered := Nat.le_trans h.numbered hnext

/-- A change of the link that leaves its socket, its end and its numbers alone. -/
theorem tidy_update {f : Link → Link} (hsocket : ∀ l, (f l).socket = l.socket)
    (hshut : ∀ l, (f l).shutdown = l.shutdown) (hnext : ∀ l, (f l).nextId = l.nextId) :
    Act.Keeps (Tidy shut given) (update f : Act (Wire ε) Unit) :=
  fun w hw => hw.same rfl (hsocket w.link) (hshut w.link) (Nat.le_of_eq (hnext w.link).symm)

theorem tidy_look : Act.Keeps (Tidy shut given) (look : Act (Wire ε) Link) :=
  .of_snd_eq fun _ _ => rfl

/-- One more number is given. -/
theorem leads_allocate :
    Act.Leads (Tidy shut given) (Tidy shut (given + 1)) (allocate : Act (Wire ε) Nat) :=
  fun _ hw => ⟨hw.held, hw.shutdown, Nat.succ_le_succ hw.numbered⟩

theorem Tidy.fewer (h : w.Tidy shut (given + 1)) : w.Tidy shut given :=
  ⟨h.held, h.shutdown, Nat.le_of_succ_le h.numbered⟩

variable [Endpoint ε]

/-- A link that has no socket and is not shut dials.  It takes the socket that it is given, or it
has none. -/
theorem exec_connect_dialling (hnone : w.link.socket = none) (hopen : w.link.shutdown = false) :
    (∃ k, (w.network.dial w.link.url).1 = .ok k ∧ connect.exec w = (.ok (),
      { link := { w.link with socket := some k, deaf := false, status := .connected }.signal .up
        network := (w.network.dial w.link.url).2 })) ∨
    ∃ b f status, (w.network.dial w.link.url).1 = .error b ∧ connect.exec w = (.error f,
      { link := { w.link with status := status }, network := (w.network.dial w.link.url).2 }) := by
  have hconnects := connects_connect w
  generalize connect.exec w = r at hconnects
  cases hconnects with
  | already hsocket => cases hnone ▸ hsocket
  | shut hsocket hshut => cases hopen.symm.trans hshut
  | opened hsocket hopen hdial => exact .inl ⟨_, hdial, rfl⟩
  | refused hsocket hopen hdial => exact .inr ⟨_, _, _, hdial, rfl⟩
  | interrupted hsocket hopen hdial => exact .inr ⟨_, _, _, hdial, rfl⟩

/-- **A link takes every socket that it opens.** -/
theorem tidy_connect : Act.Keeps (Tidy shut given) (connect : Act (Wire ε) Unit) := by
  intro w hw
  -- the sockets that are open after dialling are what dialling has given
  have hdialled (hsocket : w.link.socket = none) : (w.network.dial w.link.url).2.openSockets
      = (w.network.dial w.link.url).1.toOption.toList := by
    show w.network.openSockets ++ _ = _
    rw [hw.held, hsocket]
    rfl
  have hunheld {b : Breakdown} (hsocket : w.link.socket = none)
      (hdial : (w.network.dial w.link.url).1 = .error b) :
      (w.network.dial w.link.url).2.openSockets = w.link.socket.toList := by
    rw [hdialled hsocket, hdial, hsocket]
    rfl
  have hconnects := connects_connect w
  generalize connect.exec w = r at hconnects
  cases hconnects with
  | already hsocket => exact hw
  | shut hsocket hshut => exact hw
  | opened hsocket hopen hdial =>
    exact ⟨(hdialled hsocket).trans (by rw [hdial]; rfl), hw.shutdown, hw.numbered⟩
  | refused hsocket hopen hdial => exact ⟨hunheld hsocket hdial, hw.shutdown, hw.numbered⟩
  | interrupted hsocket hopen hdial => exact ⟨hunheld hsocket hdial, hw.shutdown, hw.numbered⟩

/-! ## §2. Losing a connection. -/

theorem tidy_failAll (ps : List Pending) :
    Act.Keeps (Tidy shut given) (failAll ps : Act (Wire ε) Unit) := by
  induction ps with
  | nil => exact .of_snd_eq fun _ _ => rfl
  | cons p rest ih =>
    exact .bind (tidy_update (fun _ => rfl) (fun _ => rfl) fun _ => rfl) fun _ =>
      .ite (.bind (.contained tidy_connect) fun _ => ih) ih

omit [Endpoint ε] in
theorem tidy_becomeDisconnected {onDown : List (List DownAction) → Act (Wire ε) Unit}
    (hdown : ∀ plan, Act.Keeps (Tidy shut given) (onDown plan)) :
    Act.Keeps (Tidy shut given) (becomeDisconnected onDown) := by
  have hstatus (status : LinkStatus) :
      Act.Keeps (Tidy shut given)
        (update (fun l => { l with status := status }) : Act (Wire ε) Unit) :=
    tidy_update (fun _ => rfl) (fun _ => rfl) fun _ => rfl
  have hsignal : Act.Keeps (Tidy shut given)
      (update (fun l => { l with downPlans := l.downPlans.drop 1 }.signal .down)
        : Act (Wire ε) Unit) :=
    tidy_update (fun _ => rfl) (fun _ => rfl) fun _ => rfl
  exact .bind tidy_look fun l => .ite (.of_snd_eq fun _ _ => rfl) <| .bind (hstatus _) fun _ =>
    .ite (.bind hsignal fun _ => hdown _) (.of_snd_eq fun _ _ => rfl)

/-- The socket that a tidy link gives up is closed, even if somebody interrupts. -/
theorem Tidy.closing (h : w.Tidy shut given) {k : Nat} (hsocket : w.link.socket = some k) :
    ((closeSocket k).exec w.unplugged).2.Tidy shut given := by
  have hclosed : (w.network.close k).2.openSockets = [] := by
    show w.network.openSockets.filter (· != k) = []
    rw [h.held, hsocket]
    simp
  have hsnd : ((closeSocket k).exec w.unplugged).2
      = { w.unplugged with network := (w.network.close k).2 } := by
    by_cases hclose : (w.network.close k).1 = .error .interrupted
    · exact congrArg Prod.snd (exec_closeSocket_interrupted (w := w.unplugged) hclose)
    · exact congrArg Prod.snd (exec_closeSocket (w := w.unplugged) hclose)
  rw [hsnd]
  exact ⟨hclosed, h.shutdown, h.numbered⟩

/-- **A link closes every socket that it drops.** -/
theorem tidy_teardownWith {onDown : List (List DownAction) → Act (Wire ε) Unit}
    (hdown : ∀ plan, Act.Keeps (Tidy shut given) (onDown plan)) (owner : Option Nat) :
    Act.Keeps (Tidy shut given) (teardownWith onDown owner) := by
  -- to fail the commands keeps the sockets tidy, whatever is called on the way
  have hfail : Act.Keeps (Tidy shut given) (failPending onDown) :=
    .bind tidy_look fun _ => .bind (tidy_update (fun _ => rfl) (fun _ => rfl) fun _ => rfl) fun _ =>
      .bind (tidy_failAll _) fun _ => tidy_becomeDisconnected hdown
  intro w hw
  by_cases hstale : (owner.isSome && w.link.socket != owner) = true
  · unfold teardownWith
    rw [Act.exec_bind_ok (exec_look w), if_pos hstale]
    exact hw
  have howned : w.OwnedBy owner := by
    cases owner with
    | none => exact .inl rfl
    | some k =>
      have hsocket : w.link.socket = some k := by simpa using hstale
      exact .inr hsocket.symm
  rw [exec_teardownWith_owned howned]
  cases hsocket : w.link.socket with
  | none =>
    have hsame : w.unplugged.Tidy shut given := hw.same rfl hsocket.symm rfl (Nat.le_refl _)
    exact hfail _ hsame
  | some k =>
    have hclosed := hw.closing hsocket
    dsimp only
    rw [Act.exec_bind]
    cases hr : (closeSocket k).exec w.unplugged with
    | mk r w₁ =>
      rw [hr] at hclosed
      cases r with
      | error f => exact hclosed
      | ok u => exact hfail w₁ hclosed

/-! ## §3. Sending. -/

section

variable {down : Option Nat → Act (Wire ε) Unit}

theorem tidy_sendWith (hdown : ∀ owner, Act.Keeps (Tidy shut given) (down owner)) (e : Envelope) :
    Act.Keeps (Tidy shut given) (sendWith down e) := by
  refine .bind tidy_look fun l => .ite (.of_snd_eq fun _ _ => rfl) ?_
  cases l.socket with
  | none => exact .of_snd_eq fun _ _ => rfl
  | some k =>
    refine .bind (fun w hw => hw.same rfl rfl rfl (Nat.le_refl _)) fun r => ?_
    rcases r with (text | _) | _
    · exact .bind (hdown _) fun _ => .of_snd_eq fun _ _ => rfl
    · exact .of_snd_eq fun _ _ => rfl
    · exact .of_snd_eq fun _ _ => rfl

/-- A command takes a number, whatever becomes of it. -/
theorem leads_submitWith (hdown : ∀ owner, Act.Keeps (Tidy shut (given + 1)) (down owner))
    (method params : Json) (reconnects : Bool) :
    Act.Leads (Tidy shut given) (Tidy shut (given + 1))
      (submitWith down method params reconnects) := by
  refine .bind leads_allocate fun id => ?_
  refine .bind (tidy_update (fun _ => rfl) (fun _ => rfl) fun _ => rfl) fun _ => ?_
  refine .bind (.attempt (tidy_sendWith hdown _)) fun r => ?_
  cases r with
  | ok _ => exact .of_snd_eq fun _ _ => rfl
  | error f =>
    exact .ite (.bind (tidy_update (fun _ => rfl) (fun _ => rfl) fun _ => rfl) fun _ =>
      .of_snd_eq fun _ _ => rfl) (.of_snd_eq fun _ _ => rfl)

theorem tidy_submitWith (hdown : ∀ given owner, Act.Keeps (Tidy shut given) (down owner))
    (method params : Json) (reconnects : Bool) :
    Act.Keeps (Tidy shut given) (submitWith down method params reconnects) :=
  fun w hw => (leads_submitWith (hdown _) method params reconnects w hw).fewer

theorem tidy_runDownActions (hdown : ∀ given owner, Act.Keeps (Tidy shut given) (down owner))
    (actions : List DownAction) : Act.Keeps (Tidy shut given) (runDownActions down actions) := by
  induction actions with
  | nil => exact .of_snd_eq fun _ _ => rfl
  | cons action rest ih =>
    cases action with
    | connect => exact .bind tidy_connect fun _ => ih
    | submit method => exact .bind (tidy_submitWith hdown _ _ _) fun _ => ih
    | fail => exact .of_snd_eq fun _ _ => rfl

theorem tidy_runDownPlan (hdown : ∀ given owner, Act.Keeps (Tidy shut given) (down owner))
    (plan : List (List DownAction)) : Act.Keeps (Tidy shut given) (runDownPlan down plan) := by
  induction plan with
  | nil => exact .of_snd_eq fun _ _ => rfl
  | cons actions rest ih =>
    exact .bind (.contained (tidy_runDownActions hdown actions)) fun _ => ih

end

/-- Induction on the losses inside one another. -/
theorem tidy_teardownWithin (depth : Nat) : ∀ given owner,
    Act.Keeps (Tidy shut given) (teardownWithin depth owner : Act (Wire ε) Unit) := by
  induction depth with
  | zero => exact fun given => tidy_teardownWith fun _ => .of_snd_eq fun _ _ => rfl
  | succ depth ih => exact fun given => tidy_teardownWith (tidy_runDownPlan ih)

theorem tidy_teardown (owner : Option Nat) :
    Act.Keeps (Tidy shut given) (teardown owner : Act (Wire ε) Unit) :=
  .bind tidy_look fun _ => tidy_teardownWithin _ given owner

theorem leads_submit (method params : Json) (reconnects : Bool) :
    Act.Leads (Tidy shut given) (Tidy shut (given + 1))
      (submit method params reconnects : Act (Wire ε) Nat) :=
  leads_submitWith tidy_teardown _ _ _

theorem tidy_notify (method params : Json) :
    Act.Keeps (Tidy shut given) (notify method params : Act (Wire ε) Nat) :=
  fun w hw => (Act.Leads.bind leads_allocate (fun _ =>
    .bind (tidy_sendWith tidy_teardown _) fun _ =>
      .of_snd_eq fun _ _ => rfl) w hw : Tidy shut (given + 1) _).fewer

omit [Endpoint ε] in
theorem tidy_conclude (id : Nat) (method : Json) :
    Act.Keeps (Tidy shut given) (conclude id method : Act (Wire ε) Json) := by
  refine .bind tidy_look fun l => ?_
  cases l.outcome? id with
  | none =>
    exact .bind (tidy_update (fun _ => rfl) (fun _ => rfl) fun _ => rfl) fun _ =>
      .of_snd_eq fun _ _ => rfl
  | some outcome => cases outcome <;> exact .of_snd_eq fun _ _ => rfl

/-! ## §4. Reading. -/

omit [Endpoint ε] in
theorem tidy_accept (m : List (String × Json)) :
    Act.Keeps (Tidy shut given) (accept m : Act (Wire ε) Poll) := by
  refine .ite (.of_snd_eq fun _ _ => rfl) (.ite (.bind ?_ fun _ => .of_snd_eq fun _ _ => rfl)
    (.of_snd_eq fun _ _ => rfl))
  exact tidy_update (fun l => l.answer_socket m) (fun l => l.answer_shutdown m)
    fun l => l.answer_nextId m

theorem tidy_finish (k : Nat) : Act.Keeps (Tidy shut given) (finish k : Act (Wire ε) Poll) :=
  .bind (tidy_teardown _) fun _ => .of_snd_eq fun _ _ => rfl

theorem tidy_takeIn (k : Nat) (frame : Frame) :
    Act.Keeps (Tidy shut given) (takeIn k frame : Act (Wire ε) Poll) := by
  rw [takeIn_eq]
  cases frame.intake with
  | object m => exact tidy_accept m
  | stop => exact tidy_finish k
  | deafen =>
    exact .bind (tidy_update (fun _ => rfl) (fun _ => rfl) fun _ => rfl) fun _ =>
      .of_snd_eq fun _ _ => rfl
  | nothing => exact .of_snd_eq fun _ _ => rfl

theorem tidy_poll : Act.Keeps (Tidy shut given) (poll : Act (Wire ε) Poll) := by
  refine .bind tidy_look fun l => ?_
  cases l.socket with
  | none => exact .of_snd_eq fun _ _ => rfl
  | some k =>
    refine .ite (.of_snd_eq fun _ _ => rfl) <|
      .bind (fun w hw => hw.same rfl rfl rfl (Nat.le_refl _)) fun frame => ?_
    cases frame with
    | none => exact .of_snd_eq fun _ _ => rfl
    | some frame => exact tidy_takeIn k frame

/-! ## §5. Closing. -/

/-- Closing shuts a link, and otherwise only tears down. -/
theorem leads_close :
    Act.Leads (Tidy shut given) (Tidy true given) (close : Act (Wire ε) Unit) :=
  .bind (fun _ hw => ⟨hw.held, rfl, hw.numbered⟩) fun _ => tidy_teardown none

end Wire

/-- The action has its guards inside: what it fails with is what no guard may keep. -/
def Act.Guarded {σ α : Type} (a : Act σ α) : Prop :=
  ∀ s f s', a.exec s = (.error f, s') → f.containable = false

namespace Act.Guarded

variable {σ α β : Type}

theorem of_ok {a : Act σ α} (h : ∀ s, ∃ x, (a.exec s).1 = .ok x) : Guarded a := by
  intro s f s' hexec
  obtain ⟨x, hx⟩ := h s
  rw [hexec] at hx
  cases hx

theorem bind {a : Act σ α} {f : α → Act σ β} (ha : Guarded a) (hf : ∀ x, Guarded (f x)) :
    Guarded (a >>= f) := by
  intro s g s' h
  rw [exec_bind] at h
  cases hr : a.exec s with
  | mk r s₁ =>
    rw [hr] at h
    cases r with
    | error e =>
      obtain ⟨he, -⟩ := Prod.mk.inj h
      obtain rfl := Except.error.inj he
      exact ha s e s₁ hr
    | ok x => exact hf x s₁ g s' h

theorem contained (a : Act σ Unit) : Guarded (Act.contained a) :=
  fun _ _ _ h => (exec_contained_error h).1

theorem ite {c : Prop} [Decidable c] {a b : Act σ α} (ha : Guarded a) (hb : Guarded b) :
    Guarded (if c then a else b) := by
  by_cases hc : c
  · rwa [if_pos hc]
  · rwa [if_neg hc]

end Act.Guarded

namespace Wire

variable {ε : Type} [Endpoint ε]

theorem guarded_closeSocket (k : Nat) : Act.Guarded (closeSocket k : Act (Wire ε) Unit) := by
  refine .bind (.of_ok fun _ => ⟨_, rfl⟩) fun r => ?_
  rcases r with (text | _) | _
  · exact .of_ok fun _ => ⟨_, rfl⟩
  · intro _ f _ h
    cases h
    rfl
  · exact .of_ok fun _ => ⟨_, rfl⟩

theorem guarded_failAll (ps : List Pending) : Act.Guarded (failAll ps : Act (Wire ε) Unit) := by
  induction ps with
  | nil => exact .of_ok fun _ => ⟨_, rfl⟩
  | cons p rest ih =>
    exact .bind (.of_ok fun _ => ⟨_, rfl⟩) fun _ => .ite (.bind (.contained _) fun _ => ih) ih

/-- The callbacks at a loss are guarded one by one. -/
theorem guarded_runDownPlan (down : Option Nat → Act (Wire ε) Unit)
    (plan : List (List DownAction)) : Act.Guarded (runDownPlan down plan) := by
  induction plan with
  | nil => exact .of_ok fun _ => ⟨_, rfl⟩
  | cons actions rest ih => exact .bind (.contained _) fun _ => ih

theorem guarded_teardownWith {onDown : List (List DownAction) → Act (Wire ε) Unit}
    (hdown : ∀ plan, Act.Guarded (onDown plan)) (owner : Option Nat) :
    Act.Guarded (teardownWith onDown owner) := by
  have hstep {f : Link → Link} : Act.Guarded (update f : Act (Wire ε) Unit) :=
    .of_ok fun _ => ⟨_, rfl⟩
  have hlook : Act.Guarded (look : Act (Wire ε) Link) := .of_ok fun _ => ⟨_, rfl⟩
  have hoff : Act.Guarded (becomeDisconnected onDown) :=
    .bind hlook fun _ => .ite (.of_ok fun _ => ⟨_, rfl⟩) <| .bind hstep fun _ =>
      .ite (.bind hstep fun _ => hdown _) (.of_ok fun _ => ⟨_, rfl⟩)
  have hfail : Act.Guarded (failPending onDown) :=
    .bind hlook fun _ => .bind hstep fun _ => .bind (guarded_failAll _) fun _ => hoff
  refine .bind hlook fun l => .ite (.of_ok fun _ => ⟨_, rfl⟩) <| .bind hstep fun _ => ?_
  cases l.socket with
  | none => exact hfail
  | some k => exact .bind (guarded_closeSocket k) fun _ => hfail

/-- **Only an interruption keeps a link from being closed.** -/
theorem guarded_close : Act.Guarded (close : Act (Wire ε) Unit) := by
  refine .bind (.of_ok fun _ => ⟨_, rfl⟩) fun _ => .bind (.of_ok fun _ => ⟨_, rfl⟩) fun l => ?_
  cases l.downPlans.length with
  | zero => exact guarded_teardownWith (fun _ => .of_ok fun _ => ⟨_, rfl⟩) none
  | succ depth => exact guarded_teardownWith (guarded_runDownPlan _) none

end Wire
end FlowTrace
