/-
  FlowTrace.Proofs.Link.Severed
  ────────────────────────────────
  **A LINK THAT WAS CLOSED FOR GOOD.**

  Closing a link drops its socket, fails what is pending and forbids another
  connection before anybody is told.  So whoever connects or sends from a callback
  finds the link severed already:

      shut        — it will not connect again
      unplugged   — it has no socket
      idle        — nothing is pending on it

  A severed link does nothing any more but count the commands that it refuses.
-/
import FlowTrace.Proofs.Link.Callbacks

namespace FlowTrace

/-! ## §1. Properties that an action keeps. -/

namespace Act

variable {σ α β : Type} {P Q : σ → Prop}

/-- From states with the one property the action leads to states with the other, however
it ends. -/
def Leads (P Q : σ → Prop) (a : Act σ α) : Prop := ∀ s, P s → Q (a.exec s).2

/-- The action keeps a property of states, however it ends. -/
def Keeps (P : σ → Prop) (a : Act σ α) : Prop := Leads P P a

theorem Leads.bind {a : Act σ α} {f : α → Act σ β} (ha : Leads P Q a) (hf : ∀ x, Keeps Q (f x)) :
    Leads P Q (a >>= f) := by
  intro s hs
  have hfirst := ha s hs
  rw [exec_bind]
  cases hr : a.exec s with
  | mk r s₁ =>
    rw [hr] at hfirst
    cases r with
    | error e => exact hfirst
    | ok x => exact hf x s₁ hfirst

theorem Leads.attempt {a : Act σ α} (ha : Leads P Q a) : Leads P Q (Act.attempt a) := ha

theorem Leads.ite {c : Prop} [Decidable c] {a b : Act σ α} (ha : Leads P Q a) (hb : Leads P Q b) :
    Leads P Q (if c then a else b) := by
  by_cases hc : c
  · rwa [if_pos hc]
  · rwa [if_neg hc]

namespace Keeps

theorem bind {a : Act σ α} {f : α → Act σ β} (ha : Keeps P a) (hf : ∀ x, Keeps P (f x)) :
    Keeps P (a >>= f) := Leads.bind ha hf

theorem attempt {a : Act σ α} (ha : Keeps P a) : Keeps P (Act.attempt a) := ha

theorem ite {c : Prop} [Decidable c] {a b : Act σ α} (ha : Keeps P a) (hb : Keeps P b) :
    Keeps P (if c then a else b) := Leads.ite ha hb

theorem contained {a : Act σ Unit} (ha : Keeps P a) : Keeps P (Act.contained a) := by
  intro s hs
  rw [exec_contained_snd]
  exact ha s hs

/-- An action that leaves the states in question alone keeps everything. -/
theorem of_snd_eq {a : Act σ α} (h : ∀ s, P s → (a.exec s).2 = s) : Keeps P a := by
  intro s hs
  rw [h s hs]
  exact hs

end Keeps
end Act

/-! ## §2. What a severed link does. -/

namespace Wire

variable {ε : Type} {w w' : Wire ε}

/-- The link was closed for good: it has no socket, and no command waits for its reply. -/
structure Severed (w : Wire ε) : Prop where
  shut : w.link.shutdown = true
  unplugged : w.link.socket = none
  idle : w.link.pending = []

/-- A change of the other parts of a link. -/
theorem Severed.same (h : w.Severed) (hshut : w'.link.shutdown = w.link.shutdown)
    (hsocket : w'.link.socket = w.link.socket) (hpending : w'.link.pending = w.link.pending) :
    w'.Severed := ⟨hshut.trans h.shut, hsocket.trans h.unplugged, hpending.trans h.idle⟩

/-- A number is taken for a command that is not put on the wire. -/
def counted (w : Wire ε) : Wire ε := { w with link := w.link.allocate.2 }

/-- A command that was refused leaves no trace among the pending ones. -/
theorem Severed.dropped (h : w.Severed) (p : Pending) (hid : p.id = w.link.nextId) :
    (w.link.allocate.2.addPending p).dropPending w.link.nextId = w.link.allocate.2 := by
  have hpending : (w.link.pending ++ [p]).filter (fun q => q.id != w.link.nextId)
      = w.link.pending := by
    rw [h.idle]
    simp [hid]
  show ({ w.link with
    nextId := w.link.nextId + 1
    pending := (w.link.pending ++ [p]).filter (fun q => q.id != w.link.nextId) } : Link) = _
  rw [hpending]
  rfl

theorem Severed.counted (h : w.Severed) : w.counted.Severed := h.same rfl rfl rfl

variable [Endpoint ε] {down : Option Nat → Act (Wire ε) Unit}

theorem Severed.exec_connect (h : w.Severed) :
    connect.exec w = (.error (.link "transport closed"), w) := by
  have hconnects := connects_connect w
  generalize connect.exec w = r at hconnects
  cases hconnects with
  | already hsocket => cases h.unplugged ▸ hsocket
  | shut hsocket hshut => rfl
  | opened hsocket hopen hdial => cases hopen.symm.trans h.shut
  | refused hsocket hopen hdial => cases hopen.symm.trans h.shut
  | interrupted hsocket hopen hdial => cases hopen.symm.trans h.shut

/-- A link that is shut sends nothing, whatever socket it has. -/
theorem exec_sendWith_shut (hshut : w.link.shutdown = true) (e : Envelope) :
    (sendWith down e).exec w = (.error (.link "transport closed"), w) := by
  unfold sendWith
  rw [Act.exec_bind_ok (exec_look w), if_pos hshut]
  rfl

/-- **A severed link refuses every command**: nothing is sent, and nothing waits. -/
theorem Severed.exec_submitWith (h : w.Severed) (method params : Json) (reconnects : Bool) :
    (submitWith down method params reconnects).exec w
      = (.error (.link "transport closed"), w.counted) := by
  let p : Pending := { id := w.link.nextId, method := method, reconnects := reconnects }
  let e : Envelope := { id := w.link.nextId, method := method, params := params.orObject }
  have hattempt : (Act.attempt (sendWith down e)).exec
      { w with link := w.link.allocate.2.addPending p }
        = (.ok (.error (.link "transport closed")),
            { w with link := w.link.allocate.2.addPending p }) := by
    -- the command that waits makes the link no less shut
    rw [Act.exec_attempt,
      exec_sendWith_shut (w := { w with link := w.link.allocate.2.addPending p }) h.shut e]
  unfold submitWith
  rw [Act.exec_bind_ok (exec_allocate w), Act.exec_bind_ok (exec_update _ _)]
  show (Act.attempt (sendWith down e) >>= _).exec
    { w with link := w.link.allocate.2.addPending p } = _
  rw [Act.exec_bind_ok hattempt]
  show (_, { w with link := (w.link.allocate.2.addPending p).dropPending w.link.nextId }) = _
  rw [h.dropped p rfl]
  rfl

theorem Severed.exec_notify (h : w.Severed) (method params : Json) :
    (notify method params).exec w = (.error (.link "transport closed"), w.counted) := by
  unfold notify
  rw [Act.exec_bind_ok (exec_allocate w)]
  exact Act.exec_bind_error (exec_sendWith_shut (w := w.counted) h.shut _)

theorem Severed.exec_poll (h : w.Severed) : poll.exec w = (.ok .idle, w) := by
  unfold poll
  rw [Act.exec_bind_ok (exec_look w), h.unplugged]
  rfl

/-! ## §3. Closing severs. -/

/-- Severed, and with a status that nothing changes from now on. -/
def SeveredAt (status : LinkStatus) (w : Wire ε) : Prop := w.Severed ∧ w.link.status = status

variable {status : LinkStatus}

theorem keeps_connect : Act.Keeps (SeveredAt status) (connect : Act (Wire ε) Unit) :=
  .of_snd_eq fun w hw => by rw [hw.1.exec_connect]

theorem keeps_submitWith (method params : Json) (reconnects : Bool) :
    Act.Keeps (SeveredAt status) (submitWith down method params reconnects) := by
  intro w hw
  rw [hw.1.exec_submitWith]
  exact ⟨hw.1.counted, hw.2⟩

/-- Whatever a callback tries, the link stays severed. -/
theorem keeps_runDownActions (actions : List DownAction) :
    Act.Keeps (SeveredAt status) (runDownActions down actions) := by
  induction actions with
  | nil => exact .of_snd_eq fun _ _ => rfl
  | cons action rest ih =>
    cases action with
    | connect => exact .bind keeps_connect fun _ => ih
    | submit method => exact .bind (keeps_submitWith _ _ _) fun _ => ih
    | fail => exact .of_snd_eq fun _ _ => rfl

theorem keeps_runDownPlan (plan : List (List DownAction)) :
    Act.Keeps (SeveredAt status) (runDownPlan down plan) := by
  induction plan with
  | nil => exact .of_snd_eq fun _ _ => rfl
  | cons actions rest ih => exact .bind (.contained (keeps_runDownActions actions)) fun _ => ih

/-- A submitter that would connect again does not. -/
theorem keeps_failAll (ps : List Pending) :
    Act.Keeps (SeveredAt status) (failAll ps : Act (Wire ε) Unit) := by
  induction ps with
  | nil => exact .of_snd_eq fun _ _ => rfl
  | cons p rest ih =>
    refine .bind (fun w hw => ⟨hw.1.same rfl rfl rfl, hw.2⟩) fun _ => ?_
    by_cases hreconnects : p.reconnects = true
    · rw [if_pos hreconnects]
      exact .bind (.contained keeps_connect) fun _ => ih
    · rw [if_neg hreconnects]
      exact ih

omit [Endpoint ε] in
/-- Becoming disconnected, a severed link stays severed. -/
theorem Severed.becomeDisconnected (h : w.Severed)
    {onDown : List (List DownAction) → Act (Wire ε) Unit}
    (hdown : ∀ plan, Act.Keeps (SeveredAt .disconnected) (onDown plan)) :
    SeveredAt .disconnected ((becomeDisconnected onDown).exec w).2 := by
  unfold Wire.becomeDisconnected
  rw [Act.exec_bind_ok (exec_look w)]
  by_cases hoff : w.link.status = .disconnected
  · rw [if_pos hoff]
    exact ⟨h, hoff⟩
  · rw [if_neg hoff, Act.exec_bind_ok (exec_update _ w)]
    by_cases hon : w.link.status = .connected
    · rw [if_pos hon, Act.exec_bind_ok (exec_update _ _)]
      exact hdown _ _ ⟨h.same rfl rfl rfl, rfl⟩
    · rw [if_neg hon]
      exact ⟨h.same rfl rfl rfl, rfl⟩

/-- Closing a socket changes the network only. -/
theorem closeSocket_link (k : Nat) : ((closeSocket k).exec w).2.link = w.link := by
  unfold closeSocket
  rw [Act.exec_bind_ok (exec_onNetwork _ w)]
  rcases (w.network.close k).1 with b | _
  · cases b <;> rfl
  · rfl

/-- Tearing down to the end severs a link that is shut. -/
theorem severed_teardownWith {onDown : List (List DownAction) → Act (Wire ε) Unit}
    (hdown : ∀ plan, Act.Keeps (SeveredAt .disconnected) (onDown plan))
    (hshut : w.link.shutdown = true) (h : (teardownWith onDown none).exec w = (.ok (), w')) :
    SeveredAt .disconnected w' := by
  rw [exec_teardownWith_owned (.inl rfl)] at h
  obtain ⟨_, w₁, hclosed, h⟩ := Act.of_exec_bind_ok h
  have hlink : w₁.link = { w.link with socket := none } := by
    have hsame := congrArg (fun r => r.2.link) hclosed
    refine Eq.trans hsame.symm ?_
    cases w.link.socket with
    | none => rfl
    | some k => exact closeSocket_link k
  unfold failPending at h
  rw [Act.exec_bind_ok (exec_look w₁), Act.exec_bind_ok (exec_update _ w₁)] at h
  -- from here on nothing is pending, and the commands that were are failed one by one
  have hstart : SeveredAt w.link.status { w₁ with link := { w₁.link with pending := [] } } := by
    refine ⟨⟨?_, ?_, rfl⟩, ?_⟩ <;> simp only [hlink, hshut]
  obtain ⟨_, w₂, hfailed, h⟩ := Act.of_exec_bind_ok h
  have hfail := keeps_failAll w₁.link.pending _ hstart
  rw [hfailed] at hfail
  have hend := hfail.1.becomeDisconnected hdown
  rwa [h] at hend

/-- **Closing severs the link**, if it is not interrupted. -/
theorem severed_close (h : close.exec w = (.ok (), w')) : SeveredAt .disconnected w' := by
  unfold close at h
  rw [Act.exec_bind_ok (exec_update _ w)] at h
  unfold teardown at h
  rw [Act.exec_bind_ok (exec_look _)] at h
  change (teardownWithin w.link.downPlans.length none).exec _ = _ at h
  cases hdepth : w.link.downPlans.length with
  | zero =>
    rw [hdepth] at h
    exact severed_teardownWith (fun _ => .of_snd_eq fun _ _ => rfl) rfl h
  | succ depth =>
    rw [hdepth] at h
    exact severed_teardownWith keeps_runDownPlan rfl h

/-- Closing once more does nothing. -/
theorem SeveredAt.exec_close (h : SeveredAt .disconnected w) : close.exec w = (.ok (), w) := by
  obtain ⟨⟨hshut, hsocket, hidle⟩, hstatus⟩ := h
  have hsame : ({ w with link := { w.link with shutdown := true } } : Wire ε) = w := by
    rw [← hshut]
  have hunplugged : w.unplugged = w := by
    unfold unplugged
    rw [← hsocket]
  have hpending : ({ w with link := { w.link with pending := [] } } : Wire ε) = w := by
    rw [← hidle]
  -- there is nothing left to close, to fail or to tell
  have hdown {onDown : List (List DownAction) → Act (Wire ε) Unit} :
      (teardownWith onDown none).exec w = (.ok (), w) := by
    rw [exec_teardownWith_owned (.inl rfl), hsocket, hunplugged]
    show (failPending onDown).exec w = _
    unfold failPending
    rw [Act.exec_bind_ok (exec_look w), Act.exec_bind_ok (exec_update _ w), hpending, hidle]
    show (Wire.becomeDisconnected onDown).exec w = _
    unfold Wire.becomeDisconnected
    rw [Act.exec_bind_ok (exec_look w), if_pos hstatus]
    rfl
  unfold close
  rw [Act.exec_bind_ok (exec_update _ w), hsame]
  unfold teardown
  rw [Act.exec_bind_ok (exec_look w)]
  cases w.link.downPlans.length with
  | zero => exact hdown
  | succ depth => exact hdown

end Wire
end FlowTrace
