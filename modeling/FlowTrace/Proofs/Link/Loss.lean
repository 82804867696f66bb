/-
  FlowTrace.Proofs.Link.Loss
  ────────────────────────────────
  **THE LOSS OF A CONNECTION.**

  Tearing a connection down closes the socket, fails the pending commands,
  takes the link's status back and tells the owner.  If no submitter does
  anything about its failed command, nothing comes in between: the connection
  is lost in one step, and what the callbacks do starts from the state after it.

      hangUp    — the socket is closed and gone
      fallen    — the pending commands have failed, the owner is told
      callbacks — what is still to be done about it

  An owner whose socket is no longer the current one changes nothing.
-/
import FlowTrace.Proofs.Link.Run

namespace FlowTrace

/-! ## §1. The state after a loss. -/

namespace Link

/-- No submitter of a pending command connects again when it fails. -/
def Plain (l : Link) : Prop := ∀ p ∈ l.pending, p.reconnects = false

/-- The commands have failed, one after the other. -/
def failing (l : Link) (ps : List Pending) : Link :=
  { l with
    outcomes := l.outcomes ++ ps.map (fun p => (p.id, lostOutcome))
    signals := l.signals ++ ps.map (fun p => .completed p.id lostOutcome) }

/-- The link is disconnected.  If it was connected the owner is told, and one plan
for such a loss is used up. -/
def disconnected (l : Link) : Link :=
  if l.status = .connected then
    { l with status := .disconnected, downPlans := l.downPlans.drop 1 }.signal .down
  else { l with status := .disconnected }

/-- The pending commands have failed and the link is disconnected. -/
def fallen (l : Link) : Link := { l.failing l.pending with pending := [] }.disconnected

/-- What is called when the connection is lost: the callbacks of the next plan. -/
def callbacks (l : Link) : List (List DownAction) :=
  if l.status = .connected then l.downPlans.head?.getD [] else []

theorem disconnected_of_connected {l : Link} (h : l.status = .connected) : l.disconnected =
    { l with status := .disconnected, downPlans := l.downPlans.drop 1 }.signal .down := if_pos h

theorem disconnected_of_ne {l : Link} (h : l.status ≠ .connected) :
    l.disconnected = { l with status := .disconnected } := if_neg h

@[simp] theorem disconnected_status (l : Link) : l.disconnected.status = .disconnected := by
  unfold disconnected
  split <;> rfl

@[simp] theorem disconnected_pending (l : Link) : l.disconnected.pending = l.pending := by
  unfold disconnected
  split <;> rfl

@[simp] theorem disconnected_outcomes (l : Link) : l.disconnected.outcomes = l.outcomes := by
  unfold disconnected
  split <;> rfl

@[simp] theorem disconnected_socket (l : Link) : l.disconnected.socket = l.socket := by
  unfold disconnected
  split <;> rfl

@[simp] theorem disconnected_nextId (l : Link) : l.disconnected.nextId = l.nextId := by
  unfold disconnected
  split <;> rfl

@[simp] theorem disconnected_shutdown (l : Link) : l.disconnected.shutdown = l.shutdown := by
  unfold disconnected
  split <;> rfl

/-- A link that is disconnected tells nothing but that it is down. -/
theorem disconnected_signals (l : Link) :
    ∃ more, l.disconnected.signals = l.signals ++ more ∧ ∀ s ∈ more, s = .down := by
  by_cases hon : l.status = .connected
  · rw [disconnected_of_connected hon]
    exact ⟨[.down], rfl, fun s hs => List.mem_singleton.mp hs⟩
  · rw [disconnected_of_ne hon]
    exact ⟨[], (List.append_nil _).symm, nofun⟩

@[simp] theorem fallen_status (l : Link) : l.fallen.status = .disconnected := by simp [fallen]

@[simp] theorem fallen_pending (l : Link) : l.fallen.pending = [] := by simp [fallen]

@[simp] theorem fallen_outcomes (l : Link) :
    l.fallen.outcomes = l.outcomes ++ l.pending.map (fun p => (p.id, lostOutcome)) := by
  simp [fallen, failing]

@[simp] theorem fallen_socket (l : Link) : l.fallen.socket = l.socket := by
  simp [fallen, failing]

@[simp] theorem fallen_nextId (l : Link) : l.fallen.nextId = l.nextId := by
  simp [fallen, failing]

@[simp] theorem fallen_shutdown (l : Link) : l.fallen.shutdown = l.shutdown := by
  simp [fallen, failing]

/-- It makes no difference to the fall whether the socket is gone already. -/
theorem fallen_unplugged (l : Link) :
    ({ l with socket := none } : Link).fallen = { l.fallen with socket := none } := by
  unfold fallen disconnected
  by_cases hon : l.status = .connected
  · simp only [failing, hon, if_true]
    rfl
  · simp only [failing, hon, if_false]

end Link

namespace Wire

variable {ε : Type}

/-- The link has fallen. -/
def fallen (w : Wire ε) : Wire ε := { w with link := w.link.fallen }

@[simp] theorem fallen_link (w : Wire ε) : w.fallen.link = w.link.fallen := rfl

@[simp] theorem fallen_network (w : Wire ε) : w.fallen.network = w.network := rfl

@[simp] theorem hangUp_link [Endpoint ε] (w : Wire ε) (s : Nat) :
    (w.hangUp s).link = { w.link with socket := none } := rfl

@[simp] theorem hangUp_network [Endpoint ε] (w : Wire ε) (s : Nat) :
    (w.hangUp s).network = (w.network.close s).2 := rfl

/-- The owner is that of the current socket, or nobody in particular. -/
def OwnedBy (w : Wire ε) (owner : Option Nat) : Prop := owner = none ∨ owner = w.link.socket

theorem OwnedBy.not_stale {w : Wire ε} {owner : Option Nat} (h : w.OwnedBy owner) :
    ¬ (owner.isSome && w.link.socket != owner) = true := by
  rcases h with rfl | rfl <;> simp

/-- The link without a socket. -/
def unplugged (w : Wire ε) : Wire ε := { w with link := { w.link with socket := none } }

/-! ## §2. Tearing down. -/

variable {onDown : List (List DownAction) → Act (Wire ε) Unit}

/-- Becoming disconnected is told only by a link that was connected. -/
theorem exec_becomeDisconnected (hnil : onDown [] = pure ()) (w : Wire ε) :
    (becomeDisconnected onDown).exec w
      = (onDown w.link.callbacks).exec { w with link := w.link.disconnected } := by
  unfold becomeDisconnected
  rw [Act.exec_bind_ok (exec_look w)]
  by_cases hon : w.link.status = .connected
  · have hcallbacks : w.link.callbacks = w.link.downPlans.head?.getD [] := if_pos hon
    rw [if_neg (by simp [hon]), Act.exec_bind_ok (exec_update _ w), if_pos hon,
      Act.exec_bind_ok (exec_update _ _), hcallbacks, Link.disconnected_of_connected hon]
  · have hcallbacks : w.link.callbacks = [] := if_neg hon
    rw [hcallbacks, hnil, Link.disconnected_of_ne hon]
    by_cases hoff : w.link.status = .disconnected
    · rw [if_pos hoff, ← hoff]
    · rw [if_neg hoff, Act.exec_bind_ok (exec_update _ w), if_neg hon]

variable [Endpoint ε]

/-- Commands whose submitters do nothing fail without more ado. -/
theorem exec_failAll (ps : List Pending) :
    ∀ w : Wire ε, (∀ p ∈ ps, p.reconnects = false) →
      (failAll ps).exec w = (.ok (), { w with link := w.link.failing ps }) := by
  induction ps with
  | nil =>
    intro w _
    have hsame : w.link.failing [] = w.link := by simp [Link.failing]
    rw [hsame]
    rfl
  | cons p rest ih =>
    intro w hplain
    have hp : p.reconnects = false := hplain p (List.mem_cons_self ..)
    unfold failAll
    rw [Act.exec_bind_ok (exec_update _ w), if_neg (by simp [hp])]
    show (failAll rest).exec _ = _
    rw [ih _ (fun q hq => hplain q (List.mem_cons_of_mem p hq))]
    simp [Link.failing, Link.complete, Link.signal, lostOutcome]

/-- A link that has lost its socket falls, and then the callbacks are called. -/
theorem exec_failPending (hnil : onDown [] = pure ()) {w : Wire ε} (hplain : w.link.Plain) :
    (failPending onDown).exec w = (onDown w.link.callbacks).exec w.fallen := by
  unfold failPending
  rw [Act.exec_bind_ok (exec_look w), Act.exec_bind_ok (exec_update _ w),
    Act.exec_bind_ok (exec_failAll _ _ hplain), exec_becomeDisconnected hnil]
  rfl

/-- A socket is closed, whatever the connection says to it. -/
theorem exec_closeSocket {w : Wire ε} {s : Nat}
    (hclose : (w.network.close s).1 ≠ .error .interrupted) :
    (closeSocket s).exec w = (.ok (), { w with network := (w.network.close s).2 }) := by
  unfold closeSocket
  rw [Act.exec_bind_ok (exec_onNetwork _ w)]
  cases hanswer : (w.network.close s).1 with
  | ok _ => rfl
  | error b =>
    cases b with
    | error text => rfl
    | interrupted => exact absurd hanswer hclose

theorem exec_closeSocket_interrupted {w : Wire ε} {s : Nat}
    (hclose : (w.network.close s).1 = .error .interrupted) :
    (closeSocket s).exec w = (.error .interrupt, { w with network := (w.network.close s).2 }) := by
  unfold closeSocket
  rw [Act.exec_bind_ok (exec_onNetwork _ w), hclose]
  rfl

/-- Tearing down, when it is one's own connection or none. -/
theorem exec_teardownWith_owned {w : Wire ε} {owner : Option Nat} (howner : w.OwnedBy owner) :
    (teardownWith onDown owner).exec w =
      ((match w.link.socket with
        | some s => closeSocket s
        | none => pure ()) >>= fun _ => failPending onDown).exec w.unplugged := by
  unfold teardownWith
  rw [Act.exec_bind_ok (exec_look w), if_neg howner.not_stale, Act.exec_bind_ok (exec_update _ w)]
  cases w.link.socket <;> rfl

/-- **The loss of the current connection**: the link falls in one step, and the
callbacks are called from there. -/
theorem exec_teardownWith (hnil : onDown [] = pure ()) {w : Wire ε} {owner : Option Nat} {s : Nat}
    (hplain : w.link.Plain) (hsocket : w.link.socket = some s) (howner : w.OwnedBy owner)
    (hclose : (w.network.close s).1 ≠ .error .interrupted) :
    (teardownWith onDown owner).exec w = (onDown w.link.callbacks).exec (w.hangUp s).fallen := by
  rw [exec_teardownWith_owned howner, hsocket]
  have hhangUp : (closeSocket s).exec w.unplugged = (.ok (), w.hangUp s) := exec_closeSocket hclose
  exact (Act.exec_bind_ok hhangUp).trans (exec_failPending hnil (w := w.hangUp s) hplain)

/-- An interruption while the socket is closed leaves it at that. -/
theorem exec_teardownWith_interrupted {w : Wire ε} {owner : Option Nat} {s : Nat}
    (hsocket : w.link.socket = some s) (howner : w.OwnedBy owner)
    (hclose : (w.network.close s).1 = .error .interrupted) :
    (teardownWith onDown owner).exec w = (.error .interrupt, w.hangUp s) := by
  rw [exec_teardownWith_owned howner, hsocket]
  have hcut : (closeSocket s).exec w.unplugged = (.error .interrupt, w.hangUp s) :=
    exec_closeSocket_interrupted hclose
  exact Act.exec_bind_error hcut

/-- Without a socket there is nothing to close. -/
theorem exec_teardownWith_none (hnil : onDown [] = pure ()) {w : Wire ε}
    (hplain : w.link.Plain) (hsocket : w.link.socket = none) :
    (teardownWith onDown none).exec w = (onDown w.link.callbacks).exec w.fallen := by
  have hsame : w.unplugged = w := by
    unfold unplugged
    rw [← hsocket]
  rw [exec_teardownWith_owned (.inl rfl), hsocket, hsame]
  exact exec_failPending hnil hplain

/-- **A stale owner changes nothing.** -/
theorem exec_teardownWith_stale {w : Wire ε} {s : Nat} (hstale : w.link.socket ≠ some s) :
    (teardownWith onDown (some s)).exec w = (.ok (), w) := by
  unfold teardownWith
  rw [Act.exec_bind_ok (exec_look w), if_pos (by simp [bne_iff_ne, hstale])]
  rfl

end Wire
end FlowTrace
