/-
  FlowTrace.Proofs.Link.Conversation
  ────────────────────────────────
  **WHAT GOES OVER THE CONNECTIONS.**

  A link sees the other side only through four operations of an endpoint.  An
  endpoint that records them does all that it did before, and its record is
  the conversation: what was dialled, sent, received and closed, with the
  answers, in order.  Whatever is claimed of a connection can be read off it,
  without a look at the link.
-/
import FlowTrace.Link.Basic

namespace FlowTrace

/-- Is the envelope a command with the method? -/
def Envelope.asks (e : Envelope) (method : String) : Bool :=
  match e.method with
  | .str m => m == method
  | _ => false

/-- One exchange between a link and the other side. -/
inductive Exchange where
  | dialled (answer : Except Breakdown Nat)
  | sent (socket : Nat) (envelope : Envelope) (answer : Except Breakdown Unit)
  | received (socket : Nat) (frame : Frame)
  | closed (socket : Nat) (answer : Except Breakdown Unit)

/-- An endpoint with a record of its exchanges. -/
structure Recorded (ε : Type) where
  host : ε
  conversation : List Exchange := []

namespace Recorded

variable {ε : Type}

/-- The record with one more exchange, and the host after it. -/
def after (r : Recorded ε) (host : ε) (xs : List Exchange) : Recorded ε :=
  { host := host, conversation := r.conversation ++ xs }

/-- The host does something by itself. -/
def stir (f : ε → ε) (r : Recorded ε) : Recorded ε := { r with host := f r.host }

instance [Endpoint ε] : Endpoint (Recorded ε) where
  connect r url :=
    let a := Endpoint.connect r.host url
    (a.1, r.after a.2 [.dialled a.1])
  send r socket e :=
    let a := Endpoint.send r.host socket e
    (a.1, r.after a.2 [.sent socket e a.1])
  receive r socket :=
    let a := Endpoint.receive r.host socket
    (a.1, r.after a.2 (a.1.toList.map (.received socket)))
  close r socket :=
    let a := Endpoint.close r.host socket
    (a.1, r.after a.2 [.closed socket a.1])

end Recorded

/-! ## §1. Exchanges of a network. -/

namespace Network

variable {ε : Type}

/-- The conversation up to now. -/
def conversation (n : Network (Recorded ε)) : List Exchange := n.endpoint.conversation

variable [Endpoint ε] (n : Network (Recorded ε))

@[simp] theorem conversation_dial (url : Json) :
    (n.dial url).2.conversation = n.conversation ++ [.dialled (n.dial url).1] := rfl

@[simp] theorem conversation_send (socket : Nat) (e : Envelope) :
    (n.send socket e).2.conversation = n.conversation ++ [.sent socket e (n.send socket e).1] := rfl

@[simp] theorem conversation_receive (socket : Nat) :
    (n.receive socket).2.conversation
      = n.conversation ++ (n.receive socket).1.toList.map (.received socket) := rfl

@[simp] theorem conversation_close (socket : Nat) :
    (n.close socket).2.conversation = n.conversation ++ [.closed socket (n.close socket).1] := rfl

end Network

/-- The conversation of a link. -/
def Wire.conversation {ε : Type} (w : Wire (Recorded ε)) : List Exchange := w.network.conversation

/-! ## §2. Conversations without interruptions. -/

/-- The user's interruption came in place of an answer. -/
def Exchange.isInterrupted : Exchange → Bool
  | dialled (.error .interrupted) => true
  | sent _ _ (.error .interrupted) => true
  | closed _ (.error .interrupted) => true
  | _ => false

/-- No exchange was interrupted. -/
def Uninterrupted (xs : List Exchange) : Prop := ∀ x ∈ xs, x.isInterrupted = false

instance (xs : List Exchange) : Decidable (Uninterrupted xs) :=
  inferInstanceAs (Decidable (∀ x ∈ xs, x.isInterrupted = false))

theorem uninterrupted_append {xs ys : List Exchange} :
    Uninterrupted (xs ++ ys) ↔ Uninterrupted xs ∧ Uninterrupted ys := by
  unfold Uninterrupted
  rw [List.forall_mem_append]

/-- What holds of a whole conversation holds of its beginning. -/
theorem Uninterrupted.of_prefix {xs ys : List Exchange} (h : Uninterrupted ys)
    (hbegin : xs <+: ys) : Uninterrupted xs := by
  obtain ⟨rest, rfl⟩ := hbegin
  exact (uninterrupted_append.mp h).1

end FlowTrace
