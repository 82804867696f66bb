/-
  FlowTrace.Link.Endpoint
  ────────────────────────────────
  **THE OTHER SIDE OF A CONNECTION.**

  What a link needs of the world: to dial an address, to send an envelope on
  a socket, to receive the frame that waits there, to close the socket.  Any
  type with these four operations will do, so a statement about every
  endpoint is a statement about every way the other side may behave.

  A network is an endpoint together with a log of what was put on the wire.
-/
import FlowTrace.Fault

namespace FlowTrace

/-- How an operation of an endpoint fails: an error of the connection, or the
user's interruption. -/
inductive Breakdown where
  | error (text : String)
  | interrupted
  deriving DecidableEq, Repr, Inhabited

/-- A command as sent. -/
structure Envelope where
  id : Nat
  method : Json
  params : Json
  deriving Inhabited, Repr

/-- What waits on a socket. -/
inductive Frame where
  /-- A text, JSON or not, and how deep the values in it may lie for its reader. -/
  | text (s : String) (room : Nat)
  /-- A JSON document. -/
  | message (v : Json)
  /-- The end of the stream. -/
  | ended
  /-- Receiving fails. -/
  | broken (b : Breakdown)
  deriving Inhabited, Repr

/-- The other side of connections.  Sockets are numbered. -/
class Endpoint (ε : Type) where
  connect : ε → Json → Except Breakdown Nat × ε
  send : ε → Nat → Envelope → Except Breakdown Unit × ε
  /-- The frame that waits on a socket, if there is one. -/
  receive : ε → Nat → Option Frame × ε
  close : ε → Nat → Except Breakdown Unit × ε

/-- Something put on the wire. -/
inductive Traffic where
  | dialled (url : Json)
  | sent (envelope : Envelope)
  deriving Inhabited, Repr

/-- An endpoint, everything that was put on the wire, in order, and the sockets
that were opened and not closed since. -/
structure Network (ε : Type) where
  endpoint : ε
  log : List Traffic := []
  openSockets : List Nat := []

instance {ε : Type} [Inhabited ε] : Inhabited (Network ε) := ⟨{ endpoint := default }⟩

namespace Network

variable {ε : Type} [Endpoint ε]

/-- Dial an address. -/
def dial (n : Network ε) (url : Json) : Except Breakdown Nat × Network ε :=
  let r := Endpoint.connect n.endpoint url
  (r.1,
    { endpoint := r.2, log := n.log ++ [.dialled url]
      openSockets := n.openSockets ++ r.1.toOption.toList })

/-- Send an envelope.  It is on the wire even if sending then fails. -/
def send (n : Network ε) (socket : Nat) (e : Envelope) : Except Breakdown Unit × Network ε :=
  let r := Endpoint.send n.endpoint socket e
  (r.1, { n with endpoint := r.2, log := n.log ++ [.sent e] })

/-- Take the frame that waits on a socket. -/
def receive (n : Network ε) (socket : Nat) : Option Frame × Network ε :=
  let r := Endpoint.receive n.endpoint socket
  (r.1, { n with endpoint := r.2 })

/-- Close a socket.  It is closed even if the connection complains. -/
def close (n : Network ε) (socket : Nat) : Except Breakdown Unit × Network ε :=
  let r := Endpoint.close n.endpoint socket
  (r.1, { n with endpoint := r.2, openSockets := n.openSockets.filter (· != socket) })

end Network
end FlowTrace
