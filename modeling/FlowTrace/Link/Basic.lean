/-
  FlowTrace.Link.Basic
  ────────────────────────────────
  **THE STATE OF A LINK.**

  A link numbers its commands and finds the reply to each by its number.
  Commands without a reply are pending; each that is answered, refused or
  lost with its connection has one outcome.  What happens to the link is told
  to its owner as signals, in order.
-/
import FlowTrace.Act
import FlowTrace.Json.Access
import FlowTrace.Link.Endpoint

namespace FlowTrace

/-- Is there a connection? -/
inductive LinkStatus where
  | disconnected
  | connecting
  | connected
  deriving DecidableEq, Repr, Inhabited

/-- The name of a status. -/
def LinkStatus.name : LinkStatus → String
  | disconnected => "disconnected"
  | connecting => "connecting"
  | connected => "connected"

/-- A command without a reply. -/
structure Pending where
  id : Nat
  method : Json
  /-- Does its submitter connect again when the command fails? -/
  reconnects : Bool := false
  deriving Repr, Inhabited

/-- How a command ended: with its result or a fault. -/
abbrev Outcome := Except Fault Json

/-- What a link tells its owner. -/
inductive Signal where
  | up
  | down
  | completed (id : Nat) (outcome : Outcome)
  deriving Inhabited

/-- What one who is told that the connection went down may do in turn. -/
inductive DownAction where
  | connect
  | submit (method : String)
  | fail
  deriving DecidableEq, Repr, Inhabited

/-- A link to an endpoint. -/
structure Link where
  url : Json
  status : LinkStatus := .disconnected
  /-- Was the link closed for good? -/
  shutdown : Bool := false
  nextId : Nat := 1
  /-- The current socket. -/
  socket : Option Nat := none
  /-- Has reading the current socket ended, although the socket is open? -/
  deaf : Bool := false
  pending : List Pending := []
  outcomes : List (Nat × Outcome) := []
  signals : List Signal := []
  /-- What is done at each coming loss of the connection: one list of callbacks
  for each, every callback a list of actions. -/
  downPlans : List (List (List DownAction)) := []
  deriving Inhabited

namespace Link

/-- Tell the owner. -/
def signal (l : Link) (s : Signal) : Link := { l with signals := l.signals ++ [s] }

/-- Is the link connected? -/
def isConnected (l : Link) : Bool := l.status == .connected

/-- The outcome of a command. -/
def outcome? (l : Link) (id : Nat) : Option Outcome := l.outcomes.lookup id

/-- Take the next number. -/
def allocate (l : Link) : Nat × Link := (l.nextId, { l with nextId := l.nextId + 1 })

/-- Add a pending command. -/
def addPending (l : Link) (p : Pending) : Link := { l with pending := l.pending ++ [p] }

/-- A command is pending no longer. -/
def dropPending (l : Link) (id : Nat) : Link :=
  { l with pending := l.pending.filter (fun p => p.id != id) }

/-- The pending command whose number equals a value. -/
def pending? (l : Link) (id : Json) : Option Pending :=
  l.pending.find? (fun p => id.same (.int p.id))

/-- A command has ended. -/
def complete (l : Link) (id : Nat) (outcome : Outcome) : Link :=
  { l with outcomes := l.outcomes ++ [(id, outcome)] }.signal (.completed id outcome)

/-- What a reply says. -/
def replyOutcome (method : Json) (reply : List (String × Json)) : Outcome :=
  match Json.field reply "error" with
  | .obj error =>
      .error (.refused method (Json.field error "code") (Json.field error "data")
        ((Fields.get? error "message").getD (.str "unknown error")).text)
  | _ => .ok (Json.field reply "result").orObject

/-- Take in a reply.  One that answers no pending command is dropped.  A reply
whose id cannot be looked up ends the reading if there are commands to look
among. -/
def answer (l : Link) (reply : List (String × Json)) : Link :=
  let id := Json.field reply "id"
  if l.pending.isEmpty then l
  else if !id.isKey then { l with deaf := true }
  else
    match l.pending? id with
    | none => l
    | some p => (l.dropPending p.id).complete p.id (replyOutcome p.method reply)

end Link

/-- A link and the network that it uses. -/
structure Wire (ε : Type) where
  link : Link
  network : Network ε

end FlowTrace
