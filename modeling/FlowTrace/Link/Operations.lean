/-
  FlowTrace.Link.Operations
  ────────────────────────────────
  **WHAT A LINK DOES.**

  Connecting, sending commands, reading frames and tearing connections down.
  Nothing waits: frames are read only when the link is polled, and a command
  that has no outcome when its reply is asked for has timed out.

      connect    — dial, unless there is a socket
      submit     — send a command and leave it pending
      notify     — send a command and forget it
      conclude   — the outcome of a command, or its timeout
      poll       — read one frame
      close      — tear down for good
-/
import FlowTrace.Json.Reader
import FlowTrace.Link.Basic

namespace FlowTrace
namespace Wire

variable {ε : Type} [Endpoint ε]

/-! ## §1. Pieces. -/

/-- Change the link. -/
def update (f : Link → Link) : Act (Wire ε) Unit := modify (fun w => { w with link := f w.link })

/-- Look at the link. -/
def look : Act (Wire ε) Link := do return (← get).link

/-- An operation of the network. -/
def onNetwork {α : Type} (f : Network ε → α × Network ε) : Act (Wire ε) α :=
  Act.ofFun (fun w => let r := f w.network; (.ok r.1, { w with network := r.2 }))

/-! ## §2. Connecting. -/

/-- Open a connection, unless there is a socket already. -/
def connect : Act (Wire ε) Unit := do
  let l ← look
  if l.socket.isSome then return
  if l.shutdown then throw (.link "transport closed")
  update (fun l => { l with status := .connecting })
  match ← onNetwork (fun n => n.dial l.url) with
  | .ok s =>
      update (fun l =>
        { l with socket := some s, deaf := false, status := .connected }.signal .up)
  | .error (.error text) =>
      update (fun l => { l with status := .disconnected })
      throw (.link ("connect failed: " ++ text))
  | .error .interrupted => throw .interrupt

/-! ## §3. Tearing down. -/

/-- Close a socket, whatever the connection says to it. -/
def closeSocket (s : Nat) : Act (Wire ε) Unit := do
  match ← onNetwork (fun n => n.close s) with
  | .error .interrupted => throw .interrupt
  | _ => return

/-- Fail commands that were pending on a lost connection.  The submitter of one
may connect again at once. -/
def failAll : List Pending → Act (Wire ε) Unit
  | [] => return
  | p :: rest => do
      update (fun l => l.complete p.id (.error (.link "connection closed")))
      if p.reconnects then Act.contained connect
      failAll rest

/-- Become disconnected, and if there was a connection do what is planned for
its loss. -/
def becomeDisconnected (onDown : List (List DownAction) → Act (Wire ε) Unit) :
    Act (Wire ε) Unit := do
  let l ← look
  if l.status = .disconnected then return
  update (fun l => { l with status := .disconnected })
  if l.status = .connected then
    update (fun l => { l with downPlans := l.downPlans.drop 1 }.signal .down)
    onDown (l.downPlans.head?.getD [])

/-- Tear the current connection down.  With an `owner`, only if that is the
current socket. -/
def teardownWith (onDown : List (List DownAction) → Act (Wire ε) Unit) (owner : Option Nat) :
    Act (Wire ε) Unit := do
  let l ← look
  if owner.isSome && l.socket != owner then return
  update (fun l => { l with socket := none })
  match l.socket with
  | some s => closeSocket s
  | none => pure ()
  let failed := (← look).pending
  update (fun l => { l with pending := [] })
  failAll failed
  becomeDisconnected onDown

/-! ## §4. Sending. -/

/-- Put an envelope on the wire; a socket that fails is torn down.  That the envelope
has a text is taken for granted: its whole numbers have no more digits than are
written, and its values do not lie too deep. -/
def sendWith (teardown : Option Nat → Act (Wire ε) Unit) (e : Envelope) : Act (Wire ε) Unit := do
  let l ← look
  if l.shutdown then throw (.link "transport closed")
  match l.socket with
  | none => throw (.link "not connected")
  | some s =>
      match ← onNetwork (fun n => n.send s e) with
      | .ok _ => return
      | .error (.error text) => do
          teardown (some s)
          throw (.link ("send failed: " ++ text))
      | .error .interrupted => throw .interrupt

/-- Take the next number. -/
def allocate : Act (Wire ε) Nat := do
  let l ← look
  update (fun l => l.allocate.2)
  return l.allocate.1

/-- Send a command and leave it pending. -/
def submitWith (teardown : Option Nat → Act (Wire ε) Unit) (method params : Json)
    (reconnects : Bool) : Act (Wire ε) Nat := do
  let id ← allocate
  update (fun l => l.addPending { id := id, method := method, reconnects := reconnects })
  match ← Act.attempt (sendWith teardown { id := id, method := method, params := params.orObject }) with
  | .ok _ => return id
  | .error f => do
      if f.isLink then update (fun l => l.dropPending id)
      throw f

/-- What a callback does at the loss of a connection. -/
def runDownActions (teardown : Option Nat → Act (Wire ε) Unit) : List DownAction → Act (Wire ε) Unit
  | [] => return
  | .connect :: rest => do
      connect
      runDownActions teardown rest
  | .submit method :: rest => do
      let _ ← submitWith teardown (.str method) (.obj []) false
      runDownActions teardown rest
  | .fail :: _ => throw .callback

/-- What the callbacks do at the loss of a connection, each by itself. -/
def runDownPlan (teardown : Option Nat → Act (Wire ε) Unit) :
    List (List DownAction) → Act (Wire ε) Unit
  | [] => return
  | actions :: rest => do
      Act.contained (runDownActions teardown actions)
      runDownPlan teardown rest

/-- Tear down, with at most `depth` losses inside one another.  Each takes one of
the plans, so their number is enough. -/
def teardownWithin : Nat → Option Nat → Act (Wire ε) Unit
  | 0, owner => teardownWith (fun _ => return) owner
  | depth + 1, owner => teardownWith (runDownPlan (teardownWithin depth)) owner

/-- Tear the current connection down.  With an `owner`, only if that is the
current socket. -/
def teardown (owner : Option Nat) : Act (Wire ε) Unit := do
  let l ← look
  teardownWithin l.downPlans.length owner

/-- Send a command and leave it pending. -/
def submit (method params : Json) (reconnects : Bool := false) : Act (Wire ε) Nat :=
  submitWith teardown method params reconnects

/-- Send a command whose reply will be dropped. -/
def notify (method params : Json) : Act (Wire ε) Nat := do
  let id ← allocate
  sendWith teardown { id := id, method := method, params := params.orObject }
  return id

/-- The outcome of a command.  One that has none has timed out and is pending no
longer. -/
def conclude (id : Nat) (method : Json) : Act (Wire ε) Json := do
  let l ← look
  match l.outcome? id with
  | some (.ok v) => return v
  | some (.error f) => throw f
  | none => do
      update (fun l => l.dropPending id)
      throw (.timeout method)

/-- Close the link for good. -/
def close : Act (Wire ε) Unit := do
  update (fun l => { l with shutdown := true })
  teardown none

/-! ## §5. Reading. -/

/-- What a poll came to. -/
inductive Poll where
  /-- Nothing to read. -/
  | idle
  | handled
  /-- A notification for the owner. -/
  | notification (message : List (String × Json))
  deriving Inhabited

/-- Take in a message: a reply, a notification, or nothing of interest. -/
def accept (message : List (String × Json)) : Act (Wire ε) Poll := do
  if Fields.contains message "method" then return .notification message
  if Fields.contains message "id" then update (fun l => l.answer message)
  return .handled

/-- The end of reading a socket. -/
def finish (s : Nat) : Act (Wire ε) Poll := do
  teardown (some s)
  return .handled

/-- Take in a text frame.  What is no JSON object is dropped; a text that nests
too deeply ends the reading. -/
def takeInText (t : String) (room : Nat) : Act (Wire ε) Poll :=
  match Json.read room t with
  | .ok (.obj fields) => accept fields
  | .error .tooDeep => do
      update (fun l => { l with deaf := true })
      return .handled
  | _ => return .handled

/-- Take in a frame of a socket.  The empty text is the end of the stream; an
interruption that comes in place of a frame is none, and reading goes on. -/
def takeIn (s : Nat) : Frame → Act (Wire ε) Poll
  | .message (.obj fields) => accept fields
  | .message _ => return .handled
  | .text t room => if t.isEmpty then finish s else takeInText t room
  | .ended => finish s
  | .broken (.error _) => finish s
  | .broken .interrupted => return .handled

/-- Read one frame of the current socket. -/
def poll : Act (Wire ε) Poll := do
  let l ← look
  match l.socket with
  | none => return .idle
  | some s =>
      if l.deaf then return .idle
      match ← onNetwork (fun n => n.receive s) with
      | none => return .idle
      | some frame => takeIn s frame

end Wire

/-! ## §6. Pumping. -/

/-- Poll until there is nothing to read, at most `burst` times, and hand every
notification on.  A handler's faults stay with it; what no guard may keep ends
the pump. -/
def pumpWith {σ : Type} (poll : Act σ Wire.Poll) (handle : List (String × Json) → Act σ Unit) :
    Nat → Act σ Unit
  | 0 => return
  | burst + 1 => do
      match ← poll with
      | .idle => return
      | .handled => pumpWith poll handle burst
      | .notification message => do
          Act.contained (handle message)
          pumpWith poll handle burst

namespace Wire

variable {ε : Type} [Endpoint ε]

/-- Read what waits and hand every notification on. -/
def pump (burst : Nat) (handle : List (String × Json) → Act (Wire ε) Unit) : Act (Wire ε) Unit :=
  pumpWith poll handle burst

end Wire
end FlowTrace
