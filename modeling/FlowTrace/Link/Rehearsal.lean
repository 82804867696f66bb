/-
  FlowTrace.Link.Rehearsal
  ────────────────────────────────
  **A REHEARSED SCRIPT HOST.**

  An endpoint whose behaviour is laid down beforehand: how each attempt to
  connect ends, what every new socket says first, and what is done for each
  command by the first rule that fits it.  A command that no rule fits is
  acknowledged.
-/
import FlowTrace.Json.Access
import FlowTrace.Json.Nesting
import FlowTrace.Link.Endpoint

namespace FlowTrace

/-- Something a rehearsed host does. -/
inductive HostAction where
  /-- Answer the command with what a compliant host would. -/
  | acknowledge
  | reply (result : Json)
  | refuse (error : Json)
  | push (message : Json)
  | raw (text : String)
  /-- Keep the command for later. -/
  | hold
  /-- Acknowledge the commands that were kept, the last one first if `latestFirst`. -/
  | release (latestFirst : Bool)
  /-- End the stream. -/
  | drop
  /-- Let receiving fail. -/
  | breakReceive (b : Breakdown)
  /-- Let sending fail, which ends the actions. -/
  | breakSend (b : Breakdown)
  deriving Inhabited, Repr

/-- What is done for some commands. -/
structure HostRule where
  /-- The method, or `*` for every one. -/
  method : Json
  /-- How often the rule may still be used, if there is a limit. -/
  times : Option Int := none
  /-- Parameters that the command has to have. -/
  params : List (String × Json) := []
  actions : List HostAction
  deriving Inhabited, Repr

/-- A socket: the frames that wait on it. -/
structure HostSocket where
  queue : List Frame := []
  deriving Inhabited, Repr

/-- A rehearsed host. -/
structure RehearsedHost where
  /-- How the coming attempts to connect end; every later one succeeds. -/
  connects : List (Option Breakdown) := []
  greeting : List HostAction := []
  closing : Option Breakdown := none
  rules : List HostRule := []
  sockets : List HostSocket := []
  /-- The commands that were kept, whichever socket they came on. -/
  held : List Envelope := []
  deriving Inhabited, Repr

namespace HostRule

/-- Does the rule fit a command? -/
def fits (r : HostRule) (e : Envelope) : Bool :=
  (r.method.same "*" || r.method.same e.method)
    && r.times.all (fun n => decide (0 < n))
    && r.params.all (fun p => (Json.field (e.params.fields?.getD []) p.1).same p.2)

/-- The rule after one more use. -/
def used (r : HostRule) : HostRule := { r with times := r.times.map (· - 1) }

end HostRule

namespace RehearsedHost

/-! ## §1. Answers. -/

/-- What a compliant host answers: an id for a breakpoint, and nothing else for
anything else. -/
def acknowledgement (e : Envelope) : Json :=
  if e.method.same "Debugger.setBreakpointByUrl" then
    let params := e.params.fields?.getD []
    .obj [("breakpointId", .str ("bp:" ++ (Json.field params "url").text ++ ":"
      ++ (Json.field params "lineNumber").text))]
  else .obj []

/-- The frame of a result. -/
def resultFrame (e : Envelope) (result : Json) : Frame :=
  .message (.obj [("id", .int e.id), ("result", result)])

/-- The frame of a refusal. -/
def refusalFrame (e : Envelope) (error : Json) : Frame :=
  .message (.obj [("id", .int e.id), ("error", error)])

/-! ## §2. Actions. -/

/-- Put frames behind those that wait on a socket. -/
def enqueue (h : RehearsedHost) (socket : Nat) (fs : List Frame) : RehearsedHost :=
  { h with sockets := h.sockets.modify socket (fun s => { s with queue := s.queue ++ fs }) }

/-- Do one action on a socket, for a command if there is one; a failing send is
returned. -/
def perform (h : RehearsedHost) (socket : Nat) (e : Option Envelope) :
    HostAction → RehearsedHost × Option Breakdown
  | .acknowledge =>
      (h.enqueue socket (e.toList.map (fun e => resultFrame e (acknowledgement e))), none)
  | .reply v => (h.enqueue socket (e.toList.map (fun e => resultFrame e v)), none)
  | .refuse v => (h.enqueue socket (e.toList.map (fun e => refusalFrame e v)), none)
  | .push v => (h.enqueue socket [.message v], none)
  | .raw t => (h.enqueue socket [.text t Json.Limits.thousandCalls.reading], none)
  | .hold => ({ h with held := h.held ++ e.toList }, none)
  | .release latestFirst =>
      let es := if latestFirst then h.held.reverse else h.held
      ({ h.enqueue socket (es.map (fun e => resultFrame e (acknowledgement e))) with held := [] },
        none)
  | .drop => (h.enqueue socket [.ended], none)
  | .breakReceive b => (h.enqueue socket [.broken b], none)
  | .breakSend b => (h, some b)

/-- Do actions in order, up to a failing send. -/
def performAll (h : RehearsedHost) (socket : Nat) (e : Option Envelope) :
    List HostAction → RehearsedHost × Option Breakdown
  | [] => (h, none)
  | a :: rest =>
      match h.perform socket e a with
      | (h, none) => performAll h socket e rest
      | r => r

/-- The actions for a command, and the rules after it. -/
def choose (e : Envelope) : List HostRule → List HostAction × List HostRule
  | [] => ([.acknowledge], [])
  | r :: rest =>
      if r.fits e then (r.actions, r.used :: rest)
      else
        let c := choose e rest
        (c.1, r :: c.2)

/-- Accept or refuse an attempt to connect.  One whose greeting cannot be sent
fails like a refused one. -/
def connect (h : RehearsedHost) : Except Breakdown Nat × RehearsedHost :=
  let next := { h with connects := h.connects.drop 1 }
  match h.connects with
  | some b :: _ => (.error b, next)
  | _ =>
      let opened : RehearsedHost := { next with sockets := h.sockets ++ [{}] }
      match opened.performAll h.sockets.length none h.greeting with
      | (greeted, some b) => (.error b, greeted)
      | (greeted, none) => (.ok h.sockets.length, greeted)

/-- Take a command on a socket. -/
def send (h : RehearsedHost) (socket : Nat) (e : Envelope) :
    Except Breakdown Unit × RehearsedHost :=
  let c := choose e h.rules
  match { h with rules := c.2 }.performAll socket (some e) c.1 with
  | (h, some b) => (.error b, h)
  | (h, none) => (.ok (), h)

/-- Give away the frame that waits on a socket. -/
def receive (h : RehearsedHost) (socket : Nat) : Option Frame × RehearsedHost :=
  match h.sockets[socket]? with
  | some s => (s.queue.head?, { h with sockets := h.sockets.set socket { s with queue := s.queue.drop 1 } })
  | none => (none, h)

/-- Close a socket. -/
def close (h : RehearsedHost) : Except Breakdown Unit × RehearsedHost :=
  match h.closing with
  | some b => (.error b, h)
  | none => (.ok (), h)

/-- Act on the newest socket, open or not; without one nothing is done. -/
def act (h : RehearsedHost) (a : HostAction) : RehearsedHost :=
  if h.sockets.isEmpty then h else (h.perform (h.sockets.length - 1) none a).1

end RehearsedHost

instance : Endpoint RehearsedHost where
  connect h _ := h.connect
  send := RehearsedHost.send
  receive := RehearsedHost.receive
  close h _ := h.close

end FlowTrace
