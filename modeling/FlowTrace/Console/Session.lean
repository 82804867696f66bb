/-
  FlowTrace.Console.Session
  ────────────────────────────────
  **A DEBUGGING SESSION.**

  A session attaches to its script host when a command first needs it, and
  stays attached until it is told to detach.  Every event of the bridge goes
  to an event bus, from which the prompt takes it to print.

  A session is attached only once its bridge has started.  A bridge that
  connected but could not be started stays behind: its connection is still
  read if it is still open, until another bridge connects.
-/
import FlowTrace.Bridge.Operations
import FlowTrace.Console.Printed
import FlowTrace.Event.Bus

namespace FlowTrace

/-- What is fixed about a session. -/
structure SessionConfig where
  url : Json := "ws://127.0.0.1:9229"
  /-- Is output printed as JSON? -/
  json : Bool := false
  /-- What the address of a flow script holds. -/
  marker : Json := "flow.js"
  /-- The breakpoints to arm on attaching, if they are usable. -/
  breakpoints : Except Fault (List Breakpoint) := .ok []
  /-- What reading the block table file gives, if one is named. -/
  blocks : Option (Except Fault String) := none
  limits : Json.Limits := .thousandCalls
  deriving Inhabited

namespace SessionConfig

/-- The listeners of a session's bridge: each kind of event goes to the bus. -/
def listeners : List Listener :=
  [EventKind.breakpoint, .console, .exception, .closed].map (fun k => { kind := k, name := "bus" })

/-- The block table in the file that is named.  A file that cannot be read or
holds no table counts as none; an entry of the wrong shape is a fault. -/
def blockTable (c : SessionConfig) : Except Fault (Option BlockTable) :=
  match c.blocks with
  | none => .ok none
  | some text =>
      match text.bind (BlockTable.ofText c.limits.reading) with
      | .ok table => .ok (some table)
      | .error (.file _ _) => .ok none
      | .error f => if f.isValue then .ok none else .error f

/-- A bridge of a session, not started yet. -/
def newBridge (c : SessionConfig) : Except Fault Bridge := do
  let blocks ← c.blockTable
  let registry ← BreakpointRegistry.ofList (← c.breakpoints)
  pure
    { config := { marker := c.marker, listeners := listeners }
      link := { url := c.url }
      registry := registry
      blocks := blocks }

end SessionConfig

/-- A debugging session. -/
structure Session (ε : Type) where
  config : SessionConfig
  network : Network ε
  /-- The bridge that connected last. -/
  bridge : Option Bridge := none
  /-- Has that bridge been started and not been left since? -/
  attached : Bool := false
  bus : EventBus Event := {}
  /-- The subscriber that prints events. -/
  subscription : Option Nat := none
  /-- Everything printed. -/
  out : String := ""

namespace Session

variable {ε α : Type}

/-! ## §1. Printing. -/

/-- Print a text. -/
def say (text : String) : Act (Session ε) Unit := modify (fun s => { s with out := s.out ++ text })

/-- Print a command's result. -/
def report (message data : Json) : Act (Session ε) Unit := do
  let s ← get
  say (Printed.result s.config.json message (some data))

/-- Print an error. -/
def complain (message : Json) : Act (Session ε) Unit := do
  let s ← get
  say (Printed.plainError s.config.json message)

/-! ## §2. The bridge. -/

/-- Publish what listeners were called with. -/
def publishAll (bus : EventBus Event) (calls : List (String × Event)) : EventBus Event :=
  calls.foldl (fun bus c => (bus.publish c.2.kind.name c.2).1) bus

/-- An operation of the session's bridge.  Its events are published whether it fails
or not. -/
def onBridge (a : Act (Site ε) α) : Act (Session ε) α := do
  let s ← get
  match s.bridge with
  | none => throw (.link "not connected")
  | some b =>
      let r := a.exec { bridge := b, network := s.network }
      set
        { s with
          bridge := some { r.2.bridge with calls := [] }
          network := r.2.network
          bus := publishAll s.bus r.2.bridge.calls }
      Act.ofExcept r.1

/-- The attached bridge. -/
def attachedBridge? (s : Session ε) : Option Bridge := if s.attached then s.bridge else none

/-- Is the script paused? -/
def isPaused (s : Session ε) : Bool :=
  match s.attachedBridge? with
  | some b => b.status == .paused
  | none => false

/-- The prompt's text. -/
def prompt (s : Session ε) : String := if s.isPaused then "(paused) > " else "> "

variable [Endpoint ε]

omit [Endpoint ε] in
/-- Has the session's bridge never connected?  A bridge sends a command as soon as
it is connected. -/
def neverConnected (s : Session ε) : Bool :=
  match s.bridge with
  | some b => b.link.nextId == 1
  | none => true

/-- Attach to the script host, unless that is done already.  A bridge that could
not connect leaves the one before in its place. -/
def attach : Act (Session ε) Unit := do
  let before ← get
  if before.attached then return
  let bridge ← Act.ofExcept before.config.newBridge
  set { before with bridge := some bridge }
  match ← Act.attempt (onBridge Site.start) with
  | .ok _ => modify (fun s => { s with attached := true })
  | .error f => do
      modify (fun s => if s.neverConnected then { s with bridge := before.bridge } else s)
      throw f

/-- Stop the attached bridge and leave it. -/
def detach : Act (Session ε) Unit := do
  if (← get).attached then
    Act.contained (onBridge Site.stop)
    modify (fun s => { s with attached := false })

/-- Read what waits on the connection of the session's bridge. -/
def pump : Act (Session ε) Unit := do
  if (← get).bridge.isSome then onBridge Site.pump

/-! ## §3. Events. -/

omit [Endpoint ε] in
/-- Let a new subscriber take the events, in place of the one before. -/
def subscribe : Act (Session ε) Nat := do
  let s ← get
  let bus := match s.subscription with
    | some token => s.bus.unsubscribe token
    | none => s.bus
  let (bus, token) := bus.subscribe .every (.atMost 256) (fun _ => [])
  set { s with bus := bus, subscription := some token }
  return token

omit [Endpoint ε] in
/-- Take the events that have been published since. -/
def takeEvents : Act (Session ε) (List Event) := do
  let s ← get
  let bus := (s.bus.pump s.bus.queued).1
  set { s with bus := { bus with delivered := [] } }
  return bus.delivered.map Prod.snd

end Session
end FlowTrace
