/-
  FlowTrace.Bridge.Basic
  ────────────────────────────────
  **THE STATE OF A DEBUGGER.**

  A bridge debugs one script host over a link.  It keeps the wanted
  breakpoints, what the connection has told about scripts and pauses, and the
  block tables by which exceptions are attributed, and it calls listeners
  with what happens.
-/
import FlowTrace.Block.Scan
import FlowTrace.Debug.Breakpoint
import FlowTrace.Debug.Event
import FlowTrace.Debug.Pause
import FlowTrace.Link.Basic
import FlowTrace.Text.Search

namespace FlowTrace

/-- Where a bridge stands. -/
inductive BridgeStatus where
  | disconnected
  | connecting
  | ready
  | paused
  | closed
  deriving DecidableEq, Repr, Inhabited

/-- The name of a status. -/
def BridgeStatus.name : BridgeStatus → String
  | disconnected => "disconnected"
  | connecting => "connecting"
  | ready => "ready"
  | paused => "paused"
  | closed => "closed"

/-- One who is called with the events of a kind, and how each call ends. -/
structure Listener where
  kind : EventKind
  name : String
  answer : Event → Except Fault Unit := fun _ => .ok ()
  deriving Inhabited

/-- What is fixed about a bridge. -/
structure BridgeConfig where
  /-- What the address of a flow script holds. -/
  marker : Json := "flow.js"
  /-- The factory that block calls name. -/
  blockFactory : Json := "generateBlock"
  /-- The listeners in the order of registration. -/
  listeners : List Listener := []
  /-- The most frames that are read before a reply counts as missing. -/
  burst : Nat := 100000
  deriving Inhabited

/-- A request for the source of a script, made for an exception. -/
structure Fetch where
  id : Nat
  scriptId : String
  exception : Thrown
  deriving Inhabited, Repr

/-- A debugger of one script host. -/
structure Bridge where
  config : BridgeConfig := {}
  link : Link
  registry : BreakpointRegistry := {}
  tracker : PauseTracker := {}
  status : BridgeStatus := .disconnected
  /-- Was the bridge stopped for good? -/
  stopped : Bool := false
  /-- The block table that was given, if one was. -/
  blocks : Option BlockTable := none
  /-- The block tables read from script sources, by script. -/
  tables : List (String × BlockTable) := []
  fetches : List Fetch := []
  /-- Every call of a listener, by its name, in order. -/
  calls : List (String × Event) := []
  deriving Inhabited

/-- Where an exception happened: a script and a line, null if unknown. -/
structure Location where
  scriptId : Json := .null
  line : Json := .null
  deriving Inhabited, Repr

namespace Bridge

/-! ## §1. Flow scripts. -/

/-- Is it the address of a flow script?  Only a text can be looked for in it. -/
def isFlowScript (b : Bridge) (url : Json) : Except Fault Bool :=
  if url.truthy then
    match b.config.marker with
    | .str marker => .ok (contains url.text marker)
    | _ => .error .badKind
  else .ok false

/-- The address of a script: the one that is given, else the one it was recorded
with. -/
def urlOr (b : Bridge) (url scriptId : Json) : Json := url.orElse (b.tracker.url scriptId)

/-- The innermost frame in a flow script. -/
def flowFrame? (b : Bridge) : List Record → Except Fault (Option Record)
  | [] => .ok none
  | f :: rest => do
      if ← b.isFlowScript (b.urlOr (Json.field f "url") (Json.field f "scriptId")) then pure (some f)
      else flowFrame? b rest

/-- A line as a value. -/
def lineValue : Option Int → Json
  | some n => .int n
  | none => .null

/-- Where in a flow script an exception happened. -/
def flowLocation (b : Bridge) (e : Thrown) : Except Fault Location := do
  match ← b.flowFrame? e.frames with
  | some f => pure { scriptId := Json.field f "scriptId", line := Json.field f "lineNumber" }
  | none =>
      if ← b.isFlowScript (b.urlOr e.url e.scriptId) then
        pure { scriptId := e.scriptId, line := lineValue e.line }
      else pure {}

/-! ## §2. Reports. -/

/-- A report with what a block record says. -/
def attributed (report : ExceptionReport) (block : Block) : ExceptionReport :=
  { report with
    blockLine := block.line, flowName := block.flowName, directiveName := block.directiveName
    displayName := block.displayName, failureStrategy := block.failureStrategy }

/-- The report of an exception, attributed by a table, or by the given one if
there is none. -/
def describe (b : Bridge) (e : Thrown) (table : Option BlockTable) :
    Except Fault ExceptionReport := do
  let report : ExceptionReport := { description := e.description }
  let location ← b.flowLocation e
  match table.or b.blocks with
  | none => pure report
  | some t =>
      match ← t.find location.line with
      | none => pure report
      | some block => pure (attributed report block)

/-! ## §3. Status. -/

/-- May commands be sent? -/
def isLive (b : Bridge) : Bool :=
  b.status == .connecting || b.status == .ready || b.status == .paused

/-- The script is paused no longer. -/
def leavePause (b : Bridge) : Bridge :=
  { b with
    tracker := b.tracker.clear
    status := if b.status = .paused then .ready else b.status }

/-- The bridge as a new connection finds it. -/
def renew (b : Bridge) : Bridge :=
  { b with status := .connecting, tracker := {}, tables := [], registry := b.registry.clearIds }

/-- Note the frame of a pause at the breakpoints that were hit. -/
def recordHits (b : Bridge) (frame : PausedFrame) : List Json → Bridge
  | [] => b
  | id :: rest =>
      match b.registry.indexOfId? id with
      | none => recordHits b frame rest
      | some i =>
          recordHits
            { b with
              registry := b.registry.modify i (fun bp =>
                { bp with hitFrame := some frame.frame, hitScopes := frame.scopeChain }) }
            frame rest

end Bridge

/-- A bridge and the network that its link uses. -/
structure Site (ε : Type) where
  bridge : Bridge
  network : Network ε

end FlowTrace
