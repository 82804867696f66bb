/-
  FlowTrace.Bridge.Operations
  ────────────────────────────────
  **WHAT A DEBUGGER CAN BE ASKED.**

  Starting and stopping, breakpoints, evaluation and properties.  An
  operation that waits for a reply reads the link meanwhile, so anything may
  happen to the bridge before it ends.
-/
import FlowTrace.Bridge.Events

namespace FlowTrace
namespace Site

variable {ε : Type} [Endpoint ε]

/-! ## §1. Commands. -/

/-- The reply to a command that was submitted. -/
def await (id : Nat) (method : Json) : Act (Site ε) Json := do
  pump
  onLink (Wire.conclude id method)

/-- Send a command and wait for its reply. -/
def command (method params : Json) : Act (Site ε) Json := do
  let id ← onLink (Wire.submit method params)
  await id method

/-! ## §2. Breakpoints. -/

/-- The method that arms a breakpoint. -/
def armMethod : Json := "Debugger.setBreakpointByUrl"

/-- The parameters that arm a breakpoint. -/
def armParams (bp : Breakpoint) : Json := .obj [("url", bp.url), ("lineNumber", bp.line)]

/-- Submit the arming of breakpoints. -/
def submitArming : List Breakpoint → Act (Site ε) (List Nat)
  | [] => return []
  | bp :: rest => do
      let id ← onLink (Wire.submit armMethod (armParams bp))
      let ids ← submitArming rest
      return id :: ids

/-- The replies to the arming of breakpoints, null for one that was refused. -/
def awaitArming : List Nat → Act (Site ε) (List Json)
  | [] => return []
  | id :: rest => do
      let reply ← match ← Act.attempt (await id armMethod) with
        | .ok v => pure v
        | .error (.refused _ _ _ _) => pure .null
        | .error f => throw f
      let replies ← awaitArming rest
      return reply :: replies

/-- Give a breakpoint its id. -/
def assignId (i : Nat) (id : Json) : Act (Site ε) Unit :=
  update (fun b => { b with registry := b.registry.modify i (fun bp => { bp with id := id }) })

/-- The id in a reply to an arming. -/
def replyId (reply : Json) : Except Fault Json :=
  if reply.truthy then reply.get "breakpointId" else .ok .null

/-- Give the breakpoints from index `i` on the ids in the replies. -/
def assignIds (i : Nat) : List Json → Act (Site ε) Unit
  | [] => return
  | reply :: rest => do
      let id ← Act.ofExcept (replyId reply)
      assignId i id
      assignIds (i + 1) rest

/-- Arm every wanted breakpoint: submit all, then wait for each. -/
def armBreakpoints : Act (Site ε) (List Breakpoint) := do
  let b ← look
  let ids ← submitArming b.registry.items
  let replies ← awaitArming ids
  assignIds 0 replies
  return (← look).registry.items

/-- Want a breakpoint, and arm it if the bridge is live and it is not armed. -/
def addBreakpoint (url line : Json) : Act (Site ε) (Option Breakpoint) := do
  let n ← Act.ofExcept line.toInt
  let b ← look
  let (registry, i) ← Act.ofExcept (b.registry.add { url := url, line := .int n })
  update (fun b => { b with registry := registry })
  match registry.items[i]? with
  | none => return none
  | some bp => do
      if bp.id.isNull && (← look).isLive then
        let reply ← command armMethod (armParams bp)
        let id ← Act.ofExcept (reply.get "breakpointId")
        assignId i id
      return (← look).registry.items[i]?

/-- Want a breakpoint no longer, and disarm it if the bridge is live and it is
armed.  Answers whether it was wanted. -/
def removeBreakpoint (url line : Json) : Act (Site ε) Bool := do
  let n ← Act.ofExcept line.toInt
  let b ← look
  match ← Act.ofExcept (b.registry.find url (.int n)) with
  | none => return false
  | some bp => do
      if !bp.id.isNull && b.isLive then
        let _ ← command "Debugger.removeBreakpoint" (.obj [("breakpointId", bp.id)])
      let b ← look
      let (registry, _) ← Act.ofExcept (b.registry.remove url (.int n))
      update (fun b => { b with registry := registry })
      return true

/-! ## §3. Starting and stopping. -/

/-- Connect, enable the host's reports and arm every wanted breakpoint. -/
def establish : Act (Site ε) Unit := do
  onLink Wire.connect
  let _ ← command "Debugger.enable" (.obj [])
  let _ ← command "Runtime.enable" (.obj [])
  let _ ← armBreakpoints

/-- Start debugging.  A bridge that cannot be started is disconnected, unless
something else has happened to it meanwhile. -/
def start : Act (Site ε) Unit := do
  if (← look).stopped then throw (.link "bridge closed")
  update Bridge.renew
  match ← Act.attempt establish with
  | .ok _ =>
      update (fun b => if b.status = .connecting then { b with status := .ready } else b)
  | .error f => do
      if f.isLink then
        update (fun b => if b.status = .connecting then { b with status := .disconnected } else b)
      throw f

/-- Stop for good. -/
def stop : Act (Site ε) Unit := do
  update (fun b => { b with stopped := true })
  onLink Wire.close
  update (fun b => { b with status := .closed })

/-! ## §4. Inspection. -/

/-- Evaluate an expression in the paused frame. -/
def evaluate (expression : Json) : Act (Site ε) Json := do
  let b ← look
  let frame ← Act.ofExcept b.tracker.require
  command "Debugger.evaluateOnCallFrame"
    (.obj [("expression", expression), ("callFrameId", .str frame.callFrameId)])

/-- The properties of a remote object. -/
def properties (objectId : Json) : Act (Site ε) (List Json) := do
  let reply ← command "Runtime.getProperties"
    (.obj [("objectId", objectId), ("ownProperties", .bool false),
      ("accessorPropertiesOnly", .bool false), ("nonIndexedPropertiesOnly", .bool false),
      ("generatePreview", .bool true)])
  Act.ofExcept ((do
    let result ← reply.get "result"
    (result.orElse (.arr [])).toItems : Except Fault (List Json)))

end Site
end FlowTrace
