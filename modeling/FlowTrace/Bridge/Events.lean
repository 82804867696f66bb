/-
  FlowTrace.Bridge.Events
  ────────────────────────────────
  **FROM NOTIFICATIONS TO EVENTS.**

  What a bridge does with each notification of the host and each signal of
  its link.  A pause outside the flow script is resumed at once; an exception
  is attributed to its block, from a block table that was given or from the
  source of the script, which is asked for without waiting.
-/
import FlowTrace.Bridge.Basic
import FlowTrace.Link.Operations

namespace FlowTrace
namespace Site

variable {ε : Type}

/-! ## §1. Pieces. -/

/-- Change the bridge. -/
def update (f : Bridge → Bridge) : Act (Site ε) Unit :=
  modify (fun s => { s with bridge := f s.bridge })

/-- Look at the bridge. -/
def look : Act (Site ε) Bridge := do return (← get).bridge

/-- Call a listener.  Its faults stay with it. -/
def call (l : Listener) (e : Event) : Act (Site ε) Unit := do
  update (fun b => { b with calls := b.calls ++ [(l.name, e)] })
  Act.contained (Act.ofExcept (l.answer e))

/-- Call listeners, one after the other. -/
def callAll (e : Event) : List Listener → Act (Site ε) Unit
  | [] => return
  | l :: rest => do
      call l e
      callAll e rest

/-- Call the listeners of an event's kind. -/
def emit (e : Event) : Act (Site ε) Unit := do
  let b ← look
  callAll e (b.config.listeners.filter (fun l => l.kind == e.kind))

/-- Publish the report of an exception. -/
def publishException (e : Thrown) (table : Option BlockTable) : Act (Site ε) Unit := do
  let b ← look
  let report ← Act.ofExcept (b.describe e table)
  emit (.exception report)

/-! ## §2. Signals of the link. -/

/-- The connection is lost. -/
def loseConnection : Act (Site ε) Unit := do
  update (fun b => { b with tracker := b.tracker.clear, status := .closed })
  let b ← look
  emit (.closed (.str (if b.stopped then "stopped" else "connection closed")))

/-- The block table of a script whose source was sent. -/
def tableOfSource (factory result : Json) : Except Fault BlockTable := do
  let source ← result.get "scriptSource"
  BlockTable.ofSource source.textOrEmpty factory

/-- A request for a script's source has ended: keep the table that the source
gives, and report the exception. -/
def finishFetch (f : Fetch) (outcome : Outcome) : Act (Site ε) Unit := do
  match outcome with
  | .error _ => publishException f.exception none
  | .ok result => do
      let b ← look
      let table ← Act.ofExcept (tableOfSource b.config.blockFactory result)
      update (fun b => { b with tables := Fields.put f.scriptId table b.tables })
      publishException f.exception (some table)

/-- A command has ended.  Only requests for sources are waited for here. -/
def completeCommand (id : Nat) (outcome : Outcome) : Act (Site ε) Unit := do
  let b ← look
  match b.fetches.find? (fun f => f.id == id) with
  | none => return
  | some f => do
      update (fun b => { b with fetches := b.fetches.filter (fun f => f.id != id) })
      finishFetch f outcome

/-- Act on a signal. -/
def heed : Signal → Act (Site ε) Unit
  | .up => return
  | .down => loseConnection
  | .completed id outcome => completeCommand id outcome

/-- Act on signals in order; the faults of one stay with it. -/
def heedAll : List Signal → Act (Site ε) Unit
  | [] => return
  | s :: rest => do
      Act.contained (heed s)
      heedAll rest

/-- Act on the signals that the link has given. -/
def heedLink : Act (Site ε) Unit := do
  let b ← look
  update (fun b => { b with link := { b.link with signals := [] } })
  heedAll b.link.signals

/-- An operation of the link, and what follows from its signals. -/
def onLink {α : Type} (a : Act (Wire ε) α) : Act (Site ε) α := do
  let r ← Act.attempt (Act.within (fun s => { link := s.bridge.link, network := s.network })
    (fun w s => { bridge := { s.bridge with link := w.link }, network := w.network }) a)
  heedLink
  Act.ofExcept r

/-! ## §3. Execution control. -/

variable [Endpoint ε]

/-- Let the script run on. -/
def resume : Act (Site ε) Unit := do
  update Bridge.leavePause
  let _ ← onLink (Wire.notify "Debugger.resume" (.obj [("terminateOnResume", .bool false)]))

/-- Let the script run to its next statement. -/
def stepOver : Act (Site ε) Unit := do
  update Bridge.leavePause
  let _ ← onLink (Wire.notify "Debugger.stepOver" (.obj []))

/-! ## §4. Notifications. -/

/-- The script is paused at a frame of a flow script. -/
def enterPause (url : String) (frame : Record) (params : Json) : Act (Site ε) Unit := do
  let paused ← Act.ofExcept (PausedFrame.ofFrame frame)
  update (fun b => { b with tracker := b.tracker.capture paused })
  let hits ← Act.ofExcept ((do
    let ids ← params.get "hitBreakpoints"
    (ids.orElse (.arr [])).toItems : Except Fault (List Json)))
  update (fun b => { b.recordHits paused hits with status := .paused })
  emit (.breakpoint url (.int paused.line) paused.scopeChain frame)

/-- The script is paused.  It stays so only in a flow script. -/
def onPaused (frames : List Record) (params : Json) : Act (Site ε) Unit := do
  match frames with
  | [] => resume
  | frame :: _ => do
      let scriptId ← Act.ofExcept ((Json.field frame "location").orObject.get "scriptId")
      let b ← look
      let url := b.tracker.url scriptId
      if ← Act.ofExcept (b.isFlowScript url) then enterPause url.text frame params
      else resume

/-- Report an exception.  Without a given block table the source of its flow
script is asked for, unless its table is known. -/
def onException (e : Thrown) : Act (Site ε) Unit := do
  let b ← look
  let location ← Act.ofExcept (b.flowLocation e)
  if b.blocks.isSome || !location.scriptId.truthy then publishException e none
  else
    let scriptId := location.scriptId.text
    match Fields.get? b.tables scriptId with
    | some table => publishException e (some table)
    | none => do
        let r ← Act.attempt (onLink
          (Wire.submit "Debugger.getScriptSource" (.obj [("scriptId", .str scriptId)])))
        match r with
        | .ok id =>
            update (fun b =>
              { b with fetches := b.fetches ++ [{ id := id, scriptId := scriptId, exception := e }] })
        | .error f =>
            if f.isLink then publishException e none
            else throw f

/-- Act on a notification of the host. -/
def onNotification (n : Notification) : Act (Site ε) Unit := do
  match n.report with
  | .other => return
  | .scriptParsed scriptId url =>
      let params := n.params.fields?.getD []
      update (fun b =>
        { b with tracker := b.tracker.record { scriptId := scriptId, url := url, params := params } })
  | .paused frames _ => onPaused frames n.params
  | .resumed => update Bridge.leavePause
  | .thrown e => onException e
  | .console c => emit (.console c n.params)

/-- Act on a message of the host. -/
def onMessage (message : Record) : Act (Site ε) Unit := do
  let n ← Act.ofExcept (Notification.ofFields message)
  onNotification n

/-- Read what waits on the link and act on it. -/
def pump : Act (Site ε) Unit := do
  let b ← look
  pumpWith (onLink Wire.poll) onMessage b.config.burst

end Site
end FlowTrace
