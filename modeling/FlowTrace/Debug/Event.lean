/-
  FlowTrace.Debug.Event
  ────────────────────────────────
  **WHAT A DEBUGGER TELLS ITS LISTENERS.**

  Four kinds of event: the flow script has paused, an exception was not
  caught, the script wrote to its console, the connection is gone.
-/
import FlowTrace.Debug.Notification

namespace FlowTrace

/-- An uncaught exception, with the block that raised it when it is known. -/
structure ExceptionReport where
  description : Json
  blockLine : Json := .int 0
  flowName : Json := .str ""
  directiveName : Json := .str ""
  displayName : Json := .str ""
  failureStrategy : Json := .str ""
  deriving Inhabited, Repr

/-- The report's document. -/
def ExceptionReport.toFields (r : ExceptionReport) : Record :=
  [("description", r.description), ("blockLine", r.blockLine), ("flowName", r.flowName),
    ("directiveName", r.directiveName), ("directiveDisplayName", r.displayName),
    ("failureStrategy", r.failureStrategy)]

/-- The kinds of events. -/
inductive EventKind where
  | breakpoint
  | exception
  | console
  | closed
  deriving DecidableEq, Repr, Inhabited

/-- The name of a kind. -/
def EventKind.name : EventKind → String
  | breakpoint => "breakpoint"
  | exception => "exception"
  | console => "console"
  | closed => "closed"

/-- An event of a debugger. -/
inductive Event where
  | breakpoint (url line : Json) (scopes : List Json) (frame : Record)
  | exception (report : ExceptionReport)
  | console (call : ConsoleCall) (params : Json)
  | closed (reason : Json)
  deriving Inhabited, Repr

/-- The kind of an event. -/
def Event.kind : Event → EventKind
  | breakpoint _ _ _ _ => .breakpoint
  | exception _ => .exception
  | console _ _ => .console
  | closed _ => .closed

end FlowTrace
