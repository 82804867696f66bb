/-
  FlowTrace.Debug.Pause
  ────────────────────────────────
  **SCRIPTS AND THE PAUSED FRAME.**

  What one connection has told about its scripts, and the frame at which the
  script is paused, if it is.
-/
import FlowTrace.Debug.Notification

namespace FlowTrace

/-- A script of the host. -/
structure ParsedScript where
  scriptId : String
  url : String
  params : Record
  deriving Inhabited, Repr

/-- The frame at which a script is paused. -/
structure PausedFrame where
  callFrameId : String
  scriptId : String
  line : Int
  column : Int
  scopeChain : List Json
  frame : Record
  deriving Inhabited, Repr

/-- The number in a field of a location, zero when it is not given. -/
def locationNumber (location : Json) (key : String) : Except Fault Int := do
  let v ← location.get key
  (v.orElse (.int 0)).toInt

/-- A paused frame from its call frame. -/
def PausedFrame.ofFrame (frame : Record) : Except Fault PausedFrame := do
  let location := (Json.field frame "location").orObject
  let scriptId ← location.get "scriptId"
  let line ← locationNumber location "lineNumber"
  let column ← locationNumber location "columnNumber"
  let scopes ← ((Json.field frame "scopeChain").orElse (.arr [])).toItems
  pure
    { callFrameId := (Json.field frame "callFrameId").textOrEmpty
      scriptId := scriptId.textOrEmpty
      line := line, column := column, scopeChain := scopes, frame := frame }

/-- The scripts of a connection by their ids, and the paused frame. -/
structure PauseTracker where
  scripts : List (String × ParsedScript) := []
  paused : Option PausedFrame := none
  deriving Inhabited, Repr

namespace PauseTracker

/-- Record a parsed script, in place of one with its id. -/
def record (t : PauseTracker) (s : ParsedScript) : PauseTracker :=
  { t with scripts := Fields.put s.scriptId s t.scripts }

/-- The script with an id. -/
def script? (t : PauseTracker) (id : Json) : Option ParsedScript :=
  if id.isNull then none else Fields.get? t.scripts id.text

/-- The address of the script with an id, null when there is none. -/
def url (t : PauseTracker) (id : Json) : Json :=
  match t.script? id with
  | some s => .str s.url
  | none => .null

/-- The number of scripts. -/
def count (t : PauseTracker) : Nat := t.scripts.length

/-- The script is paused at a frame. -/
def capture (t : PauseTracker) (frame : PausedFrame) : PauseTracker :=
  { t with paused := some frame }

/-- The script is paused no longer. -/
def clear (t : PauseTracker) : PauseTracker := { t with paused := none }

/-- The paused frame, if there is one that can be referred to. -/
def require (t : PauseTracker) : Except Fault PausedFrame :=
  match t.paused with
  | some frame => if frame.callFrameId.isEmpty then .error .notPaused else .ok frame
  | none => .error .notPaused

end PauseTracker
end FlowTrace
