/-
  FlowTrace.Debug.Notification
  ────────────────────────────────
  **WHAT THE SCRIPT HOST REPORTS.**

  A notification is a method with parameters.  The ones a debugger acts on
  are read into fields of their own: a parsed script, a pause, its end, an
  uncaught exception and a console call.  Every other one keeps its method
  and parameters only.
-/
import FlowTrace.Json.Access

namespace FlowTrace

/-- A call frame or scope as received: the fields of an object. -/
abbrev Record := List (String × Json)

/-- An uncaught exception. -/
structure Thrown where
  details : Record
  description : String
  line : Option Int
  column : Option Int
  scriptId : Json
  url : Json
  /-- The stack, innermost frame first. -/
  frames : List Record
  deriving Inhabited, Repr

/-- A console call. -/
structure ConsoleCall where
  kind : String
  args : List Record
  contextId : Option Int
  timestamp : Binary64
  stackTrace : Json
  deriving Inhabited, Repr

/-- What a notification is about. -/
inductive Report where
  | other
  | scriptParsed (scriptId url : String)
  | paused (frames : List Record) (reason : Json)
  | resumed
  | thrown (exception : Thrown)
  | console (call : ConsoleCall)
  deriving Inhabited, Repr

/-- A notification of the script host. -/
structure Notification where
  method : String
  params : Json
  report : Report
  deriving Inhabited, Repr

/-! ## §1. Console calls. -/

/-- The text of a console argument: its value, else its description or type. -/
def argumentText (arg : Record) : String :=
  match Fields.get? arg "value" with
  | some v => v.text
  | none => ((Json.field arg "description").orElse (Json.field arg "type")).textOrEmpty

/-- The text of a console call: its arguments with blanks between. -/
def ConsoleCall.text (c : ConsoleCall) : String :=
  String.intercalate " " (c.args.map argumentText)

/-! ## §2. Exceptions. -/

/-- The description of an exception: that of the thrown value, else the value
itself, else the text of the details. -/
def Thrown.describe (details : Record) : String :=
  let plain := (Json.field details "text").textOrEmpty
  match Json.field details "exception" with
  | .obj thrown =>
      if (Json.field thrown "description").truthy then (Json.field thrown "description").text
      else
        match Fields.get? thrown "value" with
        | some v => v.text
        | none => plain
  | _ => plain

/-- An exception from its details. -/
def Thrown.ofDetails (v : Json) : Except Fault Thrown := do
  let details ← v.orObject.fieldsOf
  let stack := (Json.field details "stackTrace").orObject
  let line ← (Json.field details "lineNumber").toInt?
  let column ← (Json.field details "columnNumber").toInt?
  let frames ← stack.get "callFrames"
  pure
    { details := details, description := Thrown.describe details, line := line, column := column
      scriptId := Json.field details "scriptId", url := Json.field details "url"
      frames := frames.objects }

/-! ## §3. Reading. -/

namespace Report

/-- The report of a parsed script. -/
def ofScript (params : Record) : Report :=
  scriptParsed (Json.field params "scriptId").textOrEmpty (Json.field params "url").textOrEmpty

/-- The report of a pause. -/
def ofPause (params : Record) : Report :=
  paused (Json.field params "callFrames").objects (Json.field params "reason")

/-- The report of a console call. -/
def ofConsole (params : Record) : Except Fault Report := do
  let contextId ← (Json.field params "executionContextId").toInt?
  let timestamp ← (Json.field params "timestamp").toFloatOrZero
  pure (console
    { kind := ((Json.field params "type").orElse (.str "log")).text
      args := (Json.field params "args").objects
      contextId := contextId, timestamp := timestamp
      stackTrace := Json.field params "stackTrace" })

/-- The report of a method with parameters. -/
def read (method : String) (params : Json) : Except Fault Report :=
  if method = "Debugger.scriptParsed" then (params.fieldsOf).map ofScript
  else if method = "Debugger.paused" then (params.fieldsOf).map ofPause
  else if method = "Debugger.resumed" then .ok resumed
  else if method = "Runtime.exceptionThrown" then do
    let details ← params.get "exceptionDetails"
    let exception ← Thrown.ofDetails details
    pure (thrown exception)
  else if method = "Runtime.consoleAPICalled" then do
    let fields ← params.fieldsOf
    ofConsole fields
  else .ok other

end Report

namespace Notification

/-- A notification from its message. -/
def ofFields (message : Record) : Except Fault Notification := do
  let method := (Json.field message "method").textOrEmpty
  let params := (Json.field message "params").orObject
  let report ← Report.read method params
  pure { method := method, params := params, report := report }

/-- A notification from its message. -/
def ofMessage (v : Json) : Except Fault Notification := do
  ofFields (← v.fieldsOf)

end Notification
end FlowTrace
