/-
  FlowTrace.Console.Printed
  ────────────────────────────────
  **WHAT THE CONSOLE PRINTS.**

  Command results, errors and events, in plain lines or as JSON documents
  with sorted keys.
-/
import FlowTrace.Debug.Event
import FlowTrace.Json.Text
import FlowTrace.Text.Search

namespace FlowTrace

/-- A text as one printed line. -/
def printedLine (s : String) : String := s ++ "\n"

/-- A document as printed JSON. -/
def printedDocument (fields : Record) : String :=
  printedLine (Json.obj fields).sortKeys.renderIndented

/-- A text padded with blanks to a width. -/
def padRight (width : Nat) (s : String) : String :=
  s ++ String.ofList (List.replicate (width - CodePoint.count s) ' ')

namespace Printed

/-! ## §1. Results and errors. -/

/-- A command's result: its message, or as JSON its data if there are any. -/
def result (json : Bool) (message : Json) (data : Option Json) : String :=
  if json then
    printedDocument (("status", .str "ok") ::
      (match data with
        | some d => [("result", d)]
        | none => [("message", message)]))
  else printedLine message.text

/-- An error without details. -/
def plainError (json : Bool) (message : Json) : String :=
  if json then printedDocument [("status", .str "error"), ("error", message)]
  else printedLine ("error: " ++ message.text)

/-- The details of an error, in the order of their keys. -/
def detailsDocument (message : Json) (details : List (String × Json)) : String :=
  printedLine (Json.obj [("details", .obj details), ("error", message.sortKeys),
    ("status", .str "error")]).renderIndented

/-- An error, in JSON with its details if there are any. -/
def error (json : Bool) (message data : Json) : Except Fault String :=
  if data.truthy then do
    let details ← data.toEntries
    if json then
      let sorted ← Json.sortEntries details
      pure (detailsDocument message sorted)
    else pure (plainError false message)
  else .ok (plainError json message)

/-! ## §2. Remote values. -/

/-- The description of a remote value that is not sent itself. -/
def describeRemote (fields : Record) : String :=
  ((Json.field fields "unserializableValue").orElse
    ((Json.field fields "description").orElse
      ((Json.field fields "type").orElse (.str "undefined")))).text

/-- A remote value in one line: the value itself as JSON if it was sent, else its
description. -/
def remoteFields (fields : Record) : String :=
  match Fields.get? fields "value" with
  | some v => v.render
  | none => describeRemote fields

/-- A remote value in one line.  Only an object describes one. -/
def remote : Json → Except Fault String
  | .obj fields => .ok (remoteFields fields)
  | .arr items =>
      if items.any (fun v => v.same (.str "value")) then .error .badKind
      else .error (.noMember (Json.arr items).kindName "get")
  | .str s =>
      if contains s "value" then .error .badKind
      else .error (.noMember (Json.str s).kindName "get")
  | _ => .error .badKind

/-- The line of a property. -/
def property (v : Json) : Except Fault String := do
  let fields ← v.fieldsOf
  let name := padRight 20 (Json.field fields "name").text
  match Json.field fields "value" with
  | .obj value =>
      let id := Json.field value "objectId"
      let suffix := if id.truthy then "  [" ++ id.text ++ "]" else ""
      pure (printedLine ("  " ++ name ++ " " ++ remoteFields value ++ suffix))
  | _ => pure (printedLine ("  " ++ name ++ " <accessor>"))

/-- The lines of properties, up to the first that is no object, and the fault of
that one. -/
def properties : List Json → String × Except Fault Unit
  | [] => ("", .ok ())
  | v :: rest =>
      match property v with
      | .error f => ("", .error f)
      | .ok line =>
          let r := properties rest
          (line ++ r.1, r.2)

/-! ## §3. Events. -/

/-- The body of an event's document. -/
def eventBody : Event → Json
  | .breakpoint url line _ _ => .obj [("url", url), ("line", line)]
  | .exception report => .obj report.toFields
  | .console _ params => params
  | .closed reason => .obj [("reason", reason)]

/-- The line of an event. -/
def eventLine : Event → String
  | .breakpoint url line _ _ => "* paused at " ++ url.text ++ ":" ++ line.text
  | .exception report =>
      if report.blockLine.truthy then
        "! exception in " ++ report.flowName.text ++ " block " ++ report.blockLine.text ++ " ("
          ++ report.displayName.text ++ "): " ++ report.description.text
      else "! exception: " ++ report.description.text
  | .console call _ => "[console." ++ call.kind ++ "] " ++ call.text
  | .closed reason => "* debugger connection " ++ reason.text

/-- An event as printed. -/
def event (json : Bool) (e : Event) : String :=
  if json then printedDocument [("event", .str e.kind.name), ("body", eventBody e)]
  else printedLine (eventLine e)

end Printed
end FlowTrace
