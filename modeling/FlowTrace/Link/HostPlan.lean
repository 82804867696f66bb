/-
  FlowTrace.Link.HostPlan
  ────────────────────────────────
  **THE PLAN OF A REHEARSED HOST.**

  What a rehearsed host will do, laid down in a document: how attempts to
  connect end, what every new socket says first, how closing fails, and the
  rules for commands.  An action is an object with the action's name as its
  only key; what is no action is passed over.
-/
import FlowTrace.Link.Rehearsal

namespace FlowTrace

/-- A list's items; a value of any other kind has none. -/
def Json.listed : Json → List Json
  | .arr items => items
  | _ => []

/-- A breakdown from its document: the user's interruption, or an error with a
text. -/
def Breakdown.ofDocument (v : Json) : Breakdown :=
  let fields := v.fields?.getD []
  if (Json.field fields "kind").same "interrupt" then .interrupted
  else .error ((Fields.get? fields "text").getD "").text

namespace HostAction

/-- The action of putting a frame on the wire as it is.  Of frames that are no
texts those that do not count as given end the stream, and the rest say nothing. -/
def ofRaw : Json → HostAction
  | .str t => raw t
  | v => if v.truthy then push v.shown else drop

/-- The action with a name and what stands at it. -/
def named? (name : String) (v : Json) : Option HostAction :=
  match name with
  | "ack" => some acknowledge
  | "reply" => some (reply v)
  | "error" => some (refuse v)
  | "push" => some (push v)
  | "raw" => some (ofRaw v)
  | "hold" => some hold
  | "release" => some (release (v.same "lifo"))
  | "drop" => some drop
  | "recv_fault" => some (breakReceive (.ofDocument v))
  | "send_fault" => some (breakSend (.ofDocument v))
  | _ => none

/-- An action from its document. -/
def ofDocument? : Json → Option HostAction
  | .obj [(name, v)] => named? name v
  | _ => none

/-- The actions of a list of documents. -/
def ofDocuments (v : Json) : List HostAction := v.listed.filterMap ofDocument?

end HostAction

/-- How often a rule may be used; only a number limits it. -/
def HostRule.limit? (v : Json) : Option Int :=
  (v.number?.bind Json.ratio?).map (fun r => Json.ceiling r.1 r.2)

/-- A rule from its document.  One without a method is for every command. -/
def HostRule.ofDocument (v : Json) : HostRule :=
  let fields := v.fields?.getD []
  { method := (Fields.get? fields "method").getD "*"
    times := limit? (Json.field fields "times")
    params := (Json.field fields "params").fields?.getD []
    actions := HostAction.ofDocuments (Json.field fields "actions") }

/-- A host from its document. -/
def RehearsedHost.ofDocument (v : Json) : RehearsedHost :=
  let fields := v.fields?.getD []
  let closing := Json.field fields "closeFault"
  { connects := (Json.field fields "connects").listed.map (fun c =>
      if c.isObj then some (.ofDocument c) else none)
    greeting := HostAction.ofDocuments (Json.field fields "greeting")
    closing := if closing.isNull then none else some (.ofDocument closing)
    rules := (Json.field fields "rules").listed.map HostRule.ofDocument }

end FlowTrace
