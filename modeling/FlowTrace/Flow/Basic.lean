/-
  FlowTrace.Flow.Basic
  ────────────────────────────────
  **FLOWS.**

  A flow is a named sequence of directives.  Its display name is what users
  see; a flow without one goes by its name.
-/
import FlowTrace.Flow.Directive

namespace FlowTrace

/-- A named sequence of directives. -/
structure Flow where
  name : Json
  displayName : Json := .null
  directives : List Directive := []
  deriving Inhabited, Repr

namespace Flow

/-- The name that users see. -/
def label (f : Flow) : Json := f.displayName.orElse f.name

/-- The directives of a list of documents, in order. -/
def directivesOf : List Json → Except Fault (List Directive)
  | [] => .ok []
  | v :: rest => do
      let d ← Directive.ofDocument v
      let ds ← directivesOf rest
      pure (d :: ds)

/-- A flow from its document.  It needs a name; directives, if given, have to be
a list. -/
def ofDocument (v : Json) : Except Fault Flow := do
  let fields ← v.fieldsOf
  let name := Json.field fields "name"
  if !name.truthy then throw (.compile "flow missing name")
  match (Json.field fields "directives").orElse (.arr []) with
  | .arr items =>
      let directives ← directivesOf items
      pure
        { name := .str name.text
          displayName := (Json.field fields "aliasName").orNull
          directives := directives }
  | _ => throw (.compile ("flow " ++ name.shown ++ " directives must be a list"))

end Flow
end FlowTrace
