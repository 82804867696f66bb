/-
  FlowTrace.Console.Scopes
  ────────────────────────────────
  **THE SCOPE CHAIN AS PRINTED.**

  One row for each scope: its type and name as the host gave them, and the id
  of the object that holds its variables.
-/
import FlowTrace.Console.Printed

namespace FlowTrace

/-- A scope as listed. -/
structure ScopeRow where
  kind : Json
  name : Json
  objectId : Json
  deriving Repr

namespace ScopeRow

/-- The row of a scope. -/
def ofScope (scope : Json) : Except Fault ScopeRow := do
  let object ← scope.get "object"
  let kind ← scope.get "type"
  let name ← scope.get "name"
  let objectId ← object.orObject.get "objectId"
  pure { kind := kind, name := name, objectId := objectId }

/-- The row's document. -/
def toDocument (r : ScopeRow) : Json :=
  .obj [("type", r.kind), ("name", r.name), ("objectId", r.objectId)]

/-- A value as a label: a text or a number, truth values as 1 and 0. -/
def label : Json → Except Fault String
  | .str s => .ok s
  | .bool b => .ok (if b then "1" else "0")
  | .int n => .ok (toString n)
  | .float x => .ok x.toText
  | _ => .error .badKind

/-- The row's line: type and name, or the type by itself if there is no name. -/
def line (r : ScopeRow) : Except Fault String := do
  let label ←
    if r.name.truthy then pure (r.kind.text ++ " " ++ r.name.text) else label r.kind
  pure (printedLine ("  " ++ padRight 24 label ++ " "
    ++ (if r.objectId.truthy then r.objectId.text else "-")))

/-- The lines of rows, up to the first that cannot be printed, and the fault of
that one. -/
def lines : List ScopeRow → String × Except Fault Unit
  | [] => ("", .ok ())
  | r :: rest =>
      match r.line with
      | .error f => ("", .error f)
      | .ok text =>
          let printed := lines rest
          (text ++ printed.1, printed.2)

end ScopeRow
end FlowTrace
