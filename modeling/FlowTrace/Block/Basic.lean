/-
  FlowTrace.Block.Basic
  ────────────────────────────────
  **BLOCK RECORDS.**

  A block record says which visual block a statement of the emitted script
  belongs to and how its failures are treated.  It is baked into the script
  in front of each statement.
-/
import FlowTrace.Flow.Basic
import FlowTrace.Json.Nesting

namespace FlowTrace

/-- The record of one visual block. -/
structure Block where
  line : Json
  flowName : Json
  flowAlias : Json
  directiveName : Json
  displayName : Json
  failureStrategy : Json := .str "terminate"
  intervalTime : Json := .int 0
  retryCount : Json := .int 0
  deriving Inhabited, Repr

namespace Block

/-- The record of the directive that is block `line` of a flow; without a flow
the directive is compiled for `flowName`. -/
def ofDirective (d : Directive) (line : Json) (flow : Option Flow) (flowName : Json) : Block :=
  { line := line
    flowName := match flow with
      | some f => f.name
      | none => flowName
    flowAlias := match flow with
      | some f => f.label
      | none => flowName
    directiveName := d.name
    displayName := d.displayName.orElse d.name
    failureStrategy := d.failureStrategy.orElse (.str "terminate")
    intervalTime := d.intervalTime.orElse (.int 0)
    retryCount := d.retryCount.orElse (.int 0) }

/-- The fields of a record, in the order of its document. -/
def toFields (b : Block) : List (String × Json) :=
  [("blockLine", b.line), ("flowName", b.flowName), ("flowAliasName", b.flowAlias),
    ("directiveName", b.directiveName), ("directiveDisplayName", b.displayName),
    ("failureStrategy", b.failureStrategy), ("intervalTime", b.intervalTime),
    ("retryCount", b.retryCount)]

/-- The fields of the record's document, which copies every value, down to the depth
`room`. -/
def toDocument (room : Nat) (b : Block) : Except Fault (List (String × Json)) :=
  b.toFields.mapM (fun f => (f.2.within room).map (fun v => (f.1, v)))

/-- A record from its document: numbers that are none become zero, everything
else becomes text. -/
def ofFields (fields : List (String × Json)) : Except Fault Block := do
  let line ← (Json.field fields "blockLine").toIntOrZero
  let intervalTime ← (Json.field fields "intervalTime").toIntOrZero
  let retryCount ← (Json.field fields "retryCount").toIntOrZero
  pure
    { line := .int line
      flowName := .str (Json.field fields "flowName").textOrEmpty
      flowAlias := .str (Json.field fields "flowAliasName").textOrEmpty
      directiveName := .str (Json.field fields "directiveName").textOrEmpty
      displayName := .str (Json.field fields "directiveDisplayName").textOrEmpty
      failureStrategy := .str ((Json.field fields "failureStrategy").orElse (.str "terminate")).text
      intervalTime := .int intervalTime
      retryCount := .int retryCount }

/-- A record from its document. -/
def ofDocument (v : Json) : Except Fault Block := do
  ofFields (← v.fieldsOf)

end Block
end FlowTrace
