/-
  FlowTrace.Flow.Directive
  ────────────────────────────────
  **DIRECTIVES, AS THE EDITOR SAVES THEM.**

  A directive is one visual block: a name, declared inputs, and outputs bound
  to destination variables.  Reading one fixes the fields that the compiler
  relies on and leaves the rest as the document has them, so a key, a display
  name or a generator may be of any kind.
-/
import FlowTrace.Json.Access

namespace FlowTrace

/-- A declared input.  Kinds are kept as saved: `variable`, `array` and
`arrayObject` have a rendering of their own, all others are literals. -/
structure Input where
  kind : Json := .str "literal"
  value : Json := .str ""
  /-- The catalog's descriptor of the input, null when there is none. -/
  config : Json := .null
  deriving Inhabited, Repr

/-- The destination of one result field. -/
structure Output where
  name : Json
  /-- The catalog's type of the result field, null when there is none. -/
  typeDetails : Json := .null
  deriving Inhabited, Repr

/-- One visual block. -/
structure Directive where
  name : Json
  inputs : List (String × Input) := []
  outputs : List (String × Output) := []
  key : Json := .null
  displayName : Json := .null
  failureStrategy : Json := .str "terminate"
  intervalTime : Json := .int 0
  retryCount : Json := .int 0
  generator : Json := .null
  deriving Inhabited, Repr

/-- Apply a reader to the value at every key, in order. -/
def Fields.mapM {α β : Type} (f : α → Except Fault β) :
    List (String × α) → Except Fault (List (String × β))
  | [] => .ok []
  | (k, v) :: rest => do
      let x ← f v
      let xs ← Fields.mapM f rest
      pure ((k, x) :: xs)

/-- The value if it counts as given, else null. -/
def Json.orNull (v : Json) : Json := v.orElse .null

/-- The text of an input's value: absent is empty, null stays null, and any
other value becomes text. -/
def Input.valueOfDocument (fields : List (String × Json)) : Json :=
  match Fields.get? fields "value" with
  | none => .str ""
  | some .null => .null
  | some v => .str v.text

/-- An input from its document. -/
def Input.ofDocument (v : Json) : Except Fault Input := do
  let fields ← v.fieldsOf
  pure
    { kind := .str ((Json.field fields "type").orElse (.str "literal")).text
      value := Input.valueOfDocument fields
      config := Json.field fields "addConfig" }

/-- An output from its document; the destination name has to be given. -/
def Output.ofDocument (v : Json) : Except Fault Output := do
  let fields ← v.fieldsOf
  let name := Json.field fields "name"
  if !name.truthy then throw (.compile "directive output missing destination name")
  pure { name := .str name.text, typeDetails := Json.field fields "typeDetails" }

namespace Directive

/-- The name that the catalog and the emitted call know the directive by. -/
def identity (d : Directive) : Json := d.key.orElse d.name

/-- A directive from its document.  It needs a name, a map of inputs and a map
of outputs. -/
def ofDocument (v : Json) : Except Fault Directive := do
  let fields ← v.fieldsOf
  let name := Json.field fields "name"
  if !name.truthy then throw (.compile "directive missing name")
  let some inputs := (Json.field fields "inputs").fields?
    | throw (.compile ("directive " ++ name.shown ++ " missing inputs map"))
  let some outputs := (Json.field fields "outputs").fields?
    | throw (.compile ("directive " ++ name.shown ++ " missing outputs map"))
  let inputs ← Fields.mapM Input.ofDocument inputs
  let outputs ← Fields.mapM Output.ofDocument outputs
  let intervalTime ← (Json.field fields "intervalTime").toIntOrZero
  let retryCount ← (Json.field fields "retryCount").toIntOrZero
  pure
    { name := .str name.text
      inputs := inputs
      outputs := outputs
      key := (Json.field fields "key").orNull
      displayName := (Json.field fields "displayName").orNull
      failureStrategy := .str ((Json.field fields "failureStrategy").orElse (.str "terminate")).text
      intervalTime := .int intervalTime
      retryCount := .int retryCount
      generator :=
        ((Json.field fields "generator").orElse (Json.field fields "toCode")).orNull }

/-- A directive whose inputs and outputs are given apart: either may turn out
not to be a map. -/
def withMaps (d : Directive) (inputs : Option (List (String × Input)))
    (outputs : Option (List (String × Output))) : Except Fault Directive :=
  match inputs, outputs with
  | some inputs, some outputs => .ok { d with inputs := inputs, outputs := outputs }
  | _, _ => .error (.compile ("directive " ++ d.name.shown ++ " must carry inputs and outputs maps"))

end Directive
end FlowTrace
