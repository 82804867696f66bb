/-
  FlowTrace.Script.Generator
  ────────────────────────────────
  **GENERATORS.**

  A generator turns a directive and the code of its block call into a
  statement.  Generators are known by tags: `default` calls the runtime,
  `raw` emits the directive's own code, and a host may register more.
-/
import FlowTrace.Script.Statement

namespace FlowTrace

/-- The names that emitted code uses. -/
structure Options where
  runtimeName : String := "robotUtil"
  blockFactory : String := "generateBlock"
  blockVar : String := "_block"
  /-- The flow name of directives that are compiled without a flow. -/
  debugFlowName : Json := "debug"
  deriving Inhabited, Repr

/-- From a directive, its block call and the options to a statement. -/
abbrev Generator := Directive → String → Options → Except Fault String

namespace Generator

/-- The generator that calls the runtime. -/
def standard : Generator := fun d blockCode options => do
  let params ← Script.params d.inputs
  pure (Script.invocation d.identity.text params blockCode
    (Script.bindings d.outputs Script.resultName) options.runtimeName)

/-- The generator that emits the `code` input after the block call. -/
def verbatim : Generator := fun d blockCode _ =>
  let code := match Fields.get? d.inputs "code" with
    | some item => item.value.textOrEmpty
    | none => ""
  .ok (trimRight (blockCode ++ "; " ++ code))

end Generator

/-- The registered generators by tag. -/
structure Generators where
  entries : List (String × Generator)

namespace Generators

/-- The tag of the generator for directives that name none. -/
def defaultTag : String := "default"

/-- The generators that are always there. -/
def builtin : Generators := ⟨[(defaultTag, Generator.standard), ("raw", Generator.verbatim)]⟩

instance : Inhabited Generators := ⟨builtin⟩

/-- Register a generator under a tag, in place of the one that was there. -/
def register (gs : Generators) (tag : String) (g : Generator) : Generators :=
  ⟨Fields.put tag g gs.entries⟩

/-- Take a tag out. -/
def unregister (gs : Generators) (tag : String) : Generators := ⟨Fields.erase tag gs.entries⟩

/-- Is a generator registered under the value?  Only a key can be asked for. -/
def contains (gs : Generators) (tag : Json) : Except Fault Bool :=
  match tag with
  | .str s => .ok (Fields.contains gs.entries s)
  | v => if v.isKey then .ok false else .error .badKind

/-- The generator that a directive or a catalog entry names; one that names none
has none. -/
def find (gs : Generators) (tag : Json) : Except Fault (Option Generator) :=
  if !tag.truthy then .ok none
  else
    match tag with
    | .str s => .ok (Fields.get? gs.entries s)
    | v => if v.isKey then .ok none else .error .badKind

/-- The tags, sorted. -/
def tags (gs : Generators) : List String :=
  (Fields.keys gs.entries).mergeSort (fun a b => !precedes b a)

end Generators
end FlowTrace
