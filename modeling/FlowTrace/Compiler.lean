/-
  FlowTrace.Compiler
  ────────────────────────────────
  **FROM FLOWS TO SCRIPTS.**

  Compiling a directive restores the descriptors that saved flows omit,
  chooses a generator and emits one statement with its block call.  Compiling
  a flow joins the statements by newlines and records in a block table the
  line at which each begins.
-/
import FlowTrace.Block.Table
import FlowTrace.Catalog

namespace FlowTrace

/-- What compilation depends on besides the flow. -/
structure Compiler where
  catalog : Catalog := {}
  generators : Generators := .builtin
  options : Options := {}
  limits : Json.Limits := .thousandCalls
  deriving Inhabited

/-- A compiled directive of a flow. -/
structure Statement where
  code : String
  /-- The script line at which the statement begins. -/
  line : Int
  block : Block
  deriving Inhabited, Repr

/-- A compiled flow. -/
structure CompiledFlow where
  flowName : Json
  source : String
  blocks : BlockTable

namespace Compiler

/-! ## §1. Directives. -/

/-- The input as the catalog describes it. -/
def restoreInputs (c : Compiler) (identity : Json) :
    List (String × Input) → Except Fault (List (String × Input))
  | [] => .ok []
  | (k, item) :: rest => do
      let config ← c.catalog.addConfig c.limits.copying identity (.str k)
      let items ← restoreInputs c identity rest
      pure ((k, { item with config := config }) :: items)

/-- The outputs as the catalog describes them. -/
def restoreOutputs (c : Compiler) (identity : Json) :
    List (String × Output) → Except Fault (List (String × Output))
  | [] => .ok []
  | (k, o) :: rest => do
      let details ← c.catalog.typeDetails c.limits.copying identity (.str k)
      let os ← restoreOutputs c identity rest
      pure ((k, { o with typeDetails := details }) :: os)

/-- The directive with the catalog's descriptors in place of its own. -/
def restore (c : Compiler) (d : Directive) : Except Fault Directive := do
  let inputs ← c.restoreInputs d.identity d.inputs
  let outputs ← c.restoreOutputs d.identity d.outputs
  pure { d with inputs := inputs, outputs := outputs }

/-- The generator of a directive and the name it is reported by: the catalog's
choice, else the one that the directive names if it is registered, else the
default. -/
def chooseGenerator (c : Compiler) (d : Directive) : Except Fault (String × Generator) := do
  match ← c.catalog.generator c.generators d.identity with
  | some g => pure (d.identity.text, g)
  | none =>
      match ← c.generators.find d.generator with
      | some g => pure (d.generator.text, g)
      | none =>
          match Fields.get? c.generators.entries Generators.defaultTag with
          | some g => pure (Generators.defaultTag, g)
          | none =>
              throw (.compile ("no generator registered for " ++ quoted Generators.defaultTag))

/-- The block record of the directive that is block `line`. -/
def block (c : Compiler) (d : Directive) (line : Json) (flow : Option Flow) : Block :=
  Block.ofDirective d line flow c.options.debugFlowName

/-- A generator's outcome: what it fails with is reported under its name unless
it is a compilation fault of its own. -/
def report (name : String) (identity : Json) : Except Fault String → Except Fault String
  | .ok code => .ok code
  | .error (.compile m) => .error (.compile m)
  | .error e =>
      if e.containable then
        .error (.compile ("generator " ++ quoted name ++ " failed for " ++ identity.shown ++ ": "
          ++ e.message))
      else .error e

/-- The statement of the directive that is block `line`, and the directive as the
catalog describes it. -/
def compileDirective (c : Compiler) (d : Directive) (line : Json) (flow : Option Flow) :
    Except Fault (String × Directive) := do
  let blockCode ← Script.blockCall (c.block d line flow) c.options.blockFactory c.options.blockVar
  let d ← c.restore d
  let (name, g) ← c.chooseGenerator d
  let code ← report name d.identity (g d blockCode c.options)
  pure (code, d)

/-- The statement of a directive given as a document, at an index. -/
def compileDocument (c : Compiler) (v index : Json) (flow : Option Flow) : Except Fault String := do
  let d ← Directive.ofDocument v
  let (code, _) ← c.compileDirective d (← index.next) flow
  pure code

/-! ## §2. Flows. -/

/-- The number of newlines in a text. -/
def newlineCount (s : String) : Nat := s.toList.count '\n'

/-- The statements of directives that are blocks from `number` on, the first of
which begins at `line`. -/
def statements (c : Compiler) (flow : Flow) (number line : Int) :
    List Directive → Except Fault (List Statement)
  | [] => .ok []
  | d :: rest => do
      let (code, d) ← c.compileDirective d (.int number) (some flow)
      let more ← statements c flow (number + 1) (line + newlineCount code + 1) rest
      pure ({ code := code, line := line, block := c.block d (.int number) (some flow) } :: more)

/-- A compiled flow whose first statement begins at `lineOffset`. -/
def compileFlow (c : Compiler) (flow : Flow) (lineOffset : Int) : Except Fault CompiledFlow := do
  let ss ← c.statements flow 1 lineOffset flow.directives
  pure
    { flowName := flow.name
      source := String.intercalate "\n" (ss.map Statement.code)
      blocks := BlockTable.ofList (ss.map (fun s => (s.line, s.block))) }

/-- A flow given as a document, compiled.  A faulty object is reported before a
faulty offset, a document that is no object after it. -/
def compileFlowDocument (c : Compiler) (v lineOffset : Json) : Except Fault CompiledFlow := do
  if v.isObj then
    let flow ← Flow.ofDocument v
    c.compileFlow flow (← lineOffset.toInt)
  else
    let offset ← lineOffset.toInt
    c.compileFlow (← Flow.ofDocument v) offset

end Compiler
end FlowTrace
