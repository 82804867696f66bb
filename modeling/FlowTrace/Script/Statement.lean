/-
  FlowTrace.Script.Statement
  ────────────────────────────────
  **STATEMENTS.**

  Each directive becomes one statement: a call of the runtime with the
  directive's parameters and its block record, whose results are assigned to
  the destination variables.
-/
import FlowTrace.Block.Basic
import FlowTrace.Script.Literal

namespace FlowTrace
namespace Script

/-- The assignments of result fields to their destinations. -/
def bindings (outputs : List (String × Output)) (result : String) : String :=
  String.join (outputs.map (fun o => o.2.name.text ++ " = " ++ result ++ "." ++ o.1 ++ "; "))

/-- The name that a statement gives the result of its call. -/
def resultName : String := "res"

/-- The text of a number field of a block record. -/
def wholeNumber (v : Json) : Except Fault String := do Json.numeral (← v.toInt)

/-- The call that makes the block record and stores it in `target`. -/
def blockCall (b : Block) (factory target : String) : Except Fault String := do
  let line ← wholeNumber b.line
  let intervalTime ← wholeNumber b.intervalTime
  let retryCount ← wholeNumber b.retryCount
  let args := [line, b.flowName.render, b.flowAlias.render, b.directiveName.render,
    b.displayName.render, b.failureStrategy.render, intervalTime, retryCount]
  pure (target ++ " = " ++ factory ++ "(" ++ String.intercalate ", " args ++ ")")

/-- The statement that calls the runtime. -/
def invocation (identity params blockCode bindings runtime : String) : String :=
  "await " ++ runtime ++ "." ++ identity ++ "(" ++ params ++ "," ++ blockCode
    ++ ").then(" ++ resultName ++ "=>\x7b " ++ bindings ++ "\x7d);"

end Script
end FlowTrace
