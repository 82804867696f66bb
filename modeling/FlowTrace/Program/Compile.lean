/-
  FlowTrace.Program.Compile
  ────────────────────────────────
  **THE COMPILE COMMAND.**

  A flow document is read from a file and compiled; only when that is done is
  anything written: the script to its file or to the output, and the block
  table to its file.
-/
import FlowTrace.Block.File
import FlowTrace.Compiler
import FlowTrace.Program.Request

namespace FlowTrace

/-- What a program run works on: the files, and what it has printed as output and
as errors. -/
structure Desk where
  folder : Folder := {}
  out : String := ""
  err : String := ""
  deriving Inhabited, Repr

namespace Desk

/-- Print to the output. -/
def say (text : String) : Act Desk Unit := modify (fun d => { d with out := d.out ++ text })

/-- Print an error. -/
def complain (message : String) : Act Desk Unit :=
  modify (fun d => { d with err := d.err ++ "error: " ++ message ++ "\n" })

/-- Do something with the files. -/
def onFolder {α : Type} (a : Act Folder α) : Act Desk α :=
  Act.within Desk.folder (fun folder d => { d with folder := folder }) a

end Desk

namespace CompileRequest

/-- The document in a file. -/
def document (r : CompileRequest) (folder : Folder) (path : String) : Except Fault Json := do
  Json.read r.limits.reading (← folder.read path)

/-- The catalog that is named, or an empty one. -/
def readCatalog (r : CompileRequest) (folder : Folder) : Except Fault Catalog :=
  match r.catalog with
  | none => .ok {}
  | some path => do Catalog.ofDocument Generators.builtin (← r.document folder path)

/-- The compiled flow. -/
def compile (r : CompileRequest) (folder : Folder) : Except Fault CompiledFlow := do
  let flow ← r.document folder r.flow
  let catalog ← r.readCatalog folder
  let compiler : Compiler :=
    { catalog := catalog, generators := Generators.builtin, limits := r.limits }
  compiler.compileFlowDocument flow r.lineOffset

/-- Is the fault one of the documents or their files, and so the user's to see? -/
def isReported : Fault → Bool
  | .file _ _ => true
  | .notJson _ => true
  | .catalog _ => true
  | .compile _ => true
  | _ => false

/-- Write the script. -/
def saveScript (r : CompileRequest) (c : CompiledFlow) : Act Desk Unit :=
  match r.output with
  | some path => Desk.onFolder (Folder.save path (c.source ++ "\n"))
  | none => Desk.say (c.source ++ "\n")

/-- Write the block table. -/
def saveBlocks (r : CompileRequest) (c : CompiledFlow) : Act Desk Unit :=
  match r.blocks with
  | some path => Desk.onFolder (c.blocks.write r.limits.recording path)
  | none => return

/-- Run the command: 0 when the flow is compiled, 1 when it cannot be. -/
def run (r : CompileRequest) : Act Desk Int := do
  match r.compile (← get).folder with
  | .ok compiled =>
      r.saveScript compiled
      r.saveBlocks compiled
      return 0
  | .error f =>
      if isReported f then
        Desk.complain f.message
        return 1
      else throw f

end CompileRequest
end FlowTrace
