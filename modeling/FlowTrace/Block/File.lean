/-
  FlowTrace.Block.File
  ────────────────────────────────
  **BLOCK TABLES IN FILES.**

  The compiler leaves the table of a script in a file beside it, and a
  debugger that is told the file reads the table back.
-/
import FlowTrace.Block.Table
import FlowTrace.Program.Folder

namespace FlowTrace
namespace BlockTable

/-- Write the table to a file.  A table that has no text leaves the file alone; one
whose text no file can hold empties it. -/
def write (room : Nat) (t : BlockTable) (path : String) : Act Folder Unit := do
  Folder.save path (← Act.ofExcept (t.toText room))

/-- The table in a file. -/
def ofFile (room : Nat) (folder : Folder) (path : String) : Except Fault BlockTable := do
  ofText room (← folder.read path)

end BlockTable
end FlowTrace
