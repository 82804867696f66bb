/-
  FlowTrace.Main
  ────────────────────────────────
  **THE COMMAND LINE PROGRAM.**

  Reads the files that a request names, runs it, and writes what has changed.
  There is no connection to script hosts here: attaching ends as it does when
  a host refuses.
-/
import FlowTrace.Program.Attach
import FlowTrace.Program.Compile

namespace FlowTrace

/-- An endpoint that refuses every connection. -/
structure NoHost where
  deriving Inhabited

instance : Endpoint NoHost where
  connect e _ := (.error (.error "no network"), e)
  send e _ _ := (.error (.error "no network"), e)
  receive e _ := (none, e)
  close e _ := (.ok (), e)

namespace Main

/-- Add what lies at a path to a folder.  What cannot be looked at is left out. -/
def look (folder : Folder) (path : String) : IO Folder := do
  try
    let place ← IO.FS.realPath (CodePoint.toPlain path)
    if ← place.isDir then
      return { folder with directories := Path.names path :: folder.directories }
    else if ← place.pathExists then
      let text := CodePoint.ofPlain (← IO.FS.readFile place)
      return { folder with files := Fields.put (Path.join (Path.names path)) text folder.files }
    else return folder
  catch _ => return folder

/-- A path and every directory that it runs through. -/
def along (path : String) : List String :=
  let names := Path.names path
  (List.range names.length).map (fun i => Path.join (names.take (i + 1)))

/-- The folder as far as paths run through it. -/
def survey (paths : List String) : IO Folder := (paths.flatMap along).foldlM look {}

/-- Print a text as output. -/
def say (text : String) : IO Unit := IO.print (CodePoint.toPlain text)

/-- Print a text as errors. -/
def complain (text : String) : IO Unit := IO.eprint (CodePoint.toPlain text)

/-- Report a fault that no part of the program keeps. -/
def fail (f : Fault) : IO UInt32 := do
  complain (f.message ++ "\n")
  return 1

/-- An exit code. -/
def exitCode (n : Int) : UInt32 := UInt32.ofNat n.toNat

/-- How the program is called. -/
def usage : String := "usage: flowtrace [-h] [--log-level LEVEL] compile|attach ..."

/-- Compile. -/
def compile (r : CompileRequest) : IO UInt32 := do
  let folder ← survey (r.flow :: (r.catalog.toList ++ r.output.toList ++ r.blocks.toList))
  let (outcome, desk) := r.run.exec { folder := folder }
  for (path, text) in folder.changes desk.folder do
    IO.FS.writeFile (CodePoint.toPlain path) (CodePoint.toPlain text)
  say desk.out
  complain desk.err
  match outcome with
  | .ok code => return exitCode code
  | .error f => fail f

/-- Attach. -/
def attach (r : AttachRequest) : IO UInt32 := do
  let folder ← survey r.blocks.toList
  let network : Network NoHost := { endpoint := {} }
  let (outcome, prompting) := (r.run []).exec (r.session folder network)
  say (String.join (prompting.shown.map ShownPrompt.out) ++ prompting.session.out)
  match outcome with
  | .ok code => return exitCode code
  | .error f => fail f

end Main
end FlowTrace

/-- Run the call on the command line. -/
def main (args : List String) : IO UInt32 := do
  match FlowTrace.Request.ofWords (args.map FlowTrace.CodePoint.ofPlain) with
  | .ok call =>
      match call.accepted with
      | .ok (.compile r) => FlowTrace.Main.compile r
      | .ok (.attach r) => FlowTrace.Main.attach r
      | .error f => FlowTrace.Main.fail f
  | .error .help =>
      IO.println FlowTrace.Main.usage
      return FlowTrace.Main.exitCode FlowTrace.ArgumentStop.help.code
  | .error .rejected =>
      IO.eprintln FlowTrace.Main.usage
      return FlowTrace.Main.exitCode FlowTrace.ArgumentStop.rejected.code
