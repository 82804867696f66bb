/-
  FlowTrace.Fault
  ────────────────────────────────
  **WHAT CAN GO WRONG.**

  One constructor for each cause that a caller can tell apart.  Faults that
  break this library's own contracts carry their wording; faults of a
  document whose fields have the wrong shape carry what the wording needs.
-/
import FlowTrace.Json.Display

namespace FlowTrace

/-- What a file operation ran into. -/
inductive FileProblem where
  | missing
  | isDirectory
  | notDirectory
  | nameTooLong
  deriving DecidableEq, Repr

/-- A cause of failure. -/
inductive Fault where
  /-- A directive or flow that cannot be compiled. -/
  | compile (message : String)
  /-- A malformed catalog. -/
  | catalog (message : String)
  /-- A link operation that cannot be completed. -/
  | link (message : String)
  /-- A command that was not answered in time. -/
  | timeout (method : Json)
  /-- A command that was answered with an error; `detail` is its message. -/
  | refused (method code data : Json) (detail : String)
  /-- A paused frame was asked for while the script runs. -/
  | notPaused
  /-- A prompt line that cannot be split into words. -/
  | commandLine (message : String)
  /-- A prompt command without an action. -/
  | noAction
  /-- A value outside the accepted ones. -/
  | badValue (message : String)
  /-- A text that is not JSON. -/
  | notJson (message : String)
  /-- A value of a kind that the operation has no meaning for. -/
  | badKind
  /-- A value without the member that is asked for. -/
  | noMember (kind member : String)
  /-- A key that is not there. -/
  | noKey (key : Json)
  /-- A number too large for its target. -/
  | tooLarge
  /-- A value that nests too deeply. -/
  | tooDeep
  /-- A text with a lone surrogate, which no file and no name can hold. -/
  | unwritable
  /-- A user without a home directory. -/
  | noHome
  /-- A file that cannot be used. -/
  | file (problem : FileProblem) (path : String)
  /-- A callback that gave up. -/
  | callback
  /-- The user's interruption. -/
  | interrupt
  /-- The request to leave the program with a code. -/
  | leave (code : Int)
  deriving Inhabited, Repr

namespace Fault

/-- The wording of a file problem. -/
def fileMessage (problem : FileProblem) (path : String) : String :=
  let reason := match problem with
    | .missing => "[Errno 2] No such file or directory"
    | .isDirectory => "[Errno 21] Is a directory"
    | .notDirectory => "[Errno 20] Not a directory"
    | .nameTooLong => "[Errno 36] File name too long"
  reason ++ ": " ++ quoted path

/-- The wording of a fault. -/
def message : Fault → String
  | compile m => m
  | catalog m => m
  | link m => m
  | timeout method => method.text ++ ": protocol endpoint unresponsive"
  | refused method code _ detail =>
      method.text ++ " failed: " ++ detail ++ " (code=" ++ code.text ++ ")"
  | notPaused => "no paused call frame; wait for a breakpoint hit first"
  | commandLine m => m
  | noAction => "Command must implement run()"
  | badValue m => m
  | notJson m => m
  | badKind => "value of the wrong kind"
  | noMember kind member => quoted kind ++ " object has no attribute " ++ quoted member
  | noKey key => key.shown
  | tooLarge => "number too large"
  | tooDeep => "value nested too deeply"
  | unwritable => "text with a lone surrogate"
  | noHome => "no home directory"
  | file problem path => fileMessage problem path
  | callback => "callback failed"
  | interrupt => ""
  | leave code => toString code

/-- Is the fault one of the link: a failed operation, an unanswered command or
a refused one? -/
def isLink : Fault → Bool
  | link _ => true
  | timeout _ => true
  | refused _ _ _ _ => true
  | _ => false

/-- Is the fault one of a value: a value outside the accepted ones, or a text
or document that cannot be read? -/
def isValue : Fault → Bool
  | badValue _ => true
  | notJson _ => true
  | compile _ => true
  | catalog _ => true
  | commandLine _ => true
  | unwritable => true
  | _ => false

/-- May a guard around a callback or a command keep the fault to itself?  An
interruption and the request to leave always pass. -/
def containable : Fault → Bool
  | interrupt => false
  | leave _ => false
  | _ => true

end Fault
end FlowTrace
