/-
  FlowTrace.Program.Request
  ────────────────────────────────
  **WHAT THE PROGRAM CAN BE ASKED.**

  The command line names one of two commands: `compile` turns a flow document
  into script text, `attach` debugs a running script host.
-/
import FlowTrace.Arguments.Grammar
import FlowTrace.Debug.Breakpoint
import FlowTrace.Json.Nesting

namespace FlowTrace

/-- A request to compile a flow document. -/
structure CompileRequest where
  flow : String := ""
  catalog : Option String := none
  /-- Where the script goes, if not to the output. -/
  output : Option String := none
  /-- Where the block table goes, if anywhere. -/
  blocks : Option String := none
  /-- The line of the final script on which the first statement lands. -/
  lineOffset : Json := .int 0
  /-- How deep the documents may be; no option says so. -/
  limits : Json.Limits := .thousandCalls
  deriving Inhabited, Repr

/-- A request to debug a script host. -/
structure AttachRequest where
  url : String := ""
  /-- The breakpoints to arm, if all that was given are breakpoints. -/
  breakpoints : Except Fault (List Breakpoint) := .ok []
  /-- The block table file. -/
  blocks : Option String := none
  marker : Json := "flow.js"
  json : Bool := false
  /-- The only command to run; none if it is empty. -/
  command : String := ""
  /-- Where the history of the prompt is kept, if not in its usual place. -/
  history : Option String := none
  /-- How deep the documents may be; no option says so. -/
  limits : Json.Limits := .thousandCalls
  deriving Inhabited

/-- A request to the program. -/
inductive Request where
  | compile (r : CompileRequest)
  | attach (r : AttachRequest)
  deriving Inhabited

/-- A call of the program: what is requested, and how much is to be logged. -/
structure Invocation where
  request : Request
  logLevel : Json
  deriving Inhabited

namespace Request

/-- The value that stands for a bare `--` behind the name of an option. -/
def nothing : Json := .arr []

/-- The line of `compile`. -/
def compileGrammar : Grammar CompileRequest :=
  { options :=
      [.help,
        .text ["--catalog"] (fun v r => { r with catalog := some v })
          (fun r => { r with catalog := none }),
        .text ["-o", "--output"] (fun v r => { r with output := some v })
          (fun r => { r with output := none }),
        .text ["--blocks"] (fun v r => { r with blocks := some v })
          (fun r => { r with blocks := none }),
        { names := ["--line-offset"]
          effect := .take
            (fun v r => (Numeral.readInt? v).map (fun n => { r with lineOffset := .int n }))
            (fun r => { r with lineOffset := nothing }) }]
    places := [.text (fun w r => { r with flow := w })] }

/-- One more breakpoint. -/
def addBreakpoint (text : String) (r : AttachRequest) : Option AttachRequest :=
  (Breakpoint.ofText text).toOption.map (fun bp =>
    { r with breakpoints := r.breakpoints.map (· ++ [bp]) })

/-- The line of `attach`.  How long to wait for a reply does not change what a
session does. -/
def attachGrammar : Grammar AttachRequest :=
  { options :=
      [.help,
        { names := ["--break"]
          effect := .take addBreakpoint
            (fun r => { r with breakpoints := .error (.noMember nothing.kindName "id") }) },
        .text ["--blocks"] (fun v r => { r with blocks := some v })
          (fun r => { r with blocks := none }),
        .text ["--marker"] (fun v r => { r with marker := v })
          (fun r => { r with marker := nothing }),
        { names := ["--timeout"]
          effect := .take (fun v r => (Numeral.readFloat? v).map (fun _ => r)) id },
        { names := ["--json"], effect := .set (fun r => { r with json := true }) },
        .text ["-c", "--command"] (fun v r => { r with command := v })
          (fun r => { r with command := "" }),
        .text ["--history"] (fun v r => { r with history := some v })
          (fun r => { r with history := some nothing.text })]
    places := [.text (fun w r => { r with url := w })] }

/-- A request that is still open, and how much is to be logged. -/
structure Partial where
  request : Option Request := none
  logLevel : Json := "INFO"

/-- The request that a line begins with the name of. -/
def choose (name : String) : Option (List String → Except ArgumentStop Request) :=
  if name = "compile" then some (fun words => (compileGrammar.read {} words).map .compile)
  else if name = "attach" then some (fun words => (attachGrammar.read {} words).map .attach)
  else none

/-- The program's line. -/
def grammar : Grammar Partial :=
  { options :=
      [.help,
        .text ["--log-level"] (fun v p => { p with logLevel := v })
          (fun p => { p with logLevel := nothing })]
    places := [.command (fun name => (choose name).map (fun read words p =>
      (read words).map (fun r => { p with request := some r })))] }

/-- The call that words make. -/
def ofWords (words : List String) : Except ArgumentStop Invocation :=
  match grammar.read {} words with
  | .ok { request := some r, logLevel } => .ok { request := r, logLevel := logLevel }
  | .ok _ => .error .rejected
  | .error stop => .error stop

end Request

/-- The request of a call.  Only a text says how much is to be logged. -/
def Invocation.accepted (i : Invocation) : Except Fault Request :=
  match i.logLevel with
  | .str _ => .ok i.request
  | v => .error (.noMember v.kindName "upper")

/-- The exit code of the program when reading its command line ends early. -/
def ArgumentStop.code : ArgumentStop → Int
  | help => 0
  | rejected => 2

end FlowTrace
