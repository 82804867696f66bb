/-
  FlowTrace.Console.Dispatch
  ────────────────────────────────
  **RUNNING COMMANDS.**

  Every command prints what it has to say and ends with an exit code: 0 when
  it was done, 1 when it could not be done, 2 when the connection failed.
-/
import FlowTrace.Console.BreakRequest
import FlowTrace.Console.Command
import FlowTrace.Console.Scopes
import FlowTrace.Console.Session
import FlowTrace.Console.Words

namespace FlowTrace
namespace Session

variable {ε α : Type} [Endpoint ε]

/-! ## §1. Pieces. -/

/-- Run an operation of the bridge and say what comes of it.  A failing
connection is an error under the command's title. -/
def orLinkError (title : String) (a : Act (Session ε) α) (andThen : α → Act (Session ε) Int) :
    Act (Session ε) Int := do
  match ← Act.attempt a with
  | .ok v => andThen v
  | .error f =>
      if f.isLink then do
        complain (title ++ " failed: " ++ f.message)
        return 2
      else throw f

/-- The text of a place. -/
def placeText (url line : Json) : String := url.text ++ ":" ++ line.text

/-! ## §2. Status. -/

/-- Where an attached bridge stands, in a line and as a document. -/
def bridgeReport (url : Json) (b : Bridge) : String × Json :=
  let breakpoints := b.registry.size
  let scripts := b.tracker.count
  let pausedLine := b.tracker.paused.map PausedFrame.line
  let suffix := match pausedLine with
    | some n => " paused_line=" ++ toString n
    | none => ""
  (b.status.name ++ " " ++ url.text ++ " breakpoints=" ++ toString breakpoints ++ " scripts="
      ++ toString scripts ++ suffix,
    .obj [("url", url), ("state", .str b.status.name), ("breakpoints", .int breakpoints),
      ("scripts", .int scripts), ("paused_line", Bridge.lineValue pausedLine)])

omit [Endpoint ε] in
/-- Where the session stands, in a line and as a document. -/
def statusReport (s : Session ε) : String × Json :=
  let url := s.config.url
  match s.attachedBridge? with
  | some b => bridgeReport url b
  | none =>
      ("not connected (" ++ url.text ++ ")", .obj [("url", url), ("state", .str "disconnected")])

omit [Endpoint ε] in
/-- Show where the session stands. -/
def status : Act (Session ε) Int := do
  let r := (← get).statusReport
  report r.1 r.2
  return 0

/-! ## §3. Breakpoints. -/

/-- Want a breakpoint. -/
def addBreakpoint (url line : Json) : Act (Session ε) Int := do
  attach
  orLinkError "break add" (onBridge (Site.addBreakpoint url line)) (fun bp => do
    let bp := bp.getD { url := url, line := line }
    report ("Breakpoint set at " ++ placeText url line ++ " (id=" ++ bp.id.text ++ ")")
      (.obj bp.toFields)
    return 0)

/-- Want a breakpoint no longer. -/
def removeBreakpoint (url line : Json) : Act (Session ε) Int := do
  attach
  orLinkError "break remove" (onBridge (Site.removeBreakpoint url line)) (fun removed => do
    report ((if removed then "Breakpoint removed at " else "No breakpoint at ") ++ placeText url line)
      (.obj [("removed", .bool removed)])
    return 0)

/-- The line of the breakpoint with a number. -/
def breakpointLine (number : Nat) (bp : Breakpoint) : String :=
  printedLine ("  #" ++ padRight 3 (toString number) ++ " " ++ placeText bp.url bp.line ++ "  "
    ++ (if bp.id.truthy then bp.id.text else "(not armed)"))

/-- The lines of breakpoints, numbered from `number` on. -/
def breakpointLines (number : Nat) : List Breakpoint → String
  | [] => ""
  | bp :: rest => breakpointLine number bp ++ breakpointLines (number + 1) rest

/-- List the wanted breakpoints. -/
def listBreakpoints : Act (Session ε) Int := do
  attach
  let items := (← onBridge Site.look).registry.items
  if (← get).config.json then
    report "breakpoints" (.obj [("breakpoints", .arr (items.map (fun bp => .obj bp.toFields)))])
  else
    say (printedLine "breakpoints:")
    say (if items.isEmpty then printedLine "  (none)" else breakpointLines 1 items)
  return 0

/-- The breakpoint command. -/
def breakpoints (args : List String) : Act (Session ε) Int :=
  match BreakRequest.ofWords? args with
  | none => return 1
  | some (.add url line) => addBreakpoint url line
  | some (.remove url line) => removeBreakpoint url line
  | some .list => listBreakpoints

/-! ## §4. Execution control. -/

/-- Let a paused script run. -/
def go (title message result : String) (a : Act (Site ε) Unit) : Act (Session ε) Int := do
  attach
  if (← get).isPaused then
    orLinkError title (onBridge a) (fun _ => do
      report message (.obj [("result", .str result)])
      return 0)
  else
    complain "flow is not paused"
    return 1

/-! ## §5. Inspection. -/

omit [Endpoint ε] in
/-- Say what an evaluation gave: its value, or the error it raised. -/
def sayEvaluation (result : Json) : Act (Session ε) Int := do
  let json := (← get).config.json
  let details ← Act.ofExcept (result.get "exceptionDetails")
  let value ← Act.ofExcept (result.get "result")
  let text ← Act.ofExcept (Printed.remote value.orObject)
  if details.truthy then
    say (← Act.ofExcept (Printed.error json text result))
    return 1
  else
    report text result
    return 0

/-- Evaluate an expression in the paused frame. -/
def evaluate (args : List String) : Act (Session ε) Int := do
  if args.isEmpty then
    complain "usage: eval EXPRESSION"
    return 1
  attach
  match ← Act.attempt (onBridge (Site.evaluate (.str (String.intercalate " " args)))) with
  | .error .notPaused =>
      complain Fault.notPaused.message
      return 1
  | r => orLinkError "eval" (Act.ofExcept r) sayEvaluation

omit [Endpoint ε] in
/-- Say what the properties of an object are. -/
def sayProperties (properties : List Json) : Act (Session ε) Int := do
  if (← get).config.json then
    report "properties" (.obj [("properties", .arr properties)])
  else
    let printed := Printed.properties properties
    say printed.1
    Act.ofExcept printed.2
  return 0

/-- List the properties of a remote object. -/
def properties : List String → Act (Session ε) Int
  | [id] => do
      attach
      orLinkError "props" (onBridge (Site.properties (.str id))) sayProperties
  | _ => do
      complain "usage: props OBJECT_ID"
      return 1

/-- List the scope chain of the paused frame. -/
def scopes : Act (Session ε) Int := do
  attach
  let b ← onBridge Site.look
  match b.tracker.require with
  | .error f =>
      complain f.message
      return 1
  | .ok frame =>
      let rows ← Act.ofExcept (frame.scopeChain.mapM ScopeRow.ofScope)
      if (← get).config.json then
        report "scopes"
          (.obj [("line", .int frame.line), ("scopes", .arr (rows.map ScopeRow.toDocument))])
      else
        say (printedLine ("scopes at line " ++ toString frame.line ++ ":"))
        let printed := ScopeRow.lines rows
        say printed.1
        Act.ofExcept printed.2
      return 0

/-! ## §6. Lines. -/

/-- Leave the program. -/
def leave : Act (Session ε) Int := do
  detach
  throw (.leave 0)

omit [Endpoint ε] in
/-- Run the help command.  One that was handed no table has nothing to say. -/
def help (t : CommandTable) (c : Command) (args : List String) : Act (Session ε) Int := do
  if c ∈ t.bound then
    let printed := t.help (← get).config.json args
    say printed.1
    return printed.2
  else return 1

/-- Run a command of a table. -/
def run (t : CommandTable) (c : Command) (args : List String) : Act (Session ε) Int :=
  match c.action with
  | .missing => throw .noAction
  | .help => help t c args
  | .status => status
  | .breakpoints => breakpoints args
  | .resume => go "continue" "Resumed" "resumed" Site.resume
  | .stepOver => go "next" "Stepping" "stepping" Site.stepOver
  | .evaluate => evaluate args
  | .properties => properties args
  | .scopes => scopes
  | .leave => leave

/-- Run a command as it was called.  Faults are printed, and only what no guard
may keep passes. -/
def runGuarded (name : String) (c : Command) (args : List String) : Act (Session ε) Int := do
  match ← Act.attempt (run .builtin c args) with
  | .ok code => return code
  | .error f =>
      if !f.containable then throw f
      else if f.isLink then
        complain (name ++ ": " ++ f.message)
        return 2
      else
        say (printedLine ("Command '" ++ name ++ "' failed: " ++ f.message))
        return 1

/-- Run the command on a line. -/
def dispatch (line : Json) : Act (Session ε) Int := do
  match CommandLine.ofValue line with
  | .error (.commandLine message) =>
      say (printedLine ("Parse error: " ++ message))
      return 1
  | .error f => throw f
  | .ok none => return 0
  | .ok (some l) =>
      match CommandTable.builtin.get? l.name with
      | some c => runGuarded l.name c l.args
      | none =>
          say (printedLine ("Unknown command: " ++ l.name))
          return 1

end Session
end FlowTrace
