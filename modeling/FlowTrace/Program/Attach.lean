/-
  FlowTrace.Program.Attach
  ────────────────────────────────
  **THE ATTACH COMMAND.**

  A session is attached, one command or a whole conversation is run in it, and
  in any case it is detached at the end.
-/
import FlowTrace.Console.Prompt
import FlowTrace.Program.Folder
import FlowTrace.Program.History
import FlowTrace.Program.Request

namespace FlowTrace
namespace AttachRequest

variable {ε : Type}

/-- The session's settings. -/
def config (r : AttachRequest) (folder : Folder) : SessionConfig :=
  { url := r.url, json := r.json, marker := r.marker, breakpoints := r.breakpoints
    blocks := r.blocks.map folder.read, limits := r.limits }

/-- The session before it is attached. -/
def session (r : AttachRequest) (folder : Folder) (network : Network ε) : Prompting ε :=
  { session := { config := r.config folder, network := network } }

variable [Endpoint ε]

/-- Attach, and go on if that succeeds.  A failing connection is an error. -/
def attached (andThen : Act (Prompting ε) Int) : Act (Prompting ε) Int := do
  match ← Act.attempt (Prompting.onSession Session.attach) with
  | .ok _ => andThen
  | .error f =>
      if f.isLink then do
        Prompting.onSession (Session.complain ("attach failed: " ++ f.message))
        return 2
      else throw f

/-- Prepare the place of the history and converse. -/
def converse (r : AttachRequest) (inputs : List (PromptInput ε)) : Act (Prompting ε) Int := do
  match r.history.bind History.fault? with
  | some f => throw f
  | none => Prompting.converse inputs

/-- Run the one command, or converse. -/
def work (r : AttachRequest) (inputs : List (PromptInput ε)) : Act (Prompting ε) Int :=
  if r.command.isEmpty then do
    let _ ← Prompting.onSession Session.subscribe
    attached (r.converse inputs)
  else attached (Prompting.onSession (Session.dispatch r.command))

/-- How the program ends: a request to leave gives its code, an interruption ends
it quietly. -/
def conclude : Except Fault Int → Act (Prompting ε) (Except Fault Int)
  | .error (.leave code) => return .ok code
  | .error .interrupt => do
      Prompting.onSession (Session.say "\n")
      return .ok 0
  | r => return r

/-- Run the command. -/
def run (r : AttachRequest) (inputs : List (PromptInput ε)) : Act (Prompting ε) Int := do
  let outcome ← conclude (← Act.attempt (r.work inputs))
  Prompting.onSession Session.detach
  Act.ofExcept outcome

end AttachRequest
end FlowTrace
