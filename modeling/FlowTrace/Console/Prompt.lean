/-
  FlowTrace.Console.Prompt
  ────────────────────────────────
  **THE INTERACTIVE PROMPT.**

  Before each prompt the connection is read and what has happened is printed;
  then the user answers with a line, or leaves.
-/
import FlowTrace.Console.Dispatch

namespace FlowTrace

/-- What comes in at a prompt. -/
inductive PromptInput (ε : Type) where
  | line (text : Json)
  /-- The user interrupts. -/
  | interrupt
  /-- The user takes time, and the world changes. -/
  | meanwhile (change : ε → ε)

/-- A prompt as shown, and what was printed since the one before. -/
structure ShownPrompt where
  prompt : String
  out : String
  deriving DecidableEq, Repr, Inhabited

/-- A session at its prompt. -/
structure Prompting (ε : Type) where
  session : Session ε
  /-- The pieces of a line that is continued. -/
  pieces : List String := []
  /-- The prompts shown so far.  The session's output is what was printed since. -/
  shown : List ShownPrompt := []

namespace Prompting

variable {ε α : Type}

/-- An operation of the session. -/
def onSession (a : Act (Session ε) α) : Act (Prompting ε) α :=
  Act.within Prompting.session (fun s p => { p with session := s }) a

/-- Leave the prompt. -/
def leave : Act (Prompting ε) Int := do
  onSession (Session.say "\n")
  return 0

variable [Endpoint ε]

/-- Print what has happened. -/
def printEvents : Act (Prompting ε) Unit := do
  let events ← onSession Session.takeEvents
  let json := (← get).session.config.json
  onSession (Session.say (String.join (events.map (Printed.event json))))

/-- Show the prompt. -/
def display : Act (Prompting ε) Unit := do
  onSession Session.pump
  printEvents
  modify (fun p =>
    { p with
      session := { p.session with out := "" }
      shown := p.shown ++ [{ prompt := p.session.prompt, out := p.session.out }] })

/-- Take in a line: run the command that it completes, if it completes one. -/
def takeLine (text : Json) : Act (Prompting ε) Unit := do
  let joined ← Act.ofExcept (joinLine (← get).pieces text)
  modify (fun p => { p with pieces := joined.1 })
  match joined.2 with
  | none => return
  | some line => let _ ← onSession (Session.dispatch line)

/-- Show the prompt and go on.  An interruption while what has happened is read is
leaving. -/
def prompted (andThen : Act (Prompting ε) Int) : Act (Prompting ε) Int := do
  match ← Act.attempt display with
  | .ok _ => andThen
  | .error .interrupt => leave
  | .error f => throw f

/-- Prompt until the user leaves.  When nothing comes in any more, that is leaving
too. -/
def converse : List (PromptInput ε) → Act (Prompting ε) Int
  | [] => prompted leave
  | .interrupt :: _ => prompted leave
  | .line text :: rest => prompted (do
      takeLine text
      converse rest)
  | .meanwhile change :: rest => prompted (do
      onSession (modify (fun s =>
        { s with network := { s.network with endpoint := change s.network.endpoint } }))
      converse rest)

end Prompting
end FlowTrace
