/-
  FlowTrace.Console.BreakRequest
  ────────────────────────────────
  **WHAT THE BREAKPOINT COMMAND CAN BE ASKED.**
-/
import FlowTrace.Arguments.Grammar
import FlowTrace.Json.Basic
import FlowTrace.Number.Numeral

namespace FlowTrace

/-- A request to the breakpoint command. -/
inductive BreakRequest where
  | add (url : String) (line : Json)
  | remove (url : String) (line : Json)
  | list
  deriving Repr

/-- A place in a script, as given on a line. -/
structure ScriptPlace where
  url : String := ""
  line : Json := .null
  deriving Repr

namespace BreakRequest

/-- A script's address and a line in it.  A bare `--` is an empty list of lines. -/
def placeGrammar : Grammar ScriptPlace :=
  { options := [.help]
    places :=
      [.text (fun w s => { s with url := w }),
        .word (fun w s => (Numeral.readInt? w).map (fun n => { s with line := .int n }))
          (fun s => some { s with line := .arr [] })] }

/-- Read a place and make a request of it. -/
def ofPlace (make : String → Json → BreakRequest) (words : List String) :
    Except ArgumentStop (Option BreakRequest) :=
  (placeGrammar.read {} words).map (fun p => some (make p.url p.line))

/-- Read the end of a line that asks for the list. -/
def ofNothing (words : List String) : Except ArgumentStop (Option BreakRequest) :=
  (({ options := [.help], places := [] } : Grammar Unit).read () words).map (fun _ => some .list)

/-- The request that a line begins with a name of. -/
def choose (name : String) : Option (List String → Except ArgumentStop (Option BreakRequest)) :=
  if name = "add" then some (ofPlace add)
  else if name = "remove" ∨ name = "clear" ∨ name = "delete" then some (ofPlace remove)
  else if name = "list" then some ofNothing
  else none

/-- The breakpoint command's line. -/
def grammar : Grammar (Option BreakRequest) :=
  { places := [.command (fun name => (choose name).map (fun read words _ => read words))] }

/-- The request that words make, if they make one. -/
def ofWords? (words : List String) : Option BreakRequest :=
  (grammar.read none words).toOption.join

end BreakRequest
end FlowTrace
