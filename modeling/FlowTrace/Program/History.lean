/-
  FlowTrace.Program.History
  ────────────────────────────────
  **WHERE THE HISTORY OF THE PROMPT IS KEPT.**

  A place whose directory cannot be made or written to is no fault: the
  history is then not kept.  A place that cannot be named is one: it lies in
  the home of a user who has none, or its directory's name is one that no
  directory can have.
-/
import FlowTrace.Program.Folder

namespace FlowTrace
namespace History

/-- The users that every system has; the first is whoever runs the program. -/
def users : List String :=
  ["", "root", "daemon", "bin", "sys", "sync", "games", "man", "lp", "mail", "news", "uucp",
    "proxy", "www-data", "backup", "list", "irc", "_apt", "nobody"]

/-- The fault of a name that begins with a tilde and stands for a user's home. -/
def homeFault? (name : String) : Option Fault :=
  match name.toList with
  | '~' :: user =>
      if users.contains (String.ofList user) then none
      else (Path.nameFault? name).orElse (fun _ => some .noHome)
  | _ => none

/-- The fault of a place for the history, if it cannot be named. -/
def fault? (path : String) : Option Fault :=
  let names := Path.names path
  match homeFault? (names.headD "") with
  | some f => some f
  | none => Path.nameFault? (Path.join names.dropLast)

end History
end FlowTrace
