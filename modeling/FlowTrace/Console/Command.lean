/-
  FlowTrace.Console.Command
  ────────────────────────────────
  **COMMANDS AND THEIR NAMES.**

  A command is reached by its name and its aliases.  Registering a command
  looks at all of its keys before it takes one: a key that another command has
  refuses it.  A command that was taken is handed the table; the help command
  keeps it, to look commands up there.
-/
import FlowTrace.Act
import FlowTrace.Console.Printed

namespace FlowTrace

/-- What a command does. -/
inductive CommandAction where
  /-- Nothing is known to be done. -/
  | missing
  | help
  | status
  | breakpoints
  | resume
  | stepOver
  | evaluate
  | properties
  | scopes
  | leave
  deriving DecidableEq, Repr, Inhabited

/-- A prompt command.  The serial number tells commands with the same texts
apart. -/
structure Command where
  name : String
  description : String
  aliases : List String := []
  usage : String := ""
  action : CommandAction := .missing
  serial : Nat := 0
  deriving DecidableEq, Repr, Inhabited

namespace Command

/-- The name and the aliases. -/
def keys (c : Command) : List String := c.name :: c.aliases

/-- The command's line in the list of commands. -/
def helpLine (c : Command) : String := padRight 12 c.name ++ " " ++ c.description

/-- How the command is used. -/
def usageLine (c : Command) : String := trimRight ("usage: " ++ c.name ++ " " ++ c.usage)

/-- What help prints about the command. -/
def helpText (c : Command) : String :=
  printedLine c.usageLine ++ printedLine ("  " ++ c.description)
    ++ (if c.aliases.isEmpty then ""
        else printedLine ("  aliases: " ++ String.intercalate ", " c.aliases))

end Command

/-- The registered commands in order, which command a key reaches, and the commands
that keep the table. -/
structure CommandTable where
  commands : List Command := []
  byKey : List (String × Command) := []
  bound : List Command := []
  deriving Repr, Inhabited

/-- What commands do with the table that has taken them. -/
abbrev Binding := Command → Act CommandTable Unit

namespace CommandTable

/-- The command that a key reaches. -/
def get? (t : CommandTable) (key : String) : Option Command := Fields.get? t.byKey key

/-- Refuse a key that another command has. -/
def reserve (c : Command) (key : String) : Act CommandTable Unit := do
  match (← get).get? key with
  | none => return
  | some owner =>
      if owner = c then return
      else
        throw (.badValue
          ("command name " ++ quoted key ++ " already taken by " ++ quoted owner.name))

/-- Let a key reach a command, and no other that it reached before. -/
def enter (c : Command) (key : String) : Act CommandTable Unit :=
  modify (fun t => { t with byKey := Fields.put key c t.byKey })

/-- Do something with each of some keys, up to the first that is refused. -/
def withKeys (act : String → Act CommandTable Unit) : List String → Act CommandTable Unit
  | [] => return
  | key :: rest => do
      act key
      withKeys act rest

/-- Register a command under all of its keys, unless another command has one of
them.  The table is written in place, once every key has been looked at, and the
command is handed the table when it is written. -/
def enroll (bind : Binding) (c : Command) : Act CommandTable Unit := do
  withKeys (reserve c) c.keys
  modify (fun t => { t with commands := t.commands ++ [c] })
  withKeys (enter c) c.keys
  bind c

/-- The help command keeps the table, and no other command does anything with it. -/
def bindHelp : Binding := fun c =>
  if c.action = .help then modify (fun t => { t with bound := t.bound ++ [c] }) else return

/-- The table with a command more. -/
def register (t : CommandTable) (c : Command) : Except Fault CommandTable :=
  match (enroll bindHelp c).exec t with
  | (.ok _, t') => .ok t'
  | (.error f, _) => .error f

/-- Every key, sorted. -/
def names (t : CommandTable) : List String :=
  (Fields.keys t.byKey).mergeSort (fun a b => !precedes b a)

/-- What help prints for some arguments, and its exit code. -/
def help (t : CommandTable) (json : Bool) : List String → String × Int
  | [] => (String.join (t.commands.map (fun c => printedLine c.helpLine)), 0)
  | key :: _ =>
      match t.get? key with
      | some c => (c.helpText, 0)
      | none => (Printed.plainError json ("Unknown command: " ++ key), 1)

/-- The help command. -/
def helpCommand : Command :=
  { name := "help", description := "List commands, or show one command's usage"
    aliases := ["?", "h"], usage := "[COMMAND]", action := .help }

/-- The commands of the debugger's prompt. -/
def builtinCommands : List Command :=
  [helpCommand,
    { name := "status", description := "Show bridge state and paused location"
      aliases := ["info"], action := .status },
    { name := "break", description := "Manage breakpoints", aliases := ["bp", "b"]
      usage := "add URL LINE | remove URL LINE | list", action := .breakpoints },
    { name := "continue", description := "Resume the paused flow"
      aliases := ["c", "cont", "resume"], action := .resume },
    { name := "next", description := "Step over the current statement"
      aliases := ["n", "step"], action := .stepOver },
    { name := "eval", description := "Evaluate an expression in the paused frame"
      aliases := ["p", "print"], usage := "EXPRESSION", action := .evaluate },
    { name := "props", description := "List properties of a remote object id"
      aliases := ["inspect"], usage := "OBJECT_ID", action := .properties },
    { name := "scopes", description := "Show the scope chain of the paused frame"
      action := .scopes },
    { name := "exit", description := "Stop the bridge and leave the debugger"
      aliases := ["quit", "q"], action := .leave }]

/-- Commands registered one after the other. -/
def ofList (cs : List Command) : Except Fault CommandTable := cs.foldlM register {}

/-- The table of the debugger's prompt. -/
def builtin : CommandTable :=
  { commands := builtinCommands
    byKey := builtinCommands.flatMap (fun c => c.keys.map (fun k => (k, c)))
    bound := [helpCommand] }

end CommandTable
end FlowTrace
