/-
  FlowTrace.Console.Words
  ────────────────────────────────
  **PROMPT LINES.**

  A prompt line is split into words as a shell does it: blanks separate
  words, quotes keep blanks, a backslash keeps the next character.  A line
  whose command evaluates an expression is not split: the expression is the
  rest of the line as it stands.
-/
import FlowTrace.Fault
import FlowTrace.Text.Blank

namespace FlowTrace

/-! ## §1. Words. -/

/-- Where a splitter stands. -/
inductive WordPlace where
  /-- Between words. -/
  | gap
  /-- In a word, outside quotes. -/
  | word
  | single
  | double
  /-- After a backslash outside quotes. -/
  | escaped
  /-- After a backslash inside double quotes. -/
  | doubleEscaped
  deriving DecidableEq, Repr

/-- Does the character separate words? -/
def isWordGap (c : Char) : Bool := c == ' ' || c == '\t' || c == '\r' || c == '\n'

/-- The place after a character that stands in a word outside quotes, and the
word so far. -/
def enterWord (w : List Char) (c : Char) : WordPlace × List Char :=
  if c = '\x27' then (.single, w)
  else if c = '\x22' then (.double, w)
  else if c = '\\' then (.escaped, w)
  else (.word, w ++ [c])

/-- What an escaped character leaves in double quotes: the backslash is kept
except in front of a double quote or a backslash. -/
def unescapeInDouble (c : Char) : List Char :=
  if c = '\x22' ∨ c = '\\' then [c] else ['\\', c]

/-- The words of the characters, read at a place after the word so far. -/
def splitWords : WordPlace → List Char → List Char → Except Fault (List (List Char))
  | .gap, _, [] => .ok []
  | .word, w, [] => .ok [w]
  | .single, _, [] => .error (.commandLine "No closing quotation")
  | .double, _, [] => .error (.commandLine "No closing quotation")
  | .escaped, _, [] => .error (.commandLine "No escaped character")
  | .doubleEscaped, _, [] => .error (.commandLine "No escaped character")
  | .gap, _, c :: rest =>
      if isWordGap c then splitWords .gap [] rest
      else splitWords (enterWord [] c).1 (enterWord [] c).2 rest
  | .word, w, c :: rest =>
      if isWordGap c then (splitWords .gap [] rest).map (w :: ·)
      else splitWords (enterWord w c).1 (enterWord w c).2 rest
  | .single, w, c :: rest =>
      if c = '\x27' then splitWords .word w rest else splitWords .single (w ++ [c]) rest
  | .double, w, c :: rest =>
      if c = '\x22' then splitWords .word w rest
      else if c = '\\' then splitWords .doubleEscaped w rest
      else splitWords .double (w ++ [c]) rest
  | .escaped, w, c :: rest => splitWords .word (w ++ [c]) rest
  | .doubleEscaped, w, c :: rest => splitWords .double (w ++ unescapeInDouble c) rest

/-! ## §2. Command lines. -/

/-- A command with its arguments. -/
structure CommandLine where
  name : String
  args : List String
  deriving DecidableEq, Repr, Inhabited

namespace CommandLine

/-- The commands whose argument is the rest of the line. -/
def verbatimNames : List String := ["eval", "p", "print"]

/-- The command line that words make, none if there are no words. -/
def ofWords : List (List Char) → Option CommandLine
  | [] => none
  | name :: args => some { name := String.ofList name, args := args.map String.ofList }

/-- The command line that a text spells; a blank one spells none. -/
def ofText (line : String) : Except Fault (Option CommandLine) :=
  let cs := (trim line).toList
  if cs.isEmpty then .ok none
  else
    let name := String.ofList (cs.takeWhile (· != ' '))
    if verbatimNames.contains name then
      let rest := trim (String.ofList (cs.dropWhile (· != ' ')))
      .ok (some { name := name, args := if rest.isEmpty then [] else [rest] })
    else (splitWords .gap [] cs).map ofWords

/-- The command line that a value spells; one that does not count as given spells
none. -/
def ofValue (v : Json) : Except Fault (Option CommandLine) :=
  match v with
  | .str line => ofText line
  | v => if v.truthy then .error (.noMember v.kindName "strip") else .ok none

end CommandLine

/-! ## §3. Continued lines. -/

/-- Take in a line after the pieces of the lines it continues.  A line that ends
in a backslash is continued and gives no command yet. -/
def joinText (pieces : List String) (line : String) : List String × Option String :=
  let stripped := trimRight line
  match stripped.toList.reverse with
  | '\\' :: before => (pieces ++ [String.ofList before.reverse], none)
  | _ =>
      if pieces.isEmpty then ([], some line)
      else ([], some (String.intercalate " " (pieces ++ [stripped])))

/-- Take in a line.  Only a text is one. -/
def joinLine (pieces : List String) : Json → Except Fault (List String × Option String)
  | .str line => .ok (joinText pieces line)
  | v => .error (.noMember v.kindName "rstrip")

end FlowTrace
