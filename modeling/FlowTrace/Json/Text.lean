/-
  FlowTrace.Json.Text
  ────────────────────────────────
  **JSON TEXT.**

  Two written forms of a value: on one line, with a blank after each comma
  and colon, and indented by two blanks a level.  Strings keep every
  character but the quote, the backslash and the control characters below
  U+0020.
-/
import FlowTrace.Json.Basic
import FlowTrace.Number.Shortest
import FlowTrace.Text.Quoted

namespace FlowTrace
namespace Json

/-! ## §1. Strings. -/

/-- A character inside a JSON string. -/
def encodeChar (c : Char) : List Char :=
  if c = '\x22' then ['\\', '\x22']
  else if c = '\\' then ['\\', '\\']
  else if c = '\n' then ['\\', 'n']
  else if c = '\r' then ['\\', 'r']
  else if c = '\t' then ['\\', 't']
  else if c = '\x0c' then ['\\', 'f']
  else if c = '\x08' then ['\\', 'b']
  else if c.toNat < 32 then '\\' :: 'u' :: Quoted.hex 4 c.toNat
  else [c]

/-- A JSON string token, quotes included. -/
def encodeString (cs : List Char) : List Char :=
  '\x22' :: cs.flatMap encodeChar ++ ['\x22']

/-- A text as a JSON string token. -/
def quote (s : String) : String := String.ofList (encodeString s.toList)

/-- The token of a double. -/
def floatToken (x : Binary64) : String :=
  match x with
  | .nan => "NaN"
  | .infinite negative => if negative then "-Infinity" else "Infinity"
  | x => x.toText

/-- The token of a truth value. -/
def boolToken (b : Bool) : String := if b then "true" else "false"

/-! ## §2. One line. -/

mutual

/-- A value on one line. -/
def render : Json → String
  | null => "null"
  | bool b => boolToken b
  | int n => toString n
  | float x => floatToken x
  | str s => quote s
  | arr items => "[" ++ renderItems items ++ "]"
  | obj fields => "\x7b" ++ renderFields fields ++ "\x7d"

/-- List items on one line. -/
def renderItems : List Json → String
  | [] => ""
  | [x] => render x
  | x :: y :: rest => render x ++ ", " ++ renderItems (y :: rest)

/-- Object fields on one line. -/
def renderFields : List (String × Json) → String
  | [] => ""
  | [(k, v)] => quote k ++ ": " ++ render v
  | (k, v) :: f :: rest => quote k ++ ": " ++ render v ++ ", " ++ renderFields (f :: rest)

end

/-! ## §3. Indented. -/

/-- A new line indented by `depth` levels. -/
def newline (depth : Nat) : String := "\n" ++ String.ofList (List.replicate (2 * depth) ' ')

mutual

/-- A value indented by two blanks a level, inside `depth` levels. -/
def renderAt (depth : Nat) : Json → String
  | null => "null"
  | bool b => boolToken b
  | int n => toString n
  | float x => floatToken x
  | str s => quote s
  | arr [] => "[]"
  | arr (x :: rest) =>
      "[" ++ newline (depth + 1) ++ renderItemsAt (depth + 1) (x :: rest) ++ newline depth ++ "]"
  | obj [] => "\x7b\x7d"
  | obj (f :: rest) =>
      "\x7b" ++ newline (depth + 1) ++ renderFieldsAt (depth + 1) (f :: rest) ++ newline depth
        ++ "\x7d"

/-- List items, one on a line. -/
def renderItemsAt (depth : Nat) : List Json → String
  | [] => ""
  | [x] => renderAt depth x
  | x :: y :: rest => renderAt depth x ++ "," ++ newline depth ++ renderItemsAt depth (y :: rest)

/-- Object fields, one on a line. -/
def renderFieldsAt (depth : Nat) : List (String × Json) → String
  | [] => ""
  | [(k, v)] => quote k ++ ": " ++ renderAt depth v
  | (k, v) :: f :: rest =>
      quote k ++ ": " ++ renderAt depth v ++ "," ++ newline depth ++ renderFieldsAt depth (f :: rest)

end

/-- A value indented by two blanks a level. -/
def renderIndented (v : Json) : String := renderAt 0 v

/-! ## §4. Sorted keys. -/

/-- Put a field into fields sorted by key. -/
def insertSorted (f : String × Json) : List (String × Json) → List (String × Json)
  | [] => [f]
  | g :: rest => if precedes f.1 g.1 then f :: g :: rest else g :: insertSorted f rest

mutual

/-- The value with the fields of every object sorted by key, in code point
order. -/
def sortKeys : Json → Json
  | arr items => arr (sortItems items)
  | obj fields => obj (sortFields fields)
  | v => v

/-- List items, each with its keys sorted. -/
def sortItems : List Json → List Json
  | [] => []
  | x :: rest => sortKeys x :: sortItems rest

/-- Fields sorted by key, each value with its keys sorted. -/
def sortFields : List (String × Json) → List (String × Json)
  | [] => []
  | (k, v) :: rest => insertSorted (k, sortKeys v) (sortFields rest)

end

end Json
end FlowTrace
