/-
  FlowTrace.Json.Display
  ────────────────────────────────
  **VALUES IN MESSAGES.**

  Where a message or a piece of emitted text holds a field whose type is not
  fixed, a string appears as it is and any other value in one spelling of its
  own: strings inside lists and objects are in quotes.
-/
import FlowTrace.Json.Basic
import FlowTrace.Number.Shortest
import FlowTrace.Text.Quoted

namespace FlowTrace
namespace Json

mutual

/-- A value as messages show it, strings in quotes. -/
def shown : Json → String
  | null => "None"
  | bool b => if b then "True" else "False"
  | int n => toString n
  | float x => x.toText
  | str s => quoted s
  | arr items => "[" ++ shownItems items ++ "]"
  | obj fields => "\x7b" ++ shownFields fields ++ "\x7d"

/-- List items as messages show them. -/
def shownItems : List Json → String
  | [] => ""
  | [x] => shown x
  | x :: y :: rest => shown x ++ ", " ++ shownItems (y :: rest)

/-- Object fields as messages show them. -/
def shownFields : List (String × Json) → String
  | [] => ""
  | [(k, v)] => quoted k ++ ": " ++ shown v
  | (k, v) :: f :: rest => quoted k ++ ": " ++ shown v ++ ", " ++ shownFields (f :: rest)

end

/-- A value as text: a string as it is, any other value as messages show it. -/
def text : Json → String
  | str s => s
  | v => v.shown

/-- The text of a value, empty when the value does not count as given. -/
def textOrEmpty (v : Json) : String := if v.truthy then v.text else ""

end Json
end FlowTrace
