/-
  FlowTrace.Script.Literal
  ────────────────────────────────
  **INPUT VALUES AS SCRIPT TEXT.**

  A literal becomes a number or a truth value if the catalog says that it is
  one and its text agrees, a template if it holds a placeholder, and a string
  otherwise.  Variables and arrays are script text already.
-/
import FlowTrace.Flow.Directive

namespace FlowTrace
namespace Script

/-! ## §1. Literals. -/

/-- The script text for an input without a value. -/
def absent : String := "undefined"

/-- Does the text hold a placeholder: a dollar sign and an opening brace with a
closing brace later on? -/
def hasPlaceholder : List Char → Bool
  | '$' :: '{' :: rest => rest.contains '}'
  | _ :: rest => hasPlaceholder rest
  | [] => false

/-- A text with a backslash in front of every `c`. -/
def guardChar (c : Char) (cs : List Char) : List Char :=
  cs.flatMap (fun d => if d = c then ['\\', c] else [d])

/-- The text between the backticks of a template: first the backslashes are escaped,
then the backticks. -/
def templateBody (cs : List Char) : List Char := guardChar '\x60' (guardChar '\\' cs)

/-- A text as a template, backticks included. -/
def template (cs : List Char) : List Char := '\x60' :: templateBody cs ++ ['\x60']

/-- An exponent that runs to the end of the text. -/
def isExponent : List Char → Bool
  | [] => true
  | c :: rest =>
      if c = 'e' ∨ c = 'E' then
        let ds := (Numeral.splitSign rest).2
        !ds.isEmpty && ds.all DecimalDigit.isDigit
      else false

/-- An unsigned number that runs to the end of the text: digits with an
optional point and digits after it, or a point and digits; then an exponent. -/
def isUnsigned (cs : List Char) : Bool :=
  let whole := cs.takeWhile DecimalDigit.isDigit
  match whole.isEmpty, cs.dropWhile DecimalDigit.isDigit with
  | false, '.' :: rest => isExponent (rest.dropWhile DecimalDigit.isDigit)
  | false, rest => isExponent rest
  | true, '.' :: rest =>
      !(rest.takeWhile DecimalDigit.isDigit).isEmpty
        && isExponent (rest.dropWhile DecimalDigit.isDigit)
  | true, _ => false

/-- Is the text a number, with a minus sign or without? -/
def isNumber : List Char → Bool
  | '-' :: rest => isUnsigned rest
  | cs => isUnsigned cs

/-- The value type that the catalog gives an input, if it gives one. -/
def valueType? : Json → Option String
  | .obj fields =>
      let t := Json.field fields "valueType"
      if t.truthy then some t.text else none
  | _ => none

/-- A text of the given value type as a literal. -/
def literalOfText (valueType : Option String) (s : String) : String :=
  let stripped := trim s
  if valueType = some "number" ∧ isNumber stripped.toList then stripped
  else if valueType = some "boolean" ∧ (stripped = "true" ∨ stripped = "false") then stripped
  else if hasPlaceholder s.toList then String.ofList (template s.toList)
  else Json.quote s

/-- An input as a literal.  Its value has to be a text or null. -/
def literal (item : Input) : Except Fault String :=
  match item.value with
  | .null => .ok absent
  | .str s => .ok (literalOfText (valueType? item.config) s)
  | v => .error (.noMember v.kindName "strip")

/-! ## §2. Inputs. -/

/-- The value of an input that is script text already. -/
def verbatim (v : Json) : Json := v.orElse (.str absent)

/-- An input as script text.  A variable whose value is no text is passed on as
it is. -/
def input (item : Input) : Except Fault Json :=
  if item.kind.same (.str "variable") then .ok (verbatim item.value)
  else if item.kind.same (.str "array") then .ok (.str ("[" ++ item.value.textOrEmpty ++ "]"))
  else if item.kind.same (.str "arrayObject") then .ok (verbatim item.value)
  else (literal item).map .str

/-- The parameters of a call, without the braces. -/
def pairs : List (String × Input) → Except Fault (List String)
  | [] => .ok []
  | (k, item) :: rest => do
      let v ← input item
      let vs ← pairs rest
      pure ((Json.quote k ++ ":" ++ v.text) :: vs)

/-- The parameter object of a call. -/
def params (inputs : List (String × Input)) : Except Fault String :=
  (pairs inputs).map (fun ps => "\x7b" ++ String.intercalate "," ps ++ "\x7d")

end Script
end FlowTrace
