/-
  FlowTrace.Text.Quoted
  ────────────────────────────────
  **TEXT IN QUOTES, AS MESSAGES SHOW IT.**

  Messages show a name in single quotes, or in double quotes when it holds a
  single quote and no double one.  The quote, the backslash and whatever is
  not printable are escaped.
-/
import FlowTrace.Text.CodePoint
import FlowTrace.Text.Printable

namespace FlowTrace
namespace Quoted

/-- The hexadecimal digits of `n`, padded with zeros to `width`. -/
def hex (width n : Nat) : List Char :=
  let ds := Nat.toDigits 16 n
  List.replicate (width - ds.length) '0' ++ ds

/-- The escape of a code point by its number. -/
def escape (n : Nat) : List Char :=
  if n ≤ 0xff then '\\' :: 'x' :: hex 2 n
  else if n ≤ 0xffff then '\\' :: 'u' :: hex 4 n
  else '\\' :: 'U' :: hex 8 n

/-- A character inside quotes. -/
def encodeChar (quote c : Char) : List Char :=
  if c = quote ∨ c = '\\' then ['\\', c]
  else if c = '\n' then ['\\', 'n']
  else if c = '\r' then ['\\', 'r']
  else if c = '\t' then ['\\', 't']
  else if Printable.isPrintable c then [c]
  else escape c.toNat

/-- A code point inside quotes. -/
def encode (quote : Char) : CodePoint → List Char
  | .char c => encodeChar quote c
  | .half i => escape (CodePoint.half i).toNat

/-- The quote that a text is put in. -/
def quoteFor (cs : List Char) : Char :=
  if cs.contains '\x27' && !cs.contains '\x22' then '\x22' else '\x27'

end Quoted

/-- A text in quotes, as messages show it. -/
def quoted (s : String) : String :=
  let q := Quoted.quoteFor s.toList
  String.ofList (q :: (CodePoint.split s).flatMap (Quoted.encode q) ++ [q])

end FlowTrace
