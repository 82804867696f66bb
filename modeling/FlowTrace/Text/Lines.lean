/-
  FlowTrace.Text.Lines
  ────────────────────────────────
  **LINES OF A SCRIPT.**

  A script's lines end at any line boundary of Unicode, not at the line feed
  alone; carriage return and line feed together are one boundary.  A last
  boundary opens no further line.
-/
namespace FlowTrace

/-- Is the character a line boundary? -/
def isLineBreak (c : Char) : Bool :=
  let n := c.toNat
  decide ((10 ≤ n ∧ n ≤ 13) ∨ (28 ≤ n ∧ n ≤ 30) ∨ n = 0x85 ∨ n = 0x2028 ∨ n = 0x2029)

/-- The lines of a text.  `current` holds the open line's characters in reverse
order. -/
def linesFrom (current : List Char) : List Char → List (List Char)
  | [] => if current.isEmpty then [] else [current.reverse]
  | '\r' :: '\n' :: rest => current.reverse :: linesFrom [] rest
  | c :: rest =>
      if isLineBreak c then current.reverse :: linesFrom [] rest
      else linesFrom (c :: current) rest

/-- The lines of a text, without their boundaries. -/
def lines (cs : List Char) : List (List Char) := linesFrom [] cs

/-- Line feeds in place of every `\r\n` and lone `\r`, as text files are read. -/
def unifyNewlines : List Char → List Char
  | [] => []
  | '\r' :: '\n' :: rest => '\n' :: unifyNewlines rest
  | c :: rest => (if c = '\r' then '\n' else c) :: unifyNewlines rest

end FlowTrace
