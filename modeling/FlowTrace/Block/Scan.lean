/-
  FlowTrace.Block.Scan
  ────────────────────────────────
  **FINDING BLOCK CALLS IN SCRIPT TEXT.**

  An emitted script names its blocks itself: each statement holds a call of
  the block factory with the record's eight fields.  Scanning the lines for
  such calls rebuilds the table without the compiler.

  A call is the factory's name, `(`, a number, five string tokens, two
  numbers that may be negative, and `)`, with commas between and blanks
  anywhere around them.
-/
import FlowTrace.Block.Table

namespace FlowTrace
namespace Scan

/-! ## §1. Tokens. -/

/-- The characters after leading blanks. -/
def skipBlanks (cs : List Char) : List Char := cs.dropWhile isBlank

/-- What follows the character `c` at the front. -/
def afterChar? (c : Char) : List Char → Option (List Char)
  | d :: rest => if d = c then some rest else none
  | [] => none

/-- What follows a comma at the front, blanks around it included. -/
def afterComma? (cs : List Char) : Option (List Char) :=
  (afterChar? ',' (skipBlanks cs)).map skipBlanks

/-- A number of at least one digit at the front. -/
def digitsToken? (cs : List Char) : Option (List Char × List Char) :=
  let ds := cs.takeWhile DecimalDigit.isDigit
  if ds.isEmpty then none else some (ds, cs.dropWhile DecimalDigit.isDigit)

/-- A number at the front that may have a minus sign. -/
def numberToken? : List Char → Option (List Char × List Char)
  | '-' :: rest => (digitsToken? rest).map (fun r => ('-' :: r.1, r.2))
  | cs => digitsToken? cs

/-- The rest of a string token through its closing quote; a backslash takes the
next character. -/
def stringTail? : List Char → Option (List Char × List Char)
  | [] => none
  | '\\' :: c :: rest => (stringTail? rest).map (fun r => ('\\' :: c :: r.1, r.2))
  | c :: rest =>
      if c = '\x22' then some (['\x22'], rest)
      else if c = '\\' then none
      else (stringTail? rest).map (fun r => (c :: r.1, r.2))

/-- A string token at the front, quotes included. -/
def stringToken? : List Char → Option (List Char × List Char)
  | '\x22' :: rest => (stringTail? rest).map (fun r => ('\x22' :: r.1, r.2))
  | _ => none

/-! ## §2. Calls. -/

/-- The tokens of a block call. -/
structure Call where
  line : List Char
  flowName : List Char
  flowAlias : List Char
  directiveName : List Char
  displayName : List Char
  failureStrategy : List Char
  intervalTime : List Char
  retryCount : List Char
  deriving Repr

/-- The tokens of a call of `factory` that begins at the front. -/
def callHere? (factory cs : List Char) : Option Call := do
  let cs ← Json.after? factory cs
  let cs ← afterChar? '(' cs
  let (line, cs) ← digitsToken? (skipBlanks cs)
  let (flowName, cs) ← stringToken? (← afterComma? cs)
  let (flowAlias, cs) ← stringToken? (← afterComma? cs)
  let (directiveName, cs) ← stringToken? (← afterComma? cs)
  let (displayName, cs) ← stringToken? (← afterComma? cs)
  let (failureStrategy, cs) ← stringToken? (← afterComma? cs)
  let (intervalTime, cs) ← numberToken? (← afterComma? cs)
  let (retryCount, cs) ← numberToken? (← afterComma? cs)
  let _ ← afterChar? ')' (skipBlanks cs)
  pure
    { line := line, flowName := flowName, flowAlias := flowAlias
      directiveName := directiveName, displayName := displayName
      failureStrategy := failureStrategy, intervalTime := intervalTime
      retryCount := retryCount }

/-- The first call of `factory` on a line.  A call begins with a code point, so
not inside a marked pair, and is longer than one. -/
def firstCall? (factory : List Char) : List Char → Option Call
  | [] => none
  | [_] => none
  | c :: d :: rest =>
      match callHere? factory (c :: d :: rest) with
      | some call => some call
      | none =>
          if c = CodePoint.mark then firstCall? factory rest else firstCall? factory (d :: rest)

/-- The text that a string token spells.  A token holds no value but the text, so it
needs no room. -/
def decode (token : List Char) : Except Fault Json := Json.readWithin 0 token

/-- The number that a token spells. -/
def number (token : List Char) : Except Fault Json :=
  ((Json.str (String.ofList token)).toInt).map Json.int

/-- The record of a call. -/
def Call.toBlock (call : Call) : Except Fault Block := do
  let line ← number call.line
  let flowName ← decode call.flowName
  let flowAlias ← decode call.flowAlias
  let directiveName ← decode call.directiveName
  let displayName ← decode call.displayName
  let failureStrategy ← decode call.failureStrategy
  let intervalTime ← number call.intervalTime
  let retryCount ← number call.retryCount
  pure
    { line := line, flowName := flowName, flowAlias := flowAlias
      directiveName := directiveName, displayName := displayName
      failureStrategy := failureStrategy, intervalTime := intervalTime
      retryCount := retryCount }

/-- The table's entries for script lines that are numbered from `line` on. -/
def scanLines (factory : List Char) (line : Nat) :
    List (List Char) → Except Fault (List (Int × Block))
  | [] => .ok []
  | cs :: rest =>
      match firstCall? factory cs with
      | none => scanLines factory (line + 1) rest
      | some call => do
          let b ← call.toBlock
          let es ← scanLines factory (line + 1) rest
          pure (((line : Int), b) :: es)

end Scan

/-- The table of the block calls in a script.  A factory that is no text is
refused before anything else. -/
def BlockTable.ofSource (source factory : Json) : Except Fault BlockTable :=
  match factory, source with
  | .str name, .str text =>
      (Scan.scanLines name.toList 0 (FlowTrace.lines text.toList)).map BlockTable.ofList
  | .str _, v => .error (.noMember v.kindName "splitlines")
  | _, _ => .error .badKind

end FlowTrace
