/-
  FlowTrace.Debug.Breakpoint
  ────────────────────────────────
  **BREAKPOINTS.**

  A breakpoint is a place where the user wants a script to pause.  The
  registry keeps the wanted ones in the order in which they were added, at
  most one for a place, over every connection; the ids that a script host
  gives them last for one connection only.
-/
import FlowTrace.Debug.Notification

namespace FlowTrace

/-- A wanted breakpoint, the host's id for it if it is armed, and the frame and
scopes of the last pause there. -/
structure Breakpoint where
  url : Json
  line : Json
  id : Json := .null
  hitFrame : Option Record := none
  hitScopes : List Json := []
  deriving Inhabited, Repr

namespace Breakpoint

/-- Is the breakpoint at the place?  The line asked for is used as a whole
number. -/
def isAt (bp : Breakpoint) (url line : Json) : Except Fault Bool :=
  if bp.url.same url then (line.toInt).map (fun n => bp.line.same (.int n)) else .ok false

/-- The breakpoint's document: its id only when it has one. -/
def toFields (bp : Breakpoint) : Record :=
  [("url", bp.url), ("line", bp.line)] ++ (if bp.id.isNull then [] else [("id", bp.id)])

/-- The parts of a text before and after its last colon. -/
def splitLastColon? (cs : List Char) : Option (List Char × List Char) :=
  match cs.reverse.dropWhile (· != ':') with
  | [] => none
  | _ :: before => some (before.reverse, (cs.reverse.takeWhile (· != ':')).reverse)

/-- A breakpoint from the text `URL:LINE`; the line stands after the last
colon. -/
def ofText (s : String) : Except Fault Breakpoint :=
  let malformed : Fault := .badValue ("breakpoint must be URL:LINE, got " ++ quoted s)
  match splitLastColon? s.toList with
  | none => .error malformed
  | some ([], _) => .error malformed
  | some (url, line) =>
      match Numeral.readInt? (String.ofList line) with
      | none => .error (.badValue ("invalid breakpoint line in " ++ quoted s))
      | some n => .ok { url := .str (String.ofList url), line := .int n }

end Breakpoint

/-- The wanted breakpoints in the order in which they were added. -/
structure BreakpointRegistry where
  items : List Breakpoint := []
  deriving Inhabited, Repr

namespace BreakpointRegistry

/-- The index of the first breakpoint at a place. -/
def indexIn (url line : Json) : List Breakpoint → Except Fault (Option Nat)
  | [] => .ok none
  | bp :: rest => do
      if ← bp.isAt url line then pure (some 0)
      else
        let i ← indexIn url line rest
        pure (i.map (· + 1))

/-- The index of the first breakpoint at a place. -/
def index? (r : BreakpointRegistry) (url line : Json) : Except Fault (Option Nat) :=
  indexIn url line r.items

/-- The breakpoint at a place. -/
def find (r : BreakpointRegistry) (url line : Json) :
    Except Fault (Option Breakpoint) := do
  match ← r.index? url line with
  | some i => pure r.items[i]?
  | none => pure none

/-- Add a breakpoint.  One that stands at its place already is kept instead. -/
def add (r : BreakpointRegistry) (bp : Breakpoint) :
    Except Fault (BreakpointRegistry × Nat) := do
  match ← r.index? bp.url bp.line with
  | some i => pure (r, i)
  | none => pure (⟨r.items ++ [bp]⟩, r.items.length)

/-- The breakpoints added one after the other. -/
def ofList (bps : List Breakpoint) : Except Fault BreakpointRegistry :=
  bps.foldlM (fun r bp => do let (r, _) ← r.add bp; pure r) {}

/-- Take the breakpoint at a place out. -/
def remove (r : BreakpointRegistry) (url line : Json) :
    Except Fault (BreakpointRegistry × Option Breakpoint) := do
  match ← r.index? url line with
  | some i => pure (⟨r.items.eraseIdx i⟩, r.items[i]?)
  | none => pure (r, none)

/-- The index of the first breakpoint with an id. -/
def indexOfId? (r : BreakpointRegistry) (id : Json) : Option Nat :=
  r.items.findIdx? (fun bp => bp.id.same id)

/-- The first breakpoint with an id. -/
def findById? (r : BreakpointRegistry) (id : Json) : Option Breakpoint :=
  (r.indexOfId? id).bind (fun i => r.items[i]?)

/-- Change the breakpoint at an index. -/
def modify (r : BreakpointRegistry) (i : Nat) (f : Breakpoint → Breakpoint) :
    BreakpointRegistry :=
  ⟨r.items.modify i f⟩

/-- Forget every id. -/
def clearIds (r : BreakpointRegistry) : BreakpointRegistry :=
  ⟨r.items.map (fun bp => { bp with id := .null })⟩

/-- The number of breakpoints. -/
def size (r : BreakpointRegistry) : Nat := r.items.length

end BreakpointRegistry
end FlowTrace
