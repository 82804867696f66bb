/-
  FlowTrace.Json.Nesting
  ────────────────────────────────
  **HOW DEEP VALUES MAY NEST.**

  A value inside lists and objects lies as deep as there are of them around
  it.  Reading, copying and recording a value each have a greatest depth; a
  value that is deeper is a fault.  The depths are what the stack of a machine
  has room for, so they are parameters.
-/
import FlowTrace.Fault

namespace FlowTrace
namespace Json

mutual

/-- How many lists and objects the deepest part of a value lies in, the value
itself counted. -/
def depth : Json → Nat
  | arr items => depthOfItems items + 1
  | obj fields => depthOfFields fields + 1
  | _ => 0

/-- The depth of the deepest item. -/
def depthOfItems : List Json → Nat
  | [] => 0
  | x :: rest => max (depth x) (depthOfItems rest)

/-- The depth of the deepest field. -/
def depthOfFields : List (String × Json) → Nat
  | [] => 0
  | (_, v) :: rest => max (depth v) (depthOfFields rest)

end

/-- How deep the values may lie that a machine handles. -/
structure Limits where
  /-- The greatest depth of a text that is read: at least that of a block table's. -/
  reading : Nat
  /-- The greatest depth of a value that is copied. -/
  copying : Nat
  /-- The greatest depth of a value in a record whose document is made. -/
  recording : Nat
  three_le_reading : 3 ≤ reading
  deriving DecidableEq, Repr

/-- What a stack of a thousand calls allows. -/
def Limits.thousandCalls : Limits where
  reading := 988
  copying := 495
  recording := 493
  three_le_reading := by decide

instance : Inhabited Limits := ⟨.thousandCalls⟩

/-- The value, unless it lies deeper than `limit`. -/
def within (limit : Nat) (v : Json) : Except Fault Json :=
  if limit < v.depth then .error .tooDeep else .ok v

end Json
end FlowTrace
