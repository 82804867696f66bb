/-
  FlowTrace.Proofs.Json.Identity
  ────────────────────────────────
  **IDENTITY OF VALUES.**

  Equality of values as programs see it takes the whole number one and the double one
  for the same.  Identity does not: it is what a value was sent and received as, field
  by field, and it can be decided.
-/
import FlowTrace.Json.Basic

namespace FlowTrace
namespace Json

mutual

/-- Are the values one and the same? -/
def identical : Json → Json → Bool
  | null, null => true
  | bool a, bool b => a == b
  | int n, int m => n == m
  | float x, float y => decide (x = y)
  | str s, str t => s == t
  | arr xs, arr ys => identicalItems xs ys
  | obj fs, obj gs => identicalFields fs gs
  | _, _ => false

/-- Are the items one and the same, in order? -/
def identicalItems : List Json → List Json → Bool
  | [], [] => true
  | x :: xs, y :: ys => identical x y && identicalItems xs ys
  | _, _ => false

/-- Are the fields one and the same, in order? -/
def identicalFields : List (String × Json) → List (String × Json) → Bool
  | [], [] => true
  | (k, v) :: fs, (l, w) :: gs => k == l && identical v w && identicalFields fs gs
  | _, _ => false

end

mutual

theorem identical_iff : ∀ x y : Json, identical x y = true ↔ x = y
  | null, y => by cases y <;> simp [identical]
  | bool _, y => by cases y <;> simp [identical]
  | int _, y => by cases y <;> simp [identical]
  | float _, y => by cases y <;> simp [identical]
  | str _, y => by cases y <;> simp [identical]
  | arr xs, y => by
    cases y with
    | arr ys => simp [identical, identicalItems_iff xs ys]
    | _ => simp [identical]
  | obj fs, y => by
    cases y with
    | obj gs => simp [identical, identicalFields_iff fs gs]
    | _ => simp [identical]

theorem identicalItems_iff : ∀ xs ys : List Json, identicalItems xs ys = true ↔ xs = ys
  | [], ys => by cases ys <;> simp [identicalItems]
  | x :: xs, ys => by
    cases ys with
    | nil => simp [identicalItems]
    | cons y ys => simp [identicalItems, identical_iff x y, identicalItems_iff xs ys]

theorem identicalFields_iff : ∀ fs gs : List (String × Json), identicalFields fs gs = true ↔ fs = gs
  | [], gs => by cases gs <;> simp [identicalFields]
  | (k, v) :: fs, gs => by
    cases gs with
    | nil => simp [identicalFields]
    | cons g gs =>
      obtain ⟨l, w⟩ := g
      simp [identicalFields, identical_iff v w, identicalFields_iff fs gs]

end

theorem eq_null_of_isNull {v : Json} (h : v.isNull = true) : v = .null := by
  cases v with
  | null => rfl
  | _ => cases h

instance : DecidableEq Json := fun x y => decidable_of_iff _ (identical_iff x y)

example : (obj [("a", arr [int 1])] = obj [("a", arr [bool true])]) = False := by decide

end Json
end FlowTrace
