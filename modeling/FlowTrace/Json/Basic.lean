/-
  FlowTrace.Json.Basic
  ────────────────────────────────
  **DOCUMENT VALUES.**

  Flows, catalogs, block tables and protocol messages are JSON documents, and
  what a field holds is known only when it is used.  Objects keep the order
  of their keys, since emitted code follows it; whole numbers are unbounded
  and apart from doubles.
-/
import FlowTrace.Number.Binary64

namespace FlowTrace

/-- A JSON value.  The fields of an object stand in document order, each key
once. -/
inductive Json where
  | null
  | bool (b : Bool)
  | int (n : Int)
  | float (x : Binary64)
  | str (s : String)
  | arr (items : List Json)
  | obj (fields : List (String × Json))
  deriving Inhabited, Repr

/-- A text is a value. -/
instance : Coe String Json := ⟨.str⟩

/-! ## §1. Ordered fields. -/

namespace Fields

variable {κ α : Type} [DecidableEq κ]

/-- The entry at a key. -/
def get? (fields : List (κ × α)) (key : κ) : Option α := fields.lookup key

/-- Is there an entry at the key? -/
def contains (fields : List (κ × α)) (key : κ) : Bool := (get? fields key).isSome

/-- Put an entry at a key: an existing key keeps its place, a new one comes
last. -/
def put (key : κ) (value : α) : List (κ × α) → List (κ × α)
  | [] => [(key, value)]
  | (k, v) :: rest => if k = key then (k, value) :: rest else (k, v) :: put key value rest

/-- Take the entry at a key away. -/
def erase (key : κ) : List (κ × α) → List (κ × α)
  | [] => []
  | (k, v) :: rest => if k = key then rest else (k, v) :: erase key rest

/-- Entries put one after the other, so that a repeated key keeps its first
place and its last value. -/
def ofList (entries : List (κ × α)) : List (κ × α) :=
  entries.foldl (fun acc e => put e.1 e.2 acc) []

/-- The keys in order. -/
def keys (fields : List (κ × α)) : List κ := fields.map Prod.fst

end Fields

namespace Json

/-! ## §2. What a value is. -/

/-- The kind of a value, as messages name it. -/
def kindName : Json → String
  | null => "NoneType"
  | bool _ => "bool"
  | int _ => "int"
  | float _ => "float"
  | str _ => "str"
  | arr _ => "list"
  | obj _ => "dict"

/-- Does a value count as given?  Null, false, zero and whatever is empty do
not. -/
def truthy : Json → Bool
  | null => false
  | bool b => b
  | int n => n != 0
  | float x => !x.isZero
  | str s => !s.isEmpty
  | arr items => !items.isEmpty
  | obj fields => !fields.isEmpty

/-- The first value if it counts as given, else the second. -/
def orElse (x y : Json) : Json := if x.truthy then x else y

/-- Is the value null? -/
def isNull : Json → Bool
  | null => true
  | _ => false

/-- Is the value an object? -/
def isObj : Json → Bool
  | obj _ => true
  | _ => false

/-- Can the value be a look-up key?  Lists and objects cannot. -/
def isKey : Json → Bool
  | arr _ => false
  | obj _ => false
  | _ => true

/-- The fields of an object. -/
def fields? : Json → Option (List (String × Json))
  | obj fields => some fields
  | _ => none

/-- The text of a string value. -/
def text? : Json → Option String
  | str s => some s
  | _ => none

/-- The value at a key of some fields, null when the key is absent. -/
def field (fields : List (String × Json)) (key : String) : Json :=
  (Fields.get? fields key).getD null

/-! ## §3. Equality of values.

Numbers are equal when their values are, whatever their form, and the truth
values count as one and zero.  Objects are equal when they hold equal values
at the same keys, in any order.  Not-a-number differs from itself, except
inside a list or an object. -/

/-- The number that a scalar stands for. -/
def number? : Json → Option (Int ⊕ Binary64)
  | bool b => some (.inl (if b then 1 else 0))
  | int n => some (.inl n)
  | float x => some (.inr x)
  | _ => none

/-- Is the value not-a-number? -/
def isNan : Json → Bool
  | float .nan => true
  | _ => false

/-- Equality of numbers of either form. -/
def sameNumber : Int ⊕ Binary64 → Int ⊕ Binary64 → Bool
  | .inl a, .inl b => a == b
  | .inl a, .inr y => y.toInt? == some a
  | .inr x, .inl b => x.toInt? == some b
  | .inr x, .inr y => x.same y

mutual

/-- Equality of values. -/
def same : Json → Json → Bool
  | null, null => true
  | str s, str t => s == t
  | arr xs, arr ys => sameItems xs ys
  | obj fs, obj gs => fs.length == gs.length && sameFields fs gs
  | x, y =>
      match x.number?, y.number? with
      | some a, some b => sameNumber a b
      | _, _ => false

/-- Equality of lists, item by item. -/
def sameItems : List Json → List Json → Bool
  | [], [] => true
  | x :: xs, y :: ys => (same x y || (isNan x && isNan y)) && sameItems xs ys
  | _, _ => false

/-- Does every field of the first object stand in the second? -/
def sameFields : List (String × Json) → List (String × Json) → Bool
  | [], _ => true
  | (k, v) :: rest, gs =>
      (match Fields.get? gs k with
        | some w => same v w || (isNan v && isNan w)
        | none => false) && sameFields rest gs

end

/-- Equality of a value with an item of a list or a key of a map. -/
def sameItem (x y : Json) : Bool := x.same y || (x.isNan && y.isNan)

/-! ## §4. Order of numbers. -/

/-- A finite number as a quotient with a positive denominator. -/
def ratio? : Int ⊕ Binary64 → Option (Int × Nat)
  | .inl n => some (n, 1)
  | .inr x => x.ratio?

/-- The least natural not below a positive quotient, and zero for any other. -/
def ceiling (num : Int) (den : Nat) : Nat := (num.toNat + den - 1) / den

/-- Is a number less than another?  Not-a-number is neither less nor greater than
any. -/
def numberLess (a b : Int ⊕ Binary64) : Bool :=
  match a, b, ratio? a, ratio? b with
  | _, _, some p, some q => decide (p.1 * q.2 < q.1 * p.2)
  | .inr (.infinite n), .inr (.infinite m), _, _ => n && !m
  | .inr (.infinite n), _, _, some _ => n
  | _, .inr (.infinite m), some _, _ => !m
  | _, _, _, _ => false

end Json
end FlowTrace
