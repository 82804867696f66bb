/-
  FlowTrace.Json.Access
  ────────────────────────────────
  **USING A VALUE AS SOMETHING.**

  A field is given a meaning where it is used: as an object, a whole number,
  a double, a list of items or a set of fields.  A value that cannot take the
  meaning is a fault.
-/
import FlowTrace.Fault
import FlowTrace.Json.Text
import FlowTrace.Number.Numeral

namespace FlowTrace
namespace Json

/-! ## §1. Objects. -/

/-- The fields of a value used as an object. -/
def fieldsOf : Json → Except Fault (List (String × Json))
  | obj fields => .ok fields
  | v => .error (.noMember v.kindName "get")

/-- The field at a key of a value used as an object, null when absent. -/
def get (v : Json) (key : String) : Except Fault Json :=
  (v.fieldsOf).map (fun fields => field fields key)

/-- The value, or an empty object when it does not count as given. -/
def orObject (v : Json) : Json := v.orElse (obj [])

/-! ## §2. Numbers. -/

/-- A value used as a whole number: doubles lose their fraction, strings are
read. -/
def toInt : Json → Except Fault Int
  | bool b => .ok (if b then 1 else 0)
  | int n => .ok n
  | float x =>
      match x.truncate? with
      | some n => .ok n
      | none =>
          if x = .nan then .error (.badValue "cannot convert float NaN to integer")
          else .error .tooLarge
  | str s =>
      match Numeral.readInt? s with
      | some n => .ok n
      | none => .error (.badValue ("invalid literal for int() with base 10: " ++ quoted s))
  | _ => .error .badKind

/-- A value used as a whole number, if it is one; an infinity is a fault. -/
def toInt? (v : Json) : Except Fault (Option Int) :=
  match v.toInt with
  | .ok n => .ok (some n)
  | .error .tooLarge => .error .tooLarge
  | .error _ => .ok none

/-- A value used as a whole number, zero when it is none; an infinity is a
fault. -/
def toIntOrZero (v : Json) : Except Fault Int := (v.toInt?).map (fun n => n.getD 0)

/-- A value used as a double, zero when it is none; a whole number beyond the
largest double is a fault. -/
def toFloatOrZero : Json → Except Fault Binary64
  | bool b => .ok (.ofRatio false (if b then 1 else 0) 1)
  | int n =>
      match Binary64.ofInt? n with
      | some x => .ok x
      | none => .error .tooLarge
  | float x => .ok x
  | str s => .ok ((Numeral.readFloat? s).getD (.ofRatio false 0 1))
  | _ => .ok (.ofRatio false 0 1)

/-- One more than a number: a double stays one, and truth values are one and
zero. -/
def next : Json → Except Fault Json
  | bool b => .ok (int (if b then 2 else 1))
  | int n => .ok (int (n + 1))
  | float x => .ok (float x.addOne)
  | _ => .error .badKind

/-- The text of a whole number, which can have only so many digits. -/
def numeral (n : Int) : Except Fault String :=
  if Numeral.isOverlong n then .error (.badValue "number with too many digits")
  else .ok (toString n)

mutual

/-- Does the value hold a whole number with too many digits to be written? -/
def hasOverlong : Json → Bool
  | int n => Numeral.isOverlong n
  | arr items => hasOverlongItem items
  | obj fields => hasOverlongField fields
  | _ => false

/-- Does an item hold one? -/
def hasOverlongItem : List Json → Bool
  | [] => false
  | x :: rest => hasOverlong x || hasOverlongItem rest

/-- Does a field hold one? -/
def hasOverlongField : List (String × Json) → Bool
  | [] => false
  | (_, v) :: rest => hasOverlong v || hasOverlongField rest

end

/-! ## §3. Lists and fields. -/

/-- The code points of a text, each a string of its own. -/
def characters (s : String) : List Json :=
  (CodePoint.split s).map (fun p => str (CodePoint.join [p]))

/-- The items of a value: of a string its characters, of an object its keys. -/
def toItems : Json → Except Fault (List Json)
  | arr items => .ok items
  | str s => .ok (characters s)
  | obj fields => .ok ((Fields.keys fields).map str)
  | _ => .error .badKind

/-- The objects among the items of a list; none if the value is no list. -/
def objects : Json → List (List (String × Json))
  | arr items => items.filterMap fields?
  | _ => []

/-- A value used as a look-up key. -/
def toKey (v : Json) : Except Fault Json := if v.isKey then .ok v else .error .badKind

/-- A key and a value: an item with exactly two items. -/
def toPair (v : Json) : Except Fault (Json × Json) := do
  match ← v.toItems with
  | [k, x] => pure (← k.toKey, x)
  | items =>
      throw (.badValue ("dictionary update sequence element has length "
        ++ toString items.length ++ "; 2 is required"))

/-- Put a value at a key of a map: a key that equals it keeps its form and its
place. -/
def putEntry (key value : Json) : List (Json × Json) → List (Json × Json)
  | [] => [(key, value)]
  | e :: rest => if e.1.sameItem key then (e.1, value) :: rest else e :: putEntry key value rest

/-- The entries of a value used as a map: an object's fields, or the pairs that
its items are.  The keys of pairs may be any scalars. -/
def toEntries : Json → Except Fault (List (Json × Json))
  | obj fields => .ok (fields.map (fun f => (str f.1, f.2)))
  | v => do
      let items ← v.toItems
      let pairs ← items.mapM toPair
      pure (pairs.foldl (fun es p => putEntry p.1 p.2 es) [])

/-- The name of a key in an object's text. -/
def keyName : Json → String
  | str s => s
  | v => v.render

/-- The fields of a value used as a map.  Of keys with one name the last counts. -/
def toFields (v : Json) : Except Fault (List (String × Json)) := do
  let entries ← v.toEntries
  pure (Fields.ofList (entries.map (fun e => (e.1.keyName, e.2))))

/-! ## §4. Maps in order of their keys. -/

/-- Does a key come before another?  Texts and numbers have no order between
them. -/
def keyPrecedes (x y : Json) : Bool :=
  match x, y with
  | str s, str t => precedes s t
  | _, _ =>
      match x.number?, y.number? with
      | some a, some b => numberLess a b
      | _, _ => false

/-- Have all keys an order between them?  One key by itself needs none. -/
def areComparable (keys : List Json) : Bool :=
  keys.length ≤ 1 || keys.all (fun k => k.text?.isSome) || keys.all (fun k => k.number?.isSome)

/-- Put an entry into entries sorted by key. -/
def insertEntrySorted (e : Json × Json) : List (Json × Json) → List (Json × Json)
  | [] => [e]
  | g :: rest => if keyPrecedes e.1 g.1 then e :: g :: rest else g :: insertEntrySorted e rest

/-- The fields of entries in the order of their keys, and the fields of every
object inside in the order of theirs. -/
def sortEntries (entries : List (Json × Json)) : Except Fault (List (String × Json)) :=
  if areComparable (entries.map Prod.fst) then
    .ok ((entries.foldr insertEntrySorted []).map (fun e => (e.1.keyName, e.2.sortKeys)))
  else .error .badKind

end Json
end FlowTrace
