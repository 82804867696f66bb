/-
  FlowTrace.Proofs.Debug.Places
  ────────────────────────────────
  **A REGISTRY IS A MAP FROM PLACES, IN ORDER OF INSERTION.**

  A place is the address of a script and a whole line of it.  Seen from outside, a
  registry of breakpoints at such places is a map: for each place what is held there,
  and the number of the insertion that put it there.

      add      — puts under a fresh number, unless the place is taken
      remove   — empties one place; what is put there later has a greater number
      ids      — are given and cleared under the numbers that there are
      look-up  — by place asks the map, by id the least number that has it

  The list of the registry is the map in increasing order of the numbers.  So it is
  determined by the map, and has no place twice.
-/
import FlowTrace.Proofs.Debug.Registry
import Mathlib.Data.List.Nodup
import Mathlib.Logic.Function.Basic

namespace FlowTrace
namespace BreakpointRegistry

/-! ## §1. Places. -/

/-- A place where a script may pause. -/
structure Place where
  url : String
  line : Int
  deriving DecidableEq, Repr

/-- What a breakpoint holds besides its place. -/
structure Held where
  id : Json := .null
  hitFrame : Option Record := none
  hitScopes : List Json := []

/-- The same under an id. -/
def Held.withId (h : Held) (id : Json) : Held := { h with id := id }

/-- The breakpoint at a place. -/
def Place.breakpoint (p : Place) (h : Held) : Breakpoint :=
  { url := .str p.url, line := .int p.line, id := h.id, hitFrame := h.hitFrame
    hitScopes := h.hitScopes }

/-- A breakpoint is at its own place and at no other. -/
theorem Place.isAt_breakpoint (p q : Place) (h : Held) :
    (p.breakpoint h).isAt (.str q.url) (.int q.line) = .ok (decide (p = q)) := by
  obtain ⟨url, line⟩ := p
  obtain ⟨url', line'⟩ := q
  rw [Breakpoint.isAt]
  by_cases hurl : url = url'
  · subst hurl
    have hline : (Json.int line).same (.int line') = decide (line = line') := rfl
    simp [breakpoint, Json.same, Json.toInt, Except.map, ← hline]
  · simp [breakpoint, Json.same, hurl]

/-! ## §2. The map. -/

/-- What is held at a place, and the number of the insertion that put it there. -/
structure Slot where
  stamp : Nat
  held : Held

/-- A map from places, with the number of the next insertion. -/
structure PlaceMap where
  slot : Place → Option Slot := fun _ => none
  next : Nat := 0

/-- What is done with a registry. -/
inductive RegistryOp where
  | add (p : Place) (h : Held)
  | find (p : Place)
  | findById (id : Json)
  | remove (p : Place)
  | clearIds
  /-- The breakpoint that is stored at a place gets an id.  Its record is shared with
  whoever added it; one that was not stored, or is no longer, is nothing to the registry. -/
  | assign (p : Place) (id : Json)

namespace PlaceMap

/-- What is held is changed, under the numbers that there are. -/
def change (m : PlaceMap) (f : Place → Held → Held) : PlaceMap :=
  { m with slot := fun p => (m.slot p).map (fun s => { s with held := f p s.held }) }

/-- The map after an operation. -/
def after (m : PlaceMap) : RegistryOp → PlaceMap
  | .add p h =>
      if (m.slot p).isSome then m
      else { slot := Function.update m.slot p (some ⟨m.next, h⟩), next := m.next + 1 }
  | .remove p => { m with slot := Function.update m.slot p none }
  | .clearIds => m.change (fun _ h => h.withId .null)
  | .assign p id => m.change (fun q h => if q = p then h.withId id else h)
  | .find _ => m
  | .findById _ => m

/-- The map after operations that are done one after the other. -/
def afterAll (m : PlaceMap) (ops : List RegistryOp) : PlaceMap := ops.foldl after m

/-- The map after operations on the empty one. -/
def ofOps (ops : List RegistryOp) : PlaceMap := ({} : PlaceMap).afterAll ops

/-- The breakpoint at a place. -/
def breakpoint? (m : PlaceMap) (p : Place) : Option Breakpoint :=
  (m.slot p).map (fun s => p.breakpoint s.held)

/-- The breakpoint with an id is the one that was put first of those that have it. -/
def IsFirst (m : PlaceMap) (id : Json) : Option Breakpoint → Prop
  | none => ∀ p s, m.slot p = some s → s.held.id.same id = false
  | some bp => ∃ p s, m.slot p = some s ∧ s.held.id.same id = true ∧ bp = p.breakpoint s.held
      ∧ ∀ q t, m.slot q = some t → t.held.id.same id = true → s.stamp ≤ t.stamp

/-- The answer that an operation gets: the breakpoint that is stored then, the one that
was found, or the one that was taken out. -/
def Answers (m : PlaceMap) : RegistryOp → Option Breakpoint → Prop
  | .add p h, a => a = some ((m.breakpoint? p).getD (p.breakpoint h))
  | .find p, a => a = m.breakpoint? p
  | .remove p, a => a = m.breakpoint? p
  | .findById id, a => m.IsFirst id a
  | .clearIds, a => a = none
  | .assign _ _, a => a = none

end PlaceMap

/-! ## §3. The list. -/

/-- What is held at a place, with the number of the insertion. -/
structure Shelved where
  place : Place
  slot : Slot

/-- The breakpoint that is held. -/
def Shelved.breakpoint (e : Shelved) : Breakpoint := e.place.breakpoint e.slot.held

/-- What is held is changed where it is. -/
def Shelved.change (f : Place → Held → Held) (e : Shelved) : Shelved :=
  { e with slot := { e.slot with held := f e.place e.slot.held } }

/-- Is it held at the place? -/
def Shelved.isAt (p : Place) (e : Shelved) : Bool := decide (e.place = p)

/-- The list is the map in increasing order of the numbers. -/
structure Shows (m : PlaceMap) (es : List Shelved) : Prop where
  increasing : es.Pairwise (fun x y => x.slot.stamp < y.slot.stamp)
  early : ∀ e ∈ es, e.slot.stamp < m.next
  mem_iff : ∀ e, e ∈ es ↔ m.slot e.place = some e.slot

variable {m : PlaceMap} {es before after : List Shelved}

theorem shows_nil : Shows {} [] := by
  refine ⟨List.Pairwise.nil, ?_, ?_⟩
  · simp
  · simp

namespace Shows

theorem mem_of_slot (hm : Shows m es) {p : Place} {s : Slot} (hs : m.slot p = some s) :
    (⟨p, s⟩ : Shelved) ∈ es := (hm.mem_iff ⟨p, s⟩).mpr hs

/-- Two of the list at one place are the same. -/
theorem eq_of_place (hm : Shows m es) {x y : Shelved} (hx : x ∈ es) (hy : y ∈ es)
    (h : x.place = y.place) : x = y := by
  -- both are what the map has there
  have hslot := (hm.mem_iff x).mp hx
  rw [h, (hm.mem_iff y).mp hy, Option.some.injEq] at hslot
  cases x
  cases y
  cases h
  cases hslot
  rfl

theorem nodup_places (hm : Shows m es) : (es.map Shelved.place).Nodup := by
  rw [List.Nodup, List.pairwise_map]
  refine hm.increasing.imp_of_mem ?_
  intro x y hx hy hlt heq
  rw [hm.eq_of_place hx hy heq] at hlt
  omega

/-- A map is shown by one list only. -/
theorem unique (hm : Shows m es) {es' : List Shelved} (hm' : Shows m es') : es = es' := by
  have hnodup : ∀ {xs : List Shelved}, Shows m xs → xs.Nodup := by
    intro xs h
    exact h.nodup_places.of_map _
  have hperm : es.Perm es' := by
    rw [List.perm_ext_iff_of_nodup (hnodup hm) (hnodup hm')]
    intro e
    rw [hm.mem_iff, hm'.mem_iff]
  -- the same members, each list in the order of its numbers
  refine hperm.eq_of_pairwise ?_ hm.increasing hm'.increasing
  intro x y _ _ hxy hyx
  omega

/-- The list cut at a place that is taken: no other is at it. -/
theorem split (hm : Shows m es) {p : Place} {s : Slot} (hs : m.slot p = some s) :
    ∃ before after, es = before ++ ⟨p, s⟩ :: after
      ∧ (∀ x ∈ before, x.isAt p = false) ∧ (∀ x ∈ after, x.isAt p = false) := by
  obtain ⟨before, after, rfl⟩ := List.append_of_mem (hm.mem_of_slot hs)
  have hplaces := hm.nodup_places
  rw [List.map_append, List.map_cons, List.nodup_append, List.nodup_cons] at hplaces
  refine ⟨before, after, rfl, ?_, ?_⟩
  · intro x hx
    exact decide_eq_false (hplaces.2.2 _ (List.mem_map_of_mem hx) _ List.mem_cons_self)
  · intro x hx
    refine decide_eq_false ?_
    intro heq
    exact hplaces.2.1.1 (List.mem_map.mpr ⟨x, hx, heq⟩)

theorem not_isAt (hm : Shows m es) {p : Place} (hs : m.slot p = none) :
    ∀ x ∈ es, x.isAt p = false := by
  intro x hx
  refine decide_eq_false ?_
  rintro rfl
  rw [(hm.mem_iff x).mp hx] at hs
  cases hs

/-! ## §4. What the operations do to the list. -/

/-- A new one comes last. -/
theorem add (hm : Shows m es) {p : Place} (hs : m.slot p = none) (h : Held) :
    Shows (m.after (.add p h)) (es ++ [⟨p, m.next, h⟩]) := by
  rw [PlaceMap.after, hs, if_neg (by simp)]
  refine ⟨?_, ?_, ?_⟩
  · -- the next number is greater than all that were given
    rw [List.pairwise_append]
    refine ⟨hm.increasing, List.pairwise_singleton _ _, ?_⟩
    intro x hx y hy
    rw [List.mem_singleton.mp hy]
    exact hm.early x hx
  · intro x hx
    show x.slot.stamp < m.next + 1
    rcases List.mem_append.mp hx with hx | hx
    · have := hm.early x hx
      omega
    · rw [List.mem_singleton.mp hx]
      exact Nat.lt_succ_self _
  · rintro ⟨q, t⟩
    show _ ↔ Function.update m.slot p _ q = some t
    rw [List.mem_append, List.mem_singleton, hm.mem_iff]
    by_cases hq : q = p
    · subst hq
      rw [Function.update_self, hs]
      simp [eq_comm]
    · rw [Function.update_of_ne hq]
      simp [hq]

/-- One that is taken out is missing, and nothing else. -/
theorem remove (hm : Shows m es) (p : Place) :
    Shows (m.after (.remove p)) (es.filter (fun e => !e.isAt p)) := by
  refine ⟨hm.increasing.filter _, fun e he => hm.early e (List.mem_of_mem_filter he), ?_⟩
  rintro ⟨q, t⟩
  show _ ↔ Function.update m.slot p none q = some t
  rw [List.mem_filter, hm.mem_iff, Shelved.isAt]
  by_cases hq : q = p
  · subst hq
    simp
  · rw [Function.update_of_ne hq]
    simp [hq]

theorem change (hm : Shows m es) (f : Place → Held → Held) :
    Shows (m.change f) (es.map (Shelved.change f)) := by
  refine ⟨List.pairwise_map.mpr hm.increasing, ?_, ?_⟩
  · intro e he
    obtain ⟨x, hx, rfl⟩ := List.mem_map.mp he
    exact hm.early x hx
  · rintro ⟨q, t⟩
    show _ ↔ (m.slot q).map _ = some t
    rw [List.mem_map, Option.map_eq_some_iff]
    constructor
    · rintro ⟨x, hx, heq⟩
      cases heq
      exact ⟨x.slot, (hm.mem_iff x).mp hx, rfl⟩
    · rintro ⟨s, hs, heq⟩
      exact ⟨⟨q, s⟩, hm.mem_of_slot hs, congrArg (Shelved.mk q) heq⟩

end Shows

/-! ## §5. One operation. -/

/-- The registry that has the list. -/
def showing (es : List Shelved) : BreakpointRegistry := ⟨es.map Shelved.breakpoint⟩

/-- An operation on a registry, and its answer. -/
def perform (r : BreakpointRegistry) :
    RegistryOp → Except Fault (BreakpointRegistry × Option Breakpoint)
  | .add p h => do
      let (r', i) ← r.add (p.breakpoint h)
      pure (r', r'.items[i]?)
  | .find p => (r.find (.str p.url) (.int p.line)).map (fun a => (r, a))
  | .findById id => .ok (r, r.findById? id)
  | .remove p => r.remove (.str p.url) (.int p.line)
  | .clearIds => .ok (r.clearIds, none)
  | .assign p id => do
      match ← r.index? (.str p.url) (.int p.line) with
      | some i => pure (r.modify i (fun bp => { bp with id := id }), none)
      | none => pure (r, none)

/-- Operations on a registry, one after the other. -/
def performAll (r : BreakpointRegistry) (ops : List RegistryOp) : Except Fault BreakpointRegistry :=
  ops.foldlM (fun r op => (r.perform op).map Prod.fst) r

/-- A place is looked for in the list. -/
theorem index?_showing (es : List Shelved) (p : Place) :
    (showing es).index? (.str p.url) (.int p.line) = .ok (es.findIdx? (Shelved.isAt p)) := by
  show indexIn _ _ (es.map Shelved.breakpoint) = _
  induction es with
  | nil => rfl
  | cons e es ih =>
    have hat : e.breakpoint.isAt (.str p.url) (.int p.line) = .ok (e.isAt p) :=
      Place.isAt_breakpoint e.place p e.slot.held
    rw [List.map_cons, indexIn, hat, ih, List.findIdx?_cons]
    cases e.isAt p with
    | true => rfl
    | false => rfl

/-- It is found where it is. -/
theorem index?_split {p : Place} {s : Slot} (h : ∀ x ∈ before, x.isAt p = false) :
    (showing (before ++ ⟨p, s⟩ :: after)).index? (.str p.url) (.int p.line)
      = .ok (some before.length) := by
  have hnone : before.findIdx? (Shelved.isAt p) = none := List.findIdx?_eq_none_iff.mpr h
  rw [index?_showing, List.findIdx?_append, hnone, List.findIdx?_cons]
  simp [Shelved.isAt]

/-- A place that is free is not found. -/
theorem index?_free {p : Place} (h : ∀ x ∈ es, x.isAt p = false) :
    (showing es).index? (.str p.url) (.int p.line) = .ok none := by
  rw [index?_showing, List.findIdx?_eq_none_iff.mpr h]

theorem items_split (p : Place) (s : Slot) :
    (showing (before ++ ⟨p, s⟩ :: after)).items[before.length]? = some (p.breakpoint s.held) := by
  simp [showing, Shelved.breakpoint]

/-- An id is found at the first place in the list that has it. -/
theorem isFirst_findById? (hm : Shows m es) (id : Json) :
    m.IsFirst id ((showing es).findById? id) := by
  have hfind : (showing es).findById? id
      = (es.find? (fun e => e.slot.held.id.same id)).map Shelved.breakpoint := by
    rw [findById?, indexOfId?, showing, ← List.find?_eq_bind_findIdx?_getElem?, List.find?_map]
    rfl
  rw [hfind]
  cases hfound : es.find? (fun e => e.slot.held.id.same id) with
  | none =>
    intro p s hs
    simpa using List.find?_eq_none.mp hfound _ (hm.mem_of_slot hs)
  | some e =>
    obtain ⟨hid, before, after, rfl, hbefore⟩ := List.find?_eq_some_iff_append.mp hfound
    refine ⟨e.place, e.slot, (hm.mem_iff e).mp (by simp), hid, rfl, ?_⟩
    intro q t ht hsame
    rcases List.mem_append.mp (hm.mem_of_slot ht) with hmem | hmem
    · -- those in front of it do not have the id
      have hother := hbefore _ hmem
      rw [hsame] at hother
      cases hother
    · rcases List.mem_cons.mp hmem with rfl | hmem
      · exact Nat.le_refl _
      · have hlater := (List.pairwise_cons.mp (List.pairwise_append.mp hm.increasing).2.1).1
        exact Nat.le_of_lt (hlater _ hmem)

theorem perform_add_free (hm : Shows m es) {p : Place} (hs : m.slot p = none) (h : Held) :
    (showing es).perform (.add p h)
      = .ok (showing (es ++ [⟨p, m.next, h⟩]), some (p.breakpoint h)) := by
  have hindex : (showing es).index? (p.breakpoint h).url (p.breakpoint h).line = .ok none :=
    index?_free (hm.not_isAt hs)
  rw [perform, add, hindex]
  simp [bind, Except.bind, pure, Except.pure, showing, Shelved.breakpoint]

/-- A breakpoint that is there already is kept as it is. -/
theorem perform_add_taken (hm : Shows m es) {p : Place} {s : Slot} (hs : m.slot p = some s)
    (h : Held) :
    (showing es).perform (.add p h) = .ok (showing es, some (p.breakpoint s.held)) := by
  obtain ⟨before, after, rfl, hbefore, -⟩ := hm.split hs
  have hindex : (showing (before ++ ⟨p, s⟩ :: after)).index? (p.breakpoint h).url
      (p.breakpoint h).line = .ok (some before.length) := index?_split hbefore
  rw [perform, add, hindex]
  simp [bind, Except.bind, pure, Except.pure, items_split]

theorem perform_find (hm : Shows m es) (p : Place) :
    (showing es).perform (.find p) = .ok (showing es, m.breakpoint? p) := by
  rw [perform, find, PlaceMap.breakpoint?]
  cases hs : m.slot p with
  | none =>
    rw [index?_free (hm.not_isAt hs)]
    rfl
  | some s =>
    obtain ⟨before, after, rfl, hbefore, -⟩ := hm.split hs
    rw [index?_split hbefore]
    simp [bind, Except.bind, pure, Except.pure, Except.map, items_split]

theorem perform_remove (hm : Shows m es) (p : Place) :
    (showing es).perform (.remove p)
      = .ok (showing (es.filter (fun e => !e.isAt p)), m.breakpoint? p) := by
  have hothers : ∀ {xs : List Shelved}, (∀ x ∈ xs, x.isAt p = false) →
      xs.filter (fun e => !e.isAt p) = xs := by
    intro xs hxs
    exact List.filter_eq_self.mpr (fun x hx => by simp [hxs x hx])
  rw [perform, remove, PlaceMap.breakpoint?]
  cases hs : m.slot p with
  | none =>
    rw [index?_free (hm.not_isAt hs), hothers (hm.not_isAt hs)]
    rfl
  | some s =>
    obtain ⟨before, after, rfl, hbefore, hafter⟩ := hm.split hs
    have herase : (showing (before ++ ⟨p, s⟩ :: after)).items.eraseIdx before.length
        = (showing (before ++ after)).items := by
      simp [showing, List.eraseIdx_append_of_length_le]
    rw [index?_split hbefore, List.filter_append, List.filter_cons_of_neg (by simp [Shelved.isAt]),
      hothers hbefore, hothers hafter]
    simp only [bind, Except.bind, pure, Except.pure, items_split, herase]
    rfl

theorem perform_clearIds (es : List Shelved) :
    (showing es).perform .clearIds
      = .ok (showing (es.map (Shelved.change (fun _ h => h.withId .null))), none) := by
  rw [perform, clearIds, showing, showing, List.map_map, List.map_map]
  rfl

theorem perform_assign (hm : Shows m es) (p : Place) (id : Json) :
    (showing es).perform (.assign p id) = .ok
      (showing (es.map (Shelved.change (fun q h => if q = p then h.withId id else h))), none) := by
  -- other places keep what they hold
  have hothers : ∀ {xs : List Shelved}, (∀ x ∈ xs, x.isAt p = false) →
      xs.map (Shelved.change (fun q h => if q = p then h.withId id else h)) = xs := by
    intro xs hxs
    have hsame : ∀ x ∈ xs,
        Shelved.change (fun q h => if q = p then h.withId id else h) x = x := by
      intro x hx
      have hplace : x.place ≠ p := of_decide_eq_false (hxs x hx)
      rw [Shelved.change, if_neg hplace]
    rw [List.map_congr_left hsame, List.map_id']
  rw [perform]
  cases hs : m.slot p with
  | none =>
    rw [index?_free (hm.not_isAt hs), hothers (hm.not_isAt hs)]
    rfl
  | some s =>
    obtain ⟨before, after, rfl, hbefore, hafter⟩ := hm.split hs
    have hchange : (showing (before ++ ⟨p, s⟩ :: after)).modify before.length
          (fun bp => { bp with id := id })
        = showing (before ++ ⟨p, { s with held := s.held.withId id }⟩ :: after) := by
      have hmodify := modify_split (before.map Shelved.breakpoint) (after.map Shelved.breakpoint)
        (p.breakpoint s.held) (fun bp => { bp with id := id })
      rw [List.length_map] at hmodify
      rw [modify, showing, showing, List.map_append, List.map_cons, List.map_append, List.map_cons]
      exact congrArg BreakpointRegistry.mk hmodify
    rw [index?_split hbefore, List.map_append, List.map_cons, hothers hbefore, hothers hafter]
    simp only [bind, Except.bind, pure, Except.pure, hchange]
    simp [Shelved.change]

/-- **ONE OPERATION.**  The registry goes where the map goes, and answers what it
answers. -/
theorem perform_showing (hm : Shows m es) (op : RegistryOp) :
    ∃ es' answer, (showing es).perform op = .ok (showing es', answer)
      ∧ Shows (m.after op) es' ∧ m.Answers op answer := by
  cases op with
  | add p h =>
    cases hs : m.slot p with
    | none =>
      refine ⟨_, _, perform_add_free hm hs h, hm.add hs h, ?_⟩
      simp [PlaceMap.Answers, PlaceMap.breakpoint?, hs]
    | some s =>
      refine ⟨es, _, perform_add_taken hm hs h, ?_, ?_⟩
      · rw [PlaceMap.after, hs]
        exact hm
      · simp [PlaceMap.Answers, PlaceMap.breakpoint?, hs]
  | find p => exact ⟨es, _, perform_find hm p, hm, rfl⟩
  | findById id => exact ⟨es, _, rfl, hm, isFirst_findById? hm id⟩
  | remove p => exact ⟨_, _, perform_remove hm p, hm.remove p, rfl⟩
  | clearIds => exact ⟨_, _, perform_clearIds es, hm.change (fun _ h => h.withId .null), rfl⟩
  | assign p id =>
    exact ⟨_, _, perform_assign hm p id, hm.change (fun q h => if q = p then h.withId id else h),
      rfl⟩

/-! ## §6. Every run. -/

theorem performAll_showing (hm : Shows m es) (ops : List RegistryOp) :
    ∃ es', (showing es).performAll ops = .ok (showing es') ∧ Shows (m.afterAll ops) es' := by
  induction ops generalizing m es with
  | nil => exact ⟨es, rfl, hm⟩
  | cons op ops ih =>
    obtain ⟨es₁, answer, hstep, hm₁, -⟩ := perform_showing hm op
    obtain ⟨es', hrest, hm'⟩ := ih hm₁
    refine ⟨es', ?_, hm'⟩
    rw [performAll, List.foldlM_cons, hstep]
    exact hrest

/-- The additions of the breakpoints that a registry is made with. -/
def additions (initial : List (Place × Held)) : List RegistryOp :=
  initial.map (fun w => .add w.1 w.2)

/-- A registry is made by adding. -/
theorem ofList_eq_performAll (initial : List (Place × Held)) :
    ofList (initial.map (fun w => w.1.breakpoint w.2)) = performAll {} (additions initial) := by
  rw [ofList, performAll, additions, List.foldlM_map, List.foldlM_map]
  congr 1
  funext r w
  simp only [perform]
  cases r.add (w.1.breakpoint w.2) <;> rfl

/-- **THE REGISTRY IS AN INSERTION-ORDERED MAP.**  Make a registry with breakpoints,
repeated ones among them, and do whatever with it.  That succeeds; its list has no place
twice, and is the only one that shows the map after all that in the order of insertion.
Whatever is done next is answered as the map answers it, and leads to the map after it. -/
theorem insertion_ordered_map (initial : List (Place × Held)) (ops : List RegistryOp) :
    ∃ es, (ofList (initial.map (fun w => w.1.breakpoint w.2)) >>= fun r => r.performAll ops)
          = .ok (showing es)
      ∧ (es.map Shelved.place).Nodup
      ∧ (∀ es', Shows (.ofOps (additions initial ++ ops)) es' ↔ es' = es)
      ∧ ∀ op, ∃ es' answer, (showing es).perform op = .ok (showing es', answer)
        ∧ Shows (.ofOps (additions initial ++ ops ++ [op])) es'
        ∧ (PlaceMap.ofOps (additions initial ++ ops)).Answers op answer := by
  obtain ⟨es₀, hmade, hm₀⟩ := performAll_showing shows_nil (additions initial)
  obtain ⟨es, hrun, hm⟩ := performAll_showing hm₀ ops
  have hmap : (({} : PlaceMap).afterAll (additions initial)).afterAll ops
      = .ofOps (additions initial ++ ops) := List.foldl_append.symm
  rw [hmap] at hm
  refine ⟨es, ?_, hm.nodup_places, ?_, ?_⟩
  · rw [ofList_eq_performAll]
    show ((showing []).performAll (additions initial) >>= _) = _
    rw [hmade]
    exact hrun
  · intro es'
    constructor
    · exact fun hm' => hm'.unique hm
    · rintro rfl
      exact hm
  · intro op
    rw [PlaceMap.ofOps, PlaceMap.afterAll, List.foldl_concat]
    exact perform_showing hm op

/-- A place that was emptied and is taken again stands behind those put in between. -/
example :
    let p : Place := ⟨"flow.js", 1⟩
    let q : Place := ⟨"flow.js", -2⟩
    ((ofList [p.breakpoint {}, q.breakpoint {}, p.breakpoint { id := "1" }]
        >>= fun r => r.performAll [.assign q "2", .remove p, .add p { id := "3" }]).toOption.map
      (fun r => r.items.map Breakpoint.id)) = some [.str "2", .str "3"] := by
  decide

end BreakpointRegistry
end FlowTrace
