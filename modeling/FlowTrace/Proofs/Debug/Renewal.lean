/-
  FlowTrace.Proofs.Debug.Renewal
  ────────────────────────────────
  **BREAKPOINTS OF A NEW CONNECTION.**

  The registry outlives the connections.  When a new one begins, the ids are forgotten,
  and so the breakpoints are as if they had just been registered, but for one thing: each
  keeps the frame and the scopes of its last pause until it is hit again.

      old, at a,  hit with F        at a,  hit with F        at a,  no hit
      id "7"                  →     no id              ~     no id
-/
import FlowTrace.Proofs.Debug.Registry
import FlowTrace.Proofs.Simulation
import Mathlib.Data.List.Forall2

namespace FlowTrace

/-! ## §1. A breakpoint. -/

namespace Breakpoint

/-- The frame and the scopes of the last pause at the breakpoint. -/
def hit (bp : Breakpoint) : Option Record × List Json := (bp.hitFrame, bp.hitScopes)

/-- The breakpoint at its place only. -/
def unarmed (bp : Breakpoint) : Breakpoint := { url := bp.url, line := bp.line }

/-- The breakpoint differs from a newly registered one at most by a hit that was there
before: that of an old breakpoint at its place. -/
structure Renews (old : List Breakpoint) (bp bp' : Breakpoint) : Prop where
  outline : bp.outline = bp'.outline
  hit : bp.hit = bp'.hit ∨
    bp'.hit = (none, []) ∧ ∃ o ∈ old, o.url = bp.url ∧ o.line = bp.line ∧ o.hit = bp.hit

namespace Renews

variable {old : List Breakpoint} {bp bp' : Breakpoint}

theorem refl (bp : Breakpoint) : bp.Renews old bp := ⟨rfl, .inl rfl⟩

theorem url (h : bp.Renews old bp') : bp.url = bp'.url := congrArg Armed.url h.outline
theorem line (h : bp.Renews old bp') : bp.line = bp'.line := congrArg Armed.line h.outline
theorem id (h : bp.Renews old bp') : bp.id = bp'.id := congrArg Armed.id h.outline

/-- Both get an id. -/
theorem assigned (h : bp.Renews old bp') (id : Json) :
    ({ bp with id := id } : Breakpoint).Renews old { bp' with id := id } where
  outline := by
    show Armed.mk id bp.url bp.line = Armed.mk id bp'.url bp'.line
    rw [h.url, h.line]
  hit := h.hit

/-- A hit makes an end of the difference. -/
theorem struck (h : bp.Renews old bp') (frame : Option Record) (scopes : List Json) :
    ({ bp with hitFrame := frame, hitScopes := scopes } : Breakpoint).Renews old
      { bp' with hitFrame := frame, hitScopes := scopes } where
  outline := h.outline
  hit := .inl rfl

end Renews

/-- Without its id an old breakpoint renews the one at its place. -/
theorem renews_unarmed {old : List Breakpoint} {bp : Breakpoint} (hin : bp ∈ old) :
    ({ bp with id := .null } : Breakpoint).Renews old bp.unarmed where
  outline := rfl
  hit := .inr ⟨rfl, bp, hin, rfl, rfl, rfl⟩

end Breakpoint

/-! ## §2. A registry. -/

namespace BreakpointRegistry

/-- The breakpoints, in order, renew those of a registry that was just made. -/
def Renews (old : List Breakpoint) (r r' : BreakpointRegistry) : Prop :=
  List.Forall₂ (Breakpoint.Renews old) r.items r'.items

/-- The wanted places, in order, with no breakpoint armed and none hit. -/
def unarmed (r : BreakpointRegistry) : BreakpointRegistry := ⟨r.items.map Breakpoint.unarmed⟩

/-- What is not armed has no id to forget. -/
theorem clearIds_unarmed (r : BreakpointRegistry) : r.unarmed.clearIds = r.unarmed := by
  unfold clearIds unarmed
  rw [List.map_map]
  rfl

theorem renews_clearIds (r : BreakpointRegistry) : r.clearIds.Renews r.items r.unarmed := by
  show List.Forall₂ _ (r.items.map _) (r.items.map _)
  rw [List.forall₂_map_left_iff, List.forall₂_map_right_iff, List.forall₂_same]
  exact fun bp hin => Breakpoint.renews_unarmed hin

namespace Renews

variable {old : List Breakpoint} {r r' : BreakpointRegistry}

theorem outline (h : r.Renews old r') : r.outline = r'.outline := by
  obtain ⟨items⟩ := r
  obtain ⟨items'⟩ := r'
  change List.Forall₂ _ items items' at h
  show items.map _ = items'.map _
  induction h with
  | nil => rfl
  | cons hbp _ ih => rw [List.map_cons, List.map_cons, hbp.outline, ih]

theorem length (h : r.Renews old r') : r.items.length = r'.items.length := List.Forall₂.length_eq h

theorem index? (h : r.Renews old r') (url line : Json) : r.index? url line = r'.index? url line :=
  index?_congr h.outline url line

theorem item (h : r.Renews old r') (i : Nat) :
    Option.Rel (Breakpoint.Renews old) r.items[i]? r'.items[i]? := by
  obtain ⟨items⟩ := r
  obtain ⟨items'⟩ := r'
  change List.Forall₂ _ items items' at h
  show Option.Rel _ items[i]? items'[i]?
  induction h generalizing i with
  | nil => exact .none
  | cons hbp _ ih =>
    cases i with
    | zero => exact .some hbp
    | succ i => exact ih i

/-- The breakpoints at an index are changed in the same way. -/
theorem modify (h : r.Renews old r') (i : Nat) {f : Breakpoint → Breakpoint}
    (hf : ∀ bp bp', bp.Renews old bp' → (f bp).Renews old (f bp')) :
    (r.modify i f).Renews old (r'.modify i f) := by
  obtain ⟨items⟩ := r
  obtain ⟨items'⟩ := r'
  change List.Forall₂ _ items items' at h
  show List.Forall₂ _ (items.modify i f) (items'.modify i f)
  induction h generalizing i with
  | nil =>
    rw [List.modify_nil]
    exact .nil
  | cons hbp hrest ih =>
    cases i with
    | zero => exact .cons (hf _ _ hbp) hrest
    | succ i => exact .cons hbp (ih i)

/-- Both forget the ids of a connection. -/
theorem clearIds (h : r.Renews old r') : r.clearIds.Renews old r'.clearIds := by
  show List.Forall₂ _ (r.items.map _) (r'.items.map _)
  rw [List.forall₂_map_left_iff, List.forall₂_map_right_iff]
  exact List.Forall₂.imp (fun _ _ hbp => hbp.assigned .null) h

theorem find (h : r.Renews old r') (url line : Json) :
    Act.Agree (Option.Rel (Breakpoint.Renews old)) (r.find url line) (r'.find url line) := by
  unfold BreakpointRegistry.find
  rw [h.index? url line]
  cases r'.index? url line with
  | error f => exact .error f
  | ok i =>
    cases i with
    | none => exact .ok .none
    | some i => exact .ok (h.item i)

/-- A breakpoint is added in the same place. -/
theorem add (h : r.Renews old r') (bp : Breakpoint) :
    Act.Agree (fun x x' => x.1.Renews old x'.1 ∧ x.2 = x'.2) (r.add bp) (r'.add bp) := by
  unfold BreakpointRegistry.add
  rw [h.index? bp.url bp.line]
  cases r'.index? bp.url bp.line with
  | error f => exact .error f
  | ok i =>
    cases i with
    | some i => exact .ok ⟨h, rfl⟩
    | none => exact .ok ⟨List.rel_append h (.cons (.refl bp) .nil), h.length⟩

theorem remove (h : r.Renews old r') (url line : Json) :
    Act.Agree (fun x x' => x.1.Renews old x'.1) (r.remove url line) (r'.remove url line) := by
  unfold BreakpointRegistry.remove
  rw [h.index? url line]
  cases r'.index? url line with
  | error f => exact .error f
  | ok i =>
    cases i with
    | none => exact .ok h
    | some i =>
      refine .ok ?_
      show List.Forall₂ _ (r.items.eraseIdx i) (r'.items.eraseIdx i)
      rw [List.eraseIdx_eq_take_drop_succ, List.eraseIdx_eq_take_drop_succ]
      exact List.rel_append (List.forall₂_take i h) (List.forall₂_drop (i + 1) h)

theorem indexOfId? (h : r.Renews old r') (id : Json) : r.indexOfId? id = r'.indexOfId? id := by
  have hids : r.items.map (·.id) = r'.items.map (·.id) := by
    have houtline := congrArg (List.map Armed.id) h.outline
    rwa [BreakpointRegistry.outline, BreakpointRegistry.outline, List.map_map,
      List.map_map] at houtline
  have hfind (items : List Breakpoint) : items.findIdx? (fun bp => bp.id.same id)
      = (items.map (·.id)).findIdx? (fun v => v.same id) := by
    rw [List.findIdx?_map]
    rfl
  unfold BreakpointRegistry.indexOfId?
  rw [hfind, hfind, hids]

end Renews
end BreakpointRegistry
end FlowTrace
