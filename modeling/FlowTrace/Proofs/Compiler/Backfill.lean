/-
  FlowTrace.Proofs.Compiler.Backfill
  ────────────────────────────────
  **COMPILING DOES NOT DEPEND ON SAVED DESCRIPTORS.**

  Before a generator sees a directive, every descriptor in it is replaced by what
  the catalog holds.  So what a directive compiles to is a matter of the rest of it
  (`Directive.bare`):

      two runs — directives that differ in descriptors only compile alike, to the
                 same statement and the same tree, or fail alike
      again    — the tree that compiling leaves is compiled like any fresh copy of
                 it, at every place, and stays as it is

  The second follows from the first, since the tree that is left differs from the
  one before in its descriptors only.
-/
import FlowTrace.Proofs.Compiler.Totality

namespace FlowTrace

open Outcome

/-! ## §1. Directives without their descriptors. -/

namespace Directive

/-- The directive without the descriptors of its inputs and the types of its outputs. -/
def bare (d : Directive) : Directive :=
  { d with
    inputs := d.inputs.map (fun e => (e.1, { e.2 with config := .null }))
    outputs := d.outputs.map (fun e => (e.1, { e.2 with typeDetails := .null })) }

@[simp] theorem bare_identity (d : Directive) : d.bare.identity = d.identity := rfl

end Directive

/-! ## §2. Restoring. -/

namespace Compiler

variable {c : Compiler}

/-- Restoring overwrites each descriptor, so one that was taken away before is not missed. -/
theorem restoreAll_map {α : Type} (look : String → Except Fault Json) (set : α → Json → α)
    (clear : α → α) (hset : ∀ x v, set (clear x) v = set x v) (xs : List (String × α)) :
    restoreAll look set (xs.map (fun e => (e.1, clear e.2))) = restoreAll look set xs := by
  induction xs with
  | nil => rfl
  | cons x xs ih => simp only [List.map_cons, restoreAll, ih, hset]

theorem restore_bare (d : Directive) : c.restore d.bare = c.restore d := by
  have hinputs : c.restoreInputs d.identity d.bare.inputs
      = c.restoreInputs d.identity d.inputs := by
    simp only [restoreInputs_eq_restoreAll]
    exact restoreAll_map _ (fun item v => { item with config := v })
      (fun item => { item with config := .null }) (fun _ _ => rfl) d.inputs
  have houtputs : c.restoreOutputs d.identity d.bare.outputs
      = c.restoreOutputs d.identity d.outputs := by
    simp only [restoreOutputs_eq_restoreAll]
    exact restoreAll_map _ (fun o v => { o with typeDetails := v })
      (fun o => { o with typeDetails := .null }) (fun _ _ => rfl) d.outputs
  simp only [restore, Directive.bare_identity, hinputs, houtputs]
  rfl

@[simp] theorem restored_bare (d : Directive) : c.restored d.bare = c.restored d := by
  simp [restored, Directive.bare, Directive.identity, Function.comp_def]

@[simp] theorem bare_restored (d : Directive) : (c.restored d).bare = d.bare := by
  simp [restored, Directive.bare, Function.comp_def]

/-! ## §3. Two runs. -/

/-- The record of a directive has nothing of its descriptors. -/
theorem block_bare (d : Directive) (line : Json) (flow : Option Flow) :
    c.block d.bare line flow = c.block d line flow := rfl

theorem compileDirective_bare (d : Directive) (line : Json) (flow : Option Flow) :
    c.compileDirective d.bare line flow = c.compileDirective d line flow := by
  simp only [compileDirective, block_bare, restore_bare]

/-- A directive compiled at an index, as block `index + 1`. -/
def compileAt (c : Compiler) (d : Directive) (index : Json) (flow : Option Flow) :
    Except Fault (String × Directive) := do
  c.compileDirective d (← index.next) flow

/-- **Directives that differ in descriptors only compile alike.** -/
theorem compileAt_congr {d d' : Directive} (h : d.bare = d'.bare) (index : Json)
    (flow : Option Flow) : c.compileAt d index flow = c.compileAt d' index flow := by
  have hline : ∀ line, c.compileDirective d line flow = c.compileDirective d' line flow := by
    intro line
    rw [← compileDirective_bare d, h, compileDirective_bare d']
  simp only [compileAt, hline]

/-- The tree that compiling leaves is the one with the catalog's descriptors. -/
theorem eq_restored_of_compileAt {d r : Directive} {index : Json} {flow : Option Flow}
    {code : String} (h : c.compileAt d index flow = .ok (code, r)) : r = c.restored d := by
  simp only [compileAt, compileDirective, bind_eq_ok, pure_eq_ok] at h
  obtain ⟨line, _, blockCode, _, d', hrestore, chosen, hchoose, _, _, heq⟩ := h
  cases heq
  -- a generator was chosen for the identity, so the identity can be looked up
  have hkey : d.identity.isKey = true := by
    obtain ⟨found, hfound, _⟩ := bind_eq_ok.mp hchoose
    rw [← (restore_keeps hrestore).1]
    exact Catalog.isKey_of_generator hfound
  exact ((restore_eq_ok hkey).mp hrestore).2.2

/-! ## §4. Compiling again. -/

/-- One tree compiled at one place after the other, each time as the time before has left
it: the statements, and the tree at the end. -/
def compileEach (c : Compiler) (d : Directive) :
    List (Json × Option Flow) → Except Fault (List String × Directive)
  | [] => .ok ([], d)
  | (index, flow) :: places => do
      let (code, d) ← c.compileAt d index flow
      let (codes, d) ← compileEach c d places
      pure (code :: codes, d)

/-- What fresh copies of a directive compile to, one copy for each place. -/
def compileCopies (c : Compiler) (d : Directive) :
    List (Json × Option Flow) → Except Fault (List String)
  | [] => .ok []
  | (index, flow) :: places => do
      let (code, _) ← c.compileAt d index flow
      let codes ← compileCopies c d places
      pure (code :: codes)

/-- **A tree that was compiled stays as it is, and compiles like a fresh copy.** -/
theorem compileEach_restored {d fresh : Directive} (h : fresh.bare = d.bare)
    (places : List (Json × Option Flow)) :
    c.compileEach (c.restored d) places
      = (c.compileCopies fresh places).map (fun codes => (codes, c.restored d)) := by
  -- Induction on the places: each compilation leaves the tree that it was given.
  induction places with
  | nil => rfl
  | cons place places ih =>
    obtain ⟨index, flow⟩ := place
    have hsame : c.compileAt (c.restored d) index flow = c.compileAt fresh index flow :=
      compileAt_congr (by rw [bare_restored, h]) index flow
    rw [compileEach, compileCopies, hsame]
    cases hat : c.compileAt fresh index flow with
    | error f => rfl
    | ok result =>
      obtain ⟨code, r⟩ := result
      have hr : r = c.restored d := by
        rw [eq_restored_of_compileAt hat, ← restored_bare, h, restored_bare]
      show (c.compileEach r places >>= _) = ((c.compileCopies fresh places) >>= _).map _
      rw [hr, ih]
      cases c.compileCopies fresh places <;> rfl

/-- **Compilation is independent of saved descriptors.**  Whatever the catalog, the
generators and the options are: directives that differ in descriptors only compile alike,
at every index and in every flow.  The tree that is left has the catalog's descriptors,
null where it has none, and is otherwise the tree that was given.  It can be compiled
again, wherever and as often as one likes: it stays as it is, and the statements (or the
failure) are those of fresh copies, with whatever descriptors. -/
theorem compiled_afresh (c : Compiler) {d d' : Directive} (halike : d.bare = d'.bare)
    (index : Json) (flow : Option Flow) :
    c.compileAt d index flow = c.compileAt d' index flow
      ∧ ∀ code r, c.compileAt d index flow = .ok (code, r) →
          r = c.restored d ∧ r = c.restored d'
            ∧ ∀ (fresh : Directive) (places : List (Json × Option Flow)), fresh.bare = d.bare →
                c.compileEach r places
                  = (c.compileCopies fresh places).map (fun codes => (codes, r)) := by
  have hsame := compileAt_congr (c := c) halike index flow
  refine ⟨hsame, ?_⟩
  intro code r hr
  have hd := eq_restored_of_compileAt hr
  refine ⟨hd, eq_restored_of_compileAt (hsame ▸ hr), ?_⟩
  intro fresh places hfresh
  rw [hd]
  exact compileEach_restored hfresh places

/-- `countDirective` as it was saved with descriptors that the catalog does not give. -/
def staleDirective : Directive :=
  { countDirective with
    inputs := [("n", { value := "7", config := .obj [("valueType", "boolean")] })]
    outputs := [("total", { name := "t", typeDetails := .arr [.int 1] })] }

theorem compiled_afresh_stale :
    staleDirective.bare = countDirective.bare
      ∧ countCompiler.compileAt staleDirective (.int 0) none
          = countCompiler.compileAt countDirective (.int 0) none
      ∧ ∃ code r, countCompiler.compileAt staleDirective (.int 0) none = .ok (code, r)
          ∧ r.inputs.map (fun e => Script.valueType? e.2.config) = [some "number"]
          ∧ countCompiler.compileEach r [(.int 4, none), (.int 0, none)]
              = (countCompiler.compileCopies staleDirective [(.int 4, none), (.int 0, none)]).map
                  (fun codes => (codes, r)) := by
  have halike : staleDirective.bare = countDirective.bare := rfl
  obtain ⟨hsame, hafter⟩ := compiled_afresh countCompiler halike (.int 0) none
  obtain ⟨⟨code, r⟩, hr⟩ := exists_of_toOption
    (show (countCompiler.compileAt staleDirective (.int 0) none).toOption.isSome = true by
      decide +kernel)
  obtain ⟨hrestored, _, hagain⟩ := hafter code r hr
  refine ⟨halike, hsame, code, r, hr, ?_, hagain staleDirective _ rfl⟩
  rw [hrestored]
  decide +kernel

end Compiler
end FlowTrace
