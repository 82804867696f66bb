/-
  FlowTrace.Proofs.Program.Compiling
  ────────────────────────────────
  **HOW THE COMPILE COMMAND ENDS.**

  The command reads its documents, compiles, and only then writes.  How it ends depends on
  the first flaw that it meets (`CompileRequest.flaws`):

      in words     — a file, a text that is not JSON, or a flaw of the catalog or the flow
                     that has words: the words are printed as an error, and the code is 1
      as it comes  — any other flaw passes through the command
      none         — the flow is compiled, and the script and the table are written

  In the first two cases nothing is written and nothing is printed to the output.  In the
  third, too, a fault may pass through: before anything is written if a directive cannot be
  compiled, and in the middle of it if a text cannot be written.

  Main result: `CompileRequest.run_ends`.
-/
import FlowTrace.Program.Compile
import FlowTrace.Proofs.Compiler.Flaws
import FlowTrace.Proofs.Compiler.Totality
import FlowTrace.Proofs.Program.Saving

namespace FlowTrace

open Outcome

/-! ## §1. Faults that pass through. -/

namespace CompileRequest

/-- If the computation fails, it is with a fault that the command does not report. -/
def PassesThrough {α : Type} (x : Except Fault α) : Prop :=
  ∀ f, x = .error f → isReported f = false

namespace PassesThrough

variable {α β : Type} {x : Except Fault α}

theorem ok (a : α) : PassesThrough (.ok a : Except Fault α) := by
  intro f h
  cases h

theorem bind {g : α → Except Fault β} (h : PassesThrough x)
    (hrest : ∀ a, x = .ok a → PassesThrough (g a)) : PassesThrough (x >>= g) := by
  cases x with
  | ok a => exact hrest a rfl
  | error e =>
    intro f hf
    cases hf
    exact h e rfl

theorem map {g : α → β} (h : PassesThrough x) : PassesThrough (x.map g) := by
  cases x with
  | ok a => exact ok _
  | error e =>
    intro f hf
    cases hf
    exact h e rfl

theorem mapM {g : α → Except Fault β} {xs : List α} (h : ∀ a ∈ xs, PassesThrough (g a)) :
    PassesThrough (xs.mapM g) := by
  induction xs with
  | nil => exact ok []
  | cons x xs ih =>
    rw [List.mapM_cons]
    refine (h x List.mem_cons_self).bind (fun _ _ => ?_)
    exact (ih (fun a ha => h a (List.mem_cons_of_mem x ha))).bind (fun _ _ => ok _)

/-- A fault that is not reported is one, or there is none. -/
theorem exists_error (h : PassesThrough x) (hx : ¬ ∃ a, x = .ok a) :
    ∃ f, x = .error f ∧ isReported f = false := by
  cases x with
  | ok a => exact absurd ⟨a, rfl⟩ hx
  | error f => exact ⟨f, rfl, h f rfl⟩

end PassesThrough

open PassesThrough (ok)

theorem passesThrough_toInt (v : Json) : PassesThrough v.toInt := by
  intro f hf
  cases v with
  | float x =>
    simp only [Json.toInt] at hf
    cases htruncate : x.truncate? with
    | some n =>
      rw [htruncate] at hf
      cases hf
    | none =>
      -- not a number, or an infinity
      rw [htruncate] at hf
      simp only at hf
      split at hf <;> cases hf <;> rfl
  | str s =>
    simp only [Json.toInt] at hf
    cases hread : Numeral.readInt? s <;> rw [hread] at hf <;> cases hf
    rfl
  | _ => cases hf <;> rfl

theorem passesThrough_wholeNumber (v : Json) : PassesThrough (Script.wholeNumber v) := by
  refine (passesThrough_toInt v).bind (fun n _ => ?_)
  unfold Json.numeral
  split
  · intro f hf
    cases hf
    rfl
  · exact ok _

theorem passesThrough_blockCall (b : Block) (factory target : String) :
    PassesThrough (Script.blockCall b factory target) :=
  (passesThrough_wholeNumber _).bind fun _ _ =>
    (passesThrough_wholeNumber _).bind fun _ _ => (passesThrough_wholeNumber _).bind fun _ _ => ok _

theorem passesThrough_within (limit : Nat) (v : Json) : PassesThrough (v.within limit) := by
  unfold Json.within
  split
  · intro f hf
    cases hf
    rfl
  · exact ok v

theorem passesThrough_lookup (catalog : Catalog) (identity : Json) :
    PassesThrough (catalog.entry? identity) := by
  cases identity with
  | arr items =>
    intro f hf
    cases hf
    rfl
  | obj fields =>
    intro f hf
    cases hf
    rfl
  | _ => exact ok _

theorem passesThrough_find (gs : Generators) (tag : Json) : PassesThrough (gs.find tag) := by
  unfold Generators.find
  split
  · exact ok none
  · split
    · exact ok _
    · split
      · exact ok none
      · intro f hf
        cases hf
        rfl

theorem passesThrough_restoreAll {α : Type} {look : String → Except Fault Json}
    {set : α → Json → α} (h : ∀ k, PassesThrough (look k)) (xs : List (String × α)) :
    PassesThrough (Compiler.restoreAll look set xs) := by
  induction xs with
  | nil => exact ok []
  | cons x xs ih =>
    rw [Compiler.restoreAll]
    exact (h x.1).bind fun _ _ => ih.bind fun _ _ => ok _

theorem passesThrough_restore (c : Compiler) (d : Directive) : PassesThrough (c.restore d) := by
  have hinput : ∀ k, PassesThrough (c.catalog.addConfig c.limits.copying d.identity (.str k)) := by
    intro k
    refine (passesThrough_lookup _ _).bind (fun e _ => ?_)
    cases e with
    | none => exact ok _
    | some e => exact passesThrough_within _ _
  have houtput : ∀ k, PassesThrough (c.catalog.typeDetails c.limits.copying d.identity (.str k)) := by
    intro k
    refine (passesThrough_lookup _ _).bind (fun e _ => ?_)
    cases e with
    | none => exact ok _
    | some e => exact passesThrough_within _ _
  rw [Compiler.restore, Compiler.restoreInputs_eq_restoreAll,
    Compiler.restoreOutputs_eq_restoreAll]
  exact (passesThrough_restoreAll hinput _).bind fun _ _ =>
    (passesThrough_restoreAll houtput _).bind fun _ _ => ok _

/-- The default generator is registered, so a generator is always found unless a look-up
fails. -/
theorem passesThrough_chooseGenerator {c : Compiler} (hgen : c.generators = .builtin)
    (d : Directive) : PassesThrough (c.chooseGenerator d) := by
  have hcatalog : PassesThrough (c.catalog.generator c.generators d.identity) := by
    refine (passesThrough_lookup _ _).bind (fun e _ => ?_)
    cases e with
    | none => exact ok _
    | some e => exact passesThrough_find _ _
  refine hcatalog.bind (fun g _ => ?_)
  cases g with
  | some g => exact ok _
  | none =>
    refine (passesThrough_find _ _).bind (fun named _ => ?_)
    cases named with
    | some g => exact ok _
    | none =>
      rw [hgen]
      exact ok _

/-! ## §2. Compilation. -/

end CompileRequest

open CompileRequest (PassesThrough)

/-- A directive of a flow that was read was read itself. -/
theorem Flow.exists_document {v : Json} {flow : Flow} (h : Flow.ofDocument v = .ok flow) :
    ∀ d ∈ flow.directives, ∃ w, Directive.ofDocument w = .ok d := by
  have hitems : ∀ {items : List Json} {ds : List Directive}, Flow.directivesOf items = .ok ds →
      ∀ d ∈ ds, ∃ w, Directive.ofDocument w = .ok d := by
    intro items
    induction items with
    | nil =>
      intro ds hds
      cases hds
      simp
    | cons item items ih =>
      intro ds hds
      simp only [Flow.directivesOf, bind_eq_ok, pure_eq_ok] at hds
      obtain ⟨d, hd, rest, hrest, rfl⟩ := hds
      intro x hx
      rcases List.mem_cons.mp hx with rfl | hx
      · exact ⟨item, hd⟩
      · exact ih hrest x hx
  simp only [Flow.ofDocument, bind_eq_ok] at h
  obtain ⟨fields, _, h⟩ := h
  split at h
  · simp [bind_eq_ok, throw_ne_ok] at h
  · split at h
    · simp only [bind_eq_ok, pure_eq_ok] at h
      obtain ⟨ds, hds, rfl⟩ := h
      exact hitems hds
    · exact absurd h throw_ne_ok

namespace Compiler

variable {c : Compiler}

/-- What a directive that was read cannot be compiled for, passes through. -/
theorem passesThrough_compileDirective (hgen : c.generators = .builtin) {d : Directive}
    (hinputs : ∀ e ∈ d.inputs, e.2.value.IsTextOrNull) (line : Json) (flow : Option Flow) :
    PassesThrough (c.compileDirective d line flow) := by
  refine (CompileRequest.passesThrough_blockCall _ _ _).bind (fun blockCode _ => ?_)
  refine (CompileRequest.passesThrough_restore c d).bind (fun d' hd' => ?_)
  refine (CompileRequest.passesThrough_chooseGenerator hgen d').bind (fun chosen hchosen => ?_)
  -- the identity is a key, so the directive has its values still, and the generator gives text
  obtain ⟨fromCatalog, hfrom, _⟩ := bind_eq_ok.mp hchosen
  have hkey := Catalog.isKey_of_generator hfrom
  rw [(restore_keeps hd').1] at hkey
  obtain ⟨_, _, rfl⟩ := (restore_eq_ok hkey).mp hd'
  have hvalues : ∀ e ∈ (c.restored d).inputs, e.2.value.IsTextOrNull := inputs_restored hinputs
  obtain ⟨code, hcode⟩ := Generator.exists_code (chooseGenerator_of_builtin hgen hchosen) hvalues
    blockCode c.options
  obtain ⟨name, g⟩ := chosen
  have hreport : report name (c.restored d).identity (g (c.restored d) blockCode c.options)
      = .ok code := by
    rw [show g (c.restored d) blockCode c.options = .ok code from hcode]
    rfl
  show PassesThrough (report name _ _ >>= _)
  rw [hreport]
  exact CompileRequest.PassesThrough.ok _

theorem passesThrough_statements (hgen : c.generators = .builtin) (flow : Flow)
    {ds : List Directive} (hinputs : ∀ d ∈ ds, ∀ e ∈ d.inputs, e.2.value.IsTextOrNull)
    (number line : Int) : PassesThrough (c.statements flow number line ds) := by
  induction ds generalizing number line with
  | nil => exact CompileRequest.PassesThrough.ok []
  | cons d ds ih =>
    rw [statements]
    refine (passesThrough_compileDirective hgen (hinputs d List.mem_cons_self) _ _).bind ?_
    intro r _
    refine (ih (fun x hx => hinputs x (List.mem_cons_of_mem d hx)) _ _).bind (fun _ _ => ?_)
    exact CompileRequest.PassesThrough.ok _

/-- Directives have statements exactly if each of them compiles at its number. -/
theorem exists_statements (flow : Flow) {ds : List Directive} (number line : Int) :
    (∃ ss, c.statements flow number line ds = .ok ss) ↔
      ∀ (i : Nat) (d : Directive), ds[i]? = some d →
        ∃ r, c.compileDirective d (.int (number + i)) (some flow) = .ok r := by
  constructor
  · rintro ⟨ss, hss⟩ i d hd
    obtain ⟨code, d', hcode, _⟩ := (statements_getElem? hss).2 i d hd
    exact ⟨_, hcode⟩
  · intro h
    induction ds generalizing number line with
    | nil => exact ⟨[], rfl⟩
    | cons d ds ih =>
      obtain ⟨⟨code, d'⟩, hcode⟩ := h 0 d rfl
      have hnext : ∀ (i : Nat) (x : Directive), ds[i]? = some x →
          ∃ r, c.compileDirective x (.int (number + 1 + i)) (some flow) = .ok r := by
        intro i x hx
        obtain ⟨r, hr⟩ := h (i + 1) x hx
        have hnumber : number + ((i + 1 : Nat) : Int) = number + 1 + i := by omega
        rw [hnumber] at hr
        exact ⟨r, hr⟩
      obtain ⟨ss, hss⟩ := ih (number + 1) (line + newlineCount code + 1) hnext
      have hfirst : c.compileDirective d (.int number) (some flow) = .ok (code, d') := by
        simpa using hcode
      exact ⟨_, bind_eq_ok.mpr ⟨_, hfirst, bind_eq_ok.mpr ⟨ss, hss, rfl⟩⟩⟩

/-- **A flow that was read compiles exactly if each of its directives is compilable,** and
what it cannot be compiled for passes through. -/
theorem compileFlow_ends (hgen : c.generators = .builtin) {catalog v : Json}
    (hcatalog : Catalog.ofDocument .builtin catalog = .ok c.catalog) {flow : Flow}
    (hflow : Flow.ofDocument v = .ok flow) (lineOffset : Int) :
    ((∃ out, c.compileFlow flow lineOffset = .ok out) ↔
      ∀ (i : Nat) (d : Directive), flow.directives[i]? = some d → c.Compilable d (i + 1))
      ∧ PassesThrough (c.compileFlow flow lineOffset) := by
  have hread := Flow.exists_document hflow
  constructor
  · have hstatements : (∃ out, c.compileFlow flow lineOffset = .ok out) ↔
        ∃ ss, c.statements flow 1 lineOffset flow.directives = .ok ss := by
      simp only [compileFlow, bind_eq_ok, pure_eq_ok]
      constructor
      · rintro ⟨_, ss, hss, _⟩
        exact ⟨ss, hss⟩
      · rintro ⟨ss, hss⟩
        exact ⟨_, ss, hss, rfl⟩
    -- a flow compiles as far as its statements do
    rw [hstatements, exists_statements]
    refine forall_congr' fun i => forall_congr' fun d => forall_congr' fun hd => ?_
    obtain ⟨w, hw⟩ := hread d (List.mem_of_getElem? hd)
    rw [exists_compileDirective hgen hcatalog (Directive.isSaved_of_ofDocument hw)
      (Directive.inputs_of_ofDocument hw), Int.add_comm]
  · refine (passesThrough_statements hgen flow ?_ 1 lineOffset).bind (fun _ _ => ?_)
    · intro d hd
      obtain ⟨w, hw⟩ := hread d hd
      exact Directive.inputs_of_ofDocument hw
    · exact CompileRequest.PassesThrough.ok _

end Compiler

namespace CompileRequest

/-! ## §3. The documents of a request. -/

variable {r : CompileRequest} {folder : Folder}

/-- The flaws of the catalog that is named. -/
def catalogFlaws (r : CompileRequest) (folder : Folder) : List Fault :=
  match r.catalog with
  | none => []
  | some path =>
      match r.document folder path with
      | .error f => [f]
      | .ok v => Catalog.flaws .builtin v

/-- **The flaws that the command meets before it compiles anything**: those of the flow's
file and its text, of the catalog's file, its text and the catalog, and of the flow. -/
def flaws (r : CompileRequest) (folder : Folder) : List Fault :=
  match r.document folder r.flow with
  | .error f => [f]
  | .ok v => r.catalogFlaws folder ++ Flow.flaws v

/-- What is compiled, and the compiler for it. -/
def load (r : CompileRequest) (folder : Folder) : Except Fault (Compiler × Flow) := do
  let v ← r.document folder r.flow
  let catalog ← r.readCatalog folder
  let flow ← Flow.ofDocument v
  pure ({ catalog := catalog, generators := .builtin, limits := r.limits }, flow)

theorem finds_readCatalog (r : CompileRequest) (folder : Folder) :
    Finds (r.catalogFlaws folder) (r.readCatalog folder) := by
  unfold catalogFlaws readCatalog
  cases r.catalog with
  | none => exact .ok _
  | some path =>
    simp only
    cases r.document folder path with
    | error f => exact .error f []
    | ok v => exact Catalog.finds_ofDocument .builtin v

/-- **The documents are loaded exactly if they have no flaw.** -/
theorem finds_load (r : CompileRequest) (folder : Folder) :
    Finds (r.flaws folder) (r.load folder) := by
  unfold flaws load
  cases r.document folder r.flow with
  | error f => exact .error f []
  | ok v =>
    refine (finds_readCatalog r folder).bind (fun catalog _ => ?_)
    exact (Flow.finds_ofDocument v).bind_ok

/-- What was loaded is a flow that was read, and a compiler with a catalog that was. -/
theorem exists_of_load {c : Compiler} {flow : Flow} (h : r.load folder = .ok (c, flow)) :
    c.generators = .builtin ∧ (∃ catalog, Catalog.ofDocument .builtin catalog = .ok c.catalog)
      ∧ ∃ v, Flow.ofDocument v = .ok flow := by
  simp only [load, bind_eq_ok, pure_eq_ok] at h
  obtain ⟨v, _, catalog, hcatalog, flow', hflow, heq⟩ := h
  cases heq
  refine ⟨rfl, ?_, v, hflow⟩
  unfold readCatalog at hcatalog
  split at hcatalog
  · -- without a catalog there is an empty one
    cases hcatalog
    exact ⟨.obj [], rfl⟩
  · obtain ⟨w, _, hw⟩ := bind_eq_ok.mp hcatalog
    exact ⟨w, hw⟩

/-- The command loads its documents and compiles the flow. -/
theorem compile_eq {lineOffset : Int} (h : r.lineOffset = .int lineOffset) (folder : Folder) :
    r.compile folder = r.load folder >>= fun p => p.1.compileFlow p.2 lineOffset := by
  have hread : ∀ (c : Compiler) (v : Json), c.compileFlowDocument v (.int lineOffset)
      = Flow.ofDocument v >>= fun flow => c.compileFlow flow lineOffset := by
    intro c v
    unfold Compiler.compileFlowDocument
    split <;> rfl
  unfold compile load
  cases r.document folder r.flow with
  | error f => rfl
  | ok v =>
    show r.readCatalog folder >>= _ = (r.readCatalog folder >>= _) >>= _
    cases r.readCatalog folder with
    | error f => rfl
    | ok catalog =>
      show Compiler.compileFlowDocument _ v r.lineOffset = (Flow.ofDocument v >>= _) >>= _
      rw [h, hread]
      cases Flow.ofDocument v <;> rfl

/-! ## §4. Writing. -/

end CompileRequest

/-- What the files of a desk go through leaves what was printed alone. -/
theorem Desk.exec_onFolder {α : Type} (a : Act Folder α) (d : Desk) :
    (Desk.onFolder a).exec d
      = ((a.exec d.folder).1, { d with folder := (a.exec d.folder).2 }) := by
  unfold Desk.onFolder
  rw [Act.exec_within]

namespace CompileRequest

variable {r : CompileRequest} {d : Desk}

/-- The desk after the script was written: to its file, or to the output. -/
def withScript (r : CompileRequest) (script : String) (d : Desk) : Desk :=
  match r.output with
  | some path => { d with folder := ((d.folder.write path script).toOption).getD d.folder }
  | none => { d with out := d.out ++ script }

/-- The desk after the table was written, if it is wanted. -/
def withTable (r : CompileRequest) (table : String) (d : Desk) : Desk :=
  match r.blocks with
  | some path => { d with folder := ((d.folder.write path table).toOption).getD d.folder }
  | none => d

/-- **The output paths can be written**: they lead to files, and the one of the table still
does when the script is written. -/
structure CanWrite (r : CompileRequest) (d : Desk) : Prop where
  script : ∀ path, r.output = some path → ∃ name, d.folder.LeadsTo path name
  table : ∀ path script, r.blocks = some path →
    ∃ name, (r.withScript script d).folder.LeadsTo path name

/-- The texts of a compiled flow can be written where they are wanted: no lone half is in
the script or the table, and the table has a text. -/
structure Fits (r : CompileRequest) (out : CompiledFlow) : Prop where
  script : r.output.isSome = true → CodePoint.hasHalf (out.source ++ "\n") = false
  table : r.blocks.isSome = true →
    ∃ table, out.blocks.toText r.limits.recording = .ok table ∧ CodePoint.hasHalf table = false

/-- **What the command leaves when the flow was compiled.**  The file of the script holds the
source and a newline unless the table was written over it, the file of the table holds the
text of the table, no other file has changed, and the script is printed if it has no file. -/
structure Written (r : CompileRequest) (out : CompiledFlow) (d d' : Desk) : Prop where
  script : ∀ path name, r.output = some path → d.folder.LeadsTo path name →
    (∀ path', r.blocks = some path' →
      ¬ (r.withScript (out.source ++ "\n") d).folder.LeadsTo path' name) →
    d'.folder.text? name = some (out.source ++ "\n")
  table : ∀ path name, r.blocks = some path →
    (r.withScript (out.source ++ "\n") d).folder.LeadsTo path name →
    ∃ table, out.blocks.toText r.limits.recording = .ok table ∧ d'.folder.text? name = some table
  others : ∀ name, (∀ path, r.output = some path → ¬ d.folder.LeadsTo path name) →
    (∀ path, r.blocks = some path →
      ¬ (r.withScript (out.source ++ "\n") d).folder.LeadsTo path name) →
    d'.folder.text? name = d.folder.text? name
  out : d'.out = if r.output.isSome then d.out else d.out ++ (out.source ++ "\n")
  err : d'.err = d.err

theorem withScript_of_leadsTo {path name : String} (houtput : r.output = some path)
    (hname : d.folder.LeadsTo path name) (script : String) :
    r.withScript script d = { d with folder := d.folder.stored name script } := by
  unfold withScript
  rw [houtput]
  simp only
  rw [hname.write]
  rfl

theorem withTable_of_leadsTo {path name : String} (hblocks : r.blocks = some path)
    (hname : d.folder.LeadsTo path name) (table : String) :
    r.withTable table d = { d with folder := d.folder.stored name table } := by
  unfold withTable
  rw [hblocks]
  simp only
  rw [hname.write]
  rfl

/-- A file that the script does not go to stays as it is. -/
theorem text?_withScript (h : r.CanWrite d) {name : String}
    (hother : ∀ path, r.output = some path → ¬ d.folder.LeadsTo path name) (script : String) :
    (r.withScript script d).folder.text? name = d.folder.text? name := by
  cases houtput : r.output with
  | none =>
    unfold withScript
    rw [houtput]
  | some path =>
    obtain ⟨name', hname'⟩ := h.script path houtput
    rw [withScript_of_leadsTo houtput hname', Folder.text?_stored, if_neg]
    rintro rfl
    exact hother path houtput hname'

/-- A file that the table does not go to stays as it is. -/
theorem text?_withTable {name : String}
    (hleads : ∀ path, r.blocks = some path → ∃ name', d.folder.LeadsTo path name')
    (hother : ∀ path, r.blocks = some path → ¬ d.folder.LeadsTo path name) (table : String) :
    (r.withTable table d).folder.text? name = d.folder.text? name := by
  cases hblocks : r.blocks with
  | none =>
    unfold withTable
    rw [hblocks]
  | some path =>
    obtain ⟨name', hname'⟩ := hleads path hblocks
    rw [withTable_of_leadsTo hblocks hname', Folder.text?_stored, if_neg]
    rintro rfl
    exact hother path hblocks hname'

/-- Only the script is printed, and only if it has no file. -/
theorem printed_withTable (r : CompileRequest) (d : Desk) (script table : String) :
    (r.withTable table (r.withScript script d)).out
        = (if r.output.isSome then d.out else d.out ++ script)
      ∧ (r.withTable table (r.withScript script d)).err = d.err := by
  have htable : ∀ x : Desk,
      (r.withTable table x).out = x.out ∧ (r.withTable table x).err = x.err := by
    intro x
    unfold withTable
    split <;> exact ⟨rfl, rfl⟩
  rw [(htable _).1, (htable _).2]
  unfold withScript
  cases r.output with
  | none => exact ⟨rfl, rfl⟩
  | some path => exact ⟨rfl, rfl⟩

/-- What cannot be made of a table passes through. -/
theorem passesThrough_toText (room : Nat) (t : BlockTable) : PassesThrough (t.toText room) := by
  have hrecord : ∀ b : Block, PassesThrough (b.toDocument room) := by
    intro b
    exact PassesThrough.mapM (fun f _ => (passesThrough_within _ _).map)
  have hdocument : PassesThrough (t.toDocument room) :=
    (PassesThrough.mapM (fun e _ => (hrecord e.2).map)).map
  refine hdocument.bind (fun v _ => ?_)
  cases v.hasOverlong with
  | true =>
    intro f hf
    cases hf
    rfl
  | false => exact PassesThrough.ok _

theorem exec_saveScript (h : r.CanWrite d) {out : CompiledFlow}
    (hfits : r.output.isSome = true → CodePoint.hasHalf (out.source ++ "\n") = false) :
    (r.saveScript out).exec d = (.ok (), r.withScript (out.source ++ "\n") d) := by
  unfold saveScript
  cases houtput : r.output with
  | none =>
    unfold withScript
    rw [houtput]
    rfl
  | some path =>
    obtain ⟨name, hname⟩ := h.script path houtput
    have hhalf := hfits (by rw [houtput]; rfl)
    rw [withScript_of_leadsTo houtput hname]
    simp only
    rw [Desk.exec_onFolder, hname.exec_save, hhalf]
    rfl

theorem exec_saveScript_error (h : r.CanWrite d) {out : CompiledFlow}
    (hfits : ¬ (r.output.isSome = true → CodePoint.hasHalf (out.source ++ "\n") = false)) :
    ∃ d', (r.saveScript out).exec d = (.error .unwritable, d') := by
  unfold saveScript
  cases houtput : r.output with
  | none => exact absurd (by rw [houtput]; simp) hfits
  | some path =>
    obtain ⟨name, hname⟩ := h.script path houtput
    have hhalf : CodePoint.hasHalf (out.source ++ "\n") = true := by
      cases hcase : CodePoint.hasHalf (out.source ++ "\n") with
      | true => rfl
      | false => exact absurd (fun _ => hcase) hfits
    simp only
    rw [Desk.exec_onFolder, hname.exec_save, hhalf]
    exact ⟨_, rfl⟩

theorem exec_saveBlocks (h : r.CanWrite d) {out : CompiledFlow} (hfits : r.Fits out) :
    ∃ table, (r.blocks.isSome = true → out.blocks.toText r.limits.recording = .ok table)
      ∧ (r.saveBlocks out).exec (r.withScript (out.source ++ "\n") d)
        = (.ok (), r.withTable table (r.withScript (out.source ++ "\n") d)) := by
  unfold saveBlocks
  cases hblocks : r.blocks with
  | none =>
    refine ⟨"", by simp, ?_⟩
    unfold withTable
    rw [hblocks]
    rfl
  | some path =>
    obtain ⟨table, htable, hhalf⟩ := hfits.table (by rw [hblocks]; rfl)
    obtain ⟨name, hname⟩ := h.table path (out.source ++ "\n") hblocks
    refine ⟨table, fun _ => htable, ?_⟩
    rw [withTable_of_leadsTo hblocks hname]
    simp only
    rw [Desk.exec_onFolder, hname.exec_writeTable, htable]
    simp only
    rw [hhalf]
    rfl

theorem exec_saveBlocks_error (h : r.CanWrite d) {out : CompiledFlow}
    (hfits : ¬ (r.blocks.isSome = true →
      ∃ table, out.blocks.toText r.limits.recording = .ok table ∧ CodePoint.hasHalf table = false)) :
    ∃ f d', (r.saveBlocks out).exec (r.withScript (out.source ++ "\n") d) = (.error f, d')
      ∧ isReported f = false := by
  unfold saveBlocks
  cases hblocks : r.blocks with
  | none => exact absurd (by rw [hblocks]; simp) hfits
  | some path =>
    obtain ⟨name, hname⟩ := h.table path (out.source ++ "\n") hblocks
    simp only
    rw [Desk.exec_onFolder, hname.exec_writeTable]
    cases htext : out.blocks.toText r.limits.recording with
    | error f => exact ⟨f, _, rfl, passesThrough_toText _ _ f htext⟩
    | ok table =>
      have hhalf : CodePoint.hasHalf table = true := by
        cases hcase : CodePoint.hasHalf table with
        | true => rfl
        | false => exact absurd (fun _ => ⟨table, htext, hcase⟩) hfits
      simp only
      rw [hhalf]
      exact ⟨_, _, rfl, rfl⟩

/-- Both texts are where they belong. -/
theorem written_withTable (h : r.CanWrite d) {out : CompiledFlow} {table : String}
    (htable : r.blocks.isSome = true → out.blocks.toText r.limits.recording = .ok table) :
    r.Written out d (r.withTable table (r.withScript (out.source ++ "\n") d)) where
  script := by
    intro path name houtput hname hother
    rw [text?_withTable (h.table · _) hother, withScript_of_leadsTo houtput hname,
      Folder.text?_stored, if_pos rfl]
  table := by
    intro path name hblocks hname
    refine ⟨table, htable (by rw [hblocks]; rfl), ?_⟩
    rw [withTable_of_leadsTo hblocks hname, Folder.text?_stored, if_pos rfl]
  others := by
    intro name hother hother'
    rw [text?_withTable (h.table · _) hother', text?_withScript h hother]
  out := (printed_withTable r d _ table).1
  err := (printed_withTable r d _ table).2

/-! ## §5. How the command ends. -/

theorem exec_run (r : CompileRequest) (d : Desk) :
    r.run.exec d =
      match r.compile d.folder with
      | .ok out => (do r.saveScript out; r.saveBlocks out; return 0 : Act Desk Int).exec d
      | .error f =>
          if isReported f then
            (.ok 1, { d with err := d.err ++ "error: " ++ f.message ++ "\n" })
          else (.error f, d) := by
  unfold run
  rw [Act.exec_bind_ok (Act.exec_get d)]
  cases r.compile d.folder with
  | ok out => rfl
  | error f =>
    simp only
    split <;> rfl

/-- A flow that was compiled is written, unless one of its texts cannot be. -/
theorem exec_run_of_compiled (h : r.CanWrite d) {out : CompiledFlow}
    (hout : r.compile d.folder = .ok out) :
    (r.Fits out → ∃ d', r.run.exec d = (.ok 0, d') ∧ r.Written out d d')
      ∧ (¬ r.Fits out → ∃ f d', r.run.exec d = (.error f, d') ∧ isReported f = false) := by
  rw [exec_run, hout]
  constructor
  · intro hfits
    obtain ⟨table, htable, hblocks⟩ := exec_saveBlocks h hfits
    refine ⟨_, ?_, written_withTable h htable⟩
    simp only
    rw [Act.exec_bind_ok (exec_saveScript h hfits.script), Act.exec_bind_ok hblocks]
    rfl
  · intro hfits
    -- the script is written first, so it may be there already when the table fails
    by_cases hscript : r.output.isSome = true → CodePoint.hasHalf (out.source ++ "\n") = false
    · obtain ⟨f, d', hblocks, hf⟩ := exec_saveBlocks_error h (fun htable => hfits ⟨hscript, htable⟩)
      refine ⟨f, d', ?_, hf⟩
      simp only
      rw [Act.exec_bind_ok (exec_saveScript h hscript), Act.exec_bind_error hblocks]
    · obtain ⟨d', hsave⟩ := exec_saveScript_error h hscript
      exact ⟨.unwritable, d', Act.exec_bind_error hsave, rfl⟩

/-- **HOW THE COMPILE COMMAND ENDS.**  Let its output paths be ones that can be written.
* If the first flaw of the documents is one that the command reports, it prints the flaw as
  an error and its code is 1; no file has changed, and nothing was printed to the output.
* If the first flaw is another one, it passes through, and nothing has changed at all.
* If there is no flaw, the documents are loaded.  If then every directive is compilable, the
  flow is compiled; where its texts can be written they are, and the code is 0, and where
  one cannot a fault passes through.  If a directive is not compilable, a fault passes
  through and nothing has changed.
-/
theorem run_ends {lineOffset : Int} (hoffset : r.lineOffset = .int lineOffset)
    (hwrite : r.CanWrite d) :
    (∀ f rest, r.flaws d.folder = f :: rest → r.run.exec d =
        if isReported f then
          (.ok 1, { d with err := d.err ++ "error: " ++ f.message ++ "\n" })
        else (.error f, d))
      ∧ (r.flaws d.folder = [] → ∃ c flow, r.load d.folder = .ok (c, flow) ∧
        ((∀ (i : Nat) (x : Directive), flow.directives[i]? = some x → c.Compilable x (i + 1)) →
          ∃ out, c.compileFlow flow lineOffset = .ok out
            ∧ (r.Fits out → ∃ d', r.run.exec d = (.ok 0, d') ∧ r.Written out d d')
            ∧ (¬ r.Fits out → ∃ f d', r.run.exec d = (.error f, d') ∧ isReported f = false))
        ∧ ((¬ ∀ (i : Nat) (x : Directive), flow.directives[i]? = some x →
            c.Compilable x (i + 1)) →
          ∃ f, r.run.exec d = (.error f, d) ∧ isReported f = false)) := by
  have hcompile := compile_eq hoffset d.folder
  have hfinds := finds_load r d.folder
  constructor
  · intro f rest hflaws
    -- loading fails with the first flaw, and so does the compilation
    rw [hflaws] at hfinds
    rw [hfinds.eq_error] at hcompile
    rw [exec_run, hcompile]
    rfl
  · intro hflaws
    obtain ⟨⟨c, flow⟩, hload⟩ := hfinds.exists_ok_iff.mpr hflaws
    obtain ⟨hgen, ⟨catalog, hcatalog⟩, v, hflow⟩ := exists_of_load hload
    rw [hload] at hcompile
    obtain ⟨hiff, hpasses⟩ := Compiler.compileFlow_ends hgen hcatalog hflow lineOffset
    refine ⟨c, flow, hload, ?_, ?_⟩
    · intro hall
      obtain ⟨out, hout⟩ := hiff.mpr hall
      exact ⟨out, hout, exec_run_of_compiled hwrite (hcompile.trans hout)⟩
    · intro hnot
      -- a directive that is not compilable fails with an error the command does not report
      obtain ⟨f, hf, hreported⟩ := hpasses.exists_error (mt hiff.mp hnot)
      refine ⟨f, ?_, hreported⟩
      rw [exec_run, hcompile.trans hf]
      simp [hreported]

/-- A request to write the script to a file. -/
def smallRequest : CompileRequest := { flow := "f.json", output := some "o.js" }

/-- A desk with a text for its flow. -/
def smallDesk (text : String) : Desk := { folder := { files := [("f.json", text)] } }

theorem leadsTo_smallDesk {text : String}
    (h : ((smallDesk text).folder.find "o.js").toOption = some (.vacant "o.js")) :
    (smallDesk text).folder.LeadsTo "o.js" "o.js" := by
  cases hfind : (smallDesk text).folder.find "o.js" with
  | error f =>
    rw [hfind] at h
    cases h
  | ok place =>
    rw [hfind] at h
    exact .inr (hfind.trans (congrArg Except.ok (Option.some.inj h)))

theorem canWrite_smallDesk {text : String}
    (h : (smallDesk text).folder.LeadsTo "o.js" "o.js") :
    smallRequest.CanWrite (smallDesk text) where
  script := by
    rintro _ ⟨⟩
    exact ⟨"o.js", h⟩
  table := by
    rintro _ _ ⟨⟩

/-- The text of a flow without directives. -/
def emptyFlow : String := "\x7b\"name\": \"m\"\x7d"

theorem run_ends_small :
    (∃ d', smallRequest.run.exec (smallDesk "\x7b\x7d") = (.ok 1, d')
        ∧ d'.err = "error: flow missing name\n" ∧ d'.out = "")
      ∧ ∃ d', smallRequest.run.exec (smallDesk emptyFlow) = (.ok 0, d')
        ∧ d'.folder.text? "o.js" = some "\n" := by
  have hnameless : (smallDesk "\x7b\x7d").folder.LeadsTo "o.js" "o.js" :=
    leadsTo_smallDesk (by decide +kernel)
  have hempty : (smallDesk emptyFlow).folder.LeadsTo "o.js" "o.js" :=
    leadsTo_smallDesk (by decide +kernel)
  constructor
  · obtain ⟨hflawed, _⟩ := run_ends (r := smallRequest) rfl (canWrite_smallDesk hnameless)
    have hfirst : (smallRequest.flaws (smallDesk "\x7b\x7d").folder).head?.map
        (fun f => (isReported f, f.message)) = some (true, "flow missing name") := by
      decide +kernel
    obtain ⟨f, hf, hshown⟩ := Option.map_eq_some_iff.mp hfirst
    obtain ⟨rest, hflaws⟩ := List.head?_eq_some_iff.mp hf
    obtain ⟨hreported, hmessage⟩ := Prod.mk.inj hshown
    have hrun := hflawed f rest hflaws
    rw [if_pos hreported, hmessage] at hrun
    exact ⟨_, hrun, rfl, rfl⟩
  · obtain ⟨_, hclean⟩ := run_ends (r := smallRequest) rfl (canWrite_smallDesk hempty)
    have hnone : smallRequest.flaws (smallDesk emptyFlow).folder = [] :=
      List.isEmpty_iff.mp (by decide +kernel)
    obtain ⟨c, flow, hload, hcompiles, _⟩ := hclean hnone
    have hdirectives : ((smallRequest.load (smallDesk emptyFlow).folder).toOption.map
        (fun p => p.2.directives.length)) = some 0 := by
      decide +kernel
    rw [hload] at hdirectives
    have hnil : flow.directives = [] := List.length_eq_zero_iff.mp (Option.some.inj hdirectives)
    obtain ⟨out, hout, hwritten, _⟩ := hcompiles (by simp [hnil])
    have hsource : out.source = "" := by
      simp only [Compiler.compileFlow, hnil, Compiler.statements] at hout
      cases hout
      rfl
    have hfits : smallRequest.Fits out :=
      ⟨fun _ => by rw [hsource]; decide +kernel, fun h => absurd h (by decide)⟩
    obtain ⟨d', hrun, hd'⟩ := hwritten hfits
    have hnoTable : ∀ path, smallRequest.blocks ≠ some path := by
      intro path
      simp [smallRequest]
    have hheld := hd'.script "o.js" "o.js" rfl hempty
      (fun path hpath => absurd hpath (hnoTable path))
    rw [hsource] at hheld
    exact ⟨d', hrun, hheld⟩

/-- A flow that is a list has a flaw without words: the command ends without a code. -/
theorem list_passes_through :
    ¬ ∃ code, (smallRequest.run.exec (smallDesk "[]")).1 = .ok code := by
  have hlist : (smallRequest.run.exec (smallDesk "[]")).1.toOption = none := by decide +kernel
  rintro ⟨code, hcode⟩
  rw [hcode] at hlist
  cases hlist

end CompileRequest
end FlowTrace
