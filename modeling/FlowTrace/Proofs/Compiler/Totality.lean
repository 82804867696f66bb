/-
  FlowTrace.Proofs.Compiler.Totality
  ────────────────────────────────
  **WHICH SAVED DIRECTIVES COMPILE.**

  A directive that was read has texts for its input values, so neither of the
  built-in generators can fail on it.  What is left to go wrong are the steps
  around them:

      look-ups     — the identity and the declared generator have to be keys,
                     and a key or a generator may be a list or an object
      descriptors  — the catalog's descriptors are copied, to a depth
      numbers      — the numbers of the block call have to be written

  `compiles_iff` says that these are all: a directive compiles exactly if it
  passes them, whatever its inputs hold and whatever generator it names.
-/
import FlowTrace.Proofs.Block.Rescan

namespace FlowTrace

open Outcome

/-! ## §1. Generators on saved inputs. -/

theorem Input.isTextOrNull_of_ofDocument {v : Json} {item : Input}
    (h : Input.ofDocument v = .ok item) : item.value.IsTextOrNull := by
  simp only [Input.ofDocument, bind_eq_ok, pure_eq_ok] at h
  obtain ⟨fields, _, rfl⟩ := h
  simp only [Input.valueOfDocument]
  split
  · exact Or.inr ⟨_, rfl⟩
  · exact Or.inl rfl
  · exact Or.inr ⟨_, rfl⟩

/-- What a reader gives at the keys of a map has the property that the reader
guarantees. -/
theorem Fields.forall_of_mapM {α β : Type} {f : α → Except Fault β} {p : β → Prop}
    (hf : ∀ a b, f a = .ok b → p b) {xs : List (String × α)} {ys : List (String × β)}
    (h : Fields.mapM f xs = .ok ys) : ∀ e ∈ ys, p e.2 := by
  induction xs generalizing ys with
  | nil =>
    cases h
    simp
  | cons x xs ih =>
    obtain ⟨k, a⟩ := x
    simp only [Fields.mapM, bind_eq_ok, pure_eq_ok] at h
    obtain ⟨b, hb, rest, hrest, rfl⟩ := h
    intro e he
    rcases List.mem_cons.mp he with rfl | he
    · exact hf a b hb
    · exact ih hrest e he

/-- The values of a directive that was read are texts or null. -/
theorem Directive.inputs_of_ofDocument {v : Json} {d : Directive}
    (h : Directive.ofDocument v = .ok d) : ∀ e ∈ d.inputs, e.2.value.IsTextOrNull := by
  simp only [Directive.ofDocument, bind_eq_ok] at h
  obtain ⟨fields, _, h⟩ := h
  split at h
  · simp [bind_eq_ok, throw_ne_ok] at h
  · split at h
    · split at h
      · simp only [bind_eq_ok, pure_eq_ok] at h
        obtain ⟨inputs, hinputs, _, _, _, _, _, _, rfl⟩ := h
        exact Fields.forall_of_mapM (fun _ _ => Input.isTextOrNull_of_ofDocument) hinputs
      · exact absurd h throw_ne_ok
    · exact absurd h throw_ne_ok

namespace Script

theorem exists_input {item : Input} (h : item.value.IsTextOrNull) : ∃ v, input item = .ok v := by
  unfold input
  split
  · exact ⟨_, rfl⟩
  split
  · exact ⟨_, rfl⟩
  split
  · exact ⟨_, rfl⟩
  rcases h with h | ⟨s, h⟩ <;> exact ⟨_, by rw [literal, h]; rfl⟩

theorem exists_params {inputs : List (String × Input)}
    (h : ∀ e ∈ inputs, e.2.value.IsTextOrNull) : ∃ s, params inputs = .ok s := by
  have hpairs : ∃ ps, pairs inputs = .ok ps := by
    induction inputs with
    | nil => exact ⟨_, rfl⟩
    | cons e rest ih =>
      obtain ⟨k, item⟩ := e
      obtain ⟨v, hv⟩ := exists_input (h _ List.mem_cons_self)
      obtain ⟨vs, hvs⟩ := ih (fun x hx => h x (List.mem_cons_of_mem _ hx))
      exact ⟨_, by rw [pairs, hv, hvs]; rfl⟩
  obtain ⟨ps, hps⟩ := hpairs
  exact ⟨_, by rw [params, hps]; rfl⟩

end Script

/-- The built-in generators give a statement for every directive whose values are
texts or null. -/
theorem Generator.exists_code {g : Generator} (hg : g = standard ∨ g = verbatim) {d : Directive}
    (h : ∀ e ∈ d.inputs, e.2.value.IsTextOrNull) (blockCode : String) (options : Options) :
    ∃ code, g d blockCode options = .ok code := by
  rcases hg with rfl | rfl
  · obtain ⟨params, hparams⟩ := Script.exists_params h
    exact ⟨_, by rw [standard, hparams]; rfl⟩
  · exact ⟨_, rfl⟩

/-! ## §2. Descriptors. -/

/-- A copy succeeds exactly if the value does not lie too deep. -/
theorem Json.within_eq_ok {limit : Nat} {v w : Json} :
    v.within limit = .ok w ↔ v.depth ≤ limit ∧ v = w := by
  unfold within
  split
  · next h => simp [Nat.not_le.mpr h]
  · next h => simp [Nat.le_of_not_lt h]

namespace Catalog

/-- The descriptor of an input as the catalog holds it, null when it has none. -/
def inputEntry (c : Catalog) (identity : Json) (key : String) : Json :=
  match c.entry? identity with
  | .ok (some e) => Json.field e.inputs key
  | _ => .null

/-- The type of a result field as the catalog holds it, null when it has none. -/
def outputEntry (c : Catalog) (identity : Json) (key : String) : Json :=
  match c.entry? identity with
  | .ok (some e) => Json.field e.outputs key
  | _ => .null

variable {c : Catalog}

/-- An identity that is a key can be asked for. -/
theorem exists_entry? {identity : Json} (h : identity.isKey = true) :
    ∃ e, c.entry? identity = .ok e := by
  cases identity with
  | str s => exact ⟨_, rfl⟩
  | arr items => cases h
  | obj fields => cases h
  | _ => exact ⟨none, rfl⟩

theorem entry?_of_not_isKey {identity : Json} (h : identity.isKey = false) :
    c.entry? identity = .error .badKind := by
  cases identity with
  | arr items => rfl
  | obj fields => rfl
  | _ => cases h

theorem isKey_of_generator {gs : Generators} {identity : Json} {g : Option Generator}
    (h : c.generator gs identity = .ok g) : identity.isKey = true := by
  cases hkey : identity.isKey with
  | true => rfl
  | false =>
    rw [generator, entry?_of_not_isKey hkey] at h
    cases h

theorem addConfig_eq {identity : Json} (h : identity.isKey = true) (room : Nat) (key : String) :
    c.addConfig room identity (.str key) = (c.inputEntry identity key).within room := by
  obtain ⟨e, he⟩ := exists_entry? (c := c) h
  rw [addConfig, inputEntry, he]
  cases e <;> rfl

theorem typeDetails_eq {identity : Json} (h : identity.isKey = true) (room : Nat) (key : String) :
    c.typeDetails room identity (.str key) = (c.outputEntry identity key).within room := by
  obtain ⟨e, he⟩ := exists_entry? (c := c) h
  rw [typeDetails, outputEntry, he]
  cases e <;> rfl

end Catalog

namespace Compiler

variable {c : Compiler} {d : Directive}

/-- Replacing a field of every item by what the catalog holds at its key, in order. -/
def restoreAll {α : Type} (look : String → Except Fault Json) (set : α → Json → α) :
    List (String × α) → Except Fault (List (String × α))
  | [] => .ok []
  | (k, x) :: rest => do
      let v ← look k
      let xs ← restoreAll look set rest
      pure ((k, set x v) :: xs)

theorem restoreInputs_eq_restoreAll (identity : Json) (inputs : List (String × Input)) :
    c.restoreInputs identity inputs
      = restoreAll (fun k => c.catalog.addConfig c.limits.copying identity (.str k))
          (fun item v => { item with config := v }) inputs := by
  induction inputs with
  | nil => rfl
  | cons e rest ih => rw [restoreInputs, restoreAll, ih]

theorem restoreOutputs_eq_restoreAll (identity : Json) (outputs : List (String × Output)) :
    c.restoreOutputs identity outputs
      = restoreAll (fun k => c.catalog.typeDetails c.limits.copying identity (.str k))
          (fun o v => { o with typeDetails := v }) outputs := by
  induction outputs with
  | nil => rfl
  | cons e rest ih => rw [restoreOutputs, restoreAll, ih]

/-- Restoring succeeds exactly if every descriptor can be copied. -/
theorem restoreAll_eq_ok {α : Type} {room : Nat} {entry : String → Json} {set : α → Json → α}
    {xs ys : List (String × α)} :
    restoreAll (fun k => (entry k).within room) set xs = .ok ys ↔
      (∀ e ∈ xs, (entry e.1).depth ≤ room)
        ∧ ys = xs.map (fun e => (e.1, set e.2 (entry e.1))) := by
  induction xs generalizing ys with
  | nil => simp [restoreAll, eq_comm]
  | cons x xs ih =>
    simp only [restoreAll, bind_eq_ok, pure_eq_ok, Json.within_eq_ok, ih, List.forall_mem_cons,
      List.map_cons]
    constructor
    · rintro ⟨_, ⟨hdepth, rfl⟩, _, ⟨hrest, rfl⟩, rfl⟩
      exact ⟨⟨hdepth, hrest⟩, rfl⟩
    · rintro ⟨⟨hdepth, hrest⟩, rfl⟩
      exact ⟨_, ⟨hdepth, rfl⟩, _, ⟨hrest, rfl⟩, rfl⟩

/-- The directive with what the catalog holds in place of its own descriptors. -/
def restored (c : Compiler) (d : Directive) : Directive :=
  { d with
    inputs := d.inputs.map (fun e =>
      (e.1, { e.2 with config := c.catalog.inputEntry d.identity e.1 }))
    outputs := d.outputs.map (fun e =>
      (e.1, { e.2 with typeDetails := c.catalog.outputEntry d.identity e.1 })) }

@[simp] theorem restored_identity : (c.restored d).identity = d.identity := rfl

@[simp] theorem restored_generator : (c.restored d).generator = d.generator := rfl

/-- Descriptors do not change the values. -/
theorem inputs_restored (h : ∀ e ∈ d.inputs, e.2.value.IsTextOrNull) :
    ∀ e ∈ (c.restored d).inputs, e.2.value.IsTextOrNull := by
  intro e he
  obtain ⟨x, hx, rfl⟩ := List.mem_map.mp he
  exact h x hx

/-- Restoring a directive that is known by a key. -/
theorem restore_eq_ok (h : d.identity.isKey = true) {d' : Directive} :
    c.restore d = .ok d' ↔
      (∀ e ∈ d.inputs, (c.catalog.inputEntry d.identity e.1).depth ≤ c.limits.copying)
        ∧ (∀ e ∈ d.outputs, (c.catalog.outputEntry d.identity e.1).depth ≤ c.limits.copying)
        ∧ d' = c.restored d := by
  simp only [restore, restoreInputs_eq_restoreAll, restoreOutputs_eq_restoreAll,
    Catalog.addConfig_eq h, Catalog.typeDetails_eq h, bind_eq_ok, pure_eq_ok, restoreAll_eq_ok]
  constructor
  · rintro ⟨_, ⟨hin, rfl⟩, _, ⟨hout, rfl⟩, rfl⟩
    exact ⟨hin, hout, rfl⟩
  · rintro ⟨hin, hout, rfl⟩
    exact ⟨_, ⟨hin, rfl⟩, _, ⟨hout, rfl⟩, rfl⟩

/-- Restoring leaves the identity and the declared generator as they are. -/
theorem restore_keeps {d' : Directive} (h : c.restore d = .ok d') :
    d'.identity = d.identity ∧ d'.generator = d.generator := by
  simp only [restore, bind_eq_ok, pure_eq_ok] at h
  obtain ⟨_, _, _, _, rfl⟩ := h
  exact ⟨rfl, rfl⟩

end Compiler

/-! ## §3. The choice of a generator. -/

namespace Generators

variable {gs : Generators} {tag : Json}

theorem isKey_of_contains {found : Bool} (h : gs.contains tag = .ok found) : tag.isKey = true := by
  cases tag with
  | arr items => cases h
  | obj fields => cases h
  | _ => rfl

/-- A tag can be looked up exactly if it is not given or is a key. -/
theorem exists_find : (∃ g, gs.find tag = .ok g) ↔ (tag.truthy = true → tag.isKey = true) := by
  by_cases htruthy : tag.truthy = true
  · simp only [find, htruthy, Bool.not_true, Bool.false_eq_true, if_false, true_implies]
    cases tag <;> simp [Json.isKey]
  · simp [find, htruthy]

end Generators

/-- Every generator that a checked catalog names can be looked up. -/
theorem Catalog.exists_find_of_checkGenerators {gs : Generators}
    {es : List (String × CatalogEntry)} (h : checkGenerators gs es = .ok ()) :
    ∀ e ∈ es, ∃ g, gs.find e.2.generator = .ok g := by
  induction es with
  | nil => simp
  | cons x es ih =>
    obtain ⟨k, entry⟩ := x
    have hsplit : (∃ g, gs.find entry.generator = .ok g) ∧ checkGenerators gs es = .ok () := by
      rw [Generators.exists_find]
      by_cases htruthy : entry.generator.truthy = true
      · simp only [checkGenerators, htruthy, if_true, bind_eq_ok] at h
        obtain ⟨found, hfound, hrest⟩ := h
        refine ⟨fun _ => Generators.isKey_of_contains hfound, ?_⟩
        split at hrest
        · obtain ⟨_, hthrow, _⟩ := bind_eq_ok.mp hrest
          exact absurd hthrow throw_ne_ok
        · exact hrest
      · simp only [checkGenerators, htruthy] at h
        exact ⟨fun hgiven => absurd hgiven htruthy, h⟩
    intro e he
    rcases List.mem_cons.mp he with rfl | he
    · exact hsplit.1
    · exact ih hsplit.2 e he

/-- **A loaded catalog can be asked for the generator of every key.** -/
theorem Catalog.exists_generator {gs : Generators} {v : Json} {c : Catalog}
    (h : Catalog.ofDocument gs v = .ok c) {identity : Json} (hkey : identity.isKey = true) :
    ∃ g, c.generator gs identity = .ok g := by
  obtain ⟨entry, hentry⟩ := exists_entry? (c := c) hkey
  rw [generator, hentry]
  cases entry with
  | none => exact ⟨none, rfl⟩
  | some e =>
    -- the entry stands in the document, so its generator was checked
    have hmem : ∃ k, (k, e) ∈ c.entries := by
      cases identity with
      | str s =>
        obtain ⟨before, after, hsplit, _⟩ := List.lookup_eq_some_iff.mp (Except.ok.inj hentry)
        exact ⟨s, by rw [hsplit]; simp⟩
      | arr items => cases hkey
      | obj fields => cases hkey
      | _ => cases hentry
    obtain ⟨k, hmem⟩ := hmem
    have hchecked : checkGenerators gs c.entries = .ok () := by
      simp only [ofDocument, bind_eq_ok] at h
      obtain ⟨fields, _, h⟩ := h
      split at h
      · simp only [bind_eq_ok, pure_eq_ok] at h
        obtain ⟨entries, _, _, hchecked, rfl⟩ := h
        exact hchecked
      · exact absurd h throw_ne_ok
    exact exists_find_of_checkGenerators hchecked _ hmem

namespace Compiler

variable {c : Compiler} {d : Directive}

/-- A generator is chosen for a directive exactly if its identity is a key and, where
the catalog has no say, the generator that it declares can be looked up. -/
theorem exists_chooseGenerator (hgen : c.generators = .builtin) {v : Json}
    (hcatalog : Catalog.ofDocument .builtin v = .ok c.catalog) :
    (∃ r, c.chooseGenerator d = .ok r) ↔
      d.identity.isKey = true ∧ (c.catalog.generator c.generators d.identity = .ok none →
        d.generator.truthy = true → d.generator.isKey = true) := by
  constructor
  · rintro ⟨r, hr⟩
    obtain ⟨fromCatalog, hfrom, hrest⟩ := bind_eq_ok.mp hr
    refine ⟨Catalog.isKey_of_generator hfrom, ?_⟩
    intro hnone
    -- the catalog has none, so the one that the directive declares was looked up
    rw [hnone] at hfrom
    cases hfrom
    obtain ⟨named, hnamed, _⟩ := bind_eq_ok.mp hrest
    exact Generators.exists_find.mp ⟨named, hnamed⟩
  · rintro ⟨hkey, hdeclared⟩
    obtain ⟨fromCatalog, hfrom⟩ := Catalog.exists_generator hcatalog hkey
    rw [← hgen] at hfrom
    cases fromCatalog with
    | some g => exact ⟨_, by rw [chooseGenerator, hfrom]; rfl⟩
    | none =>
      obtain ⟨named, hnamed⟩ := Generators.exists_find.mpr (hdeclared hfrom)
      rw [chooseGenerator, hfrom]
      show ∃ r, (c.generators.find d.generator >>= _) = .ok r
      rw [hnamed]
      cases named with
      | some g => exact ⟨_, rfl⟩
      | none => exact ⟨_, by rw [hgen]; rfl⟩

/-- Where the catalog has no say and the declared generator is not registered, the
default generator is chosen. -/
theorem chooseGenerator_default (hgen : c.generators = .builtin)
    (hcatalog : c.catalog.generator c.generators d.identity = .ok none)
    (hnamed : c.generators.find d.generator = .ok none) :
    c.chooseGenerator d = .ok (Generators.defaultTag, Generator.standard) := by
  rw [chooseGenerator, hcatalog]
  show (c.generators.find d.generator >>= _) = _
  rw [hnamed, hgen]
  rfl

/-! ## §4. Compilation. -/

/-- What a directive that was read still has to meet to compile as block `number`. -/
structure Compilable (c : Compiler) (d : Directive) (number : Int) : Prop where
  identity : d.identity.isKey = true
  /-- Where the catalog has no say, the generator that the directive declares, if
  any, is a key. -/
  generator : c.catalog.generator c.generators d.identity = .ok none →
    d.generator.truthy = true → d.generator.isKey = true
  number : (Json.int number).IsWritable
  intervalTime : d.intervalTime.IsWritable
  retryCount : d.retryCount.IsWritable
  inputs : ∀ e ∈ d.inputs, (c.catalog.inputEntry d.identity e.1).depth ≤ c.limits.copying
  outputs : ∀ e ∈ d.outputs, (c.catalog.outputEntry d.identity e.1).depth ≤ c.limits.copying

/-- The numbers of a saved directive are those of its record. -/
theorem numbers_block (hd : d.IsSaved) (number : Int) (flow : Option Flow) :
    (c.block d (.int number) flow).intervalTime = d.intervalTime
      ∧ (c.block d (.int number) flow).retryCount = d.retryCount := by
  obtain ⟨wait, hwait⟩ := hd.intervalTime
  obtain ⟨retries, hretries⟩ := hd.retryCount
  have horElse : ∀ n : Int, (Json.int n).orElse (.int 0) = .int n := by
    intro n
    by_cases hn : n = 0 <;> simp [Json.orElse, Json.truthy, hn]
  simp [block, Block.ofDirective, hwait, hretries, horElse]

/-- The record of a saved directive has whole numbers, so its call can be emitted
exactly if these do not have too many digits. -/
theorem exists_blockCall_of_isSaved (hd : d.IsSaved) (number : Int) (flow : Option Flow) :
    (∃ code, Script.blockCall (c.block d (.int number) flow) c.options.blockFactory
        c.options.blockVar = .ok code) ↔
      (Json.int number).IsWritable ∧ d.intervalTime.IsWritable ∧ d.retryCount.IsWritable := by
  obtain ⟨hwait, hretries⟩ := numbers_block (c := c) hd number flow
  rw [Script.exists_blockCall ⟨number, rfl⟩ (by rw [hwait]; exact hd.intervalTime)
    (by rw [hretries]; exact hd.retryCount)]
  constructor
  · intro h
    exact ⟨h.line, hwait ▸ h.intervalTime, hretries ▸ h.retryCount⟩
  · rintro ⟨h1, h2, h3⟩
    exact ⟨h1, by rw [hwait]; exact h2, by rw [hretries]; exact h3⟩

/-- **A saved directive compiles exactly if it is compilable.** -/
theorem exists_compileDirective (hgen : c.generators = .builtin) {v : Json}
    (hcatalog : Catalog.ofDocument .builtin v = .ok c.catalog) (hd : d.IsSaved)
    (hinputs : ∀ e ∈ d.inputs, e.2.value.IsTextOrNull) (number : Int) (flow : Option Flow) :
    (∃ r, c.compileDirective d (.int number) flow = .ok r) ↔ c.Compilable d number := by
  constructor
  · rintro ⟨r, hr⟩
    simp only [compileDirective, bind_eq_ok] at hr
    obtain ⟨blockCode, hcall, d', hrestore, chosen, hchoose, _⟩ := hr
    obtain ⟨hnumber, hwait, hretries⟩ :=
      (exists_blockCall_of_isSaved hd number flow).mp ⟨blockCode, hcall⟩
    obtain ⟨hidentity', hgenerator'⟩ := restore_keeps hrestore
    obtain ⟨hkey, hdeclared⟩ := (exists_chooseGenerator hgen hcatalog).mp ⟨chosen, hchoose⟩
    rw [hidentity'] at hkey hdeclared
    rw [hgenerator'] at hdeclared
    obtain ⟨hin, hout, _⟩ := (restore_eq_ok hkey).mp hrestore
    exact ⟨hkey, hdeclared, hnumber, hwait, hretries, hin, hout⟩
  · intro h
    obtain ⟨blockCode, hcall⟩ := (exists_blockCall_of_isSaved (c := c) hd number flow).mpr
      ⟨h.number, h.intervalTime, h.retryCount⟩
    have hrestore : c.restore d = .ok (c.restored d) :=
      (restore_eq_ok h.identity).mpr ⟨h.inputs, h.outputs, rfl⟩
    obtain ⟨⟨name, g⟩, hchoose⟩ := (exists_chooseGenerator (d := c.restored d) hgen hcatalog).mpr
      ⟨h.identity, h.generator⟩
    -- the values are those of the saved directive, so the generator cannot fail
    obtain ⟨code, hcode⟩ := Generator.exists_code (chooseGenerator_of_builtin hgen hchoose)
      (inputs_restored hinputs) blockCode c.options
    refine ⟨(code, c.restored d), ?_⟩
    simp only [compileDirective, bind_eq_ok, pure_eq_ok]
    exact ⟨blockCode, hcall, _, hrestore, _, hchoose, code, by rw [hcode]; rfl, rfl⟩

/-- A directive that is given as a document is read and compiled. -/
theorem compileDocument_eq_ok {v : Json} (hd : Directive.ofDocument v = .ok d) (index : Int)
    (flow : Option Flow) {code : String} :
    c.compileDocument v (.int index) flow = .ok code ↔
      ∃ d', c.compileDirective d (.int (index + 1)) flow = .ok (code, d') := by
  have hnext : (Json.int index).next = .ok (.int (index + 1)) := rfl
  simp only [compileDocument, hd, hnext, bind_eq_ok, pure_eq_ok, Except.ok.injEq]
  constructor
  · rintro ⟨_, rfl, _, rfl, ⟨_, d'⟩, hcode, rfl⟩
    exact ⟨d', hcode⟩
  · rintro ⟨d', hcode⟩
    exact ⟨_, rfl, _, rfl, _, hcode, rfl⟩

/-- **THE TOTALITY THEOREM**: whatever was read as a directive, with a catalog that
loads and the built-in generators, compiles at every index and in every flow
exactly if its look-ups are keys, its descriptors are not too deep and its numbers
not too long.  One that the catalog has no generator for and that declares none of
the registered ones compiles to what the default generator emits. -/
theorem compiles_iff (hgen : c.generators = .builtin) {catalog : Json}
    (hcatalog : Catalog.ofDocument .builtin catalog = .ok c.catalog) {v : Json}
    (hd : Directive.ofDocument v = .ok d) (index : Int) (flow : Option Flow) :
    ((∃ code, c.compileDocument v (.int index) flow = .ok code) ↔ c.Compilable d (index + 1))
      ∧ (c.catalog.generator c.generators d.identity = .ok none →
          c.generators.find d.generator = .ok none →
          ∀ code, c.compileDocument v (.int index) flow = .ok code →
            ∃ blockCode, Script.blockCall (c.block d (.int (index + 1)) flow)
                c.options.blockFactory c.options.blockVar = .ok blockCode
              ∧ Generator.standard (c.restored d) blockCode c.options = .ok code) := by
  have hsaved := Directive.isSaved_of_ofDocument hd
  have hvalues := Directive.inputs_of_ofDocument hd
  constructor
  · rw [← exists_compileDirective hgen hcatalog hsaved hvalues (index + 1) flow]
    constructor
    · rintro ⟨code, hcode⟩
      obtain ⟨d', hd'⟩ := (compileDocument_eq_ok hd index flow).mp hcode
      exact ⟨_, hd'⟩
    · rintro ⟨⟨code, d'⟩, hd'⟩
      exact ⟨code, (compileDocument_eq_ok hd index flow).mpr ⟨d', hd'⟩⟩
  · intro hnone hnamed code hcode
    obtain ⟨d', hd'⟩ := (compileDocument_eq_ok hd index flow).mp hcode
    simp only [compileDirective, bind_eq_ok, pure_eq_ok] at hd'
    obtain ⟨blockCode, hcall, r, hrestore, chosen, hchoose, _, hreport, heq⟩ := hd'
    cases heq
    obtain ⟨_, _, rfl⟩ := (restore_eq_ok (Catalog.isKey_of_generator hnone)).mp hrestore
    -- neither the catalog nor the directive names a generator, so it is the standard one
    rw [chooseGenerator_default (d := c.restored d) hgen hnone hnamed] at hchoose
    cases hchoose
    exact ⟨blockCode, hcall, eq_ok_of_report hreport⟩

/-- A directive that declares a number for its generator. -/
def countStep : Json :=
  .obj
    [("name", "Count"), ("key", "data.count"), ("generator", .int 7),
      ("inputs", .obj [("n", .obj [("value", "7")])]),
      ("outputs", .obj [("total", .obj [("name", "t")])])]

/-- A catalog that says that the input of `countStep` is a number. -/
def countCatalog : Json :=
  .obj [("data.count", .obj [("inputs", .obj [("n", .obj [("valueType", "number")])])])]

/-- The compiler that has loaded `countCatalog`. -/
def countCompiler : Compiler :=
  { catalog := ⟨[("data.count", { inputs := [("n", .obj [("valueType", "number")])] })]⟩ }

/-- The directive that `countStep` is read as. -/
def countDirective : Directive :=
  { name := "Count", key := "data.count", generator := .int 7
    inputs := [("n", { value := "7" })], outputs := [("total", { name := "t" })] }

theorem compilable_count : countCompiler.Compilable countDirective (0 + 1) where
  identity := rfl
  generator := fun _ _ => rfl
  number := Json.isWritable_int.mpr (by decide +kernel)
  intervalTime := Json.isWritable_int.mpr (by decide +kernel)
  retryCount := Json.isWritable_int.mpr (by decide +kernel)
  inputs := by decide +kernel
  outputs := by decide +kernel

theorem compiles_iff_count :
    Catalog.ofDocument .builtin countCatalog = .ok countCompiler.catalog
      ∧ Directive.ofDocument countStep = .ok countDirective
      ∧ countCompiler.Compilable countDirective (0 + 1)
      ∧ ∃ code, countCompiler.compileDocument countStep (.int 0) none = .ok code := by
  have hcatalog : Catalog.ofDocument .builtin countCatalog = .ok countCompiler.catalog := rfl
  have hread : Directive.ofDocument countStep = .ok countDirective := rfl
  exact ⟨hcatalog, hread, compilable_count,
    (compiles_iff rfl hcatalog hread 0 none).1.mpr compilable_count⟩

/-- A directive that declares a list for its generator. -/
def listedStep : Json :=
  .obj [("name", "a"), ("generator", .arr [.int 1]), ("inputs", .obj []), ("outputs", .obj [])]

/-- A generator that is no key is not passed over: the directive is accepted and
does not compile. -/
theorem listed_generator_refused :
    (∃ d, Directive.ofDocument listedStep = .ok d)
      ∧ Catalog.ofDocument .builtin (.obj []) = .ok ({} : Compiler).catalog
      ∧ ¬ ∃ code, ({} : Compiler).compileDocument listedStep (.int 0)
          (some { name := "f", displayName := "F" }) = .ok code := by
  refine ⟨⟨_, rfl⟩, rfl, ?_⟩
  rintro ⟨code, hcode⟩
  have hnone : (({} : Compiler).compileDocument listedStep (.int 0)
      (some { name := "f", displayName := "F" })).toOption.isSome = false := by
    decide +kernel
  rw [hcode] at hnone
  cases hnone

end Compiler
end FlowTrace
