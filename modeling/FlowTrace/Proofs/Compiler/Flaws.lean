/-
  FlowTrace.Proofs.Compiler.Flaws
  ────────────────────────────────
  **WHAT IS WRONG WITH A DOCUMENT.**

  A flow is read by converters that stand one inside the other, and so is a catalog; each
  of them looks at its own part and leaves the rest to the next.  Here the flaws of a
  document are listed part by part, as they stand in it (`Flow.flaws`, `Catalog.flaws`).
  A converter fails exactly if there is a flaw, and with the first one (`Finds`).

      in words    — a part is missing, or is no map or list although it is looked at as one
      as it comes — a part is used as an object without a look, a number is infinite, or
                    a value is used as a key that cannot be one

  Flaws of the second kind have no words of their own.  The lists tell which parts are
  looked at: the inputs and outputs of a directive are, their items are not.
-/
import FlowTrace.Compiler
import FlowTrace.Proofs.Outcome

namespace FlowTrace

/-! ## §1. The first flaw. -/

/-- The computation fails exactly if there is a flaw, and with the first one. -/
def Finds {α : Type} (flaws : List Fault) (x : Except Fault α) : Prop :=
  match x with
  | .ok _ => flaws = []
  | .error f => flaws.head? = some f

namespace Finds

variable {α β : Type} {flaws more : List Fault} {x : Except Fault α}

theorem ok (a : α) : Finds [] (.ok a : Except Fault α) := rfl

theorem error (f : Fault) (rest : List Fault) : Finds (f :: rest) (.error f : Except Fault α) := rfl

/-- A sequence meets the flaws of its first step, and then those of the rest. -/
theorem bind {f : α → Except Fault β} (h : Finds flaws x)
    (hrest : ∀ a, x = .ok a → Finds more (f a)) : Finds (flaws ++ more) (x >>= f) := by
  cases x with
  | ok a =>
    obtain rfl : flaws = [] := h
    exact hrest a rfl
  | error e =>
    show (flaws ++ more).head? = some e
    rw [List.head?_append, show flaws.head? = some e from h, Option.some_or]

/-- What is made of a good outcome adds no flaw. -/
theorem bind_ok {f : α → β} (h : Finds flaws x) :
    Finds flaws (x >>= fun a => (.ok (f a) : Except Fault β)) := by
  cases x <;> exact h

theorem exists_ok_iff (h : Finds flaws x) : (∃ a, x = .ok a) ↔ flaws = [] := by
  cases x with
  | ok a => exact ⟨fun _ => h, fun _ => ⟨a, rfl⟩⟩
  | error e =>
    have hsome : flaws.head? = some e := h
    constructor
    · rintro ⟨a, ha⟩
      cases ha
    · rintro rfl
      cases hsome

theorem eq_error {f : Fault} {rest : List Fault} (h : Finds (f :: rest) x) : x = .error f := by
  cases x with
  | ok a => cases h
  | error e => exact congrArg Except.error (Option.some.inj h).symm

end Finds

/-- Items are read in order, up to the first that has a flaw. -/
theorem Fields.finds_mapM {α β : Type} {f : α → Except Fault β} {flaws : α → List Fault}
    (hf : ∀ v, Finds (flaws v) (f v)) (xs : List (String × α)) :
    Finds (xs.flatMap (fun e => flaws e.2)) (Fields.mapM f xs) := by
  induction xs with
  | nil => exact .ok []
  | cons x xs ih =>
    rw [List.flatMap_cons, Fields.mapM]
    refine (hf x.2).bind (fun a _ => ?_)
    exact ih.bind_ok

/-! ## §2. Values. -/

namespace Json

/-- The flaws of a value that is used as an object without a look. -/
def flawsAsObject (v : Json) (inside : List (String × Json) → List Fault) : List Fault :=
  match v with
  | .obj fields => inside fields
  | _ => [.noMember v.kindName "get"]

/-- The flaw of a value that has to be given. -/
def missing (v : Json) (f : Fault) : List Fault := if !v.truthy then [f] else []

/-- The flaw of a value that has to be a map. -/
def noMap (v : Json) (f : Fault) : List Fault := if v.fields?.isNone then [f] else []

/-- The flaws of the values in a map. -/
def itemFlaws (flaws : Json → List Fault) (v : Json) : List Fault :=
  (v.fields?.getD []).flatMap (fun e => flaws e.2)

/-- The flaw of a value that is used as a whole number: only an infinity has one. -/
def infinite : Json → List Fault
  | .float (.infinite _) => [.tooLarge]
  | _ => []

theorem finds_fieldsOf {α : Type} {f : List (String × Json) → Except Fault α}
    {inside : List (String × Json) → List Fault} (h : ∀ fields, Finds (inside fields) (f fields))
    (v : Json) : Finds (v.flawsAsObject inside) (v.fieldsOf >>= f) := by
  cases v with
  | obj fields => exact h fields
  | _ => exact .error _ []

theorem finds_toIntOrZero (v : Json) : Finds v.infinite v.toIntOrZero := by
  cases v with
  | float x =>
    cases x with
    | finite negative m e => exact .ok _
    | infinite negative => exact .error _ []
    | nan => exact .ok _
  | str s =>
    simp only [toIntOrZero, toInt?, toInt]
    cases Numeral.readInt? s <;> exact .ok _
  | _ => exact .ok _

end Json

/-! ## §3. Flows. -/

/-- The flaws of an input. -/
def Input.flaws (v : Json) : List Fault := v.flawsAsObject fun _ => []

/-- The flaws of an output. -/
def Output.flaws (v : Json) : List Fault :=
  v.flawsAsObject fun fields =>
    (Json.field fields "name").missing (.compile "directive output missing destination name")

/-- The flaws of a directive. -/
def Directive.flaws (v : Json) : List Fault :=
  v.flawsAsObject fun fields =>
    let name := Json.field fields "name"
    let inputs := Json.field fields "inputs"
    let outputs := Json.field fields "outputs"
    name.missing (.compile "directive missing name")
      ++ (inputs.noMap (.compile ("directive " ++ name.shown ++ " missing inputs map"))
      ++ (outputs.noMap (.compile ("directive " ++ name.shown ++ " missing outputs map"))
      ++ (inputs.itemFlaws Input.flaws ++ (outputs.itemFlaws Output.flaws
      ++ ((Json.field fields "intervalTime").infinite
      ++ (Json.field fields "retryCount").infinite)))))

/-- The flaws of a flow. -/
def Flow.flaws (v : Json) : List Fault :=
  v.flawsAsObject fun fields =>
    let name := Json.field fields "name"
    name.missing (.compile "flow missing name")
      ++ match (Json.field fields "directives").orElse (.arr []) with
        | .arr items => items.flatMap Directive.flaws
        | _ => [.compile ("flow " ++ name.shown ++ " directives must be a list")]

theorem Input.finds_ofDocument (v : Json) : Finds (Input.flaws v) (Input.ofDocument v) :=
  Json.finds_fieldsOf (fun _ => .ok _) v

theorem Output.finds_ofDocument (v : Json) : Finds (Output.flaws v) (Output.ofDocument v) := by
  refine Json.finds_fieldsOf (fun fields => ?_) v
  simp only [Json.missing]
  cases (Json.field fields "name").truthy with
  | false => exact .error _ []
  | true => exact .ok _

/-- **A directive fails with its first flaw.** -/
theorem Directive.finds_ofDocument (v : Json) :
    Finds (Directive.flaws v) (Directive.ofDocument v) := by
  refine Json.finds_fieldsOf (fun fields => ?_) v
  simp only [Json.missing, Json.noMap, Json.itemFlaws]
  cases (Json.field fields "name").truthy with
  | false => exact .error _ _
  | true =>
    cases (Json.field fields "inputs").fields? with
    | none => exact .error _ _
    | some inputs =>
      cases (Json.field fields "outputs").fields? with
      | none => exact .error _ _
      | some outputs =>
        -- both maps are there, and their items are read before the numbers
        refine (Fields.finds_mapM Input.finds_ofDocument inputs).bind (fun _ _ => ?_)
        refine (Fields.finds_mapM Output.finds_ofDocument outputs).bind (fun _ _ => ?_)
        refine (Json.finds_toIntOrZero _).bind (fun _ _ => ?_)
        exact (Json.finds_toIntOrZero _).bind_ok

/-- **A flow fails with its first flaw.** -/
theorem Flow.finds_ofDocument (v : Json) : Finds (Flow.flaws v) (Flow.ofDocument v) := by
  have hdirectives : ∀ items : List Json,
      Finds (items.flatMap Directive.flaws) (Flow.directivesOf items) := by
    intro items
    induction items with
    | nil => exact .ok []
    | cons item items ih =>
      rw [List.flatMap_cons, Flow.directivesOf]
      refine (Directive.finds_ofDocument item).bind (fun _ _ => ?_)
      exact ih.bind_ok
  refine Json.finds_fieldsOf (fun fields => ?_) v
  simp only [Json.missing]
  cases (Json.field fields "name").truthy with
  | false => exact .error _ _
  | true =>
    cases (Json.field fields "directives").orElse (.arr []) with
    | arr items =>
      show Finds (items.flatMap Directive.flaws) _
      exact (hdirectives items).bind_ok
    | _ => exact .error _ []

/-! ## §4. Catalogs. -/

namespace Catalog

/-- The flaw of a descriptor: if it is given it is used as a map without a look. -/
def descriptorFlaws (v : Json) : List Fault :=
  match v.orObject.toFields with
  | .ok _ => []
  | .error f => [f]

/-- The flaws of the entry of a directive. -/
def entryFlaws (identity : String) (v : Json) : List Fault :=
  match v.fields? with
  | none => [.catalog ("catalog entry " ++ quoted identity ++ " must be an object")]
  | some fields =>
      match (Json.field fields "inputs").orObject.fields?,
        (Json.field fields "outputs").orObject.fields? with
      | some inputs, some outputs =>
          inputs.flatMap (fun e => descriptorFlaws e.2)
            ++ outputs.flatMap (fun e => descriptorFlaws e.2)
      | _, _ => [.catalog ("catalog entry " ++ quoted identity ++ " has malformed inputs/outputs")]

/-- The flaw of the generator that an entry names: it is looked up without a look, and
has to be registered. -/
def generatorFlaws (gs : Generators) (identity : String) (generator : Json) : List Fault :=
  if generator.truthy then
    match gs.contains generator with
    | .error f => [f]
    | .ok true => []
    | .ok false => [.catalog ("directive " ++ quoted identity ++ " names unknown generator "
        ++ generator.shown)]
  else []

/-- The generator that the entry of a directive names. -/
def namedGenerator (v : Json) : Json :=
  match v with
  | .obj fields => (Json.field fields "generator").orNull
  | _ => .null

/-- The flaws of a catalog: those of its entries, and then those of the generators. -/
def flaws (gs : Generators) (v : Json) : List Fault :=
  v.flawsAsObject fun fields =>
    match (Fields.get? fields "directives").getD v with
    | .obj directives =>
        directives.flatMap (fun e => entryFlaws e.1 e.2)
          ++ directives.flatMap (fun e => generatorFlaws gs e.1 (namedGenerator e.2))
    | _ => [.catalog "catalog must map directive identities to entries"]

theorem finds_descriptors (fields : List (String × Json)) :
    Finds (fields.flatMap (fun e => descriptorFlaws e.2)) (descriptors fields) := by
  refine Fields.finds_mapM (fun v => ?_) fields
  unfold descriptorFlaws
  cases v.orObject.toFields with
  | ok fields => exact .ok _
  | error f => exact .error f []

/-- An entry fails with its first flaw. -/
theorem finds_entryOfDocument (identity : String) (v : Json) :
    Finds (entryFlaws identity v) (entryOfDocument identity v) := by
  unfold entryFlaws entryOfDocument
  cases v.fields? with
  | none => exact .error _ []
  | some fields =>
    simp only
    cases (Json.field fields "inputs").orObject.fields? with
    | none => exact .error _ []
    | some inputs =>
      cases (Json.field fields "outputs").orObject.fields? with
      | none => exact .error _ []
      | some outputs =>
        refine (finds_descriptors inputs).bind (fun _ _ => ?_)
        exact (finds_descriptors outputs).bind_ok

/-- The generator of an entry is the one that its document names. -/
theorem generator_of_entryOfDocument {identity : String} {v : Json} {e : CatalogEntry}
    (h : entryOfDocument identity v = .ok e) : e.generator = namedGenerator v := by
  cases v with
  | obj fields =>
    unfold entryOfDocument at h
    simp only [Json.fields?] at h
    split at h
    · obtain ⟨_, _, h⟩ := Outcome.bind_eq_ok.mp h
      obtain ⟨_, _, h⟩ := Outcome.bind_eq_ok.mp h
      cases h
      rfl
    · cases h
  | _ => cases h

theorem finds_entriesOf (directives : List (String × Json)) :
    Finds (directives.flatMap (fun e => entryFlaws e.1 e.2)) (entriesOf directives) := by
  induction directives with
  | nil => exact .ok []
  | cons e directives ih =>
    rw [List.flatMap_cons, entriesOf]
    refine (finds_entryOfDocument e.1 e.2).bind (fun _ _ => ?_)
    exact ih.bind_ok

/-- The generators are looked up once all entries are read. -/
theorem finds_checkGenerators (gs : Generators) {directives : List (String × Json)}
    {es : List (String × CatalogEntry)} (h : entriesOf directives = .ok es) :
    Finds (directives.flatMap (fun e => generatorFlaws gs e.1 (namedGenerator e.2)))
      (checkGenerators gs es) := by
  -- Induction on the entries, read and documented side by side.
  induction directives generalizing es with
  | nil =>
    cases h
    exact .ok ()
  | cons e directives ih =>
    obtain ⟨entry, hentry, h⟩ := Outcome.bind_eq_ok.mp h
    obtain ⟨rest, hrest, h⟩ := Outcome.bind_eq_ok.mp h
    cases h
    rw [List.flatMap_cons, ← generator_of_entryOfDocument hentry]
    simp only [generatorFlaws, checkGenerators]
    cases entry.generator.truthy with
    | false => exact ih hrest
    | true =>
      cases gs.contains entry.generator with
      | error f => exact .error f _
      | ok registered =>
        cases registered with
        | false => exact .error _ _
        | true => exact ih hrest

/-- **A catalog fails with its first flaw.** -/
theorem finds_ofDocument (gs : Generators) (v : Json) :
    Finds (flaws gs v) (ofDocument gs v) := by
  refine Json.finds_fieldsOf (fun fields => ?_) v
  cases (Fields.get? fields "directives").getD v with
  | obj directives =>
    refine (finds_entriesOf directives).bind (fun es hes => ?_)
    exact (finds_checkGenerators gs hes).bind_ok
  | _ => exact .error _ []

end Catalog
end FlowTrace
