/-
  FlowTrace.Catalog
  ────────────────────────────────
  **THE DIRECTIVE CATALOG.**

  The catalog describes directives by their identity: the descriptors of
  their inputs and outputs, which saved flows omit, and the generator that
  compiles them.  Every generator it names has to be registered.
-/
import FlowTrace.Json.Nesting
import FlowTrace.Script.Generator

namespace FlowTrace

/-- What the catalog knows of one directive. -/
structure CatalogEntry where
  /-- Input descriptors by input key. -/
  inputs : List (String × Json) := []
  /-- Output types by result field. -/
  outputs : List (String × Json) := []
  generator : Json := .null
  deriving Inhabited, Repr

/-- Directive descriptors by identity. -/
structure Catalog where
  entries : List (String × CatalogEntry) := []
  deriving Inhabited, Repr

namespace Catalog

/-! ## §1. Reading. -/

/-- A descriptor map: every value that counts as given is a set of fields. -/
def descriptors (fields : List (String × Json)) : Except Fault (List (String × Json)) :=
  Fields.mapM (fun v => (v.orObject.toFields).map Json.obj) fields

/-- The entry of a directive from its document. -/
def entryOfDocument (identity : String) (v : Json) : Except Fault CatalogEntry := do
  let some fields := v.fields?
    | throw (.catalog ("catalog entry " ++ quoted identity ++ " must be an object"))
  match (Json.field fields "inputs").orObject.fields?,
      (Json.field fields "outputs").orObject.fields? with
  | some inputs, some outputs =>
      let inputs ← descriptors inputs
      let outputs ← descriptors outputs
      pure
        { inputs := inputs, outputs := outputs
          generator := (Json.field fields "generator").orNull }
  | _, _ =>
      throw (.catalog ("catalog entry " ++ quoted identity ++ " has malformed inputs/outputs"))

/-- The entries of a catalog document, in order. -/
def entriesOf : List (String × Json) → Except Fault (List (String × CatalogEntry))
  | [] => .ok []
  | (k, v) :: rest => do
      let e ← entryOfDocument k v
      let es ← entriesOf rest
      pure ((k, e) :: es)

/-- Every generator that the entries name is registered. -/
def checkGenerators (gs : Generators) : List (String × CatalogEntry) → Except Fault Unit
  | [] => .ok ()
  | (k, e) :: rest => do
      if e.generator.truthy then
        if !(← gs.contains e.generator) then
          throw (.catalog ("directive " ++ quoted k ++ " names unknown generator "
            ++ e.generator.shown))
      checkGenerators gs rest

/-- A catalog from its document: the entries stand in the document itself or
under `directives`. -/
def ofDocument (gs : Generators) (v : Json) : Except Fault Catalog := do
  let fields ← v.fieldsOf
  match (Fields.get? fields "directives").getD v with
  | .obj directives =>
      let entries ← entriesOf directives
      checkGenerators gs entries
      pure ⟨entries⟩
  | _ => throw (.catalog "catalog must map directive identities to entries")

/-! ## §2. Look-up. -/

/-- The number of directives described. -/
def size (c : Catalog) : Nat := c.entries.length

/-- The entry of an identity.  Only a key can be asked for. -/
def entry? (c : Catalog) (identity : Json) : Except Fault (Option CatalogEntry) :=
  match identity with
  | .str s => .ok (Fields.get? c.entries s)
  | v => if v.isKey then .ok none else .error .badKind

/-- Is the identity described? -/
def contains (c : Catalog) (identity : Json) : Except Fault Bool :=
  (c.entry? identity).map Option.isSome

/-- A copy of the descriptor at a key, down to the depth `room`; null when it is
absent. -/
def descriptor (room : Nat) (fields : List (String × Json)) (key : Json) : Except Fault Json :=
  match key with
  | .str s => (Json.field fields s).within room
  | v => if v.isKey then .ok .null else .error .badKind

/-- The descriptor of an input, null when the catalog has none. -/
def addConfig (c : Catalog) (room : Nat) (identity key : Json) : Except Fault Json := do
  match ← c.entry? identity with
  | none => pure .null
  | some e => descriptor room e.inputs key

/-- The type of a result field, null when the catalog has none. -/
def typeDetails (c : Catalog) (room : Nat) (identity key : Json) : Except Fault Json := do
  match ← c.entry? identity with
  | none => pure .null
  | some e => descriptor room e.outputs key

/-- The tag of the generator that the catalog gives a directive, if one is
registered under it. -/
def generatorTag (c : Catalog) (gs : Generators) (identity : Json) : Except Fault Json := do
  match ← c.entry? identity with
  | none => pure .null
  | some e => pure (if (← gs.find e.generator).isSome then e.generator else .null)

/-- The generator that the catalog gives a directive. -/
def generator (c : Catalog) (gs : Generators) (identity : Json) :
    Except Fault (Option Generator) := do
  match ← c.entry? identity with
  | none => pure none
  | some e => gs.find e.generator

end Catalog
end FlowTrace
