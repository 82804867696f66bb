/-
  FlowTrace.Proofs.Block.Flaws
  ────────────────────────────────
  **WHAT IS WRONG WITH THE DOCUMENT OF A BLOCK TABLE.**

  A table is read from a list of entries, and much in that list is passed over: what is no
  object, and what has no script line.  What is not passed over is used as it stands, and
  here its flaws are listed, in the order in which they are met (`BlockTable.flaws`):

      the document    — is no object
      its blocks      — are given, and can be gone through in no way
      a script line   — is no whole number, nor the text of one
      a record        — has a number that is infinite

  A table is read exactly if there is none (`BlockTable.finds_ofDocument`).
-/
import FlowTrace.Block.Table
import FlowTrace.Proofs.Compiler.Flaws

namespace FlowTrace

/-! ## §1. Values. -/

namespace Json

/-- The flaw of a value that has to be a whole number, or the text of one. -/
def noWhole : Json → List Fault
  | .bool _ | .int _ | .float (.finite _ _ _) => []
  | .float .nan => [.badValue "cannot convert float NaN to integer"]
  | .float (.infinite _) => [.tooLarge]
  | .str s =>
      if (Numeral.readInt? s).isSome then []
      else [.badValue ("invalid literal for int() with base 10: " ++ quoted s)]
  | .null | .arr _ | .obj _ => [.badKind]

theorem finds_toInt (v : Json) : Finds v.noWhole v.toInt := by
  cases v with
  | float x => cases x <;> rfl
  | str s =>
    simp only [noWhole, toInt]
    cases Numeral.readInt? s <;> rfl
  | _ => rfl

end Json

/-! ## §2. Records and tables. -/

/-- The flaws of the fields of a record: its texts have none. -/
def Block.flaws (fields : List (String × Json)) : List Fault :=
  (Json.field fields "blockLine").infinite
    ++ ((Json.field fields "intervalTime").infinite ++ (Json.field fields "retryCount").infinite)

theorem Block.finds_ofFields (fields : List (String × Json)) :
    Finds (Block.flaws fields) (Block.ofFields fields) := by
  refine (Json.finds_toIntOrZero _).bind fun _ _ => ?_
  refine (Json.finds_toIntOrZero _).bind fun _ _ => ?_
  exact (Json.finds_toIntOrZero _).bind_ok

namespace BlockTable

/-- The flaws of an entry.  One that is no object or has no script line is passed over. -/
def entryFlaws : Json → List Fault
  | .obj fields =>
      match Fields.get? fields "scriptLine" with
      | none => []
      | some line => line.noWhole ++ Block.flaws fields
  | _ => []

/-- The flaws of a list of entries.  The parts of a text or an object are texts, so they are
passed over. -/
def blocksFlaws : Json → List Fault
  | .arr items => items.flatMap entryFlaws
  | .str _ | .obj _ => []
  | _ => [.badKind]

/-- **The flaws of a table's document.** -/
def flaws (v : Json) : List Fault :=
  v.flawsAsObject fun fields => blocksFlaws ((Json.field fields "blocks").orElse (.arr []))

theorem finds_entriesOf (items : List Json) :
    Finds (items.flatMap entryFlaws) (entriesOf items) := by
  induction items with
  | nil => exact .ok []
  | cons item rest ih =>
    rw [List.flatMap_cons]
    cases item with
    | obj fields =>
      rw [entriesOf, entryFlaws]
      cases Fields.get? fields "scriptLine" with
      | none => exact ih
      | some line =>
        dsimp only
        rw [List.append_assoc]
        refine (Json.finds_toInt line).bind fun _ _ => ?_
        exact (Block.finds_ofFields fields).bind fun _ _ => ih.bind_ok
    | _ => exact ih

/-- Texts are no entries. -/
theorem entriesOf_texts (texts : List String) : entriesOf (texts.map Json.str) = .ok [] := by
  induction texts with
  | nil => rfl
  | cons s rest ih => exact ih

theorem finds_blocks (blocks : Json) :
    Finds (blocksFlaws blocks) (blocks.toItems >>= entriesOf) := by
  have htexts {items : List Json} (h : ∃ texts : List String, items = texts.map Json.str) :
      Finds [] (entriesOf items) := by
    obtain ⟨texts, rfl⟩ := h
    rw [entriesOf_texts]
    exact .ok []
  cases blocks with
  | arr items => exact finds_entriesOf items
  | str s =>
    exact htexts ⟨(CodePoint.split s).map fun p => CodePoint.join [p], by simp [Json.characters]⟩
  | obj fields => exact htexts ⟨Fields.keys fields, rfl⟩
  | _ => exact .error _ []

/-- **A table is read exactly if its document has no flaw**; otherwise reading it fails with the
first one. -/
theorem finds_ofDocument (v : Json) : Finds (flaws v) (ofDocument v) := by
  cases v with
  | obj fields =>
    have h := (finds_blocks ((Json.field fields "blocks").orElse (.arr []))).bind_ok (f := ofList)
    show Finds _ (Json.toItems _ >>= fun items => entriesOf items >>= fun es => pure (ofList es))
    rwa [bind_assoc] at h
  | _ => exact .error _ []

/-- A number and an object without a script line are passed over; a null script line is not. -/
example : flaws (.obj [("blocks", .arr [.int 5, .obj [], .obj [("scriptLine", .null)]])])
    = [.badKind] := by rfl

end BlockTable
end FlowTrace
