/-
  FlowTrace.Block.Table
  ────────────────────────────────
  **FROM SCRIPT LINES TO BLOCKS.**

  A block table maps the lines at which statements begin to their block
  records.  A statement may span several lines, so a look-up answers with the
  block that starts at the line or is the nearest before it.  The entries
  stand in strictly increasing order of their lines; the type says so.
-/
import FlowTrace.Block.Basic
import FlowTrace.Json.Reader
import FlowTrace.Text.Lines

namespace FlowTrace

/-! ## §1. Sorted entries. -/

/-- Put a block at a line of entries sorted by line, in place of the block that
was there. -/
def insertEntry (line : Int) (b : Block) : List (Int × Block) → List (Int × Block)
  | [] => [(line, b)]
  | e :: rest =>
      if line < e.1 then (line, b) :: e :: rest
      else if line = e.1 then (line, b) :: rest
      else e :: insertEntry line b rest

/-- Every line of the new entries is the inserted one or an old one. -/
theorem fst_mem_insertEntry {line l : Int} {b : Block} {es : List (Int × Block)}
    (h : l ∈ (insertEntry line b es).map Prod.fst) : l = line ∨ l ∈ es.map Prod.fst := by
  induction es with
  | nil => simpa [insertEntry] using h
  | cons e rest ih =>
    simp only [insertEntry] at h
    split at h
    · simpa using h
    · split at h
      · next _ heq => subst heq; simp at h; rcases h with h | h <;> simp [h]
      · simp only [List.map_cons, List.mem_cons] at h ⊢
        rcases h with h | h
        · exact Or.inr (Or.inl h)
        · rcases ih h with h | h
          · exact Or.inl h
          · exact Or.inr (Or.inr h)

/-- Inserting keeps the lines strictly increasing. -/
theorem insertEntry_increasing {line : Int} {b : Block} {es : List (Int × Block)}
    (h : (es.map Prod.fst).Pairwise (· < ·)) :
    ((insertEntry line b es).map Prod.fst).Pairwise (· < ·) := by
  induction es with
  | nil => simp [insertEntry]
  | cons e rest ih =>
    simp only [List.map_cons, List.pairwise_cons] at h
    simp only [insertEntry]
    split
    · next hlt =>
      simp only [List.map_cons, List.pairwise_cons, List.mem_cons]
      refine ⟨?_, h⟩
      intro l hl
      rcases hl with rfl | hl
      · exact hlt
      · exact Int.lt_trans hlt (h.1 l hl)
    · split
      · next _ heq => subst heq; simpa using h
      · next hge hne =>
        simp only [List.map_cons, List.pairwise_cons]
        refine ⟨?_, ih h.2⟩
        intro l hl
        rcases fst_mem_insertEntry hl with rfl | hl
        · omega
        · exact h.1 l hl

/-- A table from script lines to block records. -/
structure BlockTable where
  entries : List (Int × Block)
  increasing : (entries.map Prod.fst).Pairwise (· < ·)

namespace BlockTable

/-! ## §2. Look-up. -/

/-- The table without entries. -/
def empty : BlockTable := ⟨[], by simp⟩

instance : Inhabited BlockTable := ⟨empty⟩

/-- The table with a block at a line, in place of the one that was there. -/
def insert (t : BlockTable) (line : Int) (b : Block) : BlockTable :=
  ⟨insertEntry line b t.entries, insertEntry_increasing t.increasing⟩

/-- The table of entries put one after the other. -/
def ofList (es : List (Int × Block)) : BlockTable :=
  es.foldl (fun t e => t.insert e.1 e.2) empty

/-- The number of entries. -/
def size (t : BlockTable) : Nat := t.entries.length

/-- The lines at which blocks start. -/
def lines (t : BlockTable) : List Int := t.entries.map Prod.fst

/-- The block that starts at the line or is the nearest before it. -/
def lookup? (t : BlockTable) (line : Int) : Option Block :=
  ((t.entries.takeWhile (fun e => decide (e.1 ≤ line))).getLast?).map Prod.snd

/-- The block at a line that a message gives: null finds nothing, and an empty
table is not asked. -/
def find (t : BlockTable) (line : Json) : Except Fault (Option Block) :=
  if line.isNull || t.entries.isEmpty then .ok none
  else (line.toInt).map t.lookup?

/-- The first line whose block has the number `blockLine`. -/
def startLine? (t : BlockTable) (blockLine : Json) : Option Int :=
  (t.entries.find? (fun e => e.2.line.same blockLine)).map Prod.fst

/-! ## §3. Documents. -/

/-- The document of one entry, its values copied down to the depth `room`. -/
def entryDocument (room : Nat) (e : Int × Block) : Except Fault Json :=
  (e.2.toDocument room).map (fun fields => .obj (fields ++ [("scriptLine", .int e.1)]))

/-- The document of a table. -/
def toDocument (room : Nat) (t : BlockTable) : Except Fault Json :=
  (t.entries.mapM (entryDocument room)).map (fun blocks =>
    .obj [("version", .int 1), ("blocks", .arr blocks)])

/-- The text of the table's file, unless it has a number with too many digits. -/
def toText (room : Nat) (t : BlockTable) : Except Fault String := do
  let document ← t.toDocument room
  if document.hasOverlong then throw (.badValue "number with too many digits")
  else pure document.renderIndented

/-- The entries of a list of documents; what is no object or has no script line
is passed over. -/
def entriesOf : List Json → Except Fault (List (Int × Block))
  | [] => .ok []
  | .obj fields :: rest =>
      match Fields.get? fields "scriptLine" with
      | none => entriesOf rest
      | some line => do
          let l ← line.toInt
          let b ← Block.ofFields fields
          let es ← entriesOf rest
          pure ((l, b) :: es)
  | _ :: rest => entriesOf rest

/-- A table from its document. -/
def ofDocument (v : Json) : Except Fault BlockTable := do
  let blocks ← v.get "blocks"
  let items ← (blocks.orElse (.arr [])).toItems
  let es ← entriesOf items
  pure (ofList es)

/-- A table from the text of its file, whose values may lie as deep as `room`. -/
def ofText (room : Nat) (s : String) : Except Fault BlockTable := do
  ofDocument (← Json.read room s)

end BlockTable
end FlowTrace
