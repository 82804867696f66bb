/-
  FlowTrace.Proofs.Block.Persistence
  ────────────────────────────────
  **A SAVED TABLE IS THE TABLE THAT WAS SAVED.**

  A block table comes from a document or from compiling a flow.  Either way its
  records hold five texts and three whole numbers, and a failure strategy that
  is not empty.  Such a table survives the way out and back:

      document  — reading the table's document gives the table
      file      — so does reading the file to which it was written

  What a document leaves out, gets wrong, repeats or orders otherwise is settled
  when it is read first, and nothing changes after that.  A table can be written
  exactly if none of its numbers has too many digits and none of its texts has a
  lone half of a surrogate pair.
-/
import FlowTrace.Proofs.Block.Floor
import FlowTrace.Proofs.Block.Rescan
import FlowTrace.Proofs.Json.Halves
import FlowTrace.Proofs.Program.Saving

namespace FlowTrace

open Outcome

/-! ## §1. Records. -/

/-- What the record of a table that was read or compiled holds: texts, a failure
strategy that is not empty, and whole numbers. -/
structure Block.IsRecord (b : Block) : Prop where
  line : ∃ n, b.line = .int n
  flowName : ∃ s, b.flowName = .str s
  flowAlias : ∃ s, b.flowAlias = .str s
  directiveName : ∃ s, b.directiveName = .str s
  displayName : ∃ s, b.displayName = .str s
  failureStrategy : ∃ s, b.failureStrategy = .str s ∧ s ≠ ""
  intervalTime : ∃ n, b.intervalTime = .int n
  retryCount : ∃ n, b.retryCount = .int n

namespace Block

/-- No text of the record has a lone half. -/
def HasWholeTexts (b : Block) : Prop :=
  ∀ f ∈ b.toFields, ∀ s, f.2 = .str s → CodePoint.hasHalf s = false

/-- The fields of an entry's document. -/
def fieldsAt (b : Block) (line : Int) : List (String × Json) :=
  b.toFields ++ [("scriptLine", .int line)]

variable {b : Block}

theorem IsRecord.exists_eq (hb : b.IsRecord) :
    ∃ (number wait retries : Int) (flow other name display strategy : String), strategy ≠ "" ∧ b
      = ⟨.int number, .str flow, .str other, .str name, .str display, .str strategy, .int wait,
          .int retries⟩ := by
  obtain ⟨⟨number, h1⟩, ⟨flow, h2⟩, ⟨other, h3⟩, ⟨name, h4⟩, ⟨display, h5⟩, ⟨strategy, h6, hne⟩,
    ⟨wait, h7⟩, ⟨retries, h8⟩⟩ := hb
  refine ⟨number, wait, retries, flow, other, name, display, strategy, hne, ?_⟩
  rw [← h1, ← h2, ← h3, ← h4, ← h5, ← h6, ← h7, ← h8]

theorem toDocument_of_isRecord (hb : b.IsRecord) (room : Nat) :
    b.toDocument room = .ok b.toFields := by
  obtain ⟨number, wait, retries, flow, other, name, display, strategy, _, rfl⟩ := hb.exists_eq
  rfl

/-- **A record is read back from its document.** -/
theorem ofFields_fieldsAt (hb : b.IsRecord) (line : Int) : ofFields (b.fieldsAt line) = .ok b := by
  obtain ⟨number, wait, retries, flow, other, name, display, strategy, hne, rfl⟩ := hb.exists_eq
  have hgiven : (Json.str strategy).orElse (.str "terminate") = .str strategy :=
    Json.orElse_of_truthy (by simpa [Json.truthy] using hne)
  have hread : ofFields (fieldsAt ⟨.int number, .str flow, .str other, .str name, .str display,
        .str strategy, .int wait, .int retries⟩ line)
      = .ok
          { line := .int number
            flowName := .str (Json.str flow).textOrEmpty
            flowAlias := .str (Json.str other).textOrEmpty
            directiveName := .str (Json.str name).textOrEmpty
            displayName := .str (Json.str display).textOrEmpty
            failureStrategy := .str ((Json.str strategy).orElse (.str "terminate")).text
            intervalTime := .int wait
            retryCount := .int retries } := rfl
  rw [hread, hgiven]
  simp only [Json.textOrEmpty_str, Json.text]

/-- Whatever a record is read from, it is one that is read back. -/
theorem isRecord_of_ofFields {fields : List (String × Json)} (h : ofFields fields = .ok b) :
    b.IsRecord := by
  simp only [ofFields, bind_eq_ok, pure_eq_ok] at h
  obtain ⟨_, _, _, _, _, _, rfl⟩ := h
  refine ⟨⟨_, rfl⟩, ⟨_, rfl⟩, ⟨_, rfl⟩, ⟨_, rfl⟩, ⟨_, rfl⟩, ⟨_, rfl, Json.text_ne_empty ?_⟩,
    ⟨_, rfl⟩, ⟨_, rfl⟩⟩
  unfold Json.orElse
  split
  · assumption
  · rfl

end Block

/-! ## §2. Tables and their documents. -/

namespace BlockTable

/-- The records of the table are such records. -/
def HoldsRecords (t : BlockTable) : Prop := ∀ e ∈ t.entries, e.2.IsRecord

/-- The documents of entries. -/
def entryDocuments (es : List (Int × Block)) : List Json := es.map (fun e => .obj (e.2.fieldsAt e.1))

/-- The document of a table of records. -/
def document (t : BlockTable) : Json :=
  .obj [("version", .int 1), ("blocks", .arr (entryDocuments t.entries))]

variable {t : BlockTable} {es : List (Int × Block)} {room : Nat}

theorem mapM_entryDocument (h : ∀ e ∈ es, e.2.IsRecord) :
    es.mapM (entryDocument room) = .ok (entryDocuments es) := by
  induction es with
  | nil => rfl
  | cons e es ih =>
    have he : entryDocument room e = .ok (.obj (e.2.fieldsAt e.1)) := by
      rw [entryDocument, Block.toDocument_of_isRecord (h e List.mem_cons_self)]
      rfl
    rw [List.mapM_cons, he, ih (fun x hx => h x (List.mem_cons_of_mem e hx))]
    rfl

theorem toDocument_of_holdsRecords (h : t.HoldsRecords) : t.toDocument room = .ok t.document := by
  rw [toDocument, mapM_entryDocument h]
  rfl

theorem entriesOf_entryDocuments (h : ∀ e ∈ es, e.2.IsRecord) :
    entriesOf (entryDocuments es) = .ok es := by
  induction es with
  | nil => rfl
  | cons e es ih =>
    have hline : Fields.get? (e.2.fieldsAt e.1) "scriptLine" = some (.int e.1) := rfl
    have hlist : entryDocuments (e :: es) = .obj (e.2.fieldsAt e.1) :: entryDocuments es := rfl
    rw [hlist, entriesOf, hline]
    simp only [Json.toInt, Block.ofFields_fieldsAt (h e List.mem_cons_self) e.1,
      ih (fun x hx => h x (List.mem_cons_of_mem e hx))]
    rfl

/-- **A table of records is read back from its document.** -/
theorem ofDocument_document (h : t.HoldsRecords) : ofDocument t.document = .ok t := by
  have hblocks : t.document.get "blocks" = .ok (.arr (entryDocuments t.entries)) := rfl
  have hitems : ((Json.arr (entryDocuments t.entries)).orElse (.arr [])).toItems
      = .ok (entryDocuments t.entries) := by
    unfold Json.orElse
    split
    · rfl
    · next hempty =>
      have hnil : entryDocuments t.entries = [] := by simpa [Json.truthy] using hempty
      rw [hnil]
      rfl
  have htable : ofList t.entries = t := BlockTable.ext (entries_ofList t.increasing)
  rw [ofDocument, hblocks]
  simp only [bind, Except.bind, hitems, entriesOf_entryDocuments h, htable]
  rfl

/-! ## §3. Where tables come from. -/

/-- A table has no entries but those that were put. -/
theorem mem_entries_ofList {e : Int × Block} (h : e ∈ (ofList es).entries) : e ∈ es :=
  mem_of_latest? ((holds_ofList es e.1 e.2).mp h)

theorem isRecord_of_entriesOf {items : List Json} (h : entriesOf items = .ok es) :
    ∀ e ∈ es, e.2.IsRecord := by
  fun_induction entriesOf items generalizing es with
  | case1 =>
    cases h
    simp
  | case2 fields rest _ ih => exact ih h
  | case3 fields rest line _ ih =>
    simp only [bind_eq_ok, pure_eq_ok] at h
    obtain ⟨l, _, b, hb, more, hmore, rfl⟩ := h
    intro e he
    rcases List.mem_cons.mp he with rfl | he
    · exact Block.isRecord_of_ofFields hb
    · exact ih hmore e he
  | case4 item rest _ ih => exact ih h

/-- A table that was read holds records, whatever its document holds. -/
theorem holdsRecords_of_ofDocument {v : Json} (h : ofDocument v = .ok t) : t.HoldsRecords := by
  simp only [ofDocument, bind_eq_ok, pure_eq_ok] at h
  obtain ⟨_, _, _, _, es, hes, rfl⟩ := h
  exact fun e he => isRecord_of_entriesOf hes e (mem_entries_ofList he)

end BlockTable

/-- The kinds that the fields of a directive have: texts for its name and its failure
strategy, a text or null for its display name, and whole numbers. -/
structure Directive.IsTyped (d : Directive) : Prop where
  name : ∃ s, d.name = .str s
  displayName : d.displayName.IsTextOrNull
  failureStrategy : ∃ s, d.failureStrategy = .str s
  intervalTime : ∃ n, d.intervalTime = .int n
  retryCount : ∃ n, d.retryCount = .int n

/-- So has every directive that was read, but for its display name. -/
theorem Directive.IsSaved.isTyped {d : Directive} (hd : d.IsSaved)
    (hdisplay : d.displayName.IsTextOrNull) : d.IsTyped := by
  obtain ⟨s, hs, _⟩ := hd.failureStrategy
  exact ⟨hd.name, hdisplay, ⟨s, hs⟩, hd.intervalTime, hd.retryCount⟩

theorem Block.isRecord_ofDirective {flow : Flow} {d : Directive} (hname : ∃ s, flow.name = .str s)
    (halias : flow.displayName.IsTextOrNull) (hd : d.IsTyped) (n : Int) (flowName : Json) :
    (Block.ofDirective d (.int n) (some flow) flowName).IsRecord := by
  have hnumber : ∀ {v : Json}, (∃ n, v = .int n) → ∃ n, v.orElse (.int 0) = .int n := by
    rintro _ ⟨k, rfl⟩
    unfold Json.orElse
    split
    · exact ⟨k, rfl⟩
    · exact ⟨0, rfl⟩
  have hstrategy : ∃ s, d.failureStrategy.orElse (.str "terminate") = .str s ∧ s ≠ "" := by
    obtain ⟨s, hs⟩ := hd.failureStrategy
    rw [hs]
    unfold Json.orElse
    split
    · next htruthy => exact ⟨s, rfl, Json.text_ne_empty htruthy⟩
    · exact ⟨"terminate", rfl, by decide⟩
  exact ⟨⟨n, rfl⟩, hname, halias.orElse hname, hd.name, hd.displayName.orElse hd.name, hstrategy,
    hnumber hd.intervalTime, hnumber hd.retryCount⟩

/-- A table that was compiled holds records. -/
theorem Compiler.holdsRecords_of_compileFlow {c : Compiler} {flow : Flow}
    (hname : ∃ s, flow.name = .str s) (halias : flow.displayName.IsTextOrNull)
    (hdirectives : ∀ d ∈ flow.directives, d.IsTyped) {k : Int} {out : CompiledFlow}
    (h : c.compileFlow flow k = .ok out) : out.blocks.HoldsRecords := by
  obtain ⟨ss, hss, _⟩ := bind_eq_ok.mp h
  obtain ⟨hlen, hat⟩ := statements_getElem? hss
  intro e he
  rw [entries_of_statements hss h] at he
  obtain ⟨s, hs, rfl⟩ := List.mem_map.mp he
  obtain ⟨i, hi⟩ := List.getElem?_of_mem hs
  have hlt : i < flow.directives.length := by
    have := (List.getElem?_eq_some_iff.mp hi).1
    omega
  obtain ⟨_, _, _, hs'⟩ := hat i _ (List.getElem?_eq_getElem hlt)
  rw [hi, Option.some.injEq] at hs'
  subst hs'
  exact Block.isRecord_ofDirective hname halias (hdirectives _ (List.getElem_mem hlt)) _
    c.options.debugFlowName

namespace BlockTable

variable {t : BlockTable} {es : List (Int × Block)} {room : Nat}

/-- The tables that there are: read from a document, or compiled from a flow whose
fields have their kinds. -/
inductive IsMade : BlockTable → Prop where
  | read {v : Json} {t : BlockTable} (h : ofDocument v = .ok t) : IsMade t
  | compiled {c : Compiler} {flow : Flow} {k : Int} {out : CompiledFlow}
      (hname : ∃ s, flow.name = .str s) (halias : flow.displayName.IsTextOrNull)
      (hdirectives : ∀ d ∈ flow.directives, d.IsTyped) (h : c.compileFlow flow k = .ok out) :
      IsMade out.blocks

theorem IsMade.holdsRecords (h : t.IsMade) : t.HoldsRecords := by
  cases h with
  | read h => exact holdsRecords_of_ofDocument h
  | compiled hname halias hdirectives h =>
    exact Compiler.holdsRecords_of_compileFlow hname halias hdirectives h

/-- The flow may be given as a document. -/
theorem isMade_of_compileFlowDocument {c : Compiler} {v : Json} {k : Int} {flow : Flow}
    {out : CompiledFlow} (hflow : Flow.ofDocument v = .ok flow)
    (halias : flow.displayName.IsTextOrNull)
    (hdisplay : ∀ d ∈ flow.directives, d.displayName.IsTextOrNull)
    (h : c.compileFlowDocument v (.int k) = .ok out) : out.blocks.IsMade := by
  obtain ⟨flow', hflow', hcompile⟩ := Compiler.compileFlowDocument_eq_ok.mp h
  rw [hflow] at hflow'
  cases hflow'
  obtain ⟨hname, hsaved⟩ := Flow.isSaved_of_ofDocument hflow
  exact .compiled hname halias (fun d hd => (hsaved d hd).isTyped (hdisplay d hd)) hcompile

/-! ## §4. Texts of tables. -/

/-- The document of an entry: its keys differ, and its values are texts and numbers. -/
theorem isExact_fieldsAt {b : Block} (hb : b.IsRecord) (line : Int) :
    (Json.obj (b.fieldsAt line)).IsExact ∧ Json.depthOfFields (b.fieldsAt line) = 0 := by
  obtain ⟨number, wait, retries, flow, other, name, display, strategy, _, rfl⟩ := hb.exists_eq
  refine ⟨⟨?_, ?_⟩, rfl⟩
  · show ["blockLine", "flowName", "flowAliasName", "directiveName", "directiveDisplayName",
      "failureStrategy", "intervalTime", "retryCount", "scriptLine"].Nodup
    decide
  · simp [Block.fieldsAt, Block.toFields, Json.FieldsExact, Json.IsExact]

theorem itemsExact_entryDocuments (h : ∀ e ∈ es, e.2.IsRecord) :
    Json.ItemsExact (entryDocuments es) := by
  induction es with
  | nil => trivial
  | cons e es ih =>
    exact ⟨(isExact_fieldsAt (h e List.mem_cons_self) e.1).1,
      ih (fun x hx => h x (List.mem_cons_of_mem e hx))⟩

theorem isExact_document (h : t.HoldsRecords) : t.document.IsExact := by
  refine ⟨?_, trivial, itemsExact_entryDocuments h, trivial⟩
  show ["version", "blocks"].Nodup
  decide

/-- The document of a table is not deep. -/
theorem depth_document (h : t.HoldsRecords) : t.document.depth ≤ 3 := by
  have hitems : ∀ es : List (Int × Block), (∀ e ∈ es, e.2.IsRecord) →
      Json.depthOfItems (entryDocuments es) ≤ 1 := by
    intro es
    induction es with
    | nil => exact fun _ => Nat.zero_le 1
    | cons e es ih =>
      intro h
      have hfields := (isExact_fieldsAt (h e List.mem_cons_self) e.1).2
      have hrest := ih (fun x hx => h x (List.mem_cons_of_mem e hx))
      have hlist : entryDocuments (e :: es) = .obj (e.2.fieldsAt e.1) :: entryDocuments es := rfl
      rw [hlist, Json.depthOfItems, Json.depth, hfields]
      omega
  have hblocks := hitems t.entries h
  simp only [document, Json.depth, Json.depthOfFields]
  omega

/-- The numbers of an entry do not have too many digits to be written. -/
def IsWritableEntry (e : Int × Block) : Prop := Numeral.isOverlong e.1 = false ∧ e.2.IsWritable

theorem hasOverlongField_fieldsAt {b : Block} (hb : b.IsRecord) (line : Int) :
    Json.hasOverlongField (b.fieldsAt line) = false ↔ IsWritableEntry (line, b) := by
  obtain ⟨number, wait, retries, flow, other, name, display, strategy, _, rfl⟩ := hb.exists_eq
  have hwritable := Block.isWritable_iff (b := ⟨.int number, .str flow, .str other, .str name,
    .str display, .str strategy, .int wait, .int retries⟩) rfl rfl rfl
  simp only [IsWritableEntry, hwritable, Block.fieldsAt, Block.toFields,
    List.cons_append, List.nil_append, Json.hasOverlongField, Json.hasOverlong, Bool.or_false,
    Bool.false_or, Bool.or_eq_false_iff]
  constructor
  · rintro ⟨hnumber, hwait, hretries, hline⟩
    exact ⟨hline, hnumber, hwait, hretries⟩
  · rintro ⟨hline, hnumber, hwait, hretries⟩
    exact ⟨hnumber, hwait, hretries, hline⟩

theorem hasOverlong_document (h : t.HoldsRecords) :
    t.document.hasOverlong = false ↔ ∀ e ∈ t.entries, IsWritableEntry e := by
  have hitems : ∀ es : List (Int × Block), (∀ e ∈ es, e.2.IsRecord) →
      (Json.hasOverlongItem (entryDocuments es) = false ↔ ∀ e ∈ es, IsWritableEntry e) := by
    intro es
    induction es with
    | nil => exact fun _ => ⟨fun _ e he => absurd he List.not_mem_nil, fun _ => rfl⟩
    | cons e es ih =>
      intro h
      have hlist : entryDocuments (e :: es) = .obj (e.2.fieldsAt e.1) :: entryDocuments es := rfl
      rw [hlist, Json.hasOverlongItem, Json.hasOverlong, Bool.or_eq_false_iff,
        hasOverlongField_fieldsAt (h e List.mem_cons_self),
        ih (fun x hx => h x (List.mem_cons_of_mem e hx)), List.forall_mem_cons]
  have hversion : Numeral.isOverlong 1 = false := by decide +kernel
  simp only [document, Json.hasOverlong, Json.hasOverlongField, hversion, Bool.false_or,
    Bool.or_false]
  exact hitems t.entries h

/-- A table of records has a text exactly if its numbers can be written, and then it
is the text of its document. -/
theorem toText_eq_ok (h : t.HoldsRecords) {s : String} :
    t.toText room = .ok s ↔
      (∀ e ∈ t.entries, IsWritableEntry e) ∧ t.document.renderIndented = s := by
  rw [toText, toDocument_of_holdsRecords h, ← hasOverlong_document h]
  cases hoverlong : t.document.hasOverlong with
  | false => simp [bind, Except.bind, pure, Except.pure, hoverlong]
  | true => simp [bind, Except.bind, hoverlong, throw, throwThe, MonadExceptOf.throw]

/-- **The text of a table is read back**, also from a file, which turns other line
ends into line feeds. -/
theorem ofText_of_toText (h : t.HoldsRecords) {limits : Json.Limits} {s : String}
    (hs : t.toText room = .ok s) :
    ofText limits.reading (String.ofList (unifyNewlines s.toList)) = .ok t := by
  obtain ⟨hwritable, rfl⟩ := (toText_eq_ok h).mp hs
  have hexact := isExact_document h
  -- without carriage returns the file is read as it was written
  have hreturn : '\r' ∉ t.document.renderIndented.toList := by
    intro hmem
    have hfeed := Json.onlyFeeds_renderAt t.document 0 hexact '\r' hmem (by decide)
    exact absurd hfeed (by decide)
  have hread : Json.read limits.reading t.document.renderIndented = .ok t.document :=
    Json.readWithin_renderIndented hexact ((hasOverlong_document h).mpr hwritable)
      ((depth_document h).trans limits.three_le_reading)
  rw [unifyNewlines_of_not_mem hreturn, String.ofList_toList, ofText, hread]
  exact ofDocument_document h

/-! ## §5. Texts that a file can hold. -/

theorem hasHalfField_fieldsAt {b : Block} (hb : b.IsRecord) (line : Int) :
    Json.hasHalfField (b.fieldsAt line) = false ↔ b.HasWholeTexts := by
  obtain ⟨number, wait, retries, flow, other, name, display, strategy, _, rfl⟩ := hb.exists_eq
  have hkeys : ["blockLine", "flowName", "flowAliasName", "directiveName",
      "directiveDisplayName", "failureStrategy", "intervalTime", "retryCount", "scriptLine"].map
      CodePoint.hasHalf = List.replicate 9 false := by decide
  simp only [List.map_cons, List.map_nil, List.replicate, List.cons.injEq, and_true] at hkeys
  simp [Block.HasWholeTexts, Block.fieldsAt, Block.toFields, Json.hasHalfField, Json.hasHalf, hkeys]

theorem hasHalf_document (h : t.HoldsRecords) :
    t.document.hasHalf = false ↔ ∀ e ∈ t.entries, e.2.HasWholeTexts := by
  have hitems : ∀ es : List (Int × Block), (∀ e ∈ es, e.2.IsRecord) →
      (Json.hasHalfItem (entryDocuments es) = false ↔ ∀ e ∈ es, e.2.HasWholeTexts) := by
    intro es
    induction es with
    | nil => exact fun _ => ⟨fun _ e he => absurd he List.not_mem_nil, fun _ => rfl⟩
    | cons e es ih =>
      intro h
      have hlist : entryDocuments (e :: es) = .obj (e.2.fieldsAt e.1) :: entryDocuments es := rfl
      rw [hlist, Json.hasHalfItem, Json.hasHalf, Bool.or_eq_false_iff,
        hasHalfField_fieldsAt (h e List.mem_cons_self),
        ih (fun x hx => h x (List.mem_cons_of_mem e hx)), List.forall_mem_cons]
  have hversion : CodePoint.hasHalf "version" = false := by decide
  have hblocks : CodePoint.hasHalf "blocks" = false := by decide
  simp only [document, Json.hasHalf, Json.hasHalfField, hversion, hblocks, Bool.false_or,
    Bool.or_false]
  exact hitems t.entries h

/-- **A table of records can be written exactly if its numbers and its texts can**, and then the
file holds its text. -/
theorem exec_write_eq_ok (h : t.HoldsRecords) {folder folder' : Folder} {path name : String}
    (hpath : folder.LeadsTo path name) :
    (t.write room path).exec folder = (.ok (), folder') ↔
      (∀ e ∈ t.entries, IsWritableEntry e ∧ e.2.HasWholeTexts)
        ∧ folder' = folder.stored name t.document.renderIndented := by
  have hhalf : CodePoint.hasHalf t.document.renderIndented = t.document.hasHalf :=
    Json.hasHalf_renderAt t.document 0 (isExact_document h)
  constructor
  · intro hrun
    rw [hpath.exec_writeTable] at hrun
    cases htext : t.toText room with
    | error fault =>
      rw [htext] at hrun
      cases hrun
    | ok text =>
      obtain ⟨hwritable, rfl⟩ := (toText_eq_ok h).mp htext
      rw [htext] at hrun
      cases hcase : CodePoint.hasHalf t.document.renderIndented with
      | true =>
        simp only [hcase, if_true] at hrun
        cases hrun
      | false =>
        simp only [hcase, Bool.false_eq_true, if_false] at hrun
        have hwhole := (hasHalf_document h).mp (hhalf.symm.trans hcase)
        exact ⟨fun e he => ⟨hwritable e he, hwhole e he⟩, (Prod.mk.inj hrun).2.symm⟩
  · rintro ⟨hentries, rfl⟩
    have htext : t.toText room = .ok t.document.renderIndented :=
      (toText_eq_ok h).mpr ⟨fun e he => (hentries e he).1, rfl⟩
    have hcase := hhalf.trans ((hasHalf_document h).mpr fun e he => (hentries e he).2)
    rw [hpath.exec_writeTable, htext]
    simp only [hcase, Bool.false_eq_true, if_false]

/-! ## §6. The round trip. -/

/-- **THE ROUND TRIP.**  A table that was read from a document or compiled from a
flow is the table that is read from its own document.  It can be written to a
file exactly if none of its numbers has too many digits and none of its texts has
a lone half, and then reading the file gives the table. -/
theorem persisted (h : t.IsMade) (limits : Json.Limits) :
    (∃ v, t.toDocument limits.recording = .ok v ∧ ofDocument v = .ok t)
      ∧ ∀ (folder : Folder) (path name : String), folder.LeadsTo path name →
        ((∃ folder', (t.write limits.recording path).exec folder = (.ok (), folder'))
            ↔ ∀ e ∈ t.entries, IsWritableEntry e ∧ e.2.HasWholeTexts)
          ∧ ∀ folder', (t.write limits.recording path).exec folder = (.ok (), folder') →
            ofFile limits.reading folder' path = .ok t := by
  have hrecords := h.holdsRecords
  refine ⟨⟨t.document, toDocument_of_holdsRecords hrecords, ofDocument_document hrecords⟩, ?_⟩
  intro folder path name hpath
  constructor
  · constructor
    · rintro ⟨folder', hwrite⟩
      exact ((exec_write_eq_ok hrecords hpath).mp hwrite).1
    · intro hentries
      exact ⟨_, (exec_write_eq_ok hrecords hpath).mpr ⟨hentries, rfl⟩⟩
  · intro folder' hwrite
    obtain ⟨hentries, rfl⟩ := (exec_write_eq_ok hrecords hpath).mp hwrite
    have htext : t.toText limits.recording = .ok t.document.renderIndented :=
      (toText_eq_ok hrecords).mpr ⟨fun e he => (hentries e he).1, rfl⟩
    have hread := hpath.read_stored t.document.renderIndented
    rw [ofFile, hread]
    simp only [bind, Except.bind]
    exact ofText_of_toText hrecords htext

/-- A document with entries that are missing, mistyped, repeated and out of order. -/
def messyDocument : Json :=
  .obj
    [("blocks", .arr
      [.obj [("scriptLine", " 7 "), ("blockLine", "3"), ("flowName", .null),
          ("failureStrategy", "")],
        .int 5, .obj [("blockLine", .int 1)],
        .obj [("scriptLine", .int 2), ("retryCount", "x"), ("directiveName", .arr [.int 1])],
        .obj [("scriptLine", .int 7), ("flowName", "f\n\"\u2028")]])]

theorem leadsTo_newFile : ({} : Folder).LeadsTo "b.json" "b.json" := .inr rfl

theorem persisted_messy :
    (∃ t, ofDocument messyDocument = .ok t ∧ t.IsMade ∧ t.size = 2
        ∧ ({} : Folder).LeadsTo "b.json" "b.json"
        ∧ ∃ folder, (t.write 0 "b.json").exec {} = (.ok (), folder)
          ∧ ofFile 3 folder "b.json" = .ok t)
      ∧ ∃ out, ({} : Compiler).compileFlowDocument Compiler.twoSteps (.int 7) = .ok out
          ∧ out.blocks.IsMade
          ∧ ∃ v, out.blocks.toDocument 0 = .ok v ∧ ofDocument v = .ok out.blocks := by
  let limits : Json.Limits :=
    { reading := 3, copying := 0, recording := 0, three_le_reading := le_rfl }
  constructor
  · obtain ⟨t, ht, hshown⟩ := exists_of_toOption_map
      (show (ofDocument messyDocument).toOption.map (fun t => (t.size, t.entries.all (fun e =>
          !Json.hasOverlongField (e.2.fieldsAt e.1) && !Json.hasHalfField (e.2.fieldsAt e.1))))
        = some (2, true) by decide +kernel)
    obtain ⟨hsize, hchecked⟩ := Prod.mk.inj hshown
    have hentries : ∀ e ∈ t.entries, IsWritableEntry e ∧ e.2.HasWholeTexts := by
      intro e he
      have hrecord := holdsRecords_of_ofDocument ht e he
      have hclean := List.all_eq_true.mp hchecked e he
      rw [Bool.and_eq_true, Bool.not_eq_true', Bool.not_eq_true'] at hclean
      exact ⟨(hasOverlongField_fieldsAt hrecord e.1).mp hclean.1,
        (hasHalfField_fieldsAt hrecord e.1).mp hclean.2⟩
    obtain ⟨hwritten, hread⟩ := (persisted (.read ht) limits).2 {} "b.json" "b.json" leadsTo_newFile
    obtain ⟨folder, hfolder⟩ := hwritten.mpr hentries
    exact ⟨t, ht, .read ht, hsize, leadsTo_newFile, folder, hfolder, hread folder hfolder⟩
  · obtain ⟨out, hout⟩ := exists_of_toOption
      (show (({} : Compiler).compileFlowDocument Compiler.twoSteps (.int 7)).toOption.isSome = true
        by decide +kernel)
    have hmade : out.blocks.IsMade := by
      refine isMade_of_compileFlowDocument Compiler.ofDocument_twoSteps (Or.inr ⟨_, rfl⟩) ?_ hout
      intro d hd
      simp only [Compiler.twoStepsFlow, List.mem_cons, List.not_mem_nil, or_false] at hd
      rcases hd with rfl | rfl <;> exact Or.inl rfl
    exact ⟨out, hout, hmade, (persisted hmade limits).1⟩

/-- A document whose one entry stands at a line with too many digits. -/
def farDocument : Json :=
  .obj [("blocks", .arr [.obj [("scriptLine", .int Numeral.digitBound)]])]

/-- It is read, but no machine writes the table to any file. -/
theorem far_unwritten :
    ∃ t, ofDocument farDocument = .ok t ∧ t.size = 1
      ∧ ∀ (room : Nat) (folder : Folder) (path : String),
        ∃ f, (t.write room path).exec folder = (.error f, folder) := by
  obtain ⟨t, ht, hlines⟩ := exists_of_toOption_map
    (show (ofDocument farDocument).toOption.map lines = some [(Numeral.digitBound : Int)] by
      decide +kernel)
  have hrecords := holdsRecords_of_ofDocument ht
  have hsize : t.size = 1 :=
    calc t.size = t.lines.length := (List.length_map _).symm
      _ = 1 := congrArg List.length hlines
  refine ⟨t, ht, hsize, fun room folder path => ?_⟩
  cases htext : t.toText room with
  | error f => exact ⟨f, Act.exec_bind_error (by rw [htext]; rfl)⟩
  | ok s =>
    obtain ⟨hwritable, -⟩ := (toText_eq_ok hrecords).mp htext
    obtain ⟨e, he, hline⟩ : ∃ e ∈ t.entries, e.1 = Numeral.digitBound := by
      have hmem : (Numeral.digitBound : Int) ∈ t.lines := by rw [hlines]; exact List.mem_cons_self
      exact List.mem_map.mp hmem
    have hlong : Numeral.isOverlong (Numeral.digitBound : Int) = true := by decide +kernel
    rw [← hline, (hwritable e he).1] at hlong
    cases hlong

end BlockTable
end FlowTrace
