/-
  FlowTrace.Proofs.Compiler.Layout
  ────────────────────────────────
  **WHERE THE STATEMENTS OF A FLOW STAND.**

  Compiling a flow counts lines while it emits statements, joins them, and
  enters their blocks in a table.  Three computations have to agree: the
  counter, the joined text, and the look-up.  They do so for every flow, every
  generator and every first line `k`:

      source   — the texts c₀ … cₙ₋₁ of the directives, joined by line feeds
      entries  — the block of directive `i`, at line k + startRow c i
      look-up  — line k + p finds the directive in whose text row `p` lies

  The texts do not depend on `k`, so neither does the source.
-/
import FlowTrace.Proofs.Block.Lookup
import FlowTrace.Proofs.Outcome
import FlowTrace.Proofs.Text.Rows

namespace FlowTrace

open Outcome

/-! ## §1. Directives and flows as they are saved. -/

theorem Binary64.toText_ne_empty (x : Binary64) : x.toText ≠ "" := by
  cases x with
  | nan => simp [toText]
  | infinite negative => cases negative <;> simp [toText]
  | finite negative m e =>
    simp only [toText, ne_eq, String.append_eq_empty_iff, not_and]
    intro _
    split
    · simp
    · simp only [layout]
      split
      · split
        · simp
        · split <;> simp
      · simp

theorem toString_int_ne_empty (n : Int) : toString n ≠ "" := by
  cases n with
  | ofNat n =>
    show Nat.repr n ≠ ""
    simp [Nat.repr]
  | negSucc n =>
    show "-" ++ Nat.repr (n + 1) ≠ ""
    simp

/-- A value that counts as given has a text. -/
theorem Json.text_ne_empty {v : Json} (h : v.truthy = true) : v.text ≠ "" := by
  cases v with
  | null => simp [truthy] at h
  | bool b => cases b <;> simp [text, shown]
  | int n => exact toString_int_ne_empty n
  | float x => exact x.toText_ne_empty
  | str s => simpa [truthy, text] using h
  | arr items => simp [text, shown]
  | obj fields => simp [text, shown]

theorem Json.orElse_of_truthy {v w : Json} (h : v.truthy = true) : v.orElse w = v := if_pos h

theorem Json.textOrEmpty_str (s : String) : (Json.str s).textOrEmpty = s := by
  rw [textOrEmpty]
  split
  · rfl
  · next h => simpa [truthy] using h

/-- What reading a document fixes about a directive: its name and its failure
strategy are texts, and its numbers are whole. -/
structure Directive.IsSaved (d : Directive) : Prop where
  name : ∃ s, d.name = .str s
  failureStrategy : ∃ s, d.failureStrategy = .str s ∧ s ≠ ""
  intervalTime : ∃ n, d.intervalTime = .int n
  retryCount : ∃ n, d.retryCount = .int n

theorem Directive.isSaved_of_ofDocument {v : Json} {d : Directive}
    (h : Directive.ofDocument v = .ok d) : d.IsSaved := by
  simp only [Directive.ofDocument, bind_eq_ok] at h
  obtain ⟨fields, _, h⟩ := h
  split at h
  · simp [bind_eq_ok, throw_ne_ok] at h
  · split at h
    · split at h
      · simp only [bind_eq_ok, pure_eq_ok] at h
        obtain ⟨_, _, _, _, _, _, _, _, rfl⟩ := h
        refine ⟨⟨_, rfl⟩, ⟨_, rfl, Json.text_ne_empty ?_⟩, ⟨_, rfl⟩, ⟨_, rfl⟩⟩
        unfold Json.orElse
        split
        · assumption
        · rfl
      · exact absurd h throw_ne_ok
    · exact absurd h throw_ne_ok

theorem Flow.isSaved_of_directivesOf {vs : List Json} {ds : List Directive}
    (h : Flow.directivesOf vs = .ok ds) : ∀ d ∈ ds, d.IsSaved := by
  induction vs generalizing ds with
  | nil =>
    cases h
    simp
  | cons v rest ih =>
    simp only [Flow.directivesOf, bind_eq_ok, pure_eq_ok] at h
    obtain ⟨d, hd, ds', hds, rfl⟩ := h
    intro x hx
    rcases List.mem_cons.mp hx with rfl | hx
    · exact Directive.isSaved_of_ofDocument hd
    · exact ih hds x hx

/-- A flow that was read has a text for its name and saved directives. -/
theorem Flow.isSaved_of_ofDocument {v : Json} {flow : Flow} (h : Flow.ofDocument v = .ok flow) :
    (∃ s, flow.name = .str s) ∧ ∀ d ∈ flow.directives, d.IsSaved := by
  simp only [Flow.ofDocument, bind_eq_ok] at h
  obtain ⟨fields, _, h⟩ := h
  split at h
  · simp [bind_eq_ok, throw_ne_ok] at h
  · split at h
    · simp only [bind_eq_ok, pure_eq_ok] at h
      obtain ⟨ds, hds, rfl⟩ := h
      exact ⟨⟨_, rfl⟩, isSaved_of_directivesOf hds⟩
    · exact absurd h throw_ne_ok

/-- The block of directive `i` of a flow. -/
def Flow.blockOf (f : Flow) (i : Nat) (d : Directive) : Block :=
  { line := .int (i + 1), flowName := f.name, flowAlias := f.label, directiveName := d.name
    displayName := d.displayName.orElse d.name, failureStrategy := d.failureStrategy
    intervalTime := d.intervalTime, retryCount := d.retryCount }

/-- The record of a saved directive says what the directive says. -/
theorem Block.ofDirective_of_isSaved {d : Directive} (h : d.IsSaved) (f : Flow) (i : Nat)
    (name : Json) : Block.ofDirective d (.int (i + 1)) (some f) name = f.blockOf i d := by
  obtain ⟨s, hs, hne⟩ := h.failureStrategy
  obtain ⟨m, hm⟩ := h.intervalTime
  obtain ⟨n, hn⟩ := h.retryCount
  have hstrategy : d.failureStrategy.orElse (.str "terminate") = d.failureStrategy :=
    Json.orElse_of_truthy (by simpa [hs, Json.truthy] using hne)
  have hzero : ∀ k : Int, (Json.int k).orElse (.int 0) = .int k := by
    intro k
    by_cases hk : k = 0 <;> simp [Json.orElse, Json.truthy, hk]
  simp [ofDirective, Flow.blockOf, hstrategy, hm, hn, hzero]

/-! ## §2. The statements of a flow. -/

namespace Compiler

variable {c : Compiler} {flow : Flow}

/-- The text that directive `d` at index `i` of a flow compiles to. -/
def textAt (c : Compiler) (flow : Flow) (i : Nat) (d : Directive) : Except Fault String :=
  (c.compileDirective d (.int (i + 1)) (some flow)).map Prod.fst

/-- Restoring descriptors leaves the record of a directive as it is. -/
theorem block_of_compileDirective {d d' : Directive} {line : Json} {code : String}
    (h : c.compileDirective d line (some flow) = .ok (code, d')) (n : Json) :
    c.block d' n (some flow) = c.block d n (some flow) := by
  simp only [compileDirective, restore, bind_eq_ok, pure_eq_ok] at h
  obtain ⟨_, _, r, ⟨_, _, _, _, rfl⟩, g, _, _, _, hcode⟩ := h
  cases hcode
  rfl

/-- The statements of directives: each has the text and the block of its
directive and begins where the texts before it end. -/
theorem statements_getElem? {ds : List Directive} {number line : Int} {ss : List Statement}
    (h : c.statements flow number line ds = .ok ss) :
    ss.length = ds.length ∧ ∀ (i : Nat) (d : Directive), ds[i]? = some d →
      ∃ code d', c.compileDirective d (.int (number + i)) (some flow) = .ok (code, d')
        ∧ ss[i]? = some
            { code := code, line := line + startRow (ss.map Statement.code) i
              block := c.block d (.int (number + i)) (some flow) } := by
  induction ds generalizing number line ss with
  | nil =>
    cases h
    simp
  | cons d rest ih =>
    simp only [statements, bind_eq_ok, pure_eq_ok] at h
    obtain ⟨⟨code, d'⟩, hcode, more, hmore, rfl⟩ := h
    obtain ⟨hlen, hat⟩ := ih hmore
    refine ⟨by simp [hlen], ?_⟩
    intro i x hx
    cases i with
    | zero =>
      simp only [List.getElem?_cons_zero, Option.some.injEq] at hx
      subst hx
      refine ⟨code, d', by simpa using hcode, ?_⟩
      simp [block_of_compileDirective hcode]
    | succ i =>
      rw [List.getElem?_cons_succ] at hx
      obtain ⟨code', x', hx', hss⟩ := hat i x hx
      have hnumber : number + 1 + (i : Int) = number + ((i + 1 : Nat) : Int) := by omega
      rw [hnumber] at hx' hss
      -- the rows of the first statement and its line feed come before those of the rest
      have hline : line + newlineCount code + 1 + (startRow (more.map Statement.code) i : Int)
          = line + ((newlineCount code + 1 + startRow (more.map Statement.code) i : Nat) : Int) := by
        omega
      refine ⟨code', x', hx', ?_⟩
      rw [List.getElem?_cons_succ, hss, List.map_cons, startRow_cons_succ, hline]

/-- Another first line moves every statement and changes nothing else. -/
theorem statements_add (δ : Int) (ds : List Directive) (number line : Int) :
    c.statements flow number (line + δ) ds
      = (c.statements flow number line ds).map
          (List.map (fun s => { s with line := s.line + δ })) := by
  induction ds generalizing number line with
  | nil => rfl
  | cons d rest ih =>
    simp only [statements]
    cases hcode : c.compileDirective d (.int number) (some flow) with
    | error f => rfl
    | ok r =>
      obtain ⟨code, d'⟩ := r
      have hline : line + δ + newlineCount code + 1 = line + newlineCount code + 1 + δ := by omega
      show (c.statements flow (number + 1) (line + δ + newlineCount code + 1) rest >>= _) = _
      rw [hline, ih]
      show _ = ((c.statements flow (number + 1) (line + newlineCount code + 1) rest >>= _)).map _
      cases c.statements flow (number + 1) (line + newlineCount code + 1) rest <;> rfl

/-! ## §3. The layout of a compiled flow. -/

/-- How a compiled flow is laid out, with `codes` for the texts of its
directives: what the source is, what the table holds and what it finds. -/
structure LaidOut (c : Compiler) (flow : Flow) (k : Int) (codes : List String)
    (out : CompiledFlow) : Prop where
  codes_length : codes.length = flow.directives.length
  /-- Text `i` is what directive `i` compiles to by itself. -/
  textAt_eq : ∀ i d code, flow.directives[i]? = some d → codes[i]? = some code →
    c.textAt flow i d = .ok code
  source_eq : out.source = String.intercalate "\n" codes
  entries_length : out.blocks.entries.length = flow.directives.length
  /-- Entry `i` is the block of directive `i`, at the line where its text begins. -/
  entries_getElem? : ∀ i d, flow.directives[i]? = some d →
    out.blocks.entries[i]? = some (k + startRow codes i, flow.blockOf i d)
  increasing : (out.blocks.entries.map Prod.fst).Pairwise (· < ·)
  /-- A line of the source finds the one directive in whose text it stands. -/
  lookup_row : flow.directives ≠ [] → ∀ p < (rows out.source.toList).length,
    ∃ i d code, flow.directives[i]? = some d ∧ codes[i]? = some code
      ∧ LiesIn codes p i ∧ (∀ j, LiesIn codes p j → j = i)
      ∧ (rows out.source.toList)[p]? = (rows code.toList)[p - startRow codes i]?
      ∧ out.blocks.lookup? (k + p) = some (flow.blockOf i d)
  lookup_before : ∀ q < k, out.blocks.lookup? q = none

/-- Line `line` belongs to directive `i` of a script that begins at line `k`: its
text holds the line, or it is the last one and the line is past the end. -/
def Owns (codes : List String) (k line : Int) (i : Nat) : Prop :=
  (∃ p : Nat, line = k + p ∧ LiesIn codes p i)
    ∨ (i + 1 = codes.length ∧ k + startRow codes codes.length ≤ line)

/-- A table that holds the blocks of a flow where its texts begin finds a line's
block. -/
theorem lookup?_of_owns {t : BlockTable} {codes : List String} {k line : Int}
    (hcodes : codes.length = flow.directives.length)
    (hlength : t.entries.length = flow.directives.length)
    (hentry : ∀ (i : Nat) d, flow.directives[i]? = some d →
      t.entries[i]? = some (k + startRow codes i, flow.blockOf i d))
    {i : Nat} {d : Directive} (hd : flow.directives[i]? = some d) (howns : Owns codes k line i) :
    t.lookup? line = some (flow.blockOf i d) := by
  have hlt : i < flow.directives.length := (List.getElem?_eq_some_iff.mp hd).1
  have hcode := List.getElem?_eq_getElem (l := codes) (i := i) (by omega)
  have hsucc := startRow_succ hcode
  refine BlockTable.lookup?_eq_some (hentry i d hd) ?_ ?_
  · rcases howns with ⟨p, rfl, _, _, hbegin, _⟩ | ⟨hlast, hend⟩
    · simp only
      omega
    · rw [← hlast] at hend
      simp only
      omega
  · intro x hx
    have hnext : i + 1 < flow.directives.length := by
      have := (List.getElem?_eq_some_iff.mp hx).1
      omega
    -- the next entry begins where text `i` ends
    rw [hentry (i + 1) _ (List.getElem?_eq_getElem hnext)] at hx
    cases hx
    rcases howns with ⟨p, rfl, code, hcode', _, hend⟩ | ⟨hlast, _⟩
    · rw [hcode, Option.some.injEq] at hcode'
      subst hcode'
      simp only
      omega
    · omega

/-- A line in front of the script finds nothing. -/
theorem lookup?_of_lt {t : BlockTable} {codes : List String} {k line : Int}
    (hlength : t.entries.length = flow.directives.length)
    (hentry : ∀ (i : Nat) d, flow.directives[i]? = some d →
      t.entries[i]? = some (k + startRow codes i, flow.blockOf i d))
    (hline : line < k) : t.lookup? line = none := by
  apply BlockTable.lookup?_eq_none
  intro e he
  obtain ⟨i, hi⟩ := List.getElem?_of_mem he
  have hlt : i < flow.directives.length := by
    have := (List.getElem?_eq_some_iff.mp hi).1
    omega
  rw [hentry i _ (List.getElem?_eq_getElem hlt)] at hi
  cases hi
  simp only
  omega

/-- The entries of the statements of a flow, in increasing order of their lines. -/
theorem entries_of_statements {k : Int} {ss : List Statement} {out : CompiledFlow}
    (hss : c.statements flow 1 k flow.directives = .ok ss)
    (hout : c.compileFlow flow k = .ok out) :
    out.blocks.entries = ss.map (fun s => (s.line, s.block)) := by
  simp only [compileFlow, bind_eq_ok, pure_eq_ok] at hout
  obtain ⟨ss', hss', rfl⟩ := hout
  rw [hss] at hss'
  cases hss'
  apply BlockTable.entries_ofList
  obtain ⟨hlen, hat⟩ := statements_getElem? hss
  rw [List.map_map, List.pairwise_map, List.pairwise_iff_getElem]
  intro i j hi hj hij
  obtain ⟨_, _, _, hsi⟩ := hat i _ (List.getElem?_eq_getElem (by omega))
  obtain ⟨_, _, _, hsj⟩ := hat j _ (List.getElem?_eq_getElem (by omega))
  rw [List.getElem?_eq_getElem hi, Option.some.injEq] at hsi
  rw [List.getElem?_eq_getElem hj, Option.some.injEq] at hsj
  have hrow : startRow (ss.map Statement.code) i < startRow (ss.map Statement.code) j :=
    startRow_lt hij (by simpa using hi)
  simp only [Function.comp_apply, hsi, hsj]
  omega

/-- Statement `i` of saved directives is the text of directive `i` with its block, at
the line where the text begins. -/
theorem statement_of_isSaved {k : Int} {ss : List Statement}
    (hsaved : ∀ d ∈ flow.directives, d.IsSaved)
    (hss : c.statements flow 1 k flow.directives = .ok ss) {i : Nat} {d : Directive}
    (hd : flow.directives[i]? = some d) :
    ∃ code, c.textAt flow i d = .ok code ∧ ss[i]? = some
      { code := code, line := k + startRow (ss.map Statement.code) i
        block := flow.blockOf i d } := by
  obtain ⟨_, hat⟩ := statements_getElem? hss
  obtain ⟨code, d', hcode, hs⟩ := hat i d hd
  have hblock := Block.ofDirective_of_isSaved
    (hsaved d (List.mem_of_getElem? hd)) flow i c.options.debugFlowName
  rw [Int.add_comm 1] at hcode hs
  refine ⟨code, by rw [textAt, hcode]; rfl, ?_⟩
  rw [hs, block, hblock]

/-- **A compiled flow of saved directives is laid out by its texts.** -/
theorem laidOut_of_compileFlow {k : Int} {out : CompiledFlow}
    (hsaved : ∀ d ∈ flow.directives, d.IsSaved) (hout : c.compileFlow flow k = .ok out) :
    ∃ codes, c.LaidOut flow k codes out := by
  obtain ⟨ss, hss, _⟩ := bind_eq_ok.mp hout
  obtain ⟨hlen, _⟩ := statements_getElem? hss
  have hentries := entries_of_statements hss hout
  have hlength : out.blocks.entries.length = flow.directives.length := by simp [hentries, hlen]
  have hcodes : (ss.map Statement.code).length = flow.directives.length := by simpa using hlen
  have hsource : out.source = String.intercalate "\n" (ss.map Statement.code) := by
    simp only [compileFlow, hss] at hout
    cases hout
    rfl
  have hentry : ∀ (i : Nat) d, flow.directives[i]? = some d →
      out.blocks.entries[i]?
        = some (k + startRow (ss.map Statement.code) i, flow.blockOf i d) := by
    intro i d hd
    obtain ⟨code, _, hs⟩ := statement_of_isSaved hsaved hss hd
    rw [hentries, List.getElem?_map, hs]
    rfl
  refine ⟨ss.map Statement.code, ?_⟩
  constructor
  case codes_length => exact hcodes
  case textAt_eq =>
    intro i d code hd hcode
    obtain ⟨code', htext, hs⟩ := statement_of_isSaved hsaved hss hd
    rw [List.getElem?_map, hs] at hcode
    cases hcode
    exact htext
  case source_eq => exact hsource
  case entries_length => exact hlength
  case entries_getElem? => exact hentry
  case increasing => exact out.blocks.increasing
  case lookup_row =>
    intro hne p hp
    have hsome : ss.map Statement.code ≠ [] := by
      intro hnil
      rw [hnil] at hcodes
      exact hne (List.length_eq_zero_iff.mp hcodes.symm)
    rw [hsource, rows_intercalate hsome] at hp ⊢
    -- the text that holds row `p`, and the directive it is the text of
    obtain ⟨i, hi⟩ := exists_liesIn hp
    obtain ⟨code, hcode, hbegin, hend⟩ := hi
    have hlies : LiesIn (ss.map Statement.code) p i := ⟨code, hcode, hbegin, hend⟩
    have hlt : i < flow.directives.length := hcodes ▸ hlies.lt_length
    have hd := List.getElem?_eq_getElem hlt
    refine ⟨i, _, code, hd, hcode, hlies, fun j hj => hj.unique hlies, ?_, ?_⟩
    · rw [← getElem?_flatMap_rows hcode (r := p - startRow (ss.map Statement.code) i) (by omega)]
      congr 1
      omega
    · exact lookup?_of_owns hcodes hlength hentry hd (Or.inl ⟨p, rfl, hlies⟩)
  case lookup_before => exact fun q hq => lookup?_of_lt hlength hentry hq

/-- The texts of a flow, and so its source, do not depend on the first line. -/
theorem compileFlow_of_other_line {k : Int} {out : CompiledFlow}
    (hout : c.compileFlow flow k = .ok out) (k' : Int) :
    ∃ out', c.compileFlow flow k' = .ok out' ∧ out'.source = out.source := by
  simp only [compileFlow, bind_eq_ok, pure_eq_ok] at hout ⊢
  obtain ⟨ss, hss, rfl⟩ := hout
  have hk : k' = k + (k' - k) := by omega
  rw [hk, statements_add, hss]
  refine ⟨_, ⟨_, rfl, rfl⟩, ?_⟩
  simp [List.map_map, Function.comp_def]

/-- A flow that is given as a document is read and compiled. -/
theorem compileFlowDocument_eq_ok {v : Json} {k : Int} {out : CompiledFlow} :
    c.compileFlowDocument v (.int k) = .ok out ↔
      ∃ flow, Flow.ofDocument v = .ok flow ∧ c.compileFlow flow k = .ok out := by
  have htoInt : (Json.int k).toInt = .ok k := rfl
  unfold compileFlowDocument
  split <;> simp [htoInt, bind_eq_ok]

/-- **THE LAYOUT THEOREM**: whatever flow document compiles, with whatever
generators, its source is the texts of its directives joined by line feeds, its
table holds their blocks where the texts begin, and a look-up finds for every
line of the source the directive that it belongs to. -/
theorem compileFlowDocument_laidOut {v : Json} {k : Int} {out : CompiledFlow}
    (h : c.compileFlowDocument v (.int k) = .ok out) :
    ∃ flow codes, Flow.ofDocument v = .ok flow ∧ c.LaidOut flow k codes out
      ∧ ∀ k' : Int, ∃ out', c.compileFlowDocument v (.int k') = .ok out'
          ∧ out'.source = out.source := by
  obtain ⟨flow, hflow, hout⟩ := compileFlowDocument_eq_ok.mp h
  obtain ⟨codes, hlaid⟩ := laidOut_of_compileFlow (Flow.isSaved_of_ofDocument hflow).2 hout
  refine ⟨flow, codes, hflow, hlaid, ?_⟩
  intro k'
  obtain ⟨out', hout', hsource⟩ := compileFlow_of_other_line hout k'
  exact ⟨out', compileFlowDocument_eq_ok.mpr ⟨flow, hflow, hout'⟩, hsource⟩

/-- A flow of a directive with two lines of code of its own and one that calls the
runtime. -/
def twoSteps : Json :=
  .obj
    [("name", "f"), ("aliasName", "\"f\""),
      ("directives", .arr
        [.obj [("name", "a"), ("generator", "raw"),
            ("inputs", .obj [("code", .obj [("value", "x();\ny();")])]), ("outputs", .obj [])],
          .obj [("name", "b"), ("inputs", .obj []), ("outputs", .obj [])]])]

theorem compileFlowDocument_laidOut_twoSteps :
    ∃ out, ({} : Compiler).compileFlowDocument twoSteps (.int 7) = .ok out
      ∧ ∃ flow codes, Flow.ofDocument twoSteps = .ok flow
          ∧ ({} : Compiler).LaidOut flow 7 codes out
          ∧ ∀ k' : Int, ∃ out', ({} : Compiler).compileFlowDocument twoSteps (.int k') = .ok out'
              ∧ out'.source = out.source := by
  obtain ⟨out, hout⟩ := exists_of_toOption
    (show (({} : Compiler).compileFlowDocument twoSteps (.int 7)).toOption.isSome = true by
      decide +kernel)
  exact ⟨out, hout, compileFlowDocument_laidOut hout⟩

end Compiler
end FlowTrace
