/-
  FlowTrace.Proofs.Block.Rescan
  ────────────────────────────────
  **SCANNING AN EMITTED SCRIPT GIVES THE TABLE BACK.**

  The compiler's table and the table that a scan of the script builds share no
  code: one counts lines while statements are emitted, the other looks for
  block calls in the lines of the text.  They agree as long as the scan cannot
  be misled:

      first line  — a statement makes its block call on its first line
      boundaries  — line feeds are the only line boundaries
      elsewhere   — before the call and on later lines nothing looks like a call

  The names in the call may hold anything, quotes, backslashes and the text of
  further calls included.
-/
import FlowTrace.Proofs.Block.Call
import FlowTrace.Proofs.Compiler.Layout

namespace FlowTrace

open Outcome

namespace Scan

/-! ## §1. Where a call can begin. -/

/-- The characters hold the factory's name before an opening parenthesis. -/
def Mentions (factory : String) (cs : List Char) : Prop := factory.toList ++ ['('] <:+: cs

instance (factory : String) (cs : List Char) : Decidable (Mentions factory cs) :=
  inferInstanceAs (Decidable (_ <:+: _))

theorem Mentions.cons {factory : String} {c : Char} {cs : List Char} (h : Mentions factory cs) :
    Mentions factory (c :: cs) :=
  h.trans (List.suffix_cons c cs).isInfix

/-- Characters that do not mention the factory hold no call. -/
theorem firstCall?_eq_none {factory : String} {cs : List Char} (h : ¬ Mentions factory cs) :
    firstCall? factory.toList cs = none := by
  match cs with
  | [] => rfl
  | [_] => rfl
  | c :: d :: rest =>
    have hhere : callHere? factory.toList (c :: d :: rest) = none := by
      rw [Option.eq_none_iff_forall_ne_some]
      intro call hcall
      exact h (prefix_of_callHere? hcall).isInfix
    have hnext : ¬ Mentions factory (d :: rest) := fun hd => h hd.cons
    have hskip : ¬ Mentions factory rest := fun hr => hnext hr.cons
    simp only [firstCall?, hhere, firstCall?_eq_none hnext, firstCall?_eq_none hskip, ite_self]

/-- A word without the character `x` does not reach over it. -/
theorem prefix_of_prefix_append_cons {word lead site : List Char} {x : Char} (hx : x ∉ word)
    (h : word <+: lead ++ x :: site) : word <+: lead := by
  induction lead generalizing word with
  | nil =>
    cases word with
    | nil => exact List.nil_prefix
    | cons w word =>
      rw [List.nil_append, List.cons_prefix_cons] at h
      exact absurd (h.1 ▸ List.mem_cons_self) hx
  | cons c lead ih =>
    cases word with
    | nil => exact List.nil_prefix
    | cons w word =>
      rw [List.cons_append, List.cons_prefix_cons] at h
      rw [List.cons_prefix_cons]
      exact ⟨h.1, ih (fun hmem => hx (List.mem_cons_of_mem w hmem)) h.2⟩

/-- **The leftmost call**: behind characters that do not mention the factory and a
blank, the scan finds the call that begins there. -/
theorem firstCall?_append {factory : String} (hblank : ' ' ∉ factory.toList) {site : List Char}
    {call : Call} (hcall : callHere? factory.toList site = some call) (hlong : 2 ≤ site.length)
    {lead : List Char} (h : ¬ Mentions factory lead) :
    firstCall? factory.toList (lead ++ ' ' :: site) = some call := by
  -- no call begins in front of the site
  have hhere : ∀ {xs : List Char}, ¬ Mentions factory xs →
      callHere? factory.toList (xs ++ ' ' :: site) = none := by
    intro xs hxs
    rw [Option.eq_none_iff_forall_ne_some]
    intro found hfound
    have hblank' : ' ' ∉ factory.toList ++ ['('] := by simpa using hblank
    exact hxs (prefix_of_prefix_append_cons hblank' (prefix_of_callHere? hfound)).isInfix
  obtain ⟨x, y, rest, rfl⟩ : ∃ x y rest, site = x :: y :: rest := by
    match site, hlong with
    | x :: y :: rest, _ => exact ⟨x, y, rest, rfl⟩
  have hsite : firstCall? factory.toList (x :: y :: rest) = some call := by
    rw [firstCall?, hcall]
  have hone : firstCall? factory.toList (' ' :: x :: y :: rest) = some call := by
    have hnil : ¬ Mentions factory [] := fun hm => h (hm.trans List.nil_infix)
    have hmark : (' ' : Char) ≠ CodePoint.mark := by decide
    have hnone := hhere hnil
    rw [List.nil_append] at hnone
    rw [firstCall?, hnone, if_neg hmark, hsite]
  -- the scan skips one character, or two behind a mark
  match lead with
  | [] => exact hone
  | [c] =>
    have hnone := hhere h
    rw [List.singleton_append] at hnone ⊢
    rw [firstCall?, hnone]
    dsimp only
    split
    · exact hsite
    · exact hone
  | c :: d :: lead =>
    have hnext : ¬ Mentions factory (d :: lead) := fun hd => h hd.cons
    have hskip : ¬ Mentions factory lead := fun hl => hnext hl.cons
    have hnone := hhere h
    rw [List.cons_append, List.cons_append] at hnone ⊢
    rw [firstCall?, hnone]
    dsimp only
    split
    · exact firstCall?_append hblank hcall hlong hskip
    · exact firstCall?_append hblank hcall hlong hnext

/-- The first call of a line begins somewhere on it. -/
theorem exists_callHere? {factory cs : List Char} {call : Call}
    (h : firstCall? factory cs = some call) :
    ∃ before site, cs = before ++ site ∧ callHere? factory site = some call := by
  match cs with
  | [] => cases h
  | [_] => cases h
  | c :: d :: rest =>
    rw [firstCall?] at h
    split at h
    · next hhere =>
      cases h
      exact ⟨[], _, rfl, hhere⟩
    · split at h
      · obtain ⟨before, site, hsplit, hhere⟩ := exists_callHere? h
        exact ⟨c :: d :: before, site, by rw [hsplit]; rfl, hhere⟩
      · obtain ⟨before, site, hsplit, hhere⟩ := exists_callHere? h
        exact ⟨c :: before, site, by rw [hsplit]; rfl, hhere⟩

/-! ## §2. Rows. -/

/-- Rows without a call are passed over. -/
theorem scanLines_append {factory : String} {xs : List (List Char)}
    (h : ∀ row ∈ xs, ¬ Mentions factory row) (line : Nat) (ys : List (List Char)) :
    scanLines factory.toList line (xs ++ ys)
      = scanLines factory.toList (line + xs.length) ys := by
  induction xs generalizing line with
  | nil => rfl
  | cons row xs ih =>
    have hrow : firstCall? factory.toList row = none :=
      firstCall?_eq_none (h row List.mem_cons_self)
    rw [List.cons_append, scanLines, hrow]
    simp only
    rw [ih (fun x hx => h x (List.mem_cons_of_mem row hx)), List.length_cons]
    congr 1
    omega

/-- An empty last row makes no difference. -/
theorem scanLines_append_empty (factory : String) (line : Nat) (xs : List (List Char)) :
    scanLines factory.toList line (xs ++ [[]]) = scanLines factory.toList line xs := by
  induction xs generalizing line with
  | nil => rfl
  | cons row xs ih => simp only [List.cons_append, scanLines, ih]

/-- Where line feeds are the only line boundaries, scanning the lines is scanning
the rows. -/
theorem scanLines_lines {cs : List Char} (h : ∀ c ∈ cs, isLineBreak c = true → c = '\n')
    (factory : String) (line : Nat) :
    scanLines factory.toList line (lines cs) = scanLines factory.toList line (rows cs) := by
  rcases rows_eq_lines h with hrows | hrows
  · rw [hrows]
  · rw [hrows, scanLines_append_empty]

/-! ## §3. Statements. -/

/-- How a block call stands in its statement, between `lead` and `tail`, when a
scan cannot miss it or mistake anything else for it. -/
structure Exposed (options : Options) (lead call tail : List Char) : Prop where
  first_line : ∀ c ∈ lead ++ call, isLineBreak c = false
  boundaries : ∀ c ∈ tail, isLineBreak c = true → c = '\n'
  /-- Nothing in front of the factory's name looks like a call of it. -/
  before : ¬ Mentions options.blockFactory (lead ++ options.blockVar.toList ++ " = ".toList)
  /-- Nothing on the later lines does. -/
  later : ∀ row ∈ (rows tail).tail, ¬ Mentions options.blockFactory row

instance (options : Options) (lead call tail : List Char) :
    Decidable (Exposed options lead call tail) :=
  letI : Decidable (∀ c ∈ lead ++ call, isLineBreak c = false) := List.decidableBAll _ _
  letI : Decidable (∀ c ∈ tail, isLineBreak c = true → c = '\n') := List.decidableBAll _ _
  decidable_of_iff
    ((∀ c ∈ lead ++ call, isLineBreak c = false) ∧ (∀ c ∈ tail, isLineBreak c = true → c = '\n')
      ∧ ¬ Mentions options.blockFactory (lead ++ options.blockVar.toList ++ " = ".toList)
      ∧ ∀ row ∈ (rows tail).tail, ¬ Mentions options.blockFactory row)
    ⟨fun ⟨h1, h2, h3, h4⟩ => ⟨h1, h2, h3, h4⟩, fun ⟨h1, h2, h3, h4⟩ => ⟨h1, h2, h3, h4⟩⟩

/-- **One statement**: its rows give the record of its block call and nothing
else. -/
theorem scanLines_statement {options : Options} {b : Block} {blockCode : String}
    {lead tail : List Char} (hb : b.IsCallable) (hblank : ' ' ∉ options.blockFactory.toList)
    (hcode : Script.blockCall b options.blockFactory options.blockVar = .ok blockCode)
    (hexposed : Exposed options lead blockCode.toList tail) (line : Nat)
    (rest : List (List Char)) :
    scanLines options.blockFactory.toList line
        (rows (lead ++ blockCode.toList ++ tail) ++ rest)
      = (scanLines options.blockFactory.toList
          (line + (rows (lead ++ blockCode.toList ++ tail)).length) rest).map
          (((line : Int), b) :: ·) := by
  obtain ⟨args, hchars, hscan⟩ := Script.callHere?_blockCall hb hcode
  have hfeed : '\n' ∉ lead ++ blockCode.toList := by
    intro hmem
    have := hexposed.first_line _ hmem
    rw [isLineBreak_newline] at this
    cases this
  -- the call stands in the first row, and the other rows are those of what follows it
  have hrows := rows_append_of_not_mem hfeed tail
  obtain ⟨call, hhere, hblock⟩ := hscan ((rows tail).headD [])
  have hbefore := hexposed.before
  have hfirst : firstCall? options.blockFactory.toList
      (lead ++ blockCode.toList ++ (rows tail).headD []) = some call := by
    have hsplit : lead ++ blockCode.toList ++ (rows tail).headD []
        = (lead ++ options.blockVar.toList ++ [' ', '=']) ++ ' ' ::
          (options.blockFactory.toList ++ '(' :: (args ++ ')' :: (rows tail).headD [])) := by
      rw [hchars]
      simp
    -- no call begins in front of this one: neither in what leads to it nor in its assignment
    rw [hsplit]
    refine firstCall?_append hblank hhere (by simp; omega) (fun hm => hbefore ?_)
    refine hm.trans ⟨[], [' '], ?_⟩
    simp
  rw [hrows, List.cons_append, scanLines, hfirst]
  simp only [hblock]
  rw [scanLines_append hexposed.later, List.length_cons]
  have hline : line + 1 + (rows tail).tail.length = line + ((rows tail).tail.length + 1) := by omega
  rw [hline]
  cases scanLines options.blockFactory.toList (line + ((rows tail).tail.length + 1)) rest <;> rfl

/-- A statement whose block call a scan reads. -/
def IsReadable (options : Options) (s : Statement) : Prop :=
  s.block.IsCallable ∧ ∃ blockCode lead tail,
    Script.blockCall s.block options.blockFactory options.blockVar = .ok blockCode
      ∧ s.code.toList = lead ++ blockCode.toList ++ tail
      ∧ Exposed options lead blockCode.toList tail

/-- **The statements of a flow**: their rows give their records at the lines at
which the compiler counted them. -/
theorem scanLines_statements {c : Compiler} {flow : Flow}
    (hblank : ' ' ∉ c.options.blockFactory.toList) {ds : List Directive} {number : Int}
    {line : Nat} {ss : List Statement} (h : c.statements flow number line ds = .ok ss)
    (hread : ∀ s ∈ ss, IsReadable c.options s) :
    scanLines c.options.blockFactory.toList line (ss.flatMap (fun s => rows s.code.toList))
      = .ok (ss.map (fun s => (s.line, s.block))) := by
  induction ds generalizing number line ss with
  | nil =>
    cases h
    rfl
  | cons d rest ih =>
    simp only [Compiler.statements, bind_eq_ok, pure_eq_ok] at h
    obtain ⟨⟨code, d'⟩, hcode, more, hmore, rfl⟩ := h
    obtain ⟨hcallable, blockCode, lead, tail, hcall, hsplit, hexposed⟩ :=
      hread _ List.mem_cons_self
    have hline : (line : Int) + Compiler.newlineCount code + 1
        = ((line + (rows code.toList).length : Nat) : Int) := by
      have := length_rows_toList code
      omega
    rw [hline] at hmore
    have hmore' := ih hmore (fun s hs => hread s (List.mem_cons_of_mem _ hs))
    simp only at hsplit
    rw [List.flatMap_cons, hsplit, scanLines_statement hcallable hblank hcall hexposed,
      ← hsplit, hmore']
    rfl

end Scan

/-! ## §4. The built-in generators. -/

/-- The characters before and after the first place where `word` stands. -/
def around? (word : List Char) : List Char → Option (List Char × List Char)
  | [] => if word.isEmpty then some ([], []) else none
  | c :: cs =>
      if word.isPrefixOf (c :: cs) then some ([], (c :: cs).drop word.length)
      else (around? word cs).map (fun r => (c :: r.1, r.2))

theorem around?_eq_some {word cs lead tail : List Char} (h : around? word cs = some (lead, tail)) :
    cs = lead ++ word ++ tail := by
  induction cs generalizing lead with
  | nil =>
    simp only [around?] at h
    split at h
    · next hempty =>
      cases h
      simpa using hempty
    · cases h
  | cons c cs ih =>
    simp only [around?] at h
    split at h
    · next hprefix =>
      cases h
      obtain ⟨rest, hrest⟩ := List.isPrefixOf_iff_prefix.mp hprefix
      rw [← hrest, List.drop_left, List.nil_append]
    · obtain ⟨⟨before, after⟩, hr, heq⟩ := Option.map_eq_some_iff.mp h
      cases heq
      rw [ih hr, List.cons_append, List.cons_append]

/-- A word that stands somewhere has a first place. -/
theorem exists_around? {word cs : List Char} (h : word <:+: cs) :
    ∃ r, around? word cs = some r := by
  induction cs with
  | nil =>
    obtain rfl := List.infix_nil.mp h
    exact ⟨_, rfl⟩
  | cons c cs ih =>
    rw [around?]
    split
    · exact ⟨_, rfl⟩
    · next hprefix =>
      rcases List.infix_cons_iff.mp h with h | h
      · exact absurd (List.isPrefixOf_iff_prefix.mpr h) hprefix
      · obtain ⟨r, hr⟩ := ih h
        exact ⟨_, by rw [hr]; rfl⟩

/-- Trimming keeps what ends in a character that is no blank. -/
theorem prefix_trimRightBy {p : Char → Bool} {xs : List Char} {x : Char} (hx : p x = false)
    (ys : List Char) : xs ++ [x] <+: trimRightBy p (xs ++ [x] ++ ys) := by
  have hend : (xs ++ [x]).reverse.dropWhile p = (xs ++ [x]).reverse := by
    rw [List.reverse_append, List.reverse_singleton, List.singleton_append,
      List.dropWhile_cons_of_neg (by simp [hx])]
  unfold trimRightBy
  rw [List.reverse_append, List.dropWhile_append, hend]
  split
  · simp
  · simp

namespace Compiler

variable {c : Compiler}

theorem generator_of_builtin {tag : Json} {g : Generator}
    (h : Generators.builtin.find tag = .ok (some g)) :
    g = Generator.standard ∨ g = Generator.verbatim := by
  have hget : ∀ key, Fields.get? Generators.builtin.entries key = some g →
      g = Generator.standard ∨ g = Generator.verbatim := by
    intro key hkey
    simp only [Fields.get?, Generators.builtin, List.lookup_cons] at hkey
    split at hkey
    · exact Or.inl (Option.some.inj hkey).symm
    · split at hkey
      · exact Or.inr (Option.some.inj hkey).symm
      · cases hkey
  unfold Generators.find at h
  split at h
  · cases h
  · split at h
    · exact hget _ (Except.ok.inj h)
    · split at h <;> cases h

/-- A compiler with the built-in generators uses one of the two. -/
theorem chooseGenerator_of_builtin (hgen : c.generators = .builtin) {d : Directive}
    {r : String × Generator} (h : c.chooseGenerator d = .ok r) :
    r.2 = Generator.standard ∨ r.2 = Generator.verbatim := by
  simp only [chooseGenerator, bind_eq_ok] at h
  obtain ⟨fromCatalog, hcatalog, h⟩ := h
  cases fromCatalog with
  | some g =>
    cases h
    simp only [Catalog.generator, bind_eq_ok] at hcatalog
    obtain ⟨entry, _, hentry⟩ := hcatalog
    cases entry with
    | none => cases hentry
    | some e =>
      rw [hgen] at hentry
      exact generator_of_builtin hentry
  | none =>
    simp only [bind_eq_ok] at h
    obtain ⟨named, hnamed, h⟩ := h
    rw [hgen] at hnamed
    cases named with
    | some g =>
      cases h
      exact generator_of_builtin hnamed
    | none =>
      rw [hgen] at h
      cases h
      exact Or.inl rfl

theorem eq_ok_of_report {name : String} {identity : Json} {r : Except Fault String} {code : String}
    (h : report name identity r = .ok code) : r = .ok code := by
  cases r with
  | ok code' => exact h
  | error e =>
    unfold report at h
    split at h
    · next heq => cases heq
    · cases h
    · split at h <;> cases h

theorem infix_of_standard {d : Directive} {blockCode code : String} {options : Options}
    (h : Generator.standard d blockCode options = .ok code) :
    blockCode.toList <:+: code.toList := by
  obtain ⟨params, _, hcode⟩ := bind_eq_ok.mp h
  have hsplit : ∀ identity bindings,
      Script.invocation identity params blockCode bindings options.runtimeName
        = ("await " ++ options.runtimeName ++ "." ++ identity ++ "(" ++ params ++ ",") ++ blockCode
          ++ (").then(" ++ Script.resultName ++ "=>\x7b " ++ bindings ++ "\x7d);") := by
    intro identity bindings
    unfold Script.invocation
    simp only [String.append_assoc]
  rw [← pure_eq_ok.mp hcode, hsplit, String.toList_append, String.toList_append]
  exact ⟨_, _, rfl⟩

theorem infix_of_verbatim {d : Directive} {blockCode code : String} {options : Options}
    {cs : List Char} (hend : blockCode.toList = cs ++ [')'])
    (h : Generator.verbatim d blockCode options = .ok code) :
    blockCode.toList <:+: code.toList := by
  have hclose : isBlank ')' = false := by decide
  rw [← Except.ok.inj h, trimRight, String.toList_ofList, String.toList_append, String.toList_append,
    List.append_assoc, hend]
  exact (prefix_trimRightBy hclose _).isInfix

/-- **A statement of a built-in generator holds its block call.** -/
theorem infix_of_compileDirective (hgen : c.generators = .builtin) {d d' : Directive} {line : Json}
    {flow : Option Flow} {code : String} (hb : (c.block d line flow).IsCallable)
    (h : c.compileDirective d line flow = .ok (code, d')) :
    ∃ blockCode, Script.blockCall (c.block d line flow) c.options.blockFactory c.options.blockVar
        = .ok blockCode ∧ blockCode.toList <:+: code.toList := by
  simp only [compileDirective, bind_eq_ok, pure_eq_ok] at h
  obtain ⟨blockCode, hblock, _, _, ⟨name, g⟩, hchoose, _, hreport, heq⟩ := h
  cases heq
  obtain ⟨args, hchars, _⟩ := Script.callHere?_blockCall hb hblock
  have hend : blockCode.toList = (c.options.blockVar.toList ++ " = ".toList
      ++ (c.options.blockFactory.toList ++ '(' :: args)) ++ [')'] := by
    rw [hchars]
    simp
  refine ⟨blockCode, hblock, ?_⟩
  have hcode : g d' blockCode c.options = .ok code := eq_ok_of_report hreport
  rcases chooseGenerator_of_builtin hgen hchoose with rfl | rfl
  · exact infix_of_standard hcode
  · exact infix_of_verbatim hend hcode

/-! ## §5. Whole scripts. -/

end Compiler

/-- The value is a text or not given. -/
def Json.IsTextOrNull (v : Json) : Prop := v = .null ∨ ∃ s, v = .str s

theorem Json.IsTextOrNull.orElse {v w : Json} (hv : v.IsTextOrNull) (hw : ∃ s, w = .str s) :
    ∃ s, v.orElse w = .str s := by
  obtain ⟨t, rfl⟩ := hw
  unfold Json.orElse
  split
  · next htruthy =>
    rcases hv with rfl | hv
    · cases htruthy
    · exact hv
  · exact ⟨t, rfl⟩

/-- The record of a saved directive can be carried by a call. -/
theorem Flow.isCallable_blockOf {flow : Flow} {d : Directive} (hname : ∃ s, flow.name = .str s)
    (halias : flow.displayName.IsTextOrNull) (hd : d.IsSaved)
    (hdisplay : d.displayName.IsTextOrNull) (i : Nat) : (flow.blockOf i d).IsCallable := by
  obtain ⟨s, hs, _⟩ := hd.failureStrategy
  exact ⟨⟨i + 1, rfl⟩, hname, halias.orElse hname, hd.name, hdisplay.orElse hd.name, ⟨s, hs⟩,
    hd.intervalTime, hd.retryCount⟩

/-- The text of lines that end in line feeds. -/
def headerText (header : List String) : String := String.join (header.map (· ++ "\n"))

theorem rows_headerText {header : List String} (h : ∀ row ∈ header, '\n' ∉ row.toList)
    (source : String) :
    rows (headerText header ++ source).toList = header.map String.toList ++ rows source.toList := by
  induction header with
  | nil => simp [headerText]
  | cons row header ih =>
    have hrow : '\n' ∉ row.toList := h row List.mem_cons_self
    have hrest := ih (fun x hx => h x (List.mem_cons_of_mem row hx))
    have hsplit : (headerText (row :: header) ++ source).toList
        = row.toList ++ '\n' :: (headerText header ++ source).toList := by
      simp [headerText]
    rw [hsplit, rows_append_newline, hrest, rows, List.splitOn_eq_singleton hrow]
    rfl

namespace Compiler

variable {c : Compiler} {flow : Flow} {header : List String}

/-- What the script of a flow, behind the lines of `header`, keeps to so that a
scan reads it as it was meant. -/
structure Scannable (c : Compiler) (flow : Flow) (header : List String) : Prop where
  generators : c.generators = .builtin
  /-- So is every name of identifier characters and dots. -/
  factory : ' ' ∉ c.options.blockFactory.toList
  flowAlias : flow.displayName.IsTextOrNull
  displayNames : ∀ d ∈ flow.directives, d.displayName.IsTextOrNull
  /-- The block call of every directive stands out of its statement. -/
  calls : ∀ i d code blockCode lead tail, flow.directives[i]? = some d →
    c.textAt flow i d = .ok code →
    Script.blockCall (flow.blockOf i d) c.options.blockFactory c.options.blockVar
      = .ok blockCode →
    around? blockCode.toList code.toList = some (lead, tail) →
    Scan.Exposed c.options lead blockCode.toList tail
  header : ∀ row ∈ header, (∀ x ∈ row.toList, isLineBreak x = false)
    ∧ ¬ Scan.Mentions c.options.blockFactory row.toList

/-- Does the block call of directive `i` stand out of its statement? -/
def isExposedAt (c : Compiler) (flow : Flow) (i : Nat) (d : Directive) : Bool :=
  match c.textAt flow i d,
      Script.blockCall (flow.blockOf i d) c.options.blockFactory c.options.blockVar with
  | .ok code, .ok blockCode =>
      (around? blockCode.toList code.toList).all
        (fun site => decide (Scan.Exposed c.options site.1 blockCode.toList site.2))
  | _, _ => true

theorem exposed_of_isExposedAt {i : Nat} {d : Directive} (h : c.isExposedAt flow i d = true)
    {code blockCode : String} {lead tail : List Char} (hcode : c.textAt flow i d = .ok code)
    (hcall : Script.blockCall (flow.blockOf i d) c.options.blockFactory c.options.blockVar
      = .ok blockCode)
    (haround : around? blockCode.toList code.toList = some (lead, tail)) :
    Scan.Exposed c.options lead blockCode.toList tail := by
  unfold isExposedAt at h
  rw [hcode, hcall] at h
  simpa only [haround, Option.all_some, decide_eq_true_eq] using h

/-- The statements of a scannable flow are readable. -/
theorem isReadable_of_statements (hscan : c.Scannable flow header)
    (hname : ∃ s, flow.name = .str s) (hsaved : ∀ d ∈ flow.directives, d.IsSaved) {line : Int}
    {ss : List Statement} (h : c.statements flow 1 line flow.directives = .ok ss) :
    ∀ s ∈ ss, Scan.IsReadable c.options s := by
  intro s hs
  obtain ⟨i, hi⟩ := List.getElem?_of_mem hs
  obtain ⟨hlen, hat⟩ := statements_getElem? h
  have hlt : i < flow.directives.length := by
    have := (List.getElem?_eq_some_iff.mp hi).1
    omega
  have hd := List.getElem?_eq_getElem hlt
  have hmem := List.mem_of_getElem? hd
  obtain ⟨code, d', hcode, hs'⟩ := hat i _ hd
  rw [hi, Option.some.injEq] at hs'
  subst hs'
  rw [Int.add_comm 1] at hcode ⊢
  -- the block that is compiled is the one the flow names at this index
  have hblock : c.block flow.directives[i] (.int (i + 1)) (some flow)
      = flow.blockOf i flow.directives[i] :=
    Block.ofDirective_of_isSaved (hsaved _ hmem) flow i c.options.debugFlowName
  have hcallable := Flow.isCallable_blockOf hname hscan.flowAlias (hsaved _ hmem)
    (hscan.displayNames _ hmem) i
  rw [← hblock] at hcallable
  obtain ⟨blockCode, hcall, hinfix⟩ := infix_of_compileDirective hscan.generators hcallable hcode
  obtain ⟨⟨lead, tail⟩, haround⟩ := exists_around? hinfix
  refine ⟨hcallable, blockCode, lead, tail, hcall, around?_eq_some haround, ?_⟩
  exact hscan.calls i _ code blockCode lead tail hd (by rw [textAt, hcode]; rfl)
    (by rw [← hblock]; exact hcall) haround

/-- Line feeds are the only line boundaries of readable statements. -/
theorem boundaries_of_isReadable {options : Options} {ss : List Statement}
    (h : ∀ s ∈ ss, Scan.IsReadable options s) {x : Char}
    (hx : x ∈ (String.intercalate "\n" (ss.map Statement.code)).toList)
    (hbreak : isLineBreak x = true) : x = '\n' := by
  rcases mem_intercalate hx with rfl | ⟨t, ht, hmem⟩
  · rfl
  · obtain ⟨s, hs, rfl⟩ := List.mem_map.mp ht
    obtain ⟨_, blockCode, lead, tail, _, hsplit, hexposed⟩ := h s hs
    rw [hsplit, List.mem_append] at hmem
    rcases hmem with hmem | hmem
    · rw [hexposed.first_line x hmem] at hbreak
      cases hbreak
    · exact hexposed.boundaries x hmem hbreak

/-- Scanning the script of a flow that is scannable gives the compiler's table. -/
theorem ofSource_compileFlow (hscan : c.Scannable flow header)
    (hname : ∃ s, flow.name = .str s) (hsaved : ∀ d ∈ flow.directives, d.IsSaved)
    {out : CompiledFlow} (hout : c.compileFlow flow header.length = .ok out) :
    BlockTable.ofSource (.str (headerText header ++ out.source)) (.str c.options.blockFactory)
      = .ok out.blocks := by
  obtain ⟨ss, hss, hpure⟩ := bind_eq_ok.mp hout
  rw [← pure_eq_ok.mp hpure]
  have hread := isReadable_of_statements hscan hname hsaved hss
  have hfeed : ∀ row ∈ header, '\n' ∉ row.toList := by
    intro row hrow hmem
    have hbreak := (hscan.header row hrow).1 _ hmem
    rw [isLineBreak_newline] at hbreak
    cases hbreak
  have hsource : ∀ x ∈ (headerText header ++ String.intercalate "\n"
      (ss.map Statement.code)).toList, isLineBreak x = true → x = '\n' := by
    intro x hx hbreak
    rw [String.toList_append, List.mem_append, headerText, String.toList_join,
      List.flatMap_map, List.mem_flatMap] at hx
    rcases hx with ⟨row, hrow, hmem⟩ | hmem
    · rw [String.toList_append, List.mem_append] at hmem
      rcases hmem with hmem | hmem
      · rw [(hscan.header row hrow).1 x hmem] at hbreak
        cases hbreak
      · simpa using hmem
    · exact boundaries_of_isReadable hread hmem hbreak
  have hheader : ∀ row ∈ header.map String.toList, ¬ Scan.Mentions c.options.blockFactory row := by
    intro row hrow
    obtain ⟨text, htext, rfl⟩ := List.mem_map.mp hrow
    exact (hscan.header text htext).2
  -- the rows of the source; a flow without directives has one, which is empty
  have hscanned : Scan.scanLines c.options.blockFactory.toList header.length
      (rows (String.intercalate "\n" (ss.map Statement.code)).toList)
      = .ok (ss.map (fun s => (s.line, s.block))) := by
    by_cases hnil : ss = []
    · subst hnil
      exact Scan.scanLines_append_empty _ _ []
    · rw [rows_intercalate (by simpa using hnil), List.flatMap_map]
      exact Scan.scanLines_statements hscan.factory hss hread
  simp only [BlockTable.ofSource]
  rw [Scan.scanLines_lines hsource, rows_headerText hfeed, Scan.scanLines_append hheader,
    List.length_map, Nat.zero_add, hscanned]
  rfl

/-- **THE RESCAN THEOREM**: the script of a flow document, put behind header lines,
is scanned back to the very table that the compiler made for it. -/
theorem ofSource_compileFlowDocument {v : Json} {out : CompiledFlow}
    (hflow : Flow.ofDocument v = .ok flow) (hscan : c.Scannable flow header)
    (hout : c.compileFlowDocument v (.int header.length) = .ok out) :
    BlockTable.ofSource (.str (headerText header ++ out.source)) (.str c.options.blockFactory)
      = .ok out.blocks := by
  obtain ⟨flow', hflow', hcompile⟩ := compileFlowDocument_eq_ok.mp hout
  rw [hflow] at hflow'
  cases hflow'
  obtain ⟨hname, hsaved⟩ := Flow.isSaved_of_ofDocument hflow
  exact ofSource_compileFlow hscan hname hsaved hcompile

/-- The first directive of `twoSteps`. -/
def rawStep : Directive :=
  { name := "a", generator := "raw", inputs := [("code", { value := "x();\ny();" })] }

/-- The flow of `twoSteps`. -/
def twoStepsFlow : Flow :=
  { name := "f", displayName := "\"f\"", directives := [rawStep, { name := "b" }] }

theorem ofDocument_twoSteps : Flow.ofDocument twoSteps = .ok twoStepsFlow := rfl

theorem twoStepsFlow_getElem? {i : Nat} {d : Directive} (h : twoStepsFlow.directives[i]? = some d) :
    (i = 0 ∧ d = rawStep) ∨ (i = 1 ∧ d = { name := "b" }) := by
  match i with
  | 0 => exact Or.inl ⟨rfl, (Option.some.inj h).symm⟩
  | 1 => exact Or.inr ⟨rfl, (Option.some.inj h).symm⟩
  | i + 2 => cases h

theorem scannable_twoSteps : ({} : Compiler).Scannable twoStepsFlow ["//"] where
  generators := rfl
  factory := by decide +kernel
  flowAlias := Or.inr ⟨_, rfl⟩
  displayNames := by
    intro d hd
    simp only [twoStepsFlow, List.mem_cons, List.not_mem_nil, or_false] at hd
    rcases hd with rfl | rfl <;> exact Or.inl rfl
  calls := by
    intro i d code blockCode lead tail hd hcode hcall haround
    rcases twoStepsFlow_getElem? hd with ⟨rfl, rfl⟩ | ⟨rfl, rfl⟩
    · exact exposed_of_isExposedAt (by decide +kernel) hcode hcall haround
    · exact exposed_of_isExposedAt (by decide +kernel) hcode hcall haround
  header := by
    intro row hrow
    obtain rfl := List.mem_singleton.mp hrow
    refine ⟨fun x hx => ?_, by decide +kernel⟩
    obtain rfl : x = '/' := by simpa using hx
    decide

theorem ofSource_compileFlowDocument_twoSteps :
    ∃ out, Flow.ofDocument twoSteps = .ok twoStepsFlow
      ∧ ({} : Compiler).Scannable twoStepsFlow ["//"]
      ∧ ({} : Compiler).compileFlowDocument twoSteps (.int ["//"].length) = .ok out
      ∧ BlockTable.ofSource (.str (headerText ["//"] ++ out.source))
          (.str ({} : Compiler).options.blockFactory) = .ok out.blocks := by
  obtain ⟨out, hout⟩ := exists_of_toOption
    (show (({} : Compiler).compileFlowDocument twoSteps (.int ["//"].length)).toOption.isSome = true
      by decide +kernel)
  exact ⟨out, ofDocument_twoSteps, scannable_twoSteps, hout,
    ofSource_compileFlowDocument ofDocument_twoSteps scannable_twoSteps hout⟩

end Compiler
end FlowTrace
