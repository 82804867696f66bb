/-
  FlowTrace.Proofs.Bridge.Ledger
  ────────────────────────────────
  **THE LEDGER OF EXCEPTIONS.**

  An exception that comes in is published, waits for the source of its script, or is
  lost.  Publishing calls every listener for exceptions once; nothing else calls them.
  So whatever a bridge does, the ledger balances:

      came in + waited before  =  published + lost + waits still

  Here the signals of a link are put down in it: each request for a source that has
  ended finishes the one exception that waited for it.
-/
import Mathlib.Algebra.Order.Group.Multiset
import Mathlib.Tactic.Abel
import FlowTrace.Proofs.Bridge.Heed

namespace FlowTrace

/-! ## §1. Reports. -/

/-- The lines that the frames of the stack have are numbers. -/
def Thrown.Placed (e : Thrown) : Prop :=
  ∀ f ∈ e.frames, Json.field f "lineNumber" = .null ∨ ∃ n, (Json.field f "lineNumber").toInt = .ok n

namespace Bridge

variable {b : Bridge} {e : Thrown} {marker : String}

/-- Whether an address is one of a flow script can be told. -/
theorem exists_isFlowScript (hmarker : b.config.marker = .str marker) (url : Json) :
    ∃ flow, b.isFlowScript url = .ok flow := by
  unfold isFlowScript
  rw [hmarker]
  split
  · exact ⟨_, rfl⟩
  · exact ⟨_, rfl⟩

/-- The innermost frame in a flow script is one of the frames. -/
theorem exists_flowFrame? (hmarker : b.config.marker = .str marker) (frames : List Record) :
    ∃ found, b.flowFrame? frames = .ok found ∧ ∀ f, found = some f → f ∈ frames := by
  induction frames with
  | nil => exact ⟨none, rfl, nofun⟩
  | cons f rest ih =>
    obtain ⟨flow, hflow⟩ :=
      exists_isFlowScript hmarker (b.urlOr (Json.field f "url") (Json.field f "scriptId"))
    unfold flowFrame?
    rw [hflow]
    cases flow with
    | true => exact ⟨some f, rfl, fun g hg => by cases hg; exact List.mem_cons_self ..⟩
    | false =>
      obtain ⟨found, hfound, hmem⟩ := ih
      exact ⟨found, hfound, fun g hg => List.mem_cons_of_mem f (hmem g hg)⟩

/-- Where an exception happened can be told.  Its line is one of the lines of the stack, or
that of the exception itself. -/
theorem exists_flowLocation (hmarker : b.config.marker = .str marker) (e : Thrown) :
    ∃ location, b.flowLocation e = .ok location ∧
      (e.Placed → location.line = .null ∨ ∃ n, location.line.toInt = .ok n) := by
  obtain ⟨found, hfound, hmem⟩ := exists_flowFrame? hmarker e.frames
  unfold flowLocation
  rw [hfound]
  cases found with
  | some f => exact ⟨_, rfl, fun hplaced => hplaced f (hmem f rfl)⟩
  | none =>
    obtain ⟨flow, hflow⟩ := exists_isFlowScript hmarker (b.urlOr e.url e.scriptId)
    simp only [bind, Except.bind, hflow]
    cases flow with
    | false => exact ⟨_, rfl, fun _ => .inl rfl⟩
    | true =>
      refine ⟨_, rfl, fun _ => ?_⟩
      cases e.line with
      | none => exact .inl rfl
      | some n => exact .inr ⟨n, rfl⟩

/-- **An exception can be described if its lines are numbers**, whatever table is at hand. -/
theorem exists_describe (hmarker : b.config.marker = .str marker) (hplaced : e.Placed)
    (table : Option BlockTable) :
    ∃ report, b.describe e table = .ok report ∧ report.description = .str e.description := by
  obtain ⟨location, hlocation, hline⟩ := exists_flowLocation hmarker e
  unfold describe
  rw [hlocation]
  cases htable : table.or b.blocks with
  | none => exact ⟨_, rfl, rfl⟩
  | some t =>
    have hfind : ∃ found, t.find location.line = .ok found := by
      rcases hline hplaced with hnull | ⟨n, hn⟩
      · exact ⟨none, by rw [hnull]; rfl⟩
      · unfold BlockTable.find
        split
        · exact ⟨none, rfl⟩
        · exact ⟨t.lookup? n, by rw [hn]; rfl⟩
    obtain ⟨found, hfound⟩ := hfind
    simp only [bind, Except.bind, hfound]
    cases found with
    | none => exact ⟨_, rfl, rfl⟩
    | some block => exact ⟨_, rfl, rfl⟩

/-- Whatever describes an exception has its description. -/
theorem describe_description {table : Option BlockTable} {report : ExceptionReport}
    (h : b.describe e table = .ok report) : report.description = .str e.description := by
  unfold describe at h
  cases hlocation : b.flowLocation e with
  | error f => simp [hlocation, bind, Except.bind] at h
  | ok location =>
    simp only [hlocation, bind, Except.bind] at h
    cases htable : table.or b.blocks with
    | none =>
      rw [htable] at h
      cases h
      rfl
    | some t =>
      simp only [htable] at h
      cases hfound : t.find location.line with
      | error f => simp [hfound] at h
      | ok found =>
        rw [hfound] at h
        cases found <;> cases h <;> rfl

/-! ## §2. Balance. -/

/-- The calls of listeners that are about exceptions. -/
def exceptionCalls (b : Bridge) : List (String × Event) :=
  b.calls.filter (fun c => c.2.kind == .exception)

/-- **The ledger balances**: each exception that came in, and each that waited, was published
once, or was lost for a cause, or waits still. -/
structure Balances (cause : Thrown → Prop) (came : List Thrown) (b b' : Bridge) : Prop where
  config : b'.config = b.config
  books : ∃ (published : List (Thrown × ExceptionReport)) (lost : List Thrown),
    (came ++ b.fetches.map (·.exception)).Perm
      (published.map Prod.fst ++ lost ++ b'.fetches.map (·.exception)) ∧
    b'.exceptionCalls = b.exceptionCalls ++
      published.flatMap (fun p => b.config.callsOf (.exception p.2)) ∧
    (∀ p ∈ published, p.2.description = .str p.1.description) ∧ ∀ e ∈ lost, cause e

namespace Balances

variable {cause cause' : Thrown → Prop} {came came' : List Thrown} {b' b'' : Bridge}

/-- Nothing that the ledger knows has changed. -/
theorem same (hconfig : b'.config = b.config)
    (hfetches : b'.fetches.map (·.exception) = b.fetches.map (·.exception))
    (hcalls : b'.exceptionCalls = b.exceptionCalls) : Balances cause [] b b' :=
  ⟨hconfig, [], [], by rw [hfetches]; exact .refl _, by rw [hcalls]; exact (List.append_nil _).symm,
    nofun, nofun⟩

/-- One entry is made after the other. -/
theorem trans (h : Balances cause came b b') (h' : Balances cause came' b' b'') :
    Balances cause (came ++ came') b b'' := by
  obtain ⟨hconfig, published, lost, hperm, hcalls, hdescribed, hcause⟩ := h
  obtain ⟨hconfig', published', lost', hperm', hcalls', hdescribed', hcause'⟩ := h'
  refine ⟨hconfig'.trans hconfig, published ++ published', lost ++ lost', ?_, ?_, ?_, ?_⟩
  · rw [← Multiset.coe_eq_coe] at hperm hperm' ⊢
    simp only [← Multiset.coe_add, List.map_append] at hperm hperm' ⊢
    calc (came + came' + b.fetches.map (·.exception) : Multiset Thrown)
        = came' + (came + b.fetches.map (·.exception)) := by abel
      _ = came' + (published.map Prod.fst + lost + b'.fetches.map (·.exception)) := by rw [hperm]
      _ = published.map Prod.fst + lost + (came' + b'.fetches.map (·.exception)) := by abel
      _ = published.map Prod.fst + lost +
            (published'.map Prod.fst + lost' + b''.fetches.map (·.exception)) := by rw [hperm']
      _ = published.map Prod.fst + published'.map Prod.fst + (lost + lost') +
            b''.fetches.map (·.exception) := by abel
  · rw [hcalls', hcalls, hconfig, List.flatMap_append, List.append_assoc]
  · intro p hp
    rcases List.mem_append.mp hp with hp | hp
    · exact hdescribed p hp
    · exact hdescribed' p hp
  · intro e he
    rcases List.mem_append.mp he with he | he
    · exact hcause e he
    · exact hcause' e he

/-- Nothing came in with the later entry. -/
theorem followed (h : Balances cause came b b') (h' : Balances cause [] b' b'') :
    Balances cause came b b'' := by
  have hboth := h.trans h'
  rw [List.append_nil] at hboth
  exact hboth

theorem mono (h : Balances cause came b b') (hcause : ∀ e, cause e → cause' e) :
    Balances cause' came b b' := by
  obtain ⟨hconfig, published, lost, hperm, hcalls, hdescribed, hlost⟩ := h
  exact ⟨hconfig, published, lost, hperm, hcalls, hdescribed, fun e he => hcause e (hlost e he)⟩

/-- An exception waits no longer, and comes in again. -/
theorem of_perm (h : Balances cause came' b' b'') (hconfig : b'.config = b.config)
    (hcalls : b'.exceptionCalls = b.exceptionCalls)
    (hperm : (came ++ b.fetches.map (·.exception)).Perm
      (came' ++ b'.fetches.map (·.exception))) : Balances cause came b b'' := by
  obtain ⟨hconfig', published, lost, hperm', hcalls', hdescribed, hlost⟩ := h
  refine ⟨hconfig'.trans hconfig, published, lost, hperm.trans hperm', ?_, hdescribed, hlost⟩
  rw [hcalls', hcalls, hconfig]

/-- An exception is published. -/
theorem published {report : ExceptionReport} (hconfig : b'.config = b.config)
    (hfetches : b'.fetches = b.fetches)
    (hcalls : b'.exceptionCalls = b.exceptionCalls ++ b.config.callsOf (.exception report))
    (hdescribed : report.description = .str e.description) : Balances cause [e] b b' := by
  refine ⟨hconfig, [(e, report)], [], by rw [hfetches]; exact .refl _, ?_, ?_, nofun⟩
  · rw [hcalls, List.flatMap_singleton]
  · intro p hp
    obtain rfl := List.mem_singleton.mp hp
    exact hdescribed

/-- An exception is lost. -/
theorem lost (hcause : cause e) : Balances cause [e] b b := by
  refine ⟨rfl, [], [e], .refl _, (List.append_nil _).symm, nofun, fun e' he => ?_⟩
  obtain rfl := List.mem_singleton.mp he
  exact hcause

end Balances
end Bridge

/-- The calls of an event are of its kind. -/
theorem BridgeConfig.filter_callsOf (c : BridgeConfig) (e : Event) :
    (c.callsOf e).filter (fun call => call.2.kind == .exception)
      = if e.kind = .exception then c.callsOf e else [] := by
  unfold BridgeConfig.callsOf
  by_cases hkind : e.kind = .exception
  · rw [if_pos hkind, List.filter_eq_self]
    intro call hcall
    obtain ⟨l, _, rfl⟩ := List.mem_map.mp hcall
    simp [hkind]
  · rw [if_neg hkind, List.filter_eq_nil_iff]
    intro call hcall
    obtain ⟨l, _, rfl⟩ := List.mem_map.mp hcall
    simp [hkind]

namespace Site

variable {ε : Type} {s : Site ε} {marker : String}

/-- Calls are about exceptions if their event is. -/
theorem exceptionCalls_calling (s : Site ε) (e : Event) :
    (s.calling (s.bridge.config.callsOf e)).bridge.exceptionCalls
      = s.bridge.exceptionCalls ++
          if e.kind = .exception then s.bridge.config.callsOf e else [] := by
  show (s.bridge.calls ++ _).filter _ = _
  rw [List.filter_append, BridgeConfig.filter_callsOf]
  rfl

/-! ## §3. Requests that have ended. -/

/-- The source in a reply cannot be read. -/
def Unread (factory : Json) (outcome : Outcome) : Prop :=
  ∃ result f, outcome = .ok result ∧ tableOfSource factory result = .error f

/-- What an action does to the ledger: these exceptions come in, and of those that waited
these wait still. -/
structure Books (cause : Thrown → Prop) (came : List Thrown) (keeps : Fetch → Bool)
    (s s' : Site ε) : Prop where
  balances : s.bridge.Balances cause came s'.bridge
  fetches : s'.bridge.fetches = s.bridge.fetches.filter keeps

/-- **Publishing an exception** calls the listeners once, unless it cannot be described. -/
theorem books_publishException (htame : s.bridge.config.Tame)
    (hmarker : s.bridge.config.marker = .str marker) (e : Thrown) (table : Option BlockTable) :
    Books (fun e => ¬ e.Placed) [e] (fun _ => true) s ((publishException e table).exec s).2 := by
  unfold publishException
  rw [Act.exec_bind_ok (exec_look s), exec_ofExcept_bind]
  cases hreport : s.bridge.describe e table with
  | error f =>
    refine ⟨.lost fun hplaced => ?_, (List.filter_eq_self.mpr fun _ _ => rfl).symm⟩
    obtain ⟨report, hok, _⟩ := Bridge.exists_describe hmarker hplaced table
    cases hok.symm.trans hreport
  | ok report =>
    show Books _ _ _ s ((emit (.exception report)).exec s).2
    rw [exec_emit_tame htame]
    exact ⟨.published rfl rfl (exceptionCalls_calling s _) (Bridge.describe_description hreport),
      (List.filter_eq_self.mpr fun _ _ => rfl).symm⟩

namespace Books

variable {cause cause' : Thrown → Prop} {came came' : List Thrown} {keeps keeps' : Fetch → Bool}
  {s' s'' : Site ε}

theorem trans (h : Books cause came keeps s s') (h' : Books cause came' keeps' s' s'') :
    Books cause (came ++ came') (fun f => keeps f && keeps' f) s s'' where
  balances := h.balances.trans h'.balances
  fetches := by
    rw [h'.fetches, h.fetches, List.filter_filter]
    exact List.filter_congr fun f _ => Bool.and_comm _ _

theorem mono (h : Books cause came keeps s s') (hcause : ∀ e, cause e → cause' e) :
    Books cause' came keeps s s' := ⟨h.balances.mono hcause, h.fetches⟩

/-- What waited before an action comes in again. -/
theorem of_perm {s₁ : Site ε} (h : Books cause came' keeps' s₁ s')
    (hconfig : s₁.bridge.config = s.bridge.config)
    (hcalls : s₁.bridge.exceptionCalls = s.bridge.exceptionCalls)
    (hperm : (came ++ s.bridge.fetches.map (·.exception)).Perm
      (came' ++ s₁.bridge.fetches.map (·.exception)))
    (hkeeps : s₁.bridge.fetches.filter keeps' = s.bridge.fetches.filter keeps) :
    Books cause came keeps s s' :=
  ⟨h.balances.of_perm hconfig hcalls hperm, h.fetches.trans hkeeps⟩

/-- Nothing that the ledger knows has changed. -/
theorem same (hconfig : s'.bridge.config = s.bridge.config)
    (hfetches : s'.bridge.fetches = s.bridge.fetches)
    (hcalls : s'.bridge.exceptionCalls = s.bridge.exceptionCalls) :
    Books cause [] (fun _ => true) s s' where
  balances := .same hconfig (by rw [hfetches]) hcalls
  fetches := hfetches.trans (List.filter_eq_self.mpr fun _ _ => rfl).symm

end Books

/-- **A request that has ended** finishes the exception that waited for it: it is published,
unless it cannot be described, or the source in the reply cannot be read. -/
theorem books_finishFetch (htame : s.bridge.config.Tame)
    (hmarker : s.bridge.config.marker = .str marker) (f : Fetch) (outcome : Outcome) :
    Books (fun e => ¬ e.Placed ∨ (f.exception = e ∧ Unread s.bridge.config.blockFactory outcome))
      [f.exception] (fun _ => true) s ((finishFetch f outcome).exec s).2 := by
  cases outcome with
  | error g => exact (books_publishException htame hmarker f.exception none).mono fun _ => .inl
  | ok result =>
    unfold finishFetch
    dsimp only
    rw [Act.exec_bind_ok (exec_look s), exec_ofExcept_bind]
    cases htable : tableOfSource s.bridge.config.blockFactory result with
    | error g =>
      exact ⟨.lost (.inr ⟨rfl, result, g, rfl, htable⟩),
        (List.filter_eq_self.mpr fun _ _ => rfl).symm⟩
    | ok table =>
      dsimp only
      rw [Act.exec_bind_ok (exec_update _ s)]
      have hpublished := books_publishException
        (s := { s with bridge :=
          { s.bridge with tables := Fields.put f.scriptId table s.bridge.tables } })
        htame hmarker f.exception (some table)
      have hall : Books _ [f.exception] (fun _ => true) s _ :=
        hpublished.of_perm rfl rfl (.refl _) rfl
      exact hall.mono fun _ => .inl

/-- Of requests with different numbers only the one that is found has the number. -/
theorem perm_finished {fetches : List Fetch} {f : Fetch} {id : Nat}
    (hdistinct : (fetches.map (·.id)).Nodup)
    (hfind : fetches.find? (fun g => g.id == id) = some f) :
    fetches.Perm (f :: fetches.filter (fun g => g.id != id)) := by
  obtain ⟨hid, before, after, rfl, hbefore⟩ := List.find?_eq_some_iff_append.mp hfind
  have hid : f.id = id := by simpa using hid
  rw [List.map_append, List.map_cons, List.nodup_append] at hdistinct
  have hafter := (List.nodup_cons.mp hdistinct.2.1).1
  have hkept : (before ++ f :: after).filter (fun g => g.id != id) = before ++ after := by
    rw [List.filter_append, List.filter_cons_of_neg (by simp [hid])]
    congr 1
    · exact List.filter_eq_self.mpr fun g hg => by simpa using hbefore g hg
    · refine List.filter_eq_self.mpr fun g hg => ?_
      have hne : g.id ≠ f.id := fun heq => hafter (heq ▸ List.mem_map_of_mem hg)
      simpa [hid] using hne
  rw [hkept]
  exact List.perm_middle

/-- The site without the request that has ended. -/
def finished (s : Site ε) (id : Nat) : Site ε :=
  { s with
    bridge := { s.bridge with fetches := s.bridge.fetches.filter (fun f => f.id != id) } }

/-- A command that has ended finishes the exception that waited for it, if one did. -/
theorem books_completeCommand (htame : s.bridge.config.Tame)
    (hmarker : s.bridge.config.marker = .str marker)
    (hdistinct : (s.bridge.fetches.map (·.id)).Nodup) (id : Nat) (outcome : Outcome) :
    Books (fun e => ¬ e.Placed ∨ ((∃ f ∈ s.bridge.fetches, f.exception = e ∧ f.id = id) ∧
        Unread s.bridge.config.blockFactory outcome)) [] (fun f => f.id != id) s
      ((completeCommand id outcome).exec s).2 := by
  unfold completeCommand
  rw [Act.exec_bind_ok (exec_look s)]
  cases hfind : s.bridge.fetches.find? (fun f => f.id == id) with
  | none =>
    refine ⟨.same rfl rfl rfl, (List.filter_eq_self.mpr fun f hf => ?_).symm⟩
    simpa using List.find?_eq_none.mp hfind f hf
  | some f =>
    have hid : f.id = id := by simpa using List.find?_some hfind
    dsimp only
    rw [Act.exec_bind_ok (exec_update _ s)]
    have hperm : (s.bridge.fetches.map (·.exception)).Perm
        (f.exception :: (s.finished id).bridge.fetches.map (·.exception)) :=
      (perm_finished hdistinct hfind).map _
    have hfinished := books_finishFetch (s := s.finished id) htame hmarker f outcome
    refine Books.mono (hfinished.of_perm rfl rfl hperm ?_) fun e hcause => ?_
    · exact List.filter_eq_self.mpr fun _ _ => rfl
    · exact hcause.imp_right fun ⟨hwaited, hunread⟩ =>
        ⟨⟨f, List.mem_of_find?_eq_some hfind, hwaited, hid⟩, hunread⟩

/-! ## §4. Signals. -/

end Site

/-- The signal is that the command has ended. -/
def Signal.ends (id : Nat) : Signal → Bool
  | completed i _ => id == i
  | _ => false

namespace Site

variable {ε : Type} {s : Site ε} {marker : String}

/-- A signal is that the request which the exception waits for has ended with a source that
cannot be read. -/
def Spoils (s : Site ε) (signals : List Signal) (e : Thrown) : Prop :=
  ∃ f ∈ s.bridge.fetches, f.exception = e ∧ ∃ outcome, .completed f.id outcome ∈ signals ∧
    Unread s.bridge.config.blockFactory outcome

theorem Spoils.of_subset {s' : Site ε} {signals signals' : List Signal} {e : Thrown}
    (h : s'.Spoils signals e) (hfetches : s'.bridge.fetches ⊆ s.bridge.fetches)
    (hconfig : s'.bridge.config = s.bridge.config) (hsignals : signals ⊆ signals') :
    s.Spoils signals' e := by
  obtain ⟨f, hf, hwaits, outcome, hin, hunread⟩ := h
  exact ⟨f, hfetches hf, hwaits, outcome, hsignals hin, by rw [← hconfig]; exact hunread⟩

theorem books_heed (htame : s.bridge.config.Tame)
    (hmarker : s.bridge.config.marker = .str marker)
    (hdistinct : (s.bridge.fetches.map (·.id)).Nodup) (signal : Signal) :
    Books (fun e => ¬ e.Placed ∨ s.Spoils [signal] e) [] (fun f => !signal.ends f.id) s
      ((heed signal).exec s).2 := by
  cases signal with
  | up => exact .same rfl rfl rfl
  | down =>
    show Books _ _ _ s (loseConnection.exec s).2
    unfold loseConnection
    rw [Act.exec_bind_ok (exec_update _ s), Act.exec_bind_ok (exec_look _)]
    show Books _ _ _ s ((emit (.closed _)).exec s.downed).2
    rw [exec_emit_tame (s := s.downed) htame]
    refine .same rfl rfl ((exceptionCalls_calling s.downed _).trans ?_)
    rw [if_neg nofun]
    exact List.append_nil _
  | completed id outcome =>
    refine (books_completeCommand htame hmarker hdistinct id outcome).mono fun e hcause => ?_
    refine hcause.imp_right fun hspoiled => ?_
    obtain ⟨⟨f, hf, hwaits, rfl⟩, hunread⟩ := hspoiled
    exact ⟨f, hf, hwaits, outcome, List.mem_singleton_self _, hunread⟩

/-- **Signals are put down in the ledger to the last one**, whatever comes of each. -/
theorem books_heedAll (signals : List Signal) : ∀ s : Site ε, s.bridge.config.Tame →
    s.bridge.config.marker = .str marker → (s.bridge.fetches.map (·.id)).Nodup →
      Books (fun e => ¬ e.Placed ∨ s.Spoils signals e) [] (fun f => !signals.any (·.ends f.id)) s
        ((heedAll signals).exec s).2 := by
  -- Induction on the signals; the requests that are left after one are those it did not end.
  induction signals with
  | nil => exact fun s _ _ _ => .same rfl rfl rfl
  | cons signal rest ih =>
    intro s htame hmarker hdistinct
    have hfirst := books_heed htame hmarker hdistinct signal
    obtain ⟨s₁, hexec, _⟩ := exec_heed htame signal
    have hsame : ((heed signal).exec s).2 = s₁ := by
      rw [← Act.exec_contained_snd, hexec]
    rw [hsame] at hfirst
    have hsub : s₁.bridge.fetches ⊆ s.bridge.fetches := by
      rw [hfirst.fetches]
      exact List.filter_subset_self _
    have hconfig := hfirst.balances.config
    have hrest := ih s₁ (by rw [hconfig]; exact htame) (by rw [hconfig]; exact hmarker)
      (by rw [hfirst.fetches]; exact hdistinct.sublist (List.filter_sublist.map _))
    unfold heedAll
    rw [Act.exec_bind_ok hexec]
    have hfirst' : Books (fun e => ¬ e.Placed ∨ s.Spoils (signal :: rest) e) [] _ s s₁ :=
      hfirst.mono fun e hcause => hcause.imp_right fun hspoils =>
        hspoils.of_subset (List.Subset.refl _) rfl (by simp)
    have hrest' : Books (fun e => ¬ e.Placed ∨ s.Spoils (signal :: rest) e) [] _ s₁ _ :=
      hrest.mono fun e hcause => hcause.imp_right fun hspoils =>
        hspoils.of_subset hsub hconfig (List.subset_cons_self _ _)
    have hboth := hfirst'.trans hrest'
    refine ⟨hboth.balances, hboth.fetches.trans (List.filter_congr fun f _ => ?_)⟩
    simp

/-- An operation of the link leaves the site as heeding its signals does. -/
theorem onLink_snd {α : Type} {a : Act (Wire ε) α} {r : Except Fault α} {w : Wire ε}
    (htame : s.bridge.config.Tame) (ha : a.exec s.wire = (r, w)) :
    ((onLink a).exec s).2 = ((heedAll w.link.signals).exec (s.rewired w)).2 := by
  let told : Site ε := { bridge := { s.bridge with link := w.link }, network := w.network }
  obtain ⟨s', hexec, _⟩ := exec_heedAll w.link.signals (s.rewired w) htame
  have hheedLink : heedLink.exec told = (.ok (), s') := by
    unfold heedLink
    rw [Act.exec_bind_ok (exec_look told), Act.exec_bind_ok (exec_update _ told)]
    exact hexec
  unfold onLink
  rw [Act.exec_bind_ok (exec_attempt_within ha), Act.exec_bind_ok hheedLink, hexec]
  rfl

/-- **What an operation of the link does to the ledger** is what its signals do. -/
theorem books_onLink {α : Type} {a : Act (Wire ε) α} {r : Except Fault α} {w : Wire ε}
    (htame : s.bridge.config.Tame) (hmarker : s.bridge.config.marker = .str marker)
    (hdistinct : (s.bridge.fetches.map (·.id)).Nodup) (ha : a.exec s.wire = (r, w)) :
    Books (fun e => ¬ e.Placed ∨ s.Spoils w.link.signals e) []
      (fun f => !w.link.signals.any (·.ends f.id)) s ((onLink a).exec s).2 := by
  have hheeded := books_heedAll w.link.signals (s.rewired w) htame hmarker hdistinct
  rw [onLink_snd htame ha]
  exact ⟨hheeded.balances.of_perm rfl rfl (.refl _), hheeded.fetches⟩

end Site
end FlowTrace
