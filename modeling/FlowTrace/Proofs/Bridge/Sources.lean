/-
  FlowTrace.Proofs.Bridge.Sources
  ────────────────────────────────
  **A SOURCE IS ASKED FOR UNTIL IT IS READ.**

  A bridge without a block table of its own asks for the source of a script when an
  exception leads there, and keeps what it reads.  What it has asked and what it was
  answered can be read off the conversation since its start:

      a source was read      — the bridge has the table of the script, and asks no more
      a request is open      — an exception waits for it, or the connection is lost
      neither                — the next exception asks, also while requests are open

  So the first answer that can be read is the last that is asked for.  Until it comes,
  each exception sends a request of its own (`source_asked_twice`).
-/
import FlowTrace.Proofs.Bridge.Reporting
import FlowTrace.Proofs.Bridge.PauseFilter

namespace FlowTrace

/-! ## §1. Requests and sources in a conversation. -/

/-- The exchange is a request for the source of a script. -/
def Exchange.asksSource (x : Exchange) : Prop :=
  ∃ k id scriptId a, x = .sent k (sourceEnvelope id scriptId) a

theorem Exchange.not_asksSource_dialled (r : Except Breakdown Nat) :
    ¬ (Exchange.dialled r).asksSource := by
  rintro ⟨_, _, _, _, heq⟩
  cases heq

/-- A request for the source of the script was sent, and is not answered. -/
def Unanswered (xs : List Exchange) (id : Nat) (scriptId : String) : Prop :=
  ∃ before k a after, xs = before ++ .sent k (sourceEnvelope id scriptId) a :: after ∧
    firstReply? after id = none

/-- The reply to a request holds a source that can be read. -/
def Legible (factory : Json) (m : Record) : Prop :=
  ∃ result table, Link.replyOutcome "Debugger.getScriptSource" m = .ok result ∧
    Site.tableOfSource factory result = .ok table

/-- The source of the script was asked for, and the first reply held one that can be read. -/
def Sourced (factory : Json) (xs : List Exchange) (scriptId : String) : Prop :=
  ∃ before k id a after m, xs = before ++ .sent k (sourceEnvelope id scriptId) a :: after ∧
    firstReply? after id = some m ∧ Legible factory m

section Conversation

variable {xs ys : List Exchange} {id k : Nat} {scriptId : String} {factory : Json}

/-- What stands in two parts stands in the first or in the second. -/
theorem append_split {α : Type} {xs ys before after : List α} {z : α}
    (h : xs ++ ys = before ++ z :: after) :
    (∃ rest, xs = before ++ z :: rest ∧ after = rest ++ ys) ∨
      ∃ rest, before = xs ++ rest ∧ ys = rest ++ z :: after := by
  obtain ⟨rest, hbefore, hys⟩ | ⟨rest, hxs, hafter⟩ := List.append_eq_append_iff.mp h
  · exact .inr ⟨rest, hbefore, hys⟩
  · cases rest with
    | nil => exact .inr ⟨[], by simpa using hxs.symm, by simpa using hafter.symm⟩
    | cons z' rest =>
      obtain ⟨rfl, rfl⟩ := List.cons.inj hafter
      exact .inl ⟨rest, hxs, rfl⟩

theorem Unanswered.of_append (h : Unanswered (xs ++ ys) id scriptId)
    (hno : ∀ x ∈ ys, ¬ x.asksSource) : Unanswered xs id scriptId ∧ firstReply? ys id = none := by
  obtain ⟨before, k, a, after, heq, hnone⟩ := h
  obtain ⟨rest, hxs, rfl⟩ | ⟨rest, -, hys⟩ := append_split heq
  · rw [firstReply?_append, Option.or_eq_none_iff] at hnone
    exact ⟨⟨before, k, a, rest, hxs, hnone.1⟩, hnone.2⟩
  · exact absurd ⟨k, id, scriptId, a, rfl⟩ (hno _ (by rw [hys]; simp))

/-- A source is read when the reply comes to a request that was open. -/
theorem Sourced.of_append (h : Sourced factory (xs ++ ys) scriptId)
    (hno : ∀ x ∈ ys, ¬ x.asksSource) :
    Sourced factory xs scriptId ∨ ∃ id m, Unanswered xs id scriptId ∧
      firstReply? ys id = some m ∧ Legible factory m := by
  obtain ⟨before, k, id, a, after, m, heq, hreply, hlegible⟩ := h
  obtain ⟨rest, hxs, rfl⟩ | ⟨rest, -, hys⟩ := append_split heq
  · rw [firstReply?_append] at hreply
    cases hrest : firstReply? rest id with
    | some m' =>
      rw [hrest] at hreply
      obtain rfl := Option.some.inj hreply
      exact .inl ⟨before, k, id, a, rest, m', hxs, hrest, hlegible⟩
    | none =>
      rw [hrest] at hreply
      exact .inr ⟨id, m, ⟨before, k, a, rest, hxs, hrest⟩, hreply, hlegible⟩
  · exact absurd ⟨k, id, scriptId, a, rfl⟩ (hno _ (by rw [hys]; simp))

/-- A request that has just been sent is open. -/
theorem Unanswered.of_sent {e : Envelope} {a : Except Breakdown Unit}
    (h : Unanswered (xs ++ [.sent k e a]) id scriptId) :
    Unanswered xs id scriptId ∨ e = sourceEnvelope id scriptId := by
  obtain ⟨before, k', a', after, heq, hnone⟩ := h
  obtain ⟨rest, hxs, rfl⟩ | ⟨rest, -, hys⟩ := append_split heq
  · rw [firstReply?_append, Option.or_eq_none_iff] at hnone
    exact .inl ⟨before, k', a', rest, hxs, hnone.1⟩
  · cases rest with
    | nil =>
      simp only [List.nil_append, List.cons.injEq, Exchange.sent.injEq] at hys
      exact .inr hys.1.2.1
    | cons _ rest => simp at hys

/-- With a request no source is read. -/
theorem Sourced.of_sent {e : Envelope} {a : Except Breakdown Unit}
    (h : Sourced factory (xs ++ [.sent k e a]) scriptId) : Sourced factory xs scriptId := by
  obtain ⟨before, k', id, a', after, m, heq, hreply, hlegible⟩ := h
  obtain ⟨rest, hxs, rfl⟩ | ⟨rest, -, hys⟩ := append_split heq
  · rw [firstReply?_append, firstReply?_eq_none (List.forall_mem_singleton.mpr rfl),
      Option.or_none] at hreply
    exact ⟨before, k', id, a', rest, m, hxs, hreply, hlegible⟩
  · cases rest with
    | nil =>
      obtain rfl : after = [] := by simpa using congrArg List.tail hys.symm
      cases hreply
    | cons _ rest => simp at hys

end Conversation

/-! ## §2. What a bridge has learnt. -/

namespace Bridge

/-- **What a bridge knows of the sources that it asked for**: it has the table of every script
whose source was read; every open request has an exception that waits for it, as long as
there is a connection; and no source was asked for that had been read. -/
structure Learnt (factory : Json) (said : List Exchange) (b : Bridge) : Prop where
  known : ∀ scriptId, Sourced factory said scriptId → (Fields.get? b.tables scriptId).isSome
  waits : ∀ id scriptId, Unanswered said id scriptId →
    (∃ f ∈ b.fetches, f.id = id ∧ f.scriptId = scriptId) ∨ b.link.socket = none
  once : ∀ xs k id scriptId a ys, said = xs ++ .sent k (sourceEnvelope id scriptId) a :: ys →
    ¬ Sourced factory xs scriptId

variable {factory : Json} {said xs : List Exchange} {b b' : Bridge}

/-- Where nothing was asked, nothing is to be known. -/
theorem Learnt.of_unasked (hno : ∀ x ∈ said, ¬ x.asksSource) (b : Bridge) :
    Learnt factory said b where
  known scriptId := by
    rintro ⟨before, k, id, a, after, m, heq, -⟩
    exact absurd ⟨k, id, scriptId, a, rfl⟩ (hno _ (by rw [heq]; simp))
  waits id scriptId := by
    rintro ⟨before, k, a, after, heq, -⟩
    exact absurd ⟨k, id, scriptId, a, rfl⟩ (hno _ (by rw [heq]; simp))
  once ys k id scriptId a zs heq := absurd ⟨k, id, scriptId, a, rfl⟩ (hno _ (by rw [heq]; simp))

/-- Something is said that asks for no source.  A reply that can be read leaves a table, and
a request that is open keeps its exception, or the connection is lost. -/
theorem Learnt.heard (h : Learnt factory said b) (hno : ∀ x ∈ xs, ¬ x.asksSource)
    (htables : ∀ scriptId, (Fields.get? b.tables scriptId).isSome →
      (Fields.get? b'.tables scriptId).isSome)
    (hread : ∀ f ∈ b.fetches, ∀ m, firstReply? xs f.id = some m → Legible factory m →
      (Fields.get? b'.tables f.scriptId).isSome)
    (hkept : ∀ f ∈ b.fetches, firstReply? xs f.id = none →
      f ∈ b'.fetches ∨ b'.link.socket = none)
    (hdead : b.link.socket = none → b'.link.socket = none ∧ ∀ id, firstReply? xs id = none) :
    Learnt factory (said ++ xs) b' where
  known scriptId hsourced := by
    obtain hold | ⟨id, m, hopen, hreply, hlegible⟩ := hsourced.of_append hno
    · exact htables scriptId (h.known scriptId hold)
    · obtain ⟨f, hf, rfl, rfl⟩ | hsocket := h.waits id scriptId hopen
      · exact hread f hf m hreply hlegible
      · cases ((hdead hsocket).2 id).symm.trans hreply
  waits id scriptId hopen := by
    obtain ⟨hbefore, hnone⟩ := hopen.of_append hno
    obtain ⟨f, hf, rfl, rfl⟩ | hsocket := h.waits id scriptId hbefore
    · exact (hkept f hf hnone).imp_left fun hf' => ⟨f, hf', rfl, rfl⟩
    · exact .inr (hdead hsocket).1
  once ys k id scriptId a zs heq := by
    obtain ⟨rest, hsaid, -⟩ | ⟨rest, -, hxs⟩ := append_split heq
    · exact h.once ys k id scriptId a rest hsaid
    · exact absurd ⟨k, id, scriptId, a, rfl⟩ (hno _ (by rw [hxs]; simp))

/-- Nothing was said, and nothing has changed that this is about. -/
theorem Learnt.same (h : Learnt factory said b) (htables : b'.tables = b.tables)
    (hfetches : b'.fetches = b.fetches) (hsocket : b'.link.socket = b.link.socket) :
    Learnt factory said b' where
  known scriptId hsourced := by rw [htables]; exact h.known scriptId hsourced
  waits id scriptId hopen := by rw [hfetches, hsocket]; exact h.waits id scriptId hopen
  once := h.once

/-- The source of a script is asked for, of which the bridge has no table. -/
theorem Learnt.asked (h : Learnt factory said b) {k id : Nat} {scriptId : String}
    (hunknown : Fields.get? b.tables scriptId = none) (a : Except Breakdown Unit)
    (htables : ∀ scriptId, (Fields.get? b.tables scriptId).isSome →
      (Fields.get? b'.tables scriptId).isSome)
    (hwaits : (b.fetches ⊆ b'.fetches ∧ (∃ f ∈ b'.fetches, f.id = id ∧ f.scriptId = scriptId) ∧
      b'.link.socket = b.link.socket) ∨ b'.link.socket = none) :
    Learnt factory (said ++ [.sent k (sourceEnvelope id scriptId) a]) b' where
  known scriptId' hsourced := htables scriptId' (h.known scriptId' hsourced.of_sent)
  waits id' scriptId' hopen := by
    obtain ⟨hmore, hf, hsocket⟩ | hlost := hwaits
    · obtain hbefore | heq := hopen.of_sent
      · rw [hsocket]
        refine (h.waits id' scriptId' hbefore).imp_left ?_
        rintro ⟨f, hold, hid⟩
        exact ⟨f, hmore hold, hid⟩
      · -- it is the request that was made just now
        obtain rfl : id = id' := congrArg Envelope.id heq
        obtain rfl : scriptId = scriptId' := by
          simpa [sourceEnvelope] using congrArg Envelope.params heq
        exact .inl hf
    · exact .inr hlost
  once ys k' id' scriptId' a' zs heq hsourced := by
    obtain ⟨rest, hsaid, -⟩ | ⟨rest, rfl, hxs⟩ := append_split heq
    · exact h.once ys k' id' scriptId' a' rest hsaid hsourced
    · cases rest with
      | cons _ rest => simp at hxs
      | nil =>
        rw [List.append_nil] at hsourced
        have hsame : sourceEnvelope id scriptId = sourceEnvelope id' scriptId' := by
          simp only [List.nil_append, List.cons.injEq, Exchange.sent.injEq] at hxs
          exact hxs.1.2.1
        obtain rfl : scriptId = scriptId' := by
          simpa [sourceEnvelope] using congrArg Envelope.params hsame
        -- had its source come before, there would be a table and nothing to ask for
        have := h.known scriptId hsourced
        rw [hunknown] at this
        cases this

end Bridge

namespace Site

/-! ## §3. Tables. -/

section Tables

variable {ε : Type} {s s' : Site ε}

/-- No table is lost. -/
def KeepsTables (s s' : Site ε) : Prop :=
  ∀ scriptId, (Fields.get? s.bridge.tables scriptId).isSome →
    (Fields.get? s'.bridge.tables scriptId).isSome

theorem KeepsTables.of_eq (h : s'.bridge.tables = s.bridge.tables) : KeepsTables s s' :=
  fun _ hin => h ▸ hin

/-- Publishing an exception calls listeners. -/
theorem snd_publishException (htame : s.bridge.config.Tame) (e : Thrown)
    (table : Option BlockTable) :
    ∃ calls, ((publishException e table).exec s).2 = s.calling calls := by
  unfold publishException
  rw [Act.exec_bind_ok (exec_look s), exec_ofExcept_bind]
  cases s.bridge.describe e table with
  | error f => exact ⟨[], by simp [calling]⟩
  | ok report => exact ⟨_, congrArg Prod.snd (exec_emit_tame htame (.exception report))⟩

/-- A request that ends with a source that can be read leaves its table. -/
theorem tables_finishFetch (htame : s.bridge.config.Tame) (f : Fetch) (outcome : Outcome) :
    KeepsTables s ((finishFetch f outcome).exec s).2 ∧
      ∀ result table, outcome = .ok result →
        tableOfSource s.bridge.config.blockFactory result = .ok table →
          (Fields.get? ((finishFetch f outcome).exec s).2.bridge.tables f.scriptId).isSome := by
  cases outcome with
  | error g =>
    -- without a source the exception is published, and no table is touched
    obtain ⟨calls, heq⟩ := snd_publishException htame f.exception none
    refine ⟨?_, nofun⟩
    show KeepsTables s ((publishException f.exception none).exec s).2
    rw [heq]
    exact .of_eq rfl
  | ok result =>
    unfold finishFetch
    dsimp only
    rw [Act.exec_bind_ok (exec_look s), exec_ofExcept_bind]
    cases htable : tableOfSource s.bridge.config.blockFactory result with
    | error g =>
      refine ⟨.of_eq rfl, fun result' table hok hread => ?_⟩
      obtain rfl := Except.ok.inj hok
      cases hread.symm.trans htable
    | ok table =>
      dsimp only
      rw [Act.exec_bind_ok (exec_update _ s)]
      let stored : Site ε :=
        { s with bridge := { s.bridge with tables := Fields.put f.scriptId table s.bridge.tables } }
      obtain ⟨calls, heq⟩ :=
        snd_publishException (s := stored) htame f.exception (some table)
      have htables : ((publishException f.exception (some table)).exec stored).2.bridge.tables
          = Fields.put f.scriptId table s.bridge.tables := by rw [heq]; rfl
      constructor
      · intro scriptId hin
        rw [htables, Fields.get?_put]
        split
        · rfl
        · exact hin
      · intro _ _ _ _
        rw [htables, Fields.get?_put, if_pos rfl]
        rfl

/-- A command that ends with a source that can be read leaves the table that was asked for. -/
theorem tables_completeCommand (htame : s.bridge.config.Tame) (id : Nat) (outcome : Outcome) :
    KeepsTables s ((completeCommand id outcome).exec s).2 ∧
      ∀ f result table, s.bridge.fetches.find? (fun f => f.id == id) = some f →
        outcome = .ok result → tableOfSource s.bridge.config.blockFactory result = .ok table →
          (Fields.get? ((completeCommand id outcome).exec s).2.bridge.tables
            f.scriptId).isSome := by
  unfold completeCommand
  rw [Act.exec_bind_ok (exec_look s)]
  cases hfind : s.bridge.fetches.find? (fun f => f.id == id) with
  | none => exact ⟨.of_eq rfl, nofun⟩
  | some f =>
    dsimp only
    rw [Act.exec_bind_ok (exec_update _ s)]
    obtain ⟨hkeeps, hread⟩ := tables_finishFetch (s := s.finished id) htame f outcome
    refine ⟨hkeeps, fun g result table hg => ?_⟩
    obtain rfl := Option.some.inj hg
    exact hread result table

theorem tables_heed (htame : s.bridge.config.Tame) (signal : Signal) :
    KeepsTables s ((heed signal).exec s).2 := by
  cases signal with
  | up => exact .of_eq rfl
  | down =>
    show KeepsTables s (loseConnection.exec s).2
    unfold loseConnection
    rw [Act.exec_bind_ok (exec_update _ s), Act.exec_bind_ok (exec_look _)]
    show KeepsTables s ((emit (.closed _)).exec s.downed).2
    rw [exec_emit_tame (s := s.downed) htame]
    exact .of_eq rfl
  | completed id outcome => exact (tables_completeCommand htame id outcome).1

/-- A signal on its own. -/
theorem snd_heedAll_singleton (htame : s.bridge.config.Tame) (signal : Signal) :
    ((heedAll [signal]).exec s).2 = ((heed signal).exec s).2 := by
  obtain ⟨s₁, hexec, -⟩ := exec_heed htame signal
  unfold heedAll
  rw [Act.exec_bind_ok hexec, ← Act.exec_contained_snd (heed signal), hexec]
  rfl

/-- No signal costs a table. -/
theorem tables_heedAll (signals : List Signal) : ∀ s : Site ε, s.bridge.config.Tame →
    KeepsTables s ((heedAll signals).exec s).2 := by
  induction signals with
  | nil => exact fun s _ => .of_eq rfl
  | cons signal rest ih =>
    intro s htame scriptId hin
    obtain ⟨s₁, hexec, haside⟩ := exec_heed htame signal
    have hsame : ((heed signal).exec s).2 = s₁ := by
      rw [← Act.exec_contained_snd, hexec]
    unfold heedAll
    rw [Act.exec_bind_ok hexec]
    refine ih s₁ ?_ scriptId (hsame ▸ tables_heed htame signal scriptId hin)
    rw [haside.config, heeded_config]
    exact htame

/-- No operation of the link costs a table. -/
theorem tables_onLink {α : Type} {a : Act (Wire ε) α} (htame : s.bridge.config.Tame) :
    KeepsTables s ((onLink a).exec s).2 := by
  rw [onLink_snd htame (r := (a.exec s.wire).1) (w := (a.exec s.wire).2) rfl]
  exact tables_heedAll _ (s.rewired _) htame

end Tables

/-! ## §4. What is learnt since a start. -/

variable {ε : Type} {s s' : Site (Recorded ε)} {b₀ : Bridge} {owed : List Thrown}
  {base : List Exchange}

/-- A request is found by its number. -/
theorem Accounted.find_fetch (h : Accounted b₀ owed s) {f : Fetch} (hf : f ∈ s.bridge.fetches) :
    s.bridge.fetches.find? (fun g => g.id == f.id) = some f := by
  cases hg : s.bridge.fetches.find? (fun g => g.id == f.id) with
  | none => exact absurd (List.find?_eq_none.mp hg f hf) (by simp)
  | some g =>
    have hid : g.id = f.id := by simpa using List.find?_some hg
    rw [List.inj_on_of_nodup_map h.distinct (List.mem_of_find?_eq_some hg) hf hid]

/-- What the bridge has learnt since it had said this. -/
def LearntSince (base : List Exchange) (s : Site (Recorded ε)) : Prop :=
  ∃ said, s.conversation = base ++ said ∧
    s.bridge.Learnt s.bridge.config.blockFactory said

namespace LearntSince

/-- Nothing was said, and nothing has changed that this is about. -/
theorem same (h : LearntSince base s) (hconversation : s'.conversation = s.conversation)
    (hconfig : s'.bridge.config = s.bridge.config) (htables : s'.bridge.tables = s.bridge.tables)
    (hfetches : s'.bridge.fetches = s.bridge.fetches)
    (hsocket : s'.bridge.link.socket = s.bridge.link.socket) : LearntSince base s' := by
  obtain ⟨said, heq, hlearnt⟩ := h
  refine ⟨said, hconversation.trans heq, ?_⟩
  rw [hconfig]
  exact hlearnt.same htables hfetches hsocket

/-- **An operation of the link** that asks for no source. -/
theorem after (h : LearntSince base s) (haccount : Accounted b₀ owed s) (hready : s.Ready)
    {α : Type} {a : Act (Wire (Recorded ε)) α} {r : Except Fault α} {w : Wire (Recorded ε)}
    (xs : List Exchange) (ha : a.exec s.wire = (r, w))
    (hsaid : w.conversation = s.conversation ++ xs) (hno : ∀ x ∈ xs, ¬ x.asksSource)
    (hreplied : ∀ f ∈ s.bridge.fetches, ∀ m, firstReply? xs f.id = some m →
      w.link.signals = [.completed f.id (Link.replyOutcome "Debugger.getScriptSource" m)])
    (hleft : ∀ f ∈ s.bridge.fetches, firstReply? xs f.id = none →
      w.link.signals.any (·.ends f.id) = false ∨ w.link.socket = none)
    (hdead : s.bridge.link.socket = none →
      w.link.socket = none ∧ ∀ id, firstReply? xs id = none) :
    LearntSince base ((onLink a).exec s).2 := by
  obtain ⟨said, heq, hlearnt⟩ := h
  obtain ⟨marker, hmarker⟩ := haccount.marker
  obtain ⟨s', hexec, hlink, hnetwork, hconfig⟩ := onLink_leaves hready.tame ha
  have hfetches := (books_onLink hready.tame hmarker haccount.distinct ha).fetches
  have hheeded := onLink_snd hready.tame ha
  rw [hexec] at hfetches hheeded
  have hconversation : s'.conversation = w.conversation := congrArg Network.conversation hnetwork
  rw [hexec]
  refine ⟨said ++ xs, by rw [hconversation, hsaid, heq, List.append_assoc], ?_⟩
  rw [hconfig]
  -- tables are kept, replies are stored, requests wait or the link is gone, and it stays gone
  refine hlearnt.heard hno ?_ ?_ ?_ ?_
  · intro scriptId hin
    have hkeeps := tables_onLink (a := a) hready.tame scriptId hin
    rwa [hexec] at hkeeps
  · -- the one signal finishes the exception that waits for the reply
    rintro f hf m hreply ⟨result, table, hok, hread⟩
    dsimp only at hheeded
    rw [hheeded, hreplied f hf m hreply, hok]
    rw [snd_heedAll_singleton (s := s.rewired w) hready.tame]
    exact (tables_completeCommand (s := s.rewired w) hready.tame f.id (.ok result)).2 f result
      table (haccount.find_fetch hf) rfl hread
  · intro f hf hnone
    refine (hleft f hf hnone).imp (fun hstill => ?_) fun hlost => ?_
    · rw [hfetches]
      exact List.mem_filter.mpr ⟨hf, by simpa using hstill⟩
    · rw [hlink]
      exact hlost
  · intro hsocket
    rw [hlink]
    exact hdead hsocket

/-- An operation of the link that hears no response.  It ends no command, or leaves no
connection. -/
theorem unanswered (h : LearntSince base s) (haccount : Accounted b₀ owed s) (hready : s.Ready)
    {α : Type} {a : Act (Wire (Recorded ε)) α} {r : Except Fault α} {w : Wire (Recorded ε)}
    (xs : List Exchange) (ha : a.exec s.wire = (r, w))
    (hsaid : w.conversation = s.conversation ++ xs) (hno : ∀ x ∈ xs, ¬ x.asksSource)
    (hunanswered : ∀ x ∈ xs, x.response? = none)
    (hsignals : w.link.signals = s.bridge.link.signals ∨ w.link.socket = none)
    (hdead : s.bridge.link.socket = none → w.link.socket = none) :
    LearntSince base ((onLink a).exec s).2 := by
  have hnone (id : Nat) : firstReply? xs id = none := firstReply?_eq_none hunanswered
  refine h.after haccount hready xs ha hsaid hno (fun f _ m hm => ?_) (fun f _ _ => ?_)
    fun hsocket => ⟨hdead hsocket, hnone⟩
  · cases (hnone f.id).symm.trans hm
  · refine hsignals.imp_left fun hsame => ?_
    rw [hsame, hready.bare.silent]
    rfl

variable [Endpoint ε]

/-- Sending what asks for no source. -/
theorem posted (h : LearntSince base s) (haccount : Accounted b₀ owed s) (hready : s.Ready)
    {awaited : Option Pending} {e : Envelope} {a : Act (Wire (Recorded ε)) Nat}
    (hmethod : e.method ≠ "Debugger.getScriptSource")
    (hposted : Wire.Posted awaited e s.wire (a.exec s.wire)) :
    LearntSince base ((onLink a).exec s).2 := by
  have hno {k : Nat} {r : Except Breakdown Unit} : ¬ (Exchange.sent k e r).asksSource := by
    rintro ⟨_, id, scriptId, _, heq⟩
    exact hmethod (congrArg Envelope.method (Exchange.sent.inj heq).2.1)
  cases hr : a.exec s.wire with
  | mk r w =>
    rw [hr] at hposted
    cases hposted with
    | refused m _ =>
      exact h.unanswered haccount hready [] hr (List.append_nil _).symm nofun nofun (.inl rfl) id
    | @put k hsocket _ =>
      refine h.unanswered haccount hready [.sent k e (s.network.send k e).1] hr rfl
        (List.forall_mem_singleton.mpr hno) (List.forall_mem_singleton.mpr rfl) (.inl ?_) ?_
      · cases awaited <;> rfl
      · intro hnone
        cases hsocket.symm.trans hnone
    | @lost k m _ _ =>
      have hfallen : ((s.wire.putting k awaited e).hangUp k).fallen.link.socket = none := by simp
      refine h.unanswered haccount hready [.sent k e (s.network.send k e).1,
        .closed k ((s.wire.putting k awaited e).network.close k).1] hr ?_ ?_ ?_ (.inr hfallen)
        fun _ => hfallen
      · show (s.network.conversation ++ _) ++ _ = s.network.conversation ++ _
        rw [List.append_assoc]
        rfl
      · exact List.forall_mem_cons.mpr ⟨hno, List.forall_mem_singleton.mpr nofun⟩
      · exact List.forall_mem_cons.mpr ⟨rfl, List.forall_mem_singleton.mpr rfl⟩

/-- **A response** ends the request that it answers, and no other. -/
theorem answered (h : LearntSince base s) (haccount : Accounted b₀ owed s) (hready : s.Ready)
    {k : Nat} {frame : Frame} {m : Record} {p : Wire.Poll}
    (hsocket : s.bridge.link.socket = some k) (hframe : (s.network.receive k).1 = some frame)
    (hfields : frame.fields? = some m) (hresponse : IsResponse m)
    (hr : Wire.poll.exec s.wire
      = (.ok p, { s.wire.reading k with link := s.bridge.link.answer m })) :
    LearntSince base ((onLink Wire.poll).exec s).2 := by
  have hreply (id : Nat) :
      firstReply? [.received k frame] id = if Answers m id then some m else none :=
    firstReply?_singleton (Exchange.response?_some (k := k) hfields hresponse)
  have hsilent := hready.bare.silent
  refine h.after haccount hready [.received k frame] hr (conversation_reading_some hframe)
    (List.forall_mem_singleton.mpr nofun) (fun f hf m' hm' => ?_) (fun f hf hnone => .inl ?_) ?_
  · rw [hreply] at hm'
    split at hm'
    · obtain rfl := Option.some.inj hm'
      -- the exception asked with this number, and its command is the one that is answered
      rename_i hanswers
      obtain ⟨q, hq, hid, hmethod⟩ := haccount.asked f hf
      show (s.bridge.link.answer m).signals = _
      rw [hready.bare.numbered.answer_pending hq (hid ▸ hanswers), hid, hmethod]
      exact congrArg (· ++ [.completed f.id (Link.replyOutcome "Debugger.getScriptSource" m)])
        hsilent
    · cases hm'
  · rw [hreply] at hnone
    have hother : ¬ Answers m f.id := fun hanswers => by rw [if_pos hanswers] at hnone; cases hnone
    show (s.bridge.link.answer m).signals.any _ = false
    obtain ⟨-, hsignals, -⟩ | ⟨q', -, hanswers', -, hsignals⟩ := s.bridge.link.answer_signals m
    · rw [hsignals, hsilent]
      rfl
    · rw [hsignals, hsilent]
      have hne : f.id ≠ q'.id := fun heq => hother (heq ▸ hanswers')
      simpa [Signal.ends] using hne
  · intro hnone
    cases hsocket.symm.trans hnone

/-- **Reading a frame.** -/
theorem polled (h : LearntSince base s) (haccount : Accounted b₀ owed s) (hready : s.Ready)
    (hclean : Uninterrupted ((onLink Wire.poll).exec s).2.conversation) :
    LearntSince base ((onLink Wire.poll : Act (Site (Recorded ε)) Wire.Poll).exec s).2 := by
  obtain ⟨p, s', w, -, -, hr, hpolled, -⟩ := polled_onLink hready hclean
  have hquiet {k : Nat} {frame : Frame} (hno : ∀ m, frame.fields? = some m → ¬ IsResponse m) :
      ∀ x ∈ [Exchange.received k frame], x.response? = none :=
    List.forall_mem_singleton.mpr (Exchange.response?_none hno)
  cases hpolled with
  | idle =>
    exact h.unanswered haccount hready [] hr (List.append_nil _).symm nofun nofun (.inl rfl) id
  | @nothing k hsocket hnone =>
    refine h.unanswered haccount hready [] hr ?_ nofun nofun (.inl rfl) id
    rw [List.append_nil]
    exact conversation_reading_none hnone
  | @ignored k frame d hsocket hframe hno =>
    refine h.unanswered haccount hready [.received k frame] hr (conversation_reading_some hframe)
      (List.forall_mem_singleton.mpr nofun) (hquiet fun m hm hresponse => ?_) (.inl rfl) id
    cases (hno m hm).2.symm.trans hresponse.2
  | answered hsocket hframe hfields hresponse =>
    exact h.answered haccount hready hsocket hframe hfields hresponse hr
  | @notified k frame m hsocket hframe hfields hmethod =>
    refine h.unanswered haccount hready [.received k frame] hr (conversation_reading_some hframe)
      (List.forall_mem_singleton.mpr nofun) (hquiet fun m' hm' hresponse => ?_) (.inl rfl) id
    cases hfields.symm.trans hm'
    cases hmethod.symm.trans hresponse.1
  | @ended k frame hsocket hframe hno =>
    -- the link is lost with the frame that ends it, so nothing is waited for any more
    have hfallen : ((s.wire.reading k).hangUp k).fallen.link.socket = none := by simp
    refine h.unanswered haccount hready [.received k frame,
      .closed k ((s.wire.reading k).network.close k).1] hr ?_ ?_ ?_ (.inr hfallen) fun _ => hfallen
    · have hread : (s.wire.reading k).conversation = s.conversation ++ [.received k frame] :=
        conversation_reading_some hframe
      show (s.wire.reading k).conversation ++ _ = _
      rw [hread, List.append_assoc]
      rfl
    · exact List.forall_mem_cons.mpr ⟨nofun, List.forall_mem_singleton.mpr nofun⟩
    · refine List.forall_mem_cons.mpr ⟨Exchange.response?_none fun m hm => ?_,
        List.forall_mem_singleton.mpr rfl⟩
      cases hno.symm.trans hm

/-- Closing the link. -/
theorem shut (h : LearntSince base s) (haccount : Accounted b₀ owed s) (hready : s.Ready)
    (hclean : Uninterrupted ((onLink Wire.close).exec s).2.conversation) :
    LearntSince base ((onLink Wire.close : Act (Site (Recorded ε)) Unit).exec s).2 := by
  rw [conversation_onLink hready] at hclean
  cases hsocket : s.bridge.link.socket with
  | some k =>
    have hr := Wire.exec_close_some (w := s.wire) hready.bare hsocket hclean
    refine h.unanswered haccount hready [.closed k (s.network.close k).1] hr rfl
      (List.forall_mem_singleton.mpr nofun) (List.forall_mem_singleton.mpr rfl) (.inr ?_)
      fun _ => ?_
    all_goals simp
  | none =>
    have hr := Wire.exec_close_none (w := s.wire) hready.bare hsocket
    exact h.unanswered haccount hready [] hr (List.append_nil _).symm nofun nofun (.inl rfl) id

/-! Notifications. -/

omit [Endpoint ε] in
/-- Publishing an exception asks for nothing. -/
theorem publish (h : LearntSince base s) (hready : s.Ready) (e : Thrown)
    (table : Option BlockTable) : LearntSince base ((publishException e table).exec s).2 := by
  obtain ⟨calls, heq⟩ := snd_publishException hready.tame e table
  rw [heq]
  exact h.same rfl rfl rfl rfl rfl

/-- **An exception asks for a source only if the bridge has no table of the script.** -/
theorem onException {e : Thrown} (h : LearntSince base s) (hready : s.Ready)
    (hclean : Uninterrupted ((onException e).exec s).2.conversation) :
    LearntSince base ((Site.onException e).exec s).2 := by
  have htaken := taken_onException e hready hclean
  generalize (Site.onException e).exec s = r at htaken
  cases htaken with
  | unplaced f hlocation => exact h
  | published table => exact h.publish hready e table
  | asked scriptId hunknown hasked =>
    let number : Nat := s.bridge.link.nextId
    let awaited : Pending := { id := number, method := "Debugger.getScriptSource" }
    have hready' : ((asking scriptId).exec s).2.Ready := ready_submit hready hasked
    have hposted : Posted (some awaited) (sourceEnvelope number scriptId) s
        ((asking scriptId).exec s) := posted_submit _ _ hready hasked
    have hkeeps : KeepsTables s ((asking scriptId).exec s).2 := tables_onLink hready.tame
    generalize (asking scriptId).exec s = r at hposted hready' hkeeps
    obtain ⟨said, heq, hlearnt⟩ := h
    let request (k : Nat) : Exchange :=
      .sent k (sourceEnvelope number scriptId) (s.network.send k (sourceEnvelope number scriptId)).1
    -- only a number was taken, or the request was sent, or the connection was lost in sending
    cases hposted with
    | refused m hno =>
      have hsame : LearntSince base s.numbered := ⟨said, heq, hlearnt.same rfl rfl rfl⟩
      exact hsame.publish hready' e none
    | @put k hsocket hopen =>
      refine ⟨said ++ [request k], ?_,
        hlearnt.asked hunknown _ (fun _ => id) (.inl ⟨?_, ?_, rfl⟩)⟩
      · rw [← List.append_assoc, ← heq]
        rfl
      · exact List.subset_append_left _ _
      · exact ⟨⟨number, scriptId, e⟩, List.mem_append_right _ (List.mem_singleton_self _), rfl, rfl⟩
    | @lost k s' m hsocket hopen haside =>
      have hdown : s'.bridge.link.socket = none := by
        rw [haside.link]
        exact Link.gone_socket _
      have hasking : s'.bridge.Learnt s.bridge.config.blockFactory (said ++ [request k]) :=
        hlearnt.asked hunknown _ hkeeps (.inr hdown)
      have hlost : LearntSince base s' := by
        let sending := s.putting k (some awaited) (sourceEnvelope number scriptId)
        refine ⟨(said ++ [request k]) ++ [.closed k (sending.network.close k).1], ?_, ?_⟩
        · show s'.network.conversation = _
          rw [haside.network, List.append_assoc, ← List.append_assoc base, ← heq]
          exact List.append_assoc s.conversation [request k] _
        · rw [show s'.bridge.config = s.bridge.config from haside.config]
          exact hasking.heard (List.forall_mem_singleton.mpr nofun) (fun _ => id) nofun
            (fun f hf _ => .inl hf) fun _ => ⟨hdown, fun _ => rfl⟩
      exact hlost.publish hready' e none

end LearntSince

/-! ## §5. Runs. -/

section Runs

variable [Endpoint ε]

/-- What a bridge has learnt, and the account that its requests are kept in. -/
def OnRecord (b₀ : Bridge) (owed : List Thrown) (base : List Exchange) (s : Site (Recorded ε)) :
    Prop := Accounted b₀ owed s ∧ LearntSince base s

omit [Endpoint ε] in
/-- Settling on a status says nothing, and keeps what is known. -/
theorem OnRecord.settled (h : OnRecord b₀ owed base s) (status : BridgeStatus) :
    OnRecord b₀ owed base { s with bridge := { s.bridge with status := status } } :=
  ⟨h.1.same rfl rfl rfl rfl rfl fun _ hp _ => hp, h.2.same rfl rfl rfl rfl rfl⟩

theorem learnt_pausing : Pausing (OnRecord (ε := ε) b₀ owed base) where
  update b s hready h hlink hconfig htables hfetches hcalls :=
    ⟨accounted_pausing.update b s hready h.1 hlink hconfig htables hfetches hcalls,
      h.2.same rfl hconfig htables hfetches (congrArg Link.socket hlink)⟩
  notify method params s hmethod hready h hclean := by
    refine ⟨accounted_pausing.notify method params s hmethod hready h.1 hclean, ?_⟩
    rw [conversation_onLink hready] at hclean
    exact h.2.posted h.1 hready hmethod
      (Wire.posted_notify (w := s.wire) method params hready.bare hclean)
  calling e s he hready h :=
    ⟨accounted_pausing.calling e s he hready h.1, h.2.same rfl rfl rfl rfl rfl⟩

/-- **Reading what waits.** -/
theorem learnt_pumpWith (burst : Nat) (s : Site (Recorded ε)) (hready : s.Ready)
    (h : OnRecord b₀ [] base s)
    (hclean : Uninterrupted ((pumpWith (onLink Wire.poll) onMessage burst).exec s).2.conversation) :
    OnRecord b₀ [] base ((pumpWith (onLink Wire.poll) onMessage burst).exec s).2 := by
  refine keeps_pumpWith (Q := fun m s => OnRecord b₀ (Message.thrown? m).toList base s ∧
      ∀ e ∈ (Message.thrown? m).toList, s.JustTold e) (fun s hready h hclean => ?_)
    (fun m s hready ⟨h, htold⟩ hclean => ?_) burst s hready h hclean
  · obtain ⟨p, s', hexec, hready', haccount, htold⟩ := h.1.polled hready hclean
    have hlearnt := h.2.polled h.1 hready hclean
    rw [hexec] at hlearnt
    refine ⟨p, s', hexec, hready', ?_, fun hother => ⟨?_, hlearnt⟩⟩
    · rintro m rfl
      exact ⟨⟨haccount, hlearnt⟩, htold⟩
    · cases p with
      | notification m => exact absurd rfl (hother m)
      | _ => exact haccount
  · refine learnt_pausing.onMessage hready (fun hnone => ?_) (fun e he hclean => ?_) hclean
    · rw [hnone] at h
      exact h
    · rw [he] at h
      exact ⟨accounted_onException h.1 (htold e (Option.mem_toList.mpr he)) hready hclean,
        h.2.onException hready hclean⟩

/-- **What is learnt lasts through every task but a start.** -/
theorem learnt_abiding (b₀ : Bridge) (base : List Exchange) :
    Abiding (OnRecord (ε := ε) b₀ [] base) where
  pump s hready h hclean := by
    unfold pump at hclean ⊢
    rw [Act.exec_bind_ok (exec_look s)] at hclean ⊢
    exact learnt_pumpWith _ s hready h hclean
  submit method params s hmethod hready h hclean := by
    refine ⟨(accounted_enduring b₀).submit method params s hmethod hready h.1 hclean, ?_⟩
    rw [conversation_onLink hready] at hclean
    exact h.2.posted h.1 hready hmethod
      (Wire.posted_submit (w := s.wire) method params hready.bare hclean)
  notify := learnt_pausing.notify
  dropping method id s hready h howns hmethod :=
    ⟨(accounted_enduring b₀).dropping method id s hready h.1 howns hmethod,
      h.2.same rfl rfl rfl rfl rfl⟩
  left s hready h := ⟨(accounted_enduring b₀).left s hready h.1, h.2.same rfl rfl rfl rfl rfl⟩
  registering r s hready h :=
    ⟨(accounted_enduring b₀).registering r s hready h.1, h.2.same rfl rfl rfl rfl rfl⟩
  stirring f s hready h :=
    ⟨(accounted_enduring b₀).stirring f s hready h.1, h.2.same rfl rfl rfl rfl rfl⟩
  close s hready h hclean :=
    ⟨h.1.shut hready hclean, h.2.shut h.1 hready hclean⟩
  stopping s hready h :=
    ⟨(accounted_enduring b₀).stopping s hready h.1, h.2.same rfl rfl rfl rfl rfl⟩
  closing s hready h :=
    ⟨(accounted_enduring b₀).closing s hready h.1, h.2.same rfl rfl rfl rfl rfl⟩

/-- Connecting asks for nothing. -/
theorem learnt_connect (h : Accounted b₀ [] s) (hready : s.Ready)
    (hclean : Uninterrupted ((onLink Wire.connect).exec s).2.conversation) :
    OnRecord b₀ [] s.conversation
      ((onLink Wire.connect : Act (Site (Recorded ε)) Unit).exec s).2 := by
  refine ⟨h.dialled hready hclean, ?_⟩
  have hjoined := joined_connect hready hclean
  generalize (onLink Wire.connect).exec s = r at hjoined
  have hnothing : LearntSince s.conversation s :=
    ⟨[], (List.append_nil _).symm, .of_unasked (List.forall_mem_nil _) _⟩
  cases hjoined with
  | already hsocket => exact hnothing
  | shut m hsocket hshut => exact hnothing
  | @opened k s' hsocket hopen hdial haside =>
    refine ⟨[.dialled (s.network.dial s.bridge.link.url).1], ?_,
      .of_unasked (List.forall_mem_singleton.mpr (Exchange.not_asksSource_dialled _)) _⟩
    show s'.network.conversation = _
    rw [haside.network]
    rfl
  | refused m hsocket hopen =>
    exact ⟨[.dialled (s.network.dial s.bridge.link.url).1], rfl,
      .of_unasked (List.forall_mem_singleton.mpr (Exchange.not_asksSource_dialled _)) _⟩

/-- **A start forgets what was learnt**, and learns from then on. -/
theorem learnt_start (h : Accounted b₀ [] s) (hready : s.Ready)
    (hclean : Uninterrupted ((start : Act (Site (Recorded ε)) Unit).exec s).2.conversation) :
    OnRecord b₀ [] s.conversation ((start : Act (Site (Recorded ε)) Unit).exec s).2 := by
  rw [exec_start] at hclean ⊢
  by_cases hstopped : s.bridge.stopped
  · rw [if_pos hstopped]
    exact ⟨h, [], (List.append_nil _).symm, .of_unasked (List.forall_mem_nil _) _⟩
  rw [if_neg hstopped, exec_settlingOn] at hclean ⊢
  have hrenewed : s.renewed.Ready := ⟨hready.tame, hready.bare⟩
  have haccount : Accounted b₀ [] s.renewed := (accounted_enduring b₀).renewed s hready h
  -- the status that is set at the end changes nothing that is on record
  suffices hestablished :
      Uninterrupted ((establish : Act (Site (Recorded ε)) Unit).exec s.renewed).2.conversation →
        OnRecord b₀ [] s.conversation
          ((establish : Act (Site (Recorded ε)) Unit).exec s.renewed).2 by
    generalize (establish : Act (Site (Recorded ε)) Unit).exec s.renewed = run
      at hclean hestablished ⊢
    exact (hestablished hclean).settled _
  clear hclean
  intro hclean
  rw [establish_eq] at hclean ⊢
  have hfirst := hclean.of_prefix
    (Grows.conversation_bind grows_connect (fun _ => grows_enabling) hrenewed.sane)
  have hready' := ready_connect hrenewed hfirst
  have hconnected := learnt_connect haccount hrenewed hfirst
  rw [Act.exec_bind] at hclean ⊢
  generalize (onLink Wire.connect : Act (Site (Recorded ε)) Unit).exec s.renewed = r
    at hclean hready' hconnected
  obtain ⟨r, s₁⟩ := r
  cases r with
  | error f => exact hconnected
  | ok _ => exact ((learnt_abiding b₀ s.conversation).enabling.keeps s₁ hready' hconnected hclean).2

/-- **A SOURCE IS ASKED FOR UNTIL IT IS READ**: after a start, and until the next one, the
source of a script is asked for only while no request for it was answered with one that can
be read. -/
theorem source_asked_until_read {config : BridgeConfig} (htame : config.Tame) {marker : String}
    (hmarker : config.marker = .str marker) (url : Json) (registry : BreakpointRegistry)
    (blocks : Option BlockTable) (host : ε) (before tasks : List (Task ε))
    (htasks : ∀ task ∈ tasks, task ≠ .start)
    (hclean : Uninterrupted ((fresh config url registry blocks host).afterTasks
      (before ++ .start :: tasks)).conversation) :
    ∃ said, ((fresh config url registry blocks host).afterTasks
        (before ++ .start :: tasks)).conversation
          = ((fresh config url registry blocks host).afterTasks before).conversation ++ said ∧
      ∀ xs k id scriptId a ys, said = xs ++ .sent k (sourceEnvelope id scriptId) a :: ys →
        ¬ Sourced config.blockFactory xs scriptId := by
  have hlearnt := since_start htame hmarker url registry blocks host before tasks htasks hclean
    (learnt_abiding (fresh config url registry blocks host).bridge
      ((fresh config url registry blocks host).afterTasks before).conversation)
    fun s hs hready haccount hclean => by
      rw [← hs]
      exact learnt_start haccount hready hclean
  obtain ⟨haccount, said, hsaid, hlearnt⟩ := hlearnt
  have hconfig := haccount.config
  rw [hconfig] at hlearnt
  exact ⟨said, hsaid, hlearnt.once⟩

end Runs

/-! ## §6. Runs with two exceptions. -/

/-- A bridge that was started, and told of an exception twice, with other tasks in between;
its host does this with a request for a source. -/
def toldTwice (action : HostAction) (meanwhile : List (Task RehearsedHost)) :
    Site (Recorded RehearsedHost) :=
  let rule : HostRule := { method := "Debugger.getScriptSource", actions := [action] }
  let telling : Task RehearsedHost := .stir (fun h => h.enqueue 0 [.message thrownMessage])
  (fresh reporting "ws" {} none { rules := [rule] }).afterTasks
    ([] ++ .start :: (telling :: meanwhile ++ [telling, .pump]))

/-- The source is read before the second exception, which is then the last that is said. -/
theorem source_asked_until_read_toldTwice :
    let s := toldTwice (.reply (.obj [("scriptSource", "//")])) [.pump]
    reporting.Tame ∧ reporting.marker = .str "flow.js" ∧ Uninterrupted s.conversation ∧
      Sourced reporting.blockFactory (s.conversation.take 8) "7" ∧
      s.conversation.drop 8 = [.received 0 (.message thrownMessage)] ∧
      ∃ said, s.conversation = (fresh reporting "ws" {} none
          { rules := [{ method := "Debugger.getScriptSource",
                        actions := [.reply (.obj [("scriptSource", "//")])] }] }
          : Site (Recorded RehearsedHost)).conversation ++ said ∧
        ∀ xs k id scriptId a ys, said = xs ++ .sent k (sourceEnvelope id scriptId) a :: ys →
          ¬ Sourced reporting.blockFactory xs scriptId := by
  intro s
  have htame : reporting.Tame := by
    intro l hl
    obtain rfl := List.mem_singleton.mp hl
    exact fun _ => .ok ()
  have hclean : Uninterrupted s.conversation := by decide +kernel
  refine ⟨htame, rfl, hclean, ?_, rfl, ?_⟩
  · exact ⟨s.conversation.take 6, 0, 3, .ok (), (s.conversation.take 8).drop 7, _, rfl, rfl,
      .obj [("scriptSource", "//")], _, rfl, rfl⟩
  · exact source_asked_until_read htame rfl "ws" {} none _ [] _ (by
      intro task htask
      simp only [List.cons_append, List.nil_append, List.mem_cons, List.not_mem_nil, or_false]
        at htask
      rcases htask with rfl | rfl | rfl | rfl <;> nofun) hclean

/-- **Until a source is read every exception asks for it**: on one connection the source of one
script is asked for twice, and no request is answered. -/
theorem source_asked_twice :
    let s := toldTwice .hold []
    s.bridge.blocks.isNone ∧
      s.conversation.drop 6 = [.sent 0 (sourceEnvelope 3 "7") (.ok ()),
        .received 0 (.message thrownMessage), .sent 0 (sourceEnvelope 4 "7") (.ok ())] ∧
      firstReply? s.conversation 3 = none ∧ firstReply? s.conversation 4 = none :=
  ⟨rfl, rfl, rfl, rfl⟩

end Site
end FlowTrace
