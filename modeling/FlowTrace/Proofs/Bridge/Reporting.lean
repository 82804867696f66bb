/-
  FlowTrace.Proofs.Bridge.Reporting
  ────────────────────────────────
  **EVERY EXCEPTION IS REPORTED ONCE.**

  What a host told of uncaught exceptions can be read off the conversation, and so can
  the fate of each request for a source.  Whatever a bridge was asked to do, of the
  exceptions that it was told

      those are published    — every listener for exceptions was called once
      those wait             — their own request was sent on the connection, and is not answered
      those are lost         — a line is no number, or the reply to their own request holds a
                               source that cannot be read

  and there are no others.
-/
import FlowTrace.Link.Rehearsal
import FlowTrace.Proofs.Bridge.Lasting
import FlowTrace.Proofs.Bridge.Ledger
import FlowTrace.Proofs.Link.Reply
import FlowTrace.Proofs.Outcome

namespace FlowTrace

/-! ## §1. What can be read off a conversation. -/

/-- The exception that a report is about. -/
def Report.thrown? : Report → Option Thrown
  | thrown e => some e
  | _ => none

/-- Only a notification of an exception is read as one. -/
theorem Report.method_of_thrown {method : String} {params : Json} {report : Report} {e : Thrown}
    (hread : Report.read method params = .ok report) (hthrown : report.thrown? = some e) :
    method = "Runtime.exceptionThrown" := by
  by_contra hother
  unfold Report.read Report.ofConsole at hread
  rw [if_neg hother] at hread
  -- the report of any other method is not of an exception
  split_ifs at hread with hscript hpause hresumed hconsole
  · obtain ⟨_, -, rfl⟩ := Outcome.map_eq_ok.mp hread
    cases hthrown
  · obtain ⟨_, -, rfl⟩ := Outcome.map_eq_ok.mp hread
    cases hthrown
  · cases hread
    cases hthrown
  · simp only [Outcome.bind_eq_ok, Outcome.pure_eq_ok] at hread
    obtain ⟨_, -, _, -, _, -, rfl⟩ := hread
    cases hthrown
  · cases hread
    cases hthrown

/-- The exception that a message tells of. -/
def Message.thrown? (message : Record) : Option Thrown :=
  (Notification.ofFields message).toOption.bind (fun n => n.report.thrown?)

namespace ThrownDetails

/-- The call frames of the stack of an exception, innermost frame first. -/
def frames (details : Record) : List Record :=
  (Json.field ((Json.field details "stackTrace").fields?.getD []) "callFrames").objects

/-- The stack is absent or an object, and lines and columns are absent or whole numbers. -/
structure WellFormed (details : Record) : Prop where
  stack : Json.field details "stackTrace" = .null ∨
    ∃ fields, Json.field details "stackTrace" = .obj fields
  line : Json.field details "lineNumber" = .null ∨
    ∃ n, Json.field details "lineNumber" = .int n
  column : Json.field details "columnNumber" = .null ∨
    ∃ n, Json.field details "columnNumber" = .int n
  lines : ∀ frame ∈ frames details, Json.field frame "lineNumber" = .null ∨
    ∃ n, Json.field frame "lineNumber" = .int n

theorem exists_toInt? {v : Json} (h : v = .null ∨ ∃ n, v = .int n) : ∃ n, v.toInt? = .ok n := by
  rcases h with rfl | ⟨n, rfl⟩
  · exact ⟨none, rfl⟩
  · exact ⟨some n, rfl⟩

/-- Well-formed details are those of an exception, whose lines are numbers. -/
theorem WellFormed.exists_thrown {details : Record} (h : WellFormed details) :
    ∃ e, Thrown.ofDetails (.obj details) = .ok e ∧ e.details = details ∧ e.Placed := by
  obtain ⟨line, hline⟩ := exists_toInt? h.line
  obtain ⟨column, hcolumn⟩ := exists_toInt? h.column
  have hdetails : (Json.obj details).orObject = .obj details := by
    cases details <;> rfl
  have hframes : ∃ callFrames, (Json.field details "stackTrace").orObject.get "callFrames"
      = .ok callFrames ∧ callFrames.objects = frames details := by
    unfold frames
    rcases h.stack with hnull | ⟨fields, hfields⟩
    · rw [hnull]
      exact ⟨.null, rfl, rfl⟩
    · rw [hfields]
      cases fields with
      | nil => exact ⟨.null, rfl, rfl⟩
      | cons field rest => exact ⟨_, rfl, rfl⟩
  obtain ⟨callFrames, hget, hobjects⟩ := hframes
  unfold Thrown.ofDetails
  rw [hdetails]
  simp only [Json.fieldsOf, bind, Except.bind, hline, hcolumn, hget]
  refine ⟨_, rfl, rfl, fun frame hframe => ?_⟩
  change frame ∈ callFrames.objects at hframe
  rw [hobjects] at hframe
  rcases h.lines frame hframe with hnull | ⟨n, hn⟩
  · exact .inl hnull
  · exact .inr ⟨n, by rw [hn]; rfl⟩

end ThrownDetails

namespace Exchange

variable {x : Exchange} {e : Thrown}

/-- The exchange tells of the exception. -/
def Tells (x : Exchange) (e : Thrown) : Prop := x.notification?.bind Message.thrown? = some e

/-- The exchange notifies of an exception, whose details are well formed. -/
def Throws (x : Exchange) (details : Record) : Prop :=
  ∃ params, x.told? "Runtime.exceptionThrown" = some (.obj params) ∧
    Json.field params "exceptionDetails" = .obj details ∧ ThrownDetails.WellFormed details

/-- **Every well-formed notification of an exception tells of it.** -/
theorem Throws.exists_tells {details : Record} (h : x.Throws details) :
    ∃ e, x.Tells e ∧ e.details = details ∧ e.Placed := by
  obtain ⟨params, htold, hdetails, hformed⟩ := h
  obtain ⟨m, hx, hmethod, hparams⟩ := told?_eq_some.mp htold
  obtain ⟨e, he, hsame, hplaced⟩ := hformed.exists_thrown
  refine ⟨e, ?_, hsame, hplaced⟩
  have hget : (Json.obj params).get "exceptionDetails" = .ok (.obj details) :=
    congrArg Except.ok hdetails
  have hread : Report.read "Runtime.exceptionThrown" (.obj params) = .ok (.thrown e) := by
    show (Json.get _ _ >>= fun details => Thrown.ofDetails details >>= fun exception =>
      pure (Report.thrown exception)) = _
    rw [hget]
    show (Thrown.ofDetails _ >>= fun exception => pure (Report.thrown exception)) = _
    rw [he]
    rfl
  unfold Tells Message.thrown?
  rw [hx]
  show (Notification.ofFields m).toOption.bind _ = _
  rw [Message.ofFields_eq, hmethod, hparams, hread]
  rfl

/-- What tells of an exception is a notification of one. -/
theorem Tells.told (h : x.Tells e) : (x.told? "Runtime.exceptionThrown").isSome := by
  unfold Tells at h
  obtain ⟨m, hx, hm⟩ := Option.bind_eq_some_iff.mp h
  unfold Message.thrown? at hm
  rw [Message.ofFields_eq] at hm
  cases hread : Report.read (Message.method m) (Message.params m) with
  | error f => simp [hread, Except.map, Except.toOption] at hm
  | ok report =>
    have hthrown : report.thrown? = some e := by
      simpa [hread, Except.map, Except.toOption] using hm
    have hmethod := Report.method_of_thrown hread hthrown
    rw [told?_eq_some.mpr ⟨m, hx, hmethod, rfl⟩]
    rfl

end Exchange

/-- The exceptions that were told, in order. -/
def thrownIn (xs : List Exchange) : List Thrown :=
  xs.filterMap (fun x => x.notification?.bind Message.thrown?)

/-- The request for the source of a script. -/
def sourceEnvelope (id : Nat) (scriptId : String) : Envelope where
  id := id
  method := "Debugger.getScriptSource"
  params := .obj [("scriptId", .str scriptId)]

/-- **The request of an exception**: a request for a source was sent on the connection right
after the exception was told of.  This is what was said after it. -/
def AsksAbout (xs : List Exchange) (e : Thrown) (k id : Nat) (scriptId : String)
    (after : List Exchange) : Prop :=
  ∃ before x a, xs = before ++ x :: .sent k (sourceEnvelope id scriptId) a :: after ∧ x.Tells e

theorem AsksAbout.append {xs after : List Exchange} {e : Thrown} {k id : Nat} {scriptId : String}
    (h : AsksAbout xs e k id scriptId after) (ys : List Exchange) :
    AsksAbout (xs ++ ys) e k id scriptId (after ++ ys) := by
  obtain ⟨before, x, a, rfl, htells⟩ := h
  exact ⟨before, x, a, by simp, htells⟩

/-- The request of the exception was answered, with a source that cannot be read. -/
def Spoiled (factory : Json) (xs : List Exchange) (e : Thrown) : Prop :=
  ∃ k id scriptId after m, AsksAbout xs e k id scriptId after ∧ firstReply? after id = some m ∧
    Site.Unread factory (Link.replyOutcome "Debugger.getScriptSource" m)

theorem Spoiled.append {factory : Json} {xs : List Exchange} {e : Thrown}
    (h : Spoiled factory xs e) (ys : List Exchange) : Spoiled factory (xs ++ ys) e := by
  obtain ⟨k, id, scriptId, after, m, hasks, hm, hunread⟩ := h
  exact ⟨k, id, scriptId, after ++ ys, m, hasks.append ys,
    firstReply?_of_prefix hm (List.prefix_append _ _), hunread⟩

theorem mem_thrownIn {xs : List Exchange} {e : Thrown} :
    e ∈ thrownIn xs ↔ ∃ x ∈ xs, x.Tells e := List.mem_filterMap

/-- Where every notification of an exception is well formed, all lines are numbers. -/
theorem placed_of_throws {xs : List Exchange}
    (hformed : ∀ x ∈ xs, (x.told? "Runtime.exceptionThrown").isSome → ∃ details, x.Throws details) :
    ∀ e ∈ thrownIn xs, e.Placed := by
  intro e he
  obtain ⟨x, hx, htells⟩ := mem_thrownIn.mp he
  obtain ⟨details, hthrows⟩ := hformed x hx htells.told
  obtain ⟨e', htells', _, hplaced⟩ := hthrows.exists_tells
  obtain rfl : e = e' := Option.some.inj (htells.symm.trans htells')
  exact hplaced

theorem thrownIn_append (xs ys : List Exchange) :
    thrownIn (xs ++ ys) = thrownIn xs ++ thrownIn ys :=
  List.filterMap_append

theorem thrownIn_singleton (x : Exchange) :
    thrownIn [x] = (x.notification?.bind Message.thrown?).toList := by
  unfold thrownIn
  cases hx : x.notification?.bind Message.thrown? with
  | none => exact List.filterMap_cons_none hx
  | some e => exact List.filterMap_cons_some hx

/-- Whatever is no notification tells of no exception. -/
theorem thrownIn_other {x : Exchange} (h : x.notification? = none) : thrownIn [x] = [] := by
  rw [thrownIn_singleton, h]
  rfl

/-- A response finishes the one pending command that it answers, or changes no command and
gives no signal. -/
theorem Link.answer_signals (l : Link) (m : Record) :
    ((l.answer m).pending = l.pending ∧ (l.answer m).signals = l.signals ∧
        ∀ p ∈ l.pending, ¬ Answers m p.id) ∨
      ∃ p ∈ l.pending, Answers m p.id ∧
        (l.answer m).pending = l.pending.filter (fun q => q.id != p.id) ∧
        (l.answer m).signals = l.signals ++ [.completed p.id (replyOutcome p.method m)] := by
  rcases l.answer_inversion m with ⟨hno, heq | heq⟩ | ⟨p, hp, hanswers, heq⟩
  · rw [heq]
    exact .inl ⟨rfl, rfl, hno⟩
  · rw [heq]
    exact .inl ⟨rfl, rfl, hno⟩
  · exact .inr ⟨p, hp, hanswers, by rw [heq]; rfl, by rw [heq]; rfl⟩

/-- With the connection every pending command is lost, and no command ends otherwise. -/
theorem Link.fallen_signals {l : Link} (hsilent : l.signals = []) :
    (∀ p ∈ l.pending, .completed p.id lostOutcome ∈ l.fallen.signals) ∧
      ∀ id outcome, .completed id outcome ∈ l.fallen.signals → outcome = lostOutcome := by
  have hfailing : ({ l.failing l.pending with pending := [] } : Link).signals
      = l.pending.map (fun p => .completed p.id lostOutcome) := by
    show l.signals ++ _ = _
    rw [hsilent]
    rfl
  obtain ⟨more, hsignals, hdown⟩ :=
    disconnected_signals { l.failing l.pending with pending := [] }
  rw [hfailing] at hsignals
  unfold fallen
  rw [hsignals]
  constructor
  · intro p hp
    exact List.mem_append_left more (List.mem_map_of_mem hp)
  · intro id outcome hin
    rcases List.mem_append.mp hin with hin | hin
    · obtain ⟨p, _, hp⟩ := List.mem_map.mp hin
      cases hp
      rfl
    · cases hdown _ hin

namespace Site

variable {ε : Type} {s s' : Site (Recorded ε)} {b₀ : Bridge} {owed : List Thrown}

/-! ## §2. The account. -/

/-- The request of the exception was sent on the connection that there is, and is not
answered. -/
def Waits (s : Site (Recorded ε)) (f : Fetch) : Prop :=
  ∃ k after, AsksAbout s.conversation f.exception k f.id f.scriptId after ∧
    s.bridge.link.socket = some k ∧ firstReply? after f.id = none

/-- The last that was said tells of the exception. -/
def JustTold (s : Site (Recorded ε)) (e : Thrown) : Prop :=
  ∃ before x, s.conversation = before ++ [x] ∧ x.Tells e

/-- A request that is sent now is that of the exception. -/
theorem JustTold.asks {e : Thrown} (h : s.JustTold e) {xs : List Exchange} {k id : Nat}
    {scriptId : String} {a : Except Breakdown Unit}
    (hsaid : xs = s.conversation ++ [.sent k (sourceEnvelope id scriptId) a]) :
    AsksAbout xs e k id scriptId [] := by
  obtain ⟨before, x, hlast, htells⟩ := h
  refine ⟨before, x, a, ?_, htells⟩
  rw [hsaid, hlast, List.append_assoc]
  rfl

/-- Something was said that is no reply to the request, and the connection is still there. -/
theorem Waits.later {f : Fetch} (h : s.Waits f) {xs : List Exchange}
    (hsaid : s'.conversation = s.conversation ++ xs)
    (hsocket : s'.bridge.link.socket = s.bridge.link.socket) (hnone : firstReply? xs f.id = none) :
    s'.Waits f := by
  obtain ⟨k, after, hasks, hk, hbefore⟩ := h
  refine ⟨k, after ++ xs, ?_, hsocket.trans hk, ?_⟩
  · rw [hsaid]
    exact hasks.append xs
  · rw [firstReply?_append, hbefore, hnone]
    rfl

/-- Why an exception may be lost. -/
def Costs (factory : Json) (xs : List Exchange) (e : Thrown) : Prop :=
  ¬ e.Placed ∨ Spoiled factory xs e

theorem Costs.append {factory : Json} {xs : List Exchange} {e : Thrown} (h : Costs factory xs e)
    (ys : List Exchange) : Costs factory (xs ++ ys) e :=
  h.imp_right fun hspoiled => hspoiled.append ys

/-- **The account of a bridge**: the ledger since some state balances, but for exceptions that
were told just now, and whatever waits in it waits for a reply. -/
structure Accounted (b₀ : Bridge) (owed : List Thrown) (s : Site (Recorded ε)) : Prop where
  marker : ∃ marker : String, s.bridge.config.marker = .str marker
  asked : ∀ f ∈ s.bridge.fetches, ∃ p ∈ s.bridge.link.pending,
    p.id = f.id ∧ p.method = "Debugger.getScriptSource"
  distinct : (s.bridge.fetches.map (·.id)).Nodup
  waits : ∀ f ∈ s.bridge.fetches, s.Waits f
  ledger : ∃ came, thrownIn s.conversation = came ++ owed ∧
    b₀.Balances (Costs b₀.config.blockFactory s.conversation) came s.bridge

namespace Accounted

theorem config (h : Accounted b₀ owed s) : s.bridge.config = b₀.config := by
  obtain ⟨_, _, hbalances⟩ := h.ledger
  exact hbalances.config

/-- Nothing was said, and nothing has changed that the account is about. -/
theorem same (h : Accounted b₀ owed s) (hconversation : s'.conversation = s.conversation)
    (hconfig : s'.bridge.config = s.bridge.config)
    (hfetches : s'.bridge.fetches = s.bridge.fetches)
    (hcalls : s'.bridge.exceptionCalls = s.bridge.exceptionCalls)
    (hsocket : s'.bridge.link.socket = s.bridge.link.socket)
    (hpending : ∀ p ∈ s.bridge.link.pending, p.method = "Debugger.getScriptSource" →
      p ∈ s'.bridge.link.pending) : Accounted b₀ owed s' where
  marker := by rw [hconfig]; exact h.marker
  asked f hf := by
    obtain ⟨p, hp, hid, hmethod⟩ := h.asked f (by rw [← hfetches]; exact hf)
    exact ⟨p, hpending p hp hmethod, hid, hmethod⟩
  distinct := by rw [hfetches]; exact h.distinct
  waits f hf := (h.waits f (by rw [← hfetches]; exact hf)).later
    (hconversation.trans (List.append_nil _).symm) hsocket rfl
  ledger := by
    obtain ⟨came, hcame, hbalances⟩ := h.ledger
    refine ⟨came, by rw [hconversation]; exact hcame, ?_⟩
    have hstill : s.bridge.Balances (Costs b₀.config.blockFactory s.conversation) [] s'.bridge :=
      .same hconfig (by rw [hfetches]) hcalls
    rw [hconversation]
    exact hbalances.followed hstill

/-- **An operation of the link** is accounted for, if every request that it does not end is
left waiting, and every source that it brings comes with a reply. -/
theorem after (h : Accounted b₀ owed s) (hready : s.Ready) {α : Type}
    {a : Act (Wire (Recorded ε)) α} {r : Except Fault α} {w : Wire (Recorded ε)}
    (xs : List Exchange) (ha : a.exec s.wire = (r, w))
    (hsaid : w.conversation = s.conversation ++ xs)
    (hleft : ∀ f ∈ s.bridge.fetches, w.link.signals.any (·.ends f.id) = false →
      (∀ p ∈ s.bridge.link.pending, p.id = f.id → p ∈ w.link.pending) ∧
        w.link.socket = s.bridge.link.socket ∧ firstReply? xs f.id = none)
    (hspoils : ∀ e, s.Spoils w.link.signals e → Spoiled b₀.config.blockFactory w.conversation e) :
    Accounted b₀ (owed ++ thrownIn xs) ((onLink a).exec s).2 := by
  obtain ⟨marker, hmarker⟩ := h.marker
  obtain ⟨s', hexec, hlink, hnetwork, -⟩ := onLink_leaves hready.tame ha
  have hbooks := books_onLink hready.tame hmarker h.distinct ha
  have hconversation : s'.conversation = w.conversation := congrArg Network.conversation hnetwork
  rw [hexec] at hbooks ⊢
  have hconfig := hbooks.balances.config
  -- the requests that are left are those no signal has ended
  have hkept : ∀ f ∈ s'.bridge.fetches, f ∈ s.bridge.fetches ∧
      w.link.signals.any (·.ends f.id) = false := by
    intro f hf
    rw [hbooks.fetches] at hf
    exact ⟨(List.mem_filter.mp hf).1, by simpa using (List.mem_filter.mp hf).2⟩
  refine ⟨⟨marker, by rw [hconfig]; exact hmarker⟩, fun f hf => ?_, ?_, fun f hf => ?_, ?_⟩
  · obtain ⟨hin, hstill⟩ := hkept f hf
    obtain ⟨p, hp, hid, hmethod⟩ := h.asked f hin
    refine ⟨p, ?_, hid, hmethod⟩
    rw [hlink]
    exact (hleft f hin hstill).1 p hp hid
  · rw [hbooks.fetches]
    exact h.distinct.sublist (List.filter_sublist.map _)
  · obtain ⟨hin, hstill⟩ := hkept f hf
    obtain ⟨_, hsocket, hunanswered⟩ := hleft f hin hstill
    exact (h.waits f hin).later (hconversation.trans hsaid)
      ((congrArg Link.socket hlink).trans hsocket) hunanswered
  · obtain ⟨came, hcame, hbalances⟩ := h.ledger
    refine ⟨came, ?_, ?_⟩
    · rw [hconversation, hsaid, thrownIn_append, hcame, List.append_assoc]
    · rw [hconversation]
      -- what cost an exception before still does, and the signals may cost more of them
      have hbefore : b₀.Balances (Costs b₀.config.blockFactory w.conversation) came s.bridge := by
        refine hbalances.mono fun e hcost => ?_
        rw [hsaid]
        exact hcost.append xs
      have hthen : s.bridge.Balances (Costs b₀.config.blockFactory w.conversation) [] s'.bridge :=
        hbooks.balances.mono fun e => .imp_right (hspoils e)
      exact hbefore.followed hthen

/-- An operation that ends no command and hears no response. -/
theorem quiet (h : Accounted b₀ owed s) (hready : s.Ready) {α : Type}
    {a : Act (Wire (Recorded ε)) α} {r : Except Fault α} {w : Wire (Recorded ε)}
    (xs : List Exchange) (ha : a.exec s.wire = (r, w))
    (hsaid : w.conversation = s.conversation ++ xs)
    (hsignals : ∀ id, ∀ signal ∈ w.link.signals, signal.ends id = false)
    (hpending : ∀ p ∈ s.bridge.link.pending, p ∈ w.link.pending)
    (hsocket : ∀ k, s.bridge.link.socket = some k → w.link.socket = some k)
    (hunanswered : ∀ x ∈ xs, x.response? = none) :
    Accounted b₀ (owed ++ thrownIn xs) ((onLink a).exec s).2 := by
  refine h.after hready xs ha hsaid (fun f hf _ => ⟨fun p hp _ => hpending p hp, ?_, ?_⟩) ?_
  · obtain ⟨k, _, _, hk, _⟩ := h.waits f hf
    rw [hk]
    exact hsocket k hk
  · exact firstReply?_eq_none hunanswered
  · rintro e ⟨f, _, _, outcome, hin, _⟩
    have hends := hsignals f.id _ hin
    simp [Signal.ends] at hends

/-- An operation that leaves the link with its commands, and hears no response. -/
theorem still (h : Accounted b₀ owed s) (hready : s.Ready) {α : Type}
    {a : Act (Wire (Recorded ε)) α} {r : Except Fault α} {w : Wire (Recorded ε)}
    (xs : List Exchange) (ha : a.exec s.wire = (r, w))
    (hsaid : w.conversation = s.conversation ++ xs)
    (hsignals : w.link.signals = s.bridge.link.signals)
    (hpending : w.link.pending = s.bridge.link.pending)
    (hsocket : w.link.socket = s.bridge.link.socket)
    (hunanswered : ∀ x ∈ xs, x.response? = none) :
    Accounted b₀ (owed ++ thrownIn xs) ((onLink a).exec s).2 := by
  refine h.quiet hready xs ha hsaid (fun id signal hin => ?_) (fun p hp => ?_)
    (fun k hk => hsocket.trans hk) hunanswered
  · rw [hsignals, hready.bare.silent] at hin
    cases hin
  · rw [hpending]
    exact hp

/-- With the connection every request is lost, and its exception is published. -/
theorem fallen (h : Accounted b₀ owed s) (hready : s.Ready) {α : Type}
    {a : Act (Wire (Recorded ε)) α} {r : Except Fault α} {v : Wire (Recorded ε)}
    (xs : List Exchange) (ha : a.exec s.wire = (r, v.fallen))
    (hsaid : v.conversation = s.conversation ++ xs) (hsilent : v.link.signals = [])
    (hpending : ∀ p ∈ s.bridge.link.pending, p ∈ v.link.pending) :
    Accounted b₀ (owed ++ thrownIn xs) ((onLink a).exec s).2 := by
  obtain ⟨hall, honly⟩ := Link.fallen_signals hsilent
  refine h.after hready xs ha hsaid (fun f hf hstill => ?_) ?_
  · -- no request is left
    obtain ⟨p, hp, hid, _⟩ := h.asked f hf
    have hends := hall p (hpending p hp)
    rw [List.any_eq_false] at hstill
    exact absurd (by simp [Signal.ends, hid]) (hstill _ hends)
  · rintro e ⟨f, _, _, outcome, hin, result, g, hok, _⟩
    rw [honly _ _ hin] at hok
    cases hok

/-! Operations of the link. -/

variable [Endpoint ε]

/-- Sending something, with a number of its own. -/
theorem posted (h : Accounted b₀ owed s) (hready : s.Ready) {awaited : Option Pending}
    {e : Envelope} {a : Act (Wire (Recorded ε)) Nat}
    (hposted : Wire.Posted awaited e s.wire (a.exec s.wire)) :
    Accounted b₀ owed ((onLink a).exec s).2 := by
  have hsilent := hready.bare.silent
  -- the pending commands stay, whether or not the sent one is added
  have hmore {k : Nat} :
      ∀ p ∈ s.bridge.link.pending, p ∈ (s.wire.putting k awaited e).link.pending := by
    intro p hp
    cases awaited with
    | none => exact hp
    | some q => exact List.mem_append_left _ hp
  have hstill {k : Nat} : (s.wire.putting k awaited e).link.signals = [] := by
    cases awaited with
    | none => exact hsilent
    | some q => exact hsilent
  cases hr : a.exec s.wire with
  | mk r w =>
    rw [hr] at hposted
    rw [← List.append_nil owed]
    cases hposted with
    | refused m hno => exact h.still hready [] hr (List.append_nil _).symm rfl rfl rfl nofun
    | @put k hsocket hopen =>
      refine h.quiet hready [.sent k e (s.network.send k e).1] hr rfl
        (fun id signal hin => ?_) hmore (fun j hj => ?_) (List.forall_mem_singleton.mpr rfl)
      · rw [hstill] at hin
        cases hin
      · cases awaited <;> exact hj
    | @lost k m hsocket hopen =>
      refine h.fallen hready [.sent k e (s.network.send k e).1,
        .closed k ((s.wire.putting k awaited e).network.close k).1] hr ?_ hstill hmore
      show (s.network.conversation ++ _) ++ _ = s.network.conversation ++ _
      rw [List.append_assoc]
      rfl

/-- Connecting. -/
theorem dialled (h : Accounted b₀ owed s) (hready : s.Ready)
    (hclean : Uninterrupted ((onLink Wire.connect).exec s).2.conversation) :
    Accounted b₀ owed ((onLink Wire.connect : Act (Site (Recorded ε)) Unit).exec s).2 := by
  rw [conversation_onLink hready] at hclean
  have hdialled := Wire.dialled_connect (w := s.wire) hclean
  cases hr : (Wire.connect).exec s.wire with
  | mk r w =>
    rw [hr] at hdialled
    rw [← List.append_nil owed]
    cases hdialled with
    | already hsocket => exact h.still hready [] hr (List.append_nil _).symm rfl rfl rfl nofun
    | shut m hsocket hshut => exact h.still hready [] hr (List.append_nil _).symm rfl rfl rfl nofun
    | @opened k hsocket hopen hdial =>
      refine h.quiet hready [.dialled (s.network.dial s.bridge.link.url).1] hr rfl
        (fun id signal hin => ?_) (fun p hp => hp) (fun j hj => ?_)
        (List.forall_mem_singleton.mpr rfl)
      · change signal ∈ s.bridge.link.signals ++ [.up] at hin
        rw [hready.bare.silent] at hin
        obtain rfl := List.mem_singleton.mp hin
        rfl
      · cases hsocket.symm.trans hj
    | refused m hsocket hopen hdial =>
      exact h.still hready [.dialled (s.network.dial s.bridge.link.url).1] hr rfl rfl rfl rfl
        (List.forall_mem_singleton.mpr rfl)

/-- Closing the link. -/
theorem shut (h : Accounted b₀ owed s) (hready : s.Ready)
    (hclean : Uninterrupted ((onLink Wire.close).exec s).2.conversation) :
    Accounted b₀ owed ((onLink Wire.close : Act (Site (Recorded ε)) Unit).exec s).2 := by
  rw [conversation_onLink hready] at hclean
  rw [← List.append_nil owed]
  cases hsocket : s.bridge.link.socket with
  | some k =>
    have hr := Wire.exec_close_some (w := s.wire) hready.bare hsocket hclean
    exact h.fallen hready [.closed k (s.network.close k).1] hr rfl hready.bare.silent fun p hp => hp
  | none =>
    have hr := Wire.exec_close_none (w := s.wire) hready.bare hsocket
    exact h.still hready [] hr (List.append_nil _).symm rfl rfl rfl nofun

omit [Endpoint ε] in
/-- A source that cannot be read was asked for, and came with the first reply to the request. -/
theorem spoiled (h : Accounted b₀ owed s) {f : Fetch} (hf : f ∈ s.bridge.fetches) {x : Exchange}
    {m : Record} (hx : x.response? = some m) (hanswers : Answers m f.id)
    (hunread : Unread s.bridge.config.blockFactory
      (Link.replyOutcome "Debugger.getScriptSource" m)) :
    Spoiled b₀.config.blockFactory (s.conversation ++ [x]) f.exception := by
  obtain ⟨k, after, hasks, _, hnone⟩ := h.waits f hf
  refine ⟨k, f.id, f.scriptId, after ++ [x], m, hasks.append [x], ?_, ?_⟩
  · rw [firstReply?_append, hnone, firstReply?_singleton hx, if_pos hanswers]
    rfl
  · rw [← h.config]
    exact hunread

/-- **A response** finishes the exception that waits for it, if it answers a request. -/
theorem answered (h : Accounted b₀ owed s) (hready : s.Ready) {k : Nat} {frame : Frame} {m : Record}
    {p : Wire.Poll} (hframe : (s.network.receive k).1 = some frame)
    (hfields : frame.fields? = some m)
    (hresponse : IsResponse m) (hr : Wire.poll.exec s.wire
      = (.ok p, { s.wire.reading k with link := s.bridge.link.answer m })) :
    Accounted b₀ owed ((onLink Wire.poll).exec s).2 := by
  have hx := Exchange.response?_some (k := k) hfields hresponse
  have hsaid : ({ s.wire.reading k with link := s.bridge.link.answer m } : Wire _).conversation
      = s.conversation ++ [.received k frame] := by
    show s.network.conversation ++ (s.network.receive k).1.toList.map (.received k) = _
    rw [hframe]
    rfl
  have hnothing : thrownIn [.received k frame] = [] := by
    refine thrownIn_other (Exchange.notification?_none fun m' hm' => ?_)
    cases hfields.symm.trans hm'
    exact hresponse.1
  have hreply (id : Nat) : firstReply? [.received k frame] id
      = if Answers m id then some m else none := firstReply?_singleton hx
  rw [← List.append_nil owed, ← hnothing]
  have hsilent := hready.bare.silent
  -- the response answers no command, or the one that its number names; only the latter takes
  -- an exception out of the waiting ones
  rcases s.bridge.link.answer_signals m with
    ⟨hpending, hsignals, hno⟩ | ⟨q, hq, hanswers, hpending, hsignals⟩ <;> rw [hsilent] at hsignals
  · refine h.after hready [.received k frame] hr hsaid
      (fun f hf _ => ⟨fun p' hp' _ => hpending ▸ hp', Link.answer_socket _ _, ?_⟩) ?_
    · obtain ⟨p', hp', hid, _⟩ := h.asked f hf
      rw [hreply, if_neg (by rw [← hid]; exact hno p' hp')]
    · rintro e ⟨f, _, _, outcome, hin, _⟩
      cases hsignals ▸ hin
  · refine h.after hready [.received k frame] hr hsaid (fun f hf hstill => ?_) ?_
    · -- a request that is left has another number
      change (s.bridge.link.answer m).signals.any _ = false at hstill
      rw [hsignals] at hstill
      have hne : f.id ≠ q.id := by simpa [Signal.ends] using hstill
      refine ⟨fun p' hp' hid => ?_, Link.answer_socket _ _, ?_⟩
      · show p' ∈ (s.bridge.link.answer m).pending
        rw [hpending]
        exact List.mem_filter.mpr ⟨hp', by simpa [hid] using hne⟩
      · rw [hreply, if_neg fun hother => hne (hother.unique hanswers)]
    · rintro e ⟨f, hf, rfl, outcome, hin, hunread⟩
      change _ ∈ (s.bridge.link.answer m).signals at hin
      rw [hsignals] at hin
      -- an exception is lost here only if the source of its script was answered and is unreadable
      obtain ⟨hid, rfl⟩ := Signal.completed.inj (List.mem_singleton.mp hin)
      obtain ⟨p', hp', hid', hmethod⟩ := h.asked f hf
      obtain rfl : p' = q := hready.bare.numbered.unique hp' hq (hid'.trans hid)
      rw [hmethod] at hunread
      rw [hsaid]
      exact h.spoiled hf hx (hid ▸ hanswers) hunread

end Accounted

/-! ## §3. Reading. -/

/-- The property is kept by what a bridge does about any notification but an exception: it
changes what it knows of scripts and pauses, asks for the script to run on, and calls
listeners. -/
structure Pausing [Endpoint ε] (P : Site (Recorded ε) → Prop) : Prop where
  update : ∀ (b : Bridge) s, s.Ready → P s → b.link = s.bridge.link →
    b.config = s.bridge.config → b.tables = s.bridge.tables → b.fetches = s.bridge.fetches →
      b.calls = s.bridge.calls → P { s with bridge := b }
  notify : ∀ (method : Json) params s, method ≠ "Debugger.getScriptSource" → s.Ready → P s →
    Uninterrupted ((onLink (Wire.notify method params)).exec s).2.conversation →
      P ((onLink (Wire.notify method params)).exec s).2
  calling : ∀ (e : Event) s, e.kind ≠ .exception → s.Ready → P s →
    P (s.calling (s.bridge.config.callsOf e))

namespace Pausing

variable [Endpoint ε] {P : Site (Recorded ε) → Prop}

theorem preserves_update (hP : Pausing P) {f : Bridge → Bridge}
    (hf : ∀ b, ∃ tracker status registry,
      f b = { b with tracker := tracker, status := status, registry := registry }) :
    Preserves P (Site.update f : Act (Site (Recorded ε)) Unit) := by
  refine .update (fun b => ?_) (fun b => ?_) fun s hready hs => ?_
  · obtain ⟨_, _, _, heq⟩ := hf b
    rw [heq]
  · obtain ⟨_, _, _, heq⟩ := hf b
    rw [heq]
  · obtain ⟨_, _, _, heq⟩ := hf s.bridge
    rw [heq]
    exact hP.update _ s hready hs rfl rfl rfl rfl rfl

theorem preserves_emit (hP : Pausing P) {e : Event} (he : e.kind ≠ .exception) :
    Preserves P (emit e : Act (Site (Recorded ε)) Unit) where
  grows := .setsAside (.emit e)
  keeps s hready hs _ := by
    rw [exec_emit_tame hready.tame]
    exact ⟨⟨hready.tame, hready.bare⟩, hP.calling e s he hready hs⟩

theorem preserves_notify (hP : Pausing P) {method : Json}
    (hmethod : method ≠ "Debugger.getScriptSource") (params : Json) :
    Preserves P (onLink (Wire.notify method params) : Act (Site (Recorded ε)) Nat) where
  grows := .onLink fun _ hplain => Wire.steps_notify _ _ hplain
  keeps s hready hs hclean := ⟨ready_posted hready (fun k _ => hready.notifying k _)
    (posted_notify method params hready hclean), hP.notify method params s hmethod hready hs hclean⟩

theorem preserves_resume (hP : Pausing P) : Preserves P (resume : Act (Site (Recorded ε)) Unit) :=
  .bind (hP.preserves_update fun _ => ⟨_, _, _, rfl⟩) fun _ =>
    .bind (hP.preserves_notify (by decide) _) fun _ => .of_snd_eq fun _ => rfl

theorem preserves_enterPause (hP : Pausing P) (url : String) (frame : Record) (params : Json) :
    Preserves P (enterPause url frame params : Act (Site (Recorded ε)) Unit) := by
  refine .bind (.of_snd_eq fun _ => rfl) fun paused => .bind
    (hP.preserves_update fun _ => ⟨_, _, _, rfl⟩) fun _ => .bind (.of_snd_eq fun _ => rfl)
    fun ids => .bind (hP.preserves_update fun b => ?_) fun _ => hP.preserves_emit nofun
  obtain ⟨registry, hhits, _⟩ := Bridge.recordHits_eq paused ids b
  exact ⟨_, _, registry, by rw [hhits]⟩

theorem preserves_onPaused (hP : Pausing P) (frames : List Record) (params : Json) :
    Preserves P (onPaused frames params : Act (Site (Recorded ε)) Unit) := by
  cases frames with
  | nil => exact hP.preserves_resume
  | cons frame rest =>
    refine .bind (.of_snd_eq fun _ => rfl) fun _ => .bind (.of_snd_eq fun _ => rfl) fun b =>
      .bind (.of_snd_eq fun _ => rfl) fun flow => ?_
    cases flow with
    | true => exact hP.preserves_enterPause _ _ _
    | false => exact hP.preserves_resume

/-- **Handling a notification** keeps the property if an exception does that is told of. -/
theorem onMessage (hP : Pausing P) {m : Record} (hready : s.Ready)
    (hother : Message.thrown? m = none → P s)
    (hthrown : ∀ e, Message.thrown? m = some e →
      Uninterrupted ((onException e).exec s).2.conversation → P ((onException e).exec s).2)
    (hclean : Uninterrupted ((Site.onMessage m).exec s).2.conversation) :
    P ((Site.onMessage m).exec s).2 := by
  unfold Message.thrown? at hother hthrown
  unfold Site.onMessage at hclean ⊢
  rw [exec_ofExcept_bind] at hclean ⊢
  cases hread : Notification.ofFields m with
  | error f =>
    rw [hread] at hother
    exact hother rfl
  | ok n =>
    rw [hread] at hother hthrown
    simp only [hread] at hclean ⊢
    change n.report.thrown? = none → P s at hother
    change ∀ e, n.report.thrown? = some e → _ → _ at hthrown
    unfold onNotification at hclean ⊢
    -- only a thrown exception concerns the reports; all else the predicate survives anyway
    cases hreport : n.report with
    | other =>
      rw [hreport] at hother
      exact hother rfl
    | scriptParsed scriptId url =>
      rw [hreport] at hother
      exact hP.update _ s hready (hother rfl) rfl rfl rfl rfl rfl
    | paused frames reason =>
      rw [hreport] at hother
      simp only [hreport] at hclean
      exact ((hP.preserves_onPaused frames n.params).keeps s hready (hother rfl) hclean).2
    | resumed =>
      rw [hreport] at hother
      exact hP.update _ s hready (hother rfl) rfl rfl rfl rfl rfl
    | thrown e =>
      rw [hreport] at hthrown
      simp only [hreport] at hclean
      exact hthrown e rfl hclean
    | console c =>
      rw [hreport] at hother
      simp only [hreport] at hclean
      exact ((hP.preserves_emit (e := .console c n.params) nofun).keeps s hready (hother rfl)
        hclean).2

end Pausing

/-- The exception that was read, if one was. -/
def toldBy : Wire.Poll → List Thrown
  | .notification m => (Message.thrown? m).toList
  | _ => []

section Reading

variable [Endpoint ε]

/-- An exception that was read was told of just now. -/
theorem justTold_polled {p : Wire.Poll} {w : Wire (Recorded ε)} (hpolled : Wire.Polled s.wire p w)
    (hsaid : s'.conversation = w.conversation) : ∀ e ∈ toldBy p, s'.JustTold e := by
  intro e he
  cases hpolled with
  | @notified k frame m hsocket hframe hfields hmethod =>
    refine ⟨s.conversation, .received k frame,
      hsaid.trans (conversation_reading_some hframe), ?_⟩
    unfold Exchange.Tells
    rw [Exchange.notification?_some hfields hmethod]
    exact Option.mem_toList.mp he
  | _ => cases he

/-- **Reading a frame** leaves the bridge with the exception that it tells of. -/
theorem Accounted.polled (h : Accounted b₀ [] s) (hready : s.Ready)
    (hclean : Uninterrupted ((onLink Wire.poll).exec s).2.conversation) :
    ∃ p s', (onLink Wire.poll).exec s = (.ok p, s') ∧ s'.Ready ∧ Accounted b₀ (toldBy p) s' ∧
      ∀ e ∈ toldBy p, s'.JustTold e := by
  obtain ⟨p, s', w, hexec, hready', hr, hpolled, hheard⟩ := polled_onLink hready hclean
  refine ⟨p, s', hexec, hready', ?_, justTold_polled hpolled hheard⟩
  have hsame : s' = ((onLink Wire.poll : Act (Site (Recorded ε)) Wire.Poll).exec s).2 := by
    rw [hexec]
  rw [hsame]
  have hsaid {k : Nat} {frame : Frame} (hframe : (s.network.receive k).1 = some frame) :
      (s.wire.reading k).conversation = s.conversation ++ [.received k frame] :=
    conversation_reading_some hframe
  cases hpolled with
  | idle => exact h.still hready [] hr (List.append_nil _).symm rfl rfl rfl nofun
  | @nothing k hsocket hnone =>
    refine h.still hready [] hr ?_ rfl rfl rfl nofun
    rw [List.append_nil]
    exact conversation_reading_none hnone
  | @ignored k frame d hsocket hframe hno =>
    have hnothing : thrownIn [.received k frame] = [] :=
      thrownIn_other (Exchange.notification?_none fun m hm => (hno m hm).1)
    have hread := h.still hready [.received k frame] hr (hsaid hframe) rfl rfl rfl
    rw [hnothing] at hread
    refine hread (List.forall_mem_singleton.mpr (Exchange.response?_none fun m hm hresponse => ?_))
    cases (hno m hm).2.symm.trans hresponse.2
  | answered hsocket hframe hfields hresponse => exact h.answered hready hframe hfields hresponse hr
  | @notified k frame m hsocket hframe hfields hmethod =>
    -- the notification may bring an exception, which is owed from now on
    have htold : thrownIn [.received k frame] = (Message.thrown? m).toList := by
      rw [thrownIn_singleton, Exchange.notification?_some hfields hmethod]
      rfl
    have hread := h.still hready [.received k frame] hr (hsaid hframe) rfl rfl rfl
    rw [htold] at hread
    refine hread (List.forall_mem_singleton.mpr
      (Exchange.response?_none fun m' hm' hresponse => ?_))
    cases hfields.symm.trans hm'
    cases hmethod.symm.trans hresponse.1
  | @ended k frame hsocket hframe hno =>
    let closed : Exchange := .closed k ((s.wire.reading k).network.close k).1
    have hnothing : thrownIn ([.received k frame] ++ [closed]) = [] := by
      rw [thrownIn_append,
        thrownIn_other (Exchange.notification?_none fun m hm => absurd (hno.symm.trans hm) nofun)]
      rfl
    have hread := h.fallen hready ([.received k frame] ++ [closed]) hr
    rw [hnothing] at hread
    refine hread ?_ hready.bare.silent fun p hp => hp
    show (s.wire.reading k).conversation ++ [closed] = _
    rw [hsaid hframe, List.append_assoc]

/-! Exceptions. -/

omit [Endpoint ε] in
/-- An exception that was told is published, or lost. -/
theorem Accounted.publish {e : Thrown} (h : Accounted b₀ [e] s) (hready : s.Ready)
    (table : Option BlockTable) : Accounted b₀ [] ((publishException e table).exec s).2 := by
  obtain ⟨marker, hmarker⟩ := h.marker
  have hbooks := books_publishException hready.tame hmarker e table
  obtain ⟨_, haside⟩ := SetsAside.publishException e table s hready.tame
  generalize ((publishException e table).exec s).2 = s' at hbooks haside
  have hfetches : s'.bridge.fetches = s.bridge.fetches :=
    hbooks.fetches.trans (List.filter_eq_self.mpr fun _ _ => rfl)
  have hconversation : s'.conversation = s.conversation :=
    congrArg Network.conversation haside.network
  refine ⟨⟨marker, by rw [haside.config]; exact hmarker⟩, fun f hf => ?_, ?_, fun f hf => ?_, ?_⟩
  · rw [haside.link]
    exact h.asked f (by rw [← hfetches]; exact hf)
  · rw [hfetches]
    exact h.distinct
  · exact (h.waits f (by rw [← hfetches]; exact hf)).later
      (hconversation.trans (List.append_nil _).symm) (by rw [haside.link]) rfl
  · obtain ⟨came, hcame, hbalances⟩ := h.ledger
    refine ⟨came ++ [e], by rw [hconversation, List.append_nil]; exact hcame, ?_⟩
    rw [hconversation]
    exact hbalances.trans (hbooks.balances.mono fun _ => .inl)

omit [Endpoint ε] in
/-- An exception that was told waits for a request of its own. -/
theorem Accounted.await {f : Fetch} (h : Accounted b₀ [f.exception] s) {p : Pending}
    (hp : p ∈ s.bridge.link.pending) (hid : p.id = f.id)
    (hmethod : p.method = "Debugger.getScriptSource")
    (hfresh : ∀ g ∈ s.bridge.fetches, g.id ≠ f.id) (hwaits : s.Waits f) :
    Accounted b₀ []
      { s with bridge := { s.bridge with fetches := s.bridge.fetches ++ [f] } } where
  marker := h.marker
  asked g hg := by
    rcases List.mem_append.mp hg with hg | hg
    · exact h.asked g hg
    · obtain rfl := List.mem_singleton.mp hg
      exact ⟨p, hp, hid, hmethod⟩
  distinct := by
    show ((s.bridge.fetches ++ [f]).map (·.id)).Nodup
    rw [List.map_append, List.nodup_append]
    refine ⟨h.distinct, by simp, fun i hi j hj => ?_⟩
    obtain ⟨g, hg, rfl⟩ := List.mem_map.mp hi
    obtain rfl : j = f.id := by simpa using hj
    exact hfresh g hg
  waits g hg := by
    rcases List.mem_append.mp hg with hg | hg
    · exact h.waits g hg
    · obtain rfl := List.mem_singleton.mp hg
      exact hwaits
  ledger := by
    obtain ⟨came, hcame, hbalances⟩ := h.ledger
    refine ⟨came ++ [f.exception], by rw [List.append_nil]; exact hcame, hbalances.trans ?_⟩
    -- nothing is reported: the exception moves from the owed ones to those that wait
    refine ⟨rfl, [], [], ?_, (List.append_nil _).symm, nofun, nofun⟩
    show (f.exception :: s.bridge.fetches.map (·.exception)).Perm
      ((s.bridge.fetches ++ [f]).map (·.exception))
    rw [List.map_append]
    exact (List.perm_append_singleton _ _).symm

/-- **Handling an exception**: it is published, or lost, or waits for the source. -/
theorem accounted_onException {e : Thrown} (h : Accounted b₀ [e] s) (htold : s.JustTold e)
    (hready : s.Ready)
    (hclean : Uninterrupted ((onException e).exec s).2.conversation) :
    Accounted b₀ [] ((onException e).exec s).2 := by
  have htaken := taken_onException e hready hclean
  generalize (onException e).exec s = r at htaken
  cases htaken with
  | unplaced f hlocation =>
    obtain ⟨marker, hmarker⟩ := h.marker
    obtain ⟨location, hplaced, _⟩ := Bridge.exists_flowLocation hmarker e
    -- with a marker that is a text every exception has a location
    cases hlocation.symm.trans hplaced
  | published table => exact h.publish hready table
  | asked scriptId _ hasked =>
    have hready' : ((asking scriptId).exec s).2.Ready := ready_submit hready hasked
    have hposted : Posted (some { id := s.bridge.link.nextId, method := "Debugger.getScriptSource" })
        (sourceEnvelope s.bridge.link.nextId scriptId) s ((asking scriptId).exec s) :=
      posted_submit _ _ hready hasked
    have hlink : Uninterrupted ((Wire.submit "Debugger.getScriptSource"
        (.obj [("scriptId", .str scriptId)])).exec s.wire).2.conversation :=
      conversation_onLink hready ▸ hasked
    have haccount : Accounted b₀ [e] ((asking scriptId).exec s).2 :=
      h.posted hready (Wire.posted_submit (w := s.wire) _ _ hready.bare hlink)
    generalize (asking scriptId).exec s = r at hposted haccount hready'
    cases hposted with
    | refused m hno => exact haccount.publish hready' none
    | lost m hsocket hopen haside => exact haccount.publish hready' none
    | @put k hsocket hopen =>
      refine haccount.await (f := ⟨s.bridge.link.nextId, scriptId, e⟩)
        (List.mem_append_right _ (List.mem_singleton_self _)) rfl rfl (fun g hg => ?_) ?_
      · -- the number is fresh, and all that are asked for have numbers below it
        obtain ⟨p, hp, hid, _⟩ := h.asked g hg
        have hlt := hready.bare.numbered.fresh p hp
        rw [← hid]
        exact Nat.ne_of_lt hlt
      · exact ⟨k, [], htold.asks (conversation_putting s k _ _), hsocket, rfl⟩

/-! Other notifications. -/

omit [Endpoint ε] in
/-- A change that is not about the link, or exceptions. -/
theorem Accounted.update (h : Accounted b₀ owed s) {b : Bridge} (hlink : b.link = s.bridge.link)
    (hconfig : b.config = s.bridge.config) (hfetches : b.fetches = s.bridge.fetches)
    (hcalls : b.calls = s.bridge.calls) : Accounted b₀ owed { s with bridge := b } := by
  refine h.same rfl hconfig hfetches ?_ (congrArg Link.socket hlink) fun p hp _ => ?_
  · unfold Bridge.exceptionCalls
    rw [← hcalls]
  · show p ∈ b.link.pending
    rw [hlink]
    exact hp

theorem Accounted.notify (h : Accounted b₀ owed s) (hready : s.Ready) (method params : Json)
    (hclean : Uninterrupted ((onLink (Wire.notify method params)).exec s).2.conversation) :
    Accounted b₀ owed ((onLink (Wire.notify method params)).exec s).2 := by
  rw [conversation_onLink hready] at hclean
  exact h.posted hready (Wire.posted_notify (w := s.wire) method params hready.bare hclean)

/-- The account is kept by what is done about a pause. -/
theorem accounted_pausing : Pausing (Accounted (ε := ε) b₀ owed) where
  update b s _ h hlink hconfig _ hfetches hcalls := h.update hlink hconfig hfetches hcalls
  notify method params s _ hready h hclean := h.notify hready method params hclean
  calling e s he _ h := by
    refine h.same rfl rfl rfl ?_ rfl fun p hp _ => hp
    rw [exceptionCalls_calling, if_neg he, List.append_nil]

/-- **Handling a notification** settles the exception that it tells of, and no other. -/
theorem accounted_onMessage {m : Record} (h : Accounted b₀ (Message.thrown? m).toList s)
    (htold : ∀ e ∈ (Message.thrown? m).toList, s.JustTold e) (hready : s.Ready)
    (hclean : Uninterrupted ((onMessage m).exec s).2.conversation) :
    Accounted b₀ [] ((onMessage m).exec s).2 := by
  refine accounted_pausing.onMessage hready (fun hnone => ?_) (fun e he hclean => ?_) hclean
  · rw [hnone] at h
    exact h
  · rw [he] at h
    exact accounted_onException h (htold e (Option.mem_toList.mpr he)) hready hclean

/-- **Reading what waits** settles every exception that it tells of. -/
theorem accounted_pumpWith (burst : Nat) (s : Site (Recorded ε)) (hready : s.Ready)
    (h : Accounted b₀ [] s)
    (hclean : Uninterrupted ((pumpWith (onLink Wire.poll) onMessage burst).exec s).2.conversation) :
    Accounted b₀ [] ((pumpWith (onLink Wire.poll) onMessage burst).exec s).2 := by
  refine keeps_pumpWith (Q := fun m s => Accounted b₀ (Message.thrown? m).toList s ∧
      ∀ e ∈ (Message.thrown? m).toList, s.JustTold e) (fun s hready h hclean => ?_)
    (fun m s hready h hclean => accounted_onMessage h.1 h.2 hready hclean) burst s hready h hclean
  obtain ⟨p, s', hexec, hready', h', htold⟩ := h.polled hready hclean
  refine ⟨p, s', hexec, hready', ?_, ?_⟩
  · rintro m rfl
    exact ⟨h', htold⟩
  · intro hother
    cases p with
    | notification m => exact absurd rfl (hother m)
    | _ => exact h'

end Reading

/-! ## §4. Runs. -/

variable [Endpoint ε]

/-- **The account is kept by every piece that tasks are made of.** -/
theorem accounted_enduring (b₀ : Bridge) : Enduring (Accounted (ε := ε) b₀ []) where
  pump s hready h hclean := by
    unfold pump at hclean ⊢
    rw [Act.exec_bind_ok (exec_look s)] at hclean ⊢
    exact accounted_pumpWith _ s hready h hclean
  submit method params s _ hready h hclean := by
    rw [conversation_onLink hready] at hclean
    exact h.posted hready (Wire.posted_submit (w := s.wire) method params hready.bare hclean)
  notify method params s _ hready h hclean := h.notify hready method params hclean
  dropping method id s _ h howns hmethod := by
    refine h.same rfl rfl rfl rfl rfl fun p hp hsource => List.mem_filter.mpr ⟨hp, ?_⟩
    -- the number belongs to a command that asks for no source
    have hne : p.id ≠ id := fun hid => hmethod ((howns.own p hp hid).symm.trans hsource)
    simpa using hne
  left _ _ h := h.same rfl rfl rfl rfl rfl fun p hp _ => hp
  registering _ _ _ h := h.same rfl rfl rfl rfl rfl fun p hp _ => hp
  stirring _ _ _ h := h.same rfl rfl rfl rfl rfl fun p hp _ => hp
  close _ hready h hclean := h.shut hready hclean
  stopping _ _ h := h.same rfl rfl rfl rfl rfl fun p hp _ => hp
  closing _ _ h := h.same rfl rfl rfl rfl rfl fun p hp _ => hp
  connect _ hready h hclean := h.dialled hready hclean
  renewed _ _ h := h.same rfl rfl rfl rfl rfl fun p hp _ => hp
  settled _ _ _ h := h.same rfl rfl rfl rfl rfl fun p hp _ => hp

/-- The account of a new bridge is in order after every run. -/
theorem accounted_afterTasks {config : BridgeConfig} (htame : config.Tame) {marker : String}
    (hmarker : config.marker = .str marker) (url : Json) (registry : BreakpointRegistry)
    (blocks : Option BlockTable) (host : ε) (tasks : List (Task ε))
    (hclean : Uninterrupted
      ((fresh config url registry blocks host).afterTasks tasks).conversation) :
    ((fresh config url registry blocks host).afterTasks tasks).Ready ∧
      Accounted (fresh config url registry blocks host).bridge []
        ((fresh config url registry blocks host).afterTasks tasks) := by
  have hbegin : Accounted (fresh config url registry blocks host).bridge []
      (fresh config url registry blocks host) :=
    ⟨⟨marker, hmarker⟩, nofun, List.nodup_nil, nofun, [], rfl, .same rfl rfl rfl⟩
  exact preserved_afterTasks tasks _ (fun task _ => (accounted_enduring _).act task)
    (ready_fresh htame url registry blocks host) hbegin hclean

/-- **Since its last start**: a property that a start brings about, and every other task keeps,
holds of a new bridge after tasks, a start, and tasks with no other start. -/
theorem since_start {config : BridgeConfig} (htame : config.Tame) {marker : String}
    (hmarker : config.marker = .str marker) (url : Json) (registry : BreakpointRegistry)
    (blocks : Option BlockTable) (host : ε) (before tasks : List (Task ε))
    (htasks : ∀ task ∈ tasks, task ≠ .start)
    (hclean : Uninterrupted ((fresh config url registry blocks host).afterTasks
      (before ++ .start :: tasks)).conversation)
    {P : Site (Recorded ε) → Prop} (hP : Abiding P)
    (hstart : ∀ s, s = (fresh config url registry blocks host).afterTasks before → s.Ready →
      Accounted (fresh config url registry blocks host).bridge [] s →
        Uninterrupted ((start : Act (Site (Recorded ε)) Unit).exec s).2.conversation →
          P (start.exec s).2) :
    P ((fresh config url registry blocks host).afterTasks (before ++ .start :: tasks)) := by
  rw [afterTasks_append] at hclean ⊢
  have hsane := sane_afterTasks before _ (ready_fresh htame url registry blocks host).sane
  obtain ⟨hready, haccount⟩ := accounted_afterTasks htame hmarker url registry blocks host before
    (hclean.of_prefix (grows_afterTasks _ _ hsane))
  specialize hstart _ rfl hready haccount
  generalize (fresh config url registry blocks host).afterTasks before = s
    at hclean hsane hready hstart ⊢
  change Uninterrupted ((start.exec s).2.afterTasks tasks).conversation at hclean
  have hclean' := hclean.of_prefix (grows_afterTasks tasks _ (grows_start s hsane).1)
  have hready' := (enduring_true.start.keeps s hready trivial hclean').1
  exact (preserved_afterTasks tasks _ (fun task htask => hP.act task (htasks task htask)) hready'
    (hstart hclean') hclean).2

/-- What has become of the exceptions that a bridge was told of: those that are published,
those that are lost, and those that wait. -/
structure Reported (config : BridgeConfig) (s : Site (Recorded ε))
    (published : List (Thrown × ExceptionReport)) (lost : List Thrown) : Prop where
  told : (thrownIn s.conversation).Perm
    (published.map Prod.fst ++ lost ++ s.bridge.fetches.map (·.exception))
  /-- The exception of every well-formed notification is one of them, with numbers for lines. -/
  heard : ∀ x ∈ s.conversation, ∀ details, x.Throws details →
    ∃ e ∈ thrownIn s.conversation, x.Tells e ∧ e.details = details ∧ e.Placed
  /-- The listeners for exceptions were called with each report once, and with no other. -/
  called : s.bridge.exceptionCalls =
    published.flatMap (fun p => config.callsOf (.exception p.2))
  described : ∀ p ∈ published, p.2.description = .str p.1.description
  costs : ∀ e ∈ lost, Costs config.blockFactory s.conversation e
  waits : ∀ f ∈ s.bridge.fetches, s.Waits f
  apart : (s.bridge.fetches.map (·.id)).Nodup

namespace Reported

variable {config : BridgeConfig} {published : List (Thrown × ExceptionReport)} {lost : List Thrown}

omit [Endpoint ε] in
/-- **The fate of one exception**, of which a well-formed notification told: it is published,
or its own request waits, or its own request was answered with a source that cannot be read. -/
theorem fate (h : Reported config s published lost) {x : Exchange} (hx : x ∈ s.conversation)
    {details : Record} (hthrows : x.Throws details) :
    ∃ e, x.Tells e ∧ e.details = details ∧
      ((∃ report, (e, report) ∈ published) ∨ (∃ f ∈ s.bridge.fetches, f.exception = e ∧ s.Waits f) ∨
        Spoiled config.blockFactory s.conversation e) := by
  obtain ⟨e, htold, htells, hdetails, hplaced⟩ := h.heard x hx details hthrows
  refine ⟨e, htells, hdetails, ?_⟩
  rcases List.mem_append.mp (h.told.mem_iff.mp htold) with hin | hwaits
  · rcases List.mem_append.mp hin with hpublished | hlost
    · obtain ⟨⟨_, report⟩, hp, rfl⟩ := List.mem_map.mp hpublished
      exact .inl ⟨report, hp⟩
    · exact .inr (.inr ((h.costs e hlost).resolve_left (not_not_intro hplaced)))
  · obtain ⟨f, hf, rfl⟩ := List.mem_map.mp hwaits
    exact .inr (.inl ⟨f, hf, rfl, h.waits f hf⟩)

omit [Endpoint ε] in
/-- **Exactly once**: where every notification of an exception is well formed, and no source is
in the way, every exception is published that does not wait; without a connection none
waits. -/
theorem once (h : Reported config s published lost)
    (hformed : ∀ x ∈ s.conversation, (x.told? "Runtime.exceptionThrown").isSome →
      ∃ details, x.Throws details)
    (hread : ∀ e, ¬ Spoiled config.blockFactory s.conversation e) :
    (thrownIn s.conversation).Perm
        (published.map Prod.fst ++ s.bridge.fetches.map (·.exception)) ∧
      (s.bridge.link.socket = none → (thrownIn s.conversation).Perm (published.map Prod.fst)) := by
  have hnone : lost = [] := by
    rw [List.eq_nil_iff_forall_not_mem]
    intro e he
    rcases h.costs e he with hnot | hspoiled
    · exact hnot (placed_of_throws hformed e (h.told.mem_iff.mpr (by simp [he])))
    · exact hread e hspoiled
  have htold := h.told
  rw [hnone, List.append_nil] at htold
  refine ⟨htold, fun hdown => ?_⟩
  have hidle : s.bridge.fetches = [] := by
    rw [List.eq_nil_iff_forall_not_mem]
    intro f hf
    obtain ⟨k, _, _, hk, _⟩ := h.waits f hf
    cases hdown.symm.trans hk
  rw [hidle, List.map_nil, List.append_nil] at htold
  exact htold

end Reported

/-- **EVERY EXCEPTION IS REPORTED ONCE, OR WAITS FOR ITS SOURCE, OR IS LOST FOR A REASON**:
whatever a bridge was asked to do, and whatever its host has said, each exception that it was
told of has one of these fates, and the listeners for exceptions were called for no other. -/
theorem afterTasks_reported {config : BridgeConfig} (htame : config.Tame) {marker : String}
    (hmarker : config.marker = .str marker) (url : Json) (registry : BreakpointRegistry)
    (blocks : Option BlockTable) (host : ε) (tasks : List (Task ε))
    (hclean : Uninterrupted
      ((fresh config url registry blocks host).afterTasks tasks).conversation) :
    ∃ published lost, Reported config
      ((fresh config url registry blocks host).afterTasks tasks) published lost := by
  have hend := (accounted_afterTasks htame hmarker url registry blocks host tasks hclean).2
  obtain ⟨came, hcame, _, published, lost, hperm, hcalls, hdescribed, hcosts⟩ := hend.ledger
  rw [List.append_nil] at hcame
  change (came ++ []).Perm _ at hperm
  rw [List.append_nil, ← hcame] at hperm
  refine ⟨published, lost, hperm, fun x hx details hthrows => ?_, hcalls, hdescribed, hcosts,
    hend.waits, hend.distinct⟩
  obtain ⟨e, htells, hrest⟩ := hthrows.exists_tells
  exact ⟨e, mem_thrownIn.mpr ⟨x, hx, htells⟩, htells, hrest⟩

/-! ## §5. Runs with an exception. -/

/-- A listener for exceptions. -/
def reporting : BridgeConfig := { listeners := [{ kind := .exception, name := "report" }] }

/-- What a host says of an exception in a flow script. -/
def thrownMessage : Json :=
  .obj [("method", "Runtime.exceptionThrown"),
    ("params", .obj [("exceptionDetails", .obj [("text", "boom"),
      ("stackTrace", .obj [("callFrames", .arr
        [.obj [("scriptId", "7"), ("url", "flow.js"), ("lineNumber", .int 3)]])])])])]

/-- A bridge that was started, and then told of an exception; its host answers a request for
a source with the result. -/
def toldOnce (source : Json) : Site (Recorded RehearsedHost) :=
  let rule : HostRule := { method := "Debugger.getScriptSource", actions := [.reply source] }
  (fresh reporting "ws" {} none { rules := [rule] }).afterTasks
    [.start, .stir (fun h => h.enqueue 0 [.message thrownMessage]), .pump]

theorem afterTasks_reported_toldOnce :
    reporting.Tame ∧ reporting.marker = .str "flow.js" ∧
      Uninterrupted (toldOnce (.obj [])).conversation ∧
      (toldOnce (.obj [])).bridge.exceptionCalls.length = 1 ∧
      ∃ published lost, Reported reporting (toldOnce (.obj [])) published lost := by
  have htame : reporting.Tame := by
    intro l hl
    obtain rfl := List.mem_singleton.mp hl
    exact fun _ => .ok ()
  have hclean : Uninterrupted (toldOnce (.obj [])).conversation := by decide +kernel
  exact ⟨htame, rfl, hclean, rfl, afterTasks_reported htame rfl "ws" {} none _ _ hclean⟩

/-- **An exception may be lost with a reply**: its lines are numbers and its request was
answered, but with a list for a result, and no listener was called. -/
theorem reported_never :
    (∃ e, thrownIn (toldOnce (.arr [.int 1])).conversation = [e] ∧ e.Placed ∧
        Spoiled reporting.blockFactory (toldOnce (.arr [.int 1])).conversation e) ∧
      (toldOnce (.arr [.int 1])).bridge.fetches.length = 0 ∧
      (toldOnce (.arr [.int 1])).bridge.exceptionCalls.length = 0 := by
  refine ⟨⟨_, rfl, ?_, ?_⟩, rfl, rfl⟩
  · intro f hf
    obtain rfl := List.mem_singleton.mp hf
    exact .inr ⟨3, rfl⟩
  · -- the notification, the request and the reply are the last that was said
    exact ⟨0, 3, "7", (toldOnce (.arr [.int 1])).conversation.drop 7, _,
      ⟨(toldOnce (.arr [.int 1])).conversation.take 5, .received 0 (.message thrownMessage), .ok (),
        rfl, rfl⟩, rfl, .arr [.int 1], _, rfl, rfl⟩

end Site
end FlowTrace
