/-
  FlowTrace.Proofs.Link.Mirror
  ────────────────────────────────
  **LINKS IN STEP.**

  A link that has been connected before, and a new one that talks to the same host
  through a relay, are in step: they have the same socket and the same commands pending,
  but for the numbers, and the older one has its past behind it.  Every operation of a
  link keeps them in step, and ends in the same way on both.
-/
import FlowTrace.Proofs.Link.Relay

namespace FlowTrace

/-! ## §1. Links. -/

/-- What an older link has behind it: the numbers that it has given away, the outcomes of the
commands with these numbers, and what it has put on the wire.  And what is known of the newer
one: how far it has counted at least, and whether it may have been closed. -/
structure Past where
  shift : Nat
  outcomes : List (Nat × Outcome)
  log : List Traffic
  bounded : ∀ o ∈ outcomes, o.1 ≤ shift
  given : Nat
  closed : Prop

/-- More is known of how far the newer link has counted. -/
def Past.counting (past : Past) (n : Nat) : Past := { past with given := n }

theorem Relays.counting {ε ε' : Type} [Endpoint ε] [Endpoint ε'] {H : ε → ε' → Prop} {past : Past}
    (h : Relays past.shift H) (n : Nat) : Relays (past.counting n).shift H := h

/-- A command has a number of its own on the newer link, and a higher one on the older. -/
def Raised (d id id' : Nat) : Prop := id = id' + d ∧ 0 < id'

theorem Raised.counting {past : Past} {id id' : Nat} (h : Raised past.shift id id') (n : Nat) :
    Raised (past.counting n).shift id id' := h

/-- The older link is as the newer one, with higher numbers and with its past. -/
structure Link.Mirrors (past : Past) (l l' : Link) : Prop where
  url : l.url = l'.url
  status : l.status = .connected ↔ l'.status = .connected
  shutdown : l.shutdown = l'.shutdown
  nextId : l.nextId = l'.nextId + past.shift
  socket : l.socket = l'.socket
  deaf : l'.socket.isSome = true → l.deaf = l'.deaf
  pending : l.pending = l'.pending.map (Pending.raise past.shift)
  outcomes : l.outcomes = past.outcomes ++ l'.outcomes.map (fun o => (o.1 + past.shift, o.2))
  signals : l.signals = l'.signals.map (Signal.raise past.shift)
  plans : l.downPlans = [] ∧ l'.downPlans = []
  first : 0 < l'.nextId
  given : past.given ≤ l'.nextId
  counted : ∀ p ∈ l'.pending, 0 < p.id ∧ p.id < l'.nextId
  ended : ∀ o ∈ l'.outcomes, o.1 < l'.nextId
  told : ∀ id outcome, .completed id outcome ∈ l'.signals → 0 < id
  closed : l'.shutdown = true → past.closed

namespace Link.Mirrors

variable {past : Past} {l l' : Link}

/-- More is known of the newer link. -/
theorem knowing (h : l.Mirrors past l') {n : Nat} (hn : n ≤ l'.nextId) :
    l.Mirrors (past.counting n) l' := { h with given := hn }

theorem forgetting {n : Nat} (h : l.Mirrors (past.counting n) l') (hn : past.given ≤ n) :
    l.Mirrors past l' := { h with given := Nat.le_trans hn h.given }

/-- Both links count on. -/
theorem allocate (h : l.Mirrors past l') :
    l.allocate.2.Mirrors (past.counting (l'.nextId + 1)) l'.allocate.2 :=
  { h with
    nextId := by
      show l.nextId + 1 = l'.nextId + 1 + past.shift
      have := h.nextId
      omega
    first := Nat.succ_pos _
    given := Nat.le_refl _
    counted := fun p hp => ⟨(h.counted p hp).1, Nat.lt_succ_of_lt (h.counted p hp).2⟩
    ended := fun o ho => Nat.lt_succ_of_lt (h.ended o ho) }

theorem addPending (h : l.Mirrors past l') {p : Pending} (hp : 0 < p.id) (hlt : p.id < past.given) :
    (l.addPending (p.raise past.shift)).Mirrors past (l'.addPending p) :=
  { h with
    pending := by
      show l.pending ++ [p.raise past.shift] = (l'.pending ++ [p]).map _
      rw [List.map_append, h.pending]
      rfl
    counted := by
      intro q hq
      rcases List.mem_append.mp hq with hq | hq
      · exact h.counted q hq
      · obtain rfl := List.mem_singleton.mp hq
        exact ⟨hp, Nat.lt_of_lt_of_le hlt h.given⟩ }

theorem dropPending (h : l.Mirrors past l') {id id' : Nat} (hid : Raised past.shift id id') :
    (l.dropPending id).Mirrors past (l'.dropPending id') :=
  { h with
    pending := by
      show l.pending.filter _ = (l'.pending.filter _).map _
      rw [h.pending, List.filter_map]
      congr 1
      apply List.filter_congr
      intro p _
      show (p.id + past.shift != id) = (p.id != id')
      rw [hid.1]
      exact Bool.eq_iff_iff.mpr (by simp)
    counted := fun q hq => h.counted q (List.mem_filter.mp hq).1 }

/-- Something is told that is about no command, or about one with a number. -/
theorem signal (h : l.Mirrors past l') {s : Signal}
    (hs : ∀ id outcome, s = .completed id outcome → 0 < id) :
    (l.signal (s.raise past.shift)).Mirrors past (l'.signal s) :=
  { h with
    signals := by
      show l.signals ++ [s.raise past.shift] = (l'.signals ++ [s]).map _
      rw [List.map_append, h.signals]
      rfl
    told := by
      intro id outcome hin
      rcases List.mem_append.mp hin with hin | hin
      · exact h.told id outcome hin
      · exact hs id outcome (List.mem_singleton.mp hin).symm }

theorem complete (h : l.Mirrors past l') {id id' : Nat} (hid : Raised past.shift id id')
    (hlt : id' < l'.nextId) (outcome : Outcome) :
    (l.complete id outcome).Mirrors past (l'.complete id' outcome) := by
  have houtcomes : ({ l with outcomes := l.outcomes ++ [(id, outcome)] } : Link).Mirrors past
      { l' with outcomes := l'.outcomes ++ [(id', outcome)] } :=
    { h with
      outcomes := by
        show l.outcomes ++ [(id, outcome)] = _ ++ (l'.outcomes ++ [(id', outcome)]).map _
        rw [List.map_append, h.outcomes, List.append_assoc, hid.1]
        rfl
      ended := by
        intro o ho
        rcases List.mem_append.mp ho with ho | ho
        · exact h.ended o ho
        · obtain rfl := List.mem_singleton.mp ho
          exact hlt }
  have hsignal := houtcomes.signal (s := .completed id' outcome) (by
    intro id'' outcome' heq
    cases heq
    exact hid.2)
  unfold Link.complete
  rw [hid.1] at hsignal ⊢
  exact hsignal

theorem disconnected (h : l.Mirrors past l') : l.disconnected.Mirrors past l'.disconnected := by
  unfold Link.disconnected
  by_cases hon : l.status = .connected
  · rw [if_pos hon, if_pos (h.status.mp hon)]
    have hdown : ({ l with status := .disconnected, downPlans := l.downPlans.drop 1 } : Link).Mirrors
        past { l' with status := .disconnected, downPlans := l'.downPlans.drop 1 } :=
      { h with status := by simp, plans := by simp [h.plans] }
    exact hdown.signal (s := .down) nofun
  · rw [if_neg hon, if_neg (mt h.status.mpr hon)]
    exact { h with status := by simp }

/-- The outcome of a command with a number above those of the past. -/
theorem outcome? (h : l.Mirrors past l') {id id' : Nat} (hid : Raised past.shift id id') :
    l.outcome? id = l'.outcome? id' := by
  have hbefore : past.outcomes.lookup id = none := by
    rw [List.lookup_eq_none_iff]
    intro o ho
    have hle := past.bounded o ho
    have hlt := hid.2
    rw [hid.1]
    simp only [ne_eq, bne_iff_ne]
    omega
  have hsame : ∀ os : List (Nat × Outcome),
      (os.map (fun o => (o.1 + past.shift, o.2))).lookup id = os.lookup id' := by
    intro os
    induction os with
    | nil => rfl
    | cons o rest ih =>
      obtain ⟨k, v⟩ := o
      have hkey : (id == k + past.shift) = (id' == k) := by
        rw [hid.1]
        exact Bool.eq_iff_iff.mpr (by simp)
      rw [List.map_cons, List.lookup_cons, List.lookup_cons, hkey, ih]
  unfold Link.outcome?
  rw [h.outcomes, List.lookup_append, hbefore, hsame]
  rfl

/-- A reply is taken in on both sides. -/
theorem answer (h : l.Mirrors past l') (m : List (String × Json)) :
    (l.answer m).Mirrors past (l'.answer (Fields.lowerId past.shift m)) := by
  have hid : Json.field (Fields.lowerId past.shift m) "id"
      = (Json.field m "id").lower past.shift := Fields.field_lowerId_id past.shift m
  have hempty : l.pending.isEmpty = l'.pending.isEmpty := by
    rw [h.pending, List.isEmpty_map]
  -- numbers are raised by one and the same shift, so the same command is found on both sides
  have hfind : l.pending? (Json.field m "id")
      = (l'.pending? (Json.field (Fields.lowerId past.shift m) "id")).map
        (Pending.raise past.shift) := by
    unfold Link.pending?
    rw [h.pending, List.find?_map, hid]
    congr 2
    funext p
    rw [Json.lower_same]
    rfl
  -- the outcome is read from fields that the shift leaves as they are
  have houtcome (method : Json) : Link.replyOutcome method (Fields.lowerId past.shift m)
      = Link.replyOutcome method m := by
    unfold Link.replyOutcome
    rw [Fields.field_lowerId past.shift m (by decide),
      Fields.field_lowerId past.shift m (by decide)]
  unfold Link.answer
  dsimp only
  rw [hempty, hfind, hid, Json.lower_isKey]
  by_cases hidle : l'.pending.isEmpty = true
  · rw [if_pos hidle, if_pos hidle]
    exact h
  rw [if_neg hidle, if_neg hidle]
  by_cases hkey : (!(Json.field m "id").isKey) = true
  · rw [if_pos hkey, if_pos hkey]
    exact { h with deaf := fun _ => rfl }
  rw [if_neg hkey, if_neg hkey]
  cases hfound : l'.pending? ((Json.field m "id").lower past.shift) with
  | none => exact h
  | some p =>
    obtain ⟨hpos, hlt⟩ := h.counted p (List.mem_of_find?_eq_some hfound)
    have hraised : Raised past.shift (p.id + past.shift) p.id := ⟨rfl, hpos⟩
    show ((l.dropPending (p.id + past.shift)).complete (p.id + past.shift)
        (Link.replyOutcome p.method m)).Mirrors past
      ((l'.dropPending p.id).complete p.id
        (Link.replyOutcome p.method (Fields.lowerId past.shift m)))
    rw [houtcome]
    exact (h.dropPending hraised).complete hraised hlt _

end Link.Mirrors

/-! ## §2. Wires. -/

/-- The links are in step, the hosts are related, and what the older link has put on the wire
since is what the newer one has, with higher numbers. -/
structure Wire.Mirrors {ε ε' : Type} (past : Past) (H : ε → ε' → Prop) (w : Wire ε)
    (w' : Wire ε') : Prop where
  link : w.link.Mirrors past w'.link
  host : H w.network.endpoint w'.network.endpoint
  log : w.network.log = past.log ++ w'.network.log.map (Traffic.raise past.shift)

namespace Wire

open Act

variable {ε ε' : Type} {past : Past} {H : ε → ε' → Prop} {w : Wire ε} {w' : Wire ε'}

theorem Mirrors.forgetting {n : Nat} (h : w.Mirrors (past.counting n) H w')
    (hn : past.given ≤ n) : w.Mirrors past H w' := ⟨h.link.forgetting hn, h.host, h.log⟩

/-- The operations keep the wires in step, and answer in the same way. -/
abbrev InStep {α α' : Type} (past : Past) (H : ε → ε' → Prop) (V : α → α' → Prop)
    (a : Act (Wire ε) α) (a' : Act (Wire ε') α') : Prop :=
  Simulates (Wire.Mirrors past H) V a a'

theorem inStep_look : InStep past H (Link.Mirrors past) look look :=
  fun _ _ h => ⟨.ok h.link, h⟩

theorem inStep_update {f f' : Link → Link}
    (hf : ∀ l l', l.Mirrors past l' → (f l).Mirrors past (f' l')) :
    InStep past H Eq (update f) (update f') :=
  fun _ _ h => ⟨.ok rfl, hf _ _ h.link, h.host, h.log⟩

section Endpoint

variable [Endpoint ε] [Endpoint ε']

theorem inStep_dial (hrelays : Relays past.shift H) (url : Json) :
    InStep past H Eq (onNetwork (·.dial url)) (onNetwork (·.dial url)) := by
  intro w w' h
  obtain ⟨hsame, hhost⟩ := hrelays.connect url h.host
  refine ⟨.ok hsame, h.link, hhost, ?_⟩
  show w.network.log ++ [.dialled url] = _ ++ (w'.network.log ++ [Traffic.dialled url]).map _
  rw [h.log, List.map_append, List.append_assoc]
  rfl

theorem inStep_send (hrelays : Relays past.shift H) (k : Nat) (e : Envelope) :
    InStep past H Eq (onNetwork (·.send k (e.raise past.shift))) (onNetwork (·.send k e)) := by
  intro w w' h
  obtain ⟨hsame, hhost⟩ := hrelays.send k e h.host
  refine ⟨.ok hsame, h.link, hhost, ?_⟩
  show w.network.log ++ [.sent (e.raise past.shift)]
    = _ ++ (w'.network.log ++ [Traffic.sent e]).map _
  rw [h.log, List.map_append, List.append_assoc]
  rfl

theorem inStep_receive (hrelays : Relays past.shift H) (k : Nat) :
    InStep past H (fun r r' => r' = r.map (Frame.lower past.shift)) (onNetwork (·.receive k))
      (onNetwork (·.receive k)) := by
  intro w w' h
  obtain ⟨hsame, hhost⟩ := hrelays.receive k h.host
  exact ⟨.ok hsame, h.link, hhost, h.log⟩

theorem inStep_closeSocket (hrelays : Relays past.shift H) (k : Nat) :
    InStep past H Eq (closeSocket k) (closeSocket k) := by
  have hclose : InStep past H Eq (onNetwork (·.close k)) (onNetwork (·.close k)) := by
    intro w w' h
    obtain ⟨hsame, hhost⟩ := hrelays.close k h.host
    exact ⟨.ok hsame, h.link, hhost, h.log⟩
  refine .bind_eq hclose fun r => ?_
  rcases r with b | _
  · cases b with
    | error text => exact .pure rfl
    | interrupted => exact .throw _
  · exact .pure rfl

/-! Connecting. -/

theorem inStep_connect (hrelays : Relays past.shift H) :
    InStep past H Eq connect connect := by
  refine .bind inStep_look fun l l' hl => ?_
  rw [hl.socket, hl.shutdown, hl.url]
  refine .ite (fun _ => .pure rfl) fun hplugged => .ite (fun _ => .throw _) fun _ => ?_
  refine .bind_eq (inStep_update fun l l' h => { h with status := by simp }) fun _ => ?_
  refine .bind_eq (inStep_dial hrelays _) fun r => ?_
  rcases r with b | k
  · cases b with
    | error text =>
      exact .bind_eq (inStep_update fun l l' h => { h with status := by simp }) fun _ => .throw _
    | interrupted => exact .throw _
  · refine inStep_update fun l l' h => ?_
    have hopened : ({ l with socket := some k, deaf := false, status := .connected } : Link).Mirrors
        past { l' with socket := some k, deaf := false, status := .connected } :=
      { h with status := by simp, socket := rfl, deaf := fun _ => rfl }
    exact hopened.signal (s := .up) nofun

/-! Tearing down. -/

theorem inStep_failAll (hrelays : Relays past.shift H) (ps : List Pending)
    (hcounted : ∀ p ∈ ps, 0 < p.id ∧ p.id < past.given) :
    InStep past H Eq (failAll (ps.map (Pending.raise past.shift))) (failAll ps) := by
  induction ps with
  | nil => exact .pure rfl
  | cons p rest ih =>
    obtain ⟨hpos, hlt⟩ := hcounted p (List.mem_cons_self ..)
    refine .bind_eq (inStep_update fun l l' h =>
      h.complete ⟨rfl, hpos⟩ (Nat.lt_of_lt_of_le hlt h.given) _) fun _ => ?_
    have hrest := ih fun q hq => hcounted q (List.mem_cons_of_mem p hq)
    exact .ite (fun _ => .bind_eq (.contained (inStep_connect hrelays)) fun _ => hrest)
      fun _ => hrest

omit [Endpoint ε] [Endpoint ε'] in
theorem inStep_becomeDisconnected :
    InStep past H Eq (becomeDisconnected fun _ => return) (becomeDisconnected fun _ => return) := by
  intro w w' h
  rw [exec_becomeDisconnected rfl, exec_becomeDisconnected rfl]
  exact ⟨.ok rfl, h.link.disconnected, h.host, h.log⟩

theorem inStep_failPending (hrelays : Relays past.shift H) :
    InStep past H Eq (failPending fun _ => return) (failPending fun _ => return) := by
  intro w w' h
  -- the commands that fail have numbers below the next one, and so they stay
  have hswept : Wire.Mirrors (past.counting w'.link.nextId) H
      { w with link := { w.link with pending := [] } }
      { w' with link := { w'.link with pending := [] } } :=
    ⟨{ h.link with pending := rfl, counted := nofun, given := Nat.le_refl _ }, h.host, h.log⟩
  have hfail := Simulates.bind_eq
    (inStep_failAll (hrelays.counting w'.link.nextId) w'.link.pending h.link.counted)
    (fun _ => inStep_becomeDisconnected)
  unfold failPending
  rw [exec_bind_ok (exec_look w), exec_bind_ok (exec_look w'), exec_bind_ok (exec_update _ w),
    exec_bind_ok (exec_update _ w'), h.link.pending]
  obtain ⟨hagree, hend⟩ := hfail _ _ hswept
  exact ⟨hagree, hend.forgetting h.link.given⟩

/-- Nothing is planned for the loss, so nothing is done at it. -/
theorem inStep_teardown (hrelays : Relays past.shift H) (owner : Option Nat) :
    InStep past H Eq (teardown owner) (teardown owner) := by
  refine .bind inStep_look fun l l' hl => ?_
  rw [hl.plans.1, hl.plans.2]
  refine .bind inStep_look fun l l' hl => ?_
  rw [hl.socket]
  refine .ite (fun _ => .pure rfl) fun _ => ?_
  refine .bind_eq (inStep_update fun l l' h => { h with socket := rfl, deaf := nofun }) fun _ => ?_
  cases l'.socket with
  | none => exact inStep_failPending hrelays
  | some k =>
    exact .bind_eq (inStep_closeSocket hrelays k) fun _ => inStep_failPending hrelays

/-! Sending. -/

theorem inStep_sendWith (hrelays : Relays past.shift H) (e : Envelope) :
    InStep past H Eq (sendWith teardown (e.raise past.shift)) (sendWith teardown e) := by
  refine .bind inStep_look fun l l' hl => ?_
  rw [hl.shutdown, hl.socket]
  refine .ite (fun _ => .throw _) fun _ => ?_
  cases l'.socket with
  | none => exact .throw _
  | some k =>
    refine .bind_eq (inStep_send hrelays k e) fun r => ?_
    rcases r with b | _
    · cases b with
      | error text => exact .bind_eq (inStep_teardown hrelays _) fun _ => .throw _
      | interrupted => exact .throw _
    · exact .pure rfl

/-- A command gets numbers in step, and the newer link has counted it. -/
theorem submit_mirrors (hrelays : Relays past.shift H) (h : w.Mirrors past H w')
    (method params : Json) :
    Agree (fun id id' => Raised past.shift id id' ∧ id' = w'.link.nextId)
        ((submit method params).exec w).1 ((submit method params).exec w').1 ∧
      Wire.Mirrors (past.counting (w'.link.nextId + 1)) H ((submit method params).exec w).2
        ((submit method params).exec w').2 := by
  -- The command is pending under a number below the next one, so from here on the newer link is
  -- known to have counted it.
  let known : Past := past.counting (w'.link.nextId + 1)
  let p : Pending := { id := w'.link.nextId, method := method }
  let e : Envelope := { id := w'.link.nextId, method := method, params := params.orObject }
  have hid : Raised past.shift w.link.nextId w'.link.nextId := ⟨h.link.nextId, h.link.first⟩
  have hposted : Wire.Mirrors known H
      { w with link := w.link.allocate.2.addPending (p.raise past.shift) }
      { w' with link := w'.link.allocate.2.addPending p } :=
    ⟨h.link.allocate.addPending h.link.first (Nat.lt_succ_self _), h.host, h.log⟩
  have hsent : InStep known H (Agree Eq) (Act.attempt (sendWith teardown (e.raise past.shift)))
      (Act.attempt (sendWith teardown e)) := .attempt (inStep_sendWith (hrelays.counting _) e)
  unfold submit submitWith
  rw [exec_bind_ok (exec_allocate w), exec_bind_ok (exec_allocate w'), hid.1,
    exec_bind_ok (exec_update _ _), exec_bind_ok (exec_update _ _)]
  refine Act.Simulates.bind hsent (fun r r' hr => ?_) _ _ hposted
  cases hr with
  | ok _ => exact .pure ⟨⟨rfl, h.link.first⟩, rfl⟩
  | error f =>
    exact .ite (fun _ => .bind_eq (inStep_update fun l l' hl => hl.dropPending ⟨rfl, h.link.first⟩)
      fun _ => .throw f) fun _ => .throw f

theorem inStep_submit (hrelays : Relays past.shift H) (method params : Json) :
    InStep past H (Raised past.shift) (submit method params) (submit method params) := by
  intro w w' h
  obtain ⟨hagree, hend⟩ := submit_mirrors hrelays h method params
  exact ⟨hagree.imp fun _ _ hid => hid.1, hend.forgetting (Nat.le_succ_of_le h.link.given)⟩

omit [Endpoint ε] [Endpoint ε'] in
theorem inStep_allocate : InStep past H (Raised past.shift) allocate allocate := by
  refine .bind inStep_look fun l l' hl => ?_
  refine .bind_eq (inStep_update fun _ _ h => ?_) fun _ => .pure ⟨hl.nextId, hl.first⟩
  exact h.allocate.forgetting (Nat.le_succ_of_le h.given)

theorem inStep_notify (hrelays : Relays past.shift H) (method params : Json) :
    InStep past H (Raised past.shift) (notify method params) (notify method params) := by
  refine .bind inStep_allocate fun id id' hid => ?_
  obtain ⟨rfl, hpos⟩ := hid
  exact .bind_eq (inStep_sendWith hrelays
    { id := id', method := method, params := params.orObject }) fun _ => .pure ⟨rfl, hpos⟩

omit [Endpoint ε] [Endpoint ε'] in
theorem inStep_conclude {id id' : Nat} (hid : Raised past.shift id id') (method : Json) :
    InStep past H Eq (conclude id method) (conclude id' method) := by
  refine .bind inStep_look fun l l' hl => ?_
  rw [hl.outcome? hid]
  cases l'.outcome? id' with
  | some outcome =>
    cases outcome with
    | ok v => exact .pure rfl
    | error f => exact .throw f
  | none => exact .bind_eq (inStep_update fun _ _ h => h.dropPending hid) fun _ => .throw _

/-- A link may be closed if that is no surprise. -/
theorem inStep_close (hrelays : Relays past.shift H) (hclosed : past.closed) :
    InStep past H Eq close close :=
  .bind_eq (inStep_update fun _ _ h => { h with shutdown := rfl, closed := fun _ => hclosed })
    fun _ => inStep_teardown hrelays none

/-! Reading. -/

omit [Endpoint ε] [Endpoint ε'] in
/-- A notification is handed on. -/
theorem inStep_accept_notification {m : List (String × Json)}
    (hmethod : Fields.contains m "method" = true) : InStep past H Eq (accept m) (accept m) := by
  unfold accept
  rw [if_pos hmethod, if_pos hmethod]
  exact .pure rfl

omit [Endpoint ε] [Endpoint ε'] in
/-- A reply is taken in with the number of its command. -/
theorem inStep_accept_reply {m : List (String × Json)}
    (hmethod : Fields.contains m "method" = false) :
    InStep past H Eq (accept m) (accept (Fields.lowerId past.shift m)) := by
  unfold accept
  rw [Fields.contains_lowerId, Fields.contains_lowerId, hmethod]
  refine .ite nofun fun _ => .ite (fun _ => ?_) fun _ => .pure rfl
  exact .bind_eq (inStep_update fun _ _ h => h.answer m) fun _ => .pure rfl

theorem inStep_finish (hrelays : Relays past.shift H) (k : Nat) :
    InStep past H Eq (finish k) (finish k) :=
  .bind_eq (inStep_teardown hrelays _) fun _ => .pure rfl

/-- A frame that spells no object is the same for both. -/
theorem inStep_takeIn_other (hrelays : Relays past.shift H) (k : Nat) {frame : Frame}
    (hno : frame.fields? = none) : InStep past H Eq (takeIn k frame) (takeIn k frame) := by
  rw [frame.fields?_intake] at hno
  rw [takeIn_eq, takeIn_eq]
  cases hintake : frame.intake with
  | object m =>
    rw [hintake] at hno
    cases hno
  | stop => exact inStep_finish hrelays k
  | deafen =>
    exact .bind_eq (inStep_update fun _ _ h => { h with deaf := fun _ => rfl }) fun _ => .pure rfl
  | nothing => exact .pure rfl

theorem inStep_takeIn (hrelays : Relays past.shift H) (k : Nat) (frame : Frame) :
    InStep past H Eq (takeIn k frame) (takeIn k (frame.lower past.shift)) := by
  unfold Frame.lower
  cases hfields : frame.fields? with
  | none => exact inStep_takeIn_other hrelays k hfields
  | some m =>
    dsimp only
    have htaken : (takeIn k frame : Act (Wire ε) Poll) = accept m :=
      takeIn_value (Frame.value?_of_fields? hfields) k
    rw [htaken]
    cases hmethod : Fields.contains m "method" with
    | true =>
      rw [if_pos rfl, takeIn_value (Frame.value?_of_fields? hfields) k]
      exact inStep_accept_notification hmethod
    | false =>
      rw [if_neg Bool.false_ne_true]
      exact inStep_accept_reply hmethod

theorem inStep_poll (hrelays : Relays past.shift H) : InStep past H Eq poll poll := by
  refine .bind inStep_look fun l l' hl => ?_
  rw [hl.socket]
  cases hsocket : l'.socket with
  | none => exact .pure rfl
  | some k =>
    rw [hl.deaf (by rw [hsocket]; rfl)]
    refine .ite (fun _ => .pure rfl) fun _ => ?_
    refine .bind (inStep_receive hrelays k) fun r r' hr => ?_
    subst hr
    cases r with
    | none => exact .pure rfl
    | some frame => exact inStep_takeIn hrelays k frame

end Endpoint
end Wire
end FlowTrace
