/-
  FlowTrace.Proofs.Link.Bare
  ────────────────────────────────
  **A LINK WITHOUT PLANS.**

  The link of a debugger has one owner, who is told what happens by signals and
  does nothing to the link while it is torn down.  Every operation of such a link
  has few outcomes, and a loss leaves no more than a disconnected link whose
  pending commands have failed.

      Sent     — an envelope was refused, put on the wire, or lost the connection
      Posted   — the same for a command with a number of its own
      Polled   — a frame was taken in as a reply, a notification, or the end
      Dialled  — the connection was there, opened, or refused
-/
import FlowTrace.Proofs.Link.Lifetime
import Mathlib.Data.List.Nodup

namespace FlowTrace

/-! ## §1. Bare links. -/

namespace Link

/-- Numbers tell commands apart: those that are pending, and those that have ended. -/
structure Numbered (l : Link) : Prop where
  fresh : ∀ p ∈ l.pending, p.id < l.nextId
  distinct : (l.pending.map (·.id)).Nodup
  ended : ∀ o ∈ l.outcomes, o.1 < l.nextId ∧ ∀ p ∈ l.pending, p.id ≠ o.1

/-- A link between two operations, without callbacks of its own. -/
structure Bare (l : Link) : Prop where
  plain : l.Plain
  plans : l.downPlans = []
  /-- Every signal was heeded. -/
  silent : l.signals = []
  connected_iff : l.status = .connected ↔ l.socket.isSome = true
  idle : l.socket = none → l.pending = []
  numbered : l.Numbered

/-- The owner has heeded every signal. -/
def silenced (l : Link) : Link := { l with signals := [] }

@[simp] theorem silenced_socket (l : Link) : l.silenced.socket = l.socket := rfl
@[simp] theorem silenced_status (l : Link) : l.silenced.status = l.status := rfl
@[simp] theorem silenced_shutdown (l : Link) : l.silenced.shutdown = l.shutdown := rfl
@[simp] theorem silenced_pending (l : Link) : l.silenced.pending = l.pending := rfl
@[simp] theorem silenced_outcomes (l : Link) : l.silenced.outcomes = l.outcomes := rfl
@[simp] theorem silenced_nextId (l : Link) : l.silenced.nextId = l.nextId := rfl

theorem Bare.silenced {l : Link} (h : l.Bare) : l.silenced = l := by
  unfold Link.silenced
  rw [← h.silent]

/-- A link after the loss of its connection, with the signals heeded. -/
def gone (l : Link) : Link := ({ l with socket := none } : Link).fallen.silenced

@[simp] theorem gone_socket (l : Link) : l.gone.socket = none := by simp [gone]
@[simp] theorem gone_status (l : Link) : l.gone.status = .disconnected := by simp [gone]
@[simp] theorem gone_pending (l : Link) : l.gone.pending = [] := by simp [gone]
@[simp] theorem gone_nextId (l : Link) : l.gone.nextId = l.nextId := by simp [gone]
@[simp] theorem gone_shutdown (l : Link) : l.gone.shutdown = l.shutdown := by simp [gone]

@[simp] theorem gone_outcomes (l : Link) :
    l.gone.outcomes = l.outcomes ++ l.pending.map (fun p => (p.id, lostOutcome)) := by
  simp [gone]

/-! Numbers stay apart. -/

namespace Numbered

variable {l : Link}

theorem allocate (h : l.Numbered) : l.allocate.2.Numbered where
  fresh p hp := Nat.lt_succ_of_lt (h.fresh p hp)
  distinct := h.distinct
  ended o ho := ⟨Nat.lt_succ_of_lt (h.ended o ho).1, (h.ended o ho).2⟩

theorem submitted (h : l.Numbered) {p : Pending} (hp : p.id = l.nextId) :
    (l.allocate.2.addPending p).Numbered where
  fresh q hq := by
    rcases List.mem_append.mp hq with hq | hq
    · exact Nat.lt_succ_of_lt (h.fresh q hq)
    · obtain rfl := List.mem_singleton.mp hq
      rw [hp]
      exact Nat.lt_succ_self _
  distinct := by
    show ((l.pending ++ [p]).map (·.id)).Nodup
    rw [List.map_append, List.nodup_append]
    refine ⟨h.distinct, by simp, ?_⟩
    intro a ha b hb
    obtain ⟨q, hq, rfl⟩ := List.mem_map.mp ha
    obtain rfl := List.mem_singleton.mp hb
    show q.id ≠ p.id
    rw [hp]
    exact Nat.ne_of_lt (h.fresh q hq)
  ended o ho := by
    refine ⟨Nat.lt_succ_of_lt (h.ended o ho).1, fun q hq => ?_⟩
    rcases List.mem_append.mp hq with hq | hq
    · exact (h.ended o ho).2 q hq
    · obtain rfl := List.mem_singleton.mp hq
      have := (h.ended o ho).1
      omega

theorem dropPending (h : l.Numbered) (id : Nat) : (l.dropPending id).Numbered where
  fresh p hp := h.fresh p (List.mem_filter.mp hp).1
  distinct := h.distinct.sublist (List.filter_sublist.map _)
  ended o ho := ⟨(h.ended o ho).1, fun p hp => (h.ended o ho).2 p (List.mem_filter.mp hp).1⟩

/-- A pending command that ends is pending no longer. -/
theorem completed (h : l.Numbered) {p : Pending} (hp : p ∈ l.pending) (outcome : Outcome) :
    ((l.dropPending p.id).complete p.id outcome).Numbered where
  fresh q hq := (h.dropPending p.id).fresh q hq
  distinct := (h.dropPending p.id).distinct
  ended o ho := by
    rcases List.mem_append.mp ho with ho | ho
    · exact (h.dropPending p.id).ended o ho
    · obtain rfl := List.mem_singleton.mp ho
      refine ⟨h.fresh p hp, fun q hq => ?_⟩
      simpa using (List.mem_filter.mp hq).2

/-- A number belongs to one pending command. -/
theorem unique (h : l.Numbered) {p q : Pending} (hp : p ∈ l.pending) (hq : q ∈ l.pending)
    (hid : p.id = q.id) : p = q :=
  List.inj_on_of_nodup_map h.distinct hp hq hid

/-- **A response finishes the pending command that it answers**: no other has its number. -/
theorem answer_pending (h : l.Numbered) {p : Pending} (hp : p ∈ l.pending)
    {reply : List (String × Json)} (hanswers : Answers reply p.id) :
    l.answer reply = (l.dropPending p.id).complete p.id (replyOutcome p.method reply) := by
  rcases l.answer_cases reply with ⟨_, _, hno⟩ | ⟨q, hq, hother, heq⟩
  · exact absurd hanswers (hno p hp)
  · rw [heq, h.unique hq hp (hother.unique hanswers)]

theorem answer (h : l.Numbered) (reply : List (String × Json)) : (l.answer reply).Numbered := by
  rcases l.answer_eq reply with heq | heq | ⟨p, hp, heq⟩ <;> rw [heq]
  · exact h
  · exact ⟨h.fresh, h.distinct, h.ended⟩
  · exact h.completed hp _

theorem gone (h : l.Numbered) : l.gone.Numbered where
  fresh p hp := by simp at hp
  distinct := by simp
  ended o ho := by
    rw [gone_outcomes] at ho
    rw [gone_nextId]
    refine ⟨?_, fun p hp => by simp at hp⟩
    rcases List.mem_append.mp ho with ho | ho
    · exact (h.ended o ho).1
    · obtain ⟨p, hp, rfl⟩ := List.mem_map.mp ho
      exact h.fresh p hp

end Numbered

/-! A link stays bare. -/

namespace Bare

variable {l : Link}

theorem connected (h : l.Bare) {s : Nat} (hsocket : l.socket = some s) : l.status = .connected :=
  h.connected_iff.mpr (by rw [hsocket]; rfl)

theorem allocate (h : l.Bare) : l.allocate.2.Bare :=
  ⟨h.plain, h.plans, h.silent, h.connected_iff, h.idle, h.numbered.allocate⟩

theorem submitted (h : l.Bare) {s : Nat} (hsocket : l.socket = some s) {p : Pending}
    (hp : p.id = l.nextId) (hplain : p.reconnects = false) : (l.allocate.2.addPending p).Bare where
  plain := Link.Plain.addPending (l := l.allocate.2) h.plain hplain
  plans := h.plans
  silent := h.silent
  connected_iff := h.connected_iff
  idle hnone := by cases hsocket.symm.trans hnone
  numbered := h.numbered.submitted hp

theorem dropPending (h : l.Bare) (id : Nat) : (l.dropPending id).Bare where
  plain := h.plain.dropPending id
  plans := h.plans
  silent := h.silent
  connected_iff := h.connected_iff
  idle hnone := by
    show l.pending.filter _ = []
    rw [h.idle hnone]
    rfl
  numbered := h.numbered.dropPending id

theorem deaf (h : l.Bare) (d : Bool) : ({ l with deaf := d } : Link).Bare :=
  ⟨h.plain, h.plans, h.silent, h.connected_iff, h.idle,
    ⟨h.numbered.fresh, h.numbered.distinct, h.numbered.ended⟩⟩

theorem shut (h : l.Bare) : ({ l with shutdown := true } : Link).Bare :=
  ⟨h.plain, h.plans, h.silent, h.connected_iff, h.idle,
    ⟨h.numbered.fresh, h.numbered.distinct, h.numbered.ended⟩⟩

theorem answer (h : l.Bare) (reply : List (String × Json)) : (l.answer reply).silenced.Bare where
  plain := h.plain.answer reply
  plans := (answer_downPlans l reply).trans h.plans
  silent := rfl
  connected_iff := by simp [h.connected_iff]
  idle hnone := by
    have hidle := h.idle (by simpa using hnone)
    show (l.answer reply).pending = []
    rw [answer_of_idle hidle, hidle]
  numbered := ⟨(h.numbered.answer reply).fresh, (h.numbered.answer reply).distinct,
    (h.numbered.answer reply).ended⟩

theorem gone (h : l.Bare) : l.gone.Bare where
  plain := fun p hp => by simp at hp
  plans := by
    have hsuffix := fallen_downPlans_suffix ({ l with socket := none } : Link)
    exact List.suffix_nil.mp (h.plans ▸ hsuffix)
  silent := rfl
  connected_iff := by simp
  idle _ := by simp
  numbered := h.numbered.gone

theorem opened (h : l.Bare) (s : Nat) :
    ({ l with socket := some s, deaf := false, status := .connected } : Link).Bare where
  plain := h.plain
  plans := h.plans
  silent := h.silent
  connected_iff := ⟨fun _ => rfl, fun _ => rfl⟩
  idle hnone := nomatch hnone
  numbered := ⟨h.numbered.fresh, h.numbered.distinct, h.numbered.ended⟩

theorem refused (h : l.Bare) (hsocket : l.socket = none) :
    ({ l with status := .disconnected } : Link).Bare where
  plain := h.plain
  plans := h.plans
  silent := h.silent
  connected_iff := by simp [hsocket]
  idle := h.idle
  numbered := ⟨h.numbered.fresh, h.numbered.distinct, h.numbered.ended⟩

end Bare
end Link

/-! ## §2. Operations. -/

namespace Wire

variable {ε : Type} [Endpoint ε] {w : Wire (Recorded ε)}

/-- A command is numbered, made pending if its reply is awaited, and put on the wire. -/
def putting (w : Wire (Recorded ε)) (s : Nat) (awaited : Option Pending) (e : Envelope) :
    Wire (Recorded ε) where
  link := match awaited with
    | none => w.link.allocate.2
    | some p => w.link.allocate.2.addPending p
  network := (w.network.send s e).2

/-- A frame is taken from the socket. -/
def reading (w : Wire (Recorded ε)) (s : Nat) : Wire (Recorded ε) :=
  { w with network := (w.network.receive s).2 }

/-- Tearing the connection down leaves the link fallen, and that is all. -/
theorem exec_teardown_bare {owner : Option Nat} {s : Nat} (hplain : w.link.Plain)
    (hplans : w.link.downPlans = []) (hsocket : w.link.socket = some s) (howner : w.OwnedBy owner)
    (hclean : Uninterrupted ((teardown owner).exec w).2.conversation) :
    (teardown owner).exec w = (.ok (), (w.hangUp s).fallen) := by
  rw [exec_teardown_loss hplain hsocket howner hclean]
  have hnone : w.link.callbacks = [] := by
    unfold Link.callbacks
    rw [hplans]
    split <;> rfl
  rw [hnone]
  rfl

/-- What comes of sending an envelope. -/
inductive Sent (e : Envelope) (w : Wire (Recorded ε)) : Except Fault Unit × Wire (Recorded ε) → Prop
  | refused (m : String) (hno : w.link.socket = none ∨ w.link.shutdown = true) :
      Sent e w (.error (.link m), w)
  | put {s : Nat} (hsocket : w.link.socket = some s) (hopen : w.link.shutdown = false) :
      Sent e w (.ok (), { w with network := (w.network.send s e).2 })
  | lost {s : Nat} (m : String) (hsocket : w.link.socket = some s)
      (hopen : w.link.shutdown = false) :
      Sent e w (.error (.link m), (({ w with network := (w.network.send s e).2 } : Wire _).hangUp s).fallen)

theorem sent_sendWith (e : Envelope) (hplain : w.link.Plain) (hplans : w.link.downPlans = [])
    (hclean : Uninterrupted ((sendWith teardown e).exec w).2.conversation) :
    Sent e w ((sendWith teardown e).exec w) := by
  have hsends := sendsWith_sendWith teardown e w
  generalize (sendWith teardown e).exec w = r at hclean hsends
  cases hsends with
  | refused m hno => exact .refused m hno
  | sent hsocket hopen => exact .put hsocket hopen
  | failed hsocket hopen =>
    rw [Act.exec_bind_snd (fun _ _ => rfl)] at hclean
    have hdown := exec_teardown_bare (w := { w with network := (w.network.send _ e).2 })
      hplain hplans hsocket (.inr hsocket.symm) hclean
    rw [Act.exec_bind_ok hdown]
    exact .lost _ hsocket hopen
  | @interrupted s hsocket hopen hsend =>
    change Uninterrupted (w.network.send s e).2.conversation at hclean
    rw [Network.conversation_send, hsend] at hclean
    exact absurd hclean (not_uninterrupted_append rfl)

/-- What comes of a command with a number of its own. -/
inductive Posted (awaited : Option Pending) (e : Envelope) (w : Wire (Recorded ε)) :
    Except Fault Nat × Wire (Recorded ε) → Prop
  | refused (m : String) (hno : w.link.socket = none ∨ w.link.shutdown = true) :
      Posted awaited e w (.error (.link m), { w with link := w.link.allocate.2 })
  | put {s : Nat} (hsocket : w.link.socket = some s) (hopen : w.link.shutdown = false) :
      Posted awaited e w (.ok w.link.nextId, w.putting s awaited e)
  | lost {s : Nat} (m : String) (hsocket : w.link.socket = some s)
      (hopen : w.link.shutdown = false) :
      Posted awaited e w (.error (.link m), ((w.putting s awaited e).hangUp s).fallen)

theorem posted_notify (method params : Json) (hbare : w.link.Bare)
    (hclean : Uninterrupted ((notify method params).exec w).2.conversation) :
    Posted none { id := w.link.nextId, method := method, params := params.orObject } w
      ((notify method params).exec w) := by
  unfold notify at hclean ⊢
  rw [Act.exec_bind_ok (exec_allocate w)] at hclean ⊢
  rw [Act.exec_bind_snd (fun _ _ => rfl)] at hclean
  have hsent := sent_sendWith { id := w.link.nextId, method := method, params := params.orObject }
    (w := { w with link := w.link.allocate.2 }) hbare.plain hbare.plans hclean
  rw [Act.exec_bind]
  generalize (sendWith teardown { id := w.link.nextId, method := method, params := params.orObject }
    : Act (Wire (Recorded ε)) Unit).exec { w with link := w.link.allocate.2 } = r at hsent
  cases hsent with
  | refused m hno => exact .refused m hno
  | put hsocket hopen => exact .put hsocket hopen
  | lost m hsocket hopen => exact .lost m hsocket hopen

theorem posted_submit (method params : Json) (hbare : w.link.Bare)
    (hclean : Uninterrupted ((submit method params).exec w).2.conversation) :
    Posted (some { id := w.link.nextId, method := method })
      { id := w.link.nextId, method := method, params := params.orObject } w
      ((submit method params).exec w) := by
  unfold submit at hclean ⊢
  rw [exec_submitWith] at hclean ⊢
  unfold conversation at hclean
  rw [submission_network] at hclean
  have hsent := sent_sendWith _ (w := w.awaiting { id := w.link.nextId, method := method })
    (Link.Plain.addPending (l := w.link.allocate.2) hbare.plain rfl) hbare.plans hclean
  generalize (sendWith teardown { id := w.link.nextId, method := method, params := params.orObject }
    : Act (Wire (Recorded ε)) Unit).exec
      (w.awaiting { id := w.link.nextId, method := method }) = r at hsent
  cases hsent with
  | refused m hno =>
    -- the command is taken back, and no other has its number
    have hback : (w.awaiting { id := w.link.nextId, method := method }).link.dropPending
        w.link.nextId = w.link.allocate.2 := by
      have hkept : w.link.pending.filter (fun p => p.id != w.link.nextId) = w.link.pending := by
        rw [List.filter_eq_self]
        intro p hp
        have := hbare.numbered.fresh p hp
        simp
        omega
      simp [awaiting, Link.dropPending, Link.addPending, Link.allocate, hkept]
    have hend : submission w.link.nextId
        (.error (.link m), w.awaiting { id := w.link.nextId, method := method })
        = (.error (.link m), { w with link := w.link.allocate.2 }) := by
      rw [← hback]
      rfl
    rw [hend]
    exact .refused m hno
  | put hsocket hopen => exact .put hsocket hopen
  | @lost s m hsocket hopen =>
    -- nothing is left pending that could be taken back
    have hend (v : Wire (Recorded ε)) :
        submission w.link.nextId ((.error (.link m) : Except Fault Unit), v.fallen)
          = (.error (.link m), v.fallen) := by
      have hnothing : v.fallen.link.dropPending w.link.nextId = v.fallen.link :=
        dropPending_eq_self (by simp)
      show (Except.error (Fault.link m), ({ v.fallen with link := _ } : Wire _)) = _
      rw [hnothing]
    rw [hend]
    exact .lost m hsocket hopen

/-- What comes of reading one frame. -/
inductive Polled (w : Wire (Recorded ε)) : Poll → Wire (Recorded ε) → Prop
  | idle : Polled w .idle w
  | nothing {s : Nat} (hsocket : w.link.socket = some s) (hnone : (w.network.receive s).1 = none) :
      Polled w .idle (w.reading s)
  /-- The frame is of no interest, or ends the reading. -/
  | ignored {s : Nat} {frame : Frame} (d : Bool) (hsocket : w.link.socket = some s)
      (hframe : (w.network.receive s).1 = some frame)
      (hno : ∀ m, frame.fields? = some m →
        Fields.contains m "method" = false ∧ Fields.contains m "id" = false) :
      Polled w .handled { w.reading s with link := { w.link with deaf := d } }
  | answered {s : Nat} {frame : Frame} {m : List (String × Json)} (hsocket : w.link.socket = some s)
      (hframe : (w.network.receive s).1 = some frame) (hfields : frame.fields? = some m)
      (hresponse : IsResponse m) :
      Polled w .handled { w.reading s with link := w.link.answer m }
  | notified {s : Nat} {frame : Frame} {m : List (String × Json)} (hsocket : w.link.socket = some s)
      (hframe : (w.network.receive s).1 = some frame) (hfields : frame.fields? = some m)
      (hmethod : Fields.contains m "method" = true) : Polled w (.notification m) (w.reading s)
  /-- The connection is at its end. -/
  | ended {s : Nat} {frame : Frame} (hsocket : w.link.socket = some s)
      (hframe : (w.network.receive s).1 = some frame) (hno : frame.fields? = none) :
      Polled w .handled ((w.reading s).hangUp s).fallen

/-- An object is a notification, a reply, or of no interest. -/
theorem polled_accept {s : Nat} {frame : Frame} {m : List (String × Json)}
    (hsocket : w.link.socket = some s) (hframe : (w.network.receive s).1 = some frame)
    (hfields : frame.fields? = some m) :
    ∃ p, ((accept m).exec (w.reading s)).1 = .ok p ∧
      Polled w p ((accept m).exec (w.reading s)).2 := by
  have haccepts := accepts_accept m (w.reading s)
  generalize (accept m).exec (w.reading s) = r at haccepts
  cases haccepts with
  | notification hmethod => exact ⟨_, rfl, .notified hsocket hframe hfields hmethod⟩
  | response hresponse => exact ⟨_, rfl, .answered hsocket hframe hfields hresponse⟩
  | neither hmethod hid =>
    refine ⟨_, rfl, .ignored w.link.deaf hsocket hframe fun m' hm' => ?_⟩
    obtain rfl : m = m' := Option.some.inj (hfields.symm.trans hm')
    exact ⟨hmethod, hid⟩

theorem polled_finish {s : Nat} {frame : Frame} (hbare : w.link.Bare)
    (hsocket : w.link.socket = some s) (hframe : (w.network.receive s).1 = some frame)
    (hno : frame.fields? = none)
    (hclean : Uninterrupted ((finish s).exec (w.reading s)).2.conversation) :
    ∃ p, ((finish s).exec (w.reading s)).1 = .ok p ∧
      Polled w p ((finish s).exec (w.reading s)).2 := by
  rw [exec_finish] at hclean
  have hdown := exec_teardown_bare (w := w.reading s) hbare.plain hbare.plans hsocket
    (.inr hsocket.symm) hclean
  unfold finish
  rw [Act.exec_bind_ok hdown]
  exact ⟨_, rfl, .ended hsocket hframe hno⟩

/-- Whatever frame was taken from the socket has one of these outcomes. -/
theorem polled_takeIn {s : Nat} {frame : Frame} (hbare : w.link.Bare)
    (hsocket : w.link.socket = some s) (hframe : (w.network.receive s).1 = some frame)
    (hclean : Uninterrupted ((takeIn s frame).exec (w.reading s)).2.conversation) :
    ∃ p, ((takeIn s frame).exec (w.reading s)).1 = .ok p ∧
      Polled w p ((takeIn s frame).exec (w.reading s)).2 := by
  have hignored (d : Bool) (hno : frame.fields? = none) :
      Polled w .handled { w.reading s with link := { w.link with deaf := d } } :=
    .ignored d hsocket hframe (by simp [hno])
  have hfields := frame.fields?_intake
  rw [takeIn_eq] at hclean ⊢
  generalize frame.intake = i at hfields hclean
  cases i with
  | object m => exact polled_accept hsocket hframe hfields
  | stop => exact polled_finish hbare hsocket hframe hfields hclean
  | deafen => exact ⟨_, rfl, hignored true hfields⟩
  | nothing => exact ⟨_, rfl, hignored w.link.deaf hfields⟩

theorem polled_poll (hbare : w.link.Bare) (hclean : Uninterrupted (poll.exec w).2.conversation) :
    ∃ p, (poll.exec w).1 = .ok p ∧ Polled w p (poll.exec w).2 := by
  have hpolls := polls_poll w
  generalize poll.exec w = r at hclean hpolls
  cases hpolls with
  | idle hno => exact ⟨_, rfl, .idle⟩
  | nothing hsocket hnone => exact ⟨_, rfl, .nothing hsocket hnone⟩
  | frame hsocket hframe => exact polled_takeIn hbare hsocket hframe hclean

/-- What comes of connecting. -/
inductive Dialled (w : Wire (Recorded ε)) : Except Fault Unit × Wire (Recorded ε) → Prop
  | already (hsocket : w.link.socket.isSome = true) : Dialled w (.ok (), w)
  | shut (m : String) (hsocket : w.link.socket = none) (hshut : w.link.shutdown = true) :
      Dialled w (.error (.link m), w)
  | opened {s : Nat} (hsocket : w.link.socket = none) (hopen : w.link.shutdown = false)
      (hdial : (w.network.dial w.link.url).1 = .ok s) :
      Dialled w (.ok (),
        { link := { w.link with socket := some s, deaf := false, status := .connected }.signal .up
          network := (w.network.dial w.link.url).2 })
  | refused (m : String) {b : Breakdown} (hsocket : w.link.socket = none)
      (hopen : w.link.shutdown = false) (hdial : (w.network.dial w.link.url).1 = .error b) :
      Dialled w (.error (.link m),
        { link := { w.link with status := .disconnected }
          network := (w.network.dial w.link.url).2 })

theorem dialled_connect (hclean : Uninterrupted (connect.exec w).2.conversation) :
    Dialled w (connect.exec w) := by
  have hconnects := connects_connect w
  generalize connect.exec w = r at hclean hconnects
  cases hconnects with
  | already hsocket => exact .already hsocket
  | shut hsocket hshut => exact .shut _ hsocket hshut
  | opened hsocket hopen hdial => exact .opened hsocket hopen hdial
  | refused hsocket hopen hdial => exact .refused _ hsocket hopen hdial
  | interrupted hsocket hopen hdial =>
    change Uninterrupted (w.network.dial w.link.url).2.conversation at hclean
    rw [Network.conversation_dial, hdial] at hclean
    exact absurd hclean (not_uninterrupted_append rfl)

/-- A link that will not connect again. -/
def shutting (w : Wire (Recorded ε)) : Wire (Recorded ε) :=
  { w with link := { w.link with shutdown := true } }

/-- Closing a link tears its connection down. -/
theorem exec_close_some {s : Nat} (hbare : w.link.Bare) (hsocket : w.link.socket = some s)
    (hclean : Uninterrupted (close.exec w).2.conversation) :
    close.exec w = (.ok (), (w.shutting.hangUp s).fallen) := by
  unfold close at hclean ⊢
  rw [Act.exec_bind_ok (exec_update _ w)] at hclean ⊢
  exact exec_teardown_bare (w := w.shutting) hbare.plain hbare.plans hsocket (.inl rfl) hclean

/-- Without a connection there is nothing to tear down. -/
theorem exec_close_none (hbare : w.link.Bare) (hsocket : w.link.socket = none) :
    close.exec w = (.ok (),
      { w.shutting with link := { w.shutting.link with status := .disconnected } }) := by
  have hoff : w.link.status ≠ .connected := by
    rw [ne_eq, hbare.connected_iff, hsocket]
    exact Bool.false_ne_true
  have hcallbacks : w.shutting.link.callbacks = [] := if_neg hoff
  have hfallen : w.shutting.link.fallen = { w.shutting.link with status := .disconnected } := by
    have hidle : w.link.pending = [] := hbare.idle hsocket
    have hstatus : ({ w.shutting.link.failing w.link.pending with pending := [] } : Link).status
        ≠ .connected := hoff
    show Link.disconnected { w.shutting.link.failing w.link.pending with pending := [] } = _
    rw [Link.disconnected_of_ne hstatus, hidle]
    simp [Link.failing, shutting, hidle]
  unfold close
  rw [Act.exec_bind_ok (exec_update _ w)]
  show (teardown none).exec w.shutting = _
  rw [exec_teardown_unbounded none (w := w.shutting) hbare.plain,
    exec_teardownWith_none rfl (w := w.shutting) hbare.plain hsocket, hcallbacks]
  show (Except.ok (), w.shutting.fallen) = _
  rw [fallen, hfallen]

end Wire
end FlowTrace
