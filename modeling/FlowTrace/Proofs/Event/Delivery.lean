/-
  FlowTrace.Proofs.Event.Delivery
  ────────────────────────────────
  **WHAT A SUBSCRIBER RECEIVES.**

  The events that a subscriber may take fall into three parts: those it received, those
  that a full queue lost, and those that are queued, which are the last ones.  The ledger
  of a queue (`QueueLedger`) says so, and that a loss takes as many later events as the
  queue holds, all of them before the next pump that ran to its end.

  The ledger is kept by each step: an event comes in (`QueueLedger.posted`), or the oldest
  ones go out (`QueueLedger.taken`).  What a step does to one subscriber does not depend
  on the others, except for where a failing handler ends a pump.

  Main result: `EventBus.deliveries`.
-/
import Mathlib.Data.List.Find
import FlowTrace.Proofs.Event.Pumping

namespace FlowTrace

variable {α : Type}

/-! ## §1. The ledger of a queue. -/

/-- An event that a subscriber may take, and how many pumps had run to their end when it
was published. -/
structure Posting (α : Type) where
  event : α
  round : Nat

/-- What became of an event that is not queued any more. -/
inductive Fate where
  | received
  | lost
  deriving DecidableEq

/-- The events that a subscriber received, of all that are not queued any more. -/
def receivedOf (past : List (Posting α × Fate)) : List α :=
  (past.filter (fun p => p.2 == .received)).map (fun p => p.1.event)

@[simp] theorem receivedOf_append (xs ys : List (Posting α × Fate)) :
    receivedOf (xs ++ ys) = receivedOf xs ++ receivedOf ys := by
  simp [receivedOf]

theorem receivedOf_received (ps : List (Posting α)) :
    receivedOf (ps.map (fun p => (p, .received))) = ps.map Posting.event := by
  rw [receivedOf, List.filter_eq_self.mpr (by simp), List.map_map]
  rfl

/-- **The ledger of a queue of some size**: the postings are those of the past, each one
received or lost, and then those that are queued, none of which a finished pump has seen.
A posting is lost only to as many later ones as the queue holds, and no pump was finished
in between. -/
structure QueueLedger (size : Int) (round : Nat) (postings : List (Posting α))
    (past : List (Posting α × Fate)) (waiting : List (Posting α)) (received queue : List α) :
    Prop where
  split : postings = past.map Prod.fst ++ waiting
  received_eq : received = receivedOf past
  queue_eq : queue = waiting.map Posting.event
  room : 0 < size → queue.length ≤ size.toNat
  recent : ∀ p ∈ waiting, p.round = round
  lost : ∀ (i : Nat) (p : Posting α), past[i]? = some (p, .lost) →
    0 < size ∧ ∃ q, postings[i + size.toNat]? = some q ∧ q.round = p.round

namespace QueueLedger

variable {size : Int} {round : Nat} {postings waiting : List (Posting α)}
  {past : List (Posting α × Fate)} {received queue : List α}

theorem empty (size : Int) (round : Nat) :
    QueueLedger (α := α) size round [] [] [] [] [] :=
  ⟨rfl, rfl, rfl, fun _ => Nat.zero_le _, nofun, nofun⟩

/-- A queue within its size stays within it. -/
theorem queueing_room (queue : List α) (e : α) (hroom : 0 < size → queue.length ≤ size.toNat) :
    0 < size → (queueing size queue e).length ≤ size.toNat := by
  intro hsize
  have := hroom hsize
  unfold queueing
  split
  · rw [List.length_append, List.length_drop, List.length_singleton]
    omega
  · rename_i hfull
    have : ¬ size.toNat ≤ queue.length := fun h => hfull ⟨hsize, h⟩
    rw [List.length_append, List.length_singleton]
    omega

/-- An event comes in; a full queue loses its oldest one to it. -/
theorem posted (h : QueueLedger size round postings past waiting received queue) (e : α) :
    ∃ past' waiting', QueueLedger size round (postings ++ [⟨e, round⟩]) past' waiting' received
      (queueing size queue e) := by
  -- what was lost before has its successor still in the same place
  have hlost : ∀ (i : Nat) (p : Posting α), past[i]? = some (p, .lost) →
      0 < size ∧ ∃ q, (postings ++ [⟨e, round⟩])[i + size.toNat]? = some q ∧ q.round = p.round := by
    intro i p hp
    obtain ⟨hsize, q, hq, hround⟩ := h.lost i p hp
    exact ⟨hsize, q, List.getElem?_append_left (List.getElem?_eq_some_iff.mp hq).1 ▸ hq, hround⟩
  have hrecent : ∀ l ⊆ waiting, ∀ p ∈ l ++ [⟨e, round⟩], p.round = round := by
    intro l hl p hp
    obtain hold | hnew := List.mem_append.mp hp
    · exact h.recent p (hl hold)
    · rw [List.mem_singleton.mp hnew]
  by_cases hfull : 0 < size ∧ size.toNat ≤ queue.length
  · -- the oldest one is as far before the new one as the queue is long
    cases hwaiting : waiting with
    | nil =>
      have := hfull.2
      simp only [h.queue_eq, hwaiting, List.map_nil, List.length_nil] at this
      omega
    | cons w rest =>
      have hlen : size.toNat = rest.length + 1 := by
        have := Nat.le_antisymm hfull.2 (h.room hfull.1)
        simpa [h.queue_eq, hwaiting] using this
      refine ⟨past ++ [(w, .lost)], rest ++ [⟨e, round⟩], ?_, ?_, ?_,
        queueing_room queue e h.room, ?_, ?_⟩
      · simp [h.split, hwaiting]
      · rw [h.received_eq, receivedOf_append]
        exact (List.append_nil _).symm
      · rw [queueing, if_pos hfull, h.queue_eq, hwaiting]
        simp
      · exact hrecent rest (by simp [hwaiting])
      · intro i p hp
        rcases Nat.lt_or_ge i past.length with hi | hi
        · exact hlost i p (List.getElem?_append_left hi ▸ hp)
        · rw [List.getElem?_append_right hi, List.getElem?_singleton] at hp
          split at hp
          · -- it is the oldest one, which is lost now
            have hp : p = w := by simpa using hp.symm
            have hw : w.round = round := h.recent w (by simp [hwaiting])
            refine ⟨hfull.1, ⟨e, round⟩, ?_, by rw [hp, hw]⟩
            rw [h.split, hwaiting, List.getElem?_append_right, List.getElem?_singleton, if_pos]
            all_goals simp only [List.length_append, List.length_map, List.length_cons]; omega
          · cases hp
  · refine ⟨past, waiting ++ [⟨e, round⟩], ?_, h.received_eq, ?_, queueing_room queue e h.room,
      hrecent waiting (fun _ h => h), hlost⟩
    · rw [h.split, List.append_assoc]
    · rw [queueing, if_neg hfull, h.queue_eq]
      simp

/-- The oldest events go out; a pump that was finished leaves none. -/
theorem taken {taken left : List α} {round' : Nat}
    (h : QueueLedger size round postings past waiting received queue)
    (hqueue : queue = taken ++ left) (hround : left ≠ [] → round' = round) :
    ∃ past' waiting', QueueLedger size round' postings past' waiting' (received ++ taken) left := by
  obtain ⟨gone, stay, rfl, rfl, rfl⟩ := List.map_eq_append_iff.mp (h.queue_eq.symm.trans hqueue)
  refine ⟨past ++ gone.map (fun p => (p, .received)), stay, ?_, ?_, rfl, ?_, ?_, ?_⟩
  · rw [h.split]
    simp [Function.comp_def]
  · rw [h.received_eq, receivedOf_append, receivedOf_received]
  · intro hsize
    have := h.room hsize
    rw [hqueue, List.length_append] at this
    omega
  · intro p hp
    have hsome : stay.map Posting.event ≠ [] := by
      rw [Ne, List.map_eq_nil_iff]
      exact List.ne_nil_of_mem hp
    rw [hround hsome]
    exact h.recent p (List.mem_append_right _ hp)
  · intro i p hp
    rcases Nat.lt_or_ge i past.length with hi | hi
    · exact h.lost i p (List.getElem?_append_left hi ▸ hp)
    · rw [List.getElem?_append_right hi, List.getElem?_map] at hp
      obtain ⟨q, -, hq⟩ := Option.map_eq_some_iff.mp hp
      cases hq

end QueueLedger

/-! ## §2. What a pass means to one subscriber. -/

/-- Of some deliveries, what went to the subscriber with a token. -/
def receivedBy (token : Nat) (sent : List (Nat × α)) : List α :=
  (sent.filter (fun d => d.1 == token)).map Prod.snd

@[simp] theorem receivedBy_append (token : Nat) (xs ys : List (Nat × α)) :
    receivedBy token (xs ++ ys) = receivedBy token xs ++ receivedBy token ys := by
  simp [receivedBy]

/-- What goes to others is not received. -/
theorem receivedBy_eq_nil {token : Nat} {sent : List (Nat × α)} (h : ∀ d ∈ sent, d.1 ≠ token) :
    receivedBy token sent = [] := by
  rw [receivedBy, List.filter_eq_nil_iff.mpr (fun d hd => by simpa using h d hd), List.map_nil]

/-- What goes to a subscriber is received by that one. -/
theorem receivedBy_map (token : Nat) (es : List α) :
    receivedBy token (es.map (fun e => (token, e))) = es := by
  simp [receivedBy, List.filter_map, Function.comp_def]

theorem receivedBy_owed (s : Subscriber α) :
    receivedBy s.token s.owed = if s.active then s.queue else [] := by
  unfold Subscriber.owed
  split
  · exact receivedBy_map _ _
  · rfl

/-- **A pass takes the oldest events off the queue of a subscriber and hands it these.**  One
that ends well takes all of them. -/
theorem Pass.subscriber {ss ss' : List (Subscriber α)} {sent : List (Nat × α)} {fate : PumpEnd}
    {token : Nat} {s : Subscriber α} (h : Pass ss ss' sent fate)
    (hdistinct : (ss.map Subscriber.token).Nodup)
    (hs : ss.find? (fun s => s.token == token) = some s) :
    ∃ taken left, s.queue = taken ++ left ∧
      ss'.find? (fun s => s.token == token) = some { s with queue := left } ∧
      receivedBy token sent = taken ∧ (s.active = false → taken = []) ∧
      (fate = .done → s.active = true → left = []) := by
  -- Induction on the pass: it is the turn of this subscriber, or of another one.
  induction h with
  | nil => cases hs
  | @turn s₀ ss ss' sent fate calm rest ih =>
    rw [List.map_cons, List.nodup_cons] at hdistinct
    by_cases ht : s₀.token = token
    · obtain rfl : s₀ = s := by simpa [ht] using hs
      subst ht
      have hothers : receivedBy s₀.token sent = [] := by
        refine receivedBy_eq_nil fun d hd heq => ?_
        obtain ⟨x, hx, hdx⟩ := rest.sent_mem d hd
        exact hdistinct.1 (heq ▸ hdx ▸ List.mem_map_of_mem hx)
      by_cases hactive : s₀.active = true
      · have hempty : s₀.emptied = { s₀ with queue := [] } := if_pos hactive
        refine ⟨s₀.queue, [], by simp, ?_, ?_, by simp [hactive], by simp⟩
        · rw [hempty, List.find?_cons_of_pos]
          exact beq_self_eq_true s₀.token
        · rw [receivedBy_append, hothers, receivedBy_owed, if_pos hactive, List.append_nil]
      · have hsame : s₀.emptied = s₀ := if_neg hactive
        refine ⟨[], s₀.queue, rfl, ?_, ?_, fun _ => rfl, by simp [hactive]⟩
        · rw [hsame, List.find?_cons_of_pos]
          exact beq_self_eq_true s₀.token
        · rw [receivedBy_append, hothers, receivedBy_owed, if_neg hactive]
          rfl
    · have hrest : ss.find? (fun s => s.token == token) = some s := by simpa [ht] using hs
      obtain ⟨taken, left, hqueue, hfind, hreceived, hidle, hdone⟩ := ih hdistinct.2 hrest
      have hemptied : s₀.emptied.token = s₀.token := by
        rw [← s₀.asked_token, ← s₀.asked_emptied]
        rfl
      have howed : receivedBy token s₀.owed = [] := by
        refine receivedBy_eq_nil fun d hd heq => ?_
        unfold Subscriber.owed at hd
        split at hd
        · obtain ⟨e, -, rfl⟩ := List.mem_map.mp hd
          exact ht heq
        · cases hd
      refine ⟨taken, left, hqueue, ?_, ?_, hidle, hdone⟩
      · rw [List.find?_cons_of_neg (by simp [hemptied, ht]), hfind]
      · rw [receivedBy_append, howed, hreceived, List.nil_append]
  | @failed s₀ later taken left e active queue calm raised =>
    by_cases ht : s₀.token = token
    · obtain rfl : s₀ = s := by simpa [ht] using hs
      subst ht
      refine ⟨taken ++ [e], left, by simp [queue], by simp, receivedBy_map _ _,
        by simp [active], nofun⟩
    · have hrest : later.find? (fun s => s.token == token) = some s := by simpa [ht] using hs
      refine ⟨[], s.queue, rfl, ?_, ?_, fun _ => rfl, nofun⟩
      · rw [List.find?_cons_of_neg (by simp [ht]), hrest]
      · refine receivedBy_eq_nil fun d hd heq => ?_
        obtain ⟨x, -, rfl⟩ := List.mem_map.mp hd
        exact ht heq

/-! ## §3. What a step means to one subscriber. -/

namespace EventBus

/-- What the subscriber with a token has received. -/
def received (b : EventBus α) (token : Nat) : List α := receivedBy token b.delivered

/-- Is a step a pump that runs to its end? -/
def finishes (b : EventBus α) : BusStep α → Bool
  | .pump =>
      match (b.pump b.queued).2 with
      | .done => true
      | _ => false
  | _ => false

/-- Is a step a pump that a failing handler ends? -/
def fails (b : EventBus α) : BusStep α → Bool
  | .pump =>
      match (b.pump b.queued).2 with
      | .done => false
      | _ => true
  | _ => false

variable {b : EventBus α} {token : Nat} {s : Subscriber α}

/-- A change of subscribers that keeps their tokens. -/
theorem subscriber?_map (f : Subscriber α → Subscriber α)
    (hf : ∀ s ∈ b.subscribers, (f s).token = s.token) (hs : b.subscriber? token = some s) :
    ({ b with subscribers := b.subscribers.map f } : EventBus α).subscriber? token
      = some (f s) := by
  rw [subscriber?] at hs
  rw [subscriber?, List.find?_map, List.find?_congr (fun x hx => ?_), hs, Option.map_some]
  simp [hf x hx]

theorem subscriber?_subscribe (hs : b.subscriber? token = some s)
    (categories : Option (List Json)) (size : Int) (raises : α → Bool) :
    (b.step (.subscribe categories size raises)).subscriber? token = some s := by
  rw [subscriber?] at hs
  show (b.subscribers ++ [_]).find? _ = some s
  rw [List.find?_append, hs, Option.some_or]

theorem received_subscribe (b : EventBus α) (token : Nat) (categories : Option (List Json))
    (size : Int) (raises : α → Bool) :
    (b.step (.subscribe categories size raises)).received token = b.received token := rfl

theorem subscriber?_unsubscribe (hs : b.subscriber? token = some s) (v : Json) :
    (b.step (.unsubscribe v)).subscriber? token = some (s.leaving v) := by
  rw [EventBus.step, unsubscribeAt_eq]
  exact subscriber?_map (Subscriber.leaving v) (fun _ _ => rfl) hs

theorem received_unsubscribe (b : EventBus α) (token : Nat) (v : Json) :
    (b.step (.unsubscribe v)).received token = b.received token := by
  rw [EventBus.step, unsubscribeAt_eq]
  rfl

theorem Sound.subscriber?_publish (h : b.Sound) (hs : b.subscriber? token = some s)
    (category : Json) (e : α) :
    (b.step (.publish category e)).subscriber? token = some (s.offered category e) := by
  rw [EventBus.step, h.publish_eq]
  refine subscriber?_map _ (fun s hs => ?_) hs
  rw [← s.asked_token, ← (h.plain s hs).asked_offered category e]
  rfl

theorem Sound.received_publish (h : b.Sound) (token : Nat) (category : Json) (e : α) :
    (b.step (.publish category e)).received token = b.received token := by
  rw [EventBus.step, h.publish_eq]
  rfl

/-- A pump takes the oldest events off a queue; one that runs to its end takes all of them. -/
theorem Sound.subscriber?_pump (h : b.Sound) (hs : b.subscriber? token = some s) :
    ∃ taken left, s.queue = taken ++ left ∧
      (b.step .pump).subscriber? token = some { s with queue := left } ∧
      (b.step .pump).received token = b.received token ++ taken ∧
      (s.active = false → taken = []) ∧
      (b.finishes .pump = true → s.active = true → left = []) := by
  obtain ⟨ss, sent, fate, hpass, heq⟩ := h.exists_pass
  obtain ⟨taken, left, hqueue, hfind, hreceived, hidle, hdone⟩ := hpass.subscriber h.distinct hs
  refine ⟨taken, left, hqueue, ?_, ?_, hidle, ?_⟩
  · rw [EventBus.step, heq]
    exact hfind
  · rw [EventBus.step, heq]
    show receivedBy token (b.delivered ++ sent) = _
    rw [receivedBy_append, hreceived]
    rfl
  · intro hfinishes
    refine hdone ?_
    rw [finishes, heq] at hfinishes
    cases fate with
    | done => rfl
    | failed _ => cases hfinishes
    | unfinished => cases hfinishes

/-- A subscriber stays what it asked to be, and out once it is out. -/
theorem Sound.subscriber?_step (h : b.Sound) (hs : b.subscriber? token = some s)
    (x : BusStep α) :
    ∃ s', (b.step x).subscriber? token = some s' ∧ s'.asked = s.asked ∧
      (s.active = false → s'.active = false) := by
  cases x with
  | subscribe categories size raises =>
    exact ⟨s, subscriber?_subscribe hs categories size raises, rfl, id⟩
  | unsubscribe v =>
    refine ⟨s.leaving v, subscriber?_unsubscribe hs v, rfl, fun hout => ?_⟩
    rw [Subscriber.leaving, hout, ite_self]
  | publish category e =>
    obtain ⟨categories, size, raises, hof⟩ := h.plain s (List.mem_of_find?_eq_some hs)
    refine ⟨s.offered category e, h.subscriber?_publish hs category e, ?_, fun hout => ?_⟩
    · exact Subscriber.Plain.asked_offered ⟨categories, size, raises, hof⟩ category e
    · rw [hof.offered, hout, Bool.false_and, if_neg Bool.false_ne_true, hout]
  | pump =>
    obtain ⟨taken, left, -, hfind, -⟩ := h.subscriber?_pump hs
    exact ⟨_, hfind, rfl, id⟩

/-- A subscriber that is out stays out. -/
theorem Sound.out_after (h : b.Sound) (hs : b.subscriber? token = some s)
    (hout : s.active = false) (steps : List (BusStep α)) :
    ∃ s', (b.after steps).subscriber? token = some s' ∧ s'.active = false := by
  induction steps generalizing b s with
  | nil => exact ⟨s, hs, hout⟩
  | cons x steps ih =>
    obtain ⟨s', hs', -, hstays⟩ := h.subscriber?_step hs x
    exact ih (h.step x) hs' (hstays hout)

/-! ## §4. The ledger of a run. -/

end EventBus

/-- The event that a subscriber to some categories may take of a step. -/
def BusStep.event? (categories : Option (List Json)) : BusStep α → Option α
  | .publish category e => if wants categories category then some e else none
  | _ => none

namespace EventBus

/-- How many pumps run to their end in some steps. -/
def finished : EventBus α → List (BusStep α) → Nat
  | _, [] => 0
  | b, x :: steps => (b.finishes x).toNat + finished (b.step x) steps

/-- What a subscriber to some categories may take of some steps, with the number of pumps
that have run to their end, counted from `round` on. -/
def postings (categories : Option (List Json)) :
    Nat → EventBus α → List (BusStep α) → List (Posting α)
  | _, _, [] => []
  | round, b, x :: steps =>
      ((x.event? categories).map (fun e => ⟨e, round⟩)).toList ++
        postings categories (round + (b.finishes x).toNat) (b.step x) steps

variable {b : EventBus α} {token : Nat} {s : Subscriber α}
  {categories : Option (List Json)} {size : Int} {raises : α → Bool} {round : Nat}
  {posted waiting : List (Posting α)} {past : List (Posting α × Fate)}

/-- **A step keeps the ledger** of a subscriber, unless it takes the subscriber out. -/
theorem Sound.ledger_step (h : b.Sound) (hs : b.subscriber? token = some s)
    (hof : s.Of categories size raises) (hin : s.active = true)
    (hledger : QueueLedger size round posted past waiting (b.received token) s.queue)
    (x : BusStep α) :
    ∃ s', (b.step x).subscriber? token = some s' ∧ s'.Of categories size raises ∧
      (s'.active = true → ∃ past' waiting',
        QueueLedger size (round + (b.finishes x).toNat)
          (posted ++ ((x.event? categories).map (fun e => ⟨e, round⟩)).toList) past' waiting'
          ((b.step x).received token) s'.queue) := by
  cases x with
  | subscribe categories' size' raises' =>
    refine ⟨s, subscriber?_subscribe hs _ _ _, hof, fun _ => ⟨past, waiting, ?_⟩⟩
    rw [received_subscribe]
    simpa [BusStep.event?, finishes] using hledger
  | unsubscribe v =>
    refine ⟨s.leaving v, subscriber?_unsubscribe hs v, ⟨hof.filter, hof.bound, hof.handler⟩,
      fun _ => ⟨past, waiting, ?_⟩⟩
    rw [received_unsubscribe, show (s.leaving v).queue = s.queue from rfl]
    simpa [BusStep.event?, finishes] using hledger
  | publish category e =>
    refine ⟨s.offered category e, h.subscriber?_publish hs category e, ?_, fun _ => ?_⟩
    · rw [hof.offered]
      split
      · exact ⟨hof.filter, hof.bound, hof.handler⟩
      · exact hof
    · rw [h.received_publish, hof.offered, hin, Bool.true_and]
      by_cases hwants : wants categories category = true
      · obtain ⟨past', waiting', hledger'⟩ := hledger.posted e
        refine ⟨past', waiting', ?_⟩
        simpa [BusStep.event?, finishes, hwants] using hledger'
      · refine ⟨past, waiting, ?_⟩
        simpa [BusStep.event?, finishes, hwants] using hledger
  | pump =>
    obtain ⟨taken, left, hqueue, hfind, hreceived, -, hdone⟩ := h.subscriber?_pump hs
    refine ⟨_, hfind, ⟨hof.filter, hof.bound, hof.handler⟩, fun _ => ?_⟩
    -- something is left only if the pump did not end, and the round goes on then
    have hround : left ≠ [] → round + (b.finishes .pump).toNat = round := by
      intro hleft
      cases hfinishes : b.finishes .pump with
      | false => rfl
      | true => exact absurd (hdone hfinishes hin) hleft
    obtain ⟨past', waiting', hledger'⟩ := hledger.taken hqueue hround
    refine ⟨past', waiting', ?_⟩
    rw [hreceived]
    simpa [BusStep.event?] using hledger'

/-- **A run keeps the ledger** of a subscriber that is in at its end. -/
theorem Sound.ledger_after (steps : List (BusStep α)) (h : b.Sound)
    (hs : b.subscriber? token = some s) (hof : s.Of categories size raises)
    (hin : s.active = true)
    (hledger : QueueLedger size round posted past waiting (b.received token) s.queue)
    {s' : Subscriber α} (hs' : (b.after steps).subscriber? token = some s')
    (hin' : s'.active = true) :
    ∃ past' waiting', QueueLedger size (round + b.finished steps)
      (posted ++ b.postings categories round steps) past' waiting'
      ((b.after steps).received token) s'.queue := by
  -- Induction on the steps.  A step that takes the subscriber out leaves it out at the end.
  induction steps generalizing b s round posted past waiting with
  | nil =>
    obtain rfl : s = s' := Option.some.inj (hs.symm.trans hs')
    exact ⟨past, waiting, by simpa [finished, postings] using hledger⟩
  | cons x steps ih =>
    obtain ⟨s₁, hs₁, hof₁, hstep⟩ := h.ledger_step hs hof hin hledger x
    cases hin₁ : s₁.active with
    | false =>
      obtain ⟨s₂, hs₂, hout⟩ := (h.step x).out_after hs₁ hin₁ steps
      obtain rfl : s₂ = s' := Option.some.inj (hs₂.symm.trans hs')
      rw [hout] at hin'
      cases hin'
    | true =>
      obtain ⟨past₁, waiting₁, hledger₁⟩ := hstep hin₁
      obtain ⟨past', waiting', hledger'⟩ := ih (h.step x) hs₁ hof₁ hin₁ hledger₁ hs'
      refine ⟨past', waiting', ?_⟩
      simpa [finished, postings, Nat.add_assoc] using hledger'

/-! ## §5. Alone with what concerns it. -/

end EventBus

/-- What a step can mean to one subscriber. -/
inductive Concern (α : Type) where
  | posted (event : α)
  | pumped
  | left
  deriving DecidableEq

/-- What a step means to the subscriber to some categories with a token. -/
def BusStep.concern? (categories : Option (List Json)) (token : Nat) :
    BusStep α → Option (Concern α)
  | .subscribe .. => none
  | .unsubscribe v => if v.isKey && v.same (.int token) then some .left else none
  | .publish category e => if wants categories category then some (.posted e) else none
  | .pump => some .pumped

/-- What a subscriber received, what it waits for, and whether it is in. -/
structure Mailbox (α : Type) where
  received : List α
  queue : List α
  attached : Bool

/-- A mailbox of some size after something that concerns it. -/
def Mailbox.hear (size : Int) (m : Mailbox α) : Concern α → Mailbox α
  | .posted e => if m.attached then { m with queue := queueing size m.queue e } else m
  | .pumped => if m.attached then { m with received := m.received ++ m.queue, queue := [] } else m
  | .left => { m with attached := false }

namespace EventBus

/-- The mailbox of the subscriber with a token. -/
def mailbox (b : EventBus α) (token : Nat) (s : Subscriber α) : Mailbox α :=
  ⟨b.received token, s.queue, s.active⟩

/-- Does no handler fail in some steps? -/
def untroubled : EventBus α → List (BusStep α) → Bool
  | _, [] => true
  | b, x :: steps => !b.fails x && untroubled (b.step x) steps

variable {b : EventBus α} {token : Nat} {s : Subscriber α}
  {categories : Option (List Json)} {size : Int} {raises : α → Bool}

/-- A step in which no handler fails means to a mailbox what concerns it. -/
theorem Sound.mailbox_step (h : b.Sound) (hs : b.subscriber? token = some s)
    (hof : s.Of categories size raises) (x : BusStep α) (hcalm : b.fails x = false) :
    ∃ s', (b.step x).subscriber? token = some s' ∧ s'.Of categories size raises ∧
      (b.step x).mailbox token s' =
        ((x.concern? categories token).toList).foldl (Mailbox.hear size) (b.mailbox token s) := by
  cases x with
  | subscribe categories' size' raises' =>
    exact ⟨s, subscriber?_subscribe hs _ _ _, hof, rfl⟩
  | unsubscribe v =>
    refine ⟨s.leaving v, subscriber?_unsubscribe hs v, ⟨hof.filter, hof.bound, hof.handler⟩, ?_⟩
    have htoken : s.token = token := by simpa using List.find?_some hs
    rw [mailbox, received_unsubscribe, BusStep.concern?, Subscriber.leaving, htoken]
    cases hnamed : v.isKey && v.same (.int token) with
    | true => simp [Mailbox.hear, mailbox]
    | false => simp [mailbox]
  | publish category e =>
    refine ⟨s.offered category e, h.subscriber?_publish hs category e, ?_, ?_⟩
    · rw [hof.offered]
      split
      · exact ⟨hof.filter, hof.bound, hof.handler⟩
      · exact hof
    · rw [mailbox, h.received_publish, hof.offered, BusStep.concern?]
      cases hwants : wants categories category with
      | true => cases hin : s.active <;> simp [Mailbox.hear, mailbox, hin]
      | false => simp [mailbox]
  | pump =>
    obtain ⟨taken, left, hqueue, hfind, hreceived, hidle, hdone⟩ := h.subscriber?_pump hs
    refine ⟨_, hfind, ⟨hof.filter, hof.bound, hof.handler⟩, ?_⟩
    have hfinishes : b.finishes .pump = true := by
      rw [fails] at hcalm
      rw [finishes]
      cases hend : (b.pump b.queued).2 <;> simp [hend] at hcalm ⊢
    rw [mailbox, hreceived, BusStep.concern?]
    cases hin : s.active with
    | true =>
      -- a pump that ends leaves nothing in the queue of a live subscriber
      obtain rfl := hdone hfinishes hin
      simp [Mailbox.hear, mailbox, hin, hqueue]
    | false =>
      -- nothing is taken from the queue of one who is out
      obtain rfl := hidle hin
      simp [Mailbox.hear, mailbox, hin, hqueue]

/-- **A run in which no handler fails means to a mailbox what concerns it, and no more.** -/
theorem Sound.mailbox_after (steps : List (BusStep α)) (h : b.Sound)
    (hs : b.subscriber? token = some s) (hof : s.Of categories size raises)
    (hcalm : b.untroubled steps = true) :
    ∃ s', (b.after steps).subscriber? token = some s' ∧
      (b.after steps).mailbox token s' =
        (steps.filterMap (BusStep.concern? categories token)).foldl (Mailbox.hear size)
          (b.mailbox token s) := by
  induction steps generalizing b s with
  | nil => exact ⟨s, hs, rfl⟩
  | cons x steps ih =>
    simp only [untroubled, Bool.and_eq_true, Bool.not_eq_true'] at hcalm
    obtain ⟨s₁, hs₁, hof₁, hstep⟩ := h.mailbox_step hs hof x hcalm.1
    obtain ⟨s', hs', hrest⟩ := ih (h.step x) hs₁ hof₁ hcalm.2
    refine ⟨s', hs', ?_⟩
    rw [after_cons, hrest, hstep]
    cases hconcern : x.concern? categories token <;> simp [hconcern]

/-! ## §6. Every run of a bus. -/

/-- A subscriber that has just come in. -/
theorem Sound.subscriber?_new (h : b.Sound) (categories : Option (List Json)) (size : Int)
    (raises : α → Bool) :
    ∃ s, (b.step (.subscribe categories size raises)).subscriber? b.nextToken = some s ∧
      s.Of categories size raises ∧
      (b.step (.subscribe categories size raises)).mailbox b.nextToken s = ⟨[], [], true⟩ := by
  have hnew : b.subscribers.find? (fun s => s.token == b.nextToken) = none := by
    rw [List.find?_eq_none]
    intro s hs
    simpa using Nat.ne_of_lt (h.fresh s hs)
  have hnothing : b.received b.nextToken = [] :=
    receivedBy_eq_nil fun d hd => Nat.ne_of_lt (h.sent d hd)
  refine ⟨⟨b.nextToken, .among categories, .ofValue (.int size), recording raises, [], true⟩, ?_,
    ⟨rfl, rfl, rfl⟩, ?_⟩
  · show (b.subscribers ++ [_]).find? _ = _
    rw [List.find?_append, hnew]
    simp
  · rw [mailbox]
    show Mailbox.mk (b.received b.nextToken) [] true = _
    rw [hnothing]

/-- **What becomes of published events.**  Let a subscriber come in after some steps, and
let others follow.
* If it is in at the end, its ledger is in order: what was published for it since it came in
  is, in this order, received once, lost to a full queue, or queued.
* A pump, whatever went before it, is one pass over the subscribers: a handler that fails
  costs its own event, and all others stay queued.
* If no handler fails, what the subscriber receives and waits for is the same in every run
  whose steps mean the same to it, whatever the other subscribers are. -/
theorem deliveries (before later : List (BusStep α)) (categories : Option (List Json))
    (size : Int) (raises : α → Bool) :
    let b := ({} : EventBus α).after before
    let entered := b.step (.subscribe categories size raises)
    (∀ s, (entered.after later).subscriber? b.nextToken = some s → s.active = true →
      ∃ past waiting, QueueLedger size (entered.finished later)
        (entered.postings categories 0 later) past waiting
        ((entered.after later).received b.nextToken) s.queue) ∧
    (∃ ss sent fate, Pass b.subscribers ss sent fate ∧
      b.pump b.queued =
        ({ b with subscribers := ss, delivered := b.delivered ++ sent }, fate)) ∧
    (∀ (before' later' : List (BusStep α)) (raises' : α → Bool),
      let b' := ({} : EventBus α).after before'
      let entered' := b'.step (.subscribe categories size raises')
      entered.untroubled later = true → entered'.untroubled later' = true →
      later.filterMap (BusStep.concern? categories b.nextToken) =
        later'.filterMap (BusStep.concern? categories b'.nextToken) →
      ∃ s s', (entered.after later).subscriber? b.nextToken = some s ∧
        (entered'.after later').subscriber? b'.nextToken = some s' ∧
        (entered.after later).mailbox b.nextToken s =
          (entered'.after later').mailbox b'.nextToken s') := by
  intro b entered
  have hsound : b.Sound := sound_empty.after before
  have hentered : entered.Sound := hsound.step _
  obtain ⟨s₀, hs₀, hof, hmail⟩ := hsound.subscriber?_new categories size raises
  have hin : s₀.active = true := congrArg Mailbox.attached hmail
  refine ⟨?_, hsound.exists_pass, ?_⟩
  · intro s hs hlive
    have hstart : QueueLedger size 0 [] [] [] (entered.received b.nextToken) s₀.queue := by
      rw [show entered.received b.nextToken = [] from congrArg Mailbox.received hmail,
        show s₀.queue = [] from congrArg Mailbox.queue hmail]
      exact .empty size 0
    simpa using hentered.ledger_after later hs₀ hof hin hstart hs hlive
  · intro before' later' raises' b' entered' hcalm hcalm' hsame
    have hsound' : b'.Sound := sound_empty.after before'
    obtain ⟨s₀', hs₀', hof', hmail'⟩ := hsound'.subscriber?_new categories size raises'
    obtain ⟨s, hs, heq⟩ := hentered.mailbox_after later hs₀ hof hcalm
    obtain ⟨s', hs', heq'⟩ := (hsound'.step _).mailbox_after later' hs₀' hof' hcalm'
    refine ⟨s, s', hs, hs', ?_⟩
    -- both mailboxes began empty and heard the same
    rw [heq, heq', hmail, hmail', hsame]

/-- Numbers are published to a queue of two that fails on the three, behind one that fails
on the one.  The one is lost, the first pump ends early, the second at the three, and the
third delivers what is left.  Without the failures, a run without the other subscriber comes
to the same. -/
theorem deliveries_overflowing :
    (let entered := (({} : EventBus Nat).after [.subscribe none 0 (fun n => n == 1)]).step
        (.subscribe (some [.str "console"]) 2 (fun n => n == 3))
      let later : List (BusStep Nat) :=
        [.publish (.str "console") 1, .publish (.str "closed") 9, .publish (.str "console") 2,
          .publish (.str "console") 3, .pump, .pump, .publish (.str "console") 4, .pump]
      (entered.after later).received 2 = [2, 3, 4] ∧ entered.finished later = 1 ∧
        ∃ past waiting, QueueLedger 2 (entered.finished later)
          (entered.postings (some [.str "console"]) 0 later)
          past waiting ((entered.after later).received 2) []) ∧
    (let entered := (({} : EventBus Nat).after [.subscribe none 0 (fun n => n == 1)]).step
        (.subscribe none 1 (fun n => n == 3))
      let entered' := ({} : EventBus Nat).step (.subscribe none 1 (fun _ => false))
      ∃ s s',
        (entered.after [.publish .null 7, .unsubscribe (.int 1), .pump]).subscriber? 2 = some s ∧
        (entered'.after [.publish .null 7, .pump]).subscriber? 1 = some s' ∧
        (entered.after [.publish .null 7, .unsubscribe (.int 1), .pump]).mailbox 2 s =
          (entered'.after [.publish .null 7, .pump]).mailbox 1 s') := by
  constructor
  · intro entered later
    have hlive : ((entered.after later).subscriber? 2).map (fun s => (s.queue, s.active)) =
        some ([], true) := by decide +kernel
    obtain ⟨s, hs, heq⟩ := Option.map_eq_some_iff.mp hlive
    obtain ⟨hqueue, hin⟩ := Prod.mk.inj heq
    refine ⟨by decide +kernel, by decide +kernel, ?_⟩
    rw [← hqueue]
    exact (deliveries [.subscribe none 0 (fun n => n == 1)] later (some [.str "console"]) 2
      (fun n => n == 3)).1 s hs hin
  · exact (deliveries [.subscribe none 0 (fun n => n == 1)]
      [.publish .null 7, .unsubscribe (.int 1), .pump] none 1 (fun n => n == 3)).2.2
      [] [.publish .null 7, .pump] (fun _ => false) (by decide +kernel) (by decide +kernel)
      (by decide +kernel)

end EventBus
end FlowTrace
