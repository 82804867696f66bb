/-
  FlowTrace.Proofs.Event.Pumping
  ────────────────────────────────
  **ONE PUMP.**

  A bus whose handlers take note of an event and may then fail is used step by step:
  subscribe, unsubscribe, publish, pump.  Tokens stay distinct, so a pump can be told as
  one pass over the list of subscribers (`Pass`): it empties queue after queue, and the
  first failure ends it right after the event at hand.

  Main result: `EventBus.exists_pass` — a pump is such a pass, whatever was done to the
  bus before.
-/
import FlowTrace.Event.Bus

namespace FlowTrace

variable {α : Type}

/-! ## §1. What is done to a bus. -/

/-- The handler that takes note of an event and then fails on some. -/
def recording (raises : α → Bool) : α → List (Reaction α) :=
  fun e => if raises e then [.fail] else []

/-- The filter for some categories.  No list, or an empty one, is no filter. -/
def CategoryFilter.among : Option (List Json) → CategoryFilter
  | none => .ofValue .null
  | some categories => .ofValue (.arr categories)

/-- One thing done to a bus. -/
inductive BusStep (α : Type) where
  | subscribe (categories : Option (List Json)) (size : Int) (raises : α → Bool)
  | unsubscribe (token : Json)
  | publish (category : Json) (event : α)
  | pump

namespace EventBus

/-- A bus after one step. -/
def step (b : EventBus α) : BusStep α → EventBus α
  | .subscribe categories size raises =>
      (b.subscribe (.among categories) (.ofValue (.int size)) (recording raises)).1
  | .unsubscribe token => (b.unsubscribeAt token).1
  | .publish category event => (b.publish category event).1
  | .pump => (b.pump b.queued).1

/-- A bus after some steps. -/
def after (b : EventBus α) (steps : List (BusStep α)) : EventBus α := steps.foldl step b

@[simp] theorem after_nil (b : EventBus α) : b.after [] = b := rfl

@[simp] theorem after_cons (b : EventBus α) (x : BusStep α) (steps : List (BusStep α)) :
    b.after (x :: steps) = (b.step x).after steps := rfl

end EventBus

/-! ## §2. One subscriber. -/

/-- Does a subscriber to some categories take an event of this one? -/
def wants (categories : Option (List Json)) (category : Json) : Bool :=
  match categories with
  | none | some [] => true
  | some cs => cs.any (fun c => c.sameItem category)

/-- A queue of a size after one more event.  A size that is not positive bounds nothing. -/
def queueing (size : Int) (queue : List α) (e : α) : List α :=
  (if 0 < size ∧ size.toNat ≤ queue.length then queue.drop 1 else queue) ++ [e]

namespace Subscriber

/-- A subscriber as it was asked for. -/
structure Of (categories : Option (List Json)) (size : Int) (raises : α → Bool)
    (s : Subscriber α) : Prop where
  filter : s.filter = .among categories
  bound : s.bound = .ofValue (.int size)
  handler : s.handler = recording raises

/-- A subscriber that takes note of events and may then fail. -/
def Plain (s : Subscriber α) : Prop := ∃ categories size raises, s.Of categories size raises

variable {categories : Option (List Json)} {size : Int} {raises : α → Bool} {s : Subscriber α}

/-- The filter never fails. -/
theorem Of.admits (h : s.Of categories size raises) (category : Json) :
    s.filter.admits category = .ok (wants categories category) := by
  rw [h.filter]
  match categories with
  | none => rfl
  | some [] => rfl
  | some (c :: cs) => rfl

/-- An event always finds room. -/
theorem Of.push (h : s.Of categories size raises) (e : α) :
    s.push e = .ok { s with queue := queueing size s.queue e } := by
  have hbound : s.bound = if 0 < size then .atMost size.toNat else .unbounded := by
    rw [h.bound]
    simp only [QueueBound.ofValue, Json.number?, Json.ratio?, Json.ceiling, Nat.div_one,
      Nat.add_sub_cancel]
  unfold Subscriber.push queueing
  rw [hbound]
  by_cases hsize : 0 < size
  · simp [hsize]
  · simp [hsize]

/-- A subscriber after an event was offered to it. -/
def offered (category : Json) (e : α) (s : Subscriber α) : Subscriber α :=
  match s.offer category e with
  | .ok s' => s'
  | .error _ => s

theorem Of.offer (h : s.Of categories size raises) (category : Json) (e : α) :
    s.offer category e = .ok
      (if s.active && wants categories category
        then { s with queue := queueing size s.queue e } else s) := by
  unfold Subscriber.offer
  rw [h.admits, h.push]
  by_cases hactive : s.active = true
  · rw [if_pos hactive, hactive]
    cases wants categories category with
    | false => rfl
    | true => rfl
  · rw [if_neg hactive, Bool.eq_false_iff.mpr hactive]
    rfl

theorem Of.offered (h : s.Of categories size raises) (category : Json) (e : α) :
    s.offered category e =
      if s.active && wants categories category
        then { s with queue := queueing size s.queue e } else s := by
  rw [Subscriber.offered, h.offer]

/-- What is offered to subscribers reaches every one of them. -/
theorem offerAll_plain (category : Json) (e : α) {subscribers : List (Subscriber α)}
    (h : ∀ s ∈ subscribers, s.Plain) :
    offerAll category e subscribers
      = (subscribers.map (Subscriber.offered category e), .ok ()) := by
  induction subscribers with
  | nil => rfl
  | cons s rest ih =>
    obtain ⟨categories, size, raises, hs⟩ := h s (List.mem_cons_self ..)
    simp only [offerAll, hs.offer, ih (fun s hs => h s (List.mem_cons_of_mem _ hs)),
      List.map_cons, hs.offered]

/-- A subscriber whose queue was emptied in its turn. -/
def emptied (s : Subscriber α) : Subscriber α := if s.active then { s with queue := [] } else s

/-- What a subscriber gets in its turn if nothing fails. -/
def owed (s : Subscriber α) : List (Nat × α) :=
  if s.active then s.queue.map (fun e => (s.token, e)) else []

/-- A subscriber after the one with some token was taken out. -/
def leaving (v : Json) (s : Subscriber α) : Subscriber α :=
  { s with active := if v.isKey && v.same (.int s.token) then false else s.active }

/-- A subscriber as it was when it came in. -/
def asked (s : Subscriber α) : Subscriber α := { s with queue := [], active := true }

@[simp] theorem asked_token (s : Subscriber α) : s.asked.token = s.token := rfl

@[simp] theorem asked_queue (s : Subscriber α) (queue : List α) :
    { s with queue := queue }.asked = s.asked := rfl

@[simp] theorem asked_emptied (s : Subscriber α) : s.emptied.asked = s.asked := by
  unfold emptied
  split <;> rfl

@[simp] theorem asked_leaving (s : Subscriber α) (v : Json) : (s.leaving v).asked = s.asked := rfl

theorem plain_asked (s : Subscriber α) : s.asked.Plain ↔ s.Plain := by
  constructor
  · rintro ⟨categories, size, raises, h⟩
    exact ⟨categories, size, raises, h.filter, h.bound, h.handler⟩
  · rintro ⟨categories, size, raises, h⟩
    exact ⟨categories, size, raises, h.filter, h.bound, h.handler⟩

theorem Plain.asked_offered (h : s.Plain) (category : Json) (e : α) :
    (s.offered category e).asked = s.asked := by
  obtain ⟨categories, size, raises, hs⟩ := h
  rw [hs.offered]
  split <;> rfl

end Subscriber

/-! ## §3. A pass over the subscribers. -/

/-- **One pass over the subscribers**: what they were, what they are, what is delivered, and
how it ends.  Queue after queue is delivered and emptied.  When a handler fails, what stood
before that event is delivered, the event too, and the rest of the queue and all later
subscribers are as they were. -/
inductive Pass : List (Subscriber α) → List (Subscriber α) → List (Nat × α) → PumpEnd → Prop
  | nil : Pass [] [] [] .done
  | turn {s : Subscriber α} {ss ss' : List (Subscriber α)} {sent : List (Nat × α)}
      {fate : PumpEnd} (calm : s.active = true → ∀ e ∈ s.queue, s.handler e = [])
      (rest : Pass ss ss' sent fate) : Pass (s :: ss) (s.emptied :: ss') (s.owed ++ sent) fate
  | failed {s : Subscriber α} {later : List (Subscriber α)} {taken left : List α} {e : α}
      (active : s.active = true) (queue : s.queue = taken ++ e :: left)
      (calm : ∀ x ∈ taken, s.handler x = []) (raised : s.handler e = [.fail]) :
      Pass (s :: later) ({ s with queue := left } :: later)
        ((taken ++ [e]).map (fun x => (s.token, x))) (.failed .callback)

namespace Pass

variable {ss ss' : List (Subscriber α)} {sent : List (Nat × α)} {fate : PumpEnd}

/-- A pass changes nothing of what the subscribers asked for. -/
theorem asked (h : Pass ss ss' sent fate) :
    ss'.map Subscriber.asked = ss.map Subscriber.asked := by
  induction h with
  | nil => rfl
  | turn _ _ ih => simp [ih]
  | failed _ _ _ _ => simp

/-- What a pass delivers it delivers to the subscribers. -/
theorem sent_mem (h : Pass ss ss' sent fate) (d : Nat × α) (hd : d ∈ sent) :
    ∃ s ∈ ss, d.1 = s.token := by
  induction h with
  | nil => cases hd
  | @turn s ss _ _ _ _ _ ih =>
    obtain howed | hrest := List.mem_append.mp hd
    · unfold Subscriber.owed at howed
      split at howed
      · obtain ⟨e, -, rfl⟩ := List.mem_map.mp howed
        exact ⟨s, List.mem_cons_self .., rfl⟩
      · cases howed
    · obtain ⟨s', hs', heq⟩ := ih hrest
      exact ⟨s', List.mem_cons_of_mem s hs', heq⟩
  | @failed s later _ _ _ _ _ _ _ =>
    obtain ⟨x, -, rfl⟩ := List.mem_map.mp hd
    exact ⟨s, List.mem_cons_self .., rfl⟩

end Pass

namespace EventBus

/-! ## §4. The turn of one subscriber. -/

/-- Changing the subscriber with a token changes that one and no other. -/
theorem modify_split (b : EventBus α) {before later : List (Subscriber α)} {s : Subscriber α}
    (f : Subscriber α → Subscriber α) (hb : b.subscribers = before ++ s :: later)
    (hdistinct : (b.subscribers.map Subscriber.token).Nodup) :
    b.modify s.token f = { b with subscribers := before ++ f s :: later } := by
  rw [hb, List.map_append, List.map_cons, List.nodup_append, List.nodup_cons] at hdistinct
  obtain ⟨-, ⟨hlater, -⟩, hbefore⟩ := hdistinct
  have skip : ∀ l : List (Subscriber α), (∀ x ∈ l, x.token ≠ s.token) →
      l.map (fun x => if x.token = s.token then f x else x) = l := by
    intro l hl
    exact (List.map_congr_left fun x hx => if_neg (hl x hx)).trans (List.map_id' l)
  rw [modify, hb, List.map_append, List.map_cons, if_pos rfl,
    skip before (fun x hx => hbefore _ (List.mem_map_of_mem hx) _ (List.mem_cons_self ..)),
    skip later (fun x hx h => hlater (h ▸ List.mem_map_of_mem hx))]

/-- A subscriber is found by its token. -/
theorem subscriber?_split (b : EventBus α) {before later : List (Subscriber α)}
    {s : Subscriber α} (hb : b.subscribers = before ++ s :: later)
    (hdistinct : (b.subscribers.map Subscriber.token).Nodup) : b.subscriber? s.token = some s := by
  rw [hb, List.map_append, List.map_cons, List.nodup_append] at hdistinct
  have hbefore : ∀ x ∈ before, ¬ (x.token == s.token) = true := by
    intro x hx h
    exact hdistinct.2.2 _ (List.mem_map_of_mem hx) _ (List.mem_cons_self ..) (beq_iff_eq.mp h)
  rw [subscriber?, hb, List.find?_append, List.find?_eq_none.mpr hbefore]
  simp

/-- A bus after a subscriber took some events off its queue. -/
def handed (b : EventBus α) (before later : List (Subscriber α)) (s : Subscriber α)
    (taken rest : List α) : EventBus α :=
  { b with
    subscribers := before ++ { s with queue := rest } :: later
    delivered := b.delivered ++ taken.map (fun e => (s.token, e)) }

/-- A delivery takes the oldest event and does what the handler does. -/
theorem deliver?_split (b : EventBus α) {before later : List (Subscriber α)} {s : Subscriber α}
    {e : α} {rest : List α} (hb : b.subscribers = before ++ s :: later)
    (hdistinct : (b.subscribers.map Subscriber.token).Nodup) (hqueue : s.queue = e :: rest) :
    b.deliver? s.token = some ((b.handed before later s [e] rest).react (s.handler e)) := by
  simp only [deliver?, subscriber?_split b hb hdistinct, hqueue,
    modify_split b (fun s => { s with queue := rest }) hb hdistinct]
  rfl

/-- Events on which the handler does not fail are delivered one by one. -/
theorem drain_taken (fuel : Nat) (taken rest : List α) (b : EventBus α)
    {before later : List (Subscriber α)} {s : Subscriber α}
    (hb : b.subscribers = before ++ s :: later)
    (hdistinct : (b.subscribers.map Subscriber.token).Nodup) (hqueue : s.queue = taken ++ rest)
    (hquiet : ∀ e ∈ taken, s.handler e = []) :
    drain (taken.length + fuel) b s.token =
      drain fuel (b.handed before later s taken rest) s.token := by
  induction taken generalizing b s with
  | nil =>
    have hs : { s with queue := rest } = s := by rw [← List.nil_append rest, ← hqueue]
    simp [handed, hs, ← hb]
  | cons e taken ih =>
    let s' : Subscriber α := { s with queue := taken ++ rest }
    let b' := b.handed before later s [e] (taken ++ rest)
    have step : b.deliver? s.token = some (b', .ok ()) := by
      rw [deliver?_split b hb hdistinct (by simpa using hqueue), hquiet e (List.mem_cons_self ..)]
      rfl
    have hb' : b'.subscribers = before ++ s' :: later := rfl
    have hdistinct' : (b'.subscribers.map Subscriber.token).Nodup := by
      rw [hb] at hdistinct
      simpa [hb', s'] using hdistinct
    have hrest := ih b' hb' hdistinct' rfl (fun x hx => hquiet x (List.mem_cons_of_mem _ hx))
    rw [List.length_cons, Nat.add_right_comm, drain, step]
    show drain (taken.length + fuel) b' s.token = _
    rw [show s.token = s'.token from rfl, hrest]
    simp [handed, b', s']

/-- A subscriber with nothing queued has had its turn. -/
theorem drain_empty (fuel : Nat) (b : EventBus α) {before later : List (Subscriber α)}
    {s : Subscriber α} (hb : b.subscribers = before ++ s :: later)
    (hdistinct : (b.subscribers.map Subscriber.token).Nodup) (hqueue : s.queue = []) :
    drain fuel b s.token = (b, .done) := by
  have hnone : b.deliver? s.token = none := by
    simp only [deliver?, subscriber?_split b hb hdistinct, hqueue]
  cases fuel with
  | zero => simp [drain, hnone]
  | succ n => simp [drain, hnone]

/-- A queue on which nothing fails is emptied. -/
theorem drain_calm {fuel : Nat} (b : EventBus α) {before later : List (Subscriber α)}
    {s : Subscriber α} (hb : b.subscribers = before ++ s :: later)
    (hdistinct : (b.subscribers.map Subscriber.token).Nodup) (hfuel : s.queue.length ≤ fuel)
    (hquiet : ∀ e ∈ s.queue, s.handler e = []) :
    drain fuel b s.token = (b.handed before later s s.queue [], .done) := by
  obtain ⟨more, rfl⟩ := Nat.exists_eq_add_of_le hfuel
  rw [drain_taken more s.queue [] b hb hdistinct (by simp) hquiet]
  refine drain_empty (s := { s with queue := [] }) more _ rfl ?_ rfl
  rw [hb] at hdistinct
  simpa [handed] using hdistinct

/-- The first failure ends the turn; what is queued behind it stays. -/
theorem drain_raising {fuel : Nat} (b : EventBus α) {before later : List (Subscriber α)}
    {s : Subscriber α} {taken rest : List α} {e : α} (hb : b.subscribers = before ++ s :: later)
    (hdistinct : (b.subscribers.map Subscriber.token).Nodup) (hfuel : s.queue.length ≤ fuel)
    (hqueue : s.queue = taken ++ e :: rest) (hquiet : ∀ x ∈ taken, s.handler x = [])
    (hraised : s.handler e = [.fail]) :
    drain fuel b s.token =
      (b.handed before later s (taken ++ [e]) rest, .failed .callback) := by
  have hroom : taken.length + 1 ≤ fuel := by
    rw [hqueue, List.length_append, List.length_cons] at hfuel
    omega
  obtain ⟨more, rfl⟩ := Nat.exists_eq_add_of_le hroom
  rw [Nat.add_assoc, drain_taken (1 + more) taken (e :: rest) b hb hdistinct hqueue hquiet,
    Nat.add_comm 1 more, drain]
  have hdistinct' : (((b.handed before later s taken (e :: rest)).subscribers).map
      Subscriber.token).Nodup := by
    rw [hb] at hdistinct
    simpa [handed] using hdistinct
  have step := deliver?_split (s := { s with queue := e :: rest })
    (b.handed before later s taken (e :: rest)) rfl hdistinct' rfl
  dsimp only at step
  rw [step, hraised]
  simp [react, handed]

/-! ## §5. The turns of all subscribers. -/

/-- Either nothing in a queue makes a handler fail, or there is a first event that does. -/
theorem first_raised {raises : α → Bool} {s : Subscriber α} (h : s.handler = recording raises) :
    (∀ e ∈ s.queue, s.handler e = []) ∨
      ∃ taken e rest, s.queue = taken ++ e :: rest ∧ (∀ x ∈ taken, s.handler x = []) ∧
        s.handler e = [.fail] := by
  rw [h]
  generalize s.queue = queue
  induction queue with
  | nil => exact .inl nofun
  | cons e queue ih =>
    by_cases he : raises e
    · exact .inr ⟨[], e, queue, rfl, nofun, by simp [recording, he]⟩
    · have hcalm : recording raises e = [] := by simp [recording, he]
      obtain hall | ⟨taken, x, rest, rfl, hquiet, hraised⟩ := ih
      · exact .inl (List.forall_mem_cons.mpr ⟨hcalm, hall⟩)
      · exact .inr ⟨e :: taken, x, rest, rfl, List.forall_mem_cons.mpr ⟨hcalm, hquiet⟩, hraised⟩

/-- Going through subscribers by their tokens is a pass over them. -/
theorem drainAll_pass {fuel : Nat} (past todo : List (Subscriber α)) (b : EventBus α)
    (hb : b.subscribers = past ++ todo)
    (hdistinct : (b.subscribers.map Subscriber.token).Nodup) (hplain : ∀ s ∈ todo, s.Plain)
    (hfuel : ∀ s ∈ todo, s.queue.length ≤ fuel) :
    ∃ ss sent fate, Pass todo ss sent fate ∧
      drainAll fuel b ((todo.filter Subscriber.active).map Subscriber.token) =
        ({ b with subscribers := past ++ ss, delivered := b.delivered ++ sent }, fate) := by
  -- over the subscribers that still have to be served, each of which changes the bus
  induction todo generalizing b past with
  | nil =>
    refine ⟨[], [], .done, .nil, ?_⟩
    simp [drainAll, ← hb]
  | cons s todo ih =>
    have hplain' := fun x hx => hplain x (List.mem_cons_of_mem _ hx)
    have hfuel' := fun x hx => hfuel x (List.mem_cons_of_mem _ hx)
    cases hactive : s.active with
    | false =>
      -- who is out is not asked for, and keeps its queue
      have hcalm : s.active = true → ∀ e ∈ s.queue, s.handler e = [] := by simp [hactive]
      have hsame : s.emptied = s := by simp [Subscriber.emptied, hactive]
      have hnothing : s.owed = [] := by simp [Subscriber.owed, hactive]
      obtain ⟨ss, sent, fate, hpass, heq⟩ :=
        ih (past ++ [s]) b (by simp [hb]) hdistinct hplain' hfuel'
      refine ⟨s :: ss, sent, fate, ?_, ?_⟩
      · simpa [hsame, hnothing] using hpass.turn hcalm
      · rw [List.filter_cons_of_neg (by simp [hactive]), heq]
        simp
    | true =>
      have hin : b.tokens.contains s.token = true := by
        simp only [tokens, hb, List.contains_iff_mem, List.mem_map]
        exact ⟨s, by simp [hactive], rfl⟩
      rw [List.filter_cons_of_pos hactive, List.map_cons, drainAll, if_pos hin]
      obtain ⟨categories, size, raises, hs⟩ := hplain s (List.mem_cons_self ..)
      -- its handler takes the whole queue, or raises at some event and ends the pass
      obtain hquiet | ⟨taken, e, rest, hqueue, hquiet, hraised⟩ := first_raised hs.handler
      · rw [drain_calm b hb hdistinct (hfuel s (List.mem_cons_self ..)) hquiet]
        have hemptied : s.emptied = { s with queue := [] } := by simp [Subscriber.emptied, hactive]
        have howed : s.owed = s.queue.map (fun e => (s.token, e)) := by
          simp [Subscriber.owed, hactive]
        have hb' : (b.handed past todo s s.queue []).subscribers =
            (past ++ [s.emptied]) ++ todo := by simp [handed, hemptied]
        have hdistinct' : ((b.handed past todo s s.queue []).subscribers.map
            Subscriber.token).Nodup := by
          rw [hb] at hdistinct
          simpa [handed] using hdistinct
        obtain ⟨ss, sent, fate, hpass, heq⟩ := ih _ _ hb' hdistinct' hplain' hfuel'
        refine ⟨s.emptied :: ss, s.owed ++ sent, fate, hpass.turn (fun _ => hquiet), ?_⟩
        dsimp only
        rw [heq]
        simp [handed, howed]
      · rw [drain_raising b hb hdistinct (hfuel s (List.mem_cons_self ..)) hqueue hquiet hraised]
        refine ⟨_, _, _, .failed hactive hqueue hquiet hraised, ?_⟩
        simp [handed]

/-! ## §6. What every step keeps. -/

/-- A bus in order: no two subscribers share a token, tokens still to come are new, and the
subscribers are plain ones. -/
structure Sound (b : EventBus α) : Prop where
  distinct : (b.subscribers.map Subscriber.token).Nodup
  fresh : ∀ s ∈ b.subscribers, s.token < b.nextToken
  sent : ∀ d ∈ b.delivered, d.1 < b.nextToken
  plain : ∀ s ∈ b.subscribers, s.Plain

theorem sound_empty : Sound ({} : EventBus α) := ⟨List.nodup_nil, nofun, nofun, nofun⟩

variable {b : EventBus α}

/-- **A pump is one pass over the subscribers.** -/
theorem Sound.exists_pass (h : b.Sound) :
    ∃ ss sent fate, Pass b.subscribers ss sent fate ∧
      b.pump b.queued =
        ({ b with subscribers := ss, delivered := b.delivered ++ sent }, fate) := by
  have hroom : ∀ s ∈ b.subscribers, s.queue.length ≤ b.queued := by
    intro s hs
    obtain ⟨before, later, hb⟩ := List.append_of_mem hs
    simp only [queued, hb, List.flatMap_append, List.flatMap_cons, List.length_append]
    omega
  exact drainAll_pass [] b.subscribers b rfl h.distinct h.plain hroom

/-- A bus stays in order as long as its subscribers stay what they asked to be. -/
theorem Sound.of_asked {b' : EventBus α} (h : b.Sound)
    (hasked : b'.subscribers.map Subscriber.asked = b.subscribers.map Subscriber.asked)
    (hnext : b'.nextToken = b.nextToken)
    (hsent : ∀ d ∈ b'.delivered, d ∈ b.delivered ∨ ∃ s ∈ b.subscribers, d.1 = s.token) :
    b'.Sound := by
  have hfrom : ∀ s' ∈ b'.subscribers, ∃ s ∈ b.subscribers, s.asked = s'.asked := by
    intro s' hs'
    exact List.mem_map.mp (hasked ▸ List.mem_map_of_mem hs')
  have htokens : ∀ l : List (Subscriber α),
      l.map Subscriber.token = (l.map Subscriber.asked).map Subscriber.token := by simp
  refine ⟨?_, ?_, ?_, ?_⟩
  · rw [htokens, hasked, ← htokens]
    exact h.distinct
  · intro s' hs'
    obtain ⟨s, hs, heq⟩ := hfrom s' hs'
    rw [hnext, ← Subscriber.asked_token s', ← heq]
    exact h.fresh s hs
  · intro d hd
    rw [hnext]
    obtain hold | ⟨s, hs, heq⟩ := hsent d hd
    · exact h.sent d hold
    · exact heq ▸ h.fresh s hs
  · intro s' hs'
    obtain ⟨s, hs, heq⟩ := hfrom s' hs'
    rw [← Subscriber.plain_asked, ← heq, Subscriber.plain_asked]
    exact h.plain s hs

/-- A new subscriber has a token of its own. -/
theorem Sound.subscribe (h : b.Sound) (categories : Option (List Json)) (size : Int)
    (raises : α → Bool) : (b.step (.subscribe categories size raises)).Sound := by
  refine ⟨?_, ?_, ?_, ?_⟩
  · show ((b.subscribers ++ [_]).map Subscriber.token).Nodup
    rw [List.map_append, List.nodup_append]
    refine ⟨h.distinct, by simp, ?_⟩
    intro t ht u hu
    obtain ⟨s, hs, rfl⟩ := List.mem_map.mp ht
    have := h.fresh s hs
    simp only [List.map_cons, List.map_nil, List.mem_singleton] at hu
    omega
  · intro s hs
    show s.token < b.nextToken + 1
    obtain hold | hnew := List.mem_append.mp hs
    · exact Nat.lt_succ_of_lt (h.fresh s hold)
    · rw [List.mem_singleton.mp hnew]
      exact Nat.lt_succ_self _
  · intro d hd
    exact Nat.lt_succ_of_lt (h.sent d hd)
  · intro s hs
    obtain hold | hnew := List.mem_append.mp hs
    · exact h.plain s hold
    · rw [List.mem_singleton.mp hnew]
      exact ⟨categories, size, raises, rfl, rfl, rfl⟩

/-- A token is equal to one number at most. -/
theorem token_unique {v : Json} {t u : Nat} (ht : v.same (.int t) = true)
    (hu : v.same (.int u) = true) : t = u := by
  cases v with
  | bool _ | int _ | float _ =>
    simp only [Json.same, Json.number?, Json.sameNumber, beq_iff_eq] at ht hu
    grind
  | _ => simp [Json.same, Json.number?] at ht

/-- Taking out a subscriber takes out the one with that token. -/
theorem unsubscribeAt_eq (b : EventBus α) (v : Json) :
    (b.unsubscribeAt v).1 = { b with subscribers := b.subscribers.map (Subscriber.leaving v) } := by
  -- where nobody has this token the bus stays as it is
  have same : (∀ s ∈ b.subscribers, s.leaving v = s) →
      b = { b with subscribers := b.subscribers.map (Subscriber.leaving v) } := by
    intro h
    rw [(List.map_congr_left h).trans (List.map_id' _)]
  unfold unsubscribeAt
  split
  · rename_i hkey
    cases hfind : b.tokens.find? (fun (t : Nat) => v.same (.int t)) with
    | none =>
      refine same fun s hs => ?_
      by_cases hactive : s.active = true
      · have hin : s.token ∈ b.tokens :=
          List.mem_map_of_mem (List.mem_filter.mpr ⟨hs, hactive⟩)
        have := List.find?_eq_none.mp hfind _ hin
        simp [Subscriber.leaving, this]
      · rw [Subscriber.leaving, ← Bool.eq_false_iff.mpr hactive, ite_self]
    | some t =>
      have hin : t ∈ b.tokens := List.mem_of_find?_eq_some hfind
      have hsame : v.same (.int t) = true := by simpa using List.find?_some hfind
      have hkey : v.isKey = true := by
        cases htokens : b.tokens with
        | nil => rw [htokens] at hin; cases hin
        | cons _ _ => simpa [htokens] using hkey
      show b.unsubscribe t = _
      rw [unsubscribe, modify]
      congr 1
      refine List.map_congr_left fun s _ => ?_
      by_cases hs : s.token = t
      · simp [Subscriber.leaving, hs, hkey, hsame]
      · -- two numbers that equal one value are the same
        have hother : v.same (.int s.token) = false :=
          Bool.eq_false_iff.mpr fun h => hs (token_unique h hsame)
        simp [Subscriber.leaving, hs, hother]
  · rename_i hkey
    refine same fun s _ => ?_
    have : v.isKey = false := by
      cases h : v.isKey with
      | false => rfl
      | true => simp [h] at hkey
    simp [Subscriber.leaving, this]

/-- Publishing offers the event to every subscriber. -/
theorem Sound.publish_eq (h : b.Sound) (category : Json) (e : α) :
    b.publish category e =
      ({ b with subscribers := b.subscribers.map (Subscriber.offered category e) }, .ok ()) := by
  rw [publish, Subscriber.offerAll_plain category e h.plain]

/-- **Every step keeps a bus in order.** -/
theorem Sound.step (h : b.Sound) (x : BusStep α) : (b.step x).Sound := by
  cases x with
  | subscribe categories size raises => exact h.subscribe categories size raises
  | unsubscribe token =>
    rw [EventBus.step, unsubscribeAt_eq]
    refine h.of_asked ?_ rfl (fun d hd => .inl hd)
    rw [List.map_map]
    exact List.map_congr_left fun s _ => s.asked_leaving token
  | publish category e =>
    rw [EventBus.step, h.publish_eq]
    refine h.of_asked ?_ rfl (fun d hd => .inl hd)
    rw [List.map_map]
    exact List.map_congr_left fun s hs => (h.plain s hs).asked_offered category e
  | pump =>
    obtain ⟨ss, sent, fate, hpass, heq⟩ := h.exists_pass
    rw [EventBus.step, heq]
    refine h.of_asked hpass.asked rfl ?_
    intro d hd
    obtain hold | hnew := List.mem_append.mp hd
    · exact .inl hold
    · exact .inr (hpass.sent_mem d hnew)

theorem Sound.after (h : b.Sound) (steps : List (BusStep α)) : (b.after steps).Sound := by
  induction steps generalizing b with
  | nil => exact h
  | cons x steps ih => exact ih (h.step x)

end EventBus
end FlowTrace
