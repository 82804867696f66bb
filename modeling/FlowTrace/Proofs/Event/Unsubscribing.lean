/-
  FlowTrace.Proofs.Event.Unsubscribing
  ────────────────────────────────
  **AFTER A SUBSCRIBER WAS TAKEN OUT.**

  A subscriber may be taken out at any moment of a pump: between two pumps, by its own
  handler, by the handler of another one, or from outside between two deliveries.  A pump
  is therefore told moment by moment here (`Pumping`), and every use of the bus may come
  between two of its steps (`Pumping.Step`).  Handlers are arbitrary.

      no turn of its own  — a subscriber that is out is not called any more
      its own turn        — what is queued for it at that moment is still handed to it;
                            nothing that is published later is

  The step lemma (`Pumping.Step.fades`) follows the queue of a subscriber that is out:
  nothing is added to it, and only the turn that was going on takes from it.

  Main result: `EventBus.out_of_turn`.
-/
import Mathlib.Logic.Relation
import FlowTrace.Proofs.Event.Delivery

namespace FlowTrace

variable {α : Type}

namespace EventBus

/-! ## §1. The moments of a pump. -/

/-- What is queued for the subscriber with a token. -/
def waiting (b : EventBus α) (token : Nat) : List α :=
  ((b.subscriber? token).map Subscriber.queue).getD []

/-- A bus whose subscriber with a token has taken an event off its queue. -/
def handOver (b : EventBus α) (token : Nat) (event : α) (rest : List α) : EventBus α :=
  let b := b.modify token (fun s => { s with queue := rest })
  { b with delivered := b.delivered ++ [(token, event)] }

/-- What may be done to a bus at any time. -/
inductive Used : EventBus α → EventBus α → Prop
  | subscribed (b : EventBus α) (filter : CategoryFilter) (bound : QueueBound)
      (handler : α → List (Reaction α)) : Used b (b.subscribe filter bound handler).1
  | unsubscribed (b : EventBus α) (v : Json) : Used b (b.unsubscribeAt v).1
  | published (b : EventBus α) (category : Json) (event : α) : Used b (b.publish category event).1
  | switched (b : EventBus α) (running : Bool) : Used b { b with running := running }

/-- A moment of a bus. -/
structure Pumping (α : Type) where
  bus : EventBus α
  /-- What the handler that was called last still has to do. -/
  doing : List (Reaction α) := []
  /-- The subscriber whose turn it is, in a pump. -/
  turn : Option Nat := none
  /-- The subscribers whose turn is to come. -/
  todo : List Nat := []

namespace Pumping

/-- Nothing is pumped. -/
def idle (b : EventBus α) : Pumping α := { bus := b }

/-- A pump has just begun. -/
def begun (b : EventBus α) : Pumping α := { bus := b, todo := b.tokens }

/-- **The next thing that happens.**  Between any two steps of a pump the bus may be used. -/
inductive Step : Pumping α → Pumping α → Prop
  | used {p : Pumping α} {b : EventBus α} (use : Used p.bus b) : Step p { p with bus := b }
  | started (b : EventBus α) : Step (idle b) (begun b)
  | passed {b : EventBus α} {t : Nat} {todo : List Nat} (out : b.tokens.contains t = false) :
      Step ⟨b, [], none, t :: todo⟩ ⟨b, [], none, todo⟩
  | entered {b : EventBus α} {t : Nat} {todo : List Nat} (live : b.tokens.contains t = true) :
      Step ⟨b, [], none, t :: todo⟩ ⟨b, [], some t, todo⟩
  | called {b : EventBus α} {t : Nat} {todo : List Nat} {s : Subscriber α} {e : α} {rest : List α}
      (found : b.subscriber? t = some s) (queue : s.queue = e :: rest) :
      Step ⟨b, [], some t, todo⟩ ⟨b.handOver t e rest, s.handler e, some t, todo⟩
  | reacted {b b' : EventBus α} {r : Reaction α} {doing : List (Reaction α)} {turn : Option Nat}
      {todo : List Nat} (well : b.react [r] = (b', .ok ())) :
      Step ⟨b, r :: doing, turn, todo⟩ ⟨b', doing, turn, todo⟩
  | failed {b b' : EventBus α} {r : Reaction α} {doing : List (Reaction α)} {turn : Option Nat}
      {todo : List Nat} {fault : Fault} (badly : b.react [r] = (b', .error fault)) :
      Step ⟨b, r :: doing, turn, todo⟩ (idle b')
  | drained {b : EventBus α} {t : Nat} {todo : List Nat} (nothing : b.deliver? t = none) :
      Step ⟨b, [], some t, todo⟩ ⟨b, [], none, todo⟩

/-- Some steps. -/
def Run : Pumping α → Pumping α → Prop := Relation.ReflTransGen Step

/-- Where a handler leaves the pump. -/
def afterCall (turn : Option Nat) (todo : List Nat) : EventBus α × Except Fault Unit → Pumping α
  | (b, .ok _) => ⟨b, [], turn, todo⟩
  | (b, .error _) => idle b

/-- Where a turn leaves the pump. -/
def afterTurn (t : Nat) (todo : List Nat) : EventBus α × PumpEnd → Pumping α
  | (b, .done) => ⟨b, [], none, todo⟩
  | (b, .failed _) => idle b
  | (b, .unfinished) => ⟨b, [], some t, todo⟩

end Pumping

/-! ## §2. Pumps happen step by step. -/

open Pumping (idle begun afterCall afterTurn Run Step)

theorem react_cons (b : EventBus α) (r : Reaction α) (rest : List (Reaction α)) :
    b.react (r :: rest) =
      match b.react [r] with
      | (b', .ok _) => b'.react rest
      | failure => failure := by
  cases r with
  | unsubscribe t =>
    simp only [react]
    cases b.unsubscribeAt t with
    | mk b' result => cases result <;> rfl
  | publish c e =>
    simp only [react]
    cases b.publish c e with
    | mk b' result => cases result <;> rfl
  | fail => rfl

/-- A delivery is a call, and then what the handler does. -/
theorem deliver?_eq_some {b : EventBus α} {t : Nat} {r : EventBus α × Except Fault Unit}
    (h : b.deliver? t = some r) : ∃ s e rest, b.subscriber? t = some s ∧ s.queue = e :: rest
      ∧ r = (b.handOver t e rest).react (s.handler e) := by
  unfold deliver? at h
  split at h
  · cases h
  · next s hs =>
    split at h
    · cases h
    · next e rest hqueue => exact ⟨s, e, rest, hs, hqueue, (Option.some.inj h).symm⟩

/-- A handler does one thing after the other. -/
theorem run_react (doing : List (Reaction α)) (b : EventBus α) (turn : Option Nat)
    (todo : List Nat) :
    Run ⟨b, doing, turn, todo⟩ (afterCall turn todo (b.react doing)) := by
  induction doing generalizing b with
  | nil => exact .refl
  | cons r doing ih =>
    -- a reaction that fails leaves the pump at once, with all turns that are to come
    rw [react_cons]
    cases hr : b.react [r] with
    | mk b' result =>
      cases result with
      | ok u => exact .head (.reacted hr) (ih b')
      | error f => exact .single (.failed hr)

/-- A turn is drained delivery by delivery. -/
theorem run_drain (fuel : Nat) (b : EventBus α) (t : Nat) (todo : List Nat) :
    Run ⟨b, [], some t, todo⟩ (afterTurn t todo (drain fuel b t)) := by
  induction fuel generalizing b with
  | zero =>
    unfold drain
    cases h : b.deliver? t with
    | none => exact .single (.drained h)
    | some r => exact .refl
  | succ fuel ih =>
    unfold drain
    cases h : b.deliver? t with
    | none => exact .single (.drained h)
    | some r =>
      obtain ⟨s, e, rest, hs, hqueue, hr⟩ := deliver?_eq_some h
      have hcalled := run_react (s.handler e) (b.handOver t e rest) (some t) todo
      rw [← hr] at hcalled
      obtain ⟨b', result⟩ := r
      cases result with
      | ok u => exact .head (.called hs hqueue) (hcalled.trans (ih b'))
      | error f => exact .head (.called hs hqueue) hcalled

/-- The subscribers have their turns one after the other. -/
theorem exists_run_drainAll (fuel : Nat) (todo : List Nat) (b : EventBus α) :
    ∃ p, Run ⟨b, [], none, todo⟩ p ∧ p.bus = (drainAll fuel b todo).1
      ∧ ((drainAll fuel b todo).2 ≠ .unfinished → p = idle (drainAll fuel b todo).1) := by
  induction todo generalizing b with
  | nil => exact ⟨idle b, .refl, rfl, fun _ => rfl⟩
  | cons t todo ih =>
    unfold drainAll
    cases hin : b.tokens.contains t with
    | false =>
      obtain ⟨p, hrun, hp⟩ := ih b
      exact ⟨p, .head (.passed hin) hrun, hp⟩
    | true =>
      have hturn := run_drain fuel b t todo
      rw [if_pos rfl]
      cases hdrain : drain fuel b t with
      | mk b' fate =>
        rw [hdrain] at hturn
        cases fate with
        | done =>
          obtain ⟨p, hrun, hp⟩ := ih b'
          exact ⟨p, .head (.entered hin) (hturn.trans hrun), hp⟩
        | failed f => exact ⟨_, .head (.entered hin) hturn, rfl, fun _ => rfl⟩
        | unfinished => exact ⟨_, .head (.entered hin) hturn, rfl, fun h => absurd rfl h⟩

/-- **A pump is some steps,** after which nothing is pumped unless it is unfinished. -/
theorem exists_run_pump (fuel : Nat) (b : EventBus α) :
    ∃ p, Run (begun b) p ∧ p.bus = (b.pump fuel).1
      ∧ ((b.pump fuel).2 ≠ .unfinished → p = idle (b.pump fuel).1) :=
  exists_run_drainAll fuel b.tokens b

/-! ## §3. A subscriber that is out. -/

/-- The subscribers with a token. -/
def holders (b : EventBus α) (token : Nat) : List (Subscriber α) :=
  b.subscribers.filter (fun s => s.token == token)

theorem subscriber?_eq_head? (b : EventBus α) (token : Nat) :
    b.subscriber? token = (b.holders token).head? :=
  List.head?_filter.symm

/-- The token was given out, and whoever has it is out. -/
structure Gone (token : Nat) (b : EventBus α) : Prop where
  given : token < b.nextToken
  out : ∀ s ∈ b.holders token, s.active = false

variable {b b' : EventBus α} {t : Nat}

/-- Who is out has no turn. -/
theorem Gone.not_contains (h : Gone t b) : b.tokens.contains t = false := by
  rw [Bool.eq_false_iff]
  intro hin
  obtain ⟨s, hs, htoken⟩ := List.mem_map.mp (List.contains_iff_mem.mp hin)
  obtain ⟨hmem, hactive⟩ := List.mem_filter.mp hs
  rw [h.out s (List.mem_filter.mpr ⟨hmem, by simpa using htoken⟩)] at hactive
  cases hactive

/-- What happened between two moments of a bus does not concern a token. -/
structure Beside (token : Nat) (b b' : EventBus α) : Prop where
  holders : b'.holders token = b.holders token
  next : b.nextToken ≤ b'.nextToken
  received : b'.received token = b.received token

theorem Beside.refl (t : Nat) (b : EventBus α) : Beside t b b := ⟨rfl, Nat.le_refl _, rfl⟩

theorem Beside.gone (h : Beside t b b') (hgone : Gone t b) : Gone t b' := by
  refine ⟨Nat.lt_of_lt_of_le hgone.given h.next, ?_⟩
  rw [h.holders]
  exact hgone.out

theorem Beside.waiting (h : Beside t b b') : b'.waiting t = b.waiting t := by
  rw [EventBus.waiting, EventBus.waiting, subscriber?_eq_head?, subscriber?_eq_head?, h.holders]

/-- Subscribers that keep their tokens, where those with the token at hand are kept. -/
theorem filter_map_token {ss : List (Subscriber α)} (f : Subscriber α → Subscriber α)
    (htoken : ∀ s ∈ ss, (f s).token = s.token) (hsame : ∀ s ∈ ss, s.token = t → f s = s) :
    (ss.map f).filter (fun s => s.token == t) = ss.filter (fun s => s.token == t) := by
  rw [List.filter_map, List.filter_congr (fun s hs => by rw [Function.comp, htoken s hs])]
  refine (List.map_congr_left (fun s hs => ?_)).trans (List.map_id' _)
  obtain ⟨hmem, heq⟩ := List.mem_filter.mp hs
  exact hsame s hmem (by simpa using heq)

/-- An offer keeps the token, and it means nothing to who is out. -/
theorem offer_eq_ok {s s' : Subscriber α} {category : Json} {event : α}
    (h : s.offer category event = .ok s') : s'.token = s.token ∧ (s.active = false → s' = s) := by
  unfold Subscriber.offer at h
  cases hactive : s.active with
  | false =>
    rw [hactive, if_neg (by decide)] at h
    cases h
    exact ⟨rfl, fun _ => rfl⟩
  | true =>
    refine ⟨?_, fun hout => by cases hout⟩
    rw [hactive, if_pos rfl] at h
    cases hadmits : s.filter.admits category with
    | error f =>
      rw [hadmits] at h
      cases h
    | ok admitted =>
      rw [hadmits] at h
      cases admitted with
      | false =>
        cases h
        rfl
      | true =>
        change s.push event = .ok s' at h
        unfold Subscriber.push at h
        split at h <;> cases h <;> rfl

/-- Events are not offered to who is out. -/
theorem filter_offerAll {category : Json} {event : α} {ss : List (Subscriber α)}
    (hout : ∀ s ∈ ss, s.token = t → s.active = false) :
    (Subscriber.offerAll category event ss).1.filter (fun s => s.token == t)
      = ss.filter (fun s => s.token == t) := by
  induction ss with
  | nil => rfl
  | cons s ss ih =>
    have hrest := ih (fun x hx => hout x (List.mem_cons_of_mem s hx))
    unfold Subscriber.offerAll
    cases hoffer : s.offer category event with
    -- an offer that fails ends the round, and the subscribers behind it are as they were
    | error f => rfl
    | ok s' =>
      have hkept := offer_eq_ok hoffer
      by_cases ht : s.token = t
      · rw [hkept.2 (hout s List.mem_cons_self ht)]
        simp only [List.filter_cons, hrest]
      · have hother : ¬ s'.token = t := by
          rw [hkept.1]
          exact ht
        simp only [List.filter_cons, hrest, beq_iff_eq, ht, hother, if_false]

/-- **Nothing that is done to a bus concerns who is out.** -/
theorem Used.beside (h : Used b b') (hgone : Gone t b) : Beside t b b' := by
  have hout : ∀ s ∈ b.subscribers, s.token = t → s.active = false := by
    intro s hs ht
    exact hgone.out s (List.mem_filter.mpr ⟨hs, by simpa using ht⟩)
  cases h with
  | subscribed filter bound handler =>
    have hnew : ¬ b.nextToken = t := Nat.ne_of_gt hgone.given
    refine ⟨?_, Nat.le_succ _, rfl⟩
    show (b.subscribers ++ [_]).filter _ = _
    rw [List.filter_append]
    simp [hnew, EventBus.holders]
  | unsubscribed v =>
    rw [unsubscribeAt_eq]
    refine ⟨filter_map_token _ (fun _ _ => rfl) ?_, Nat.le_refl _, rfl⟩
    intro s hs ht
    have hactive := hout s hs ht
    rw [Subscriber.leaving, hactive, ite_self, ← hactive]
  | published category event => exact ⟨filter_offerAll hout, Nat.le_refl _, rfl⟩
  | switched running => exact ⟨rfl, Nat.le_refl _, rfl⟩

/-- Each thing that a handler does is a use of the bus, or it changes nothing. -/
theorem used_react (b : EventBus α) (r : Reaction α) :
    (b.react [r]).1 = b ∨ Used b (b.react [r]).1 := by
  cases r with
  | unsubscribe v =>
    have hbus : (b.react [.unsubscribe v]).1 = (b.unsubscribeAt v).1 := by
      simp only [react]
      cases b.unsubscribeAt v with
      | mk b' result => cases result <;> rfl
    rw [hbus]
    exact .inr (.unsubscribed b v)
  | publish category event =>
    have hbus : (b.react [.publish category event]).1 = (b.publish category event).1 := by
      simp only [react]
      cases b.publish category event with
      | mk b' result => cases result <;> rfl
    rw [hbus]
    exact .inr (.published b category event)
  | fail => exact .inl rfl

theorem Gone.beside_react (h : Gone t b) (r : Reaction α) : Beside t b (b.react [r]).1 := by
  obtain hsame | huse := used_react b r
  · rw [hsame]
    exact .refl t b
  · exact huse.beside h

/-- A call of one handler does not concern the others. -/
theorem beside_handOver {u : Nat} (hother : u ≠ t) (e : α) (rest : List α) :
    Beside t b (b.handOver u e rest) := by
  refine ⟨filter_map_token _ ?_ ?_, Nat.le_refl _, ?_⟩
  · intro s _
    split <;> rfl
  · intro s _ ht
    rw [if_neg (ht ▸ Ne.symm hother)]
  · show receivedBy t (b.delivered ++ [(u, e)]) = receivedBy t b.delivered
    have hnone : receivedBy t [(u, e)] = [] := receivedBy_eq_nil (by simpa using hother)
    rw [receivedBy_append, hnone, List.append_nil]

/-- A call takes one event off the queue. -/
theorem holders_handOver (b : EventBus α) (t : Nat) (e : α) (rest : List α) :
    (b.handOver t e rest).holders t
      = (b.holders t).map (fun s => { s with queue := rest }) := by
  show (b.subscribers.map _).filter _ = (b.subscribers.filter _).map _
  rw [List.filter_map, List.filter_congr (q := fun s => s.token == t)]
  · refine List.map_congr_left (fun s hs => ?_)
    rw [if_pos (by simpa using (List.mem_filter.mp hs).2)]
  · intro s _
    simp only [Function.comp]
    split <;> rfl

/-! ## §4. What a pump still takes from who is out. -/

/-- **A subscriber that is out stays out,** and whatever is handed to it was queued at the
first of the two moments, in that order.  Out of its turn nothing is. -/
structure Fades (t : Nat) (p p' : Pumping α) : Prop where
  gone : Gone t p'.bus
  taken : ∃ more, p'.bus.received t = p.bus.received t ++ more
    ∧ p.bus.waiting t = more ++ p'.bus.waiting t ∧ (p.turn ≠ some t → more = [])
  turn : p.turn ≠ some t → p'.turn ≠ some t

variable {p p' : Pumping α}

/-- What does not concern a subscriber takes nothing from it. -/
theorem Beside.fades (h : Beside t p.bus p'.bus) (hgone : Gone t p.bus)
    (hturn : p.turn ≠ some t → p'.turn ≠ some t) : Fades t p p' where
  gone := h.gone hgone
  taken := ⟨[], by rw [h.received, List.append_nil], by rw [h.waiting, List.nil_append],
    fun _ => rfl⟩
  turn := hturn

/-- **One step** takes nothing from who is out, except for the next event in its turn. -/
theorem Pumping.Step.fades (h : Step p p') (hgone : Gone t p.bus) : Fades t p p' := by
  cases h with
  | used use => exact (use.beside hgone).fades hgone id
  | started b => exact (Beside.refl t b).fades hgone id
  | @passed b u todo out => exact (Beside.refl t b).fades hgone id
  | @entered b u todo live =>
    have hother : u ≠ t := by
      -- the turn of one who is out is not begun
      rintro rfl
      rw [hgone.not_contains] at live
      cases live
    exact (Beside.refl t b).fades hgone (fun _ => by simpa using hother)
  | @called b u todo s e rest found queue =>
    by_cases hu : u = t
    · -- the turn was going on when the subscriber was taken out
      subst hu
      refine ⟨⟨hgone.given, ?_⟩, ⟨[e], ?_, ?_, fun h => absurd rfl h⟩, id⟩
      · intro x hx
        rw [holders_handOver] at hx
        obtain ⟨y, hy, rfl⟩ := List.mem_map.mp hx
        exact hgone.out y hy
      · show receivedBy u (b.delivered ++ [(u, e)]) = _
        rw [receivedBy_append]
        exact congrArg _ (receivedBy_map u [e])
      · have hfirst := (subscriber?_eq_head? b u).symm.trans found
        simp only [waiting, subscriber?_eq_head?, holders_handOver, List.head?_map, hfirst,
          Option.map_some, Option.getD_some, queue]
        rfl
    · exact (beside_handOver hu e rest).fades hgone id
  | @reacted b b' r doing turn todo well =>
    have hbeside := hgone.beside_react r
    rw [well] at hbeside
    exact hbeside.fades hgone id
  | @failed b b' r doing turn todo fault badly =>
    have hbeside := hgone.beside_react r
    rw [badly] at hbeside
    exact hbeside.fades hgone (fun _ => by simp [idle])
  | @drained b u todo nothing => exact (Beside.refl t b).fades hgone (fun _ => by simp)

/-- **A run** takes from who is out what one step takes, again and again. -/
theorem Pumping.Run.fades (h : Run p p') (hgone : Gone t p.bus) : Fades t p p' := by
  -- Induction on the steps; a turn that is over does not come back.
  induction h with
  | refl => exact (Beside.refl t p.bus).fades hgone id
  | tail _ hstep ih =>
    have hnext := hstep.fades ih.gone
    obtain ⟨more, hreceived, hwaiting, hidle⟩ := ih.taken
    obtain ⟨again, hreceived', hwaiting', hidle'⟩ := hnext.taken
    refine ⟨hnext.gone, ⟨more ++ again, ?_, ?_, ?_⟩, fun h => hnext.turn (ih.turn h)⟩
    · rw [hreceived', hreceived, List.append_assoc]
    · rw [hwaiting, hwaiting', List.append_assoc]
    · intro hturn
      rw [hidle hturn, hidle' (ih.turn hturn), List.append_nil]

/-! ## §5. Taking a subscriber out. -/

/-- **A subscriber is taken out between two moments**, by whatever value its token equals:
from outside, or by the handler that was called last. -/
structure Unsubscribes (v : Json) (p p' : Pumping α) : Prop where
  returned : p.bus.unsubscribeAt v = (p'.bus, .ok ())
  turn : p'.turn = p.turn
  todo : p'.todo = p.todo

/-- Who is taken out is out. -/
theorem Unsubscribes.gone {v : Json} (h : Unsubscribes v p p') (hv : v.same (.int t) = true)
    (hgiven : t < p.bus.nextToken) : Gone t p'.bus := by
  have hbus := unsubscribeAt_eq p.bus v
  rw [h.returned] at hbus
  have hkey : v.isKey = true := by
    cases v with
    | arr items => simp [Json.same, Json.number?] at hv
    | obj fields => simp [Json.same, Json.number?] at hv
    | _ => rfl
  simp only at hbus
  refine ⟨?_, ?_⟩
  · rw [hbus]
    exact hgiven
  · intro s hs
    rw [hbus] at hs
    obtain ⟨hmem, htoken⟩ := List.mem_filter.mp hs
    obtain ⟨x, _, rfl⟩ := List.mem_map.mp hmem
    have hx : x.token = t := beq_iff_eq.mp htoken
    simp [Subscriber.leaving, hx, hkey, hv]

/-- **After unsubscribing.**  Let a token that was given out be unsubscribed at some moment
of a bus, and let things go on from there.  What its handler is called with from then on was
queued for it at that moment, and it is called only if it was in the middle of its own turn;
once that turn is over it is not called again.  Pumps go on in the same steps. -/
theorem out_of_turn {t : Nat} {v : Json} (hv : v.same (.int t) = true) :
    (∀ (before now later last : Pumping α), t < before.bus.nextToken →
      Unsubscribes v before now → Run now later → Run later last →
      (∃ more, later.bus.received t = before.bus.received t ++ more
        ∧ more <+: before.bus.waiting t ∧ (before.turn ≠ some t → more = []))
      ∧ (later.turn ≠ some t → last.bus.received t = later.bus.received t))
    ∧ ∀ (fuel : Nat) (b : EventBus α), ∃ p, Run (begun b) p ∧ p.bus = (b.pump fuel).1
      ∧ ((b.pump fuel).2 ≠ .unfinished → p = idle (b.pump fuel).1) := by
  refine ⟨?_, exists_run_pump⟩
  intro before now later last hgiven hleft hrun hrest
  have hgone := hleft.gone hv hgiven
  have hfades := hrun.fades hgone
  -- unsubscribing itself neither calls a handler nor takes an event off a queue
  have hbus := unsubscribeAt_eq before.bus v
  rw [hleft.returned] at hbus
  simp only at hbus
  have hreceived : now.bus.received t = before.bus.received t := by rw [hbus, received, received]
  have hwaiting : now.bus.waiting t = before.bus.waiting t := by
    rw [hbus]
    simp only [waiting, subscriber?, List.find?_map]
    rw [show ((fun s : Subscriber α => s.token == t) ∘ Subscriber.leaving v)
      = (fun s => s.token == t) from rfl]
    cases List.find? (fun s : Subscriber α => s.token == t) before.bus.subscribers <;> rfl
  obtain ⟨more, hmore, hqueue, hidle⟩ := hfades.taken
  refine ⟨⟨more, ?_, ?_, ?_⟩, ?_⟩
  · rw [hmore, hreceived]
  · rw [← hwaiting, hqueue]
    exact List.prefix_append more _
  · rw [← hleft.turn]
    exact hidle
  · intro hturn
    obtain ⟨none, hnone, _, hover⟩ := (hrest.fades hfades.gone).taken
    rw [hnone, hover hturn, List.append_nil]

/-- A bus with a subscriber that takes itself out when it is called, and two events. -/
def shyBus : EventBus Nat :=
  let b := (({} : EventBus Nat).subscribe .every .unbounded
    (fun _ => [.unsubscribe (.int 1)])).1
  ((b.publish .null 7).1.publish .null 8).1

/-- The bus when the first event has been handed over. -/
def shyBus' : EventBus Nat := shyBus.handOver 1 7 [8]

/-- The bus when its subscriber is out. -/
def shyBus'' : EventBus Nat := (shyBus'.unsubscribeAt (.int 1)).1

theorem out_of_turn_shy :
    (∃ more, ((shyBus''.handOver 1 8 []).unsubscribeAt (.int 1)).1.received 1
        = shyBus'.received 1 ++ more ∧ more <+: [8])
      ∧ ∃ p, Run (begun shyBus) p ∧ p = idle (shyBus.pump 2).1 := by
  obtain ⟨hafter, hpump⟩ := out_of_turn (α := Nat) (t := 1) (v := .int 1) (by decide)
  constructor
  · have hcall : Run ⟨shyBus'', [], some 1, []⟩
        ⟨((shyBus''.handOver 1 8 []).unsubscribeAt (.int 1)).1, [], some 1, []⟩ :=
      .head (.called rfl rfl) (.single (.reacted rfl))
    obtain ⟨⟨more, hreceived, hqueue, _⟩, _⟩ :=
      hafter ⟨shyBus', [.unsubscribe (.int 1)], some 1, []⟩ ⟨shyBus'', [], some 1, []⟩ _ _
        (by decide) ⟨rfl, rfl, rfl⟩ hcall .refl
    exact ⟨more, hreceived, hqueue⟩
  · obtain ⟨p, hrun, _, hidle⟩ := hpump 2 shyBus
    exact ⟨p, hrun, hidle nofun⟩

/-- A subscriber that takes itself out at its first event is called with the second one. -/
theorem called_although_out :
    (shyBus.deliver? 1).map (fun r => (r.1.tokens, r.1.received 1)) = some ([], [7])
      ∧ (shyBus.pump 2).1.received 1 = [7, 8] := by
  decide

end EventBus
end FlowTrace
