/-
  FlowTrace.Event.Bus
  ────────────────────────────────
  **THE EVENT BUS.**

  Publishing puts an event into the queue of every subscriber whose filter
  admits it; pumping hands queued events to the handlers.  A bounded queue
  that is full loses its oldest event.

  A filter or a bound that is of no use to the queue is found out when an event
  is offered: the event goes to the subscribers before that one only.

  A handler may take subscribers out, publish, or fail.  A failure ends the
  pump and costs only the event at hand.  Draining a queue goes on when its
  own subscriber is taken out meanwhile; a subscriber that is out before its
  turn has no turn.
-/
import FlowTrace.Json.Access
import FlowTrace.Text.Search

namespace FlowTrace

/-! ## §1. Filters and bounds. -/

/-- Which categories a subscriber takes. -/
inductive CategoryFilter where
  | every
  /-- Those in a list. -/
  | oneOf (categories : List Json)
  /-- Those whose text stands in a text. -/
  | partOf (text : String)
  /-- Those that are keys of an object. -/
  | keyOf (fields : List (String × Json))
  /-- No use as a filter. -/
  | unusable
  deriving Repr, Inhabited

namespace CategoryFilter

/-- The filter that a value is; one that does not count as given takes every
category. -/
def ofValue (v : Json) : CategoryFilter :=
  if !v.truthy then every
  else
    match v with
    | .arr items => oneOf items
    | .str s => partOf s
    | .obj fields => keyOf fields
    | _ => unusable

/-- Does the filter admit a category? -/
def admits (category : Json) : CategoryFilter → Except Fault Bool
  | every => .ok true
  | oneOf categories => .ok (categories.any (fun c => c.sameItem category))
  | partOf text =>
      match category with
      | .str s => .ok (FlowTrace.contains text s)
      | _ => .error .badKind
  | keyOf fields => (category.toKey).map (fun k => fields.any (fun f => k.same f.1))
  | unusable => .error .badKind

end CategoryFilter

/-- How long a queue may get. -/
inductive QueueBound where
  | unbounded
  | atMost (n : Nat)
  /-- No use as a bound. -/
  | unusable
  deriving Repr, Inhabited

namespace QueueBound

/-- The bound that a value is: a number, rounded up.  One that is not positive is
none, and so are infinity and not-a-number. -/
def ofValue (v : Json) : QueueBound :=
  match v.number? with
  | none => unusable
  | some n =>
      match Json.ratio? n with
      | some (num, den) => if 0 < num then atMost (Json.ceiling num den) else unbounded
      | none => unbounded

end QueueBound

/-! ## §2. Subscribers. -/

/-- What a handler does beyond taking note of an event. -/
inductive Reaction (α : Type) where
  | unsubscribe (token : Json)
  | publish (category : Json) (event : α)
  | fail
  deriving Repr

/-- A subscriber.  Its handler is known by how it reacts. -/
structure Subscriber (α : Type) where
  token : Nat
  filter : CategoryFilter := .every
  bound : QueueBound := .atMost 256
  handler : α → List (Reaction α) := fun _ => []
  queue : List α := []
  active : Bool := true

/-- An event bus: the subscribers by token, and every delivery so far. -/
structure EventBus (α : Type) where
  subscribers : List (Subscriber α) := []
  nextToken : Nat := 1
  delivered : List (Nat × α) := []
  /-- Is the background dispatcher running? -/
  running : Bool := false

instance {α : Type} : Inhabited (EventBus α) := ⟨{}⟩

/-- How a pump ends. -/
inductive PumpEnd where
  | done
  | failed (fault : Fault)
  | unfinished
  deriving Repr

variable {α : Type}

namespace Subscriber

/-- Queue an event; a full queue loses its oldest one. -/
def push (s : Subscriber α) (event : α) : Except Fault (Subscriber α) :=
  match s.bound with
  | .unbounded => .ok { s with queue := s.queue ++ [event] }
  | .atMost n =>
      .ok { s with queue := (if n ≤ s.queue.length then s.queue.drop 1 else s.queue) ++ [event] }
  | .unusable => .error .badKind

/-- Queue an event if the subscriber is in and its filter admits the category. -/
def offer (s : Subscriber α) (category : Json) (event : α) : Except Fault (Subscriber α) := do
  if s.active then
    if ← s.filter.admits category then s.push event else pure s
  else pure s

/-- Offer an event to subscribers in turn, up to the first to whom it cannot be
offered. -/
def offerAll (category : Json) (event : α) :
    List (Subscriber α) → List (Subscriber α) × Except Fault Unit
  | [] => ([], .ok ())
  | s :: rest =>
      match s.offer category event with
      | .error f => (s :: rest, .error f)
      | .ok s =>
          let r := offerAll category event rest
          (s :: r.1, r.2)

end Subscriber

/-! ## §3. Subscribing and publishing. -/

namespace EventBus

/-- Add a subscriber.  Tokens are not used again. -/
def subscribe (b : EventBus α) (filter : CategoryFilter) (bound : QueueBound)
    (handler : α → List (Reaction α)) : EventBus α × Nat :=
  ({ b with
      subscribers := b.subscribers ++
        [{ token := b.nextToken, filter := filter, bound := bound, handler := handler }]
      nextToken := b.nextToken + 1 },
    b.nextToken)

/-- Change the subscriber with a token. -/
def modify (b : EventBus α) (token : Nat) (f : Subscriber α → Subscriber α) : EventBus α :=
  { b with subscribers := b.subscribers.map (fun s => if s.token = token then f s else s) }

/-- Take a subscriber out. -/
def unsubscribe (b : EventBus α) (token : Nat) : EventBus α :=
  b.modify token (fun s => { s with active := false })

/-- The tokens of the subscribers that are in, in the order of subscription. -/
def tokens (b : EventBus α) : List Nat :=
  (b.subscribers.filter Subscriber.active).map Subscriber.token

/-- Take out the subscriber whose token equals a value.  What is no key cannot be
looked for if there are subscribers. -/
def unsubscribeAt (b : EventBus α) (token : Json) : EventBus α × Except Fault Unit :=
  if token.isKey || b.tokens.isEmpty then
    match b.tokens.find? (fun (t : Nat) => token.same (.int t)) with
    | some t => (b.unsubscribe t, .ok ())
    | none => (b, .ok ())
  else (b, .error .badKind)

/-- Queue an event for every subscriber that admits its category. -/
def publish (b : EventBus α) (category : Json) (event : α) : EventBus α × Except Fault Unit :=
  let r := Subscriber.offerAll category event b.subscribers
  ({ b with subscribers := r.1 }, r.2)

/-- The subscriber with a token. -/
def subscriber? (b : EventBus α) (token : Nat) : Option (Subscriber α) :=
  b.subscribers.find? (fun s => s.token == token)

/-- The number of queued events. -/
def queued (b : EventBus α) : Nat := (b.subscribers.flatMap Subscriber.queue).length

/-! ## §4. Pumping. -/

/-- Carry out what a handler does, up to the first thing that fails. -/
def react (b : EventBus α) : List (Reaction α) → EventBus α × Except Fault Unit
  | [] => (b, .ok ())
  | .unsubscribe t :: rest =>
      match b.unsubscribeAt t with
      | (b, .ok _) => react b rest
      | r => r
  | .publish c e :: rest =>
      match b.publish c e with
      | (b, .ok _) => react b rest
      | r => r
  | .fail :: _ => (b, .error .callback)

/-- Hand the oldest queued event of a subscriber to its handler; `none` if its
queue is empty. -/
def deliver? (b : EventBus α) (token : Nat) : Option (EventBus α × Except Fault Unit) :=
  match b.subscriber? token with
  | none => none
  | some s =>
      match s.queue with
      | [] => none
      | event :: rest =>
          let b := b.modify token (fun s => { s with queue := rest })
          some ({ b with delivered := b.delivered ++ [(token, event)] }.react (s.handler event))

/-- Deliver until a subscriber's queue is empty, at most `fuel` events. -/
def drain : Nat → EventBus α → Nat → EventBus α × PumpEnd
  | 0, b, token => (b, if (b.deliver? token).isNone then .done else .unfinished)
  | fuel + 1, b, token =>
      match b.deliver? token with
      | none => (b, .done)
      | some (b, .ok _) => drain fuel b token
      | some (b, .error f) => (b, .failed f)

/-- Drain the queues of the subscribers with these tokens that are still in. -/
def drainAll (fuel : Nat) : EventBus α → List Nat → EventBus α × PumpEnd
  | b, [] => (b, .done)
  | b, token :: rest =>
      if b.tokens.contains token then
        match drain fuel b token with
        | (b, .done) => drainAll fuel b rest
        | r => r
      else drainAll fuel b rest

/-- Hand every queued event to its handler.  Subscribers that come in meanwhile
wait for the next pump.  Handlers that keep publishing may never come to an
end, so each queue delivers at most `fuel` events. -/
def pump (fuel : Nat) (b : EventBus α) : EventBus α × PumpEnd := drainAll fuel b b.tokens

/-! ## §5. The background dispatcher. -/

/-- Start the background dispatcher. -/
def start (b : EventBus α) : EventBus α := { b with running := true }

/-- Stop the background dispatcher, which pumps once more before it ends. -/
def stop (fuel : Nat) (b : EventBus α) : EventBus α :=
  if b.running then { (b.pump fuel).1 with running := false } else b

end EventBus
end FlowTrace
