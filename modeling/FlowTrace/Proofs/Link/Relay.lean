/-
  FlowTrace.Proofs.Link.Relay
  ────────────────────────────────
  **TALKING THROUGH A RELAY.**

  A link that has numbered commands before goes on from where it was; a new link begins
  at one.  Let the new link talk to the same host through a relay, which adds what is
  missing to the numbers of the commands and takes it off those of the replies:

      command n    →  relay  →  command n + d
      reply to n   ←  relay  ←  reply to n + d

  Then the two links go through the same states, up to the numbers and to what the older
  one has behind it.
-/
import FlowTrace.Proofs.Link.Bare
import FlowTrace.Proofs.Link.Junk
import FlowTrace.Proofs.Simulation

namespace FlowTrace

/-! ## §1. Numbers that are moved. -/

namespace Json

/-- The whole number that a value is equal to. -/
def whole? (v : Json) : Option Int :=
  match v.number? with
  | some (.inl n) => some n
  | some (.inr x) => x.toInt?
  | none => none

theorem same_int_iff (v : Json) (n : Int) : v.same (.int n) = (v.whole? == some n) := by
  rw [same_int]
  unfold whole? sameNumber
  cases v.number? with
  | none => rfl
  | some x => cases x <;> rfl

/-- A value that is equal to a whole number becomes a lower one. -/
def lower (d : Nat) (v : Json) : Json :=
  match v.whole? with
  | some n => .int (n - d)
  | none => v

/-- The lower value is equal to a number exactly if the value is to a higher one. -/
theorem lower_same (d : Nat) (v : Json) (n : Int) :
    (v.lower d).same (.int n) = v.same (.int (n + d)) := by
  unfold lower
  cases hv : v.whole? with
  | none => simp [same_int_iff, hv]
  | some m =>
    simp only [same_int_iff, hv]
    show (some (m - (d : Int)) == some n) = (some m == some (n + (d : Int)))
    have hiff : m - (d : Int) = n ↔ m = n + (d : Int) := by omega
    exact Bool.eq_iff_iff.mpr (by simpa using hiff)

theorem lower_isKey (d : Nat) (v : Json) : (v.lower d).isKey = v.isKey := by
  unfold lower
  cases hv : v.whole? with
  | none => rfl
  | some n =>
    cases v with
    | arr items => cases hv
    | obj fields => cases hv
    | _ => rfl

end Json

/-- The command with a higher number. -/
def Envelope.raise (d : Nat) (e : Envelope) : Envelope := { e with id := e.id + d }

def Pending.raise (d : Nat) (p : Pending) : Pending := { p with id := p.id + d }

def Signal.raise (d : Nat) : Signal → Signal
  | .completed id outcome => .completed (id + d) outcome
  | s => s

def Traffic.raise (d : Nat) : Traffic → Traffic
  | .sent e => .sent (e.raise d)
  | t => t

namespace Fields

/-- The reply with a lower id. -/
def lowerId (d : Nat) (m : List (String × Json)) : List (String × Json) :=
  m.map (fun e => if e.1 = "id" then (e.1, e.2.lower d) else e)

theorem get?_lowerId (d : Nat) (m : List (String × Json)) (key : String) : get? (lowerId d m) key
    = if key = "id" then (get? m key).map (Json.lower d) else get? m key := by
  unfold get? lowerId
  induction m with
  | nil => simp
  | cons e rest ih =>
    obtain ⟨k, v⟩ := e
    by_cases hk : k = "id"
    · subst hk
      by_cases hkey : key = "id"
      · subst hkey
        simp
      · have hne : (key == "id") = false := by simpa using hkey
        simp only [List.map_cons, if_true, List.lookup_cons, hne] at ih ⊢
        exact ih
    · simp only [List.map_cons, if_neg hk, List.lookup_cons]
      by_cases hkey : key = k
      · subst hkey
        simp [hk]
      · have hne : (key == k) = false := by simpa using hkey
        rw [hne]
        exact ih

theorem contains_lowerId (d : Nat) (m : List (String × Json)) (key : String) :
    contains (lowerId d m) key = contains m key := by
  unfold contains
  rw [get?_lowerId]
  split <;> simp

theorem field_lowerId {key : String} (d : Nat) (m : List (String × Json)) (hkey : key ≠ "id") :
    Json.field (lowerId d m) key = Json.field m key := by
  unfold Json.field
  rw [get?_lowerId, if_neg hkey]

/-- An id that is absent stays absent, and is equal to no number. -/
theorem field_lowerId_id (d : Nat) (m : List (String × Json)) :
    Json.field (lowerId d m) "id" = (Json.field m "id").lower d := by
  unfold Json.field
  rw [get?_lowerId, if_pos rfl]
  cases get? m "id" <;> rfl

end Fields

/-- A frame with fields spells an object. -/
theorem Frame.value?_of_fields? {frame : Frame} {m : List (String × Json)}
    (h : frame.fields? = some m) : frame.value? = some (.obj m) := by
  have hobj : ∀ {v : Json}, v.fields? = some m → v = .obj m := by
    intro v hv
    cases v with
    | obj m' => exact congrArg Json.obj (Option.some.inj hv)
    | _ => cases hv
  cases frame with
  | message v => exact congrArg some (hobj h)
  | text t room =>
    obtain ⟨v, hread, hv⟩ := Option.bind_eq_some_iff.mp h
    exact hread.trans (congrArg some (hobj hv))
  | ended => cases h
  | broken b => cases h

/-- A reply with a lower number; any other frame is passed on as it is. -/
def Frame.lower (d : Nat) (frame : Frame) : Frame :=
  match frame.fields? with
  | some m => if Fields.contains m "method" then frame else .message (.obj (Fields.lowerId d m))
  | none => frame

/-! ## §2. Relays. -/

/-- A host that is talked to through a relay. -/
structure Relay (ε : Type) where
  shift : Nat
  host : ε

namespace Relay

variable {ε : Type}

/-- The host has changed. -/
def turned (r : Relay ε) (host : ε) : Relay ε := { r with host := host }

instance [Endpoint ε] : Endpoint (Relay ε) where
  connect r url :=
    let a := Endpoint.connect r.host url
    (a.1, r.turned a.2)
  send r k e :=
    let a := Endpoint.send r.host k (e.raise r.shift)
    (a.1, r.turned a.2)
  receive r k :=
    let a := Endpoint.receive r.host k
    (a.1.map (Frame.lower r.shift), r.turned a.2)
  close r k :=
    let a := Endpoint.close r.host k
    (a.1, r.turned a.2)

end Relay

/-- One endpoint is a relay's view of the other, as long as they are in related states. -/
structure Relays {ε ε' : Type} [Endpoint ε] [Endpoint ε'] (d : Nat) (H : ε → ε' → Prop) :
    Prop where
  connect : ∀ {h h'} url, H h h' → (Endpoint.connect h url).1 = (Endpoint.connect h' url).1 ∧
    H (Endpoint.connect h url).2 (Endpoint.connect h' url).2
  send : ∀ {h h'} k e, H h h' →
    (Endpoint.send h k (e.raise d)).1 = (Endpoint.send h' k e).1 ∧
      H (Endpoint.send h k (e.raise d)).2 (Endpoint.send h' k e).2
  receive : ∀ {h h'} k, H h h' →
    (Endpoint.receive h' k).1 = (Endpoint.receive h k).1.map (Frame.lower d) ∧
      H (Endpoint.receive h k).2 (Endpoint.receive h' k).2
  close : ∀ {h h'} k, H h h' → (Endpoint.close h k).1 = (Endpoint.close h' k).1 ∧
    H (Endpoint.close h k).2 (Endpoint.close h' k).2

/-- The second is the first one behind a relay, each with a record of its own. -/
def BehindRelay {ε : Type} (d : Nat) (h : Recorded ε) (h' : Recorded (Relay ε)) : Prop :=
  h'.host = { shift := d, host := h.host }

theorem relays_behindRelay {ε : Type} [Endpoint ε] (d : Nat) :
    Relays d (BehindRelay (ε := ε) d) where
  connect {h h'} url hrel := by
    obtain ⟨host', _⟩ := h'
    obtain rfl : host' = { shift := d, host := h.host } := hrel
    exact ⟨rfl, rfl⟩
  send {h h'} k e hrel := by
    obtain ⟨host', _⟩ := h'
    obtain rfl : host' = { shift := d, host := h.host } := hrel
    exact ⟨rfl, rfl⟩
  receive {h h'} k hrel := by
    obtain ⟨host', _⟩ := h'
    obtain rfl : host' = { shift := d, host := h.host } := hrel
    exact ⟨rfl, rfl⟩
  close {h h'} k hrel := by
    obtain ⟨host', _⟩ := h'
    obtain rfl : host' = { shift := d, host := h.host } := hrel
    exact ⟨rfl, rfl⟩

end FlowTrace
