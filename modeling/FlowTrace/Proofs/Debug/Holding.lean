/-
  FlowTrace.Proofs.Debug.Holding
  ────────────────────────────────
  **WHAT THE HOST HOLDS ARMED.**

  A host keeps, for each connection, the breakpoints that it has armed: under an id of
  its choice, a place.  It says so in its answers, so what it holds can be read off the
  conversation:

      a command to arm, granted      — one more, under the id in the answer
      a command to disarm, granted   — the one with that id is gone
      either of them, refused        — nothing changes
      a new connection, or a loss    — nothing is held

  Commands may be answered in any order.  Until all of them are, the link owes the
  difference: what is held is what was held before, and what every answer has brought.
-/
import FlowTrace.Proofs.Debug.Registry
import FlowTrace.Proofs.Link.Bare
import Mathlib.Data.List.Nodup

namespace FlowTrace

/-! ## §1. Commands to arm and to disarm. -/

namespace Envelope

/-- Is it a command to arm a breakpoint? -/
def arms (e : Envelope) : Bool := e.asks "Debugger.setBreakpointByUrl"

/-- Is it a command to disarm one? -/
def disarms (e : Envelope) : Bool := e.asks "Debugger.removeBreakpoint"

/-- Does it leave alone what is armed? -/
def Passive (e : Envelope) : Prop := e.arms = false ∧ e.disarms = false

/-- A parameter of the command. -/
def param (e : Envelope) (key : String) : Json := Json.field (e.params.fields?.getD []) key

/-- The breakpoint that a command to arm is about, under an id. -/
def under (e : Envelope) (id : Json) : Armed :=
  { id := id, url := e.param "url", line := e.param "lineNumber" }

end Envelope

/-- The id that a result grants, null if it grants none. -/
def grantedId (result : Json) : Json := Json.field (result.fields?.getD []) "breakpointId"

/-- An id that is granted is the one that is read off the result. -/
theorem get_of_granted {result : Json} (h : grantedId result ≠ .null) :
    result.get "breakpointId" = .ok (grantedId result) := by
  cases result with
  | obj fields => rfl
  | _ => exact absurd rfl h

/-- The response that was received, if it was one. -/
def Exchange.response? : Exchange → Option (List (String × Json))
  | received _ frame =>
      frame.fields?.filter (fun m => !Fields.contains m "method" && Fields.contains m "id")
  | _ => none

theorem Exchange.response?_some {k : Nat} {frame : Frame} {m : List (String × Json)}
    (hfields : frame.fields? = some m) (h : IsResponse m) : (received k frame).response? = some m := by
  unfold response?
  simp [hfields, h.1, h.2]

theorem Exchange.response?_none {k : Nat} {frame : Frame}
    (h : ∀ m, frame.fields? = some m → ¬ IsResponse m) : (received k frame).response? = none := by
  show frame.fields?.filter _ = none
  rw [Option.filter_eq_none_iff]
  intro m hm hresponse
  exact h m hm (by simpa [IsResponse] using hresponse)

/-! ## §2. The other side. -/

/-- What the host holds armed on the current connection, and the commands to arm and to
disarm that it has not answered. -/
structure Holding where
  waiting : List Envelope := []
  armed : List Armed := []

namespace Holding

/-- The command that a response answers. -/
def answered? (h : Holding) (m : List (String × Json)) : Option Envelope :=
  h.waiting.find? (fun e => (Json.field m "id").same (.int e.id))

/-- What is held once a command has its answer. -/
def settle (armed : List Armed) (e : Envelope) : Outcome → List Armed
  | .error _ => armed
  | .ok result =>
      if e.arms then armed ++ [e.under (grantedId result)]
      else armed.filter (fun a => a.id ≠ e.param "breakpointId")

/-- The holding after an exchange. -/
def next (h : Holding) (x : Exchange) : Holding :=
  match x with
  | .dialled _ => {}
  | .closed _ _ => {}
  | .sent _ e _ => if e.arms || e.disarms then { h with waiting := h.waiting ++ [e] } else h
  | .received _ _ =>
      match x.response?.bind (fun m => (h.answered? m).map (fun e => (m, e))) with
      | some (m, e) =>
          { waiting := h.waiting.filter (fun e' => e'.id ≠ e.id)
            armed := settle h.armed e (Link.replyOutcome e.method m) }
      | none => h

/-- A result grants an id that is not null and that nothing is held under. -/
def Grants (h : Holding) : Outcome → Prop
  | .ok result => grantedId result ≠ .null ∧ ∀ a ∈ h.armed, a.id ≠ grantedId result
  | .error _ => True

/-- If the exchange answers a command to arm, then by a refusal or a grant. -/
def Fair (h : Holding) (x : Exchange) : Prop :=
  ∀ m ∈ x.response?, ∀ e ∈ h.answered? m, e.arms = true → h.Grants (Link.replyOutcome e.method m)

instance (h : Holding) (r : Outcome) : Decidable (h.Grants r) := by
  cases r <;> unfold Grants <;> infer_instance

instance (h : Holding) (x : Exchange) : Decidable (h.Fair x) := by
  unfold Fair; infer_instance

/-- Every answer from some holding on is fair. -/
def FairFrom : Holding → List Exchange → Prop
  | _, [] => True
  | h, x :: rest => h.Fair x ∧ FairFrom (h.next x) rest

instance decidableFairFrom : ∀ (h : Holding) (xs : List Exchange), Decidable (FairFrom h xs)
  | _, [] => .isTrue trivial
  | h, x :: rest =>
      let _ := decidableFairFrom (h.next x) rest
      inferInstanceAs (Decidable (h.Fair x ∧ FairFrom (h.next x) rest))

theorem fairFrom_append {xs ys : List Exchange} : ∀ {h : Holding},
    FairFrom h (xs ++ ys) ↔ FairFrom h xs ∧ FairFrom (xs.foldl next h) ys := by
  induction xs with
  | nil => exact fun {h} => ⟨fun hys => ⟨trivial, hys⟩, fun hboth => hboth.2⟩
  | cons x xs ih =>
    intro h
    show h.Fair x ∧ FairFrom (h.next x) (xs ++ ys) ↔ (h.Fair x ∧ FairFrom (h.next x) xs) ∧ _
    rw [ih, and_assoc]
    rfl

variable {h : Holding} {x : Exchange}

theorem answered?_some {m : List (String × Json)} {e : Envelope} (he : h.answered? m = some e) :
    e ∈ h.waiting ∧ Answers m e.id := by
  unfold answered? at he
  have hanswers : (Json.field m "id").same (.int e.id) = true := by
    simpa using List.find?_some he
  exact ⟨List.mem_of_find?_eq_some he, hanswers⟩

/-- An exchange that is no response changes nothing. -/
theorem next_received {k : Nat} {frame : Frame}
    (hnone : (Exchange.received k frame).response? = none) : h.next (.received k frame) = h := by
  unfold next
  rw [hnone]
  rfl

/-- Nor does a response to none of the commands that wait. -/
theorem next_unanswered {k : Nat} {frame : Frame} {m : List (String × Json)}
    (hm : (Exchange.received k frame).response? = some m) (hnone : h.answered? m = none) :
    h.next (.received k frame) = h := by
  unfold next
  simp [hm, hnone]

theorem next_answered {k : Nat} {frame : Frame} {m : List (String × Json)} {e : Envelope}
    (hm : (Exchange.received k frame).response? = some m) (he : h.answered? m = some e) :
    h.next (.received k frame) =
      { waiting := h.waiting.filter (fun e' => e'.id ≠ e.id)
        armed := settle h.armed e (Link.replyOutcome e.method m) } := by
  unfold next
  simp [hm, he]

theorem next_passive {k : Nat} {e : Envelope} {a : Except Breakdown Unit} (hpassive : e.Passive) :
    h.next (.sent k e a) = h := by
  show (if (e.arms || e.disarms) = true then _ else h) = h
  rw [hpassive.1, hpassive.2]
  rfl

end Holding

/-- What is held after a conversation. -/
def holding (xs : List Exchange) : Holding := xs.foldl Holding.next {}

theorem holding_concat (xs : List Exchange) (x : Exchange) :
    holding (xs ++ [x]) = (holding xs).next x := by
  unfold holding
  rw [List.foldl_append]
  rfl

/-- Every answer in the conversation is fair. -/
def Fairly (xs : List Exchange) : Prop := Holding.FairFrom {} xs

instance (xs : List Exchange) : Decidable (Fairly xs) := Holding.decidableFairFrom {} xs

theorem Fairly.of_prefix {xs ys : List Exchange} (h : Fairly ys) (hbegin : xs <+: ys) :
    Fairly xs := by
  obtain ⟨rest, rfl⟩ := hbegin
  exact (Holding.fairFrom_append.mp h).1

theorem Fairly.last {xs : List Exchange} {x : Exchange} (h : Fairly (xs ++ [x])) :
    (holding xs).Fair x := (Holding.fairFrom_append.mp h).2.1

/-! ## §3. What is owed. -/

/-- A command in flight: to arm, or to disarm a breakpoint that is held. -/
inductive Owed where
  | arm (e : Envelope)
  | disarm (e : Envelope) (x : Armed)

namespace Owed

def envelope : Owed → Envelope
  | arm e => e
  | disarm e _ => e

/-- What is held of the command once it has an outcome, or while it has none. -/
def yield : Owed → Option Outcome → List Armed
  | arm e, some (.ok result) => [e.under (grantedId result)]
  | arm _, _ => []
  | disarm _ _, some (.ok _) => []
  | disarm _ x, _ => [x]

/-- The command is what it is meant to be. -/
def Apt : Owed → Prop
  | arm e => e.arms = true
  | disarm e x => e.arms = false ∧ e.disarms = true ∧ e.param "breakpointId" = x.id

/-- The command was refused, or granted with an id if it is one to arm. -/
def Answered (o : Owed) : Outcome → Prop
  | .ok result => o.envelope.arms = true → grantedId result ≠ .null
  | .error f => ∃ method code data detail, f = .refused method code data detail

end Owed

/-- What an answer does to what is held. -/
theorem Owed.settle {o : Owed} (hapt : o.Apt) {armed rest : List Armed}
    (harmed : armed.Perm (rest ++ o.yield none)) (hdistinct : (armed.map (·.id)).Nodup)
    {r : Outcome}
    (hfresh : o.envelope.arms = true → ∀ result, r = .ok result →
      ∀ a ∈ armed, a.id ≠ grantedId result) :
    (Holding.settle armed o.envelope r).Perm (rest ++ o.yield (some r)) ∧
      ((Holding.settle armed o.envelope r).map (·.id)).Nodup := by
  cases o with
  | arm e =>
    cases r with
    | error f => exact ⟨harmed, hdistinct⟩
    | ok result =>
      have harms : e.arms = true := hapt
      show (if e.arms then armed ++ [e.under (grantedId result)] else _).Perm
          (rest ++ [e.under (grantedId result)]) ∧
        ((if e.arms then armed ++ [e.under (grantedId result)] else _).map (·.id)).Nodup
      rw [if_pos harms]
      refine ⟨(harmed.trans (.of_eq (List.append_nil rest))).append_right _, ?_⟩
      rw [List.map_append, List.nodup_append]
      refine ⟨hdistinct, by simp, ?_⟩
      intro id hid id' hid'
      obtain ⟨a, ha, rfl⟩ := List.mem_map.mp hid
      obtain rfl : id' = grantedId result := List.mem_singleton.mp hid'
      exact hfresh harms result rfl a ha
  | disarm e x =>
    obtain ⟨harms, _, hparam⟩ := hapt
    cases r with
    | error f => exact ⟨harmed, hdistinct⟩
    | ok result =>
      have hsettle : Holding.settle armed e (.ok result) = armed.filter (fun a => a.id ≠ x.id) := by
        show (if e.arms then _ else armed.filter (fun a => a.id ≠ e.param "breakpointId")) = _
        rw [if_neg (by simp [harms]), hparam]
      -- nothing else is held under the id
      have hothers : ∀ a ∈ rest, a.id ≠ x.id := by
        have hnodup := (harmed.map (·.id)).nodup_iff.mp hdistinct
        rw [List.map_append, List.nodup_append] at hnodup
        exact fun a ha => hnodup.2.2 a.id (List.mem_map_of_mem ha) x.id (by simp [yield])
      show (Holding.settle armed e (.ok result)).Perm (rest ++ []) ∧ _
      refine ⟨?_, ?_⟩
      · rw [hsettle, List.append_nil]
        refine (harmed.filter _).trans (.of_eq ?_)
        rw [List.filter_append, List.filter_eq_self.mpr (by simpa using hothers)]
        simp [yield]
      · show ((Holding.settle armed e (.ok result)).map (·.id)).Nodup
        rw [hsettle]
        exact hdistinct.sublist (List.filter_sublist.map _)

/-- A response that is no success is a refusal. -/
theorem Link.replyOutcome_refused {method : Json} {m : List (String × Json)} {f : Fault}
    (h : replyOutcome method m = .error f) :
    ∃ method' code data detail, f = .refused method' code data detail := by
  unfold replyOutcome at h
  split at h
  · obtain rfl := Except.error.inj h
    exact ⟨_, _, _, _, rfl⟩
  · cases h

/-- A command that ends has its outcome from then on. -/
theorem Link.outcome?_complete (l : Link) (id id' : Nat) (r : Outcome) :
    (l.complete id r).outcome? id' = (l.outcome? id').or (if id' = id then some r else none) := by
  show (l.outcomes ++ [(id, r)]).lookup id' = _
  rw [List.lookup_append]
  unfold outcome?
  rw [List.lookup_cons, List.lookup_nil]
  by_cases hid : id' = id
  · rw [if_pos hid, beq_iff_eq.mpr hid]
  · rw [if_neg hid, beq_eq_false_iff_ne.mpr hid]

variable {base : List Armed} {owed : List Owed} {h : Holding} {l l' : Link}

/-- **The balance**: what is held is the base, and what each command has brought.  The
commands that wait for an answer are those without an outcome. -/
structure Owes (base : List Armed) (owed : List Owed) (h : Holding) (l : Link) : Prop where
  apt : ∀ o ∈ owed, o.Apt
  numbered : ∀ o ∈ owed, o.envelope.id < l.nextId
  apart : (owed.map (fun o => o.envelope.id)).Nodup
  waiting : h.waiting
    = (owed.filter (fun o => (l.outcome? o.envelope.id).isNone)).map Owed.envelope
  pending : ∀ e ∈ h.waiting, ∃ p ∈ l.pending, p.id = e.id ∧ p.method = e.method
  answered : ∀ o ∈ owed, ∀ r, l.outcome? o.envelope.id = some r → o.Answered r
  armed : h.armed.Perm (base ++ owed.flatMap (fun o => o.yield (l.outcome? o.envelope.id)))
  distinct : (h.armed.map (·.id)).Nodup

namespace Owes

/-- A command that waits is one of those owed, without an outcome. -/
theorem of_waiting (ho : Owes base owed h l) {e : Envelope} (he : e ∈ h.waiting) :
    ∃ o ∈ owed, o.envelope = e ∧ l.outcome? e.id = none := by
  rw [ho.waiting] at he
  obtain ⟨o, hmem, rfl⟩ := List.mem_map.mp he
  obtain ⟨hin, hnone⟩ := List.mem_filter.mp hmem
  exact ⟨o, hin, rfl, Option.isNone_iff_eq_none.mp hnone⟩

theorem waits (ho : Owes base owed h l) {o : Owed} (hin : o ∈ owed)
    (hnone : l.outcome? o.envelope.id = none) : o.envelope ∈ h.waiting := by
  rw [ho.waiting]
  exact List.mem_map_of_mem (List.mem_filter.mpr ⟨hin, by rw [hnone]; rfl⟩)

/-- Commands with one number are one command. -/
theorem same (ho : Owes base owed h l) {o o' : Owed} (hin : o ∈ owed) (hin' : o' ∈ owed)
    (hid : o.envelope.id = o'.envelope.id) : o = o' :=
  List.inj_on_of_nodup_map ho.apart hin hin' hid

/-- A link that keeps the outcomes and what is waited for keeps the balance. -/
theorem of_link (ho : Owes base owed h l) (hnext : l.nextId ≤ l'.nextId)
    (hpending : ∀ p ∈ l.pending, (∃ e ∈ h.waiting, p.id = e.id) → p ∈ l'.pending)
    (houtcome : ∀ o ∈ owed, l'.outcome? o.envelope.id = l.outcome? o.envelope.id) :
    Owes base owed h l' where
  apt := ho.apt
  numbered o hin := Nat.lt_of_lt_of_le (ho.numbered o hin) hnext
  apart := ho.apart
  waiting := by
    rw [ho.waiting]
    congr 1
    exact List.filter_congr (fun o hin => by rw [houtcome o hin])
  pending e he := by
    obtain ⟨p, hp, hid, hmethod⟩ := ho.pending e he
    exact ⟨p, hpending p hp ⟨e, he, hid⟩, hid, hmethod⟩
  answered o hin r hr := ho.answered o hin r (by rw [← houtcome o hin]; exact hr)
  armed := by
    have hyields : owed.flatMap (fun o => o.yield (l'.outcome? o.envelope.id))
        = owed.flatMap (fun o => o.yield (l.outcome? o.envelope.id)) :=
      List.flatMap_congr (fun o hin => by rw [houtcome o hin])
    rw [hyields]
    exact ho.armed
  distinct := ho.distinct

/-- Commands that have all been answered owe nothing any more. -/
theorem paid (ho : Owes base owed h l)
    (hall : ∀ o ∈ owed, ∃ r, l.outcome? o.envelope.id = some r) {base' : List Armed}
    (hbase : (base ++ owed.flatMap (fun o => o.yield (l.outcome? o.envelope.id))).Perm base')
    (l' : Link) : Owes base' [] h l' where
  apt _ hin := nomatch hin
  numbered _ hin := nomatch hin
  apart := List.nodup_nil
  waiting := by
    rw [ho.waiting]
    show List.map _ _ = []
    rw [List.map_eq_nil_iff, List.filter_eq_nil_iff]
    intro o hin
    obtain ⟨r, hr⟩ := hall o hin
    simp [hr]
  pending e he := by
    obtain ⟨o, hin, rfl, hnone⟩ := ho.of_waiting he
    obtain ⟨r, hr⟩ := hall o hin
    cases hnone.symm.trans hr
  answered _ hin := nomatch hin
  armed := by
    rw [List.flatMap_nil, List.append_nil]
    exact ho.armed.trans hbase
  distinct := ho.distinct

/-- Without commands of its own the link does not matter. -/
theorem idle (ho : Owes base [] h l) {base' : List Armed} (hbase : base.Perm base') (l' : Link) :
    Owes base' [] h l' :=
  ho.paid (fun _ hin => nomatch hin) (by rwa [List.flatMap_nil, List.append_nil]) l'

/-- On a new connection nothing is held, and nothing is owed. -/
theorem nothing (l : Link) : Owes [] [] {} l where
  apt _ hin := nomatch hin
  numbered _ hin := nomatch hin
  apart := List.nodup_nil
  waiting := rfl
  pending _ he := nomatch he
  answered _ hin := nomatch hin
  armed := List.Perm.refl []
  distinct := List.nodup_nil

/-- A command is sent: it is waited for, and nothing that is held has changed. -/
theorem send (o : Owed) (ho : Owes (base ++ o.yield none) owed h l) (hnumbered : l.Numbered)
    (hapt : o.Apt) (hid : o.envelope.id = l.nextId) {k : Nat} {a : Except Breakdown Unit} :
    Owes base (owed ++ [o]) (h.next (.sent k o.envelope a))
      (l.allocate.2.addPending { id := o.envelope.id, method := o.envelope.method }) := by
  have hasks : (o.envelope.arms || o.envelope.disarms) = true := by
    cases o with
    | arm e => simpa [Owed.envelope] using .inl hapt
    | disarm e x => simpa [Owed.envelope] using .inr hapt.2.1
  have hsent : h.next (.sent k o.envelope a) = { h with waiting := h.waiting ++ [o.envelope] } := by
    show (if (o.envelope.arms || o.envelope.disarms) = true then _ else h) = _
    rw [if_pos hasks]
  -- a new number has no outcome
  have hnone : l.outcome? o.envelope.id = none := by
    unfold Link.outcome?
    rw [List.lookup_eq_none_iff]
    intro r hr
    have := (hnumbered.ended r hr).1
    simp
    omega
  rw [hsent]
  constructor
  case apt =>
    intro q hq
    rcases List.mem_append.mp hq with hq | hq
    · exact ho.apt q hq
    · obtain rfl := List.mem_singleton.mp hq
      exact hapt
  case numbered =>
    intro q hq
    show q.envelope.id < l.nextId + 1
    rcases List.mem_append.mp hq with hq | hq
    · exact Nat.lt_succ_of_lt (ho.numbered q hq)
    · obtain rfl := List.mem_singleton.mp hq
      omega
  case apart =>
    rw [List.map_append, List.nodup_append]
    refine ⟨ho.apart, by simp, ?_⟩
    intro m hm n hn
    obtain ⟨q, hq, rfl⟩ := List.mem_map.mp hm
    obtain rfl : n = o.envelope.id := by simpa using hn
    have := ho.numbered q hq
    omega
  case waiting =>
    show h.waiting ++ [o.envelope]
      = ((owed ++ [o]).filter (fun q => (l.outcome? q.envelope.id).isNone)).map Owed.envelope
    rw [List.filter_append, List.map_append, ← ho.waiting]
    simp [hnone]
  case pending =>
    intro e he
    rcases List.mem_append.mp he with he | he
    · obtain ⟨p, hp, hsame⟩ := ho.pending e he
      exact ⟨p, List.mem_append_left _ hp, hsame⟩
    · obtain rfl := List.mem_singleton.mp he
      exact ⟨_, List.mem_append_right _ (List.mem_singleton_self _), rfl, rfl⟩
  case answered =>
    intro q hq r hr
    change l.outcome? q.envelope.id = some r at hr
    rcases List.mem_append.mp hq with hq | hq
    · exact ho.answered q hq r hr
    · obtain rfl := List.mem_singleton.mp hq
      rw [hnone] at hr
      cases hr
  case armed =>
    show h.armed.Perm (base ++ (owed ++ [o]).flatMap (fun q => q.yield (l.outcome? q.envelope.id)))
    rw [List.flatMap_append, List.flatMap_singleton, hnone]
    refine ho.armed.trans ?_
    rw [List.append_assoc]
    exact List.Perm.append_left base List.perm_append_comm
  case distinct => exact ho.distinct

/-- The balance with one command set apart from the others. -/
theorem yields_split (ho : Owes base owed h l) {o : Owed} (hin : o ∈ owed) :
    ∃ rest : List Owed, (∀ q ∈ rest, q ∈ owed ∧ q.envelope.id ≠ o.envelope.id) ∧
      ∀ f : Owed → List Armed, (owed.flatMap f).Perm (rest.flatMap f ++ f o) := by
  obtain ⟨before, after, rfl⟩ := List.append_of_mem hin
  refine ⟨before ++ after, fun q hq => ⟨?_, fun hid => ?_⟩, fun f => ?_⟩
  · exact (List.mem_append.mp hq).elim (List.mem_append_left _)
      fun hq => List.mem_append_right _ (List.mem_cons_of_mem _ hq)
  · have hnew := (List.nodup_middle.mp (List.map_append ▸ ho.apart)).notMem
    rw [← List.map_append] at hnew
    exact hnew (List.mem_map.mpr ⟨q, hq, hid⟩)
  · rw [List.flatMap_append, List.flatMap_append, List.flatMap_cons, List.append_assoc]
    exact List.Perm.append_left _ List.perm_append_comm

/-- A command that waited has its answer. -/
theorem settle (ho : Owes base owed h l) {o : Owed} (hin : o ∈ owed)
    (hnone : l.outcome? o.envelope.id = none) {r : Outcome} (hanswered : o.Answered r)
    (hfresh : o.envelope.arms = true → ∀ result, r = .ok result →
      ∀ a ∈ h.armed, a.id ≠ grantedId result) :
    Owes base owed
      { waiting := h.waiting.filter (fun e => e.id ≠ o.envelope.id)
        armed := Holding.settle h.armed o.envelope r }
      ((l.dropPending o.envelope.id).complete o.envelope.id r) := by
  -- one outcome is new; all the others are read off as before
  have hown : ((l.dropPending o.envelope.id).complete o.envelope.id r).outcome? o.envelope.id
      = some r := by
    rw [Link.outcome?_complete, if_pos rfl]
    show (l.outcome? o.envelope.id).or (some r) = some r
    rw [hnone]
    rfl
  have hothers {q : Owed} (hid : q.envelope.id ≠ o.envelope.id) :
      ((l.dropPending o.envelope.id).complete o.envelope.id r).outcome? q.envelope.id
        = l.outcome? q.envelope.id := by
    rw [Link.outcome?_complete, if_neg hid, Option.or_none]
    rfl
  obtain ⟨rest, hrest, hsplit⟩ := ho.yields_split hin
  -- the answered request owed nothing before: what is armed came with the base and with
  -- the other requests
  have hbefore : h.armed.Perm
      ((base ++ rest.flatMap (fun q => q.yield (l.outcome? q.envelope.id))) ++ o.yield none) := by
    have hall := ho.armed.trans
      ((hsplit (fun q => q.yield (l.outcome? q.envelope.id))).append_left base)
    rwa [hnone, ← List.append_assoc] at hall
  obtain ⟨hafter, hdistinct⟩ := Owed.settle (ho.apt o hin) hbefore ho.distinct hfresh
  constructor
  case apt => exact ho.apt
  case numbered => exact ho.numbered
  case apart => exact ho.apart
  case waiting =>
    show h.waiting.filter _ = _
    -- a request waits as long as it has no outcome, so the answered one leaves and no other
    -- one does
    rw [ho.waiting, List.filter_map, List.filter_filter]
    congr 1
    refine List.filter_congr fun q _ => ?_
    by_cases hid : q.envelope.id = o.envelope.id
    · rw [hid, hown]
      simp [hid]
    · rw [hothers hid]
      simp [hid]
  case pending =>
    intro e he
    obtain ⟨hwaits, hid⟩ := List.mem_filter.mp he
    obtain ⟨p, hp, hsame, hmethod⟩ := ho.pending e hwaits
    refine ⟨p, List.mem_filter.mpr ⟨hp, ?_⟩, hsame, hmethod⟩
    rw [hsame]
    simpa using hid
  case answered =>
    intro q hq r' hr'
    by_cases hid : q.envelope.id = o.envelope.id
    · obtain rfl := ho.same hq hin hid
      obtain rfl : r = r' := Option.some.inj (hown.symm.trans hr')
      exact hanswered
    · rw [hothers hid] at hr'
      exact ho.answered q hq r' hr'
  case armed =>
    refine hafter.trans ?_
    rw [List.append_assoc]
    refine List.Perm.append_left base ?_
    refine .trans (.of_eq ?_) (hsplit _).symm
    rw [hown]
    congr 1
    exact List.flatMap_congr fun q hq => by rw [hothers (hrest q hq).2]
  case distinct => exact hdistinct

/-- **A response keeps the balance**: what it brings to the holding, it brings to the link. -/
theorem respond (ho : Owes base owed h l) (hnumbered : l.Numbered) {k : Nat} {frame : Frame}
    {m : List (String × Json)} (hm : (Exchange.received k frame).response? = some m)
    (hfair : h.Fair (.received k frame)) :
    Owes base owed (h.next (.received k frame)) (l.answer m) := by
  cases hanswered : h.answered? m with
  | none =>
    -- no request of the holding waits for this response, though another command may
    have hno : ∀ e ∈ h.waiting, ¬ Answers m e.id := List.find?_eq_none.mp hanswered
    rw [Holding.next_unanswered hm hanswered]
    rcases l.answer_cases m with ⟨hkeeps, _, _⟩ | ⟨p, hp, hanswers, heq⟩
    · refine ho.of_link (Nat.le_of_eq hkeeps.nextId.symm) (fun p hp _ => hkeeps.pending ▸ hp)
        fun o _ => ?_
      unfold Link.outcome?
      rw [hkeeps.outcomes]
    · rw [heq]
      refine ho.of_link (Nat.le_refl _) (fun q hq ⟨e, he, hid⟩ => ?_) fun o hin => ?_
      · refine List.mem_filter.mpr ⟨hq, ?_⟩
        have : q.id ≠ p.id := fun hsame => hno e he (by rw [← hid, hsame]; exact hanswers)
        simpa using this
      · rw [Link.outcome?_complete]
        show (l.outcome? o.envelope.id).or _ = _
        cases hout : l.outcome? o.envelope.id with
        | some r => rfl
        | none =>
          rw [if_neg fun hid => hno _ (ho.waits hin hout) (by rw [hid]; exact hanswers)]
          rfl
  | some e =>
    -- the response is the answer to a request that waits, and settles it
    obtain ⟨hwaits, hanswers⟩ := Holding.answered?_some hanswered
    obtain ⟨o, hin, rfl, hnone⟩ := ho.of_waiting hwaits
    obtain ⟨p, hp, hid, hmethod⟩ := ho.pending _ hwaits
    have heq : l.answer m = (l.dropPending o.envelope.id).complete o.envelope.id
        (Link.replyOutcome o.envelope.method m) := by
      rw [hnumbered.answer_pending hp (hid ▸ hanswers), hid, hmethod]
    have hgrants : o.envelope.arms = true → h.Grants (Link.replyOutcome o.envelope.method m) :=
      hfair m hm _ hanswered
    rw [Holding.next_answered hm hanswered, heq]
    refine ho.settle hin hnone ?_ ?_
    · cases hr : Link.replyOutcome o.envelope.method m with
      | ok result =>
        intro harms
        have := hgrants harms
        rw [hr] at this
        exact this.1
      | error f => exact Link.replyOutcome_refused hr
    · intro harms result hr
      have := hgrants harms
      rw [hr] at this
      exact this.2

end Owes
end FlowTrace
