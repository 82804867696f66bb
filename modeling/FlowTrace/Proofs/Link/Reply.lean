/-
  FlowTrace.Proofs.Link.Reply
  ────────────────────────────────
  **THE FIRST REPLY TO A COMMAND.**

  A command in flight is answered by the first response with its number, whatever
  comes between and whatever comes later:

      no response yet    — the command waits, or was lost with its connection
      a first response   — the outcome is what that response says, for good

  So the outcomes of commands can be read off the conversation, and the order in
  which the replies to different commands come does not matter.
-/
import FlowTrace.Proofs.Debug.Holding

namespace FlowTrace

/-! ## §1. Replies in a conversation. -/

instance (response : List (String × Json)) (id : Nat) : Decidable (Answers response id) :=
  inferInstanceAs (Decidable (_ = true))

/-- The responses in a conversation, in order. -/
def responses (xs : List Exchange) : List (List (String × Json)) := xs.filterMap Exchange.response?

/-- The first response that answers the command with a number. -/
def firstReply? (xs : List Exchange) (id : Nat) : Option (List (String × Json)) :=
  (responses xs).find? (fun m => Answers m id)

variable {xs ys : List Exchange} {id : Nat} {m : List (String × Json)}

theorem firstReply?_append (xs ys : List Exchange) (id : Nat) :
    firstReply? (xs ++ ys) id = (firstReply? xs id).or (firstReply? ys id) := by
  unfold firstReply? responses
  rw [List.filterMap_append, List.find?_append]

/-- A first reply stays the first one. -/
theorem firstReply?_of_prefix (h : firstReply? xs id = some m) (hbegin : xs <+: ys) :
    firstReply? ys id = some m := by
  obtain ⟨rest, rfl⟩ := hbegin
  rw [firstReply?_append, h]
  rfl

/-- A conversation without responses answers nothing. -/
theorem firstReply?_eq_none (h : ∀ x ∈ xs, x.response? = none) : firstReply? xs id = none := by
  have hnone : responses xs = [] := List.filterMap_eq_nil_iff.mpr h
  unfold firstReply?
  rw [hnone]
  rfl

theorem firstReply?_singleton {x : Exchange} (hx : x.response? = some m) :
    firstReply? [x] id = if Answers m id then some m else none := by
  unfold firstReply? responses
  rw [List.filterMap_cons_some hx]
  by_cases h : Answers m id <;> simp [h]

/-- A first reply is one of the responses, and answers the command. -/
theorem of_firstReply? (h : firstReply? xs id = some m) : m ∈ responses xs ∧ Answers m id :=
  ⟨List.mem_of_find?_eq_some h, by simpa using List.find?_some h⟩

/-! ## §2. How a command fares. -/

/-- How a command that was sent fares at a link, by its first reply. -/
inductive Fares (method : Json) (id : Nat) (l : Link) : Option (List (String × Json)) → Prop
  | replied {m : List (String × Json)}
      (hout : l.outcome? id = some (Link.replyOutcome method m)) : Fares method id l (some m)
  | waiting {p : Pending} (hp : p ∈ l.pending) (hid : p.id = id) (hmethod : p.method = method)
      (hout : l.outcome? id = none) : Fares method id l none
  | lost (hsocket : l.socket = none) (hout : l.outcome? id = some lostOutcome) :
      Fares method id l none

namespace Fares

variable {method : Json} {l l' : Link} {first : Option (List (String × Json))}

/-- A command that was put on the wire waits. -/
theorem submitted (hnumbered : l.Numbered) (method : Json) :
    Fares method l.nextId (l.allocate.2.addPending { id := l.nextId, method := method }) none := by
  refine .waiting (p := { id := l.nextId, method := method }) (List.mem_append_right _ (by simp))
    rfl rfl ?_
  -- a number that is still to be taken belongs to no outcome
  show l.outcomes.lookup l.nextId = none
  rw [List.lookup_eq_none_iff]
  intro o ho
  have hlt := (hnumbered.ended o ho).1
  simp
  omega

/-- A link that has lost no command and no outcome, and has found no connection. -/
theorem of_link (h : Fares method id l first) (hpending : l.pending ⊆ l'.pending)
    (houtcomes : l'.outcomes = l.outcomes) (hsocket : l.socket = none → l'.socket = none) :
    Fares method id l' first := by
  have hsame : l'.outcome? id = l.outcome? id := by
    unfold Link.outcome?
    rw [houtcomes]
  cases h with
  | replied hout => exact .replied (hsame.trans hout)
  | waiting hp hid hmethod hout => exact .waiting (hpending hp) hid hmethod (hsame.trans hout)
  | lost hnone hout => exact .lost (hsocket hnone) (hsame.trans hout)

/-- **A response settles the command that it answers**, and leaves the others alone. -/
theorem answer (h : Fares method id l first) (hnumbered : l.Numbered) {s : Nat}
    (hsocket : l.socket = some s) (m : List (String × Json)) :
    Fares method id (l.answer m) (first.or (if Answers m id then some m else none)) := by
  -- an outcome that is there is the first one, so it stays
  have hkept {r : Outcome} (hout : l.outcome? id = some r) : (l.answer m).outcome? id = some r := by
    obtain ⟨more, heq⟩ := l.answer_outcomes_prefix m
    unfold Link.outcome? at hout ⊢
    rw [← heq, List.lookup_append, hout]
    rfl
  cases h with
  | replied hout => exact .replied (hkept hout)
  | lost hnone => cases hsocket.symm.trans hnone
  | @waiting p hp hid hmethod hout =>
    by_cases hanswers : Answers m id
    · rw [if_pos hanswers, hnumbered.answer_pending hp (hid ▸ hanswers), hid, hmethod]
      refine .replied ?_
      have hnone : (l.dropPending id).outcome? id = none := hout
      rw [Link.outcome?_complete, hnone]
      simp
    · rw [if_neg hanswers]
      rcases l.answer_cases m with ⟨hkeeps, -, -⟩ | ⟨q, -, hother, heq⟩
      · -- the response answers nothing that is pending
        refine .waiting (by rw [hkeeps.pending]; exact hp) hid hmethod ?_
        unfold Link.outcome?
        rw [hkeeps.outcomes]
        exact hout
      · -- it answers another command
        have hne : id ≠ q.id := fun hsame => hanswers (hsame ▸ hother)
        rw [heq]
        refine .waiting (p := p) ?_ hid hmethod ?_
        · exact List.mem_filter.mpr ⟨hp, by simpa [hid] using hne⟩
        · have hnone : (l.dropPending q.id).outcome? id = none := hout
          rw [Link.outcome?_complete, hnone]
          simp [hne]

/-- With the connection every command that waits is lost. -/
theorem gone (h : Fares method id l first) : Fares method id l.gone first := by
  have hlookup : l.gone.outcome? id
      = (l.outcome? id).or ((l.pending.map (fun p => (p.id, lostOutcome))).lookup id) := by
    unfold Link.outcome?
    rw [Link.gone_outcomes, List.lookup_append]
  cases h with
  | replied hout =>
    refine .replied ?_
    rw [hlookup, hout]
    rfl
  | lost hsocket hout =>
    refine .lost (by simp) ?_
    rw [hlookup, hout]
    rfl
  | @waiting p hp hid hmethod hout =>
    refine .lost (by simp) ?_
    rw [hlookup, hout, Option.none_or]
    -- every pending command has the outcome of a loss
    cases hfound : (l.pending.map (fun p => (p.id, lostOutcome))).lookup id with
    | none =>
      rw [List.lookup_eq_none_iff] at hfound
      exact absurd (hfound _ (List.mem_map_of_mem hp)) (by simp [hid])
    | some r =>
      obtain ⟨before, after, heq, _⟩ := List.lookup_eq_some_iff.mp hfound
      have hmem : (id, r) ∈ l.pending.map (fun p => (p.id, lostOutcome)) := by rw [heq]; simp
      obtain ⟨q, _, hq⟩ := List.mem_map.mp hmem
      exact congrArg some (congrArg Prod.snd hq).symm

/-- A command that has an outcome other than that of a loss has a first reply. -/
theorem exists_reply (h : Fares method id l first) {r : Outcome} (hout : l.outcome? id = some r)
    (hne : r ≠ lostOutcome) : ∃ m, first = some m ∧ r = Link.replyOutcome method m := by
  cases h with
  | @replied m hreply => exact ⟨m, rfl, Option.some.inj (hout.symm.trans hreply)⟩
  | waiting _ _ _ hnone => cases hnone.symm.trans hout
  | lost _ hlost => exact absurd (Option.some.inj (hout.symm.trans hlost)) hne

end Fares
end FlowTrace
