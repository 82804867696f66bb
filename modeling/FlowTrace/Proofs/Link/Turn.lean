/-
  FlowTrace.Proofs.Link.Turn
  ────────────────────────────────
  **THE STEPS OF A LINK.**

  Connecting, sending, reading and tearing down change a link in steps: an
  attempt to connect is refused or opens a socket, a number is taken, a command
  is put on the wire, a frame is read, the connection is lost.  Callbacks at a
  loss take steps of the same kinds, however deep one loss is nested in another,
  so every operation is a sequence of steps and what each of them preserves holds
  throughout.

  The links here are plain: no submitter connects again by itself.
-/
import FlowTrace.Proofs.Link.Conversation
import FlowTrace.Proofs.Link.Loss
import Mathlib.Logic.Relation

namespace FlowTrace

variable {ε : Type} [Endpoint ε]

/-! ## §1. Steps. -/

namespace Link

theorem Plain.addPending {l : Link} (h : l.Plain) {p : Pending} (hp : p.reconnects = false) :
    (l.addPending p).Plain := by
  intro q hq
  rcases List.mem_append.mp hq with hq | hq
  · exact h q hq
  · obtain rfl := List.mem_singleton.mp hq
    exact hp

theorem Plain.dropPending {l : Link} (h : l.Plain) (id : Nat) : (l.dropPending id).Plain :=
  fun q hq => h q (List.mem_filter.mp hq).1

theorem Plain.fallen (l : Link) : l.fallen.Plain := by simp [Link.Plain]

/-- A reply ends the reading, or finishes a pending command, or does nothing. -/
theorem answer_eq (l : Link) (reply : List (String × Json)) :
    l.answer reply = l ∨ l.answer reply = { l with deaf := true } ∨
      ∃ p ∈ l.pending, l.answer reply
        = (l.dropPending p.id).complete p.id (replyOutcome p.method reply) := by
  rcases l.answer_inversion reply with ⟨-, heq | heq⟩ | ⟨p, hp, -, heq⟩
  · exact .inl heq
  · exact .inr (.inl heq)
  · exact .inr (.inr ⟨p, hp, heq⟩)

theorem Plain.answer {l : Link} (h : l.Plain) (reply : List (String × Json)) :
    (l.answer reply).Plain := by
  rcases l.answer_eq reply with heq | heq | ⟨p, _, heq⟩ <;> rw [heq]
  · exact h
  · exact h
  · exact h.dropPending p.id

/-- Where nothing is pending no reply is of interest. -/
theorem answer_of_idle {l : Link} (h : l.pending = []) (reply : List (String × Json)) :
    l.answer reply = l := by
  unfold answer
  rw [if_pos (by rw [h]; rfl)]

/-- A reply leaves everything alone but the commands, the signals and the reading. -/
theorem answer_rest (l : Link) (reply : List (String × Json)) :
    ∃ pending outcomes signals deaf, l.answer reply =
      { l with pending := pending, outcomes := outcomes, signals := signals, deaf := deaf } := by
  rcases l.answer_eq reply with heq | heq | ⟨p, _, heq⟩
  · exact ⟨_, _, _, _, heq⟩
  · exact ⟨_, _, _, _, heq⟩
  · exact ⟨_, _, _, _, heq⟩

@[simp] theorem answer_socket (l : Link) (reply : List (String × Json)) :
    (l.answer reply).socket = l.socket := by
  obtain ⟨_, _, _, _, heq⟩ := l.answer_rest reply
  rw [heq]

@[simp] theorem answer_status (l : Link) (reply : List (String × Json)) :
    (l.answer reply).status = l.status := by
  obtain ⟨_, _, _, _, heq⟩ := l.answer_rest reply
  rw [heq]

@[simp] theorem answer_shutdown (l : Link) (reply : List (String × Json)) :
    (l.answer reply).shutdown = l.shutdown := by
  obtain ⟨_, _, _, _, heq⟩ := l.answer_rest reply
  rw [heq]

@[simp] theorem answer_nextId (l : Link) (reply : List (String × Json)) :
    (l.answer reply).nextId = l.nextId := by
  obtain ⟨_, _, _, _, heq⟩ := l.answer_rest reply
  rw [heq]

/-- Outcomes are kept, whatever reply comes. -/
theorem answer_outcomes_prefix (l : Link) (reply : List (String × Json)) :
    l.outcomes <+: (l.answer reply).outcomes := by
  rcases l.answer_eq reply with heq | heq | ⟨p, _, heq⟩
  · simp only [heq, List.prefix_refl]
  · simp only [heq, List.prefix_refl]
  · rw [heq]
    exact List.prefix_append _ _

@[simp] theorem answer_downPlans (l : Link) (reply : List (String × Json)) :
    (l.answer reply).downPlans = l.downPlans := by
  obtain ⟨_, _, _, _, heq⟩ := l.answer_rest reply
  rw [heq]

@[simp] theorem fallen_downPlans_suffix (l : Link) : l.fallen.downPlans <:+ l.downPlans := by
  unfold Link.fallen disconnected
  split
  · exact List.drop_suffix 1 _
  · exact List.suffix_refl _

end Link

namespace Wire

/-- A step that a link takes, or the other side of it. -/
inductive Step : Wire (Recorded ε) → Wire (Recorded ε) → Prop where
  /-- An attempt to connect fails. -/
  | refused {w : Wire (Recorded ε)} {b : Breakdown} {status : LinkStatus}
      (hsocket : w.link.socket = none) (hdial : (w.network.dial w.link.url).1 = .error b)
      (hstatus : status ≠ .connected) :
      Step w { link := { w.link with status := status }, network := (w.network.dial w.link.url).2 }
  | opened {w : Wire (Recorded ε)} {s : Nat} (hsocket : w.link.socket = none)
      (hdial : (w.network.dial w.link.url).1 = .ok s) :
      Step w
        { link := { w.link with socket := some s, deaf := false, status := .connected }.signal .up
          network := (w.network.dial w.link.url).2 }
  /-- A number is taken for a command that is not put on the wire. -/
  | numbered {w : Wire (Recorded ε)} : Step w { w with link := w.link.allocate.2 }
  /-- A command is put on the wire and left pending. -/
  | submitted {w : Wire (Recorded ε)} {s : Nat} {p : Pending} {e : Envelope}
      (hsocket : w.link.socket = some s) (hplain : p.reconnects = false) :
      Step w { link := w.link.allocate.2.addPending p, network := (w.network.send s e).2 }
  /-- A command is put on the wire and forgotten. -/
  | notified {w : Wire (Recorded ε)} {s : Nat} {e : Envelope} (hsocket : w.link.socket = some s) :
      Step w { link := w.link.allocate.2, network := (w.network.send s e).2 }
  /-- A command is pending no longer. -/
  | dropped {w : Wire (Recorded ε)} (id : Nat) : Step w { w with link := w.link.dropPending id }
  /-- The current socket is read. -/
  | read {w : Wire (Recorded ε)} {s : Nat} (hsocket : w.link.socket = some s) :
      Step w { w with network := (w.network.receive s).2 }
  /-- A reply is taken in. -/
  | answered {w : Wire (Recorded ε)} (message : List (String × Json)) :
      Step w { w with link := w.link.answer message }
  /-- The current socket is read no more. -/
  | deafened {w : Wire (Recorded ε)} : Step w { w with link := { w.link with deaf := true } }
  /-- The current connection is lost. -/
  | lost {w : Wire (Recorded ε)} {s : Nat} (hsocket : w.link.socket = some s)
      (hclose : (w.network.close s).1 ≠ .error .interrupted) : Step w (w.hangUp s).fallen
  /-- The user interrupts the loss of the connection. -/
  | cut {w : Wire (Recorded ε)} {s : Nat} (hsocket : w.link.socket = some s)
      (hclose : (w.network.close s).1 = .error .interrupted) : Step w (w.hangUp s)
  /-- A link without a connection is torn down. -/
  | settled {w : Wire (Recorded ε)} (hsocket : w.link.socket = none) : Step w w.fallen
  /-- The link will not connect again. -/
  | shut {w : Wire (Recorded ε)} : Step w { w with link := { w.link with shutdown := true } }
  /-- The host does something by itself. -/
  | stirred {w : Wire (Recorded ε)} (f : ε → ε) :
      Step w { w with network := { w.network with endpoint := w.network.endpoint.stir f } }

/-- Steps, one after the other. -/
abbrev Steps (w w' : Wire (Recorded ε)) : Prop := Relation.ReflTransGen Step w w'

variable {w w' : Wire (Recorded ε)}

theorem Step.plain (h : Step w w') (hplain : w.link.Plain) : w'.link.Plain := by
  cases h with
  | submitted hsocket hp => exact Link.Plain.addPending (l := w.link.allocate.2) hplain hp
  | dropped id => exact hplain.dropPending id
  | answered message => exact hplain.answer message
  | lost hsocket hclose => exact .fallen _
  | settled hsocket => exact .fallen _
  | _ => exact hplain

theorem Steps.plain (h : Steps w w') (hplain : w.link.Plain) : w'.link.Plain := by
  induction h with
  | refl => exact hplain
  | tail _ step ih => exact step.plain ih

/-- Losses use the plans up in order. -/
theorem Step.plans (h : Step w w') : w'.link.downPlans <:+ w.link.downPlans := by
  cases h with
  | answered message => simp
  | lost hsocket hclose => exact Link.fallen_downPlans_suffix _
  | settled hsocket => exact Link.fallen_downPlans_suffix _
  | _ => exact List.suffix_refl _

theorem Steps.plans (h : Steps w w') : w'.link.downPlans <:+ w.link.downPlans := by
  induction h with
  | refl => exact List.suffix_refl _
  | tail _ step ih => exact step.plans.trans ih

/-- What was said stays said. -/
theorem Step.conversation (h : Step w w') : w.conversation <+: w'.conversation := by
  cases h with
  | refused hsocket hdial hstatus => exact List.prefix_append _ _
  | opened hsocket hdial => exact List.prefix_append _ _
  | submitted hsocket hp => exact List.prefix_append _ _
  | notified hsocket => exact List.prefix_append _ _
  | read hsocket => exact List.prefix_append _ _
  | lost hsocket hclose => exact List.prefix_append _ _
  | cut hsocket hclose => exact List.prefix_append _ _
  | _ => exact List.prefix_refl _

theorem Steps.conversation (h : Steps w w') : w.conversation <+: w'.conversation := by
  induction h with
  | refl => exact List.prefix_refl _
  | tail _ step ih => exact ih.trans step.conversation

end Wire

/-! ## §2. Actions made of steps. -/

/-- Whatever the action does to a plain link is a sequence of steps, and it gives up
for good only when it was interrupted. -/
structure Act.Stepping {α : Type} (a : Act (Wire (Recorded ε)) α) : Prop where
  steps : ∀ w, w.link.Plain → Wire.Steps w (a.exec w).2
  honest : ∀ w f, w.link.Plain → (a.exec w).1 = .error f → f.containable = false →
    ¬ Uninterrupted (a.exec w).2.conversation

namespace Act.Stepping

variable {α β : Type}

theorem pure (a : α) : Act.Stepping (Pure.pure a : Act (Wire (Recorded ε)) α) where
  steps _ _ := .refl
  honest _ _ _ hf := nomatch hf

theorem throw {f : Fault} (hf : f.containable = true) :
    Act.Stepping (MonadExcept.throw f : Act (Wire (Recorded ε)) α) where
  steps _ _ := .refl
  honest := by
    intro w f' _ hf' hout
    obtain rfl : f = f' := Except.error.inj hf'
    rw [hf] at hout
    cases hout

theorem bind {a : Act (Wire (Recorded ε)) α} {f : α → Act (Wire (Recorded ε)) β} (ha : a.Stepping)
    (hf : ∀ x, (f x).Stepping) : (a >>= f).Stepping := by
  constructor
  case steps =>
    intro w hplain
    have hfirst := ha.steps w hplain
    rw [Act.exec_bind]
    cases hr : a.exec w with
    | mk r w₁ =>
      rw [hr] at hfirst
      cases r with
      | error e => exact hfirst
      | ok x => exact hfirst.trans ((hf x).steps w₁ (hfirst.plain hplain))
  case honest =>
    intro w e hplain
    have hfirst := ha.steps w hplain
    rw [Act.exec_bind]
    cases hr : a.exec w with
    | mk r w₁ =>
      rw [hr] at hfirst
      cases r with
      | error e' =>
        -- the first action failed, and it is honest
        intro he hout
        have := ha.honest w e' hplain (by rw [hr])
        rw [hr] at this
        obtain rfl : e' = e := Except.error.inj he
        exact this hout
      | ok x => exact (hf x).honest w₁ e (hfirst.plain hplain)

theorem contained {a : Act (Wire (Recorded ε)) Unit} (ha : a.Stepping) :
    (Act.contained a).Stepping := by
  constructor
  case steps =>
    intro w hplain
    rw [Act.exec_contained_snd]
    exact ha.steps w hplain
  case honest =>
    intro w f hplain hf hout
    cases hr : (Act.contained a).exec w with
    | mk r v =>
      rw [hr] at hf
      obtain rfl : r = .error f := hf
      have herror := (Act.exec_contained_error hr).2
      have := ha.honest w f hplain (by rw [herror]) hout
      rwa [herror] at this

end Act.Stepping

namespace Wire

/-- A single step is taken. -/
theorem stepping_update {f : Link → Link}
    (hstep : ∀ w : Wire (Recorded ε), Step w { w with link := f w.link }) :
    (update f : Act (Wire (Recorded ε)) Unit).Stepping where
  steps w _ := .single (hstep w)
  honest _ _ _ hf := nomatch hf

/-- The last exchange was interrupted. -/
theorem not_uninterrupted_append {xs : List Exchange} {x : Exchange} (hx : x.isInterrupted = true) :
    ¬ Uninterrupted (xs ++ [x]) := by
  intro h
  have := h x (List.mem_append_right xs (List.mem_singleton_self x))
  rw [hx] at this
  cases this

/-- A link without a socket may dial, and dialling may open one. -/
theorem stepping_connect : (connect : Act (Wire (Recorded ε)) Unit).Stepping := by
  have hcases (w : Wire (Recorded ε)) : Steps w (connect.exec w).2 ∧
      ∀ f, (connect.exec w).1 = .error f → f.containable = false →
        ¬ Uninterrupted (connect.exec w).2.conversation := by
    have hconnects := connects_connect w
    generalize connect.exec w = r at hconnects
    -- only an interruption is no fault of the link, and it is the last that was said
    cases hconnects with
    | already hsocket => exact ⟨.refl, fun _ hf => nomatch hf⟩
    | shut hsocket hshut =>
      refine ⟨.refl, fun f hf hout => ?_⟩
      cases hf
      cases hout
    | opened hsocket hopen hdial => exact ⟨.single (.opened hsocket hdial), fun _ hf => nomatch hf⟩
    | refused hsocket hopen hdial =>
      have hdown : LinkStatus.disconnected ≠ .connected := by decide
      refine ⟨.single (.refused hsocket hdial hdown), fun f hf hout => ?_⟩
      cases hf
      cases hout
    | interrupted hsocket hopen hdial =>
      have hdialling : LinkStatus.connecting ≠ .connected := by decide
      refine ⟨.single (.refused hsocket hdial hdialling), fun f _ _ => ?_⟩
      show ¬ Uninterrupted (w.network.dial w.link.url).2.conversation
      rw [Network.conversation_dial, hdial]
      exact not_uninterrupted_append rfl
  exact ⟨fun w _ => (hcases w).1, fun w f _ => (hcases w).2 f⟩

variable {onDown : List (List DownAction) → Act (Wire (Recorded ε)) Unit}

/-- **How tearing down goes**, whatever the callbacks are: nothing is done, because the connection
is another's; or closing it was interrupted; or it is lost, and the callbacks come next. -/
theorem tearing_cases (owner : Option Nat) {w : Wire (Recorded ε)} (hplain : w.link.Plain) :
    (∀ onDown, (teardownWith onDown owner).exec w = (.ok (), w)) ∨
      (∃ s, Step w (w.hangUp s) ∧ ¬ Uninterrupted (w.hangUp s).conversation ∧
        ∀ onDown, (teardownWith onDown owner).exec w = (.error .interrupt, w.hangUp s)) ∨
      ∃ v, Step w v ∧ v.link.downPlans = w.link.fallen.downPlans ∧
        ∀ onDown, onDown [] = pure () →
          (teardownWith onDown owner).exec w = (onDown w.link.callbacks).exec v := by
  by_cases howner : w.OwnedBy owner
  · cases hsocket : w.link.socket with
    | none =>
      have hnone : owner = none := howner.elim id (fun hsame => hsame.trans hsocket)
      refine .inr (.inr ⟨_, .settled hsocket, rfl, fun onDown hnil => ?_⟩)
      rw [hnone]
      exact exec_teardownWith_none hnil hplain hsocket
    | some s =>
      by_cases hclose : (w.network.close s).1 = .error .interrupted
      · refine .inr (.inl ⟨s, .cut hsocket hclose, ?_, fun onDown =>
          exec_teardownWith_interrupted hsocket howner hclose⟩)
        show ¬ Uninterrupted (w.network.close s).2.conversation
        rw [Network.conversation_close, hclose]
        exact not_uninterrupted_append rfl
      · refine .inr (.inr ⟨_, .lost hsocket hclose, ?_, fun onDown hnil =>
          exec_teardownWith hnil hplain hsocket howner hclose⟩)
        rw [fallen_link, hangUp_link, Link.fallen_unplugged]
  · -- the socket of the owner is not that of the link any more
    obtain ⟨s, rfl⟩ : ∃ s, owner = some s := by
      cases owner with
      | none => exact absurd (.inl rfl) howner
      | some s => exact ⟨s, rfl⟩
    exact .inl fun onDown => exec_teardownWith_stale (fun hsame => howner (.inr hsame.symm))

/-- Tearing down is a step, and the callbacks take theirs after it. -/
theorem stepping_teardownWith (hnil : onDown [] = pure ()) (hdown : ∀ plan, (onDown plan).Stepping)
    (owner : Option Nat) : (teardownWith onDown owner).Stepping := by
  constructor
  case steps =>
    intro w hplain
    rcases tearing_cases owner hplain with hstale | ⟨s, hstep, _, hcut⟩ | ⟨v, hstep, _, hfell⟩
    · rw [hstale]
    · rw [hcut]
      exact .single hstep
    · rw [hfell onDown hnil]
      exact .head hstep ((hdown _).steps v (hstep.plain hplain))
  case honest =>
    intro w f hplain hf hout
    rcases tearing_cases owner hplain with hstale | ⟨s, _, hsaid, hcut⟩ | ⟨v, hstep, _, hfell⟩
    · rw [hstale] at hf
      cases hf
    · rw [hcut]
      exact hsaid
    · rw [hfell onDown hnil] at hf ⊢
      exact (hdown _).honest v f (hstep.plain hplain) hf hout

variable {down : Option Nat → Act (Wire (Recorded ε)) Unit}

/-- Either nothing is sent and nothing changes, or the envelope is put on the wire and
the connection may be lost. -/
theorem steps_sendWith (hdown : ∀ owner, (down owner).Stepping) (e : Envelope)
    {w : Wire (Recorded ε)} (hplain : w.link.Plain) :
    (∃ m, (sendWith down e).exec w = (.error (.link m), w)) ∨
      ∃ s, w.link.socket = some s ∧
        Steps { w with network := (w.network.send s e).2 } ((sendWith down e).exec w).2 ∧
        ∀ f, ((sendWith down e).exec w).1 = .error f → f.containable = false →
          ¬ Uninterrupted ((sendWith down e).exec w).2.conversation := by
  have hsends := sendsWith_sendWith down e w
  generalize (sendWith down e).exec w = r at hsends
  cases hsends with
  | refused m hno => exact .inl ⟨m, rfl⟩
  | @sent s hsocket hopen => exact .inr ⟨s, hsocket, .refl, fun f hf => nomatch hf⟩
  | @failed s text hsocket hopen =>
    have hrest : (down (some s) >>= fun _ =>
        (throw (.link ("send failed: " ++ text)) : Act (Wire (Recorded ε)) Unit)).Stepping :=
      .bind (hdown (some s)) (fun _ => .throw rfl)
    exact .inr ⟨s, hsocket, hrest.steps _ hplain, fun f => hrest.honest _ f hplain⟩
  | @interrupted s hsocket hopen hsend =>
    refine .inr ⟨s, hsocket, .refl, fun f _ _ => ?_⟩
    show ¬ Uninterrupted (w.network.send s e).2.conversation
    rw [Network.conversation_send, hsend]
    exact not_uninterrupted_append rfl

/-- How a submission ends after its sending: a fault of the link takes the command
back. -/
def submission (id : Nat) (sent : Except Fault Unit × Wire (Recorded ε)) :
    Except Fault Nat × Wire (Recorded ε) :=
  match sent with
  | (.ok _, w) => (.ok id, w)
  | (.error f, w) =>
      (.error f, if f.isLink then { w with link := w.link.dropPending id } else w)

/-- A link with one more command pending. -/
def awaiting (w : Wire (Recorded ε)) (p : Pending) : Wire (Recorded ε) :=
  { w with link := w.link.allocate.2.addPending p }

/-- Submitting is sending with the command pending. -/
theorem exec_submitWith (method params : Json) (reconnects : Bool) (w : Wire (Recorded ε)) :
    (submitWith down method params reconnects).exec w = submission w.link.nextId
      ((sendWith down { id := w.link.nextId, method := method, params := params.orObject }).exec
        (w.awaiting { id := w.link.nextId, method := method, reconnects := reconnects })) := by
  unfold submitWith
  rw [Act.exec_bind_ok (exec_allocate w), Act.exec_bind_ok (exec_update _ _),
    Act.exec_bind_ok (Act.exec_attempt _ _)]
  generalize hsent : (sendWith down _).exec _ = sent
  rw [show (sendWith down { id := w.link.nextId, method := method, params := params.orObject }).exec
    (w.awaiting { id := w.link.nextId, method := method, reconnects := reconnects }) = sent
    from hsent]
  cases sent with
  | mk r v =>
    cases r with
    | ok _ => rfl
    | error f =>
      by_cases hlink : f.isLink
      · simp only [submission, hlink]
        rfl
      · simp only [submission, hlink]
        rfl

theorem steps_submission (id : Nat) (sent : Except Fault Unit × Wire (Recorded ε)) :
    Steps sent.2 (submission id sent).2 := by
  obtain ⟨r, v⟩ := sent
  cases r with
  | ok _ => exact .refl
  | error f =>
    unfold submission
    by_cases hlink : f.isLink
    · simp only [hlink]
      exact .single (.dropped id)
    · simp only [hlink]
      exact .refl

omit [Endpoint ε] in
/-- A submission fails as its sending did. -/
theorem submission_error {id : Nat} {sent : Except Fault Unit × Wire (Recorded ε)} {f : Fault}
    (h : (submission id sent).1 = .error f) : sent.1 = .error f := by
  obtain ⟨r, v⟩ := sent
  cases r with
  | ok _ => cases h
  | error g => exact congrArg Except.error (Except.error.inj h)

omit [Endpoint ε] in
@[simp] theorem submission_network (id : Nat) (sent : Except Fault Unit × Wire (Recorded ε)) :
    (submission id sent).2.network = sent.2.network := by
  obtain ⟨r, v⟩ := sent
  cases r with
  | ok _ => rfl
  | error f =>
    unfold submission
    by_cases hlink : f.isLink <;> simp [hlink]

/-- A submitted command is put on the wire while it is pending, or only takes a number. -/
theorem stepping_submitWith (hdown : ∀ owner, (down owner).Stepping) (method params : Json) :
    (submitWith down method params false).Stepping := by
  have hcases (w : Wire (Recorded ε)) (hplain : w.link.Plain) :
      Steps w ((submitWith down method params false).exec w).2 ∧
        ∀ f, ((submitWith down method params false).exec w).1 = .error f →
          f.containable = false →
          ¬ Uninterrupted ((submitWith down method params false).exec w).2.conversation := by
    let p : Pending := { id := w.link.nextId, method := method, reconnects := false }
    let e : Envelope := { id := w.link.nextId, method := method, params := params.orObject }
    have hawaiting : (w.awaiting p).link.Plain :=
      Link.Plain.addPending (l := w.link.allocate.2) hplain rfl
    rw [exec_submitWith]
    rcases steps_sendWith hdown e hawaiting with ⟨m, hrefused⟩ | ⟨s, hsocket, hsent, hhonest⟩
    · -- the command that was refused is taken back, and only its number is gone
      have hback : (w.awaiting p).link.dropPending w.link.nextId
          = w.link.allocate.2.dropPending w.link.nextId := by
        simp [awaiting, p, Link.dropPending, Link.addPending]
      rw [hrefused]
      refine ⟨?_, ?_⟩
      · show Steps w { w with link := (w.awaiting p).link.dropPending w.link.nextId }
        rw [hback]
        exact .tail (.single .numbered) (.dropped _)
      · intro f hf hout
        cases hf
        cases hout
    · refine ⟨?_, ?_⟩
      · exact (Relation.ReflTransGen.head (.submitted (p := p) hsocket rfl) hsent).trans
          (steps_submission _ _)
      · intro f hf hout
        unfold conversation
        rw [submission_network]
        exact hhonest f (submission_error hf) hout
  exact ⟨fun w hplain => (hcases w hplain).1, fun w f hplain => (hcases w hplain).2 f⟩

/-! ## §3. Losses inside one another. -/

theorem stepping_runDownActions (hdown : ∀ owner, (down owner).Stepping)
    (actions : List DownAction) : (runDownActions down actions).Stepping := by
  induction actions with
  | nil => exact .pure ()
  | cons action rest ih =>
    cases action with
    | connect => exact .bind stepping_connect (fun _ => ih)
    | submit method => exact .bind (stepping_submitWith hdown _ _) (fun _ => ih)
    | fail => exact .throw rfl

theorem stepping_runDownPlan (hdown : ∀ owner, (down owner).Stepping)
    (plan : List (List DownAction)) : (runDownPlan down plan).Stepping := by
  induction plan with
  | nil => exact .pure ()
  | cons actions rest ih =>
    exact .bind (.contained (stepping_runDownActions hdown actions)) (fun _ => ih)

theorem stepping_teardownWithin (depth : Nat) : ∀ owner,
    (teardownWithin depth owner : Act (Wire (Recorded ε)) Unit).Stepping := by
  -- Induction on the number of losses that can still come inside this one.
  induction depth with
  | zero => exact stepping_teardownWith rfl (fun _ => .pure ())
  | succ depth ih => exact stepping_teardownWith rfl (stepping_runDownPlan ih)

theorem exec_teardown (owner : Option Nat) (w : Wire (Recorded ε)) :
    (teardown owner).exec w = (teardownWithin w.link.downPlans.length owner).exec w := by
  unfold teardown
  rw [Act.exec_bind_ok (exec_look w)]

theorem stepping_teardown (owner : Option Nat) :
    (teardown owner : Act (Wire (Recorded ε)) Unit).Stepping := by
  constructor
  case steps =>
    intro w hplain
    rw [exec_teardown]
    exact (stepping_teardownWithin _ owner).steps w hplain
  case honest =>
    intro w f hplain
    rw [exec_teardown]
    exact (stepping_teardownWithin _ owner).honest w f hplain

/-! ## §4. The operations. -/

theorem stepping_submit (method params : Json) :
    (submit method params : Act (Wire (Recorded ε)) Nat).Stepping :=
  stepping_submitWith stepping_teardown method params

/-- A command that is not awaited takes a number, and may be put on the wire. -/
theorem steps_notify (method params : Json) {w : Wire (Recorded ε)} (hplain : w.link.Plain) :
    Steps w ((notify method params).exec w).2 := by
  let e : Envelope := { id := w.link.nextId, method := method, params := params.orObject }
  unfold notify
  rw [Act.exec_bind_ok (exec_allocate w), Act.exec_bind_snd (fun _ _ => rfl)]
  rcases steps_sendWith stepping_teardown e (w := { w with link := w.link.allocate.2 }) hplain with
    ⟨m, hrefused⟩ | ⟨s, hsocket, hsent, _⟩
  · rw [hrefused]
    exact .single .numbered
  · exact .head (.notified hsocket) hsent

theorem steps_conclude (id : Nat) (method : Json) (w : Wire (Recorded ε)) :
    Steps w ((conclude id method).exec w).2 := by
  unfold conclude
  rw [Act.exec_bind_ok (exec_look w)]
  cases w.link.outcome? id with
  | none => exact .single (.dropped id)
  | some outcome => cases outcome <;> exact .refl

theorem stepping_close : (close : Act (Wire (Recorded ε)) Unit).Stepping :=
  .bind (stepping_update (fun _ => .shut)) (fun _ => stepping_teardown none)

/-- The end of reading a socket tears that socket down. -/
theorem exec_finish (s : Nat) (w : Wire (Recorded ε)) :
    ((finish s).exec w).2 = ((teardown (some s)).exec w).2 := by
  unfold finish
  rw [Act.exec_bind_snd (fun _ _ => rfl)]

theorem steps_finish (s : Nat) {w : Wire (Recorded ε)} (hplain : w.link.Plain) :
    Steps w ((finish s).exec w).2 := by
  rw [exec_finish]
  exact (stepping_teardown (some s)).steps w hplain

theorem steps_accept (message : List (String × Json)) (w : Wire (Recorded ε)) :
    Steps w ((accept message).exec w).2 := by
  have haccepts := accepts_accept message w
  generalize (accept message).exec w = r at haccepts
  cases haccepts with
  | notification hmethod => exact .refl
  | response hresponse => exact .single (.answered message)
  | neither hmethod hid => exact .refl

/-- Whatever frame was read, taking it in is made of steps. -/
theorem steps_takeIn (s : Nat) (frame : Frame) {w : Wire (Recorded ε)} (hplain : w.link.Plain) :
    Steps w ((takeIn s frame).exec w).2 := by
  rw [takeIn_eq]
  cases frame.intake with
  | object m => exact steps_accept m w
  | stop => exact steps_finish s hplain
  | deafen => exact .single .deafened
  | nothing => exact .refl

theorem steps_poll {w : Wire (Recorded ε)} (hplain : w.link.Plain) :
    Steps w (poll.exec w).2 := by
  have hpolls := polls_poll w
  generalize poll.exec w = r at hpolls
  cases hpolls with
  | idle hno => exact .refl
  | nothing hsocket hnone => exact .single (.read hsocket)
  | frame hsocket hframe => exact .head (.read hsocket) (steps_takeIn _ _ hplain)

end Wire
end FlowTrace
