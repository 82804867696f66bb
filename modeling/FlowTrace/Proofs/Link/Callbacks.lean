/-
  FlowTrace.Proofs.Link.Callbacks
  ────────────────────────────────
  **THE CALLBACKS AT A LOSS.**

  A loss is told to callbacks, and these may lose the connection that they opened
  themselves.  The link counts how deep such losses may be nested, and every one
  of them takes a plan of its own, so the count is never used up:

      teardown  =  teardownWith (runDownPlan teardown)

  Each callback of the plan is called once, in order, whatever the ones before it
  did or ran into.
-/
import FlowTrace.Proofs.Link.Turn

namespace FlowTrace

variable {ε : Type} [Endpoint ε]

namespace Wire

/-! ## §1. The depth does not matter. -/

/-- The actions do the same to plain links that have at most `k` plans left. -/
def Alike {α : Type} (k : Nat) (a a' : Act (Wire (Recorded ε)) α) : Prop :=
  ∀ w, w.link.Plain → w.link.downPlans.length ≤ k → a.exec w = a'.exec w

omit [Endpoint ε] in
theorem Alike.refl {α : Type} (k : Nat) (a : Act (Wire (Recorded ε)) α) : Alike k a a :=
  fun _ _ _ => rfl

/-- Sequences are alike if their parts are: steps use plans up and bring none. -/
theorem Alike.bind {α β : Type} {k : Nat} {a a' : Act (Wire (Recorded ε)) α}
    {f f' : α → Act (Wire (Recorded ε)) β} (hstep : a.Stepping) (ha : Alike k a a')
    (hf : ∀ x, Alike k (f x) (f' x)) : Alike k (a >>= f) (a' >>= f') := by
  intro w hplain hk
  have hfirst := hstep.steps w hplain
  rw [Act.exec_bind, Act.exec_bind, ← ha w hplain hk]
  cases hr : a.exec w with
  | mk r v =>
    rw [hr] at hfirst
    cases r with
    | error e => rfl
    | ok x => exact hf x v (hfirst.plain hplain) (Nat.le_trans hfirst.plans.length_le hk)

omit [Endpoint ε] in
theorem Alike.contained {k : Nat} {a a' : Act (Wire (Recorded ε)) Unit} (ha : Alike k a a') :
    Alike k (Act.contained a) (Act.contained a') := by
  intro w hplain hk
  unfold Act.contained
  rw [Act.exec_ofFun, Act.exec_ofFun, ha w hplain hk]

section

variable {k : Nat} {down down' : Option Nat → Act (Wire (Recorded ε)) Unit}

theorem alike_sendWith (hdown : ∀ owner, Alike k (down owner) (down' owner)) (e : Envelope) :
    Alike k (sendWith down e) (sendWith down' e) := by
  intro w hplain hk
  unfold sendWith
  rw [Act.exec_bind_ok (exec_look w), Act.exec_bind_ok (exec_look w)]
  by_cases hshut : w.link.shutdown
  · rw [if_pos hshut, if_pos hshut]
    rfl
  rw [if_neg hshut, if_neg hshut]
  cases w.link.socket with
  | none => rfl
  | some s =>
    show (onNetwork _ >>= _).exec w = (onNetwork _ >>= _).exec w
    rw [Act.exec_bind_ok (exec_onNetwork _ w), Act.exec_bind_ok (exec_onNetwork _ w)]
    cases (w.network.send s e).1 with
    | ok _ => rfl
    | error b =>
      cases b with
      | interrupted => rfl
      | error text =>
        show (down (some s) >>= _).exec _ = (down' (some s) >>= _).exec _
        rw [Act.exec_bind, Act.exec_bind, 
          hdown (some s) { w with network := (w.network.send s e).2 } hplain hk]

theorem alike_submitWith (hdown : ∀ owner, Alike k (down owner) (down' owner))
    (method params : Json) :
    Alike k (submitWith down method params false) (submitWith down' method params false) := by
  intro w hplain hk
  rw [exec_submitWith, exec_submitWith]
  congr 1
  exact alike_sendWith hdown _ _ (Link.Plain.addPending (l := w.link.allocate.2) hplain rfl) hk

theorem alike_runDownActions (hdown : ∀ owner, Alike k (down owner) (down' owner))
    (hstep : ∀ owner, (down owner).Stepping) (actions : List DownAction) :
    Alike k (runDownActions down actions) (runDownActions down' actions) := by
  induction actions with
  | nil => exact .refl k _
  | cons action rest ih =>
    cases action with
    | connect => exact .bind stepping_connect (.refl k _) (fun _ => ih)
    | submit method =>
      exact .bind (stepping_submitWith hstep _ _) (alike_submitWith hdown _ _) (fun _ => ih)
    | fail => exact .refl k _

theorem alike_runDownPlan (hdown : ∀ owner, Alike k (down owner) (down' owner))
    (hstep : ∀ owner, (down owner).Stepping) (plan : List (List DownAction)) :
    Alike k (runDownPlan down plan) (runDownPlan down' plan) := by
  induction plan with
  | nil => exact .refl k _
  | cons actions rest ih =>
    exact .bind (.contained (stepping_runDownActions hstep actions))
      (.contained (alike_runDownActions hdown hstep actions)) (fun _ => ih)

end

/-- A loss takes a plan, or there is nothing to be done about it. -/
theorem callbacks_cases (l : Link) :
    l.callbacks = [] ∨ l.fallen.downPlans.length + 1 = l.downPlans.length := by
  unfold Link.callbacks Link.fallen
  by_cases hon : l.status = .connected
  · rw [if_pos hon]
    cases hplans : l.downPlans with
    | nil => exact .inl rfl
    | cons plan rest =>
      right
      have hstatus : ({ l.failing l.pending with pending := [] } : Link).status = .connected := hon
      rw [Link.disconnected_of_connected hstatus]
      show (l.downPlans.drop 1).length + 1 = _
      rw [hplans]
      rfl
  · rw [if_neg hon]
    exact .inl rfl

/-- Teardowns are alike if what is done at the loss is, once it has taken its plan. -/
theorem alike_teardownWith {k : Nat}
    {onDown onDown' : List (List DownAction) → Act (Wire (Recorded ε)) Unit}
    (hnil : onDown [] = pure ()) (hnil' : onDown' [] = pure ())
    (hdown : ∀ plan w, w.link.Plain → w.link.downPlans.length < k →
      (onDown plan).exec w = (onDown' plan).exec w) (owner : Option Nat) :
    Alike k (teardownWith onDown owner) (teardownWith onDown' owner) := by
  intro w hplain hk
  rcases tearing_cases owner hplain with hstale | ⟨s, _, _, hcut⟩ | ⟨v, hstep, hplans, hfell⟩
  · rw [hstale, hstale]
  · rw [hcut, hcut]
  · rw [hfell onDown hnil, hfell onDown' hnil']
    -- there is nothing to call, or the loss has taken a plan, so that fewer are left
    rcases callbacks_cases w.link with hnone | htaken
    · rw [hnone, hnil, hnil']
    · refine hdown _ v (hstep.plain hplain) ?_
      rw [hplans]
      omega

/-- Any two depths that the plans left fit into do the same. -/
theorem alike_teardownWithin (k : Nat) : ∀ n m owner, k ≤ n → k ≤ m →
    Alike k (teardownWithin n owner : Act (Wire (Recorded ε)) Unit) (teardownWithin m owner) := by
  -- Induction on the number of plans: a loss takes one, and what is nested in it has one
  -- plan and one level less.
  induction k with
  | zero =>
    intro n m owner _ _
    cases n <;> cases m <;>
      exact alike_teardownWith rfl rfl (fun _ _ _ hk => absurd hk (Nat.not_lt_zero _)) owner
  | succ k ih =>
    intro n m owner hn hm
    obtain ⟨n, rfl⟩ : ∃ n', n = n' + 1 := ⟨n - 1, by omega⟩
    obtain ⟨m, rfl⟩ : ∃ m', m = m' + 1 := ⟨m - 1, by omega⟩
    refine alike_teardownWith rfl rfl (fun plan w hplain hk => ?_) owner
    have hinner : ∀ owner, Alike k (teardownWithin n owner : Act (Wire (Recorded ε)) Unit)
        (teardownWithin m owner) := fun owner => ih n m owner (by omega) (by omega)
    exact alike_runDownPlan hinner (stepping_teardownWithin n) plan w hplain (by omega)

theorem alike_teardown (k : Nat) (owner : Option Nat) :
    Alike k (teardown owner : Act (Wire (Recorded ε)) Unit) (teardownWithin k owner) := by
  intro w hplain hk
  rw [exec_teardown]
  exact alike_teardownWithin _ _ k owner (Nat.le_refl _) hk w hplain (Nat.le_refl _)

/-- **Tearing down has no depth**: what is done at a loss may tear down in turn. -/
theorem exec_teardown_unbounded (owner : Option Nat) {w : Wire (Recorded ε)}
    (hplain : w.link.Plain) :
    (teardown owner).exec w = (teardownWith (runDownPlan teardown) owner).exec w := by
  have hmore := alike_teardownWithin (ε := ε) w.link.downPlans.length w.link.downPlans.length
    (w.link.downPlans.length + 1) owner (Nat.le_refl _) (Nat.le_succ _) w hplain (Nat.le_refl _)
  rw [exec_teardown, hmore]
  refine alike_teardownWith rfl rfl (fun plan v hv hk => ?_) owner w hplain (Nat.le_refl _)
  have hsame : ∀ owner, Alike w.link.downPlans.length
      (teardown owner : Act (Wire (Recorded ε)) Unit) (teardownWithin w.link.downPlans.length owner) :=
    alike_teardown _
  exact (alike_runDownPlan hsame stepping_teardown plan v hv (by omega)).symm

/-! ## §2. Every callback is called once. -/

/-- The state after callbacks, each called once, in order. -/
def afterCallbacks (w : Wire (Recorded ε)) (plan : List (List DownAction)) : Wire (Recorded ε) :=
  plan.foldl (fun v actions => ((runDownActions teardown actions).exec v).2) w

/-- What a callback runs into does not keep the ones after it from being called. -/
theorem exec_runDownPlan (plan : List (List DownAction)) : ∀ w : Wire (Recorded ε),
    w.link.Plain → Uninterrupted ((runDownPlan teardown plan).exec w).2.conversation →
      (runDownPlan teardown plan).exec w = (.ok (), w.afterCallbacks plan) := by
  induction plan with
  | nil => exact fun w _ _ => rfl
  | cons actions rest ih =>
    intro w hplain hclean
    have hstep := Act.Stepping.contained (stepping_runDownActions (ε := ε) stepping_teardown actions)
    have hafter : ((Act.contained (runDownActions teardown actions)).exec w).2
        = ((runDownActions teardown actions).exec w).2 := Act.exec_contained_snd _ _
    unfold runDownPlan at hclean ⊢
    cases hr : (Act.contained (runDownActions teardown actions)).exec w with
    | mk r v =>
      rw [hr] at hafter
      cases r with
      | ok _ =>
        have hv : v.link.Plain := by
          have := (hstep.steps w hplain).plain hplain
          rwa [hr] at this
        rw [Act.exec_bind_ok hr] at hclean ⊢
        rw [ih v hv hclean]
        unfold afterCallbacks
        rw [List.foldl_cons, ← hafter]
      | error f =>
        -- only an interruption passes the guard around a callback
        exfalso
        rw [Act.exec_bind_error hr] at hclean
        have hkept := (Act.exec_contained_error hr).1
        have := hstep.honest w f hplain (by rw [hr]) hkept
        rw [hr] at this
        exact this hclean

/-- **The loss of the current connection**: the link falls, and every callback of the
plan for this loss is called once, in order. -/
theorem exec_teardown_loss {w : Wire (Recorded ε)} {owner : Option Nat} {s : Nat}
    (hplain : w.link.Plain) (hsocket : w.link.socket = some s) (howner : w.OwnedBy owner)
    (hclean : Uninterrupted ((teardown owner).exec w).2.conversation) :
    (teardown owner).exec w = (.ok (), (w.hangUp s).fallen.afterCallbacks w.link.callbacks) := by
  rw [exec_teardown_unbounded owner hplain] at hclean ⊢
  by_cases hclose : (w.network.close s).1 = .error .interrupted
  · exfalso
    rw [exec_teardownWith_interrupted hsocket howner hclose] at hclean
    revert hclean
    show ¬ Uninterrupted (w.network.close s).2.conversation
    rw [Network.conversation_close, hclose]
    exact not_uninterrupted_append rfl
  · rw [exec_teardownWith rfl hplain hsocket howner hclose] at hclean ⊢
    exact exec_runDownPlan _ _ (.fallen _) hclean

/-- **The end of a stale reader**: it changes nothing. -/
theorem exec_finish_stale {w : Wire (Recorded ε)} {s : Nat} (hstale : w.link.socket ≠ some s) :
    (finish s).exec w = (.ok .handled, w) := by
  have hteardown : (teardown (some s)).exec w = (.ok (), w) := by
    rw [exec_teardown]
    cases w.link.downPlans.length with
    | zero => exact exec_teardownWith_stale hstale
    | succ n => exact exec_teardownWith_stale hstale
  unfold finish
  rw [Act.exec_bind_ok hteardown]
  rfl

end Wire
end FlowTrace
