/-
  FlowTrace.Proofs.Act
  ────────────────────────────────
  **RUNNING ACTIONS.**

  What each way of building an action does to a state.  With these an action is
  run step by step, and its definition as a monad transformer never shows.
-/
import FlowTrace.Act

namespace FlowTrace
namespace Act

variable {σ τ α β : Type}

/-- A sequence goes on from the state that its first action leaves, unless that
fails. -/
theorem exec_bind (a : Act σ α) (f : α → Act σ β) (s : σ) :
    (a >>= f).exec s = match a.exec s with
      | (.ok x, s') => (f x).exec s'
      | (.error e, s') => (.error e, s') := by
  show (ExceptT.run (a >>= f)).run s = _
  rw [ExceptT.run_bind]
  show (StateT.run (ExceptT.run a >>= _) s : Id _) = _
  rw [StateT.run_bind]
  unfold exec
  cases h : (StateT.run (ExceptT.run a) s : Id (Except Fault α × σ)) with
  | mk r s' =>
    cases r <;> rfl

theorem exec_bind_ok {a : Act σ α} {f : α → Act σ β} {s s' : σ} {x : α}
    (h : a.exec s = (.ok x, s')) : (a >>= f).exec s = (f x).exec s' := by
  rw [exec_bind, h]

theorem exec_bind_error {a : Act σ α} {f : α → Act σ β} {s s' : σ} {e : Fault}
    (h : a.exec s = (.error e, s')) : (a >>= f).exec s = (.error e, s') := by
  rw [exec_bind, h]

/-- A sequence that ends well has gone through both of its actions. -/
theorem of_exec_bind_ok {a : Act σ α} {f : α → Act σ β} {s s' : σ} {y : β}
    (h : (a >>= f).exec s = (.ok y, s')) :
    ∃ x s₁, a.exec s = (.ok x, s₁) ∧ (f x).exec s₁ = (.ok y, s') := by
  rw [exec_bind] at h
  cases hr : a.exec s with
  | mk r s₁ =>
    rw [hr] at h
    cases r with
    | error e => cases h
    | ok x => exact ⟨x, s₁, rfl, h⟩

/-- What follows an action and leaves the state alone does not change the state. -/
theorem exec_bind_snd {a : Act σ α} {f : α → Act σ β} (h : ∀ x s, ((f x).exec s).2 = s) (s : σ) :
    ((a >>= f).exec s).2 = (a.exec s).2 := by
  rw [exec_bind]
  cases hr : a.exec s with
  | mk r s' =>
    cases r with
    | error e => rfl
    | ok x => exact h x s'

@[simp] theorem exec_get (s : σ) : (get : Act σ σ).exec s = (.ok s, s) := rfl

@[simp] theorem exec_set (s s' : σ) : (set s' : Act σ PUnit).exec s = (.ok ⟨⟩, s') := rfl

@[simp] theorem exec_modify (f : σ → σ) (s : σ) :
    (modify f : Act σ PUnit).exec s = (.ok ⟨⟩, f s) := rfl

@[simp] theorem exec_ofFun (f : σ → Except Fault α × σ) (s : σ) : (ofFun f).exec s = f s := rfl

@[simp] theorem exec_ofExcept (r : Except Fault α) (s : σ) : (ofExcept r).exec s = (r, s) := rfl

@[simp] theorem exec_attempt (a : Act σ α) (s : σ) :
    (attempt a).exec s = (.ok (a.exec s).1, (a.exec s).2) := rfl

@[simp] theorem exec_within (part : σ → τ) (put : τ → σ → σ) (a : Act τ α) (s : σ) :
    (within part put a).exec s = ((a.exec (part s)).1, put (a.exec (part s)).2 s) := rfl

/-- Keeping faults back changes how an action ends and not the state it leaves. -/
@[simp] theorem exec_contained_snd (a : Act σ Unit) (s : σ) :
    ((contained a).exec s).2 = (a.exec s).2 := by
  unfold contained
  rw [exec_ofFun]
  cases h : (a.exec s).1 <;> simp only [h]

/-- A guard lets nothing pass but what no guard may keep. -/
theorem exec_contained_error {a : Act σ Unit} {s s' : σ} {f : Fault}
    (h : (contained a).exec s = (.error f, s')) :
    f.containable = false ∧ a.exec s = (.error f, s') := by
  unfold contained at h
  rw [exec_ofFun] at h
  cases hr : a.exec s with
  | mk r s₁ =>
    simp only [hr] at h
    cases r with
    | ok _ => cases h
    | error g =>
      by_cases hkeep : g.containable
      · simp [hkeep] at h
      · simp only [if_neg hkeep] at h
        cases h
        exact ⟨by simpa using hkeep, rfl⟩

/-- A guard around an action whose faults it may keep lets nothing pass. -/
theorem exec_contained_ok {a : Act σ Unit} {s : σ}
    (h : ∀ f, (a.exec s).1 = .error f → f.containable = true) :
    (contained a).exec s = (.ok (), (a.exec s).2) := by
  unfold contained
  rw [exec_ofFun]
  cases hr : (a.exec s).1 with
  | ok _ => simp only [hr]
  | error f => simp only [hr, h f hr, if_true]

/-- What ends well behind a guard that had nothing to keep has ended well by itself. -/
theorem of_exec_contained_ok {a : Act σ Unit} {s s' : σ}
    (ha : ∀ f s₁, a.exec s = (.error f, s₁) → f.containable = false)
    (h : (contained a).exec s = (.ok (), s')) : a.exec s = (.ok (), s') := by
  have hstate := congrArg Prod.snd h
  rw [exec_contained_snd] at hstate
  cases hr : a.exec s with
  | mk r s₁ =>
    rw [hr] at hstate
    cases r with
    | ok u => exact Prod.ext rfl hstate
    | error f =>
      unfold contained at h
      rw [exec_ofFun, hr] at h
      dsimp only at h
      rw [if_neg (by rw [ha f s₁ hr]; decide)] at h
      cases h

end Act
end FlowTrace
