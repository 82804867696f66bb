/-
  FlowTrace.Proofs.Simulation
  ────────────────────────────────
  **TWO ACTIONS IN STEP.**

  Two actions on two kinds of states simulate each other when related states lead to
  related states and to outcomes that agree: values in a relation, or one and the same
  fault.  Every way of building an action keeps this, so two runs of one program are
  compared piece by piece.
-/
import FlowTrace.Proofs.Act

namespace FlowTrace
namespace Act

variable {σ σ' τ τ' α α' β β' : Type} {R : σ → σ' → Prop} {V W : α → α' → Prop}

/-- The outcomes agree: values in the relation, or the same fault. -/
inductive Agree (V : α → α' → Prop) : Except Fault α → Except Fault α' → Prop
  | ok {x : α} {x' : α'} (h : V x x') : Agree V (.ok x) (.ok x')
  | error (f : Fault) : Agree V (.error f) (.error f)

/-- Outcomes that agree on equal values are equal. -/
theorem Agree.eq {r r' : Except Fault α} (h : Agree Eq r r') : r = r' := by
  cases h with
  | ok h => rw [h]
  | error f => rfl

theorem Agree.refl (r : Except Fault α) : Agree Eq r r := by
  cases r with
  | ok x => exact .ok rfl
  | error f => exact .error f

theorem Agree.of_eq {r r' : Except Fault α} (h : r = r') : Agree Eq r r' := h ▸ .refl r

theorem Agree.imp {r : Except Fault α} {r' : Except Fault α'} (h : Agree V r r')
    (himp : ∀ x x', V x x' → W x x') : Agree W r r' := by
  cases h with
  | ok h => exact .ok (himp _ _ h)
  | error f => exact .error f

/-- Related states lead to related states, and to outcomes that agree. -/
def Simulates (R : σ → σ' → Prop) (V : α → α' → Prop) (a : Act σ α) (a' : Act σ' α') : Prop :=
  ∀ s s', R s s' → Agree V (a.exec s).1 (a'.exec s').1 ∧ R (a.exec s).2 (a'.exec s').2

namespace Simulates

theorem pure {x : α} {x' : α'} (h : V x x') :
    Simulates R V (Pure.pure x : Act σ α) (Pure.pure x' : Act σ' α') :=
  fun _ _ hR => ⟨.ok h, hR⟩

theorem throw (f : Fault) :
    Simulates R V (MonadExcept.throw f : Act σ α) (MonadExcept.throw f : Act σ' α') :=
  fun _ _ hR => ⟨.error f, hR⟩

theorem ofExcept {r : Except Fault α} {r' : Except Fault α'} (h : Agree V r r') :
    Simulates R V (Act.ofExcept r : Act σ α) (Act.ofExcept r' : Act σ' α') :=
  fun _ _ hR => ⟨h, hR⟩

theorem ite {c : Prop} [Decidable c] {a b : Act σ α} {a' b' : Act σ' α'}
    (hpos : c → Simulates R V a a') (hneg : ¬c → Simulates R V b b') :
    Simulates R V (if c then a else b) (if c then a' else b') := by
  by_cases h : c
  · rw [if_pos h, if_pos h]
    exact hpos h
  · rw [if_neg h, if_neg h]
    exact hneg h

/-- Sequences stay in step when their parts do. -/
theorem bind {U : β → β' → Prop} {a : Act σ α} {a' : Act σ' α'} {f : α → Act σ β}
    {f' : α' → Act σ' β'} (h : Simulates R V a a')
    (hf : ∀ x x', V x x' → Simulates R U (f x) (f' x')) :
    Simulates R U (a >>= f) (a' >>= f') := by
  intro s s' hR
  obtain ⟨hagree, hR'⟩ := h s s' hR
  rw [exec_bind, exec_bind]
  cases hr : a.exec s with
  | mk r s₁ =>
    cases hr' : a'.exec s' with
    | mk r' s₁' =>
      rw [hr, hr'] at hagree hR'
      cases hagree with
      | ok hx => exact hf _ _ hx s₁ s₁' hR'
      | error f => exact ⟨.error f, hR'⟩

/-- What follows an action may rely on its value, when that is the same on both sides. -/
theorem bind_eq {U : β → β' → Prop} {a : Act σ α} {a' : Act σ' α} {f : α → Act σ β}
    {f' : α → Act σ' β'} (h : Simulates R Eq a a') (hf : ∀ x, Simulates R U (f x) (f' x)) :
    Simulates R U (a >>= f) (a' >>= f') := by
  refine .bind h fun x x' hx => ?_
  subst hx
  exact hf x

/-- What follows an action may rely on how each of the two has ended. -/
theorem attempt {a : Act σ α} {a' : Act σ' α'} (h : Simulates R V a a') :
    Simulates R (Agree V) (Act.attempt a) (Act.attempt a') := by
  intro s s' hR
  obtain ⟨hagree, hR'⟩ := h s s' hR
  exact ⟨.ok hagree, hR'⟩

/-- A guard keeps the same faults on both sides. -/
theorem contained {a : Act σ Unit} {a' : Act σ' Unit} (h : Simulates R Eq a a') :
    Simulates R Eq (Act.contained a) (Act.contained a') := by
  intro s s' hR
  obtain ⟨hagree, hR'⟩ := h s s' hR
  refine ⟨?_, by rwa [exec_contained_snd, exec_contained_snd]⟩
  have hresult : (a.exec s).1 = (a'.exec s').1 := hagree.eq
  unfold Act.contained
  rw [exec_ofFun, exec_ofFun]
  dsimp only
  rw [hresult]
  cases (a'.exec s').1 with
  | ok _ => exact .ok rfl
  | error f => exact .refl _

/-- An action on a part of the state. -/
theorem within {Q : τ → τ' → Prop} {part : σ → τ} {part' : σ' → τ'} {put : τ → σ → σ}
    {put' : τ' → σ' → σ'} {a : Act τ α} {a' : Act τ' α'} (h : Simulates Q V a a')
    (hpart : ∀ s s', R s s' → Q (part s) (part' s'))
    (hput : ∀ s s' t t', R s s' → Q t t' → R (put t s) (put' t' s')) :
    Simulates R V (Act.within part put a) (Act.within part' put' a') := by
  intro s s' hR
  obtain ⟨hagree, hQ⟩ := h _ _ (hpart s s' hR)
  exact ⟨hagree, hput s s' _ _ hR hQ⟩

end Simulates
end Act
end FlowTrace
