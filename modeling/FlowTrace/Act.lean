/-
  FlowTrace.Act
  ────────────────────────────────
  **ACTIONS THAT KEEP THE STATE WHEN THEY FAIL.**

  An action changes a state and ends with a value or a fault.  What it
  changed before the fault stays changed: a connection that is torn down in
  the middle of a failing command is gone.
-/
import FlowTrace.Fault

namespace FlowTrace

/-- An action on a state. -/
abbrev Act (σ : Type) := ExceptT Fault (StateM σ)

namespace Act

variable {σ τ α : Type}

/-- The outcome of an action and the state it leaves. -/
def exec (a : Act σ α) (s : σ) : Except Fault α × σ := (ExceptT.run a).run s

/-- The action with a given outcome and state after it. -/
def ofFun (f : σ → Except Fault α × σ) : Act σ α := ExceptT.mk (fun s => f s)

/-- The outcome of an action as a value: the action itself never fails. -/
def attempt (a : Act σ α) : Act σ (Except Fault α) :=
  ofFun (fun s => let r := a.exec s; (.ok r.1, r.2))

/-- The action with a given outcome. -/
def ofExcept (r : Except Fault α) : Act σ α := ofFun (fun s => (r, s))

/-- The action whose faults stay with it, except those that no guard may keep. -/
def contained (a : Act σ Unit) : Act σ Unit :=
  ofFun (fun s =>
    let r := a.exec s
    match r.1 with
    | .error f => (if f.containable then .ok () else .error f, r.2)
    | .ok _ => (.ok (), r.2))

/-- An action on a part of the state. -/
def within (part : σ → τ) (put : τ → σ → σ) (a : Act τ α) : Act σ α :=
  ofFun (fun s => let r := a.exec (part s); (r.1, put r.2 s))

end Act
end FlowTrace
