/-
  FlowTrace.Proofs.Bridge.Given
  ────────────────────────────────
  **A BRIDGE KEEPS THE TABLE THAT IT WAS GIVEN.**

  A bridge is given a block table or none when it is made.  It learns tables of its own from
  the sources of scripts, but it keeps them apart: whatever the host says while the bridge is
  started, and however that ends, the given table is the same afterwards.

  Main result: `Site.given_start`.
-/
import FlowTrace.Proofs.Bridge.Growth
import FlowTrace.Proofs.Link.Severed

namespace FlowTrace
namespace Site

variable {ε α : Type} {table : Option BlockTable}

/-- The table that the bridge was given is this one. -/
def Given (table : Option BlockTable) (s : Site ε) : Prop := s.bridge.blocks = table

/-! ## §1. Pieces. -/

theorem given_update {f : Bridge → Bridge} (hf : ∀ b, (f b).blocks = b.blocks) :
    Act.Keeps (Given table) (update f : Act (Site ε) Unit) := fun s hs => (hf s.bridge).trans hs

theorem given_look : Act.Keeps (Given table) (look : Act (Site ε) Bridge) :=
  .of_snd_eq fun _ _ => rfl

theorem given_ofExcept (r : Except Fault α) :
    Act.Keeps (Given table) (Act.ofExcept r : Act (Site ε) α) := .of_snd_eq fun _ _ => rfl

theorem given_emit (e : Event) : Act.Keeps (Given table) (emit e : Act (Site ε) Unit) := by
  refine .bind given_look fun b => ?_
  induction b.config.listeners.filter (fun l => l.kind == e.kind) with
  | nil => exact .of_snd_eq fun _ _ => rfl
  | cons listener rest ih =>
    exact .bind (.bind (given_update fun _ => rfl) fun _ => .contained (given_ofExcept _))
      fun _ => ih

theorem given_publishException (e : Thrown) (t : Option BlockTable) :
    Act.Keeps (Given table) (publishException e t : Act (Site ε) Unit) :=
  .bind given_look fun _ => .bind (given_ofExcept _) fun _ => given_emit _

/-- A table that a source gives is put with those that were learnt. -/
theorem given_finishFetch (f : Fetch) (outcome : Outcome) :
    Act.Keeps (Given table) (finishFetch f outcome : Act (Site ε) Unit) := by
  cases outcome with
  | error _ => exact given_publishException _ _
  | ok result =>
    exact .bind given_look fun _ => .bind (given_ofExcept _) fun _ =>
      .bind (given_update fun _ => rfl) fun _ => given_publishException _ _

theorem given_heed (signal : Signal) :
    Act.Keeps (Given table) (heed signal : Act (Site ε) Unit) := by
  cases signal with
  | up => exact .of_snd_eq fun _ _ => rfl
  | down => exact .bind (given_update fun _ => rfl) fun _ => .bind given_look fun _ => given_emit _
  | completed id outcome =>
    refine .bind given_look fun b => ?_
    cases b.fetches.find? (fun f => f.id == id) with
    | none => exact .of_snd_eq fun _ _ => rfl
    | some f => exact .bind (given_update fun _ => rfl) fun _ => given_finishFetch f outcome

theorem given_heedLink : Act.Keeps (Given table) (heedLink : Act (Site ε) Unit) := by
  refine .bind given_look fun b => .bind (given_update fun _ => rfl) fun _ => ?_
  induction b.link.signals with
  | nil => exact .of_snd_eq fun _ _ => rfl
  | cons signal rest ih => exact .bind (.contained (given_heed signal)) fun _ => ih

/-- The step: an operation of the link does not reach the table, whatever signals it gives. -/
theorem given_onLink (a : Act (Wire ε) α) : Act.Keeps (Given table) (onLink a) :=
  .bind (.attempt fun _ hs => hs) fun _ => .bind given_heedLink fun _ => given_ofExcept _

theorem given_enterPause (url : String) (frame : Record) (params : Json) :
    Act.Keeps (Given table) (enterPause url frame params : Act (Site ε) Unit) := by
  refine .bind (given_ofExcept _) fun paused => .bind (given_update fun _ => rfl) fun _ =>
    .bind (given_ofExcept _) fun hits => .bind (given_update fun b => ?_) fun _ => given_emit _
  obtain ⟨_, hrecorded, -⟩ := Bridge.recordHits_eq paused hits b
  rw [hrecorded]

variable [Endpoint ε]

/-! ## §2. Messages. -/

theorem given_resume : Act.Keeps (Given table) (resume : Act (Site ε) Unit) :=
  .bind (given_update fun _ => rfl) fun _ => .bind (given_onLink _) fun _ =>
    .of_snd_eq fun _ _ => rfl

theorem given_onPaused (frames : List Record) (params : Json) :
    Act.Keeps (Given table) (onPaused frames params : Act (Site ε) Unit) := by
  cases frames with
  | nil => exact given_resume
  | cons frame rest =>
    exact .bind (given_ofExcept _) fun _ => .bind given_look fun _ =>
      .bind (given_ofExcept _) fun _ => .ite (given_enterPause _ _ _) given_resume

theorem given_onException (e : Thrown) :
    Act.Keeps (Given table) (onException e : Act (Site ε) Unit) := by
  refine .bind given_look fun b => .bind (given_ofExcept _) fun location =>
    .ite (given_publishException _ _) ?_
  dsimp only
  cases Fields.get? b.tables location.scriptId.text with
  | some t => exact given_publishException _ _
  | none =>
    refine .bind (.attempt (given_onLink _)) fun r => ?_
    cases r with
    | ok id => exact given_update fun _ => rfl
    | error f => exact .ite (given_publishException _ _) (.of_snd_eq fun _ _ => rfl)

theorem given_onMessage (m : Record) :
    Act.Keeps (Given table) (onMessage m : Act (Site ε) Unit) := by
  refine .bind (given_ofExcept _) fun n => ?_
  unfold onNotification
  cases n.report with
  | other => exact .of_snd_eq fun _ _ => rfl
  | scriptParsed scriptId url => exact given_update fun _ => rfl
  | paused frames reason => exact given_onPaused _ _
  | resumed => exact given_update fun _ => rfl
  | thrown e => exact given_onException e
  | console c => exact given_emit _

/-- Induction on the frames that may still be read. -/
theorem given_pump : Act.Keeps (Given table) (pump : Act (Site ε) Unit) := by
  refine .bind given_look fun b => ?_
  induction b.config.burst with
  | zero => exact .of_snd_eq fun _ _ => rfl
  | succ burst ih =>
    refine .bind (given_onLink _) fun p => ?_
    cases p with
    | idle => exact .of_snd_eq fun _ _ => rfl
    | handled => exact ih
    | notification m => exact .bind (.contained (given_onMessage m)) fun _ => ih

/-! ## §3. Starting. -/

theorem given_await (id : Nat) (method : Json) :
    Act.Keeps (Given table) (await id method : Act (Site ε) Json) :=
  .bind given_pump fun _ => given_onLink _

theorem given_command (method params : Json) :
    Act.Keeps (Given table) (command method params : Act (Site ε) Json) :=
  .bind (given_onLink _) fun id => given_await id method

theorem given_submitArming (bps : List Breakpoint) :
    Act.Keeps (Given table) (submitArming bps : Act (Site ε) (List Nat)) := by
  induction bps with
  | nil => exact .of_snd_eq fun _ _ => rfl
  | cons bp rest ih =>
    exact .bind (given_onLink _) fun _ => .bind ih fun _ => .of_snd_eq fun _ _ => rfl

theorem given_awaitArming (ids : List Nat) :
    Act.Keeps (Given table) (awaitArming ids : Act (Site ε) (List Json)) := by
  induction ids with
  | nil => exact .of_snd_eq fun _ _ => rfl
  | cons id rest ih =>
    refine .bind (.attempt (given_await _ _)) fun r => ?_
    have hrest (reply : Json) : Act.Keeps (Given table)
        (awaitArming rest >>= fun replies => pure (reply :: replies) : Act (Site ε) (List Json)) :=
      .bind ih fun _ => .of_snd_eq fun _ _ => rfl
    rcases r with f | v
    · cases f with
      | refused => exact .bind (.of_snd_eq fun _ _ => rfl) hrest
      | _ => exact .bind (.of_snd_eq fun _ _ => rfl) hrest
    · exact .bind (.of_snd_eq fun _ _ => rfl) hrest

omit [Endpoint ε] in
theorem given_assignIds (replies : List Json) : ∀ i,
    Act.Keeps (Given table) (assignIds i replies : Act (Site ε) Unit) := by
  induction replies with
  | nil => exact fun _ => .of_snd_eq fun _ _ => rfl
  | cons reply rest ih =>
    exact fun i => .bind (given_ofExcept _) fun _ => .bind (given_update fun _ => rfl) fun _ => ih _

theorem given_establish : Act.Keeps (Given table) (establish : Act (Site ε) Unit) :=
  .bind (given_onLink _) fun _ => .bind (given_command _ _) fun _ =>
    .bind (given_command _ _) fun _ => .bind
      (.bind given_look fun _ => .bind (given_submitArming _) fun _ =>
        .bind (given_awaitArming _) fun _ => .bind (given_assignIds _ _) fun _ =>
          .bind given_look fun _ => .of_snd_eq fun _ _ => rfl)
      fun _ => .of_snd_eq fun _ _ => rfl

/-- **Starting a bridge keeps the table that it was given**, however the start ends. -/
theorem given_start : Act.Keeps (Given table) (start : Act (Site ε) Unit) := by
  intro s hs
  rw [exec_start]
  split
  · exact hs
  · rw [exec_settlingOn]
    exact given_establish s.renewed hs

end Site
end FlowTrace
