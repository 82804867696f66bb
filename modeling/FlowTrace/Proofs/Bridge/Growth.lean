/-
  FlowTrace.Proofs.Bridge.Growth
  ────────────────────────────────
  **WHAT WAS SAID STAYS SAID.**

  Whatever a bridge does, exchanges are only added to the conversation, at its end.
  So a property of everything that is said in the course of an operation holds of
  what was said when any part of it had ended.
-/
import FlowTrace.Bridge.Operations
import FlowTrace.Proofs.Bridge.Heed
import FlowTrace.Proofs.Debug.Registry

namespace FlowTrace

/-- Noting a frame at breakpoints changes what was seen there, and that is all. -/
theorem Bridge.recordHits_eq (frame : PausedFrame) (ids : List Json) : ∀ b : Bridge,
    ∃ registry, b.recordHits frame ids = { b with registry := registry } ∧
      registry.outline = b.registry.outline := by
  induction ids with
  | nil => exact fun b => ⟨b.registry, rfl, rfl⟩
  | cons id rest ih =>
    intro b
    unfold recordHits
    cases b.registry.indexOfId? id with
    | none => exact ih b
    | some i =>
      let noted : Bridge :=
        { b with
          registry := b.registry.modify i (fun bp =>
            { bp with hitFrame := some frame.frame, hitScopes := frame.scopeChain }) }
      obtain ⟨registry, hrest, houtline⟩ := ih noted
      exact ⟨registry, hrest,
        houtline.trans (b.registry.outline_modify i _ (fun _ => rfl))⟩

namespace Site

variable {ε : Type}

/-! ## §1. Growing. -/

/-- The conversation of a site. -/
def conversation (s : Site (Recorded ε)) : List Exchange := s.network.conversation

/-- The listeners are tame, and no submitter connects again by itself. -/
structure Sane (s : Site ε) : Prop where
  tame : s.bridge.config.Tame
  plain : s.bridge.link.Plain

theorem Sane.aside {s s' : Site ε} (h : s.Sane) (haside : Aside s s') : s'.Sane where
  tame := by rw [haside.config]; exact h.tame
  plain := by rw [haside.link]; exact h.plain

/-- The action keeps a site sane, and whatever was said before stays said. -/
def Grows {α : Type} (a : Act (Site (Recorded ε)) α) : Prop :=
  ∀ s, s.Sane → (a.exec s).2.Sane ∧ s.conversation <+: (a.exec s).2.conversation

namespace Grows

variable {α β : Type}

theorem bind {a : Act (Site (Recorded ε)) α} {f : α → Act (Site (Recorded ε)) β} (ha : Grows a)
    (hf : ∀ x, Grows (f x)) : Grows (a >>= f) := by
  intro s hsane
  have hfirst := ha s hsane
  rw [Act.exec_bind]
  cases hr : a.exec s with
  | mk r s₁ =>
    rw [hr] at hfirst
    cases r with
    | error e => exact hfirst
    | ok x =>
      have hrest := hf x s₁ hfirst.1
      exact ⟨hrest.1, hfirst.2.trans hrest.2⟩

/-- What was said up to some point of a sequence was said at its end. -/
theorem conversation_bind {a : Act (Site (Recorded ε)) α} {f : α → Act (Site (Recorded ε)) β}
    (ha : Grows a) (hf : ∀ x, Grows (f x)) {s : Site (Recorded ε)} (hsane : s.Sane) :
    (a.exec s).2.conversation <+: ((a >>= f).exec s).2.conversation := by
  have hfirst := ha s hsane
  rw [Act.exec_bind]
  cases hr : a.exec s with
  | mk r s₁ =>
    rw [hr] at hfirst
    cases r with
    | error e => exact List.prefix_refl _
    | ok x => exact (hf x s₁ hfirst.1).2

theorem of_snd_eq {a : Act (Site (Recorded ε)) α} (h : ∀ s, (a.exec s).2 = s) : Grows a := by
  intro s hsane
  rw [h s]
  exact ⟨hsane, List.prefix_refl _⟩

theorem setsAside {a : Act (Site (Recorded ε)) α} (ha : SetsAside a) : Grows a := by
  intro s hsane
  obtain ⟨_, haside⟩ := ha s hsane.tame
  refine ⟨hsane.aside haside, ?_⟩
  unfold conversation
  simp only [haside.network, List.prefix_refl]

theorem update {f : Bridge → Bridge} (hlink : ∀ b, (f b).link = b.link)
    (hconfig : ∀ b, (f b).config = b.config) :
    Grows (update f : Act (Site (Recorded ε)) Unit) := by
  intro s hsane
  refine ⟨⟨?_, ?_⟩, List.prefix_refl _⟩
  · show (f s.bridge).config.Tame
    rw [hconfig]
    exact hsane.tame
  · show (f s.bridge).link.Plain
    rw [hlink]
    exact hsane.plain

theorem attempt {a : Act (Site (Recorded ε)) α} (ha : Grows a) : Grows (Act.attempt a) :=
  fun s hsane => ha s hsane

theorem contained {a : Act (Site (Recorded ε)) Unit} (ha : Grows a) : Grows (Act.contained a) := by
  intro s hsane
  rw [Act.exec_contained_snd]
  exact ha s hsane

/-- An operation of the link that is made of steps. -/
theorem onLink [Endpoint ε] {a : Act (Wire (Recorded ε)) α}
    (ha : ∀ w, w.link.Plain → Wire.Steps w (a.exec w).2) : Grows (onLink a) := by
  intro s hsane
  obtain ⟨s', hexec, haside⟩ := exec_onLink (a := a) (s := s) hsane.tame rfl
  have hsteps := ha s.wire hsane.plain
  have hrewired : (s.rewired (a.exec s.wire).2).Sane := ⟨hsane.tame, hsteps.plain hsane.plain⟩
  have hheeded : ((s.rewired (a.exec s.wire).2).heeded (a.exec s.wire).2.link.changes).Sane := by
    unfold heeded
    split
    · exact ⟨hrewired.tame, hrewired.plain⟩
    · exact hrewired
  rw [hexec]
  refine ⟨hheeded.aside haside, ?_⟩
  unfold conversation
  rw [haside.network, heeded_network]
  exact hsteps.conversation

end Grows

/-! ## §2. Reading. -/

theorem grows_enterPause (url : String) (frame : Record) (params : Json) :
    Grows (enterPause url frame params : Act (Site (Recorded ε)) Unit) := by
  refine .bind (.of_snd_eq fun _ => rfl) fun paused => ?_
  refine .bind (.update (fun _ => rfl) (fun _ => rfl)) fun _ => ?_
  refine .bind (.of_snd_eq fun _ => rfl) fun hits => ?_
  refine .bind (.update (fun b => ?_) (fun b => ?_)) fun _ => .setsAside (.emit _)
  all_goals
    obtain ⟨registry, hhits, _⟩ := Bridge.recordHits_eq paused hits b
    rw [hhits]

/-- What becomes of an exception whose script was asked for. -/
def requested (scriptId : String) (e : Thrown) : Except Fault Nat → Act (Site ε) Unit
  | .ok id => update (fun b =>
      { b with fetches := b.fetches ++ [{ id := id, scriptId := scriptId, exception := e }] })
  | .error f => if f.isLink then publishException e none else throw f

theorem grows_requested (scriptId : String) (e : Thrown) (r : Except Fault Nat) :
    Grows (requested scriptId e r : Act (Site (Recorded ε)) Unit) := by
  cases r with
  | ok id => exact .update (fun _ => rfl) (fun _ => rfl)
  | error f =>
    show Grows (if f.isLink then publishException e none else throw f
      : Act (Site (Recorded ε)) Unit)
    by_cases hlink : f.isLink
    · rw [if_pos hlink]
      exact .setsAside (.publishException _ _)
    · rw [if_neg hlink]
      exact .of_snd_eq fun _ => rfl

variable [Endpoint ε]

/-- The request for the source of a script. -/
def asking (scriptId : String) : Act (Site ε) Nat :=
  onLink (Wire.submit "Debugger.getScriptSource" (.obj [("scriptId", .str scriptId)]))

theorem grows_asking (scriptId : String) :
    Grows (asking scriptId : Act (Site (Recorded ε)) Nat) :=
  .onLink fun w hplain => (Wire.stepping_submit _ _).steps w hplain

theorem grows_resume : Grows (resume : Act (Site (Recorded ε)) Unit) :=
  .bind (.update (fun _ => rfl) (fun _ => rfl)) fun _ =>
    .bind (.onLink fun _ hplain => Wire.steps_notify _ _ hplain) fun _ => .of_snd_eq fun _ => rfl

theorem grows_onPaused (frames : List Record) (params : Json) :
    Grows (onPaused frames params : Act (Site (Recorded ε)) Unit) := by
  cases frames with
  | nil => exact grows_resume
  | cons frame rest =>
    refine .bind (.of_snd_eq fun _ => rfl) fun scriptId => ?_
    refine .bind (.of_snd_eq fun _ => rfl) fun b => ?_
    refine .bind (.of_snd_eq fun _ => rfl) fun flow => ?_
    cases flow with
    | false => exact grows_resume
    | true => exact grows_enterPause _ _ _

theorem grows_onException (e : Thrown) : Grows (onException e : Act (Site (Recorded ε)) Unit) := by
  refine .bind (.of_snd_eq fun _ => rfl) fun b => ?_
  refine .bind (.of_snd_eq fun _ => rfl) fun location => ?_
  by_cases hgiven : b.blocks.isSome || !location.scriptId.truthy
  · rw [if_pos hgiven]
    exact .setsAside (.publishException _ _)
  rw [if_neg hgiven]
  dsimp only
  cases Fields.get? b.tables location.scriptId.text with
  | some table => exact .setsAside (.publishException _ _)
  | none => exact .bind (.attempt (grows_asking _)) fun r => grows_requested _ e r

theorem grows_onMessage (message : Record) :
    Grows (onMessage message : Act (Site (Recorded ε)) Unit) := by
  refine .bind (.of_snd_eq fun _ => rfl) fun n => ?_
  unfold onNotification
  cases n.report with
  | other => exact .of_snd_eq fun _ => rfl
  | scriptParsed scriptId url => exact .update (fun _ => rfl) (fun _ => rfl)
  | paused frames reason => exact grows_onPaused _ _
  | resumed => exact .update (fun _ => rfl) (fun _ => rfl)
  | thrown e => exact grows_onException e
  | console c => exact .setsAside (.emit _)

/-- What a pump does after a poll. -/
def afterPoll (burst : Nat) : Wire.Poll → Act (Site ε) Unit
  | .idle => return
  | .handled => pumpWith (onLink Wire.poll) onMessage burst
  | .notification message => do
      Act.contained (onMessage message)
      pumpWith (onLink Wire.poll) onMessage burst

theorem pumpWith_succ (burst : Nat) :
    (pumpWith (onLink Wire.poll) onMessage (burst + 1) : Act (Site ε) Unit)
      = onLink Wire.poll >>= afterPoll burst := by
  rw [pumpWith]
  congr 1

theorem grows_afterPoll {burst : Nat}
    (h : Grows (pumpWith (onLink Wire.poll) onMessage burst : Act (Site (Recorded ε)) Unit))
    (p : Wire.Poll) : Grows (afterPoll burst p : Act (Site (Recorded ε)) Unit) := by
  cases p with
  | idle => exact .of_snd_eq fun _ => rfl
  | handled => exact h
  | notification message => exact .bind (.contained (grows_onMessage message)) fun _ => h

theorem grows_pumpWith (burst : Nat) :
    Grows (pumpWith (onLink Wire.poll) onMessage burst : Act (Site (Recorded ε)) Unit) := by
  induction burst with
  | zero => exact .of_snd_eq fun _ => rfl
  | succ burst ih =>
    rw [pumpWith_succ]
    exact .bind (.onLink fun w hplain => Wire.steps_poll hplain) fun p => grows_afterPoll ih p

theorem grows_pump : Grows (pump : Act (Site (Recorded ε)) Unit) :=
  .bind (.of_snd_eq fun _ => rfl) fun b => grows_pumpWith b.config.burst

/-! ## §3. Operations. -/

theorem grows_submit (method params : Json) :
    Grows (onLink (Wire.submit method params) : Act (Site (Recorded ε)) Nat) :=
  .onLink fun w hplain => (Wire.stepping_submit _ _).steps w hplain

theorem grows_conclude (id : Nat) (method : Json) :
    Grows (onLink (Wire.conclude id method) : Act (Site (Recorded ε)) Json) :=
  .onLink fun w _ => Wire.steps_conclude id method w

theorem grows_await (id : Nat) (method : Json) :
    Grows (await id method : Act (Site (Recorded ε)) Json) :=
  .bind grows_pump fun _ => grows_conclude id method

theorem grows_command (method params : Json) :
    Grows (command method params : Act (Site (Recorded ε)) Json) :=
  .bind (grows_submit method params) fun id => grows_await id method

theorem grows_submitArming (bps : List Breakpoint) :
    Grows (submitArming bps : Act (Site (Recorded ε)) (List Nat)) := by
  induction bps with
  | nil => exact .of_snd_eq fun _ => rfl
  | cons bp rest ih =>
    exact .bind (grows_submit _ _) fun _ => .bind ih fun _ => .of_snd_eq fun _ => rfl

/-- What was said in sending the first of the commands to arm was said when all were sent. -/
theorem prefix_submitArming {s : Site (Recorded ε)} (hsane : s.Sane) (bp : Breakpoint)
    (rest : List Breakpoint) :
    ((onLink (Wire.submit armMethod (armParams bp))).exec s).2.conversation
      <+: ((submitArming (bp :: rest)).exec s).2.conversation :=
  Grows.conversation_bind (grows_submit armMethod (armParams bp))
    (fun _ => .bind (grows_submitArming rest) fun _ => .of_snd_eq fun _ => rfl) hsane

/-- What an arming came to: null for one that was refused. -/
def armingReply : Except Fault Json → Act (Site ε) Json
  | .ok v => pure v
  | .error (.refused _ _ _ _) => pure .null
  | .error f => throw f

omit [Endpoint ε] in
theorem exec_armingReply_snd (r : Except Fault Json) (s : Site ε) :
    ((armingReply r).exec s).2 = s := by
  unfold armingReply
  split <;> rfl

theorem awaitArming_cons (id : Nat) (rest : List Nat) :
    (awaitArming (id :: rest) : Act (Site ε) (List Json)) = (do
      let r ← Act.attempt (await id armMethod)
      let reply ← armingReply r
      let replies ← awaitArming rest
      return reply :: replies) := by
  rw [awaitArming]
  congr 1
  funext r
  cases r with
  | ok v => rfl
  | error f => cases f <;> rfl

theorem grows_awaitArming (ids : List Nat) :
    Grows (awaitArming ids : Act (Site (Recorded ε)) (List Json)) := by
  induction ids with
  | nil => exact .of_snd_eq fun _ => rfl
  | cons id rest ih =>
    rw [awaitArming_cons]
    exact .bind (.attempt (grows_await _ _)) fun r =>
      .bind (.of_snd_eq (exec_armingReply_snd r)) fun _ => .bind ih fun _ => .of_snd_eq fun _ => rfl

/-- What was said in waiting for the first of the replies was said when all were waited for. -/
theorem prefix_awaitArming {s : Site (Recorded ε)} (hsane : s.Sane) (id : Nat) (rest : List Nat) :
    ((await id armMethod).exec s).2.conversation
      <+: ((awaitArming (id :: rest)).exec s).2.conversation := by
  rw [awaitArming_cons]
  exact Grows.conversation_bind (.attempt (grows_await id armMethod))
    (fun r => .bind (.of_snd_eq (exec_armingReply_snd r)) fun _ =>
      .bind (grows_awaitArming rest) fun _ => .of_snd_eq fun _ => rfl) hsane

omit [Endpoint ε] in
theorem grows_assignIds (replies : List Json) : ∀ i,
    Grows (assignIds i replies : Act (Site (Recorded ε)) Unit) := by
  induction replies with
  | nil => exact fun _ => .of_snd_eq fun _ => rfl
  | cons reply rest ih =>
    exact fun i => .bind (.of_snd_eq fun _ => rfl) fun _ =>
      .bind (.update (fun _ => rfl) (fun _ => rfl)) fun _ => ih _

theorem grows_armBreakpoints : Grows (armBreakpoints : Act (Site (Recorded ε)) (List Breakpoint)) :=
  .bind (.of_snd_eq fun _ => rfl) fun _ => .bind (grows_submitArming _) fun _ =>
    .bind (grows_awaitArming _) fun _ => .bind (grows_assignIds _ _) fun _ =>
      .of_snd_eq fun _ => rfl

/-- What is left to do once the reports of the host are enabled. -/
def arming : Act (Site ε) Unit := do
  let _ ← command "Runtime.enable" (.obj [])
  let _ ← armBreakpoints

/-- What is left to do once there is a connection. -/
def enabling : Act (Site ε) Unit := do
  let _ ← command "Debugger.enable" (.obj [])
  arming

theorem establish_eq :
    (establish : Act (Site ε) Unit) = onLink Wire.connect >>= fun _ => enabling := rfl

theorem grows_arming : Grows (arming : Act (Site (Recorded ε)) Unit) :=
  .bind (grows_command _ _) fun _ => .bind grows_armBreakpoints fun _ => .of_snd_eq fun _ => rfl

theorem grows_enabling : Grows (enabling : Act (Site (Recorded ε)) Unit) :=
  .bind (grows_command _ _) fun _ => grows_arming

theorem grows_connect : Grows (onLink Wire.connect : Act (Site (Recorded ε)) Unit) :=
  .onLink fun w hplain => Wire.stepping_connect.steps w hplain

theorem grows_establish : Grows (establish : Act (Site (Recorded ε)) Unit) := by
  rw [establish_eq]
  exact .bind grows_connect fun _ => grows_enabling

/-- What is left to do once it is known how starting went. -/
def settlingOn : Except Fault Unit → Act (Site ε) Unit
  | .ok _ => update (fun b => if b.status = .connecting then { b with status := .ready } else b)
  | .error f => do
      if f.isLink then
        update (fun b => if b.status = .connecting then { b with status := .disconnected } else b)
      throw f

/-- The bridge as a new connection finds it. -/
def renewed (s : Site ε) : Site ε := { s with bridge := s.bridge.renew }

theorem start_eq : (start : Act (Site ε) Unit) = (do
    if (← look).stopped then throw (.link "bridge closed")
    update Bridge.renew
    Act.attempt establish >>= settlingOn) := rfl

/-- A bridge that was not stopped for good is renewed, and settles on how it went. -/
theorem exec_start (s : Site ε) : (start : Act (Site ε) Unit).exec s =
    if s.bridge.stopped then (.error (.link "bridge closed"), s)
    else (settlingOn (establish.exec s.renewed).1).exec (establish.exec s.renewed).2 := by
  unfold start
  rw [Act.exec_bind_ok (exec_look s)]
  by_cases hstopped : s.bridge.stopped
  · rw [if_pos hstopped, if_pos hstopped]
    rfl
  · rw [if_neg hstopped, if_neg hstopped, Act.exec_bind_ok (exec_update _ s),
      Act.exec_bind_ok (Act.exec_attempt _ _)]
    unfold renewed
    cases (establish.exec { s with bridge := s.bridge.renew }).1 <;> rfl

/-- The status once it is known how starting went. -/
def settledStatus (r : Except Fault Unit) (status : BridgeStatus) : BridgeStatus :=
  match r with
  | .ok _ => if status = .connecting then .ready else status
  | .error f => if f.isLink ∧ status = .connecting then .disconnected else status

omit [Endpoint ε] in
/-- Only a bridge that was starting settles. -/
theorem settledStatus_cases (r : Except Fault Unit) (status : BridgeStatus) :
    settledStatus r status = status ∨ (status = .connecting ∧
      (settledStatus r status = .ready ∨ settledStatus r status = .disconnected)) := by
  cases r with
  | ok _ =>
    unfold settledStatus
    by_cases hstatus : status = .connecting <;> simp [hstatus]
  | error f =>
    unfold settledStatus
    by_cases hsettles : f.isLink ∧ status = .connecting
    · exact .inr ⟨hsettles.2, .inr (if_pos hsettles)⟩
    · exact .inl (if_neg hsettles)

omit [Endpoint ε] in
theorem settledStatus_eq_paused (r : Except Fault Unit) (status : BridgeStatus) :
    settledStatus r status = .paused ↔ status = .paused := by
  rcases settledStatus_cases r status with hsame | ⟨rfl, hready | hdisconnected⟩
  · rw [hsame]
  · simp [hready]
  · simp [hdisconnected]

omit [Endpoint ε] in
/-- Settling on how starting went changes nothing but the status. -/
theorem exec_settlingOn (r : Except Fault Unit) (s : Site ε) : (settlingOn r).exec s
    = (r, { s with bridge := { s.bridge with status := settledStatus r s.bridge.status } }) := by
  cases r with
  | ok _ =>
    show (Except.ok (), ({ s with bridge := if s.bridge.status = .connecting
      then { s.bridge with status := .ready } else s.bridge } : Site ε)) = _
    unfold settledStatus
    by_cases hstatus : s.bridge.status = .connecting <;> simp [hstatus]
  | error f =>
    unfold settlingOn settledStatus
    dsimp only
    by_cases hlink : f.isLink
    · rw [if_pos hlink]
      show (Except.error f, ({ s with bridge := if s.bridge.status = .connecting
        then { s.bridge with status := .disconnected } else s.bridge } : Site ε)) = _
      by_cases hstatus : s.bridge.status = .connecting <;> simp [hlink, hstatus]
    · rw [if_neg hlink]
      show (Except.error f, s) = _
      simp [hlink]

theorem grows_start : Grows (start : Act (Site (Recorded ε)) Unit) := by
  intro s hsane
  rw [exec_start]
  by_cases hstopped : s.bridge.stopped
  · rw [if_pos hstopped]
    exact ⟨hsane, List.prefix_refl _⟩
  · rw [if_neg hstopped]
    obtain ⟨hsane', hbegin⟩ := grows_establish s.renewed ⟨hsane.tame, hsane.plain⟩
    rw [exec_settlingOn]
    exact ⟨⟨hsane'.tame, hsane'.plain⟩, hbegin⟩

theorem grows_stop : Grows (stop : Act (Site (Recorded ε)) Unit) :=
  .bind (.update (fun _ => rfl) (fun _ => rfl)) fun _ =>
    .bind (.onLink fun w hplain => Wire.stepping_close.steps w hplain) fun _ =>
      .update (fun _ => rfl) (fun _ => rfl)

end Site
end FlowTrace
