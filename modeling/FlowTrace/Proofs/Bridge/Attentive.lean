/-
  FlowTrace.Proofs.Bridge.Attentive
  ────────────────────────────────
  **WHATEVER A BRIDGE IS ASKED, IT STAYS IN THE KNOW.**

  The operations of a bridge are built from few actions.  Each of them keeps what the
  bridge knows in step with the conversation; the three that let the script run or
  start the debugging anew change both sides at once.  So after any run of tasks the
  status, the frame and the conversation agree, and an expression is evaluated where
  the script stands, or nowhere.  And where it stands, those three do say what they are
  for: the bridge is connected and not stopped, so the first thing that comes of them is
  their command.
-/
import FlowTrace.Proofs.Bridge.Watch

namespace FlowTrace
namespace Site

variable {ε : Type} {s s' : Site (Recorded ε)} {marker : String} {w : Watch}

/-! ## §1. Actions that keep the bridge in the know. -/

/-- A conversation in which nobody interrupts and every pause is well formed. -/
structure Proper (xs : List Exchange) : Prop where
  clean : Uninterrupted xs
  pauses : PausesWell xs

theorem Proper.of_prefix {xs ys : List Exchange} (h : Proper ys) (hbegin : xs <+: ys) : Proper xs :=
  ⟨h.clean.of_prefix hbegin, h.pauses.of_prefix hbegin⟩

/-- The action keeps the bridge in the know. -/
structure Keeps (marker : String) {α : Type} (a : Act (Site (Recorded ε)) α) : Prop where
  grows : Grows a
  watched : ∀ s, Watched marker s → Proper (a.exec s).2.conversation → Watched marker (a.exec s).2

namespace Keeps

variable {α β : Type}

theorem bind {a : Act (Site (Recorded ε)) α} {f : α → Act (Site (Recorded ε)) β}
    (ha : Keeps marker a) (hf : ∀ x, Keeps marker (f x)) : Keeps marker (a >>= f) := by
  refine ⟨.bind ha.grows fun x => (hf x).grows, ?_⟩
  intro s h hproper
  have hbefore := hproper.of_prefix
    (Grows.conversation_bind ha.grows (fun x => (hf x).grows) h.ready.sane)
  have hfirst := ha.watched s h hbefore
  rw [Act.exec_bind] at hproper ⊢
  cases hr : a.exec s with
  | mk r s₁ =>
    rw [hr] at hfirst hproper
    cases r with
    | error e => exact hfirst
    | ok x => exact (hf x).watched s₁ hfirst hproper

theorem of_snd_eq {a : Act (Site (Recorded ε)) α} (h : ∀ s, (a.exec s).2 = s) : Keeps marker a := by
  refine ⟨.of_snd_eq h, fun s hs _ => ?_⟩
  rw [h s]
  exact hs

theorem attempt {a : Act (Site (Recorded ε)) α} (ha : Keeps marker a) :
    Keeps marker (Act.attempt a) := ⟨.attempt ha.grows, ha.watched⟩

/-- A change that leaves alone what the bridge knows. -/
theorem update {f : Bridge → Bridge} (hlink : ∀ b, (f b).link = b.link)
    (hconfig : ∀ b, (f b).config = b.config) (hstopped : ∀ b, (f b).stopped = b.stopped)
    (hknows : ∀ (b : Bridge) (w : Watch), b.Knows marker w → (f b).Knows marker w) :
    Keeps marker (update f : Act (Site (Recorded ε)) Unit) where
  grows := .update hlink hconfig
  watched _ h _ := h.update (hlink _) (hconfig _) (hstopped _) (hknows _ _ h.bridge) id

/-- A change of the registry. -/
theorem registering {f : Bridge → Bridge}
    (hf : ∀ b, ∃ registry, f b = { b with registry := registry }) :
    Keeps marker (Site.update f : Act (Site (Recorded ε)) Unit) := by
  refine .update (fun b => ?_) (fun b => ?_) (fun b => ?_) (fun b w hknows => ?_) <;>
    obtain ⟨registry, heq⟩ := hf b <;> rw [heq]
  exact ⟨hknows.marker, hknows.tracker, hknows.agree⟩

end Keeps

/-! ## §2. Commands. -/

variable [Endpoint ε]

theorem Steps.watched (steps : Steps s s') (h : Watched marker s)
    (hwell : PausesWell s'.conversation) : Watched marker s' := by
  induction steps with
  | refl => exact h
  | tail _ step ih => exact step.watched (ih (hwell.of_prefix step.conversation)) hwell

/-- A command keeps the bridge in the know, if the bridge knew what the command teaches
before it was sent. -/
theorem Knows.posted {awaited : Option Pending} {e : Envelope}
    {r : Except Fault Nat × Site (Recorded ε)} (h : s.Knows marker w)
    (hready : ∀ k, s.bridge.link.socket = some k → (s.putting k awaited e).Ready)
    (hnext : ∀ k a, (watch marker s.conversation).next marker (.sent k e a) = w)
    (hrefused : s.bridge.link.socket = none → watch marker s.conversation = w)
    (hposted : Posted awaited e s r) : Watched marker r.2 := by
  have hput {k : Nat} (hsocket : s.bridge.link.socket = some k) :
      Watched marker (s.putting k awaited e) := by
    refine .of_next (conversation_putting s k awaited e) ?_
    rw [hnext]
    exact h.putting (hready k hsocket)
  cases hposted with
  | refused m hno =>
    -- nothing was said, so the watcher must have known it before
    refine .of_same (s := s) rfl ?_
    rw [hrefused (h.socket_none hno)]
    exact h.rewired h.ready.numbered rfl rfl
  | put hsocket hopen => exact hput hsocket
  | @lost k s₁ m hsocket hopen haside =>
    refine .of_same (s := (s.putting k awaited e).gone k) ?_ (((hput hsocket).gone k).aside haside)
    exact congrArg Network.conversation haside.network

theorem Watched.awaited {id : Nat} {method : Json} {r : Except Fault Json × Site (Recorded ε)}
    (h : Watched marker s) (hawaited : Awaited id method s r)
    (hwell : PausesWell r.2.conversation) : Watched marker r.2 := by
  cases hawaited with
  | ended steps hout => exact steps.watched h hwell
  | late steps hnone =>
    have hread := steps.watched h hwell
    exact hread.rewired (hread.ready.dropping id) rfl rfl

/-- The same for a command whose reply is awaited. -/
theorem Knows.commanded {method params : Json} {r : Except Fault Json × Site (Recorded ε)}
    (h : s.Knows marker w)
    (hnext : ∀ k id a, (watch marker s.conversation).next marker
      (.sent k { id := id, method := method, params := params } a) = w)
    (hrefused : s.bridge.link.socket = none → watch marker s.conversation = w)
    (hcommanded : Commanded method params s r) (hwell : PausesWell r.2.conversation) :
    Watched marker r.2 := by
  have hposted {r : Except Fault Nat × Site (Recorded ε)}
      (hposted : Posted (some { id := s.bridge.link.nextId, method := method })
        { id := s.bridge.link.nextId, method := method, params := params } s r) :
      Watched marker r.2 :=
    h.posted (fun _ hsocket => h.ready.putting hsocket) (fun k a => hnext k _ a) hrefused hposted
  cases hcommanded with
  | refused m hno => exact hposted (.refused m hno)
  | lost m hsocket hopen haside => exact hposted (.lost m hsocket hopen haside)
  | awaited hsocket hopen hawaited => exact (hposted (.put hsocket hopen)).awaited hawaited hwell

/-- The method of a command that neither lets the script run nor starts the debugging
anew. -/
def Quiet (method : Json) : Prop :=
  ∀ k id params a,
    (Exchange.sent k { id := id, method := method, params := params } a).starts = false ∧
    (Exchange.sent k { id := id, method := method, params := params } a).releases = false

namespace Keeps

theorem submit {method : Json} (hquiet : Quiet method) (params : Json) :
    Keeps marker (onLink (Wire.submit method params) : Act (Site (Recorded ε)) Nat) where
  grows := grows_submit method params
  watched s h hproper := by
    refine h.posted (fun k hsocket => h.ready.putting hsocket) (fun k a => ?_) (fun _ => rfl)
      (posted_submit method params h.ready hproper.clean)
    exact Watch.next_quiet (hquiet k _ _ a).1 (hquiet k _ _ a).2 rfl

theorem await (id : Nat) (method : Json) :
    Keeps marker (await id method : Act (Site (Recorded ε)) Json) where
  grows := grows_await id method
  watched _ h hproper :=
    Watched.awaited h (awaited_await id method h.ready hproper.clean) hproper.pauses

theorem command {method : Json} (hquiet : Quiet method) (params : Json) :
    Keeps marker (command method params : Act (Site (Recorded ε)) Json) :=
  .bind (.submit hquiet params) fun id => .await id method

theorem pump : Keeps marker (pump : Act (Site (Recorded ε)) Unit) where
  grows := grows_pump
  watched _ h hproper := (steps_pump h.ready hproper.clean).2.watched h hproper.pauses

theorem submitArming (bps : List Breakpoint) :
    Keeps marker (submitArming bps : Act (Site (Recorded ε)) (List Nat)) := by
  induction bps with
  | nil => exact .of_snd_eq fun _ => rfl
  | cons bp rest ih =>
    exact .bind (.submit (fun _ _ _ _ => ⟨rfl, rfl⟩) _) fun _ => .bind ih fun _ =>
      .of_snd_eq fun _ => rfl

theorem awaitArming (ids : List Nat) :
    Keeps marker (awaitArming ids : Act (Site (Recorded ε)) (List Json)) := by
  induction ids with
  | nil => exact .of_snd_eq fun _ => rfl
  | cons id rest ih =>
    rw [awaitArming_cons]
    exact .bind (.attempt (.await _ _)) fun r => .bind (.of_snd_eq (exec_armingReply_snd r))
      fun _ => .bind ih fun _ => .of_snd_eq fun _ => rfl

omit [Endpoint ε] in
theorem assignIds (replies : List Json) : ∀ i,
    Keeps marker (assignIds i replies : Act (Site (Recorded ε)) Unit) := by
  induction replies with
  | nil => exact fun _ => .of_snd_eq fun _ => rfl
  | cons reply rest ih =>
    exact fun i => .bind (.of_snd_eq fun _ => rfl) fun _ =>
      .bind (.registering fun _ => ⟨_, rfl⟩) fun _ => ih _

theorem armBreakpoints :
    Keeps marker (armBreakpoints : Act (Site (Recorded ε)) (List Breakpoint)) :=
  .bind (.of_snd_eq fun _ => rfl) fun _ => .bind (.submitArming _) fun _ =>
    .bind (.awaitArming _) fun _ => .bind (.assignIds _ _) fun _ => .of_snd_eq fun _ => rfl

theorem addBreakpoint (url line : Json) :
    Keeps marker (addBreakpoint url line : Act (Site (Recorded ε)) (Option Breakpoint)) := by
  refine .bind (.of_snd_eq fun _ => rfl) fun n => .bind (.of_snd_eq fun _ => rfl) fun b =>
    .bind (.of_snd_eq fun _ => rfl) fun added => .bind (.registering fun _ => ⟨_, rfl⟩) fun _ => ?_
  cases added.1.items[added.2]? with
  | none => exact .of_snd_eq fun _ => rfl
  | some bp =>
    refine .bind (.of_snd_eq fun _ => rfl) fun b' => ?_
    dsimp only
    split
    · exact .bind (.command (fun _ _ _ _ => ⟨rfl, rfl⟩) _) fun _ => .bind (.of_snd_eq fun _ => rfl)
        fun _ => .bind (.registering fun _ => ⟨_, rfl⟩) fun _ => .of_snd_eq fun _ => rfl
    · exact .of_snd_eq fun _ => rfl

theorem removeBreakpoint (url line : Json) :
    Keeps marker (removeBreakpoint url line : Act (Site (Recorded ε)) Bool) := by
  refine .bind (.of_snd_eq fun _ => rfl) fun n => .bind (.of_snd_eq fun _ => rfl) fun b =>
    .bind (.of_snd_eq fun _ => rfl) fun found => ?_
  cases found with
  | none => exact .of_snd_eq fun _ => rfl
  | some bp =>
    dsimp only
    split
    · exact .bind (.command (fun _ _ _ _ => ⟨rfl, rfl⟩) _) fun _ =>
        .bind (.of_snd_eq fun _ => rfl) fun _ => .bind (.of_snd_eq fun _ => rfl) fun _ =>
          .bind (.registering fun _ => ⟨_, rfl⟩) fun _ => .of_snd_eq fun _ => rfl
    · exact .bind (.of_snd_eq fun _ => rfl) fun _ => .bind (.of_snd_eq fun _ => rfl) fun _ =>
        .bind (.registering fun _ => ⟨_, rfl⟩) fun _ => .of_snd_eq fun _ => rfl

theorem evaluate (expression : Json) :
    Keeps marker (evaluate expression : Act (Site (Recorded ε)) Json) :=
  .bind (.of_snd_eq fun _ => rfl) fun _ => .bind (.of_snd_eq fun _ => rfl) fun _ =>
    .command (fun _ _ _ _ => ⟨rfl, rfl⟩) _

theorem properties (objectId : Json) :
    Keeps marker (properties objectId : Act (Site (Recorded ε)) (List Json)) :=
  .bind (.command (fun _ _ _ _ => ⟨rfl, rfl⟩) _) fun _ => .of_snd_eq fun _ => rfl

/-! ## §3. Running on. -/

/-- A command that lets the script run ends the pause on both sides at once. -/
theorem running {method params : Json} (hruns : ∀ k id v a,
    (Exchange.sent k { id := id, method := method, params := v } a).starts = false ∧
      (Exchange.sent k { id := id, method := method, params := v } a).releases = true) :
    Keeps marker (do
      Site.update Bridge.leavePause
      let _ ← onLink (Wire.notify method params) : Act (Site (Recorded ε)) Unit) where
  grows := .bind (.update (fun _ => rfl) (fun _ => rfl)) fun _ =>
    .bind (.onLink fun _ hplain => Wire.steps_notify _ _ hplain) fun _ => .of_snd_eq fun _ => rfl
  watched s h hproper := by
    rw [Act.exec_bind_ok (exec_update _ s)] at hproper ⊢
    change Proper ((onLink _ >>= fun _ => pure ()).exec s.left).2.conversation at hproper
    show Watched marker ((onLink _ >>= fun _ => pure ()).exec s.left).2
    rw [Act.exec_bind_snd (fun _ _ => rfl)] at hproper ⊢
    have hleft : s.left.Knows marker { watch marker s.conversation with frame := none } :=
      h.update rfl rfl rfl h.bridge.leavePause (fun hsome => nomatch hsome)
    refine hleft.posted (fun k hsocket => hleft.ready.notifying k _) (fun k a => ?_)
      (fun hnone => ?_) (posted_notify method params hleft.ready hproper.clean)
    · exact Watch.next_releases (hruns k _ _ a).1 (hruns k _ _ a).2 rfl
    · -- without a connection there was no pause to end
      have hframe : (watch marker s.conversation).frame = none := h.frame_none hnone
      show watch marker s.conversation = _
      rw [← hframe]

theorem resume : Keeps marker (resume : Act (Site (Recorded ε)) Unit) :=
  running fun _ _ _ _ => ⟨rfl, rfl⟩

theorem stepOver : Keeps marker (stepOver : Act (Site (Recorded ε)) Unit) :=
  running fun _ _ _ _ => ⟨rfl, rfl⟩

/-! ## §4. Starting and stopping. -/

end Keeps

omit [Endpoint ε] in
/-- A bridge that is stopped for good, without a connection and without a pause. -/
theorem Knows.closed (h : s.Knows marker w) (hready : s'.Ready)
    (hconfig : s'.bridge.config = s.bridge.config)
    (htracker : s'.bridge.tracker = s.bridge.tracker.clear) (hstatus : s'.bridge.status = .closed)
    (hstopped : s'.bridge.stopped = true) (hshut : s'.bridge.link.shutdown = true)
    (hsocket : s'.bridge.link.socket = none) :
    s'.Knows marker { w with frame := none } where
  ready := hready
  bridge := by
    refine ⟨by rw [hconfig]; exact h.bridge.marker, ?_, by simp [hstatus]⟩
    rw [htracker, h.bridge.tracker]
    rfl
  joined hsome := nomatch hsome
  opened hsome := by
    rw [hsocket] at hsome
    cases hsome
  stopped := iff_of_true hshut hstopped

namespace Keeps

theorem stop : Keeps marker (stop : Act (Site (Recorded ε)) Unit) where
  grows := grows_stop
  watched s h hproper := by
    let asked : Site (Recorded ε) := { s with bridge := { s.bridge with stopped := true } }
    have hasked : asked.Ready := ⟨h.ready.tame, h.ready.bare⟩
    have hshutting : asked.shutting.Ready := ⟨h.ready.tame, h.ready.bare.shut⟩
    let finish : Act (Site (Recorded ε)) Unit := Site.update (fun b => { b with status := .closed })
    have hgrows : Grows (onLink Wire.close : Act (Site (Recorded ε)) Unit) :=
      .onLink fun w hplain => Wire.stepping_close.steps w hplain
    have hfinish : Grows finish := .update (fun _ => rfl) (fun _ => rfl)
    unfold Site.stop at hproper ⊢
    rw [Act.exec_bind_ok (exec_update _ s)] at hproper ⊢
    change Proper ((onLink Wire.close >>= fun _ => finish).exec asked).2.conversation at hproper
    show Watched marker ((onLink Wire.close >>= fun _ => finish).exec asked).2
    have hshut := shut_close hasked (hproper.clean.of_prefix
      (hgrows.conversation_bind (fun _ => hfinish) hasked.sane))
    cases hr : (onLink Wire.close).exec asked with
    | mk r s₁ =>
      rw [hr] at hshut
      cases hshut with
      | @gone k _ hsocket haside =>
        have hready := (hshutting.gone k).aside haside
        have hknows : s.Knows marker (watch marker s.conversation) := h
        rw [Act.exec_bind_ok hr]
        refine .of_next (s := s) (x := .closed k (s.network.close k).1)
          (congrArg Network.conversation haside.network) ?_
        rw [Watch.next_releases rfl rfl rfl]
        refine hknows.closed ⟨hready.tame, hready.bare⟩ haside.config haside.tracker rfl
          haside.stopped ?_ ?_
        · show s₁.bridge.link.shutdown = true
          rw [haside.link]
          exact Link.gone_shutdown _
        · show s₁.bridge.link.socket = none
          rw [haside.link]
          exact Link.gone_socket _
      | idle hsocket =>
        -- nothing is said, but without a connection there was no pause to end
        rw [Act.exec_bind_ok hr]
        have hframe : (watch marker s.conversation).frame = none := h.frame_none hsocket
        have hclear : s.bridge.tracker = s.bridge.tracker.clear := by
          rw [h.bridge.tracker, Watch.tracker, hframe]
          rfl
        have hsame : ({ watch marker s.conversation with frame := none } : Watch)
            = watch marker s.conversation := by rw [← hframe]
        have hidle :
            ({ s.bridge.link with shutdown := true, status := .disconnected } : Link).Bare :=
          h.ready.bare.shut.refused hsocket
        refine .of_same (s := s) rfl ?_
        rw [← hsame]
        refine Knows.closed h ⟨h.ready.tame, ?_⟩ rfl hclear rfl rfl rfl hsocket
        show ({ s.bridge.link with shutdown := true, status := .disconnected } : Link).silenced.Bare
        rw [hidle.silenced]
        exact hidle

theorem arming : Keeps marker (arming : Act (Site (Recorded ε)) Unit) :=
  .bind (.command (fun _ _ _ _ => ⟨rfl, rfl⟩) _) fun _ => .bind .armBreakpoints fun _ =>
    .of_snd_eq fun _ => rfl

end Keeps

/-- On a connection, enabling the reports of the host starts the debugging anew on both
sides. -/
theorem watched_enabling (h : s.Knows marker {}) (hjoined : s.bridge.link.socket.isSome = true)
    (hproper : Proper ((enabling : Act (Site (Recorded ε)) Unit).exec s).2.conversation) :
    Watched marker ((enabling : Act (Site (Recorded ε)) Unit).exec s).2 := by
  have hbefore := hproper.of_prefix (Grows.conversation_bind
    (grows_command "Debugger.enable" (.obj [])) (fun _ => grows_arming) h.ready.sane)
  have henabled : Watched marker ((command "Debugger.enable" (.obj [])).exec s).2 := by
    refine h.commanded (fun _ _ _ => Watch.next_starts rfl) (fun hnone => ?_)
      (commanded_command "Debugger.enable" (.obj []) h.ready hbefore.clean) hbefore.pauses
    rw [hnone] at hjoined
    cases hjoined
  unfold enabling at hproper ⊢
  rw [Act.exec_bind] at hproper ⊢
  cases hr : (command "Debugger.enable" (.obj [])).exec s with
  | mk r s₁ =>
    rw [hr] at hproper henabled
    cases r with
    | error e => exact henabled
    | ok reply => exact Keeps.arming.watched s₁ henabled hproper

/-- Starting on a bridge that was renewed: what the conversation taught before does not
matter. -/
theorem watched_establish (h : s.Knows marker {}) (hnot : s.bridge.stopped = false)
    (hproper : Proper ((establish : Act (Site (Recorded ε)) Unit).exec s).2.conversation) :
    Watched marker ((establish : Act (Site (Recorded ε)) Unit).exec s).2 := by
  rw [establish_eq] at hproper ⊢
  have hbefore := hproper.of_prefix (grows_connect.conversation_bind (fun _ => grows_enabling)
    h.ready.sane)
  have hjoined := joined_connect h.ready hbefore.clean
  rw [Act.exec_bind] at hproper ⊢
  cases hr : (onLink Wire.connect).exec s with
  | mk r s₁ =>
    rw [hr] at hproper hjoined
    cases hjoined with
    | already hsocket => exact watched_enabling h hsocket hproper
    | shut m hsocket hshut =>
      -- only a bridge that was stopped has closed its link for good
      have hstopped := h.stopped.mp hshut
      rw [hnot] at hstopped
      cases hstopped
    | @opened k _ hsocket hopen hdial haside =>
      have hopened : (s.opening k).Knows marker {} :=
        ⟨h.ready.opening k, ⟨h.bridge.marker, h.bridge.tracker, h.bridge.agree⟩,
          fun _ => rfl, fun _ => hopen, h.stopped⟩
      refine watched_enabling (hopened.aside haside) ?_ hproper
      rw [haside.link]
      rfl
    | refused m hsocket hopen =>
      refine .of_next (s := s) (x := .dialled (s.network.dial s.bridge.link.url).1) rfl ?_
      rw [Watch.next_starts rfl]
      exact h.rewired (h.ready.turnedAway hsocket) rfl rfl

/-- A bridge that settles on how starting went is paused if it was. -/
theorem knows_settled {b : Bridge} (h : b.Knows marker w) (r : Except Fault Unit) :
    ({ b with status := settledStatus r b.status } : Bridge).Knows marker w :=
  ⟨h.marker, h.tracker, (settledStatus_eq_paused r b.status).trans h.agree⟩

theorem Keeps.start : Keeps marker (start : Act (Site (Recorded ε)) Unit) where
  grows := grows_start
  watched s h hproper := by
    rw [exec_start] at hproper ⊢
    by_cases hstopped : s.bridge.stopped
    · rw [if_pos hstopped]
      exact h
    have hnot : s.bridge.stopped = false := by simpa using hstopped
    -- the bridge forgets now, the watcher when a connection is made or reports are enabled
    have hrenewed : s.renewed.Knows marker {} :=
      h.update rfl rfl rfl ⟨h.bridge.marker, rfl, by simp [Bridge.renew]⟩
        (fun hsome => (by cases hsome))
    rw [if_neg hstopped] at hproper ⊢
    have hestablished := watched_establish hrenewed hnot
    generalize (establish : Act (Site (Recorded ε)) Unit).exec s.renewed = r at hproper hestablished
    rw [exec_settlingOn] at hproper ⊢
    have hwatched := hestablished hproper
    exact hwatched.update rfl rfl rfl (knows_settled hwatched.bridge _) id

/-! ## §5. Runs. -/

theorem Keeps.act (task : Task ε) : Keeps marker task.act := by
  cases task with
  | start => exact .start
  | stop => exact .stop
  | resume => exact .resume
  | stepOver => exact .stepOver
  | evaluate expression => exact .bind (.evaluate expression) fun _ => .of_snd_eq fun _ => rfl
  | properties objectId => exact .bind (.properties objectId) fun _ => .of_snd_eq fun _ => rfl
  | add url line => exact .bind (.addBreakpoint url line) fun _ => .of_snd_eq fun _ => rfl
  | remove url line => exact .bind (.removeBreakpoint url line) fun _ => .of_snd_eq fun _ => rfl
  | arm => exact .bind .armBreakpoints fun _ => .of_snd_eq fun _ => rfl
  | pump => exact .pump
  | stir f =>
    constructor
    · exact fun s hsane => ⟨⟨hsane.tame, hsane.plain⟩, List.prefix_refl _⟩
    · exact fun s h _ => ⟨⟨h.ready.tame, h.ready.bare⟩, h.bridge, h.joined, h.opened, h.stopped⟩

theorem grows_act (task : Task ε) : Grows task.act := by
  have hkeeps : Keeps "" task.act := .act task
  exact hkeeps.grows

theorem grows_afterTasks (tasks : List (Task ε)) : ∀ s : Site (Recorded ε), s.Sane →
    s.conversation <+: (s.afterTasks tasks).conversation := by
  induction tasks with
  | nil => exact fun _ _ => List.prefix_refl _
  | cons task rest ih =>
    intro s hsane
    obtain ⟨hsane', hbegin⟩ := grows_act task s hsane
    exact hbegin.trans (ih _ hsane')

theorem sane_afterTasks (tasks : List (Task ε)) : ∀ s : Site (Recorded ε), s.Sane →
    (s.afterTasks tasks).Sane := by
  induction tasks with
  | nil => exact fun _ hsane => hsane
  | cons task rest ih => exact fun s hsane => ih _ (grows_act task s hsane).1

theorem afterTasks_append (tasks tasks' : List (Task ε)) : ∀ s : Site (Recorded ε),
    s.afterTasks (tasks ++ tasks') = (s.afterTasks tasks).afterTasks tasks' := by
  induction tasks with
  | nil => exact fun _ => rfl
  | cons task rest ih => exact fun s => ih _

theorem watched_afterTasks (tasks : List (Task ε)) : ∀ s : Site (Recorded ε), Watched marker s →
    Proper (s.afterTasks tasks).conversation → Watched marker (s.afterTasks tasks) := by
  induction tasks with
  | nil => exact fun _ h _ => h
  | cons task rest ih =>
    intro s h hproper
    have hact : Keeps marker task.act := .act task
    have hbegin := grows_afterTasks rest _ (hact.grows s h.ready.sane).1
    exact ih _ (hact.watched s h (hproper.of_prefix hbegin)) hproper

/-- The exchange is the request to evaluate an expression. -/
def IsEvaluation : Exchange → Prop
  | .sent _ e _ => e.method = "Debugger.evaluateOnCallFrame"
  | _ => False

/-- Evaluating an expression asks for it once, at a frame. -/
def AsksOnce (s : Site (Recorded ε)) (expression : Json) (frame : Record) : Prop :=
  ∃ k id a rest, ((evaluate expression).exec s).2.conversation = s.conversation ++
      .sent k
        { id := id, method := "Debugger.evaluateOnCallFrame"
          params := .obj [("expression", expression),
            ("callFrameId", .str (CallFrame.kept frame).callFrameId)] } a :: rest ∧
    ∀ x ∈ rest, ¬ IsEvaluation x

/-- The first thing that comes of an action is a command with the method. -/
def Says (s : Site (Recorded ε)) (a : Act (Site (Recorded ε)) Unit) (method : Json) : Prop :=
  Uninterrupted (a.exec s).2.conversation → ∃ k id params answer rest,
    (a.exec s).2.conversation = s.conversation ++
      .sent k { id := id, method := method, params := params } answer :: rest

/-- Status, frame and conversation agree, expressions are evaluated where the script
stands, and what lets it run or starts the debugging anew is said. -/
structure Attentive (marker : String) (s : Site (Recorded ε)) : Prop where
  paused_iff : s.bridge.status = .paused ↔ s.bridge.tracker.paused.isSome = true
  frame_iff : ∀ p, s.bridge.tracker.paused = some p ↔
    ∃ frame, p = CallFrame.kept frame ∧ StandsAt marker s.conversation frame
  evaluates : ∀ expression frame, StandsAt marker s.conversation frame →
    (CallFrame.kept frame).callFrameId ≠ "" →
      Uninterrupted ((evaluate expression).exec s).2.conversation → s.AsksOnce expression frame
  refuses : ∀ expression, (∀ frame, StandsAt marker s.conversation frame →
    (CallFrame.kept frame).callFrameId = "") →
      (evaluate expression).exec s = (.error .notPaused, s)
  resumes : ∀ frame, StandsAt marker s.conversation frame → s.Says resume "Debugger.resume"
  steps : ∀ frame, StandsAt marker s.conversation frame → s.Says stepOver "Debugger.stepOver"
  starts : ∀ frame, StandsAt marker s.conversation frame → s.Says start "Debugger.enable"

omit [Endpoint ε] in
/-- The bridge keeps the frame that the watcher of the conversation knows of. -/
theorem Watched.paused_eq (h : Watched marker s) : s.bridge.tracker.paused
    = (watch marker s.conversation).frame.map CallFrame.kept := by
  rw [h.bridge.tracker]
  rfl

omit [Endpoint ε] in
/-- Where the script stands there is a connection, on which commands can be sent. -/
theorem Watched.connected (h : Watched marker s) {frame : Record}
    (hat : StandsAt marker s.conversation frame) :
    s.bridge.link.socket.isSome = true ∧ s.bridge.link.shutdown = false := by
  have hframe := watch_frame_iff.mpr hat
  have hjoined := h.joined (by rw [hframe]; rfl)
  exact ⟨hjoined, h.opened hjoined⟩

omit [Endpoint ε] in
theorem Watched.not_refused (h : Watched marker s) {frame : Record}
    (hat : StandsAt marker s.conversation frame) :
    ¬ (s.bridge.link.socket = none ∨ s.bridge.link.shutdown = true) := by
  obtain ⟨hjoined, hopen⟩ := h.connected hat
  rintro (hnone | hshut)
  · rw [hnone] at hjoined
    cases hjoined
  · rw [hopen] at hshut
    cases hshut

/-- Where the script stands, an expression is evaluated there, and nowhere else. -/
theorem Watched.asksOnce (h : Watched marker s) {expression : Json} {frame : Record}
    (hat : StandsAt marker s.conversation frame) (hid : (CallFrame.kept frame).callFrameId ≠ "")
    (hclean : Uninterrupted ((evaluate expression).exec s).2.conversation) :
    s.AsksOnce expression frame := by
  have hframe := watch_frame_iff.mpr hat
  have hrequire : s.bridge.tracker.require = .ok (CallFrame.kept frame) := by
    unfold PauseTracker.require
    rw [h.paused_eq, hframe]
    simp [String.isEmpty_iff, hid]
  unfold AsksOnce
  unfold evaluate at hclean ⊢
  rw [Act.exec_bind_ok (exec_look s), exec_ofExcept_bind, hrequire] at hclean ⊢
  obtain ⟨k, a, rest, hsaid, hall⟩ := (commanded_command _ _ h.ready hclean).said (h.not_refused hat)
  refine ⟨k, _, a, rest, hsaid, fun x hx hevaluation => ?_⟩
  -- in reading, a bridge only lets scripts run on and asks for sources
  have hreading := hall x hx
  cases x with
  | sent j e b =>
    rcases hreading with hresume | hsource
    · exact absurd (hevaluation.symm.trans hresume) (by simp)
    · exact absurd (hevaluation.symm.trans hsource) (by simp)
  | _ => exact hevaluation

/-- What lets the script run is said where the script stands. -/
theorem Watched.says_running (h : Watched marker s) {frame : Record}
    (hat : StandsAt marker s.conversation frame) (method params : Json) :
    s.Says (do
      Site.update Bridge.leavePause
      let _ ← onLink (Wire.notify method params)) method := by
  intro hclean
  rw [Act.exec_bind_ok (exec_update _ s)] at hclean ⊢
  change Uninterrupted ((onLink _ >>= fun _ => pure ()).exec s.left).2.conversation at hclean
  show ∃ k id v answer rest,
    ((onLink _ >>= fun _ => pure ()).exec s.left).2.conversation = _ ++ _ :: rest
  rw [Act.exec_bind_snd (fun _ _ => rfl)] at hclean ⊢
  obtain ⟨k, a, rest, hsaid⟩ :=
    (posted_notify method params h.ready.left hclean).said (h.not_refused hat)
  exact ⟨k, _, _, a, rest, hsaid⟩

/-- Where the script stands the bridge is not stopped and its link is up, so starting anew
goes straight to enabling the reports of the host. -/
theorem Watched.says_start (h : Watched marker s) {frame : Record}
    (hat : StandsAt marker s.conversation frame) : s.Says start "Debugger.enable" := by
  obtain ⟨hjoined, hopen⟩ := h.connected hat
  have hgoing : ¬ s.bridge.stopped = true := by
    rw [← h.stopped, hopen]
    decide
  have hready : s.renewed.Ready := ⟨h.ready.tame, h.ready.bare⟩
  have hconnect : (onLink Wire.connect).exec s.renewed = (.ok (), s.renewed) :=
    exec_connect_joined hready hjoined
  have hstart : ((start : Act (Site (Recorded ε)) Unit).exec s).2.conversation
      = ((enabling : Act (Site (Recorded ε)) Unit).exec s.renewed).2.conversation := by
    rw [exec_start, if_neg hgoing, establish_eq, Act.exec_bind_ok hconnect]
    generalize (enabling : Act (Site (Recorded ε)) Unit).exec s.renewed = r
    rw [exec_settlingOn]
    rfl
  unfold Says
  rw [hstart]
  intro hclean
  -- the command comes first, and whatever follows it only adds to the conversation
  have hbegin := Grows.conversation_bind (grows_command "Debugger.enable" (.obj []))
    (fun _ => grows_arming) hready.sane
  obtain ⟨k, a, rest, hsaid, -⟩ := (commanded_command "Debugger.enable" (.obj []) hready
    (hclean.of_prefix hbegin)).said (h.not_refused hat)
  obtain ⟨more, hmore⟩ := hbegin
  refine ⟨k, s.bridge.link.nextId, .obj [], a, rest ++ more, ?_⟩
  unfold enabling
  rw [← hmore, hsaid, List.append_assoc]
  rfl

theorem Watched.attentive (h : Watched marker s) : Attentive marker s := by
  constructor
  case paused_iff =>
    rw [h.bridge.agree, h.paused_eq, Option.isSome_map]
  case frame_iff =>
    intro p
    rw [h.paused_eq, Option.map_eq_some_iff]
    simp only [watch_frame_iff]
    exact ⟨fun ⟨frame, hat, heq⟩ => ⟨frame, heq.symm, hat⟩, fun ⟨frame, heq, hat⟩ =>
      ⟨frame, hat, heq.symm⟩⟩
  case evaluates =>
    intro expression frame hat hid hclean
    exact h.asksOnce hat hid hclean
  case refuses =>
    intro expression hnone
    have hrequire : s.bridge.tracker.require = .error .notPaused := by
      unfold PauseTracker.require
      rw [h.paused_eq]
      cases hframe : (watch marker s.conversation).frame with
      | none => rfl
      | some frame => simp [hnone frame (watch_frame_iff.mp hframe)]
    unfold evaluate
    rw [Act.exec_bind_ok (exec_look s), exec_ofExcept_bind, hrequire]
  case resumes => exact fun frame hat => h.says_running hat _ _
  case steps => exact fun frame hat => h.says_running hat _ _
  case starts => exact fun frame hat => h.says_start hat

/-- **THE BRIDGE IS PAUSED WHERE THE HOST IS**: whatever a new bridge is asked, and
whatever its host does meanwhile, status, frame and conversation agree afterwards. -/
theorem afterTasks_attentive {config : BridgeConfig} (htame : config.Tame)
    (hmarker : config.marker = .str marker) (url : Json) (registry : BreakpointRegistry)
    (blocks : Option BlockTable) (host : ε) (tasks : List (Task ε))
    (hclean : Uninterrupted ((fresh config url registry blocks host).afterTasks tasks).conversation)
    (hpauses : PausesWell ((fresh config url registry blocks host).afterTasks tasks).conversation) :
    Attentive marker ((fresh config url registry blocks host).afterTasks tasks) := by
  have hfresh : Watched marker (fresh config url registry blocks host) :=
    { ready := ready_fresh htame url registry blocks host
      bridge := ⟨hmarker, rfl, by simp [fresh, watch, conversation, Network.conversation]⟩
      joined := fun hsome => nomatch hsome
      opened := fun hsome => nomatch hsome
      stopped := Iff.rfl }
  exact (watched_afterTasks tasks _ hfresh ⟨hclean, hpauses⟩).attentive

/-! ## §6. A paused run. -/

/-- The bridge is started, and its host reports a flow script and pauses there. -/
def pausedTasks : List (Task RehearsedHost) :=
  [.start,
    .stir (fun h => h.enqueue 0
      [.message (.obj [("method", "Debugger.scriptParsed"),
          ("params", .obj (parsedParams "lib/flow.js"))]),
        .message (.obj pauseMessage)]),
    .pump]

/-- The site after these tasks. -/
def atPause : Site (Recorded RehearsedHost) := (fresh {} "ws" {} none {}).afterTasks pausedTasks

/-- The last pause of the run is well formed, and there is no other. -/
theorem pausesWell_atPause : PausesWell atPause.conversation := by
  have hconversation : atPause.conversation =
      [.dialled (.ok 0),
        .sent 0 { id := 1, method := "Debugger.enable", params := .obj [] } (.ok ()),
        .received 0 (.message (.obj [("id", .int 1), ("result", .obj [])])),
        .sent 0 { id := 2, method := "Runtime.enable", params := .obj [] } (.ok ()),
        .received 0 (.message (.obj [("id", .int 2), ("result", .obj [])])),
        .received 0 (.message (.obj [("method", "Debugger.scriptParsed"),
          ("params", .obj (parsedParams "lib/flow.js"))])),
        .received 0 (.message (.obj pauseMessage))] := rfl
  intro x hx v hv
  rw [hconversation] at hx
  simp only [List.mem_cons, List.not_mem_nil, or_false] at hx
  rcases hx with rfl | rfl | rfl | rfl | rfl | rfl | rfl
  case inr.inr.inr.inr.inr.inr =>
    cases hv
    exact ⟨pauseParams, rfl, wellFormed_pauseParams⟩
  all_goals cases hv

theorem afterTasks_attentive_atPause :
    ({} : BridgeConfig).Tame ∧ ({} : BridgeConfig).marker = .str "flow.js" ∧
      Uninterrupted atPause.conversation ∧ PausesWell atPause.conversation ∧
      atPause.bridge.status = .paused ∧ Attentive "flow.js" atPause := by
  have htame : ({} : BridgeConfig).Tame := fun _ hl => nomatch hl
  have hclean : Uninterrupted atPause.conversation := by decide +kernel
  have hattentive := afterTasks_attentive htame rfl "ws" {} none
    ({} : RehearsedHost) pausedTasks
  exact ⟨htame, rfl, hclean, pausesWell_atPause, rfl, hattentive hclean pausesWell_atPause⟩

end Site
end FlowTrace
