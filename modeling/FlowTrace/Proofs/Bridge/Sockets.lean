/-
  FlowTrace.Proofs.Bridge.Sockets
  ────────────────────────────────
  **A BRIDGE FORGETS NO SOCKET.**

  Whatever a bridge does, it does to its link through a few operations, and none of
  them opens a socket that it does not take or drops one that it does not close
  (`FlowTrace.Proofs.Link.Sockets`).  So a tidy site stays tidy through everything that
  a debugger can be asked; stopping leaves nothing open; and a start that fails leaves
  open what the bridge has dialled and not lost since.
-/
import FlowTrace.Proofs.Bridge.Agreement
import FlowTrace.Proofs.Bridge.Terminal
import FlowTrace.Proofs.Link.Sockets

namespace FlowTrace
namespace Site

variable {ε α : Type} {s s' : Site ε} {shut : Bool} {given : Nat}

/-- The sockets that are open are the one of the bridge's link, if it has one. -/
def Tidy (shut : Bool) (given : Nat) (s : Site ε) : Prop := s.wire.Tidy shut given

/-! ## §1. Pieces. -/

/-- What does not touch the link and the network keeps the site tidy. -/
theorem tidy_of_linkedTo {a : Act (Site ε) α}
    (h : ∀ w stopped, Act.Keeps (LinkedTo w stopped) a) : Act.Keeps (Tidy shut given) a := by
  intro s hs
  have hlinked := h s.wire s.bridge.stopped s ⟨rfl, rfl⟩
  show Wire.Tidy shut given (a.exec s).2.wire
  rwa [hlinked.1]

theorem tidy_update {f : Bridge → Bridge} (hlink : ∀ b, (f b).link = b.link) :
    Act.Keeps (Tidy shut given) (update f : Act (Site ε) Unit) := by
  intro s hs
  refine hs.same rfl ?_ ?_ (Nat.le_of_eq ?_)
  · exact congrArg Link.socket (hlink s.bridge)
  · exact congrArg Link.shutdown (hlink s.bridge)
  · exact congrArg Link.nextId (hlink s.bridge).symm

theorem tidy_look : Act.Keeps (Tidy shut given) (look : Act (Site ε) Bridge) :=
  .of_snd_eq fun _ _ => rfl

theorem tidy_ofExcept (r : Except Fault α) :
    Act.Keeps (Tidy shut given) (Act.ofExcept r : Act (Site ε) α) := .of_snd_eq fun _ _ => rfl

/-- Heeding the signals of an operation of the link leaves the site as tidy as the link. -/
theorem leads_onLink {shut' : Bool} {given' : Nat} {a : Act (Wire ε) α}
    (ha : Act.Leads (Wire.Tidy shut given) (Wire.Tidy shut' given') a) :
    Act.Leads (Tidy shut given) (Tidy shut' given') (onLink a) := by
  intro s hs
  have hlinked := onLink_linkedTo a s
  show Wire.Tidy shut' given' _
  rw [hlinked.1]
  exact (ha s.wire hs).same rfl rfl rfl (Nat.le_refl _)

theorem tidy_onLink {a : Act (Wire ε) α} (ha : Act.Keeps (Wire.Tidy shut given) a) :
    Act.Keeps (Tidy shut given) (onLink a) := leads_onLink ha

theorem tidy_emit (e : Event) : Act.Keeps (Tidy shut given) (emit e : Act (Site ε) Unit) :=
  tidy_of_linkedTo fun _ _ => linkedTo_emit e

theorem tidy_publishException (e : Thrown) (table : Option BlockTable) :
    Act.Keeps (Tidy shut given) (publishException e table : Act (Site ε) Unit) :=
  tidy_of_linkedTo fun _ _ => linkedTo_publishException e table

variable [Endpoint ε]

/-! ## §2. Messages. -/

theorem tidy_notify (method params : Json) :
    Act.Keeps (Tidy shut given) (onLink (Wire.notify method params) : Act (Site ε) Nat) :=
  tidy_onLink (Wire.tidy_notify method params)

/-- A command takes a number, whatever becomes of it. -/
theorem leads_submit (method params : Json) :
    Act.Leads (Tidy shut given) (Tidy shut (given + 1))
      (onLink (Wire.submit method params) : Act (Site ε) Nat) :=
  leads_onLink (Wire.leads_submit method params false)

theorem tidy_submit (method params : Json) :
    Act.Keeps (Tidy shut given) (onLink (Wire.submit method params) : Act (Site ε) Nat) :=
  fun s hs => (leads_submit method params s hs).fewer

/-- Letting a paused script run, or run a step. -/
theorem tidy_running (method params : Json) :
    Act.Keeps (Tidy shut given) (do
      update Bridge.leavePause
      let _ ← onLink (Wire.notify method params) : Act (Site ε) Unit) :=
  .bind (tidy_update fun _ => rfl) fun _ => .bind (tidy_notify _ _) fun _ =>
    .of_snd_eq fun _ _ => rfl

omit [Endpoint ε] in
theorem tidy_enterPause (url : String) (frame : Record) (params : Json) :
    Act.Keeps (Tidy shut given) (enterPause url frame params : Act (Site ε) Unit) := by
  refine .bind (tidy_ofExcept _) fun paused => .bind (tidy_update fun _ => rfl) fun _ =>
    .bind (tidy_ofExcept _) fun hits => .bind (tidy_update fun b => ?_) fun _ => tidy_emit _
  obtain ⟨_, hrecorded, -⟩ := Bridge.recordHits_eq paused hits b
  rw [hrecorded]

theorem tidy_onPaused (frames : List Record) (params : Json) :
    Act.Keeps (Tidy shut given) (onPaused frames params : Act (Site ε) Unit) := by
  cases frames with
  | nil => exact tidy_running _ _
  | cons frame rest =>
    exact .bind (tidy_ofExcept _) fun _ => .bind tidy_look fun _ => .bind (tidy_ofExcept _) fun _ =>
      .ite (tidy_enterPause _ _ _) (tidy_running _ _)

theorem tidy_onException (e : Thrown) :
    Act.Keeps (Tidy shut given) (onException e : Act (Site ε) Unit) := by
  refine .bind tidy_look fun b => .bind (tidy_ofExcept _) fun location =>
    .ite (tidy_publishException _ _) ?_
  dsimp only
  cases Fields.get? b.tables location.scriptId.text with
  | some table => exact tidy_publishException _ _
  | none =>
    refine .bind (.attempt (tidy_submit _ _)) fun r => ?_
    cases r with
    | ok id => exact tidy_update fun _ => rfl
    | error f => exact .ite (tidy_publishException _ _) (.of_snd_eq fun _ _ => rfl)

theorem tidy_onMessage (m : Record) :
    Act.Keeps (Tidy shut given) (onMessage m : Act (Site ε) Unit) := by
  refine .bind (tidy_ofExcept _) fun n => ?_
  unfold onNotification
  cases n.report with
  | other => exact .of_snd_eq fun _ _ => rfl
  | scriptParsed scriptId url => exact tidy_update fun _ => rfl
  | paused frames reason => exact tidy_onPaused _ _
  | resumed => exact tidy_update fun _ => rfl
  | thrown e => exact tidy_onException e
  | console c => exact tidy_emit _

/-- Reading what waits, whatever is there.  Induction on the frames that may still be read. -/
theorem tidy_pumpWith (burst : Nat) :
    Act.Keeps (Tidy shut given)
      (pumpWith (onLink Wire.poll) onMessage burst : Act (Site ε) Unit) := by
  induction burst with
  | zero => exact .of_snd_eq fun _ _ => rfl
  | succ burst ih =>
    refine .bind (tidy_onLink Wire.tidy_poll) fun p => ?_
    cases p with
    | idle => exact .of_snd_eq fun _ _ => rfl
    | handled => exact ih
    | notification m => exact .bind (.contained (tidy_onMessage m)) fun _ => ih

theorem tidy_pump : Act.Keeps (Tidy shut given) (pump : Act (Site ε) Unit) :=
  .bind tidy_look fun b => tidy_pumpWith b.config.burst

/-! ## §3. What a debugger can be asked. -/

theorem tidy_await (id : Nat) (method : Json) :
    Act.Keeps (Tidy shut given) (await id method : Act (Site ε) Json) :=
  .bind tidy_pump fun _ => tidy_onLink (Wire.tidy_conclude id method)

theorem leads_command (method params : Json) :
    Act.Leads (Tidy shut given) (Tidy shut (given + 1))
      (command method params : Act (Site ε) Json) :=
  .bind (leads_submit method params) fun id => tidy_await id method

theorem tidy_command (method params : Json) :
    Act.Keeps (Tidy shut given) (command method params : Act (Site ε) Json) :=
  .bind (tidy_submit method params) fun id => tidy_await id method

theorem tidy_submitArming (bps : List Breakpoint) :
    Act.Keeps (Tidy shut given) (submitArming bps : Act (Site ε) (List Nat)) := by
  induction bps with
  | nil => exact .of_snd_eq fun _ _ => rfl
  | cons bp rest ih =>
    exact .bind (tidy_submit _ _) fun _ => .bind ih fun _ => .of_snd_eq fun _ _ => rfl

theorem tidy_awaitArming (ids : List Nat) :
    Act.Keeps (Tidy shut given) (awaitArming ids : Act (Site ε) (List Json)) := by
  induction ids with
  | nil => exact .of_snd_eq fun _ _ => rfl
  | cons id rest ih =>
    refine .bind (.attempt (tidy_await _ _)) fun r => ?_
    have hrest (reply : Json) : Act.Keeps (Tidy shut given)
        (awaitArming rest >>= fun replies => pure (reply :: replies) : Act (Site ε) (List Json)) :=
      .bind ih fun _ => .of_snd_eq fun _ _ => rfl
    rcases r with f | v
    · cases f with
      | refused => exact .bind (.of_snd_eq fun _ _ => rfl) hrest
      | _ => exact .bind (.of_snd_eq fun _ _ => rfl) hrest
    · exact .bind (.of_snd_eq fun _ _ => rfl) hrest

omit [Endpoint ε] in
theorem tidy_assignIds (replies : List Json) : ∀ i,
    Act.Keeps (Tidy shut given) (assignIds i replies : Act (Site ε) Unit) := by
  induction replies with
  | nil => exact fun _ => .of_snd_eq fun _ _ => rfl
  | cons reply rest ih =>
    exact fun i => .bind (tidy_ofExcept _) fun _ => .bind (tidy_update fun _ => rfl) fun _ => ih _

theorem tidy_armBreakpoints :
    Act.Keeps (Tidy shut given) (armBreakpoints : Act (Site ε) (List Breakpoint)) :=
  .bind tidy_look fun _ => .bind (tidy_submitArming _) fun _ => .bind (tidy_awaitArming _) fun _ =>
    .bind (tidy_assignIds _ _) fun _ => .of_snd_eq fun _ _ => rfl

theorem tidy_addBreakpoint (url line : Json) :
    Act.Keeps (Tidy shut given) (addBreakpoint url line : Act (Site ε) (Option Breakpoint)) := by
  refine .bind (tidy_ofExcept _) fun _ => .bind tidy_look fun _ =>
    .bind (tidy_ofExcept _) fun added => .bind (tidy_update fun _ => rfl) fun _ => ?_
  cases added.1.items[added.2]? with
  | none => exact .of_snd_eq fun _ _ => rfl
  | some bp =>
    refine .bind tidy_look fun b => .ite ?_ (.of_snd_eq fun _ _ => rfl)
    exact .bind (tidy_command _ _) fun _ => .bind (tidy_ofExcept _) fun _ =>
      .bind (tidy_update fun _ => rfl) fun _ => .of_snd_eq fun _ _ => rfl

theorem tidy_removeBreakpoint (url line : Json) :
    Act.Keeps (Tidy shut given) (removeBreakpoint url line : Act (Site ε) Bool) := by
  have hforget (n : Int) : Act.Keeps (Tidy shut given) (forgetting url n : Act (Site ε) Bool) :=
    .bind tidy_look fun _ => .bind (tidy_ofExcept _) fun _ =>
      .bind (tidy_update fun _ => rfl) fun _ => .of_snd_eq fun _ _ => rfl
  rw [removeBreakpoint_eq]
  refine .bind (tidy_ofExcept _) fun n => .bind tidy_look fun b =>
    .bind (tidy_ofExcept _) fun found => ?_
  cases found with
  | none => exact .of_snd_eq fun _ _ => rfl
  | some bp => exact .ite (.bind (tidy_command _ _) fun _ => hforget n) (hforget n)

theorem tidy_evaluate (expression : Json) :
    Act.Keeps (Tidy shut given) (evaluate expression : Act (Site ε) Json) :=
  .bind tidy_look fun _ => .bind (tidy_ofExcept _) fun _ => tidy_command _ _

theorem tidy_properties (objectId : Json) :
    Act.Keeps (Tidy shut given) (properties objectId : Act (Site ε) (List Json)) :=
  .bind (tidy_command _ _) fun _ => tidy_ofExcept _

/-! ## §4. Starting and stopping. -/

theorem leads_enabling :
    Act.Leads (Tidy shut given) (Tidy shut (given + 1)) (enabling : Act (Site ε) Unit) :=
  .bind (leads_command _ _) fun _ => .bind (tidy_command _ _) fun _ =>
    .bind tidy_armBreakpoints fun _ => .of_snd_eq fun _ _ => rfl

/-- A bridge that connects sends a command, so one that has sent none has no socket. -/
theorem tidy_establish_first (htame : s.bridge.config.Tame) (htidy : s.Tidy false 1)
    (hnone : s.bridge.link.socket = none) :
    (establish.exec s).2.Tidy false 1 ∧ ((establish.exec s).2.bridge.link.nextId = 1 →
      (establish.exec s).2.bridge.link.socket = none) := by
  rw [establish_eq]
  have hconnected := tidy_onLink Wire.tidy_connect s htidy
  have hlinked := onLink_linkedTo Wire.connect s
  rcases Wire.exec_connect_dialling (w := s.wire) hnone htidy.shutdown with
    ⟨k, -, hdial⟩ | ⟨b, f, status, -, hdial⟩ <;>
    obtain ⟨s₁, hexec, -⟩ := exec_onLink htame hdial <;>
    rw [hexec] at hconnected hlinked
  · rw [Act.exec_bind_ok hexec]
    have hsent := leads_enabling s₁ hconnected
    exact ⟨hsent.fewer, fun hfirst => absurd (hfirst ▸ hsent.numbered) (by decide)⟩
  · rw [Act.exec_bind_error hexec]
    refine ⟨hconnected, fun _ => ?_⟩
    have hsocket := congrArg (fun w => w.link.socket) hlinked.1
    exact hsocket.trans (by rw [hdial]; exact hnone)

/-- A bridge that is started for the first time, however that ends, has only the socket that is
open, and none if it has sent nothing. -/
theorem tidy_start_first (htame : s.bridge.config.Tame) (htidy : s.Tidy false 1)
    (hnone : s.bridge.link.socket = none) :
    (start.exec s).2.Tidy false 1 ∧
      ((start.exec s).2.bridge.link.nextId = 1 → (start.exec s).2.bridge.link.socket = none) := by
  rw [exec_start]
  by_cases hstopped : s.bridge.stopped
  · rw [if_pos hstopped]
    exact ⟨htidy, fun _ => hnone⟩
  · rw [if_neg hstopped, exec_settlingOn]
    exact tidy_establish_first (s := s.renewed) htame htidy hnone

/-- Stopping shuts the link. -/
theorem leads_stop : Act.Leads (Tidy shut given) (Tidy true given) (stop : Act (Site ε) Unit) := by
  intro s hs
  unfold stop
  rw [Act.exec_bind_ok (exec_update _ s)]
  have hclosing : Act.Leads (Tidy shut given) (Tidy true given) (do
      onLink Wire.close
      update (fun b => { b with status := .closed }) : Act (Site ε) Unit) :=
    .bind (leads_onLink Wire.leads_close) fun _ => tidy_update fun _ => rfl
  exact hclosing _ hs

omit [Endpoint ε] in
/-- The signals of an operation are heeded under guards. -/
theorem guarded_onLink {a : Act (Wire ε) α} (ha : Act.Guarded a) : Act.Guarded (onLink a) := by
  have hheed (signals : List Signal) : Act.Guarded (heedAll signals : Act (Site ε) Unit) := by
    induction signals with
    | nil => exact .of_ok fun _ => ⟨_, rfl⟩
    | cons signal rest ih => exact .bind (.contained _) fun _ => ih
  have hheedLink : Act.Guarded (heedLink : Act (Site ε) Unit) :=
    .bind (.of_ok fun _ => ⟨_, rfl⟩) fun _ => .bind (.of_ok fun _ => ⟨_, rfl⟩) fun _ => hheed _
  intro s f s' h
  unfold onLink at h
  rw [Act.exec_bind_ok (exec_attempt_within (r := (a.exec s.wire).1) (w := (a.exec s.wire).2) rfl)]
    at h
  -- the operation itself fails only when its signals are heeded
  have hrest : Act.Guarded
      (heedLink >>= fun _ => Act.ofExcept (a.exec s.wire).1 : Act (Site ε) α) := by
    refine .bind hheedLink fun _ _ f _ hend => ?_
    obtain ⟨hfails, -⟩ := Prod.mk.inj hend
    exact ha s.wire f (a.exec s.wire).2 (Prod.ext hfails rfl)
  exact hrest _ f s' h

/-- The sockets that are open are the one of the bridge's link. -/
def Holding (s : Site ε) : Prop := s.network.openSockets = s.bridge.link.socket.toList

omit [Endpoint ε] in
theorem holding_of_tidy {a : Act (Site ε) α}
    (ha : ∀ shut, ∃ shut', Act.Leads (Tidy shut 0) (Tidy shut' 0) a) : Act.Keeps Holding a := by
  intro s hs
  obtain ⟨shut', hleads⟩ := ha s.bridge.link.shutdown
  exact (hleads s ⟨hs, rfl, Nat.zero_le _⟩).held

/-- **Only an interruption keeps a bridge from being stopped.** -/
theorem guarded_stop : Act.Guarded (stop : Act (Site ε) Unit) :=
  .bind (.of_ok fun _ => ⟨_, rfl⟩) fun _ => .bind (guarded_onLink Wire.guarded_close) fun _ =>
    .of_ok fun _ => ⟨_, rfl⟩

end Site
end FlowTrace
