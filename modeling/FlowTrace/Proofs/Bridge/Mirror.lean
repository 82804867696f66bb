/-
  FlowTrace.Proofs.Bridge.Mirror
  ────────────────────────────────
  **BRIDGES IN STEP.**

  An older bridge on a new connection and a bridge that was just made, which talks to the
  same host through a relay, are in step: what belongs to the connection is the same on
  both, and what the older one has besides is never looked at,

      requests   — for sources that will not come any more
      calls      — of listeners, made long ago
      hits       — at breakpoints that were not hit again

  Whatever both are asked, and whatever the host says, they stay in step.
-/
import FlowTrace.Proofs.Bridge.Agreement
import FlowTrace.Proofs.Bridge.Attribution
import FlowTrace.Proofs.Debug.Renewal
import FlowTrace.Proofs.Link.Mirror

namespace FlowTrace

open Act

/-! ## §1. Bridges. -/

/-- The request with a higher number. -/
def Fetch.raise (d : Nat) (f : Fetch) : Fetch := { f with id := f.id + d }

theorem Fetch.raise_beq {d id id' : Nat} (hid : Raised d id id') (f : Fetch) :
    ((f.raise d).id == id) = (f.id == id') := by
  show (f.id + d == id) = (f.id == id')
  rw [hid.1]
  exact Bool.eq_iff_iff.mpr (by simp)

/-- What an older bridge has behind it, with its breakpoints as they were at the end. -/
structure Bridge.Past extends FlowTrace.Past where
  fetches : List Fetch
  asked : ∀ f ∈ fetches, f.id ≤ shift
  calls : List (String × Event)
  breakpoints : List Breakpoint

/-- More is known of how far the newer link has counted. -/
def Bridge.Past.counting (past : Bridge.Past) (n : Nat) : Bridge.Past := { past with given := n }

/-- No request of the past has a number that was given away since. -/
theorem Bridge.Past.id_ne (past : Bridge.Past) {id id' : Nat} (hid : Raised past.shift id id')
    {f : Fetch} (hf : f ∈ past.fetches) : f.id ≠ id := by
  have hle := past.asked f hf
  obtain ⟨rfl, hpos⟩ := hid
  omega

/-- The older bridge is as the newer one, with its past. -/
structure Bridge.Mirrors (past : Bridge.Past) (b b' : Bridge) : Prop where
  config : b.config = b'.config
  link : b.link.Mirrors past.toPast b'.link
  registry : b.registry.Renews past.breakpoints b'.registry
  tracker : b.tracker = b'.tracker
  status : b.status = b'.status
  stopped : b.stopped = b'.stopped
  blocks : b.blocks = b'.blocks
  tables : b.tables = b'.tables
  fetches : b.fetches = past.fetches ++ b'.fetches.map (Fetch.raise past.shift)
  calls : b.calls = past.calls ++ b'.calls
  awaited : ∀ f ∈ b'.fetches, f.id < b'.link.nextId
  /-- Every signal was heeded. -/
  silent : b'.link.signals = []
  closed : b'.stopped = true → past.closed

namespace Bridge.Mirrors

variable {past : Bridge.Past} {b b' : Bridge}

theorem forgetting {n : Nat} (h : b.Mirrors (past.counting n) b') (hn : past.given ≤ n) :
    b.Mirrors past b' := { h with link := h.link.forgetting hn }

theorem isFlowScript (h : b.Mirrors past b') (url : Json) :
    b.isFlowScript url = b'.isFlowScript url := by
  unfold Bridge.isFlowScript
  rw [h.config]

theorem flowLocation (h : b.Mirrors past b') (e : Thrown) :
    b.flowLocation e = b'.flowLocation e := by
  unfold Bridge.flowLocation
  rw [flowFrame?_congr (congrArg BridgeConfig.marker h.config) h.tracker]
  unfold Bridge.urlOr
  rw [h.tracker, h.isFlowScript]

theorem describe (h : b.Mirrors past b') (e : Thrown) (table : Option BlockTable) :
    b.describe e table = b'.describe e table := by
  unfold Bridge.describe
  rw [h.flowLocation, h.blocks]

theorem isLive (h : b.Mirrors past b') : b.isLive = b'.isLive := by
  unfold Bridge.isLive
  rw [h.status]

/-- The trackers change in the same way. -/
theorem tracking (h : b.Mirrors past b') (f : PauseTracker → PauseTracker) :
    ({ b with tracker := f b.tracker } : Bridge).Mirrors past { b' with tracker := f b'.tracker } :=
  { h with tracker := congrArg f h.tracker }

theorem settle (h : b.Mirrors past b') {status : BridgeStatus} :
    (if b.status = .connecting then { b with status := status } else b : Bridge).Mirrors past
      (if b'.status = .connecting then { b' with status := status } else b') := by
  rw [h.status]
  by_cases hstarting : b'.status = .connecting
  · rw [if_pos hstarting, if_pos hstarting]
    exact { h with status := rfl }
  · rw [if_neg hstarting, if_neg hstarting]
    exact h

theorem renew (h : b.Mirrors past b') : b.renew.Mirrors past b'.renew :=
  { h with status := rfl, tracker := rfl, tables := rfl, registry := h.registry.clearIds }

theorem leavePause (h : b.Mirrors past b') : b.leavePause.Mirrors past b'.leavePause :=
  { h with
    tracker := by
      show b.tracker.clear = b'.tracker.clear
      rw [h.tracker]
    status := by
      show (if b.status = .paused then _ else b.status)
        = if b'.status = .paused then _ else b'.status
      rw [h.status] }

/-- The frame of a pause is noted at the same breakpoints. -/
theorem recordHits (frame : PausedFrame) (ids : List Json) : ∀ {b b' : Bridge},
    b.Mirrors past b' → (b.recordHits frame ids).Mirrors past (b'.recordHits frame ids) := by
  induction ids with
  | nil => exact fun h => h
  | cons id rest ih =>
    intro b b' h
    unfold Bridge.recordHits
    rw [h.registry.indexOfId? id]
    cases b'.registry.indexOfId? id with
    | none => exact ih h
    | some i => exact ih { h with registry := h.registry.modify i fun _ _ hbp => hbp.struck _ _ }

/-- A request is found under the number of its command, and none of the past is. -/
theorem fetch? (h : b.Mirrors past b') {id id' : Nat} (hid : Raised past.shift id id') :
    b.fetches.find? (fun f => f.id == id)
      = (b'.fetches.find? (fun f => f.id == id')).map (Fetch.raise past.shift) := by
  have hpast : past.fetches.find? (fun f => f.id == id) = none := by
    rw [List.find?_eq_none]
    exact fun f hf => by simpa using past.id_ne hid hf
  have hsame : ((fun f => f.id == id) ∘ Fetch.raise past.shift) = fun f => f.id == id' :=
    funext (Fetch.raise_beq hid)
  rw [h.fetches, List.find?_append, hpast, List.find?_map, hsame]
  rfl

/-- A request that was answered is forgotten. -/
theorem forgetFetch (h : b.Mirrors past b') {id id' : Nat}
    (hid : Raised past.shift id id') :
    ({ b with fetches := b.fetches.filter (fun f => f.id != id) } : Bridge).Mirrors past
      { b' with fetches := b'.fetches.filter (fun f => f.id != id') } :=
  { h with
    fetches := by
      have hpast : past.fetches.filter (fun f => f.id != id) = past.fetches := by
        rw [List.filter_eq_self]
        exact fun f hf => bne_iff_ne.mpr (past.id_ne hid hf)
      have hsame : ((fun f => f.id != id) ∘ Fetch.raise past.shift) = fun f => f.id != id' :=
        funext fun f => congrArg (!·) (Fetch.raise_beq hid f)
      show b.fetches.filter _ = past.fetches ++ (b'.fetches.filter _).map _
      rw [h.fetches, List.filter_append, hpast, List.filter_map, hsame]
    awaited := fun f hf => h.awaited f (List.mem_filter.mp hf).1 }

end Bridge.Mirrors

/-! ## §2. Sites. -/

/-- The bridges are in step, the hosts are related, and what was put on the wire since is the
same, with higher numbers. -/
structure Site.Mirrors {ε ε' : Type} (past : Bridge.Past) (H : ε → ε' → Prop) (s : Site ε)
    (s' : Site ε') : Prop where
  bridge : s.bridge.Mirrors past s'.bridge
  host : H s.network.endpoint s'.network.endpoint
  log : s.network.log = past.log ++ s'.network.log.map (Traffic.raise past.shift)

namespace Site

variable {ε ε' : Type} {past : Bridge.Past} {H : ε → ε' → Prop}

theorem Mirrors.forgetting {s : Site ε} {s' : Site ε'} {n : Nat}
    (h : s.Mirrors (past.counting n) H s') (hn : past.given ≤ n) : s.Mirrors past H s' :=
  ⟨h.bridge.forgetting hn, h.host, h.log⟩

/-- The operations keep the sites in step, and answer in the same way. -/
abbrev InStep {α α' : Type} (past : Bridge.Past) (H : ε → ε' → Prop) (V : α → α' → Prop)
    (a : Act (Site ε) α) (a' : Act (Site ε') α') : Prop :=
  Simulates (Site.Mirrors past H) V a a'

theorem inStep_look : InStep past H (Bridge.Mirrors past) look look :=
  fun _ _ h => ⟨.ok h.bridge, h⟩

theorem inStep_update {f f' : Bridge → Bridge}
    (hf : ∀ b b', b.Mirrors past b' → (f b).Mirrors past (f' b')) :
    InStep past H Eq (update f) (update f') :=
  fun _ _ h => ⟨.ok rfl, hf _ _ h.bridge, h.host, h.log⟩

/-! Events. -/

theorem inStep_call (l : Listener) (e : Event) : InStep past H Eq (call l e) (call l e) := by
  refine .bind_eq (inStep_update fun b b' h => { h with calls := ?_ }) fun _ =>
    .contained (.ofExcept (.refl _))
  show b.calls ++ [(l.name, e)] = past.calls ++ (b'.calls ++ [(l.name, e)])
  rw [h.calls, List.append_assoc]

theorem inStep_emit (e : Event) : InStep past H Eq (emit e) (emit e) := by
  refine .bind inStep_look fun b b' hb => ?_
  rw [hb.config]
  induction b'.config.listeners.filter (fun l => l.kind == e.kind) with
  | nil => exact .pure rfl
  | cons l rest ih => exact .bind_eq (inStep_call l e) fun _ => ih

theorem inStep_publishException (e : Thrown) (table : Option BlockTable) :
    InStep past H Eq (publishException e table) (publishException e table) := by
  refine .bind inStep_look fun b b' hb => ?_
  refine .bind_eq (.ofExcept (.of_eq (hb.describe e table))) fun report => ?_
  exact inStep_emit _

/-! Signals. -/

theorem inStep_loseConnection : InStep past H Eq loseConnection loseConnection := by
  refine .bind_eq (inStep_update fun b b' h =>
    { h.tracking PauseTracker.clear with status := rfl }) fun _ => ?_
  refine .bind inStep_look fun b b' hb => ?_
  rw [hb.stopped]
  exact inStep_emit _

theorem inStep_finishFetch (f : Fetch) (outcome : Outcome) :
    InStep past H Eq (finishFetch (f.raise past.shift) outcome) (finishFetch f outcome) := by
  cases outcome with
  | error _ => exact inStep_publishException _ _
  | ok result =>
    refine .bind inStep_look fun b b' hb => ?_
    rw [hb.config]
    refine .bind_eq (.ofExcept (.refl _)) fun table => ?_
    refine .bind_eq (inStep_update fun b b' h => { h with tables := ?_ })
      fun _ => inStep_publishException _ _
    show Fields.put f.scriptId table b.tables = Fields.put f.scriptId table b'.tables
    rw [h.tables]

theorem inStep_completeCommand {id id' : Nat} (hid : Raised past.shift id id')
    (outcome : Outcome) :
    InStep past H Eq (completeCommand id outcome) (completeCommand id' outcome) := by
  refine .bind inStep_look fun b b' hb => ?_
  rw [hb.fetch? hid]
  cases b'.fetches.find? (fun f => f.id == id') with
  | none => exact .pure rfl
  | some f =>
    exact .bind_eq (inStep_update fun b b' h => h.forgetFetch hid) fun _ =>
      inStep_finishFetch f outcome

/-- A signal is heeded that is about no command, or about one with a number. -/
theorem inStep_heed (s : Signal) (hs : ∀ id outcome, s = .completed id outcome → 0 < id) :
    InStep past H Eq (heed (s.raise past.shift)) (heed s) := by
  cases s with
  | up => exact .pure rfl
  | down => exact inStep_loseConnection
  | completed id outcome => exact inStep_completeCommand ⟨rfl, hs id outcome rfl⟩ outcome

theorem inStep_heedAll (ss : List Signal)
    (htold : ∀ id outcome, .completed id outcome ∈ ss → 0 < id) :
    InStep past H Eq (heedAll (ss.map (Signal.raise past.shift))) (heedAll ss) := by
  induction ss with
  | nil => exact .pure rfl
  | cons s rest ih =>
    refine .bind_eq (.contained (inStep_heed s fun id outcome hs => ?_)) fun _ =>
      ih fun id outcome hin => htold id outcome (List.mem_cons_of_mem s hin)
    exact htold id outcome (hs ▸ List.mem_cons_self ..)

/-- **What keeps the links in step keeps the bridges in step**: all that the links tell is
heeded by both. -/
theorem onLink_mirrors {α α' : Type} {V : α → α' → Prop} {a : Act (Wire ε) α}
    {a' : Act (Wire ε') α'} {s : Site ε} {s' : Site ε'} {n : Nat} (h : s.Mirrors past H s')
    (hn : s'.bridge.link.nextId ≤ n) (hagree : Agree V (a.exec s.wire).1 (a'.exec s'.wire).1)
    (hwire : Wire.Mirrors (past.toPast.counting n) H (a.exec s.wire).2 (a'.exec s'.wire).2) :
    Agree V ((onLink a).exec s).1 ((onLink a').exec s').1 ∧
      Site.Mirrors (past.counting n) H ((onLink a).exec s).2 ((onLink a').exec s').2 := by
  have hlink := hwire.link
  have hrewired : Site.Mirrors (past.counting n) H (s.rewired (a.exec s.wire).2)
      (s'.rewired (a'.exec s'.wire).2) :=
    { bridge :=
        { h.bridge with
          link := { hlink with signals := rfl, told := nofun }
          awaited := fun f hf =>
            Nat.lt_of_lt_of_le (h.bridge.awaited f hf) (Nat.le_trans hn hlink.given)
          silent := rfl }
      host := hwire.host
      log := hwire.log }
  have hheeded : InStep (past.counting n) H V
      (heedAll (a.exec s.wire).2.link.signals >>= fun _ => Act.ofExcept (a.exec s.wire).1)
      (heedAll (a'.exec s'.wire).2.link.signals >>= fun _ => Act.ofExcept (a'.exec s'.wire).1) := by
    rw [hlink.signals]
    exact .bind_eq (inStep_heedAll _ hlink.told) fun _ => .ofExcept hagree
  exact hheeded _ _ hrewired

theorem inStep_onLink {α α' : Type} {V : α → α' → Prop} {a : Act (Wire ε) α}
    {a' : Act (Wire ε') α'}
    (h : ∀ n, Wire.InStep (past.toPast.counting n) H V a a') :
    InStep past H V (onLink a) (onLink a') := by
  intro s s' hs
  obtain ⟨hagree, hwire⟩ := h s'.bridge.link.nextId s.wire s'.wire
    ⟨hs.bridge.link.knowing (Nat.le_refl _), hs.host, hs.log⟩
  obtain ⟨hagree', hend⟩ := onLink_mirrors hs (Nat.le_refl _) hagree hwire
  exact ⟨hagree', hend.forgetting hs.bridge.link.given⟩

section Endpoint

variable [Endpoint ε] [Endpoint ε']

theorem inStep_submit (hrelays : Relays past.shift H) (method params : Json) :
    InStep past H (Raised past.shift) (onLink (Wire.submit method params))
      (onLink (Wire.submit method params)) :=
  inStep_onLink fun n => Wire.inStep_submit (hrelays.counting n) method params

/-! Notifications. -/

theorem inStep_running (hrelays : Relays past.shift H) (method params : Json) :
    InStep past H Eq
      (do
        update Bridge.leavePause
        let _ ← onLink (Wire.notify method params))
      (do
        update Bridge.leavePause
        let _ ← onLink (Wire.notify method params)) := by
  have hnotify : InStep past H (Raised past.shift) (onLink (Wire.notify method params))
      (onLink (Wire.notify method params)) :=
    inStep_onLink fun n => Wire.inStep_notify (hrelays.counting n) method params
  exact .bind_eq (inStep_update fun _ _ h => h.leavePause) fun _ =>
    .bind hnotify fun _ _ _ => .pure rfl

omit [Endpoint ε] [Endpoint ε'] in
theorem inStep_enterPause (url : String) (frame : Record) (params : Json) :
    InStep past H Eq (enterPause url frame params) (enterPause url frame params) := by
  refine .bind_eq (.ofExcept (.refl _)) fun paused => ?_
  refine .bind_eq (inStep_update fun b b' h => h.tracking (·.capture paused)) fun _ => ?_
  refine .bind_eq (.ofExcept (.refl _)) fun hits => ?_
  exact .bind_eq (inStep_update fun b b' h => { h.recordHits paused hits with status := rfl })
    fun _ => inStep_emit _

theorem inStep_onPaused (hrelays : Relays past.shift H) (frames : List Record) (params : Json) :
    InStep past H Eq (onPaused frames params) (onPaused frames params) := by
  cases frames with
  | nil => exact inStep_running hrelays _ _
  | cons frame rest =>
    refine .bind_eq (.ofExcept (.refl _)) fun scriptId => ?_
    refine .bind inStep_look fun b b' hb => ?_
    rw [hb.tracker]
    dsimp only
    rw [hb.isFlowScript]
    refine .bind_eq (.ofExcept (.refl _)) fun flow => ?_
    exact .ite (fun _ => inStep_enterPause _ _ _) fun _ => inStep_running hrelays _ _

/-- The source of a script is asked for, or the exception is reported without. -/
def fetching {ε : Type} [Endpoint ε] (scriptId : String) (e : Thrown) : Act (Site ε) Unit := do
  let r ← Act.attempt (onLink
    (Wire.submit "Debugger.getScriptSource" (.obj [("scriptId", .str scriptId)])))
  match r with
  | .ok id =>
      update (fun b =>
        { b with fetches := b.fetches ++ [{ id := id, scriptId := scriptId, exception := e }] })
  | .error f => if f.isLink then publishException e none else throw f

/-- The number under which a source is asked for was not given away before. -/
theorem inStep_fetching (hrelays : Relays past.shift H) (scriptId : String) (e : Thrown) :
    InStep past H Eq (fetching scriptId e) (fetching scriptId e) := by
  intro s s' h
  have hn : s'.bridge.link.nextId ≤ s'.bridge.link.nextId + 1 := Nat.le_succ _
  have hwires : s.wire.Mirrors past.toPast H s'.wire := ⟨h.bridge.link, h.host, h.log⟩
  obtain ⟨hagree, hwire⟩ := Wire.submit_mirrors hrelays hwires "Debugger.getScriptSource"
    (.obj [("scriptId", .str scriptId)])
  obtain ⟨hsent, hnext⟩ := onLink_mirrors h hn hagree hwire
  have hback := hnext.forgetting (Nat.le_trans h.bridge.link.given hn)
  -- The two ends are compared by hand: that the number is new is known of the sites after the
  -- submission only, and a relation between the results cannot say it.
  unfold fetching
  rw [exec_bind_ok (exec_attempt _ _), exec_bind_ok (exec_attempt _ _)]
  generalize (onLink _).exec s = x at hsent hnext hback ⊢
  generalize (onLink _).exec s' = x' at hsent hnext hback ⊢
  obtain ⟨r, t⟩ := x
  obtain ⟨r', t'⟩ := x'
  dsimp only at hsent hnext hback ⊢
  cases hsent with
  | error f =>
    have hfailed : InStep past H Eq (if f.isLink then publishException e none else throw f)
        (if f.isLink then publishException e none else throw f) :=
      .ite (fun _ => inStep_publishException _ _) fun _ => .throw f
    exact hfailed t t' hback
  | @ok id id' hid =>
    obtain ⟨⟨rfl, _⟩, rfl⟩ := hid
    refine ⟨.ok rfl, { hback.bridge with fetches := ?_, awaited := ?_ }, hback.host, hback.log⟩
    · show t.bridge.fetches ++ [_] = past.fetches ++ (t'.bridge.fetches ++ [_]).map _
      rw [hback.bridge.fetches, List.map_append, List.append_assoc]
      rfl
    · intro f hf
      rcases List.mem_append.mp hf with hf | hf
      · exact hback.bridge.awaited f hf
      · obtain rfl := List.mem_singleton.mp hf
        exact hnext.bridge.link.given

theorem inStep_onException (hrelays : Relays past.shift H) (e : Thrown) :
    InStep past H Eq (onException e) (onException e) := by
  refine .bind inStep_look fun b b' hb => ?_
  rw [hb.flowLocation, hb.blocks, hb.tables]
  refine .bind_eq (.ofExcept (.refl _)) fun location => ?_
  refine .ite (fun _ => inStep_publishException _ _) fun _ => ?_
  dsimp only
  cases Fields.get? b'.tables location.scriptId.text with
  | some table => exact inStep_publishException _ _
  | none => exact inStep_fetching hrelays _ e

theorem inStep_onNotification (hrelays : Relays past.shift H) (n : Notification) :
    InStep past H Eq (onNotification n) (onNotification n) := by
  unfold onNotification
  cases n.report with
  | other => exact .pure rfl
  | scriptParsed scriptId url =>
    exact inStep_update fun b b' h => h.tracking (·.record _)
  | paused frames reason => exact inStep_onPaused hrelays frames n.params
  | resumed => exact inStep_update fun _ _ h => h.leavePause
  | thrown e => exact inStep_onException hrelays e
  | console c => exact inStep_emit _

theorem inStep_onMessage (hrelays : Relays past.shift H) (m : Record) :
    InStep past H Eq (onMessage m) (onMessage m) := by
  refine .bind_eq (.ofExcept (.refl _)) fun n => ?_
  exact inStep_onNotification hrelays n

/-- **Whatever the host says, the bridges stay in step.** -/
theorem inStep_pump (hrelays : Relays past.shift H) : InStep past H Eq pump pump := by
  refine .bind inStep_look fun b b' hb => ?_
  rw [hb.config]
  -- Induction on the number of frames that may be read.
  induction b'.config.burst with
  | zero => exact .pure rfl
  | succ burst ih =>
    refine .bind_eq (inStep_onLink fun n => Wire.inStep_poll (hrelays.counting n)) fun p => ?_
    cases p with
    | idle => exact .pure rfl
    | handled => exact ih
    | notification m => exact .bind_eq (.contained (inStep_onMessage hrelays m)) fun _ => ih

/-! ## §3. Operations. -/

theorem inStep_await (hrelays : Relays past.shift H) {id id' : Nat}
    (hid : Raised past.shift id id') (method : Json) :
    InStep past H Eq (await id method) (await id' method) :=
  .bind_eq (inStep_pump hrelays) fun _ =>
    inStep_onLink fun n => Wire.inStep_conclude (hid.counting n) method

theorem inStep_command (hrelays : Relays past.shift H) (method params : Json) :
    InStep past H Eq (command method params) (command method params) :=
  .bind (inStep_submit hrelays method params) fun _ _ hid =>
    inStep_await hrelays hid method

/-! Breakpoints. -/

omit [Endpoint ε] [Endpoint ε'] in
/-- The same is asked for a breakpoint, whatever its last hit. -/
theorem armParams_of_renews {old : List Breakpoint} {bp bp' : Breakpoint}
    (hbp : bp.Renews old bp') : armParams bp = armParams bp' := by
  unfold armParams
  rw [hbp.url, hbp.line]

theorem inStep_submitArming (hrelays : Relays past.shift H) {bps bps' : List Breakpoint}
    (h : List.Forall₂ (Breakpoint.Renews past.breakpoints) bps bps') :
    InStep past H (List.Forall₂ (Raised past.shift)) (submitArming bps)
      (submitArming bps') := by
  induction h with
  | nil => exact .pure .nil
  | @cons bp bp' rest rest' hbp _ ih =>
    unfold submitArming
    rw [armParams_of_renews hbp]
    exact .bind (inStep_submit hrelays _ _) fun id id' hid =>
      .bind ih fun ids ids' hids => .pure (.cons hid hids)

omit [Endpoint ε] [Endpoint ε'] in
theorem inStep_armingReply (r : Except Fault Json) :
    InStep past H Eq (armingReply r) (armingReply r) := by
  unfold armingReply
  split
  · exact .pure rfl
  · exact .pure rfl
  · exact .throw _

theorem inStep_awaitArming (hrelays : Relays past.shift H) {ids ids' : List Nat}
    (h : List.Forall₂ (Raised past.shift) ids ids') :
    InStep past H Eq (awaitArming ids) (awaitArming ids') := by
  induction h with
  | nil => exact .pure rfl
  | @cons id id' rest rest' hid _ ih =>
    rw [awaitArming_cons, awaitArming_cons]
    refine .bind (.attempt (inStep_await hrelays hid armMethod)) fun r r' hr => ?_
    obtain rfl := hr.eq
    refine .bind_eq (inStep_armingReply r) fun reply => ?_
    refine .bind_eq ih fun replies => ?_
    exact .pure rfl

omit [Endpoint ε] [Endpoint ε'] in
theorem inStep_assignId (i : Nat) (id : Json) : InStep past H Eq (assignId i id) (assignId i id) :=
  inStep_update fun _ _ h =>
    { h with registry := h.registry.modify i fun _ _ hbp => hbp.assigned id }

omit [Endpoint ε] [Endpoint ε'] in
theorem inStep_assignIds (replies : List Json) :
    ∀ i, InStep past H Eq (assignIds i replies) (assignIds i replies) := by
  induction replies with
  | nil => exact fun i => .pure rfl
  | cons reply rest ih =>
    intro i
    refine .bind_eq (.ofExcept (.refl _)) fun id => ?_
    exact .bind_eq (inStep_assignId i id) fun _ => ih (i + 1)

theorem inStep_armBreakpoints (hrelays : Relays past.shift H) :
    InStep past H (List.Forall₂ (Breakpoint.Renews past.breakpoints)) armBreakpoints
      armBreakpoints := by
  refine .bind inStep_look fun b b' hb => ?_
  refine .bind (inStep_submitArming hrelays hb.registry) fun ids ids' hids => ?_
  refine .bind_eq (inStep_awaitArming hrelays hids) fun replies => ?_
  exact .bind_eq (inStep_assignIds replies 0) fun _ =>
    .bind inStep_look fun b b' hb => .pure hb.registry

omit [Endpoint ε] [Endpoint ε'] in
/-- A breakpoint is read back as it is now. -/
theorem inStep_readingBack (i : Nat) :
    InStep past H (Option.Rel (Breakpoint.Renews past.breakpoints)) (readingBack i)
      (readingBack i) :=
  .bind inStep_look fun _ _ hb => .pure (hb.registry.item i)

theorem inStep_armingIfLive (hrelays : Relays past.shift H) (i : Nat) {bp bp' : Breakpoint}
    (hbp : bp.Renews past.breakpoints bp') :
    InStep past H (Option.Rel (Breakpoint.Renews past.breakpoints)) (armingIfLive i bp)
      (armingIfLive i bp') := by
  refine .bind inStep_look fun b b' hb => ?_
  rw [hbp.id, hb.isLive, armParams_of_renews hbp]
  refine .ite (fun _ => ?_) fun _ => inStep_readingBack i
  refine .bind_eq (inStep_command hrelays _ _) fun reply => ?_
  refine .bind_eq (.ofExcept (.refl _)) fun id => ?_
  exact .bind_eq (inStep_assignId i id) fun _ => inStep_readingBack i

theorem inStep_addBreakpoint (hrelays : Relays past.shift H) (url line : Json) :
    InStep past H (Option.Rel (Breakpoint.Renews past.breakpoints)) (addBreakpoint url line)
      (addBreakpoint url line) := by
  rw [addBreakpoint_eq, addBreakpoint_eq]
  refine .bind_eq (.ofExcept (.refl _)) fun n => ?_
  refine .bind inStep_look fun b b' hb => ?_
  refine .bind (.ofExcept (hb.registry.add _)) fun added added' hadded => ?_
  obtain ⟨r, i⟩ := added
  obtain ⟨r', i'⟩ := added'
  obtain ⟨hr, rfl⟩ := hadded
  refine .bind_eq (inStep_update fun b b' h => { h with registry := hr }) fun _ => ?_
  have hitem := hr.item i
  dsimp only at hitem ⊢
  generalize r.items[i]? = found at hitem ⊢
  generalize r'.items[i]? = found' at hitem ⊢
  cases hitem with
  | none => exact .pure .none
  | some hbp => exact inStep_armingIfLive hrelays i hbp

theorem inStep_removeBreakpoint (hrelays : Relays past.shift H) (url line : Json) :
    InStep past H Eq (removeBreakpoint url line) (removeBreakpoint url line) := by
  have hforget (n : Int) : InStep past H Eq (forgetting url n) (forgetting url n) :=
    .bind inStep_look fun b b' hb => .bind (.ofExcept (hb.registry.remove url _)) fun _ _ hr =>
      .bind_eq (inStep_update fun b b' h => { h with registry := hr }) fun _ => .pure rfl
  rw [removeBreakpoint_eq, removeBreakpoint_eq]
  refine .bind_eq (.ofExcept (.refl _)) fun n => ?_
  refine .bind inStep_look fun b b' hb => ?_
  refine .bind (.ofExcept (hb.registry.find url _)) fun found found' hfound => ?_
  cases hfound with
  | none => exact .pure rfl
  | some hbp =>
    show InStep past H Eq (disarmingIf _ url n _) (disarmingIf _ url n _)
    unfold disarmingIf
    rw [hbp.id, hb.isLive]
    exact .ite (fun _ => .bind_eq (inStep_command hrelays _ _) fun _ => hforget n)
      fun _ => hforget n

/-! Starting and stopping. -/

theorem inStep_establish (hrelays : Relays past.shift H) :
    InStep past H Eq establish establish :=
  .bind_eq (inStep_onLink fun n => Wire.inStep_connect (hrelays.counting n)) fun _ =>
    .bind_eq (inStep_command hrelays _ _) fun _ =>
      .bind_eq (inStep_command hrelays _ _) fun _ =>
        .bind (inStep_armBreakpoints hrelays) fun _ _ _ => .pure rfl

/-- What is done on a new connection, and what comes of it. -/
theorem inStep_settling (hrelays : Relays past.shift H) :
    InStep past H Eq (Act.attempt establish >>= settlingOn)
      (Act.attempt establish >>= settlingOn) := by
  refine .bind (.attempt (inStep_establish hrelays)) fun r r' hr => ?_
  cases hr with
  | ok _ => exact inStep_update fun _ _ h => h.settle
  | error f =>
    exact .ite (fun _ => .bind_eq (inStep_update fun _ _ h => h.settle) fun _ => .throw f)
      fun _ => .throw f

theorem inStep_start (hrelays : Relays past.shift H) : InStep past H Eq start start := by
  rw [start_eq, start_eq]
  refine .bind inStep_look fun b b' hb => ?_
  rw [hb.stopped]
  exact .ite (fun _ => .throw _) fun _ => .bind_eq (inStep_update fun _ _ h => h.renew) fun _ =>
    inStep_settling hrelays

/-- A bridge may be stopped if that is no surprise. -/
theorem inStep_stop (hrelays : Relays past.shift H) (hclosed : past.closed) :
    InStep past H Eq stop stop :=
  .bind_eq (inStep_update fun _ _ h => { h with stopped := rfl, closed := fun _ => hclosed })
    fun _ => .bind_eq
      (inStep_onLink fun n => Wire.inStep_close (hrelays.counting n) hclosed) fun _ =>
      inStep_update fun _ _ h => { h with status := rfl }

/-! Inspection. -/

theorem inStep_evaluate (hrelays : Relays past.shift H) (expression : Json) :
    InStep past H Eq (evaluate expression) (evaluate expression) := by
  refine .bind inStep_look fun b b' hb => ?_
  rw [hb.tracker]
  refine .bind_eq (.ofExcept (.refl _)) fun frame => ?_
  exact inStep_command hrelays _ _

theorem inStep_properties (hrelays : Relays past.shift H) (objectId : Json) :
    InStep past H Eq (properties objectId) (properties objectId) := by
  refine .bind_eq (inStep_command hrelays _ _) fun reply => ?_
  exact .ofExcept (.refl _)

end Endpoint
end Site
end FlowTrace
