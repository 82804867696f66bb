/-
  FlowTrace.Proofs.Bridge.FailedStart
  ────────────────────────────────
  **WHAT A FAILED START LEAVES.**

  A start may fail at the connecting, at either of its two requests or at any
  breakpoint, and while it waits the host may report anything.  Where it fails with a
  fault of the link the bridge is left

      disconnected   — it was connecting still
      closed         — the connection was lost meanwhile

  or, and this is all that may leave it live, the host has reported in the meantime
  that the script is paused in a flow script.  The fall back to disconnected is made from
  connecting only, and such a pause has moved the status on.

  The tracker is emptied when the start begins, so the reports that decide whether a script
  is a flow script are those of the start itself.
-/
import FlowTrace.Proofs.Bridge.Readiness

namespace FlowTrace

/-! ## §1. Pauses that are told. -/

/-- The reports of scripts in the course of a conversation. -/
def scriptsTold (xs : List Exchange) : List Record :=
  xs.filterMap (fun x => (x.told? "Debugger.scriptParsed").bind Json.fields?)

theorem scriptsTold_concat (xs : List Exchange) (x : Exchange) :
    scriptsTold (xs ++ [x])
      = scriptsTold xs ++ ((x.told? "Debugger.scriptParsed").bind Json.fields?).toList := by
  unfold scriptsTold
  rw [List.filterMap_append]
  cases h : (x.told? "Debugger.scriptParsed").bind Json.fields? <;> simp [h]

/-- What is no notification reports no script. -/
theorem scriptsTold_quiet {xs : List Exchange} {x : Exchange} (hnone : x.notification? = none) :
    scriptsTold (xs ++ [x]) = scriptsTold xs := by
  rw [scriptsTold_concat, Exchange.told?_quiet hnone]
  exact List.append_nil _

/-- The exchanges tell of a pause in a flow script, one that earlier among them was reported
with the marker in its address. -/
def TellsFlowPause (marker : Json) (xs : List Exchange) : Prop :=
  ∃ text before x after frame, marker = .str text ∧ xs = before ++ x :: after ∧
    x.PausesAt text (scriptsTold before) frame

theorem TellsFlowPause.concat {marker : Json} {xs : List Exchange} (h : TellsFlowPause marker xs)
    (x : Exchange) : TellsFlowPause marker (xs ++ [x]) := by
  obtain ⟨text, before, y, after, frame, hmarker, rfl, hpauses⟩ := h
  exact ⟨text, before, y, after ++ [x], frame, hmarker, by simp, hpauses⟩

namespace Bridge

variable {b : Bridge} {history : List Record} {message : Record} {x : Exchange}

/-- Whatever is made of a pause, the scripts on record stay. -/
theorem heedPause_scripts (b : Bridge) (frames : List Record) (params : Json) :
    (b.heedPause frames params).tracker.scripts = b.tracker.scripts := by
  unfold heedPause
  split
  · rfl
  split
  · rfl
  split
  · rfl
  · rfl
  split
  · rfl
  split
  · rfl
  · next paused _ _ ids _ =>
    obtain ⟨registry, hstaying, _⟩ := b.staying_eq paused ids
    rw [hstaying]
    rfl

/-- The tracker records every script that is reported, and no other. -/
theorem hear_scripts (hhistory : b.tracker.scripts = scriptsOf history)
    (hx : x.notification? = some message) : (b.hear message).tracker.scripts
      = scriptsOf (history ++ ((x.told? "Debugger.scriptParsed").bind Json.fields?).toList) := by
  rw [Exchange.told?_of_notification hx]
  by_cases hparsed : Message.method message = "Debugger.scriptParsed"
  · rw [if_pos hparsed, hear_parsed hparsed]
    cases hparams : Message.params message with
    | obj params =>
      show Fields.put _ _ b.tracker.scripts = scriptsOf (history ++ [params])
      rw [scriptsOf_concat, hhistory]
    | _ => simpa [Json.fields?] using hhistory
  · rw [if_neg hparsed]
    simp only [Option.bind_none, Option.toList_none, List.append_nil, ← hhistory]
    by_cases hpaused : Message.method message = "Debugger.paused"
    · rw [hear_of_read, hpaused]
      cases Message.params message with
      | obj params => exact heedPause_scripts b _ _
      | _ => rfl
    by_cases hresumed : Message.method message = "Debugger.resumed"
    · rw [hear_resumed hresumed]
      rfl
    · rw [hear_other hparsed hpaused hresumed]

/-- The script that a pause is taken to be in is that of its top frame. -/
theorem scriptId_eq {frame : Record} {scriptId : Json}
    (h : (Json.field frame "location").orObject.get "scriptId" = .ok scriptId) :
    scriptId = Json.field (CallFrame.location frame) "scriptId" := by
  unfold CallFrame.location
  generalize Json.field frame "location" = place at h
  by_cases htruthy : place.truthy = true
  · have hsame : place.orObject = place := if_pos htruthy
    rw [hsame] at h
    cases place with
    | obj fields => exact (Except.ok.inj h).symm
    | _ => cases h
  · have hempty : place.orObject = .obj [] := if_neg htruthy
    rw [hempty] at h
    cases place with
    | obj fields =>
      cases fields with
      | nil => exact (Except.ok.inj h).symm
      | cons field rest => exact absurd rfl htruthy
    | _ => exact (Except.ok.inj h).symm

/-- An address is found to be that of a flow script only where the marker is a text. -/
theorem exists_marker {url : Json} (h : b.isFlowScript url = .ok true) :
    ∃ text, b.config.marker = .str text := by
  unfold isFlowScript at h
  split at h
  · cases hmarker : b.config.marker with
    | str text => exact ⟨text, rfl⟩
    | _ => rw [hmarker] at h; cases h
  · cases h

/-- A bridge becomes paused at a frame in a flow script, and at no other. -/
theorem heedPause_status (b : Bridge) (hhistory : b.tracker.scripts = scriptsOf history)
    (params : Record) :
    (b.heedPause (PauseParams.frames params) (.obj params)).status = b.status ∨ b.status = .paused ∨
      ∃ text frame, b.config.marker = .str text ∧
        (PauseParams.frames params).head? = some frame ∧
          CallFrame.inFlow text history frame = true := by
  -- a pause that is left was one before
  have hleave : b.leavePause.status = b.status ∨ b.status = .paused := by
    by_cases hpaused : b.status = .paused
    · exact .inr hpaused
    · exact .inl (if_neg hpaused)
  cases hframes : PauseParams.frames params with
  | nil => exact hleave.elim .inl (.inr ∘ .inl)
  | cons frame rest =>
    unfold heedPause
    dsimp only
    cases hscript : (Json.field frame "location").orObject.get "scriptId" with
    | error f => exact .inl rfl
    | ok scriptId =>
      dsimp only
      cases hflow : b.isFlowScript (b.tracker.url scriptId) with
      | error f => exact .inl rfl
      | ok inFlow =>
        cases inFlow with
        | false => exact hleave.elim .inl (.inr ∘ .inl)
        | true =>
          obtain ⟨text, hmarker⟩ := exists_marker hflow
          rw [scriptId_eq hscript, isFlowScript_of_history hmarker hhistory] at hflow
          exact .inr (.inr ⟨text, frame, hmarker, rfl, Except.ok.inj hflow⟩)

/-- Hearing a notification changes the status of a bridge that is not paused only if it tells
of a pause in a flow script. -/
theorem hear_wakes (hhistory : b.tracker.scripts = scriptsOf history)
    (hx : x.notification? = some message) :
    (b.hear message).status = b.status ∨ b.status = .paused ∨
      ∃ text frame, b.config.marker = .str text ∧ x.PausesAt text history frame := by
  rcases b.hear_status message with hsame | hwas | hpaused
  · exact .inl hsame
  · exact .inr (.inl hwas)
  have htold : x.told? "Debugger.paused" = some (Message.params message) :=
    Exchange.told?_eq_some.mpr ⟨message, hx, hpaused, rfl⟩
  cases hparams : Message.params message with
  | obj params =>
    rw [hear_paused hpaused hparams]
    rcases b.heedPause_status hhistory params with hsame | hwas | ⟨text, frame, hmarker, hhead, hflow⟩
    · exact .inl hsame
    · exact .inr (.inl hwas)
    · exact .inr (.inr ⟨text, frame, hmarker, params, by rw [htold, hparams], hhead, hflow⟩)
  | _ =>
    -- the parameters of no pause
    refine .inl ?_
    rw [hear_of_read, hpaused, hparams]
    rfl

end Bridge

/-! ## §2. While a start is under way. -/

namespace Site

variable {ε : Type} {s s' : Site (Recorded ε)} {marker : Json} {c xs : List Exchange}

/-- What holds while a start is under way that began after a conversation: the scripts on
record are those reported since, and the bridge is connecting unless it was closed or a
pause in a flow script was told. -/
structure Starting (marker : Json) (c xs : List Exchange) (s : Site (Recorded ε)) : Prop where
  said : s.conversation = c ++ xs
  marked : s.bridge.config.marker = marker
  scripts : s.bridge.tracker.scripts = scriptsOf (scriptsTold xs)
  status : s.bridge.status = .connecting ∨ s.bridge.status = .closed ∨ TellsFlowPause marker xs

/-- A start is under way that began after a conversation. -/
def StartingSince (marker : Json) (c : List Exchange) (s : Site (Recorded ε)) : Prop :=
  ∃ xs, Starting marker c xs s

namespace Starting

/-- Nothing that matters has happened. -/
theorem same (h : Starting marker c xs s) (hsaid : s'.conversation = s.conversation)
    (hscripts : s'.bridge.tracker.scripts = s.bridge.tracker.scripts)
    (hstatus : s'.bridge.status = s.bridge.status)
    (hconfig : s'.bridge.config = s.bridge.config) : Starting marker c xs s' where
  said := hsaid.trans h.said
  marked := by rw [hconfig, h.marked]
  scripts := hscripts.trans h.scripts
  status := by
    rw [hstatus]
    exact h.status

/-- Something was said that is no notification. -/
theorem quiet (h : Starting marker c xs s) {x : Exchange}
    (hsaid : s'.conversation = s.conversation ++ [x])
    (hnone : x.notification? = none)
    (hscripts : s'.bridge.tracker.scripts = s.bridge.tracker.scripts)
    (hstatus : s'.bridge.status = s.bridge.status ∨ s'.bridge.status = .closed)
    (hconfig : s'.bridge.config = s.bridge.config) : Starting marker c (xs ++ [x]) s' where
  said := by rw [hsaid, h.said, List.append_assoc]
  marked := by rw [hconfig, h.marked]
  scripts := by rw [hscripts, h.scripts, scriptsTold_quiet hnone]
  status := by
    rcases hstatus with hsame | hclosed
    · rw [hsame]
      exact h.status.imp_right (.imp_right fun htells => htells.concat x)
    · exact .inr (.inl hclosed)

/-- A notification is heard. -/
theorem heard (h : Starting marker c xs s) {x : Exchange} {m : Record}
    (hsaid : s'.conversation = s.conversation ++ [x]) (hx : x.notification? = some m)
    (hbridge : s'.bridge = s.bridge.hear m) : Starting marker c (xs ++ [x]) s' where
  said := by rw [hsaid, h.said, List.append_assoc]
  marked := by rw [hbridge, Bridge.hear_config, h.marked]
  scripts := by rw [hbridge, Bridge.hear_scripts h.scripts hx, scriptsTold_concat]
  status := by
    rw [hbridge]
    rcases Bridge.hear_wakes h.scripts hx with hsame | hwas | ⟨text, frame, hmarker, hpauses⟩
    · rw [hsame]
      exact h.status.imp_right (.imp_right fun htells => htells.concat x)
    · -- it was paused, so a pause was told before
      refine .inr (.inr ?_)
      rcases h.status with hconnecting | hclosed | htells
      · cases hconnecting.symm.trans hwas
      · cases hclosed.symm.trans hwas
      · exact htells.concat x
    · exact .inr (.inr ⟨text, xs, x, [], frame, h.marked.symm.trans hmarker, rfl, hpauses⟩)

end Starting

variable [Endpoint ε]

theorem Step.starting (step : Step s s') (h : StartingSince marker c s) : StartingSince marker c s' := by
  obtain ⟨xs, h⟩ := h
  cases step with
  | aside haside =>
    exact ⟨xs, h.same (congrArg Network.conversation haside.network) (by rw [haside.tracker])
      haside.status haside.config⟩
  | nothing hsocket hnone => exact ⟨xs, h.same (conversation_reading_none hnone) rfl rfl rfl⟩
  | @ignored k frame d hsocket hframe hno =>
    have hquiet := Exchange.notification?_none (k := k) fun m hm => (hno m hm).1
    exact ⟨_, h.quiet (conversation_reading_some hframe) hquiet rfl (.inl rfl) rfl⟩
  | @answered k frame m hsocket hframe hfields hresponse =>
    have hquiet : (Exchange.received k frame).notification? = none :=
      Exchange.notification?_none fun m' hm' => by
        cases hfields.symm.trans hm'
        exact hresponse.1
    exact ⟨_, h.quiet (conversation_reading_some hframe) hquiet rfl (.inl rfl) rfl⟩
  | @heard k frame m hsocket hframe hfields hmethod =>
    have hread : Starting marker c xs { s with bridge := (s.reading k).bridge } := h.same rfl rfl rfl rfl
    exact ⟨_, hread.heard (conversation_reading_some hframe)
      (Exchange.notification?_some hfields hmethod) rfl⟩
  | numbered => exact ⟨xs, h.same rfl rfl rfl rfl⟩
  | released hsocket hopen hpaused he =>
    exact ⟨_, h.quiet (conversation_putting s _ none _) rfl rfl (.inl rfl) rfl⟩
  | @fetched k e p hsocket hopen hid hp he =>
    exact ⟨_, h.quiet (conversation_putting s k (some p) e) rfl rfl (.inl rfl) rfl⟩
  | lost hsocket => exact ⟨_, h.quiet (conversation_gone s _) rfl rfl (.inr rfl) rfl⟩

theorem Steps.starting (steps : Steps s s') (h : StartingSince marker c s) : StartingSince marker c s' := by
  induction steps with
  | refl => exact h
  | tail _ step ih => exact step.starting ih

theorem Posted.starting {awaited : Option Pending} {e : Envelope}
    {r : Except Fault Nat × Site (Recorded ε)} (hposted : Posted awaited e s r)
    (h : StartingSince marker c s) : StartingSince marker c r.2 := by
  have hput (k : Nat) : StartingSince marker c (s.putting k awaited e) := by
    obtain ⟨xs, h⟩ := h
    exact ⟨_, h.quiet (conversation_putting s k awaited e) rfl rfl (.inl rfl) rfl⟩
  cases hposted with
  | refused m hno => exact h.imp fun _ h => h.same rfl rfl rfl rfl
  | put hsocket hopen => exact hput _
  | @lost k s' m hsocket hopen haside =>
    have hsocket' : (s.putting k awaited e).bridge.link.socket = some k := by
      cases awaited <;> exact hsocket
    exact (Step.aside haside).starting (Step.starting (.lost hsocket') (hput k))

/-- **It holds through all that a start does.** -/
theorem StartingSince.lasting (marker : Json) (c : List Exchange) :
    Lasting (fun s : Site (Recorded ε) => StartingSince marker c s) where
  pump _ hready h hclean := (steps_pump hready hclean).2.starting h
  submit method params _ _ hready h hclean := (posted_submit method params hready hclean).starting h
  notify method params _ _ hready h hclean := (posted_notify method params hready hclean).starting h
  dropping _ _ _ _ h _ _ := h.imp fun _ h => h.same rfl rfl rfl rfl
  left s _ h := by
    obtain ⟨xs, h⟩ := h
    by_cases hpaused : s.bridge.status = .paused
    · have htells : TellsFlowPause marker xs := by simpa [hpaused] using h.status
      exact ⟨xs, h.said, h.marked, h.scripts, .inr (.inr htells)⟩
    · exact ⟨xs, h.same rfl rfl (if_neg hpaused) rfl⟩
  registering _ _ _ h := h.imp fun _ h => h.same rfl rfl rfl rfl
  stirring _ _ _ h := h.imp fun _ h => h.same rfl rfl rfl rfl

/-- Connecting tells nothing. -/
theorem StartingSince.preserves_connect (marker : Json) (c : List Exchange) :
    Preserves (fun s => StartingSince marker c s)
      (onLink Wire.connect : Act (Site (Recorded ε)) Unit) where
  grows := grows_connect
  keeps s hready h hclean := by
    refine ⟨ready_connect hready hclean, ?_⟩
    have hjoined := joined_connect hready hclean
    generalize (onLink Wire.connect).exec s = r at hjoined
    obtain ⟨xs, h⟩ := h
    have hdialled {s' : Site (Recorded ε)}
        (hsaid : s'.conversation = s.conversation ++ [.dialled (s.network.dial s.bridge.link.url).1])
        (hbridge : ∃ l, s'.bridge = { s.bridge with link := l }) : StartingSince marker c s' := by
      obtain ⟨l, hl⟩ := hbridge
      refine ⟨_, h.quiet hsaid rfl ?_ (.inl ?_) ?_⟩ <;> rw [hl]
    cases hjoined with
    | already hsocket => exact ⟨xs, h⟩
    | shut m hsocket hshut => exact ⟨xs, h⟩
    | refused m hsocket hopen => exact hdialled rfl ⟨_, rfl⟩
    | opened hsocket hopen hdial haside =>
      exact (Step.aside haside).starting (hdialled rfl ⟨_, rfl⟩)

/-! ## §3. When it fails. -/

/-- What a failed start may leave of a bridge: it is disconnected, or closed, or a pause in a
flow script was told in the meantime. -/
structure LeftBy (s s' : Site (Recorded ε)) : Prop where
  settled : s'.bridge.status ≠ .connecting
  down : s'.bridge.status = .disconnected ∨ s'.bridge.status = .closed ∨
    ∃ xs, s'.conversation = s.conversation ++ xs ∧ TellsFlowPause s.bridge.config.marker xs

/-- What a failed start leaves of a bridge that was not stopped. -/
theorem leftBy_start (hready : s.Ready) (hgoing : s.bridge.stopped = false)
    (hclean : Uninterrupted ((start : Act (Site (Recorded ε)) Unit).exec s).2.conversation)
    {f : Fault} (hfailed : (start.exec s).1 = .error f) (hlink : f.isLink = true) :
    LeftBy s (start.exec s).2 := by
  rw [exec_start, hgoing, if_neg Bool.false_ne_true, exec_settlingOn] at hclean hfailed ⊢
  have hrenewed : s.renewed.Ready := ⟨hready.tame, hready.bare⟩
  -- the tracker is empty when the start begins, and the bridge connecting
  have hbegin : StartingSince s.bridge.config.marker s.conversation s.renewed :=
    ⟨[], (List.append_nil _).symm, rfl, rfl, .inl rfl⟩
  have hestablish : Preserves (StartingSince s.bridge.config.marker s.conversation)
      (establish : Act (Site (Recorded ε)) Unit) := by
    rw [establish_eq]
    exact .bind (StartingSince.preserves_connect _ _) fun _ =>
      (StartingSince.lasting _ _).enabling
  obtain ⟨xs, h⟩ := (hestablish.keeps s.renewed hrenewed hbegin hclean).2
  generalize (establish.exec s.renewed).2 = s₁ at h ⊢
  dsimp only at hfailed
  have hsettled : settledStatus (.error f) s₁.bridge.status
      = if s₁.bridge.status = .connecting then .disconnected else s₁.bridge.status := by
    simp [settledStatus, hlink]
  rw [hfailed]
  constructor
  · show settledStatus (.error f) s₁.bridge.status ≠ .connecting
    rw [hsettled]
    split
    · decide
    · assumption
  · show settledStatus (.error f) s₁.bridge.status = .disconnected ∨
      settledStatus (.error f) s₁.bridge.status = .closed ∨ _
    rw [hsettled]
    rcases h.status with hconnecting | hclosed | htells
    · exact .inl (if_pos hconnecting)
    · exact .inr (.inl (by simp [hclosed]))
    · exact .inr (.inr ⟨xs, h.said, htells⟩)

/-- **A FAILED START LEAVES NO LIVE BRIDGE, BUT FOR A PAUSE**: whatever a new bridge was asked
before, and whatever its host does meanwhile, if a start fails with a fault of the link, then
afterwards the bridge is disconnected or closed, or a pause in a flow script was told in the
course of this start. -/
theorem afterTasks_start_failed {config : BridgeConfig} (htame : config.Tame) (url : Json)
    (registry : BreakpointRegistry) (blocks : Option BlockTable) (host : ε) (tasks : List (Task ε))
    (hclean : Uninterrupted (start.exec
      ((fresh config url registry blocks host).afterTasks tasks)).2.conversation) {f : Fault}
    (hfailed : (start.exec ((fresh config url registry blocks host).afterTasks tasks)).1 = .error f)
    (hlink : f.isLink = true) :
    LeftBy ((fresh config url registry blocks host).afterTasks tasks)
      (start.exec ((fresh config url registry blocks host).afterTasks tasks)).2 := by
  have hfresh := ready_fresh htame url registry blocks host
  have hdown : (fresh config url registry blocks host).Down := ⟨rfl, .inr rfl⟩
  generalize fresh config url registry blocks host = s at hclean hfailed hfresh hdown
  have hbegin := (grows_start _ (sane_afterTasks tasks s hfresh.sane)).2
  obtain ⟨hready, hstops⟩ := preserved_afterTasks tasks s (fun task _ => stopsDown_act task) hfresh
    (fun _ => hdown) (hclean.of_prefix hbegin)
  generalize s.afterTasks tasks = s₀ at hclean hfailed hready hstops
  cases hgoing : s₀.bridge.stopped with
  | false => exact leftBy_start hready hgoing hclean hfailed hlink
  | true =>
    -- a bridge that was stopped is down, and its start is refused without more ado
    have hsame : ((start : Act (Site (Recorded ε)) Unit).exec s₀).2 = s₀ := by
      rw [exec_start, if_pos hgoing]
    rw [hsame]
    rcases (hstops hgoing).status with hclosed | hno
    · exact ⟨by simp [hclosed], .inr (.inl hclosed)⟩
    · exact ⟨by simp [hno], .inl hno⟩

/-- A host that enables its reports and answers no request to arm a breakpoint. -/
def mutedHost : RehearsedHost :=
  { rules := [{ method := armMethod, actions := [.hold] }] }

/-- A bridge of that host, for which two breakpoints are wanted. -/
def unanswered : Site (Recorded RehearsedHost) :=
  (fresh {} "ws" {} none mutedHost).afterTasks
    [.add "lib/flow.js" (.int 3), .add "lib/flow.js" (.int 7)]

/-- The start gets as far as the breakpoints: it connects, both domains are enabled, and the
first request to arm is given up. -/
theorem afterTasks_start_failed_unanswered :
    ({} : BridgeConfig).Tame ∧ Uninterrupted (start.exec unanswered).2.conversation ∧
      (start.exec unanswered).1 = .error (.timeout armMethod) ∧
      (start.exec unanswered).2.bridge.link.socket = some 0 ∧
      (start.exec unanswered).2.bridge.status = .disconnected ∧
      LeftBy unanswered (start.exec unanswered).2 := by
  have htame : ({} : BridgeConfig).Tame := fun _ hl => nomatch hl
  have hclean : Uninterrupted (start.exec unanswered).2.conversation := by decide +kernel
  have hfailed : (start.exec unanswered).1 = .error (.timeout armMethod) := rfl
  exact ⟨htame, hclean, hfailed, rfl, rfl, afterTasks_start_failed htame "ws" {} none mutedHost
    [.add "lib/flow.js" (.int 3), .add "lib/flow.js" (.int 7)] hclean hfailed rfl⟩

/-- A host that tells of a pause in a flow script, and then refuses to enable its reports. -/
def rudeHost : RehearsedHost :=
  { rules :=
      [{ method := "Debugger.enable"
         actions :=
           [.push (.obj [("method", "Debugger.scriptParsed"),
              ("params", .obj (parsedParams "lib/flow.js"))]),
            .push (.obj pauseMessage),
            .refuse (.obj [("message", "not allowed")])] }] }

/-- **A failed start may leave a live bridge**: nobody interrupted, the host refused the first
request, and the bridge is paused. -/
theorem failed_start_paused :
    Uninterrupted (start.exec (fresh {} "ws" {} none rudeHost)).2.conversation ∧
      (∃ f, (start.exec (fresh {} "ws" {} none rudeHost)).1 = .error f ∧ f.isLink = true) ∧
      (start.exec (fresh {} "ws" {} none rudeHost)).2.bridge.status = .paused :=
  ⟨by decide +kernel, ⟨_, rfl, rfl⟩, rfl⟩

end Site
end FlowTrace
