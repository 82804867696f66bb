/-
  FlowTrace.Proofs.Bridge.Readiness
  ────────────────────────────────
  **WHY A BRIDGE IS READY.**

  A bridge that is ready between two tasks has one of two reasons, both on the connection
  that it has:

      armed   — the last start came through, and everything that it asked was answered
      woken   — the last start failed, and a pause was told since

  The second is not what readiness is for: a pause and its end make a bridge ready whose
  reports were never enabled.  Without a pause a start that failed leaves no bridge ready.

  The invariant is what passes on a connection: as long as it lasts everything is said on
  its socket, and the status changes for a pause only; when it is lost the bridge is closed.
  It holds in the middle of a start as well (`MidStart.told`): while a start waits, only a pause
  can have made the bridge ready.
-/
import FlowTrace.Proofs.Bridge.Arming

namespace FlowTrace

/-- The exchange is one on an open socket. -/
def Exchange.On (k : Nat) : Exchange → Prop
  | .sent j _ _ => j = k
  | .received j _ => j = k
  | _ => False

/-- The exchange tells of a pause. -/
def Exchange.TellsPause (x : Exchange) : Prop := (x.told? "Debugger.paused").isSome = true

/-! ## §1. Answers. -/

/-- The command was sent in the course of the conversation, and answered later in it. -/
def AnsweredIn (xs : List Exchange) (method params : Json) : Prop :=
  ∃ before k id a after m,
    xs = before ++ .sent k { id := id, method := method, params := params } a :: after ∧
      firstReply? after id = some m

theorem AnsweredIn.append_left {xs : List Exchange} {method params : Json}
    (h : AnsweredIn xs method params) (ys : List Exchange) :
    AnsweredIn (ys ++ xs) method params := by
  obtain ⟨before, k, id, a, after, m, rfl, hm⟩ := h
  exact ⟨ys ++ before, k, id, a, after, m, (List.append_assoc ..).symm, hm⟩

theorem AnsweredIn.append_right {xs : List Exchange} {method params : Json}
    (h : AnsweredIn xs method params) (ys : List Exchange) :
    AnsweredIn (xs ++ ys) method params := by
  obtain ⟨before, k, id, a, after, m, rfl, hm⟩ := h
  refine ⟨before, k, id, a, after ++ ys, m, ?_, firstReply?_of_prefix hm (List.prefix_append _ _)⟩
  rw [List.append_assoc, List.cons_append]

/-- Where nothing responds nothing is answered. -/
theorem not_answeredIn {xs : List Exchange} (h : responses xs = []) (method params : Json) :
    ¬ AnsweredIn xs method params := by
  rintro ⟨before, k, id, a, after, m, rfl, hm⟩
  have hin := (of_firstReply? hm).1
  unfold responses at h hin
  rw [List.filterMap_append, List.append_eq_nil_iff, List.filterMap_cons_none rfl] at h
  rw [h.2] at hin
  cases hin

/-- A command among those that were sent first is answered after it was sent. -/
theorem answeredIn_of_sends {sends rest : List Exchange} {es : List Envelope} {e : Envelope}
    {m : Record} (hsends : sends.map Exchange.envelope? = es.map some) {i : Nat}
    (hi : es[i]? = some e) (hm : firstReply? (sends ++ rest) e.id = some m) :
    AnsweredIn (sends ++ rest) e.method e.params := by
  have hat : (sends[i]?).map Exchange.envelope? = some (some e) := by
    rw [← List.getElem?_map, hsends, List.getElem?_map, hi]
    rfl
  obtain ⟨x, hx, hsent⟩ := Option.map_eq_some_iff.mp hat
  obtain ⟨hlt, hget⟩ := List.getElem?_eq_some_iff.mp hx
  have hsplit : sends = sends.take i ++ x :: sends.drop (i + 1) := by
    rw [← hget, List.getElem_cons_drop, List.take_append_drop]
  -- nothing that is sent responds
  have hsilent : ∀ y ∈ sends, y.response? = none := by
    intro y hy
    have hin : y.envelope? ∈ es.map some := hsends ▸ List.mem_map_of_mem hy
    obtain ⟨e', _, he'⟩ := List.mem_map.mp hin
    cases y with
    | sent k e'' a => rfl
    | _ => cases he'
  have hlater : firstReply? (sends.drop (i + 1) ++ rest) e.id = some m := by
    rw [firstReply?_append, firstReply?_eq_none fun y hy => hsilent y (List.mem_of_mem_drop hy)]
    rwa [firstReply?_append, firstReply?_eq_none hsilent] at hm
  cases x with
  | sent k e' a =>
    obtain rfl : e' = e := Option.some.inj hsent
    refine ⟨sends.take i, k, e'.id, a, sends.drop (i + 1) ++ rest, m, ?_, hlater⟩
    rw [← List.cons_append, ← List.append_assoc, ← hsplit]
  | _ => cases hsent

namespace Site

variable {ε : Type} {s s' s'' : Site (Recorded ε)}

/-! ## §2. What passes on a connection. -/

/-- There is no connection, and the bridge knows. -/
structure Down (s : Site ε) : Prop where
  socket : s.bridge.link.socket = none
  status : s.bridge.status = .closed ∨ s.bridge.status = .disconnected

theorem Down.not_ready {s : Site ε} (h : s.Down) : s.bridge.status ≠ .ready := by
  intro hready
  rcases h.status with hclosed | hno
  · cases hready.symm.trans hclosed
  · cases hready.symm.trans hno

/-- A bridge that knows is not starting. -/
theorem Down.settled {s : Site ε} (h : s.Down) (r : Except Fault Unit) : ({ s with bridge :=
    { s.bridge with status := settledStatus r s.bridge.status } } : Site ε).Down := by
  refine ⟨h.socket, ?_⟩
  show settledStatus r s.bridge.status = .closed ∨ settledStatus r s.bridge.status = .disconnected
  rcases settledStatus_cases r s.bridge.status with hsame | ⟨hconnecting, _⟩
  · rw [hsame]
    exact h.status
  · rcases h.status with hclosed | hno
    · cases hconnecting.symm.trans hclosed
    · cases hconnecting.symm.trans hno

theorem down_gone [Endpoint ε] (s : Site (Recorded ε)) (k : Nat) : (s.gone k).Down :=
  ⟨Link.gone_socket _, .inl rfl⟩

/-- The status has changed for a reason: the bridge was closed, or it was paused, or a pause
was told. -/
def Moved (s s' : Site (Recorded ε)) (xs : List Exchange) : Prop :=
  s'.bridge.status = .closed ∨ s'.bridge.status = s.bridge.status ∨ s.bridge.status = .paused ∨
    ∃ x ∈ xs, x.TellsPause

/-- Changes of the status one after the other have a reason together. -/
theorem Moved.trans {xs ys : List Exchange} (h : Moved s s' xs) (h' : Moved s' s'' ys) :
    Moved s s'' (xs ++ ys) := by
  have hearlier : (∃ x ∈ xs, x.TellsPause) → ∃ x ∈ xs ++ ys, x.TellsPause :=
    fun ⟨x, hx, htells⟩ => ⟨x, List.mem_append_left _ hx, htells⟩
  rcases h' with hclosed' | hsame' | hpaused' | ⟨x, hx, htells⟩
  · exact .inl hclosed'
  · rcases h with hclosed | hsame | hpaused | htells
    · exact .inl (hsame'.trans hclosed)
    · exact .inr (.inl (hsame'.trans hsame))
    · exact .inr (.inr (.inl hpaused))
    · exact .inr (.inr (.inr (hearlier htells)))
  · rcases h with hclosed | hsame | hpaused | htells
    · cases hpaused'.symm.trans hclosed
    · exact .inr (.inr (.inl (hsame.symm.trans hpaused')))
    · exact .inr (.inr (.inl hpaused))
    · exact .inr (.inr (.inr (hearlier htells)))
  · exact .inr (.inr (.inr ⟨x, List.mem_append_right _ hx, htells⟩))

/-- What may pass at a bridge that does not connect: something is said on the connection that
there is, or the connection is lost. -/
inductive Passes (s s' : Site (Recorded ε)) : Prop
  | on {xs : List Exchange} (hsocket : s'.bridge.link.socket = s.bridge.link.socket)
      (hsaid : s'.conversation = s.conversation ++ xs)
      (hall : ∀ x ∈ xs, ∃ k, s.bridge.link.socket = some k ∧ x.On k) (hmoved : Moved s s' xs)
  | fell (hdown : s'.Down)

namespace Passes

/-- Nothing is said. -/
theorem quiet (hsocket : s'.bridge.link.socket = s.bridge.link.socket)
    (hsaid : s'.conversation = s.conversation) (hmoved : Moved s s' []) : Passes s s' :=
  .on hsocket (hsaid.trans (List.append_nil _).symm) (fun _ hx => absurd hx List.not_mem_nil) hmoved

theorem refl (s : Site (Recorded ε)) : Passes s s := .quiet rfl rfl (.inr (.inl rfl))

/-- Something is said on the connection, and the status stays what it was. -/
theorem single {k : Nat} {x : Exchange} (hsocket : s.bridge.link.socket = some k)
    (hsocket' : s'.bridge.link.socket = s.bridge.link.socket)
    (hsaid : s'.conversation = s.conversation ++ [x]) (hx : x.On k)
    (hstatus : s'.bridge.status = s.bridge.status) : Passes s s' := by
  refine .on hsocket' hsaid (fun y hy => ?_) (.inr (.inl hstatus))
  obtain rfl := List.mem_singleton.mp hy
  exact ⟨k, hsocket, hx⟩

/-- A bridge without a connection stays without one. -/
theorem down (h : Passes s s') (hdown : s.Down) : s'.Down := by
  cases h with
  | fell hdown' => exact hdown'
  | @on xs hsocket hsaid hall hmoved =>
    refine ⟨hsocket.trans hdown.socket, ?_⟩
    rcases hmoved with hclosed | hsame | hpaused | ⟨x, hx, _⟩
    · exact .inl hclosed
    · rw [hsame]
      exact hdown.status
    · rcases hdown.status with hclosed | hno
      · cases hpaused.symm.trans hclosed
      · cases hpaused.symm.trans hno
    · obtain ⟨k, hk, _⟩ := hall x hx
      cases hk.symm.trans hdown.socket

theorem trans (h : Passes s s') (h' : Passes s' s'') : Passes s s'' := by
  cases h' with
  | fell hdown => exact .fell hdown
  | @on ys hsocket' hsaid' hall' hmoved' =>
    cases h with
    | fell hdown => exact .fell ((Passes.on hsocket' hsaid' hall' hmoved').down hdown)
    | @on xs hsocket hsaid hall hmoved =>
      have hboth : s''.conversation = s.conversation ++ (xs ++ ys) := by
        rw [hsaid', hsaid, List.append_assoc]
      refine .on (hsocket'.trans hsocket) hboth (fun x hx => ?_) (hmoved.trans hmoved')
      rcases List.mem_append.mp hx with hx | hx
      · exact hall x hx
      · rw [← hsocket]
        exact hall' x hx

/-- A pause may be left. -/
theorem leaving (s : Site (Recorded ε)) : Passes s s.left := by
  refine .quiet rfl rfl ?_
  by_cases hpaused : s.bridge.status = .paused
  · exact .inr (.inr (.inl hpaused))
  · exact .inr (.inl (if_neg hpaused))

theorem aside (h : Aside s s') : Passes s s' :=
  .quiet (by rw [h.link]) (congrArg Network.conversation h.network) (.inr (.inl h.status))

variable [Endpoint ε]

theorem putting {k : Nat} {awaited : Option Pending} {e : Envelope}
    (hsocket : s.bridge.link.socket = some k) : Passes s (s.putting k awaited e) := by
  refine .single hsocket ?_ (conversation_putting s k awaited e) rfl rfl
  cases awaited <;> rfl

theorem posted {awaited : Option Pending} {e : Envelope} {r : Except Fault Nat × Site (Recorded ε)}
    (h : Posted awaited e s r) : Passes s r.2 := by
  cases h with
  | refused m hno => exact .quiet rfl rfl (.inr (.inl rfl))
  | put hsocket hopen => exact .putting hsocket
  | lost m hsocket hopen haside => exact .fell ((Passes.aside haside).down (down_gone _ _))

end Passes

end Site

/-- Only a pause that is told makes a bridge paused. -/
theorem Bridge.hear_status (b : Bridge) (message : Record) :
    (b.hear message).status = b.status ∨ b.status = .paused ∨
      Message.method message = "Debugger.paused" := by
  by_cases hpaused : Message.method message = "Debugger.paused"
  · exact .inr (.inr hpaused)
  by_cases hresumed : Message.method message = "Debugger.resumed"
  · rw [Bridge.hear_resumed hresumed]
    by_cases hstatus : b.status = .paused
    · exact .inr (.inl hstatus)
    · exact .inl (if_neg hstatus)
  by_cases hparsed : Message.method message = "Debugger.scriptParsed"
  · rw [Bridge.hear_parsed hparsed]
    cases Message.params message <;> exact .inl rfl
  · rw [Bridge.hear_other hparsed hpaused hresumed]
    exact .inl rfl

namespace Site

variable {ε : Type} [Endpoint ε] {s s' : Site (Recorded ε)}

theorem Step.passes (step : Step s s') : Passes s s' := by
  cases step with
  | aside haside => exact .aside haside
  | nothing hsocket hnone => exact .quiet rfl (conversation_reading_none hnone) (.inr (.inl rfl))
  | ignored d hsocket hframe hno =>
    exact .single hsocket rfl (conversation_reading_some hframe) rfl rfl
  | answered hsocket hframe hfields hresponse =>
    exact .single hsocket (Link.answer_socket _ _) (conversation_reading_some hframe) rfl rfl
  | @heard k frame m hsocket hframe hfields hmethod =>
    refine .on ?_ (conversation_reading_some hframe) (fun x hx => ?_) ?_
    · show ((s.reading k).bridge.hear m).link.socket = s.bridge.link.socket
      rw [Bridge.hear_link]
      rfl
    · obtain rfl := List.mem_singleton.mp hx
      exact ⟨k, hsocket, rfl⟩
    · rcases (s.reading k).bridge.hear_status m with hsame | hpaused | htells
      · exact .inr (.inl hsame)
      · exact .inr (.inr (.inl hpaused))
      · refine .inr (.inr (.inr ⟨_, List.mem_singleton_self _, ?_⟩))
        have hnotification := Exchange.notification?_some (k := k) hfields hmethod
        unfold Exchange.TellsPause Exchange.told?
        simp [hnotification, htells]
  | numbered => exact .quiet rfl rfl (.inr (.inl rfl))
  | released hsocket hopen hpaused he => exact .putting hsocket
  | fetched hsocket hopen hid hp he => exact .putting hsocket
  | lost hsocket => exact .fell (down_gone s _)

theorem Steps.passes (steps : Steps s s') : Passes s s' := by
  induction steps with
  | refl => exact .refl s
  | tail _ step ih => exact ih.trans step.passes

/-- **What passes at a bridge that does not connect passes on one connection**, in any task but
a start. -/
theorem Passes.abiding (s₁ : Site (Recorded ε)) : Abiding (Passes s₁) where
  pump _ hready h hclean := h.trans (steps_pump hready hclean).2.passes
  submit method params _ _ hready h hclean :=
    h.trans (.posted (posted_submit method params hready hclean))
  notify method params _ _ hready h hclean :=
    h.trans (.posted (posted_notify method params hready hclean))
  dropping _ _ _ _ h _ _ := h.trans (.quiet rfl rfl (.inr (.inl rfl)))
  left s _ h := h.trans (.leaving s)
  registering _ _ _ h := h.trans (.quiet rfl rfl (.inr (.inl rfl)))
  stirring _ _ _ h := h.trans (.quiet rfl rfl (.inr (.inl rfl)))
  close s hready h hclean := by
    have hshut := shut_close hready hclean
    generalize (onLink Wire.close).exec s = r at hshut
    refine h.trans ?_
    cases hshut with
    | gone hsocket haside => exact .fell ((Passes.aside haside).down (down_gone s.shutting _))
    | idle hsocket => exact .quiet rfl rfl (.inr (.inl rfl))
  stopping _ _ h := h.trans (.quiet rfl rfl (.inr (.inl rfl)))
  closing _ _ h := h.trans (.quiet rfl rfl (.inl rfl))

/-! ## §3. What a start asks. -/

section Asking
omit [Endpoint ε]

/-- What a start asks of the host: to report, and to arm each of the breakpoints. -/
def requests (s : Site ε) : List (Json × Json) :=
  ("Debugger.enable", .obj []) :: ("Runtime.enable", .obj []) ::
    s.bridge.registry.items.map (fun bp => (armMethod, armParams bp))

/-- What is asked depends on where the breakpoints are. -/
theorem requests_congr {s s' : Site ε} (h : s'.places = s.places) : s'.requests = s.requests := by
  have hplaces (s : Site ε) : s.bridge.registry.items.map (fun bp => (armMethod, armParams bp))
      = s.places.map (fun p => (armMethod, .obj [("url", p.1), ("lineNumber", p.2)])) := by
    unfold places
    rw [List.map_map]
    rfl
  unfold requests
  rw [hplaces, hplaces, h]

theorem places_of_outline {s s' : Site ε}
    (h : s'.bridge.registry.outline = s.bridge.registry.outline) : s'.places = s.places := by
  have hplaces (s : Site ε) :
      s.places = s.bridge.registry.outline.map (fun a => (a.url, a.line)) := by
    unfold places BreakpointRegistry.outline
    rw [List.map_map]
    rfl
  rw [hplaces, hplaces, h]

theorem places_renewed (s : Site ε) : s.renewed.places = s.places := by
  show (s.bridge.registry.clearIds.items).map (fun bp => (bp.url, bp.line)) = _
  unfold BreakpointRegistry.clearIds places
  rw [List.map_map]
  rfl

end Asking

/-- A command with a result was answered. -/
theorem answeredIn_command {method params v : Json} (hready : s.Ready)
    (hclean : Uninterrupted s'.conversation) (h : (command method params).exec s = (.ok v, s')) :
    ∃ xs, s'.conversation = s.conversation ++ xs ∧ AnsweredIn xs method params.orObject := by
  have hcommanded := commanded_command method params hready (by rw [h]; exact hclean)
  rw [h] at hcommanded
  generalize hr : (Except.ok v, s') = r at hcommanded
  cases hcommanded with
  | refused m hno => cases hr
  | lost m hsocket hopen haside => cases hr
  | @awaited k r hsocket hopen hawaited =>
    subst hr
    let e : Envelope := { id := s.bridge.link.nextId, method := method, params := params.orObject }
    let a := (s.network.send k e).1
    -- from here on the first response with this number decides the outcome
    have hfares : FaresSince (s.conversation ++ [.sent k e a]) method s.bridge.link.nextId
        (s.putting k (some { id := s.bridge.link.nextId, method := method }) e) := by
      refine ⟨[], ?_, ?_⟩
      · rw [conversation_putting, List.append_nil]
      · exact (Fares.submitted hready.bare.numbered method).of_link (fun _ hp => hp) rfl fun h => h
    have hconcludes := hawaited.concludes (hready.putting hsocket) hfares
    generalize hr : (Except.ok v, s') = r at hconcludes
    cases hconcludes with
    | failed hlink hother => cases hr
    | @replied s'' xs m steps hsaid hfirst =>
      obtain ⟨_, rfl⟩ := Prod.mk.inj hr
      refine ⟨.sent k e a :: xs, ?_, [], k, e.id, a, xs, m, rfl, hfirst⟩
      rw [hsaid, List.append_assoc]
      rfl

/-- Arming that ends well was answered for every breakpoint. -/
theorem answeredIn_armBreakpoints {bps : List Breakpoint} (hready : s.Ready)
    (hclean : Uninterrupted s'.conversation) (h : armBreakpoints.exec s = (.ok bps, s')) :
    ∃ xs, s'.conversation = s.conversation ++ xs ∧
      ∀ bp ∈ s.bridge.registry.items, AnsweredIn xs armMethod (armParams bp) := by
  obtain ⟨xs, hxs⟩ := (grows_armBreakpoints s hready.sane).2
  have harms := arms_armBreakpoints hready (by rw [h]; exact hclean)
  rw [h] at harms hxs
  have hsince : since s s' = xs := since_eq hxs.symm
  refine ⟨xs, hxs.symm, fun bp hbp => ?_⟩
  obtain ⟨i, hi, hget⟩ := List.getElem_of_mem hbp
  have hat : s.bridge.registry.items[i]? = some bp := by rw [List.getElem?_eq_getElem hi, hget]
  obtain ⟨sends, rest, hsplit, ⟨hsends, _⟩ | ⟨_, _, m, hfailed⟩⟩ := harms.sends
  · obtain ⟨m, hm, _⟩ := harms.grants bps rfl i bp hat
    have hcommand : s.commands[i]? = some (armEnvelope (s.bridge.link.nextId + i) bp) := by
      unfold commands armEnvelopes
      rw [List.getElem?_mapIdx, hat]
      rfl
    rw [← hsince, hsplit]
    exact answeredIn_of_sends hsends hcommand (by rw [← hsplit]; exact hm)
  · cases hfailed

/-- A command that ends leaves a ready site, with the breakpoints where they were. -/
theorem ready_command {method v : Json} (hmethod : method ≠ "Debugger.getScriptSource")
    (params : Json) (hready : s.Ready) (hclean : Uninterrupted s'.conversation)
    (h : (command method params).exec s = (.ok v, s')) : s'.Ready ∧ s'.places = s.places := by
  have hkept := (enduring_true.command hmethod params).keeps s hready trivial
  have hcommanded := commanded_command method params hready
  rw [h] at hkept hcommanded
  exact ⟨(hkept hclean).1, places_of_outline (hcommanded hclean).onward.outline⟩

/-- What follows the connecting in a start, if it ends well, was answered throughout. -/
theorem answeredIn_enabling (hready : s.Ready) (hclean : Uninterrupted s'.conversation)
    (h : enabling.exec s = (.ok (), s')) :
    ∃ xs, s'.conversation = s.conversation ++ xs ∧ ∀ q ∈ s.requests, AnsweredIn xs q.1 q.2 := by
  obtain ⟨v, s₁, hdebugger, hrest⟩ := Act.of_exec_bind_ok h
  obtain ⟨v', s₂, hruntime, harming⟩ := Act.of_exec_bind_ok hrest
  obtain ⟨bps, s₃, harm, hend⟩ := Act.of_exec_bind_ok harming
  cases hend
  -- nobody interrupted what was said on the way
  have hgrows₁ := grows_command "Debugger.enable" (.obj []) s hready.sane
  rw [hdebugger] at hgrows₁
  have hgrows₂ := grows_command "Runtime.enable" (.obj []) s₁ hgrows₁.1
  rw [hruntime] at hgrows₂
  have hgrows₃ := grows_armBreakpoints s₂ hgrows₂.1
  rw [harm] at hgrows₃
  have hclean₂ : Uninterrupted s₂.conversation := hclean.of_prefix hgrows₃.2
  have hclean₁ : Uninterrupted s₁.conversation := hclean₂.of_prefix hgrows₂.2
  obtain ⟨hready₁, hplaces₁⟩ := ready_command (by decide) _ hready hclean₁ hdebugger
  obtain ⟨hready₂, hplaces₂⟩ := ready_command (by decide) _ hready₁ hclean₂ hruntime
  obtain ⟨xs, hxs, henabled⟩ := answeredIn_command hready hclean₁ hdebugger
  obtain ⟨ys, hys, hreports⟩ := answeredIn_command hready₁ hclean₂ hruntime
  obtain ⟨zs, hzs, harmed⟩ := answeredIn_armBreakpoints hready₂ hclean harm
  refine ⟨xs ++ (ys ++ zs), by rw [hzs, hys, hxs, List.append_assoc, List.append_assoc], ?_⟩
  intro q hq
  rw [← requests_congr (hplaces₂.trans hplaces₁)] at hq
  rcases List.mem_cons.mp hq with rfl | hq
  · exact henabled.append_right _
  rcases List.mem_cons.mp hq with rfl | hq
  · exact (hreports.append_right _).append_left _
  · obtain ⟨bp, hbp, rfl⟩ := List.mem_map.mp hq
    exact ((harmed bp hbp).append_left _).append_left _

/-! ## §4. What comes of a start. -/

/-- What has come of a start: there is no connection; or it went through, and all that it
asked was answered on the connection; or it failed, and the bridge is not ready if no pause
was told. -/
inductive Launched (s : Site (Recorded ε)) (r : Except Fault Unit × Site (Recorded ε)) : Prop
  | away (hdown : r.2.Down)
  | armed {k : Nat} {c xs : List Exchange} (hbegan : s.conversation <+: c) (hok : r.1 = .ok ())
      (hsocket : r.2.bridge.link.socket = some k) (hsaid : r.2.conversation = c ++ xs)
      (hall : ∀ x ∈ xs, x.On k) (hanswered : ∀ q ∈ s.requests, AnsweredIn xs q.1 q.2)
  | failed {k : Nat} {c xs : List Exchange} (f : Fault) (hbegan : s.conversation <+: c)
      (hfailed : r.1 = .error f) (hsocket : r.2.bridge.link.socket = some k)
      (hsaid : r.2.conversation = c ++ xs) (hall : ∀ x ∈ xs, x.On k)
      (hquiet : (r.2.bridge.status ≠ .ready ∧ r.2.bridge.status ≠ .paused) ∨
        ∃ x ∈ xs, x.TellsPause)

/-- Whatever was said on a connection that lasts was said on its socket. -/
theorem started_on {s₁ : Site (Recorded ε)} {k : Nat} (hready : s₁.Ready)
    (hsocket : s₁.bridge.link.socket = some k) (hconnecting : s₁.bridge.status = .connecting)
    (hbegan : s.conversation <+: s₁.conversation) (hrequests : s₁.requests = s.requests)
    (hclean : Uninterrupted (enabling.exec s₁).2.conversation) :
    Launched s ((settlingOn (enabling.exec s₁).1).exec (enabling.exec s₁).2) := by
  have hpasses := ((Passes.abiding s₁).toLasting.enabling.keeps s₁ hready (.refl s₁) hclean).2
  rw [exec_settlingOn]
  cases hr : enabling.exec s₁ with
  | mk r s₂ =>
    rw [hr] at hclean hpasses
    cases hpasses with
    | fell hdown =>
      exact .away (hdown.settled r)
    | @on xs hsocket' hsaid hall hmoved =>
      have hon : ∀ x ∈ xs, x.On k := fun x hx => by
        obtain ⟨j, hj, hx⟩ := hall x hx
        obtain rfl : k = j := Option.some.inj (hsocket.symm.trans hj)
        exact hx
      cases r with
      | ok _ =>
        obtain ⟨ys, hys, hanswered⟩ := answeredIn_enabling hready hclean hr
        obtain rfl : xs = ys := List.append_cancel_left (hsaid.symm.trans hys)
        rw [hrequests] at hanswered
        exact .armed hbegan rfl (hsocket'.trans hsocket) hsaid hon hanswered
      | error f =>
        refine .failed f hbegan rfl (hsocket'.trans hsocket) hsaid hon ?_
        -- a bridge that was starting is starting still, or closed, or a pause was told
        show (settledStatus (.error f) s₂.bridge.status ≠ .ready ∧
          settledStatus (.error f) s₂.bridge.status ≠ .paused) ∨ _
        rcases hmoved with hclosed | hsame | hpaused | htells
        · rw [hclosed]
          exact .inl (by simp [settledStatus])
        · rw [hsame, hconnecting]
          unfold settledStatus
          refine .inl ?_
          by_cases hlink : f.isLink <;> simp [hlink]
        · cases hconnecting.symm.trans hpaused
        · exact .inr htells

/-- A start that has connected has a connection, and is connecting still. -/
theorem Joined.started {s₀ s₁ : Site (Recorded ε)} (h : Joined s₀.renewed (.ok (), s₁)) :
    ∃ k, s₁.bridge.link.socket = some k ∧ s₁.bridge.status = .connecting
      ∧ s₀.conversation <+: s₁.conversation ∧ s₁.requests = s₀.requests := by
  generalize hr : ((.ok (), s₁) : Except Fault Unit × Site (Recorded ε)) = r at h
  cases h with
  | already hsocket =>
    cases hr
    obtain ⟨k, hk⟩ := Option.isSome_iff_exists.mp hsocket
    exact ⟨k, hk, rfl, List.prefix_refl _, requests_congr (places_renewed s₀)⟩
  | @opened k s₂ hsocket hopen hdial haside =>
    cases hr
    refine ⟨k, ?_, haside.status, ?_,
      requests_congr ((places_of_outline ?_).trans (places_renewed s₀))⟩
    · rw [haside.link]
      rfl
    · show s₀.conversation <+: s₁.network.conversation
      rw [haside.network]
      exact List.prefix_append _ _
    · show s₁.bridge.registry.outline = _
      rw [haside.registry]
      rfl
  | shut m hsocket hshut => cases hr
  | refused m hsocket hopen => cases hr

/-- **What comes of a start** of a bridge that was not stopped. -/
theorem launched_start (hready : s.Ready) (hgoing : s.bridge.stopped = false)
    (hclean : Uninterrupted ((start : Act (Site (Recorded ε)) Unit).exec s).2.conversation) :
    Launched s (start.exec s) := by
  rw [exec_start, hgoing, if_neg Bool.false_ne_true] at hclean ⊢
  have hrenewed : s.renewed.Ready := ⟨hready.tame, hready.bare⟩
  have hclean' :
      Uninterrupted ((establish : Act (Site (Recorded ε)) Unit).exec s.renewed).2.conversation := by
    rw [exec_settlingOn] at hclean
    exact hclean
  rw [establish_eq] at hclean' ⊢
  have hconnect := hclean'.of_prefix
    (grows_connect.conversation_bind (fun _ => grows_enabling) hrenewed.sane)
  have hjoined := joined_connect hrenewed hconnect
  have hready₁ := ready_connect hrenewed hconnect
  rw [Act.exec_bind] at hclean' ⊢
  generalize (onLink Wire.connect).exec s.renewed = r at hjoined hready₁ hclean'
  obtain ⟨result, s₁⟩ := r
  cases result with
  | ok u =>
    obtain ⟨k, hsocket, hconnecting, hbegan, hrequests⟩ := hjoined.started
    exact started_on hready₁ hsocket hconnecting hbegan hrequests hclean'
  | error f =>
    -- there is no connection, and the bridge knows
    have haway (m : String) {s₁ : Site (Recorded ε)} (hsocket : s₁.bridge.link.socket = none)
        (hconnecting : s₁.bridge.status = .connecting) :
        Launched s ((settlingOn (.error (.link m))).exec s₁) := by
      rw [exec_settlingOn, hconnecting]
      exact .away ⟨hsocket, .inr rfl⟩
    cases hjoined with
    | shut m hsocket hshut => exact haway m hsocket rfl
    | refused m hsocket hopen => exact haway m hsocket rfl

/-! ## §5. While a start waits. -/

/-- The sites in which a start waits.  It has connected; from there on it asks and reads what
there is, commands are given up, ids are noted, the script may be let run, and the host goes
its own way. -/
inductive MidStart (s₀ : Site (Recorded ε)) : Site (Recorded ε) → Prop
  | connected {s : Site (Recorded ε)} (hjoined : Joined s₀.renewed (.ok (), s)) : MidStart s₀ s
  | asked {s : Site (Recorded ε)} {awaited : Option Pending} {e : Envelope}
      {r : Except Fault Nat × Site (Recorded ε)} (h : MidStart s₀ s) (hposted : Posted awaited e s r) :
      MidStart s₀ r.2
  | read {s s' : Site (Recorded ε)} (h : MidStart s₀ s) (hstep : Step s s') : MidStart s₀ s'
  | dropped {s : Site (Recorded ε)} (id : Nat) (h : MidStart s₀ s) : MidStart s₀ (s.dropping id)
  | noted {s : Site (Recorded ε)} (registry : BreakpointRegistry) (h : MidStart s₀ s) :
      MidStart s₀ (s.registering registry)
  | left {s : Site (Recorded ε)} (h : MidStart s₀ s) : MidStart s₀ s.left
  | stirred {s : Site (Recorded ε)} (f : ε → ε) (h : MidStart s₀ s) :
      MidStart s₀ { s with network := { s.network with endpoint := s.network.endpoint.stir f } }

theorem MidStart.steps {s₀ : Site (Recorded ε)} (h : MidStart s₀ s) (steps : Steps s s') :
    MidStart s₀ s' := by
  induction steps with
  | refl => exact h
  | tail _ step ih => exact ih.read step

theorem MidStart.lasting (s₀ : Site (Recorded ε)) : Lasting (MidStart s₀) where
  pump _ hready h hclean := h.steps (steps_pump hready hclean).2
  submit method params _ _ hready h hclean := h.asked (posted_submit method params hready hclean)
  notify method params _ _ hready h hclean := h.asked (posted_notify method params hready hclean)
  dropping _ id _ _ h _ _ := h.dropped id
  left _ _ h := h.left
  registering registry _ _ h := h.noted registry
  stirring f _ _ h := h.stirred f

/-- A start that has connected ends, well or not, in a site in which it could have waited. -/
theorem midStart_enabling {s₀ s₁ : Site (Recorded ε)} (hready : s₁.Ready)
    (hjoined : Joined s₀.renewed (.ok (), s₁))
    (hclean : Uninterrupted ((enabling : Act (Site (Recorded ε)) Unit).exec s₁).2.conversation) :
    MidStart s₀ (enabling.exec s₁).2 :=
  ((MidStart.lasting s₀).enabling.keeps s₁ hready (.connected hjoined) hclean).2

/-- What passed while a start waits passed on the connection that it has. -/
theorem MidStart.passes {s₀ : Site (Recorded ε)} (h : MidStart s₀ s) :
    ∃ s₁, Joined s₀.renewed (.ok (), s₁) ∧ Passes s₁ s := by
  induction h with
  | connected hjoined => exact ⟨_, hjoined, .refl _⟩
  | asked _ hposted ih => exact ih.imp fun _ h => ⟨h.1, h.2.trans (.posted hposted)⟩
  | read _ hstep ih => exact ih.imp fun _ h => ⟨h.1, h.2.trans hstep.passes⟩
  | left _ ih => exact ih.imp fun _ h => ⟨h.1, h.2.trans (.leaving _)⟩
  | dropped _ _ ih | noted _ _ ih | stirred _ _ ih =>
    exact ih.imp fun _ h => ⟨h.1, h.2.trans (.quiet rfl rfl (.inr (.inl rfl)))⟩

/-- **While a start waits, nothing but a pause makes a bridge ready**: a pause was told on the
connection that the bridge has, after the start began. -/
theorem MidStart.told {s₀ : Site (Recorded ε)} (h : MidStart s₀ s) (hready : s.bridge.status = .ready) :
    ∃ k c xs, s₀.conversation <+: c ∧ s.conversation = c ++ xs ∧ s.bridge.link.socket = some k
      ∧ (∀ x ∈ xs, x.On k) ∧ ∃ x ∈ xs, x.TellsPause := by
  obtain ⟨s₁, hjoined, hpasses⟩ := h.passes
  obtain ⟨k, hsocket, hconnecting, hbegan, -⟩ := hjoined.started
  cases hpasses with
  | fell hdown => exact absurd hready hdown.not_ready
  | @on xs hsocket' hsaid hall hmoved =>
    refine ⟨k, s₁.conversation, xs, hbegan, hsaid, hsocket'.trans hsocket, fun x hx => ?_, ?_⟩
    · obtain ⟨j, hj, hx⟩ := hall x hx
      obtain rfl : k = j := Option.some.inj (hsocket.symm.trans hj)
      exact hx
    · -- a start connects, and what was said since has changed that status
      rcases hmoved with hclosed | hsame | hpaused | htells
      · cases hready.symm.trans hclosed
      · cases hready.symm.trans (hsame.trans hconnecting)
      · cases hconnecting.symm.trans hpaused
      · exact htells

/-! ## §6. Runs. -/

theorem Step.stopped (step : Step s s') : s'.bridge.stopped = s.bridge.stopped := by
  cases step with
  | aside haside => exact haside.stopped
  | heard hsocket hframe hfields hmethod => exact Bridge.hear_stopped _ _
  | _ => rfl

theorem Steps.stopped (steps : Steps s s') : s'.bridge.stopped = s.bridge.stopped := by
  induction steps with
  | refl => rfl
  | tail _ step ih => exact step.stopped.trans ih

theorem Posted.stopped {awaited : Option Pending} {e : Envelope}
    {r : Except Fault Nat × Site (Recorded ε)} (h : Posted awaited e s r) :
    r.2.bridge.stopped = s.bridge.stopped := by
  cases h with
  | refused m hno => rfl
  | put hsocket hopen => rfl
  | lost m hsocket hopen haside => exact haside.stopped

/-- Whether a bridge was stopped changes in a stop only. -/
theorem Lasting.stopped (b : Bool) :
    Lasting (fun s : Site (Recorded ε) => s.bridge.stopped = b) where
  pump _ hready h hclean := (steps_pump hready hclean).2.stopped.trans h
  submit method params _ _ hready h hclean :=
    (posted_submit method params hready hclean).stopped.trans h
  notify method params _ _ hready h hclean :=
    (posted_notify method params hready hclean).stopped.trans h
  dropping _ _ _ _ h _ _ := h
  left _ _ h := h
  registering _ _ _ h := h
  stirring _ _ _ h := h

theorem Joined.stopped {r : Except Fault Unit × Site (Recorded ε)} (h : Joined s r) :
    r.2.bridge.stopped = s.bridge.stopped := by
  cases h with
  | opened hsocket hopen hdial haside => exact haside.stopped
  | _ => rfl

theorem stopped_establish (b : Bool) : Preserves (fun s : Site (Recorded ε) => s.bridge.stopped = b)
    (establish : Act (Site (Recorded ε)) Unit) := by
  rw [establish_eq]
  refine .bind ⟨grows_connect, fun s hready hs hclean => ?_⟩ fun _ => (Lasting.stopped b).enabling
  exact ⟨ready_connect hready hclean, (joined_connect hready hclean).stopped.trans hs⟩

/-- A bridge that was stopped has no connection, and knows. -/
def StopsDown (s : Site ε) : Prop := s.bridge.stopped = true → s.Down

theorem stopsDown_start : Preserves StopsDown (start : Act (Site (Recorded ε)) Unit) where
  grows := grows_start
  keeps s hready hs hclean := by
    rw [exec_start] at hclean ⊢
    by_cases hstopped : s.bridge.stopped
    · rw [if_pos hstopped]
      exact ⟨hready, hs⟩
    rw [if_neg hstopped, exec_settlingOn] at hclean ⊢
    have hrenewed : s.renewed.Ready := ⟨hready.tame, hready.bare⟩
    obtain ⟨hready', hsame⟩ :=
      (stopped_establish s.bridge.stopped).keeps s.renewed hrenewed rfl hclean
    exact ⟨⟨hready'.tame, hready'.bare⟩, fun h => absurd (hsame.symm.trans h) hstopped⟩

/-- What follows the first change of a stop ends without a connection. -/
theorem down_closing (hready : s.Ready) (hclean : Uninterrupted ((do
      onLink Wire.close
      update (fun b => { b with status := .closed }) : Act (Site (Recorded ε)) Unit).exec s).2.conversation) :
    ((do
      onLink Wire.close
      update (fun b => { b with status := .closed }) : Act (Site (Recorded ε)) Unit).exec s).2.Down := by
  have hgrows : Grows (onLink Wire.close : Act (Site (Recorded ε)) Unit) :=
    .onLink fun w hplain => Wire.stepping_close.steps w hplain
  have hfinish : Grows (update (fun b => { b with status := .closed })
      : Act (Site (Recorded ε)) Unit) := .update (fun _ => rfl) (fun _ => rfl)
  have hshut := shut_close hready
    (hclean.of_prefix (hgrows.conversation_bind (fun _ => hfinish) hready.sane))
  rw [Act.exec_bind]
  generalize (onLink Wire.close).exec s = r at hshut
  cases hshut with
  | idle hsocket => exact ⟨hsocket, .inl rfl⟩
  | gone hsocket haside =>
    exact ⟨((Passes.aside haside).down (down_gone s.shutting _)).socket, .inl rfl⟩

/-- Stopping ends without a connection. -/
theorem stopsDown_stop : Preserves StopsDown (stop : Act (Site (Recorded ε)) Unit) where
  grows := grows_stop
  keeps s hready hs hclean := by
    have hready' := (enduring_true.toAbiding.stop.keeps s hready trivial hclean).1
    refine ⟨hready', fun _ => ?_⟩
    have hready₁ :
        ({ s with bridge := { s.bridge with stopped := true } } : Site (Recorded ε)).Ready :=
      ⟨hready.tame, hready.bare⟩
    clear hready'
    unfold stop at hclean ⊢
    rw [Act.exec_bind_ok (exec_update _ s)] at hclean ⊢
    exact down_closing hready₁ hclean

theorem stopsDown_act (task : Task ε) : Preserves StopsDown task.act := by
  by_cases hstart : task = .start
  · subst hstart
    exact stopsDown_start
  by_cases hstop : task = .stop
  · subst hstop
    exact stopsDown_stop
  refine ⟨grows_act task, fun s hready hs hclean => ?_⟩
  obtain ⟨hready', hsame⟩ :=
    ((Lasting.stopped s.bridge.stopped).act task hstart hstop).keeps s hready rfl hclean
  have hpasses := (((Passes.abiding s).act task hstart).keeps s hready (.refl s) hclean).2
  exact ⟨hready', fun h => hpasses.down (hs (hsame.symm.trans h))⟩

/-- Why a bridge is ready after a start that was made in one state and what followed it: the
start came through, and all that it asked was answered; or it failed, and a pause was told
since.  Both were on the connection that the bridge has. -/
inductive ReadyFor (s₀ : Site (Recorded ε)) (r : Except Fault Unit × Site (Recorded ε))
    (s : Site (Recorded ε)) : Prop
  | armed {k : Nat} {c xs ys : List Exchange} (hbegan : s₀.conversation <+: c) (hok : r.1 = .ok ())
      (hstarted : r.2.conversation = c ++ xs) (hsaid : s.conversation = c ++ (xs ++ ys))
      (hsocket : s.bridge.link.socket = some k) (hall : ∀ x ∈ xs ++ ys, x.On k)
      (hanswered : ∀ q ∈ s₀.requests, AnsweredIn xs q.1 q.2)
  | woken {k : Nat} {c xs : List Exchange} (f : Fault) (hbegan : s₀.conversation <+: c)
      (hfailed : r.1 = .error f) (hsaid : s.conversation = c ++ xs)
      (hsocket : s.bridge.link.socket = some k) (hall : ∀ x ∈ xs, x.On k)
      (htold : ∃ x ∈ xs, x.TellsPause)

omit [Endpoint ε] in
/-- What makes a bridge ready is what came of the start, or a pause that was told after it. -/
theorem Launched.readyFor {s₀ : Site (Recorded ε)} {r : Except Fault Unit × Site (Recorded ε)}
    (h : Launched s₀ r) (hpasses : Passes r.2 s) (hready : s.bridge.status = .ready) :
    ReadyFor s₀ r s := by
  cases hpasses with
  | fell hdown => exact absurd hready hdown.not_ready
  | @on ys hsocket' hsaid' hall' hmoved =>
    -- what was said on the way is said on the socket that the start left
    have hon {k : Nat} {xs : List Exchange} (hsocket : r.2.bridge.link.socket = some k)
        (hall : ∀ x ∈ xs, x.On k) : ∀ x ∈ xs ++ ys, x.On k := by
      intro x hx
      rcases List.mem_append.mp hx with hx | hx
      · exact hall x hx
      · obtain ⟨j, hj, hx⟩ := hall' x hx
        obtain rfl : k = j := Option.some.inj (hsocket.symm.trans hj)
        exact hx
    cases h with
    | away hdown =>
      exact absurd hready ((Passes.on hsocket' hsaid' hall' hmoved).down hdown).not_ready
    | @armed k c xs hbegan hok hsocket hsaid hall hanswered =>
      refine .armed hbegan hok hsaid ?_ (hsocket'.trans hsocket) (hon hsocket hall) hanswered
      rw [hsaid', hsaid, List.append_assoc]
    | @failed k c xs f hbegan hfailed hsocket hsaid hall hquiet =>
      have hboth : s.conversation = c ++ (xs ++ ys) := by
        rw [hsaid', hsaid, List.append_assoc]
      -- a failed start leaves neither status, so a pause was told in it or since
      have hfirst (hstatus : r.2.bridge.status = .ready ∨ r.2.bridge.status = .paused) :
          ∃ x ∈ xs ++ ys, x.TellsPause := by
        rcases hquiet with ⟨hnot, hnot'⟩ | ⟨x, hx, htells⟩
        · exact absurd hstatus (not_or.mpr ⟨hnot, hnot'⟩)
        · exact ⟨x, List.mem_append_left _ hx, htells⟩
      refine .woken f hbegan hfailed hboth (hsocket'.trans hsocket) (hon hsocket hall) ?_
      rcases hmoved with hclosed | hsame | hpaused | ⟨x, hx, htells⟩
      · cases hready.symm.trans hclosed
      · exact hfirst (.inl (hsame.symm.trans hready))
      · exact hfirst (.inr hpaused)
      · exact ⟨x, List.mem_append_right _ hx, htells⟩

/-- **READY MEANS ARMED, OR WOKEN BY A PAUSE**: whenever a bridge is ready after a run of tasks,
the last of its starts was not refused, and either came through with the answers to all that it
asked, on the connection that the bridge has; or it failed, and a pause was told since. -/
theorem afterTasks_readyFor {config : BridgeConfig} (htame : config.Tame) (url : Json)
    (registry : BreakpointRegistry) (blocks : Option BlockTable) (host : ε) (tasks : List (Task ε))
    (hclean : Uninterrupted ((fresh config url registry blocks host).afterTasks tasks).conversation)
    (hready : ((fresh config url registry blocks host).afterTasks tasks).bridge.status = .ready) :
    ∃ before after, tasks = before ++ .start :: after ∧ .start ∉ after ∧
      ((fresh config url registry blocks host).afterTasks before).bridge.stopped = false ∧
      ReadyFor ((fresh config url registry blocks host).afterTasks before)
        (start.exec ((fresh config url registry blocks host).afterTasks before))
        ((fresh config url registry blocks host).afterTasks tasks) := by
  have hfresh := ready_fresh htame url registry blocks host
  have hdown : (fresh config url registry blocks host).Down := ⟨rfl, .inr rfl⟩
  generalize fresh config url registry blocks host = s at hclean hready hfresh hdown
  by_cases hstart : (.start : Task ε) ∈ tasks
  · -- the last start is the first one from behind
    obtain ⟨after, before, hsplit, hlast⟩ :=
      List.eq_append_cons_of_mem (List.mem_reverse.mpr hstart)
    obtain rfl : tasks = before.reverse ++ .start :: after.reverse := by
      rw [← List.reverse_reverse tasks, hsplit]
      simp
    refine ⟨before.reverse, after.reverse, rfl, by simpa using hlast, ?_⟩
    have hnone : .start ∉ after.reverse := by simpa using hlast
    rw [afterTasks_append] at hclean hready ⊢
    -- up to the start nobody interrupted either
    have hsane := sane_afterTasks before.reverse s hfresh.sane
    have hclean₀ := hclean.of_prefix (grows_afterTasks (.start :: after.reverse) _ hsane)
    obtain ⟨hready₀, hstops⟩ := preserved_afterTasks before.reverse s
      (fun task _ => stopsDown_act task) hfresh (fun _ => hdown) hclean₀
    generalize s.afterTasks before.reverse = s₀ at hclean hready hsane hready₀ hstops
    have hstarted := (grows_start s₀ hsane).1
    have hclean₁ := hclean.of_prefix (grows_afterTasks after.reverse _ hstarted)
    have hpasses (hready₁ : ((start : Act (Site (Recorded ε)) Unit).exec s₀).2.Ready) :
        Passes (start.exec s₀).2 (s₀.afterTasks (.start :: after.reverse)) :=
      (preserved_afterTasks after.reverse _ (fun task hin => (Passes.abiding _).act task
        fun heq => hnone (heq ▸ hin)) hready₁ (.refl _) hclean).2
    have hready₁ := (enduring_true.start.keeps s₀ hready₀ trivial hclean₁).1
    cases hgoing : s₀.bridge.stopped with
    | true =>
      -- a start that is refused changes nothing
      have hsame : ((start : Act (Site (Recorded ε)) Unit).exec s₀).2 = s₀ := by
        rw [exec_start, if_pos hgoing]
      have hdown₁ := hstops hgoing
      rw [← hsame] at hdown₁
      exact absurd hready ((hpasses hready₁).down hdown₁).not_ready
    | false =>
      exact ⟨rfl, (launched_start hready₀ hgoing hclean₁).readyFor (hpasses hready₁) hready⟩
  · have hpasses := (preserved_afterTasks tasks s (fun task hin => (Passes.abiding s).act task
      fun heq => hstart (heq ▸ hin)) hfresh (.refl s) hclean).2
    exact absurd hready (hpasses.down hdown).not_ready

/-- A bridge that was started with two breakpoints. -/
def startedWithTwo : Site (Recorded RehearsedHost) :=
  (fresh {} "ws" wantedTwo none {}).afterTasks [.start]

/-- The host has answered every request of the start. -/
theorem afterTasks_readyFor_two :
    ({} : BridgeConfig).Tame ∧ Uninterrupted startedWithTwo.conversation ∧
      startedWithTwo.bridge.status = .ready ∧
      ∀ q ∈ (fresh {} "ws" wantedTwo none ({} : RehearsedHost)).requests,
        AnsweredIn startedWithTwo.conversation q.1 q.2 := by
  have htame : ({} : BridgeConfig).Tame := fun _ hl => absurd hl List.not_mem_nil
  have hclean : Uninterrupted startedWithTwo.conversation := by decide +kernel
  have hready : startedWithTwo.bridge.status = .ready := rfl
  refine ⟨htame, hclean, hready, fun q hq => ?_⟩
  obtain ⟨before, after, hsplit, _, _, hfor⟩ :=
    afterTasks_readyFor htame "ws" wantedTwo none ({} : RehearsedHost) [.start] hclean hready
  obtain rfl : before = [] := by
    cases before with
    | nil => rfl
    | cons task rest => simp at hsplit
  cases hfor with
  | woken f hbegan hfailed hsaid hsocket hall htold => cases hfailed
  | @armed k c xs ys hbegan hok hstarted hsaid hsocket hall hanswered =>
    have hsaid' : startedWithTwo.conversation = c ++ (xs ++ ys) := hsaid
    rw [hsaid']
    exact ((hanswered q hq).append_right ys).append_left c

/-- A host that never answers that it enables its reports, and tells of a pause and its end
instead. -/
def hastyHost : RehearsedHost :=
  { rules :=
      [{ method := "Debugger.enable"
         actions :=
           [.push (.obj [("method", "Debugger.scriptParsed"),
              ("params", .obj [("scriptId", "7"), ("url", "flow.js")])]),
            .push (.obj [("method", "Debugger.paused"),
              ("params", .obj [("callFrames", .arr [.obj [("callFrameId", "f"),
                ("location", .obj [("scriptId", "7"), ("lineNumber", .int 4)])]])])]),
            .push (.obj [("method", "Debugger.resumed")])] }] }

/-- A bridge that was started at the hasty host. -/
def startedHastily : Site (Recorded RehearsedHost) :=
  (fresh {} "ws" {} none hastyHost).afterTasks [.start]

/-- **A bridge may be ready and nothing be enabled**: nobody interrupted, and the request of
its only start was not answered. -/
theorem ready_unanswered :
    Uninterrupted startedHastily.conversation ∧ startedHastily.bridge.status = .ready ∧
      ¬ AnsweredIn startedHastily.conversation "Debugger.enable" (.obj []) :=
  ⟨by decide +kernel, rfl, not_answeredIn rfl _ _⟩

end Site
end FlowTrace
