/-
  FlowTrace.Proofs.Bridge.Reading
  ────────────────────────────────
  **WHAT A BRIDGE DOES WHILE IT READS.**

  Reading the link and acting on what was read takes a bridge through steps: a
  frame is of no interest, or a reply, or a notification that is heard; the bridge
  lets a script run on or asks for a source; the connection is lost.  It neither
  connects nor sends anything else.  Whatever every step preserves, reading does.
-/
import FlowTrace.Proofs.Bridge.Growth

namespace FlowTrace

/-! ## §1. Notifications. -/

namespace Bridge

/-- The ids of the breakpoints that a pause is about. -/
def hitIds (params : Json) : Except Fault (List Json) := do
  let ids ← params.get "hitBreakpoints"
  (ids.orElse (.arr [])).toItems

/-- The frame of a pause is kept. -/
def capturing (b : Bridge) (frame : PausedFrame) : Bridge :=
  { b with tracker := b.tracker.capture frame }

/-- The script stays paused at a frame, which is noted at the breakpoints hit. -/
def staying (b : Bridge) (frame : PausedFrame) (ids : List Json) : Bridge :=
  { (b.capturing frame).recordHits frame ids with status := .paused }

/-- What a bridge makes of a pause by itself.  At a frame of a flow script it stays
there; anywhere else it leaves the pause. -/
def heedPause (b : Bridge) (frames : List Record) (params : Json) : Bridge :=
  match frames with
  | [] => b.leavePause
  | frame :: _ =>
      match (Json.field frame "location").orObject.get "scriptId" with
      | .error _ => b
      | .ok scriptId =>
          match b.isFlowScript (b.tracker.url scriptId) with
          | .error _ => b
          | .ok false => b.leavePause
          | .ok true =>
              match PausedFrame.ofFrame frame with
              | .error _ => b
              | .ok paused =>
                  match hitIds params with
                  | .error _ => b.capturing paused
                  | .ok ids => b.staying paused ids

/-- What a bridge makes of a notification by itself. -/
def hear (b : Bridge) (message : Record) : Bridge :=
  match Notification.ofFields message with
  | .error _ => b
  | .ok n =>
      match n.report with
      | .scriptParsed scriptId url =>
          { b with
            tracker := b.tracker.record
              { scriptId := scriptId, url := url, params := n.params.fields?.getD [] } }
      | .paused frames _ => b.heedPause frames n.params
      | .resumed => b.leavePause
      | _ => b

@[simp] theorem leavePause_link (b : Bridge) : b.leavePause.link = b.link := rfl
@[simp] theorem leavePause_config (b : Bridge) : b.leavePause.config = b.config := rfl

/-- Staying at a frame changes what was seen at breakpoints, the tracker and the status. -/
theorem staying_eq (b : Bridge) (frame : PausedFrame) (ids : List Json) :
    ∃ registry, b.staying frame ids =
        { b with registry := registry, tracker := b.tracker.capture frame, status := .paused } ∧
      registry.outline = b.registry.outline := by
  obtain ⟨registry, hhits, houtline⟩ := recordHits_eq frame ids (b.capturing frame)
  refine ⟨registry, ?_, houtline⟩
  unfold staying
  rw [hhits]
  rfl

/-- Hearing a notification changes what was seen at breakpoints, the tracker and the status
at most.  A status that comes of it is that of a bridge with a connection. -/
theorem hear_eq (b : Bridge) (message : Record) : ∃ registry tracker status,
    b.hear message = { b with registry := registry, tracker := tracker, status := status } ∧
      registry.outline = b.registry.outline ∧
      (status = b.status ∨ status = .ready ∨ status = .paused) := by
  -- two kinds of messages end a pause: it is resumed, or it is none of the flow
  have hleave : ∃ registry tracker status,
      b.leavePause = { b with registry := registry, tracker := tracker, status := status } ∧
        registry.outline = b.registry.outline ∧
        (status = b.status ∨ status = .ready ∨ status = .paused) := by
    refine ⟨b.registry, b.tracker.clear, if b.status = .paused then .ready else b.status, rfl,
      rfl, ?_⟩
    split
    · exact .inr (.inl rfl)
    · exact .inl rfl
  unfold hear
  split
  · exact ⟨_, _, _, rfl, rfl, .inl rfl⟩
  split
  · exact ⟨_, _, _, rfl, rfl, .inl rfl⟩
  · unfold heedPause
    split
    · exact hleave
    split
    · exact ⟨_, _, _, rfl, rfl, .inl rfl⟩
    split
    · exact ⟨_, _, _, rfl, rfl, .inl rfl⟩
    · exact hleave
    split
    · exact ⟨_, _, _, rfl, rfl, .inl rfl⟩
    split
    · exact ⟨_, _, _, rfl, rfl, .inl rfl⟩
    · next paused _ _ ids _ =>
      obtain ⟨registry, hstaying, houtline⟩ := staying_eq b paused ids
      exact ⟨_, _, _, hstaying, houtline, .inr (.inr rfl)⟩
  · exact hleave
  · exact ⟨_, _, _, rfl, rfl, .inl rfl⟩

@[simp] theorem hear_link (b : Bridge) (message : Record) : (b.hear message).link = b.link := by
  obtain ⟨registry, tracker, status, hhear, _⟩ := b.hear_eq message
  rw [hhear]

@[simp] theorem hear_config (b : Bridge) (message : Record) :
    (b.hear message).config = b.config := by
  obtain ⟨registry, tracker, status, hhear, _⟩ := b.hear_eq message
  rw [hhear]

@[simp] theorem hear_stopped (b : Bridge) (message : Record) :
    (b.hear message).stopped = b.stopped := by
  obtain ⟨registry, tracker, status, hhear, _⟩ := b.hear_eq message
  rw [hhear]

@[simp] theorem hear_outline (b : Bridge) (message : Record) :
    (b.hear message).registry.outline = b.registry.outline := by
  obtain ⟨registry, tracker, status, hhear, houtline, _⟩ := b.hear_eq message
  rw [hhear]
  exact houtline

/-- A live bridge stays live. -/
theorem hear_isLive {b : Bridge} (h : b.isLive = true) (message : Record) :
    (b.hear message).isLive = true := by
  obtain ⟨registry, tracker, status, hhear, _, hstatus⟩ := b.hear_eq message
  rw [hhear]
  rcases hstatus with hsame | hready | hpaused
  · subst hsame
    exact h
  · subst hready
    rfl
  · subst hpaused
    rfl

end Bridge

/-! ## §2. Steps. -/

namespace Site

variable {ε : Type}

/-- A site whose link is bare and whose listeners are tame. -/
structure Ready (s : Site ε) : Prop where
  tame : s.bridge.config.Tame
  bare : s.bridge.link.Bare

theorem Ready.sane {s : Site ε} (h : s.Ready) : s.Sane := ⟨h.tame, h.bare.plain⟩

theorem Ready.aside {s s' : Site ε} (h : s.Ready) (haside : Aside s s') : s'.Ready where
  tame := by rw [haside.config]; exact h.tame
  bare := by rw [haside.link]; exact h.bare

/-- The command of an envelope is the pending one. -/
structure Awaits (p : Pending) (e : Envelope) : Prop where
  id : p.id = e.id
  method : p.method = e.method
  plain : p.reconnects = false

variable [Endpoint ε]

/-- A number is taken for a command that is not put on the wire. -/
def numbered (s : Site (Recorded ε)) : Site (Recorded ε) :=
  s.rewired { s.wire with link := s.bridge.link.allocate.2 }

/-- A command is put on the wire. -/
def putting (s : Site (Recorded ε)) (k : Nat) (awaited : Option Pending) (e : Envelope) :
    Site (Recorded ε) := s.rewired (s.wire.putting k awaited e)

/-- A frame is taken from the socket. -/
def reading (s : Site (Recorded ε)) (k : Nat) : Site (Recorded ε) := s.rewired (s.wire.reading k)

/-- The connection is lost. -/
def gone (s : Site (Recorded ε)) (k : Nat) : Site (Recorded ε) :=
  (s.rewired (s.wire.hangUp k).fallen).downed

/-- A step that a bridge takes while it reads. -/
inductive Step : Site (Recorded ε) → Site (Recorded ε) → Prop
  | aside {s s' : Site (Recorded ε)} (h : Aside s s') : Step s s'
  | nothing {s : Site (Recorded ε)} {k : Nat} (hsocket : s.bridge.link.socket = some k)
      (hnone : (s.network.receive k).1 = none) : Step s (s.reading k)
  | ignored {s : Site (Recorded ε)} {k : Nat} {frame : Frame} (d : Bool)
      (hsocket : s.bridge.link.socket = some k) (hframe : (s.network.receive k).1 = some frame)
      (hno : ∀ m, frame.fields? = some m →
        Fields.contains m "method" = false ∧ Fields.contains m "id" = false) :
      Step s (s.rewired { s.wire.reading k with link := { s.bridge.link with deaf := d } })
  | answered {s : Site (Recorded ε)} {k : Nat} {frame : Frame} {m : Record}
      (hsocket : s.bridge.link.socket = some k) (hframe : (s.network.receive k).1 = some frame)
      (hfields : frame.fields? = some m) (hresponse : IsResponse m) :
      Step s (s.rewired { s.wire.reading k with link := s.bridge.link.answer m })
  | heard {s : Site (Recorded ε)} {k : Nat} {frame : Frame} {m : Record}
      (hsocket : s.bridge.link.socket = some k) (hframe : (s.network.receive k).1 = some frame)
      (hfields : frame.fields? = some m) (hmethod : Fields.contains m "method" = true) :
      Step s { s.reading k with bridge := (s.reading k).bridge.hear m }
  | numbered {s : Site (Recorded ε)} : Step s s.numbered
  /-- The script runs on. -/
  | released {s : Site (Recorded ε)} {k : Nat} {e : Envelope}
      (hsocket : s.bridge.link.socket = some k) (hopen : s.bridge.link.shutdown = false)
      (hpaused : s.bridge.tracker.paused = none) (he : e.method = "Debugger.resume") :
      Step s (s.putting k none e)
  /-- The source of a script is asked for. -/
  | fetched {s : Site (Recorded ε)} {k : Nat} {e : Envelope} {p : Pending}
      (hsocket : s.bridge.link.socket = some k) (hopen : s.bridge.link.shutdown = false)
      (hid : e.id = s.bridge.link.nextId) (hp : Awaits p e)
      (he : e.method = "Debugger.getScriptSource") : Step s (s.putting k (some p) e)
  | lost {s : Site (Recorded ε)} {k : Nat} (hsocket : s.bridge.link.socket = some k) :
      Step s (s.gone k)

/-- Steps, one after the other. -/
abbrev Steps (s s' : Site (Recorded ε)) : Prop := Relation.ReflTransGen Step s s'

variable {s s' : Site (Recorded ε)}

/-! The states after a step are ready again. -/

namespace Ready

omit [Endpoint ε] in
theorem numbered (h : s.Ready) : s.numbered.Ready := by
  refine ⟨h.tame, ?_⟩
  show s.bridge.link.allocate.2.silenced.Bare
  rw [h.bare.allocate.silenced]
  exact h.bare.allocate

theorem reading (h : s.Ready) (k : Nat) : (s.reading k).Ready := by
  refine ⟨h.tame, ?_⟩
  show s.bridge.link.silenced.Bare
  rw [h.bare.silenced]
  exact h.bare

theorem notifying (h : s.Ready) (k : Nat) (e : Envelope) : (s.putting k none e).Ready := by
  refine ⟨h.tame, ?_⟩
  show s.bridge.link.allocate.2.silenced.Bare
  rw [h.bare.allocate.silenced]
  exact h.bare.allocate

theorem submitting (h : s.Ready) {k : Nat} {e : Envelope} {p : Pending}
    (hsocket : s.bridge.link.socket = some k) (hid : e.id = s.bridge.link.nextId)
    (hp : Awaits p e) : (s.putting k (some p) e).Ready := by
  have hbare := h.bare.submitted hsocket (hp.id.trans hid) hp.plain
  refine ⟨h.tame, ?_⟩
  show (s.bridge.link.allocate.2.addPending p).silenced.Bare
  rw [hbare.silenced]
  exact hbare

theorem gone (h : s.Ready) (k : Nat) : (s.gone k).Ready := ⟨h.tame, h.bare.gone⟩

omit [Endpoint ε] in
theorem heard (h : s.Ready) (message : Record) :
    ({ s with bridge := s.bridge.hear message } : Site (Recorded ε)).Ready := by
  refine ⟨?_, ?_⟩
  · show (s.bridge.hear message).config.Tame
    rw [Bridge.hear_config]
    exact h.tame
  · show (s.bridge.hear message).link.Bare
    rw [Bridge.hear_link]
    exact h.bare

end Ready

theorem Step.ready (step : Step s s') (h : s.Ready) : s'.Ready := by
  cases step with
  | aside haside => exact h.aside haside
  | nothing hsocket hnone => exact h.reading _
  | ignored d hsocket hframe hno =>
    have hbare := h.bare.deaf d
    refine ⟨h.tame, ?_⟩
    show ({ s.bridge.link with deaf := d } : Link).silenced.Bare
    rw [hbare.silenced]
    exact hbare
  | answered hsocket hframe hfields hresponse => exact ⟨h.tame, h.bare.answer _⟩
  | @heard k frame m hsocket hframe hfields hmethod => exact (h.reading k).heard m
  | numbered => exact h.numbered
  | released hsocket hopen hpaused he => exact h.notifying _ _
  | fetched hsocket hopen hid hp he => exact h.submitting hsocket hid hp
  | lost hsocket => exact h.gone _

theorem Steps.ready (steps : Steps s s') (h : s.Ready) : s'.Ready := by
  induction steps with
  | refl => exact h
  | tail _ step ih => exact step.ready ih

/-! What is said in the course of a step. -/

theorem conversation_putting (s : Site (Recorded ε)) (k : Nat) (awaited : Option Pending)
    (e : Envelope) : (s.putting k awaited e).conversation
      = s.conversation ++ [.sent k e (s.network.send k e).1] := rfl

theorem conversation_gone (s : Site (Recorded ε)) (k : Nat) :
    (s.gone k).conversation = s.conversation ++ [.closed k (s.network.close k).1] := rfl

theorem conversation_reading_none {k : Nat} (hnone : (s.network.receive k).1 = none) :
    (s.reading k).conversation = s.conversation := by
  show s.network.conversation ++ (s.network.receive k).1.toList.map (.received k) = _
  rw [hnone]
  exact List.append_nil _

theorem conversation_reading_some {k : Nat} {frame : Frame}
    (hframe : (s.network.receive k).1 = some frame) :
    (s.reading k).conversation = s.conversation ++ [.received k frame] := by
  show s.network.conversation ++ (s.network.receive k).1.toList.map (.received k) = _
  rw [hframe]
  rfl

/-- What a bridge says and hears while it reads.  It never connects, and sends two kinds of
commands by itself. -/
def InReading : Exchange → Prop
  | .dialled _ => False
  | .sent _ e _ => e.method = "Debugger.resume" ∨ e.method = "Debugger.getScriptSource"
  | _ => True

theorem Step.said (step : Step s s') :
    ∃ xs, s'.conversation = s.conversation ++ xs ∧ ∀ x ∈ xs, InReading x := by
  have hone {x : Exchange} (hconversation : s'.conversation = s.conversation ++ [x])
      (hx : InReading x) :
      ∃ xs, s'.conversation = s.conversation ++ xs ∧ ∀ x ∈ xs, InReading x := by
    refine ⟨[x], hconversation, fun y hy => ?_⟩
    obtain rfl := List.mem_singleton.mp hy
    exact hx
  have hnone (hconversation : s'.conversation = s.conversation) :
      ∃ xs, s'.conversation = s.conversation ++ xs ∧ ∀ x ∈ xs, InReading x :=
    ⟨[], by rw [hconversation, List.append_nil], fun _ hx => nomatch hx⟩
  cases step with
  | aside haside => exact hnone (congrArg Network.conversation haside.network)
  | nothing hsocket hempty => exact hnone (conversation_reading_none hempty)
  | ignored d hsocket hframe hno => exact hone (conversation_reading_some hframe) trivial
  | answered hsocket hframe hfields hresponse =>
    exact hone (conversation_reading_some hframe) trivial
  | heard hsocket hframe hfields hmethod => exact hone (conversation_reading_some hframe) trivial
  | numbered => exact hnone rfl
  | released hsocket hopen hpaused he => exact hone (conversation_putting s _ _ _) (.inl he)
  | fetched hsocket hopen hid hp he => exact hone (conversation_putting s _ _ _) (.inr he)
  | lost hsocket => exact hone (conversation_gone s _) trivial

theorem Steps.said (steps : Steps s s') :
    ∃ xs, s'.conversation = s.conversation ++ xs ∧ ∀ x ∈ xs, InReading x := by
  induction steps with
  | refl => exact ⟨[], (List.append_nil _).symm, fun _ hx => nomatch hx⟩
  | tail _ step ih =>
    obtain ⟨xs, hxs, hall⟩ := ih
    obtain ⟨ys, hys, hmore⟩ := step.said
    refine ⟨xs ++ ys, by rw [hys, hxs, List.append_assoc], fun x hx => ?_⟩
    rcases List.mem_append.mp hx with hx | hx
    · exact hall x hx
    · exact hmore x hx

theorem Step.conversation (step : Step s s') : s.conversation <+: s'.conversation := by
  obtain ⟨xs, hxs, _⟩ := step.said
  rw [hxs]
  exact List.prefix_append _ _

/-! ## §3. Commands. -/

/-- What comes of a command. -/
inductive Posted (awaited : Option Pending) (e : Envelope) (s : Site (Recorded ε)) :
    Except Fault Nat × Site (Recorded ε) → Prop
  | refused (m : String)
      (hno : s.bridge.link.socket = none ∨ s.bridge.link.shutdown = true) :
      Posted awaited e s (.error (.link m), s.numbered)
  | put {k : Nat} (hsocket : s.bridge.link.socket = some k)
      (hopen : s.bridge.link.shutdown = false) :
      Posted awaited e s (.ok s.bridge.link.nextId, s.putting k awaited e)
  | lost {k : Nat} {s' : Site (Recorded ε)} (m : String)
      (hsocket : s.bridge.link.socket = some k) (hopen : s.bridge.link.shutdown = false)
      (haside : Aside ((s.putting k awaited e).gone k) s') :
      Posted awaited e s (.error (.link m), s')

/-- The fall of a link that had a connection is heeded as its loss. -/
theorem heeded_fallen {w : Wire (Recorded ε)} {k : Nat} (hon : w.link.status = .connected) :
    (s.rewired (w.hangUp k).fallen).heeded (w.hangUp k).fallen.link.changes
      = (s.rewired (w.hangUp k).fallen).downed := by
  have hdown : (w.hangUp k).fallen.link.changes = w.link.changes ++ [.down] :=
    Link.changes_fallen_connected (l := (w.hangUp k).link) hon
  unfold heeded
  rw [hdown, if_pos (List.mem_append_right _ (List.mem_singleton_self _))]

/-- A command at the link is a command at the site. -/
theorem posted_onLink {awaited : Option Pending} {e : Envelope} {a : Act (Wire (Recorded ε)) Nat}
    (hready : s.Ready) (hposted : Wire.Posted awaited e s.wire (a.exec s.wire)) :
    Posted awaited e s ((onLink a).exec s) := by
  have hsilent (k : Nat) : (s.wire.putting k awaited e).link.signals = [] := by
    cases awaited with
    | none => exact hready.bare.silent
    | some p => exact hready.bare.silent
  cases hr : a.exec s.wire with
  | mk r w =>
    rw [hr] at hposted
    cases hposted with
    | refused m hno =>
      rw [exec_onLink_silent hr hready.bare.silent]
      exact .refused m hno
    | @put k hsocket hopen =>
      rw [exec_onLink_silent hr (hsilent k)]
      exact .put hsocket hopen
    | @lost k m hsocket hopen =>
      obtain ⟨s', hexec, haside⟩ := exec_onLink hready.tame hr
      have hon : (s.wire.putting k awaited e).link.status = .connected := by
        cases awaited with
        | none => exact hready.bare.connected hsocket
        | some p => exact hready.bare.connected hsocket
      have hwire : (s.putting k awaited e).wire = s.wire.putting k awaited e := by
        show ({ link := (s.wire.putting k awaited e).link.silenced, network := _ } : Wire _) = _
        unfold Link.silenced
        rw [← hsilent k]
        rfl
      rw [heeded_fallen hon] at haside
      rw [hexec]
      refine .lost m hsocket hopen ?_
      unfold gone
      rw [hwire]
      exact haside

omit [Endpoint ε] in
/-- What is said at the site is what is said at the link. -/
theorem conversation_onLink {α : Type} {a : Act (Wire (Recorded ε)) α} (hready : s.Ready) :
    ((onLink a).exec s).2.conversation = (a.exec s.wire).2.conversation := by
  obtain ⟨s', hexec, -, hnetwork, -⟩ := onLink_leaves (a := a) hready.tame rfl
  rw [hexec]
  exact congrArg Network.conversation hnetwork

theorem posted_notify (method params : Json) (hready : s.Ready)
    (hclean : Uninterrupted ((onLink (Wire.notify method params)).exec s).2.conversation) :
    Posted none { id := s.bridge.link.nextId, method := method, params := params.orObject } s
      ((onLink (Wire.notify method params)).exec s) := by
  rw [conversation_onLink hready] at hclean
  exact posted_onLink hready (Wire.posted_notify (w := s.wire) method params hready.bare hclean)

theorem posted_submit (method params : Json) (hready : s.Ready)
    (hclean : Uninterrupted ((onLink (Wire.submit method params)).exec s).2.conversation) :
    Posted (some { id := s.bridge.link.nextId, method := method })
      { id := s.bridge.link.nextId, method := method, params := params.orObject } s
      ((onLink (Wire.submit method params)).exec s) := by
  rw [conversation_onLink hready] at hclean
  exact posted_onLink hready (Wire.posted_submit (w := s.wire) method params hready.bare hclean)

/-! ## §4. Handling. -/

/-- From a state by steps, to an end that a guard keeps. -/
structure Leads {α : Type} (s : Site (Recorded ε)) (r : Except Fault α × Site (Recorded ε)) :
    Prop where
  mild : Mild r.1
  steps : Steps s r.2

theorem Leads.of_setsAside {α : Type} {a : Act (Site (Recorded ε)) α} (ha : SetsAside a)
    (hready : s.Ready) : Leads s (a.exec s) :=
  ⟨(ha s hready.tame).1, .single (.aside (ha s hready.tame).2)⟩

/-- The site after the bridge has left the pause. -/
def left (s : Site ε) : Site ε := { s with bridge := s.bridge.leavePause }

omit [Endpoint ε] in
theorem Ready.left (h : s.Ready) : s.left.Ready := ⟨h.tame, h.bare⟩

theorem leads_resume (hready : s.Ready)
    (hclean : Uninterrupted ((resume : Act (Site (Recorded ε)) Unit).exec s).2.conversation) :
    Leads s.left (resume.exec s) := by
  unfold resume at hclean ⊢
  rw [Act.exec_bind_ok (exec_update _ s)] at hclean ⊢
  change Uninterrupted ((_ >>= fun _ => _ : Act (Site (Recorded ε)) Unit).exec s.left).2.conversation
    at hclean
  rw [Act.exec_bind_snd (fun _ _ => rfl)] at hclean
  have hposted := posted_notify _ _ hready.left hclean
  show Leads s.left ((onLink _ >>= fun _ => pure ()).exec s.left)
  rw [Act.exec_bind]
  generalize (onLink (Wire.notify "Debugger.resume" (.obj [("terminateOnResume", .bool false)]))
    : Act (Site (Recorded ε)) Nat).exec s.left = r at hposted
  cases hposted with
  | refused m hno => exact ⟨.error rfl, .single .numbered⟩
  | put hsocket hopen => exact ⟨.ok _, .single (.released hsocket hopen rfl rfl)⟩
  | lost m hsocket hopen haside =>
    refine ⟨.error rfl, .tail (.tail (.single (.released hsocket hopen rfl rfl)) (.lost ?_))
      (.aside haside)⟩
    exact hsocket

/-- The bridge's own part of a notification. -/
def hearing (s : Site ε) (b : Bridge) : Site ε := { s with bridge := b }

theorem mild_hitIds (params : Json) : Mild (Bridge.hitIds params) :=
  .bind (Json.mild_get _ _) fun _ => Json.mild_toItems _

omit [Endpoint ε] in
/-- A pause at a frame of a flow script is entered as far as the frame can be read, and
then told. -/
theorem exec_enterPause {s : Site ε} (htame : s.bridge.config.Tame) (url : String) (frame : Record)
    (params : Json) :
    (enterPause url frame params).exec s = match PausedFrame.ofFrame frame with
      | .error f => (.error f, s)
      | .ok paused =>
          match Bridge.hitIds params with
          | .error f => (.error f, s.hearing (s.bridge.capturing paused))
          | .ok ids => (.ok (), (s.hearing (s.bridge.staying paused ids)).calling
              (s.bridge.config.callsOf
                (.breakpoint url (.int paused.line) paused.scopeChain frame))) := by
  unfold enterPause
  rw [exec_ofExcept_bind]
  cases PausedFrame.ofFrame frame with
  | error f => rfl
  | ok paused =>
    show ((update _ >>= _ : Act (Site ε) Unit).exec s) = _
    rw [Act.exec_bind_ok (exec_update _ s)]
    show ((Act.ofExcept (Bridge.hitIds params) >>= _ : Act (Site ε) Unit).exec
      (s.hearing (s.bridge.capturing paused))) = _
    rw [exec_ofExcept_bind]
    cases Bridge.hitIds params with
    | error f => rfl
    | ok ids =>
      have hconfig : (s.bridge.staying paused ids).config = s.bridge.config := by
        -- counting the hits changes the registry and leaves the configuration
        obtain ⟨registry, hstaying, _⟩ := s.bridge.staying_eq paused ids
        rw [hstaying]
      have htame' : (s.bridge.staying paused ids).config.Tame := by
        rw [hconfig]
        exact htame
      have htold := exec_emit_tame (s := s.hearing (s.bridge.staying paused ids)) htame'
        (.breakpoint url (.int paused.line) paused.scopeChain frame)
      show ((update _ >>= fun _ => emit _ : Act (Site ε) Unit).exec
        (s.hearing (s.bridge.capturing paused))) = _
      rw [Act.exec_bind_ok (exec_update _ _)]
      refine htold.trans ?_
      show (Except.ok (), (s.hearing _).calling ((s.bridge.staying paused ids).config.callsOf _)) = _
      rw [hconfig]

theorem leads_onPaused (frames : List Record) (params : Json) (hready : s.Ready)
    (hclean : Uninterrupted ((onPaused frames params).exec s).2.conversation) :
    Leads (s.hearing (s.bridge.heedPause frames params)) ((onPaused frames params).exec s) := by
  cases frames with
  -- no frame, and the host is sent on
  | nil => exact leads_resume hready hclean
  | cons frame rest =>
    unfold onPaused at hclean ⊢
    unfold Bridge.heedPause
    rw [exec_ofExcept_bind] at hclean ⊢
    have hscript := Json.mild_get (Json.field frame "location").orObject "scriptId"
    cases hid : (Json.field frame "location").orObject.get "scriptId" with
    | error f =>
      simp only [hid]
      exact ⟨.error (hscript f hid), .refl⟩
    | ok scriptId =>
      simp only [hid] at hclean ⊢
      rw [Act.exec_bind_ok (exec_look s), exec_ofExcept_bind] at hclean ⊢
      have hflow := s.bridge.mild_isFlowScript (s.bridge.tracker.url scriptId)
      cases hurl : s.bridge.isFlowScript (s.bridge.tracker.url scriptId) with
      | error f =>
        dsimp only
        exact ⟨.error (hflow f hurl), .refl⟩
      | ok flow =>
        simp only [hurl] at hclean ⊢
        cases flow with
        -- a pause outside of the flow: the host is sent on
        | false => exact leads_resume hready hclean
        | true =>
          -- a pause in the flow is entered, unless its top frame or its hits cannot be read
          show Leads _ ((enterPause _ frame params).exec s)
          rw [exec_enterPause hready.tame]
          have hframe := PausedFrame.mild_ofFrame frame
          cases hread : PausedFrame.ofFrame frame with
          | error f =>
            dsimp only
            exact ⟨.error (hframe f hread), .refl⟩
          | ok paused =>
            have hids := mild_hitIds params
            cases hhits : Bridge.hitIds params with
            | error f =>
              dsimp only
              exact ⟨.error (hids f hhits), .refl⟩
            | ok ids =>
              dsimp only
              exact ⟨.ok _, .single (.aside (.calling _ _))⟩

/-- How an exception is taken: it cannot be placed, it is published, or the source of the script
that it leads to is asked for. -/
inductive Taken (e : Thrown) (s : Site (Recorded ε)) :
    Except Fault Unit × Site (Recorded ε) → Prop
  | unplaced (f : Fault) (hlocation : s.bridge.flowLocation e = .error f) : Taken e s (.error f, s)
  | published (table : Option BlockTable) : Taken e s ((publishException e table).exec s)
  /-- The bridge has no table of the script. -/
  | asked (scriptId : String) (hunknown : Fields.get? s.bridge.tables scriptId = none)
      (hclean : Uninterrupted ((asking scriptId).exec s).2.conversation) :
      Taken e s
        ((requested scriptId e ((asking scriptId).exec s).1).exec ((asking scriptId).exec s).2)

theorem taken_onException (e : Thrown) (hready : s.Ready)
    (hclean : Uninterrupted ((onException e).exec s).2.conversation) :
    Taken e s ((onException e).exec s) := by
  unfold onException at hclean ⊢
  rw [Act.exec_bind_ok (exec_look s), exec_ofExcept_bind] at hclean ⊢
  cases hlocation : s.bridge.flowLocation e with
  | error f => exact .unplaced f hlocation
  | ok location =>
    simp only [hlocation] at hclean ⊢
    by_cases hgiven : s.bridge.blocks.isSome || !location.scriptId.truthy
    · rw [if_pos hgiven]
      exact .published none
    rw [if_neg hgiven] at hclean ⊢
    cases htable : Fields.get? s.bridge.tables location.scriptId.text with
    | some table => exact .published (some table)
    | none =>
      simp only [htable] at hclean ⊢
      rw [Act.exec_bind_ok (Act.exec_attempt _ s)] at hclean ⊢
      change Uninterrupted ((requested location.scriptId.text e _).exec _).2.conversation at hclean
      -- what was said with the request stands before what is said with the exception
      have hgrown := grows_asking (ε := ε) location.scriptId.text s hready.sane
      exact .asked _ htable (hclean.of_prefix (grows_requested _ e _ _ hgrown.1).2)

theorem leads_onException (e : Thrown) (hready : s.Ready)
    (hclean : Uninterrupted ((onException e).exec s).2.conversation) :
    Leads s ((onException e).exec s) := by
  have hpublish {v : Site (Recorded ε)} (hsteps : Steps s v) (table : Option BlockTable) :
      Leads s ((publishException e table).exec v) := by
    have h := Leads.of_setsAside (SetsAside.publishException e table) (hsteps.ready hready)
    exact ⟨h.mild, hsteps.trans h.steps⟩
  have htaken := taken_onException e hready hclean
  generalize (onException e).exec s = r at htaken
  cases htaken with
  | unplaced f hlocation => exact ⟨.error (s.bridge.mild_flowLocation e f hlocation), .refl⟩
  | published table => exact hpublish .refl table
  | asked scriptId _ hasked =>
    let p : Pending := { id := s.bridge.link.nextId, method := "Debugger.getScriptSource" }
    let request : Envelope :=
      { id := p.id, method := p.method, params := .obj [("scriptId", .str scriptId)] }
    have hput {k : Nat} (hsocket : s.bridge.link.socket = some k)
        (hopen : s.bridge.link.shutdown = false) : Step s (s.putting k (some p) request) :=
      .fetched hsocket hopen rfl ⟨rfl, rfl, rfl⟩ rfl
    have hposted : Posted (some p) request s ((asking scriptId).exec s) :=
      posted_submit _ _ hready hasked
    generalize (asking scriptId).exec s = r at hposted
    cases hposted with
    | refused m hno => exact hpublish (.single .numbered) none
    | put hsocket hopen =>
      exact ⟨.ok _, .tail (.single (hput hsocket hopen))
        (.aside ⟨rfl, rfl, rfl, rfl, rfl, rfl, rfl⟩)⟩
    | @lost k s₁ m hsocket hopen haside =>
      exact hpublish (.tail (.tail (.single (hput hsocket hopen)) (.lost (k := k) hsocket))
        (.aside haside)) none

/-- **Handling a notification** is hearing it, and steps from there. -/
theorem leads_onMessage (message : Record) (hready : s.Ready)
    (hclean : Uninterrupted ((onMessage message).exec s).2.conversation) :
    Leads (s.hearing (s.bridge.hear message)) ((onMessage message).exec s) := by
  unfold onMessage at hclean ⊢
  unfold Bridge.hear
  rw [exec_ofExcept_bind] at hclean ⊢
  have hmild := Notification.mild_ofFields message
  cases hread : Notification.ofFields message with
  | error f => exact ⟨.error (hmild f hread), .refl⟩
  | ok n =>
    simp only [hread] at hclean ⊢
    unfold onNotification at hclean ⊢
    cases hreport : n.report with
    | other => exact ⟨.ok _, .refl⟩
    | scriptParsed scriptId url => exact ⟨.ok _, .refl⟩
    | paused frames reason =>
      simp only [hreport] at hclean
      exact leads_onPaused frames n.params hready hclean
    | resumed => exact ⟨.ok _, .refl⟩
    | thrown e =>
      simp only [hreport] at hclean
      exact leads_onException e hready hclean
    | console c => exact .of_setsAside (.emit _) hready

/-! ## §5. Pumping. -/

/-- A poll hands on a notification that was read and changes nothing else, or takes
steps. -/
theorem exec_poll_cases (hready : s.Ready)
    (hclean : Uninterrupted ((onLink Wire.poll).exec s).2.conversation) :
    (∃ p s', (onLink Wire.poll).exec s = (.ok p, s') ∧ Steps s s' ∧
        ∀ m, p ≠ .notification m) ∨
      ∃ k frame m, (onLink Wire.poll).exec s = (.ok (.notification m), s.reading k) ∧
        s.bridge.link.socket = some k ∧ (s.network.receive k).1 = some frame ∧
        frame.fields? = some m ∧ Fields.contains m "method" = true := by
  rw [conversation_onLink hready] at hclean
  obtain ⟨p, hp, hpolled⟩ := Wire.polled_poll (w := s.wire) hready.bare hclean
  have hr : (Wire.poll).exec s.wire = (.ok p, (Wire.poll.exec s.wire).2) := by rw [← hp]
  -- every way a poll can go, with the steps of the bridge that it stands for
  generalize (Wire.poll.exec s.wire).2 = w at hr hpolled
  have hsilent := hready.bare.silent
  cases hpolled with
  | idle =>
    refine .inl ⟨_, _, exec_onLink_silent hr hsilent, ?_, fun m h => nomatch h⟩
    have hsame : s.rewired s.wire = s := by
      show ({ bridge := { s.bridge with link := s.bridge.link.silenced }, network := s.network }
        : Site (Recorded ε)) = s
      rw [hready.bare.silenced]
    rw [hsame]
  | nothing hsocket hnone =>
    exact .inl ⟨_, _, exec_onLink_silent hr hsilent, .single (.nothing hsocket hnone),
      fun m h => nomatch h⟩
  | ignored d hsocket hframe hno =>
    exact .inl ⟨_, _, exec_onLink_silent hr hsilent, .single (.ignored d hsocket hframe hno),
      fun m h => nomatch h⟩
  | @answered k frame m hsocket hframe hfields hresponse =>
    obtain ⟨s', hexec, haside⟩ := exec_onLink hready.tame hr
    -- to answer a command tells no change of the connection, so nothing is heeded but that
    have hchanges : (s.bridge.link.answer m).changes = [] := by
      rw [Link.changes_answer]
      unfold Link.changes
      rw [hsilent]
      rfl
    change Aside (heeded _ (s.bridge.link.answer m).changes) s' at haside
    rw [hchanges] at haside
    exact .inl ⟨_, _, hexec, .tail (.single (.answered hsocket hframe hfields hresponse))
      (.aside haside), fun m h => nomatch h⟩
  | @notified k frame m hsocket hframe hfields hmethod =>
    exact .inr ⟨k, frame, m, exec_onLink_silent hr hsilent, hsocket, hframe, hfields, hmethod⟩
  | @ended k frame hsocket hframe hno =>
    obtain ⟨s', hexec, haside⟩ := exec_onLink hready.tame hr
    rw [heeded_fallen (hready.bare.connected hsocket)] at haside
    -- the frame is read like any other that is ignored, and then the connection is gone
    have hread : Step s _ := .ignored s.bridge.link.deaf hsocket hframe (by simp [hno])
    refine .inl ⟨_, _, hexec, .tail (.tail (.single hread) (.lost (k := k) hsocket))
      (.aside ?_), fun m h => nomatch h⟩
    have hwire : (s.rewired { s.wire.reading k with
        link := { s.bridge.link with deaf := s.bridge.link.deaf } }).wire = s.wire.reading k := by
      show ({ link := s.bridge.link.silenced, network := _ } : Wire (Recorded ε)) = _
      rw [hready.bare.silenced]
      rfl
    unfold gone
    rw [hwire]
    exact haside

/-- **Reading what waits and acting on it takes steps**, and ends well. -/
theorem steps_pumpWith (burst : Nat) : ∀ s : Site (Recorded ε), s.Ready →
    Uninterrupted ((pumpWith (onLink Wire.poll) onMessage burst).exec s).2.conversation →
      ((pumpWith (onLink Wire.poll) onMessage burst).exec s).1 = .ok () ∧
        Steps s ((pumpWith (onLink Wire.poll) onMessage burst).exec s).2 := by
  -- Induction on the frames that may still be read.
  induction burst with
  | zero => exact fun s _ _ => ⟨rfl, .refl⟩
  | succ burst ih =>
    intro s hready hclean
    have hrest {s' : Site (Recorded ε)} (hsteps : Steps s s')
        (hclean' : Uninterrupted
          ((pumpWith (onLink Wire.poll) onMessage burst).exec s').2.conversation) :
        ((pumpWith (onLink Wire.poll) onMessage burst).exec s').1 = .ok () ∧
          Steps s ((pumpWith (onLink Wire.poll) onMessage burst).exec s').2 := by
      obtain ⟨hok, hmore⟩ := ih s' (hsteps.ready hready) hclean'
      exact ⟨hok, hsteps.trans hmore⟩
    rw [pumpWith_succ] at hclean ⊢
    have hpoll := hclean.of_prefix (Grows.conversation_bind
      (.onLink fun w hplain => Wire.steps_poll hplain)
      (fun p => grows_afterPoll (grows_pumpWith burst) p) hready.sane)
    rcases exec_poll_cases hready hpoll with
      ⟨p, s', hexec, hsteps, hno⟩ | ⟨k, frame, m, hexec, hsocket, hframe, hfields, hmethod⟩
    · rw [Act.exec_bind_ok hexec] at hclean ⊢
      cases p with
      | idle => exact ⟨rfl, hsteps⟩
      | handled => exact hrest hsteps hclean
      | notification m => exact absurd rfl (hno m)
    · rw [Act.exec_bind_ok hexec] at hclean ⊢
      have hread := hready.reading k
      have hhandle := hclean.of_prefix (Grows.conversation_bind (.contained (grows_onMessage m))
        (fun _ => grows_pumpWith burst) hread.sane)
      rw [Act.exec_contained_snd] at hhandle
      have hleads := leads_onMessage m hread hhandle
      have hheard : Steps s ((onMessage m).exec (s.reading k)).2 :=
        .head (.heard hsocket hframe hfields hmethod) hleads.steps
      have hcontained := Act.exec_contained_ok hleads.mild
      change Uninterrupted ((Act.contained (onMessage m) >>= fun _ => _).exec _).2.conversation
        at hclean
      rw [Act.exec_bind_ok hcontained] at hclean
      show ((Act.contained (onMessage m) >>= fun _ => _).exec _).1 = _ ∧
        Steps s ((Act.contained (onMessage m) >>= fun _ => _).exec _).2
      rw [Act.exec_bind_ok hcontained]
      exact hrest hheard hclean

theorem steps_pump (hready : s.Ready)
    (hclean : Uninterrupted ((pump : Act (Site (Recorded ε)) Unit).exec s).2.conversation) :
    (pump.exec s).1 = .ok () ∧ Steps s (pump.exec s).2 := by
  unfold pump at hclean ⊢
  rw [Act.exec_bind_ok (exec_look s)] at hclean ⊢
  exact steps_pumpWith _ s hready hclean

end Site
end FlowTrace
