/-
  FlowTrace.Proofs.Bridge.Upkeep
  ────────────────────────────────
  **KEEPING THE BALANCE.**

  While there is a connection, what the host holds armed is what the bridge has on
  record, and what the commands in flight bring.  A bridge that reads keeps that
  balance: a response brings the same to both sides, and nothing else that is read or
  sent in reading touches it.  A loss ends the holding, and with it the balance.

  Nor does reading bring a connection back, or take a live bridge's status away while
  the connection lasts.
-/
import FlowTrace.Proofs.Bridge.Command
import FlowTrace.Proofs.Debug.Holding

namespace FlowTrace
namespace Site

variable {ε : Type} {s s' s'' : Site (Recorded ε)}

/-! ## §1. Going on. -/

/-- There is a connection. -/
def IsUp (s : Site ε) : Prop := s.bridge.link.socket.isSome = true

theorem not_isUp (h : s.bridge.link.socket = none) : ¬ s.IsUp := by
  unfold IsUp
  rw [h]
  exact Bool.false_ne_true

/-- What a bridge keeps while it goes on with what it has. -/
structure Onward (s s' : Site (Recorded ε)) : Prop where
  up : s'.IsUp → s.IsUp
  live : s'.IsUp → s.bridge.isLive = true → s'.bridge.isLive = true
  shutdown : s'.bridge.link.shutdown = s.bridge.link.shutdown
  outline : s'.bridge.registry.outline = s.bridge.registry.outline
  outcomes : s.bridge.link.outcomes <+: s'.bridge.link.outcomes

theorem Onward.refl (s : Site (Recorded ε)) : Onward s s :=
  ⟨id, fun _ => id, rfl, rfl, List.prefix_refl _⟩

theorem Onward.trans (h : Onward s s') (h' : Onward s' s'') : Onward s s'' where
  up hup := h.up (h'.up hup)
  live hup hlive := h'.live hup (h.live (h'.up hup) hlive)
  shutdown := h'.shutdown.trans h.shutdown
  outline := h'.outline.trans h.outline
  outcomes := h.outcomes.trans h'.outcomes

/-- A command that has an outcome keeps it. -/
theorem Onward.outcome? (h : Onward s s') {id : Nat} {r : Outcome}
    (hr : s.bridge.link.outcome? id = some r) : s'.bridge.link.outcome? id = some r := by
  obtain ⟨more, heq⟩ := h.outcomes
  unfold Link.outcome? at hr ⊢
  rw [← heq, List.lookup_append, hr]
  rfl

theorem Onward.aside (h : Aside s s') : Onward s s' where
  up hup := by
    unfold IsUp at hup ⊢
    rwa [← h.link]
  live _ hlive := by
    unfold Bridge.isLive at hlive ⊢
    rwa [h.status]
  shutdown := by rw [h.link]
  outline := by rw [h.registry]
  outcomes := by simp only [h.link, List.prefix_refl]

/-- Only the link has changed, and it has the socket that it had. -/
theorem Onward.rewired {w : Wire (Recorded ε)} (hsocket : w.link.socket = s.bridge.link.socket)
    (hshutdown : w.link.shutdown = s.bridge.link.shutdown)
    (houtcomes : s.bridge.link.outcomes <+: w.link.outcomes) : Onward s (s.rewired w) where
  up hup := by
    unfold IsUp at hup ⊢
    rwa [← hsocket]
  live _ := id
  shutdown := hshutdown
  outline := rfl
  outcomes := houtcomes

variable [Endpoint ε]

theorem Onward.gone (s : Site (Recorded ε)) (k : Nat) : Onward s (s.gone k) where
  up hup := absurd hup (not_isUp (Link.gone_socket _))
  live hup := absurd hup (not_isUp (Link.gone_socket _))
  shutdown := Link.gone_shutdown _
  outline := rfl
  outcomes := by
    show s.bridge.link.outcomes <+: s.bridge.link.gone.outcomes
    rw [Link.gone_outcomes]
    exact List.prefix_append _ _

/-- What follows a loss has no connection. -/
theorem not_isUp_gone {k : Nat} (haside : Aside (s.gone k) s') : ¬ s'.IsUp :=
  fun hup => not_isUp (Link.gone_socket _) ((Onward.aside haside).up hup)

theorem Onward.putting (s : Site (Recorded ε)) (k : Nat) (awaited : Option Pending) (e : Envelope) :
    Onward s (s.putting k awaited e) := by
  cases awaited <;> exact .rewired rfl rfl (List.prefix_refl _)

theorem Step.onward (step : Step s s') : Onward s s' := by
  cases step with
  | aside haside => exact .aside haside
  | nothing hsocket hnone => exact .rewired rfl rfl (List.prefix_refl _)
  | ignored d hsocket hframe hno => exact .rewired rfl rfl (List.prefix_refl _)
  | answered hsocket hframe hfields hresponse =>
    exact .rewired (Link.answer_socket _ _) (Link.answer_shutdown _ _)
      (Link.answer_outcomes_prefix _ _)
  | @heard k frame m hsocket hframe hfields hmethod =>
    have hread : Onward s (s.reading k) := .rewired rfl rfl (List.prefix_refl _)
    refine hread.trans ⟨fun hup => ?_, fun _ hlive => Bridge.hear_isLive hlive m, ?_,
      Bridge.hear_outline _ _, ?_⟩
    · unfold IsUp at hup ⊢
      rwa [Bridge.hear_link] at hup
    · show ((s.reading k).bridge.hear m).link.shutdown = _
      rw [Bridge.hear_link]
    · show _ <+: ((s.reading k).bridge.hear m).link.outcomes
      simp only [Bridge.hear_link, List.prefix_refl]
  | numbered => exact .rewired rfl rfl (List.prefix_refl _)
  | released hsocket hopen hpaused he => exact .putting s _ _ _
  | fetched hsocket hopen hid hp he => exact .putting s _ _ _
  | lost hsocket => exact .gone s _

theorem Steps.onward (steps : Steps s s') : Onward s s' := by
  induction steps with
  | refl => exact .refl s
  | tail _ step ih => exact ih.trans step.onward

/-! ## §2. The balance. -/

/-- The site is in balance: as long as there is a connection, the host holds what is
on record here and what the commands in flight bring.  A bridge that would send no
command on a connection has no breakpoint armed. -/
structure Kept (base : List Armed) (owed : List Owed) (outline : List Armed)
    (s : Site (Recorded ε)) : Prop where
  ready : s.Ready
  opened : s.bridge.link.shutdown = false
  registered : s.bridge.registry.outline = outline
  owes : s.IsUp → Owes base owed (holding s.conversation) s.bridge.link
  dormant : s.IsUp → s.bridge.isLive = false → ∀ a ∈ outline, a.id = .null

variable {base base' : List Armed} {owed owed' : List Owed} {outline : List Armed}

omit [Endpoint ε] in
theorem Kept.onward (h : Kept base owed outline s) (honward : Onward s s') (hready : s'.Ready)
    (howes : s'.IsUp → Owes base' owed' (holding s'.conversation) s'.bridge.link) :
    Kept base' owed' outline s' where
  ready := hready
  opened := honward.shutdown.trans h.opened
  registered := honward.outline.trans h.registered
  owes := howes
  dormant hup hlive := by
    refine h.dormant (honward.up hup) ?_
    cases hbefore : s.bridge.isLive with
    | false => rfl
    | true => exact (honward.live hup hbefore).symm.trans hlive

/-- **Every step of reading keeps the balance**, if the host answers fairly. -/
theorem Step.kept (step : Step s s') (h : Kept base owed outline s)
    (hfair : Fairly s'.conversation) : Kept base owed outline s' := by
  refine h.onward step.onward (step.ready h.ready) fun hup => ?_
  have howes := h.owes (step.onward.up hup)
  -- a frame that is no response, with a link that has the commands that it had
  have hread {k : Nat} {frame : Frame} {l : Link}
      (hconversation : s'.conversation = s.conversation ++ [.received k frame])
      (hno : ∀ m, frame.fields? = some m → ¬ IsResponse m) (hlink : s'.bridge.link = l)
      (hsame : Owes base owed (holding s.conversation) l) :
      Owes base owed (holding s'.conversation) s'.bridge.link := by
    rw [hconversation, holding_concat, Holding.next_received (Exchange.response?_none hno), hlink]
    exact hsame
  -- a command of another kind, with a link that has this one more or only its number
  have hsent {k : Nat} {e : Envelope} {awaited : Option Pending}
      (hpassive : e.Passive) :
      Owes base owed (holding (s.putting k awaited e).conversation)
        (s.putting k awaited e).bridge.link := by
    rw [conversation_putting, holding_concat, Holding.next_passive hpassive]
    cases awaited with
    | none => exact howes.of_link (Nat.le_succ _) (fun p hp _ => hp) fun _ _ => rfl
    | some p =>
      exact howes.of_link (Nat.le_succ _) (fun p hp _ => List.mem_append_left _ hp) fun _ _ => rfl
  cases step with
  | aside haside =>
    have hconversation : s'.conversation = s.conversation :=
      congrArg Network.conversation haside.network
    rw [hconversation, haside.link]
    exact howes
  | nothing hsocket hnone =>
    rw [conversation_reading_none hnone]
    exact howes.of_link (Nat.le_refl _) (fun p hp _ => hp) fun _ _ => rfl
  | ignored d hsocket hframe hno =>
    refine hread (conversation_reading_some hframe) (fun m hm hresponse => ?_) rfl
      (howes.of_link (Nat.le_refl _) (fun p hp _ => hp) fun _ _ => rfl)
    cases (hno m hm).2.symm.trans hresponse.2
  | @answered k frame m hsocket hframe hfields hresponse =>
    have hconversation : (s.reading k).conversation = s.conversation ++ [.received k frame] :=
      conversation_reading_some hframe
    change Fairly (s.reading k).conversation at hfair
    rw [hconversation] at hfair
    show Owes base owed (holding (s.reading k).conversation) (s.bridge.link.answer m).silenced
    rw [hconversation, holding_concat]
    exact (howes.respond h.ready.bare.numbered (Exchange.response?_some hfields hresponse)
      hfair.last).of_link (Nat.le_refl _) (fun p hp _ => hp) fun _ _ => rfl
  | heard hsocket hframe hfields hmethod =>
    refine hread (conversation_reading_some hframe) (fun m hm hresponse => ?_)
      (Bridge.hear_link _ _) (howes.of_link (Nat.le_refl _) (fun p hp _ => hp) fun _ _ => rfl)
    cases hfields.symm.trans hm
    cases hmethod.symm.trans hresponse.1
  | numbered => exact howes.of_link (Nat.le_succ _) (fun p hp _ => hp) fun _ _ => rfl
  | released hsocket hopen hpaused he =>
    exact hsent (by simp [Envelope.Passive, Envelope.arms, Envelope.disarms, Envelope.asks, he])
  | fetched hsocket hopen hid hp he =>
    exact hsent (by simp [Envelope.Passive, Envelope.arms, Envelope.disarms, Envelope.asks, he])
  | lost hsocket => exact absurd hup (not_isUp (Link.gone_socket _))

theorem Steps.kept (steps : Steps s s') (h : Kept base owed outline s)
    (hfair : Fairly s'.conversation) : Kept base owed outline s' := by
  induction steps with
  | refl => exact h
  | tail _ step ih => exact step.kept (ih (hfair.of_prefix step.conversation)) hfair

/-! ## §3. Commands. -/

theorem Posted.onward {awaited : Option Pending} {e : Envelope}
    {r : Except Fault Nat × Site (Recorded ε)} (h : Posted awaited e s r) : Onward s r.2 := by
  cases h with
  | refused m hno => exact Step.numbered.onward
  | put hsocket hopen => exact .putting s _ _ _
  | lost m hsocket hopen haside =>
    exact (Onward.putting s _ _ _).trans ((Onward.gone _ _).trans (.aside haside))

theorem Awaited.onward {id : Nat} {method : Json} {r : Except Fault Json × Site (Recorded ε)}
    (h : Awaited id method s r) : Onward s r.2 := by
  cases h with
  | ended steps hout => exact steps.onward
  | late steps hnone => exact steps.onward.trans (.rewired rfl rfl (List.prefix_refl _))

theorem Awaited.ready {id : Nat} {method : Json} {r : Except Fault Json × Site (Recorded ε)}
    (h : Awaited id method s r) (hready : s.Ready) : r.2.Ready := by
  cases h with
  | ended steps hout => exact steps.ready hready
  | late steps hnone => exact (steps.ready hready).dropping id

/-- A bridge that waits for a command in flight has its outcome then, unless it was lost
with the connection or is still not answered. -/
theorem Awaited.kept {o : Owed} {method : Json} {r : Except Fault Json × Site (Recorded ε)}
    (hawaited : Awaited o.envelope.id method s r) (h : Kept base owed outline s) (hin : o ∈ owed)
    (hfair : Fairly r.2.conversation) :
    Kept base owed outline r.2 ∧ (r.2.IsUp → r.2.bridge.link.outcome? o.envelope.id = some r.1) ∨
      (∃ m, r.1 = .error (.timeout m)) ∧ (holding r.2.conversation).waiting ≠ [] := by
  cases hawaited with
  | ended steps hout => exact .inl ⟨steps.kept h hfair, fun _ => hout⟩
  | @late s₁ steps hnone =>
    have hkept := steps.kept h hfair
    have honward : Onward s₁ (s₁.dropping o.envelope.id) := .rewired rfl rfl (List.prefix_refl _)
    by_cases hup : s₁.IsUp
    · refine .inr ⟨⟨_, rfl⟩, fun hempty => ?_⟩
      have hwaits := (hkept.owes hup).waits hin hnone
      change (holding s₁.conversation).waiting = [] at hempty
      rw [hempty] at hwaits
      cases hwaits
    · have hdown : ¬ (s₁.dropping o.envelope.id).IsUp := fun h' => hup (honward.up h')
      exact .inl ⟨hkept.onward honward (hkept.ready.dropping _) fun h' => absurd h' hdown,
        fun h' => absurd h' hdown⟩

/-- A command is put on the wire. -/
theorem Kept.putting {o : Owed} (h : Kept (base ++ o.yield none) owed outline s) {k : Nat}
    (hsocket : s.bridge.link.socket = some k) (hapt : o.Apt)
    (hid : o.envelope.id = s.bridge.link.nextId) :
    Kept base (owed ++ [o]) outline
      (s.putting k (some { id := o.envelope.id, method := o.envelope.method }) o.envelope) := by
  refine h.onward (.putting s _ _ _) (h.ready.submitting hsocket hid ⟨rfl, rfl, rfl⟩) fun hup => ?_
  have howes := h.owes ((Onward.putting s _ _ _).up hup)
  rw [conversation_putting, holding_concat]
  exact (howes.send o h.ready.bare.numbered hapt hid).of_link (Nat.le_refl _) (fun p hp _ => hp)
    fun _ _ => rfl

theorem Commanded.onward {method params : Json} {r : Except Fault Json × Site (Recorded ε)}
    (h : Commanded method params s r) : Onward s r.2 := by
  cases h with
  | refused m hno => exact Step.numbered.onward
  | lost m hsocket hopen haside =>
    have hposted : Posted (some _) _ s (.error (.link m), _) := .lost m hsocket hopen haside
    exact hposted.onward
  | awaited hsocket hopen hawaited => exact (Onward.putting s _ _ _).trans hawaited.onward

theorem Commanded.ready {method params : Json} {r : Except Fault Json × Site (Recorded ε)}
    (h : Commanded method params s r) (hready : s.Ready) : r.2.Ready := by
  cases h with
  | refused m hno => exact hready.numbered
  | lost m hsocket hopen haside => exact ((hready.putting hsocket).gone _).aside haside
  | awaited hsocket hopen hawaited => exact hawaited.ready (hready.putting hsocket)

omit [Endpoint ε] in
/-- A command that could not be sent leaves no connection. -/
theorem Kept.not_up_of_refused (h : Kept base owed outline s)
    (hno : s.bridge.link.socket = none ∨ s.bridge.link.shutdown = true) : ¬ s.IsUp := by
  rcases hno with hnone | hshut
  · exact not_isUp hnone
  · cases h.opened.symm.trans hshut

/-- The command of this method neither arms nor disarms, whatever its number. -/
def Passive (method params : Json) : Prop :=
  ∀ id, ({ id := id, method := method, params := params } : Envelope).Passive

/-- A command of another kind leaves the balance as it is. -/
theorem Kept.commanded_quiet {method params : Json} {r : Except Fault Json × Site (Recorded ε)}
    (h : Kept base [] outline s) (hcommanded : Commanded method params s r)
    (hpassive : Passive method params) (hfair : Fairly r.2.conversation) :
    Kept base [] outline r.2 := by
  refine h.onward hcommanded.onward (hcommanded.ready h.ready) fun hup => ?_
  cases hcommanded with
  | refused m hno =>
    exact absurd (Step.numbered.onward.up hup) (h.not_up_of_refused hno)
  | lost m hsocket hopen haside =>
    exact absurd hup (not_isUp_gone haside)
  | @awaited k _ hsocket hopen hawaited =>
    have hput : Kept base [] outline
        (s.putting k (some { id := s.bridge.link.nextId, method := method })
          { id := s.bridge.link.nextId, method := method, params := params }) := by
      refine h.onward (.putting s _ _ _) (h.ready.putting hsocket) fun hup => ?_
      rw [conversation_putting, holding_concat, Holding.next_passive (hpassive _)]
      exact (h.owes ((Onward.putting s _ _ _).up hup)).idle (List.Perm.refl _) _
    cases hawaited with
    | ended steps hout => exact (steps.kept hput hfair).owes hup
    | late steps hnone => exact ((steps.kept hput hfair).owes hup).idle (List.Perm.refl _) _

/-- **A command to arm or to disarm** brings to the host what it brings to the bridge, if
the host answers it fairly and in time. -/
theorem Kept.commanded {o : Owed} {method params : Json}
    {r : Except Fault Json × Site (Recorded ε)} (h : Kept (base ++ o.yield none) [] outline s)
    (hcommanded : Commanded method params s r) (hapt : o.Apt)
    (henvelope : o.envelope = { id := s.bridge.link.nextId, method := method, params := params })
    (hfair : Fairly r.2.conversation) (hprompt : (holding r.2.conversation).waiting = []) :
    Kept (base ++ o.yield (some r.1)) [] outline r.2 ∧ (r.2.IsUp → o.Answered r.1) := by
  -- nothing is owed while the link is down
  have hdown (hno : ¬ r.2.IsUp) :
      Kept (base ++ o.yield (some r.1)) [] outline r.2 ∧ (r.2.IsUp → o.Answered r.1) :=
    ⟨h.onward hcommanded.onward (hcommanded.ready h.ready) fun hup => absurd hup hno,
      fun hup => absurd hup hno⟩
  cases hcommanded with
  | refused m hno =>
    exact hdown fun hup => h.not_up_of_refused hno (Step.numbered.onward.up hup)
  | lost m hsocket hopen haside =>
    exact hdown (not_isUp_gone haside)
  | @awaited k _ hsocket hopen hawaited =>
    have hput := h.putting hsocket hapt (by rw [henvelope])
    have hid : o.envelope.id = s.bridge.link.nextId := by rw [henvelope]
    rw [henvelope, List.nil_append] at hput
    rw [← hid] at hawaited
    have hin : o ∈ [o] := List.mem_singleton_self o
    rcases Awaited.kept (o := o) hawaited (by rw [hid]; exact hput) hin hfair with
      ⟨hkept, hout⟩ | ⟨_, hwaiting⟩
    · refine ⟨hkept.onward (.refl _) hkept.ready fun hup => ?_, fun hup => ?_⟩
      · refine (hkept.owes hup).paid (fun q hq => ?_) ?_ _
        · obtain rfl := List.mem_singleton.mp hq
          exact ⟨_, hout hup⟩
        · rw [List.flatMap_singleton, hout hup]
      · exact (hkept.owes hup).answered o hin _ (hout hup)
    · exact absurd hprompt hwaiting

/-! ## §4. At rest. -/

section AtRest
omit [Endpoint ε]

/-- The balance between two operations: what the host holds is what the registry has
armed. -/
def Settled (s : Site (Recorded ε)) : Prop :=
  Kept s.bridge.registry.entries [] s.bridge.registry.outline s

/-- The site with another registry. -/
def registering (s : Site ε) (r : BreakpointRegistry) : Site ε :=
  { s with bridge := { s.bridge with registry := r } }

/-- The balance with another registry, if its armed breakpoints are those on record. -/
theorem Kept.registering (h : Kept base [] outline s) {r : BreakpointRegistry}
    (hbase : s.IsUp → base.Perm r.entries)
    (hdormant : s.IsUp → s.bridge.isLive = false → ∀ a ∈ r.outline, a.id = .null) :
    (s.registering r).Settled where
  ready := ⟨h.ready.tame, h.ready.bare⟩
  opened := h.opened
  registered := rfl
  owes hup := (h.owes hup).idle (hbase hup) _
  dormant := hdormant

theorem Kept.settled (h : Kept base [] outline s)
    (hbase : s.IsUp → base.Perm s.bridge.registry.entries) : s.Settled :=
  h.registering (r := s.bridge.registry) hbase fun hup hlive => by
    rw [h.registered]
    exact h.dormant hup hlive

/-- The status has changed.  One that sends no commands is for a bridge with nothing armed. -/
theorem Settled.restatus (h : s.Settled) {status : BridgeStatus}
    (hdormant : s.IsUp → ({ s.bridge with status := status } : Bridge).isLive = false →
      ∀ a ∈ s.bridge.registry.outline, a.id = .null) :
    ({ s with bridge := { s.bridge with status := status } } : Site (Recorded ε)).Settled where
  ready := ⟨h.ready.tame, h.ready.bare⟩
  opened := h.opened
  registered := rfl
  owes := h.owes
  dormant := hdormant

/-- Without a connection a site is at rest. -/
theorem settled_down (hready : s.Ready) (hopen : s.bridge.link.shutdown = false)
    (hdown : ¬ s.IsUp) : s.Settled where
  ready := hready
  opened := hopen
  registered := rfl
  owes hup := absurd hup hdown
  dormant hup := absurd hup hdown

/-- The outline, and so what is armed, is the one that it was. -/
theorem Settled.of_kept (h : Kept s.bridge.registry.entries [] s.bridge.registry.outline s') :
    s'.Settled := by
  unfold Settled
  rw [BreakpointRegistry.entries_congr h.registered, h.registered]
  exact h

end AtRest

theorem Steps.settled (steps : Steps s s') (h : s.Settled) (hfair : Fairly s'.conversation) :
    s'.Settled := .of_kept (steps.kept h hfair)

theorem Settled.commanded_quiet {method params : Json} {r : Except Fault Json × Site (Recorded ε)}
    (h : s.Settled) (hcommanded : Commanded method params s r)
    (hpassive : Passive method params) (hfair : Fairly r.2.conversation) : r.2.Settled :=
  .of_kept (Kept.commanded_quiet h hcommanded hpassive hfair)

end Site
end FlowTrace
