/-
  FlowTrace.Proofs.Bridge.Rearming
  ────────────────────────────────
  **ARMING EVERY BREAKPOINT ANEW.**

  A bridge that starts has no breakpoint armed, and a new connection holds none.  The
  bridge sends a command to arm for each, waits for each of them, and then gives the
  ids out.  Every list that it goes through on the way has one entry for each
  breakpoint, in the order of the registry:

      outline   — the place that is wanted
      owed      — the command in flight
      numbers   — the number of the command
      replies   — its result, or null for a refusal
      ids       — what the breakpoint gets

  If the connection is lost on the way nothing of this matters any more.
-/
import FlowTrace.Proofs.Bridge.Upkeep

namespace FlowTrace

/-- A conversation in which nobody interrupts, and every answer is fair. -/
structure Civil (xs : List Exchange) : Prop where
  clean : Uninterrupted xs
  fair : Fairly xs

theorem Civil.of_prefix {xs ys : List Exchange} (h : Civil ys) (hbegin : xs <+: ys) : Civil xs :=
  ⟨h.clean.of_prefix hbegin, h.fair.of_prefix hbegin⟩

/-- A conversation that has come to rest: every command to arm or to disarm has its answer. -/
structure Concluded (xs : List Exchange) : Prop extends Civil xs where
  prompt : (holding xs).waiting = []

namespace Site

variable {ε : Type} {s s' : Site (Recorded ε)} {base : List Armed} {owed : List Owed}
  {outline : List Armed}

/-! ## §1. Sending. -/

/-- The command in flight is one to arm the breakpoint. -/
def Wants (a : Armed) (o : Owed) : Prop :=
  ∃ e, o = .arm e ∧ e.arms = true ∧ ∀ id, e.under id = { a with id := id }

/-- The command to arm a breakpoint. -/
def armEnvelope (id : Nat) (bp : Breakpoint) : Envelope :=
  { id := id, method := armMethod, params := (armParams bp).orObject }

theorem wants_armEnvelope (id : Nat) (bp : Breakpoint) :
    Wants bp.outline (.arm (armEnvelope id bp)) := ⟨_, rfl, rfl, fun _ => rfl⟩

/-- What comes of sending a command to arm for each breakpoint. -/
inductive Submitted (base : List Armed) (owed : List Owed) (outline : List Armed)
    (s : Site (Recorded ε)) (bps : List Breakpoint) :
    Except Fault (List Nat) × Site (Recorded ε) → Prop
  | put {news : List Owed} {s' : Site (Recorded ε)} (hkept : Kept base (owed ++ news) outline s')
      (honward : Onward s s') (hwants : List.Forall₂ Wants (bps.map Breakpoint.outline) news) :
      Submitted base owed outline s bps (.ok (news.map (fun o => o.envelope.id)), s')
  | lost {f : Fault} {s' : Site (Recorded ε)} (hready : s'.Ready) (honward : Onward s s')
      (hno : ¬ s'.IsUp) : Submitted base owed outline s bps (.error f, s')

variable [Endpoint ε]

theorem submitted_arming (bps : List Breakpoint) : ∀ {owed : List Owed} {s : Site (Recorded ε)},
    Kept base owed outline s → Uninterrupted ((submitArming bps).exec s).2.conversation →
      Submitted base owed outline s bps ((submitArming bps).exec s) := by
  -- Induction on the breakpoints; each step adds one command to those in flight.
  induction bps with
  | nil =>
    intro owed s h _
    have hnone : Kept base (owed ++ []) outline s := by rwa [List.append_nil]
    exact .put hnone (.refl s) .nil
  | cons bp rest ih =>
    intro owed s h hclean
    have hbefore := hclean.of_prefix (prefix_submitArming h.ready.sane bp rest)
    have hposted := posted_submit armMethod (armParams bp) h.ready hbefore
    have honward := hposted.onward
    unfold submitArming at hclean ⊢
    rw [Act.exec_bind] at hclean ⊢
    generalize (onLink (Wire.submit armMethod (armParams bp))).exec s = r at hposted hclean honward
    cases hposted with
    | refused m hno =>
      exact .lost h.ready.numbered honward fun hup => h.not_up_of_refused hno (honward.up hup)
    | lost m hsocket hopen haside =>
      exact .lost (((h.ready.putting hsocket).gone _).aside haside) honward (not_isUp_gone haside)
    | @put k hsocket hopen =>
      let o : Owed := .arm (armEnvelope s.bridge.link.nextId bp)
      have hput : Kept base (owed ++ [o]) outline
          (s.putting k (some { id := s.bridge.link.nextId, method := armMethod })
            { id := s.bridge.link.nextId, method := armMethod
              params := (armParams bp).orObject }) :=
        Kept.putting (o := o) (by rwa [show o.yield none = [] from rfl, List.append_nil])
          hsocket rfl rfl
      dsimp only at hclean honward ⊢
      rw [Act.exec_bind_snd (fun _ _ => rfl)] at hclean
      have hrest := ih hput hclean
      rw [Act.exec_bind]
      generalize (submitArming rest).exec (s.putting k _ _) = r at hrest
      cases hrest with
      | put hkept hmore hwants =>
        rw [List.append_assoc] at hkept
        exact .put hkept (honward.trans hmore) (.cons (wants_armEnvelope _ bp) hwants)
      | lost hready hmore hno => exact .lost hready (honward.trans hmore) hno

/-! ## §2. Waiting. -/

omit [Endpoint ε] in
theorem armingReply_cases (r : Except Fault Json) (s : Site ε) :
    (∃ reply, reply = r.toOption.getD .null ∧ (armingReply r).exec s = (.ok reply, s)) ∨
      ∃ f, r = .error f ∧ (∀ m c d t, f ≠ .refused m c d t) ∧
        (armingReply r).exec s = (.error f, s) := by
  unfold armingReply
  split
  · exact .inl ⟨_, rfl, rfl⟩
  · exact .inl ⟨_, rfl, rfl⟩
  · next f hother => exact .inr ⟨f, rfl, hother, rfl⟩

/-- The reply is the result of the command, null if it was refused. -/
def Replied (l : Link) (o : Owed) (reply : Json) : Prop :=
  ∃ r, l.outcome? o.envelope.id = some r ∧ reply = r.toOption.getD .null

/-- What comes of waiting for commands to arm. -/
inductive Awaiting (base : List Armed) (owed : List Owed) (outline : List Armed)
    (s : Site (Recorded ε)) (news : List Owed) :
    Except Fault (List Json) × Site (Recorded ε) → Prop
  | replied {replies : List Json} {s' : Site (Recorded ε)} (hkept : Kept base owed outline s')
      (honward : Onward s s')
      (hreplies : s'.IsUp → List.Forall₂ (Replied s'.bridge.link) news replies) :
      Awaiting base owed outline s news (.ok replies, s')
  | lost {f : Fault} {s' : Site (Recorded ε)} (hready : s'.Ready) (honward : Onward s s')
      (hno : ¬ s'.IsUp) : Awaiting base owed outline s news (.error f, s')

theorem awaiting_arming (news : List Owed) : ∀ {s : Site (Recorded ε)}, (∀ o ∈ news, o ∈ owed) →
    Kept base owed outline s →
      Concluded ((awaitArming (news.map (fun o => o.envelope.id))).exec s).2.conversation →
        Awaiting base owed outline s news
          ((awaitArming (news.map (fun o => o.envelope.id))).exec s) := by
  -- Induction on the commands that are still to be waited for.
  induction news with
  | nil => exact fun _ h _ => .replied h (.refl _) fun _ => .nil
  | cons o rest ih =>
    intro s hall h hdone
    have hin : o ∈ owed := hall o (List.mem_cons_self ..)
    rw [List.map_cons] at hdone ⊢
    have hbefore := hdone.toCivil.of_prefix (prefix_awaitArming h.ready.sane o.envelope.id _)
    rw [awaitArming_cons] at hdone ⊢
    have hawaited := awaited_await o.envelope.id armMethod h.ready hbefore.clean
    have honward := hawaited.onward
    have hready := hawaited.ready h.ready
    have hends := hawaited.kept h hin hbefore.fair
    rw [Act.exec_bind_ok (Act.exec_attempt _ _)] at hdone ⊢
    generalize (await o.envelope.id armMethod).exec s = r at hdone honward hready hends
    obtain ⟨r, s₁⟩ := r
    dsimp only at hdone honward hready hends ⊢
    rcases hends with ⟨hkept, hout⟩ | ⟨⟨m, rfl⟩, hwaiting⟩
    · rcases armingReply_cases r s₁ with ⟨reply, hreply, hexec⟩ | ⟨f, rfl, hother, hexec⟩
      · rw [Act.exec_bind_ok hexec] at hdone ⊢
        rw [Act.exec_bind_snd (fun _ _ => rfl)] at hdone
        have hrest := ih (fun q hq => hall q (List.mem_cons_of_mem _ hq)) hkept hdone
        rw [Act.exec_bind]
        generalize (awaitArming (rest.map fun o => o.envelope.id)).exec s₁ = r' at hrest
        cases hrest with
        | replied hkept' hmore hreplies =>
          refine .replied hkept' (honward.trans hmore) fun hup => .cons ?_ (hreplies hup)
          exact ⟨r, hmore.outcome? (hout (hmore.up hup)), hreply⟩
        | lost hready' hmore hno => exact .lost hready' (honward.trans hmore) hno
      · rw [Act.exec_bind_error hexec]
        refine .lost hready honward fun hup => ?_
        obtain ⟨m, c, d, t, hf⟩ := (hkept.owes hup).answered o hin _ (hout hup)
        exact hother m c d t hf
    · exact absurd hdone.prompt hwaiting

/-! ## §3. Giving the ids out. -/

section GivingOut
omit [Endpoint ε]

/-- Every command that was replied to has an outcome. -/
theorem exists_outcome {l : Link} {news : List Owed} {replies : List Json}
    (h : List.Forall₂ (Replied l) news replies) :
    ∀ o ∈ news, ∃ r, l.outcome? o.envelope.id = some r := by
  induction h with
  | nil => exact fun _ hin => nomatch hin
  | cons hreplied _ ih =>
    obtain ⟨r, hr, _⟩ := hreplied
    intro o hin
    rcases List.mem_cons.mp hin with rfl | hin
    · exact ⟨r, hr⟩
    · exact ih o hin

theorem replyId_of_granted {result : Json} (h : grantedId result ≠ .null) :
    replyId result = .ok (grantedId result) := by
  cases result with
  | obj fields =>
    cases fields with
    | nil => exact absurd rfl h
    | cons f rest => rfl
  | _ => exact absurd rfl h

/-- Giving ids out changes the registry only. -/
theorem exec_assignIds_snd (replies : List Json) : ∀ (i : Nat) (s : Site ε),
    ∃ r, ((assignIds i replies).exec s).2 = s.registering r := by
  induction replies with
  | nil => exact fun _ s => ⟨s.bridge.registry, rfl⟩
  | cons reply rest ih =>
    intro i s
    unfold assignIds
    rw [exec_ofExcept_bind]
    cases replyId reply with
    | error f => exact ⟨s.bridge.registry, rfl⟩
    | ok id =>
      obtain ⟨r, hr⟩ := ih (i + 1)
        (s.registering (s.bridge.registry.modify i (fun bp => { bp with id := id })))
      exact ⟨r, hr⟩

/-- What a command has brought is armed as soon as its breakpoint has the id. -/
theorem exists_replyId {o : Owed} {r : Outcome} {registry : BreakpointRegistry} {i : Nat}
    {bp : Breakpoint} (hwants : Wants bp.outline o) (hanswered : o.Answered r)
    (hbp : registry.items[i]? = some bp) (hnull : bp.id = .null) :
    ∃ id, replyId (r.toOption.getD .null) = .ok id ∧
      (registry.entries ++ o.yield (some r)).Perm
        (registry.modify i (fun bp => { bp with id := id })).entries := by
  obtain ⟨e, rfl, harms, hunder⟩ := hwants
  cases r with
  | ok result =>
    have hid : grantedId result ≠ .null := hanswered harms
    refine ⟨_, replyId_of_granted hid, ?_⟩
    show (_ ++ [e.under (grantedId result)]).Perm _
    rw [hunder]
    exact (BreakpointRegistry.entries_assign hbp hnull hid).symm
  | error f =>
    refine ⟨.null, rfl, .of_eq ?_⟩
    show _ ++ [] = _
    rw [List.append_nil]
    exact (BreakpointRegistry.entries_assign_null hbp hnull).symm

/-- **The ids that are given out are those that were granted**: what is armed then is what
was armed before, and what each command has brought. -/
theorem exec_assignIds {l : Link} {as : List Armed} {news : List Owed}
    (hwants : List.Forall₂ Wants as news) : ∀ {replies : List Json} {i : Nat} {s : Site ε},
    List.Forall₂ (Replied l) news replies →
    (∀ o ∈ news, ∀ r, l.outcome? o.envelope.id = some r → o.Answered r) →
    s.bridge.registry.outline.drop i = as → (∀ a ∈ as, a.id = .null) →
      ∃ r, (assignIds i replies).exec s = (.ok (), s.registering r) ∧
        (s.bridge.registry.entries
          ++ news.flatMap (fun o => o.yield (l.outcome? o.envelope.id))).Perm r.entries := by
  -- Induction on the breakpoints that have no id yet, with the commands for them.
  induction hwants with
  | nil =>
    intro replies i s hreplies _ _ _
    cases hreplies
    exact ⟨s.bridge.registry, rfl, .of_eq (List.append_nil _)⟩
  | @cons a o as news hwants _ ih =>
    intro replies i s hreplies hanswered hdrop hnull
    cases hreplies with
    | @cons _ reply _ replies hreplied hreplies =>
      obtain ⟨r, hr, rfl⟩ := hreplied
      have hat : s.bridge.registry.outline[i]? = some a := by
        have := congrArg List.head? hdrop
        rwa [List.head?_drop] at this
      obtain ⟨bp, hbp, rfl⟩ := BreakpointRegistry.item_of_outline hat
      obtain ⟨id, hid, hentries⟩ := exists_replyId hwants
        (hanswered _ (List.mem_cons_self ..) r hr) hbp (hnull _ (List.mem_cons_self ..))
      have hrest : (s.bridge.registry.modify i (fun bp => { bp with id := id })).outline.drop (i + 1)
          = as := by
        rw [BreakpointRegistry.outline_drop_modify, ← List.tail_drop, hdrop]
        rfl
      obtain ⟨registry, hexec, hperm⟩ := ih
        (s := s.registering (s.bridge.registry.modify i (fun bp => { bp with id := id }))) hreplies
        (fun q hq => hanswered q (List.mem_cons_of_mem _ hq)) hrest
        (fun x hx => hnull x (List.mem_cons_of_mem _ hx))
      refine ⟨registry, ?_, ?_⟩
      · unfold assignIds
        rw [exec_ofExcept_bind, hid]
        exact hexec
      · rw [List.flatMap_cons, ← List.append_assoc]
        rw [hr]
        exact (hentries.append_right _).trans hperm

end GivingOut

/-! ## §4. Starting. -/

section AtRest
omit [Endpoint ε]

/-- A site at rest with nothing armed, whose bridge sends commands if it has a connection. -/
structure Cleared (s : Site (Recorded ε)) : Prop where
  settled : s.Settled
  unarmed : ∀ a ∈ s.bridge.registry.outline, a.id = .null
  live : s.IsUp → s.bridge.isLive = true

theorem Cleared.kept (h : Cleared s) : Kept [] [] s.bridge.registry.outline s := by
  have hnone : s.bridge.registry.entries = [] := BreakpointRegistry.entries_eq_nil h.unarmed
  rw [← hnone]
  exact h.settled

/-- What starting has come to: the site is at rest, with nothing armed if it failed although
there is a connection. -/
structure Started {α : Type} (r : Except Fault α × Site (Recorded ε)) : Prop where
  settled : r.2.Settled
  failed : ∀ f, r.1 = .error f → r.2.IsUp → ∀ a ∈ r.2.bridge.registry.outline, a.id = .null

theorem started_down {α : Type} {r : Except Fault α} (hready : s.Ready)
    (hopen : s.bridge.link.shutdown = false) (hdown : ¬ s.IsUp) : Started (r, s) :=
  ⟨settled_down hready hopen hdown, fun _ _ hup => absurd hup hdown⟩

/-- Nothing is said in what follows an action. -/
theorem conversation_bind_silent {α β : Type} {a : Act (Site (Recorded ε)) α}
    {f : α → Act (Site (Recorded ε)) β}
    (hf : ∀ x s, ((f x).exec s).2.conversation = s.conversation) (s : Site (Recorded ε)) :
    ((a >>= f).exec s).2.conversation = (a.exec s).2.conversation := by
  rw [Act.exec_bind]
  cases hr : a.exec s with
  | mk r s' =>
    cases r with
    | error e => rfl
    | ok x => exact hf x s'

end AtRest

/-- What is done with the replies to commands to arm. -/
def settingUp (replies : List Json) : Act (Site ε) (List Breakpoint) := do
  assignIds 0 replies
  return (← look).registry.items

theorem armBreakpoints_eq : (armBreakpoints : Act (Site ε) (List Breakpoint)) = (do
    let b ← look
    let ids ← submitArming b.registry.items
    let replies ← awaitArming ids
    settingUp replies) := rfl

/-- What was said in sending the commands to arm was said when the breakpoints were armed. -/
theorem prefix_armBreakpoints (hsane : s.Sane) :
    ((submitArming s.bridge.registry.items).exec s).2.conversation
      <+: ((armBreakpoints : Act (Site (Recorded ε)) _).exec s).2.conversation := by
  rw [armBreakpoints_eq, Act.exec_bind_ok (exec_look s)]
  exact Grows.conversation_bind (grows_submitArming _) (fun ids => .bind (grows_awaitArming ids)
    fun replies => .bind (grows_assignIds replies 0) fun _ => .of_snd_eq fun _ => rfl) hsane

omit [Endpoint ε] in
theorem exec_settingUp_snd (replies : List Json) (s : Site ε) :
    ∃ r, ((settingUp replies).exec s).2 = s.registering r := by
  obtain ⟨r, hr⟩ := exec_assignIds_snd replies 0 s
  refine ⟨r, ?_⟩
  unfold settingUp
  rw [Act.exec_bind_snd (fun _ _ => rfl), hr]

omit [Endpoint ε] in
theorem conversation_settingUp (replies : List Json) (s : Site (Recorded ε)) :
    ((settingUp replies).exec s).2.conversation = s.conversation := by
  obtain ⟨r, hr⟩ := exec_settingUp_snd replies s
  rw [hr]
  rfl

omit [Endpoint ε] in
/-- Every breakpoint is armed with the id that its command has brought, if there is still a
connection. -/
theorem started_settingUp {news : List Owed} {replies : List Json} (h : Kept [] news outline s)
    (hwants : List.Forall₂ Wants outline news) (hnull : ∀ a ∈ outline, a.id = .null)
    (hreplies : s.IsUp → List.Forall₂ (Replied s.bridge.link) news replies)
    (hlive : s.IsUp → s.bridge.isLive = true) : Started ((settingUp replies).exec s) := by
  by_cases hup : s.IsUp
  · have howes := h.owes hup
    obtain ⟨r, hexec, hperm⟩ := exec_assignIds (i := 0) (s := s) hwants (hreplies hup)
      howes.answered h.registered hnull
    have hassigned : (settingUp replies).exec s
        = (.ok (s.registering r).bridge.registry.items, s.registering r) := by
      unfold settingUp
      rw [Act.exec_bind_ok hexec]
      rfl
    have hnone : s.bridge.registry.entries = [] :=
      BreakpointRegistry.entries_eq_nil (by rw [h.registered]; exact hnull)
    rw [hnone] at hperm
    have hpaid := h.onward (.refl s) h.ready
      fun _ => howes.paid (exists_outcome (hreplies hup)) (List.Perm.refl _) _
    rw [hassigned]
    refine ⟨hpaid.registering (fun _ => hperm) fun _ hdormant => ?_, fun f hf => nomatch hf⟩
    cases (hlive hup).symm.trans hdormant
  · obtain ⟨r, hr⟩ := exec_settingUp_snd replies s
    have hready : (s.registering r).Ready := ⟨h.ready.tame, h.ready.bare⟩
    have hsettled : Started (((settingUp replies).exec s).1, s.registering r) :=
      started_down hready h.opened hup
    rw [← hr] at hsettled
    exact hsettled

/-- **Arming a list of breakpoints without ids arms each that the host grants**, and gives it
the id under which the host holds it. -/
theorem started_armBreakpoints (h : Cleared s)
    (hdone : Concluded ((armBreakpoints : Act (Site (Recorded ε)) _).exec s).2.conversation) :
    Started ((armBreakpoints : Act (Site (Recorded ε)) _).exec s) := by
  have hbefore := hdone.toCivil.of_prefix (prefix_armBreakpoints h.settled.ready.sane)
  rw [armBreakpoints_eq, Act.exec_bind_ok (exec_look s)] at hdone ⊢
  have hsubmitted := submitted_arming s.bridge.registry.items h.kept hbefore.clean
  rw [Act.exec_bind] at hdone ⊢
  generalize (submitArming s.bridge.registry.items).exec s = r at hdone hsubmitted
  cases hsubmitted with
  | lost hready honward hno =>
    exact started_down hready (honward.shutdown.trans h.settled.opened) hno
  | @put news s₁ hkept honward hwants =>
    rw [List.nil_append] at hkept
    dsimp only at hdone ⊢
    rw [conversation_bind_silent conversation_settingUp] at hdone
    have hawaiting := awaiting_arming news (fun o hin => hin) hkept hdone
    rw [Act.exec_bind]
    generalize (awaitArming (news.map fun o => o.envelope.id)).exec s₁ = r at hawaiting
    cases hawaiting with
    | lost hready hmore hno =>
      exact started_down hready (hmore.shutdown.trans hkept.opened) hno
    | @replied replies s₂ hkept' hmore hreplies =>
      exact started_settingUp hkept' hwants h.unarmed hreplies fun hup =>
        hmore.live hup (honward.live (hmore.up hup) (h.live (honward.up (hmore.up hup))))

theorem Cleared.commanded {method params : Json} {r : Except Fault Json × Site (Recorded ε)}
    (h : Cleared s) (hpassive : Passive method params) (hcommanded : Commanded method params s r)
    (hfair : Fairly r.2.conversation) : Cleared r.2 where
  settled := h.settled.commanded_quiet hcommanded hpassive hfair
  unarmed := by
    rw [hcommanded.onward.outline]
    exact h.unarmed
  live hup := hcommanded.onward.live hup (h.live (hcommanded.onward.up hup))

/-- A command that comes before the rest of starting. -/
theorem started_command {α : Type} {method params : Json} {f : Json → Act (Site (Recorded ε)) α}
    (h : Cleared s) (hpassive : Passive method params.orObject) (hgrows : ∀ reply, Grows (f reply))
    (hrest : ∀ reply s', Cleared s' → Concluded ((f reply).exec s').2.conversation →
      Started ((f reply).exec s'))
    (hdone : Concluded ((command method params >>= f).exec s).2.conversation) :
    Started ((command method params >>= f).exec s) := by
  have hbefore := hdone.toCivil.of_prefix
    (Grows.conversation_bind (grows_command method params) hgrows h.settled.ready.sane)
  have hcommanded := commanded_command method params h.settled.ready hbefore.clean
  have hcleared := h.commanded hpassive hcommanded hbefore.fair
  rw [Act.exec_bind] at hdone ⊢
  generalize (command method params).exec s = r at hdone hcleared
  obtain ⟨r, s'⟩ := r
  cases r with
  | error f => exact ⟨hcleared.settled, fun _ _ _ => hcleared.unarmed⟩
  | ok reply => exact hrest reply s' hcleared hdone

theorem started_arming (h : Cleared s)
    (hdone : Concluded ((arming : Act (Site (Recorded ε)) Unit).exec s).2.conversation) :
    Started ((arming : Act (Site (Recorded ε)) Unit).exec s) := by
  refine started_command h (fun _ => ⟨rfl, rfl⟩)
    (fun _ => .bind grows_armBreakpoints fun _ => .of_snd_eq fun _ => rfl)
    (fun _ s' hcleared hdone' => ?_) hdone
  rw [Act.exec_bind_snd (fun _ _ => rfl)] at hdone'
  have harmed := started_armBreakpoints hcleared hdone'
  rw [Act.exec_bind]
  generalize (armBreakpoints : Act (Site (Recorded ε)) _).exec s' = r at harmed
  obtain ⟨r, s''⟩ := r
  cases r with
  | error f => exact ⟨harmed.settled, fun _ _ => harmed.failed f rfl⟩
  | ok _ => exact ⟨harmed.settled, fun _ hf => nomatch hf⟩

theorem started_enabling (h : Cleared s)
    (hdone : Concluded ((enabling : Act (Site (Recorded ε)) Unit).exec s).2.conversation) :
    Started ((enabling : Act (Site (Recorded ε)) Unit).exec s) :=
  started_command h (fun _ => ⟨rfl, rfl⟩) (fun _ => grows_arming)
    (fun _ _ hcleared hdone' => started_arming hcleared hdone') hdone

/-- A new connection holds nothing, and there is nothing armed on this side. -/
theorem Cleared.opening (h : Cleared s) (hlive : s.bridge.isLive = true) (k : Nat) :
    Cleared (s.opening k) where
  settled :=
    { ready := h.settled.ready.opening k
      opened := h.settled.opened
      registered := rfl
      owes := fun _ => by
        have hconversation : (s.opening k).conversation
            = s.conversation ++ [.dialled (s.network.dial s.bridge.link.url).1] := rfl
        have hnone : (s.opening k).bridge.registry.entries = [] :=
          BreakpointRegistry.entries_eq_nil h.unarmed
        rw [hconversation, holding_concat, hnone]
        exact Owes.nothing _
      dormant := fun _ _ => h.unarmed }
  unarmed := h.unarmed
  live _ := hlive

omit [Endpoint ε] in
theorem Cleared.aside (h : Cleared s) (haside : Aside s s') : Cleared s' where
  settled := .of_kept (h.settled.onward (.aside haside) (h.settled.ready.aside haside) fun hup => by
    have hconversation : s'.conversation = s.conversation :=
      congrArg Network.conversation haside.network
    rw [hconversation, haside.link]
    exact h.settled.owes ((Onward.aside haside).up hup))
  unarmed := by
    rw [haside.registry]
    exact h.unarmed
  live hup := (Onward.aside haside).live hup (h.live ((Onward.aside haside).up hup))

theorem started_establish (h : Cleared s) (hlive : s.bridge.isLive = true) (hdown : ¬ s.IsUp)
    (hdone : Concluded ((establish : Act (Site (Recorded ε)) Unit).exec s).2.conversation) :
    Started ((establish : Act (Site (Recorded ε)) Unit).exec s) := by
  rw [establish_eq] at hdone ⊢
  have hbefore := hdone.toCivil.of_prefix
    (grows_connect.conversation_bind (fun _ => grows_enabling) h.settled.ready.sane)
  have hjoined := joined_connect h.settled.ready hbefore.clean
  rw [Act.exec_bind] at hdone ⊢
  generalize (onLink Wire.connect).exec s = r at hdone hjoined
  cases hjoined with
  | already hsocket => exact absurd hsocket hdown
  | shut m hsocket hshut => cases h.settled.opened.symm.trans hshut
  | @opened k s' hsocket hopen hdial haside =>
    exact started_enabling ((h.opening hlive k).aside haside) hdone
  | refused m hsocket hopen =>
    exact started_down (h.settled.ready.turnedAway hsocket) hopen (not_isUp hsocket)

/-- **Starting without a connection ends at rest**, however it ends. -/
theorem settled_start (h : s.Settled) (hdown : s.bridge.link.socket = none)
    (hdone : Concluded ((start : Act (Site (Recorded ε)) Unit).exec s).2.conversation) :
    ((start : Act (Site (Recorded ε)) Unit).exec s).2.Settled := by
  rw [exec_start] at hdone ⊢
  by_cases hstopped : s.bridge.stopped
  · rw [if_pos hstopped]
    exact h
  have hcleared : Cleared s.renewed :=
    { settled := settled_down ⟨h.ready.tame, h.ready.bare⟩ h.opened (not_isUp hdown)
      unarmed := s.bridge.registry.entries_clearIds
      live := fun _ => rfl }
  rw [if_neg hstopped] at hdone ⊢
  have hstarted := started_establish hcleared rfl (not_isUp hdown)
  generalize (establish : Act (Site (Recorded ε)) Unit).exec s.renewed = r at hdone hstarted
  obtain ⟨r, s'⟩ := r
  rw [exec_settlingOn] at hdone ⊢
  have hended := hstarted hdone
  refine hended.settled.restatus fun hup hdormant => ?_
  cases r with
  | error f => exact hended.failed f rfl hup
  | ok _ =>
    refine hended.settled.dormant hup ?_
    -- a bridge that is not live after settling was not live before
    rcases settledStatus_cases (.ok ()) s'.bridge.status with hsame | ⟨hconnecting, _⟩
    · rwa [hsame] at hdormant
    · rw [hconnecting] at hdormant
      cases hdormant

end Site
end FlowTrace
