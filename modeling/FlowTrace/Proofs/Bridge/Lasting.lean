/-
  FlowTrace.Proofs.Bridge.Lasting
  ────────────────────────────────
  **WHAT LASTS FROM TASK TO TASK.**

  Every task is made of a few pieces: the link is read, a command is sent or given up,
  the connection is opened or closed, the registry or the status changes.  A property
  of sites that every piece keeps lasts through every task:

      lasting    — what any task but a start or a stop is made of
      abiding    — the pieces of a stop, too
      enduring   — the pieces of a start, too

  A site that is ready stays ready through all of them, as long as nobody interrupts.
-/
import FlowTrace.Proofs.Bridge.Agreement
import FlowTrace.Proofs.Bridge.Attentive

namespace FlowTrace
namespace Site

variable {ε : Type} {s s' : Site (Recorded ε)} {P : Site (Recorded ε) → Prop}

/-! ## §1. Actions. -/

/-- The action keeps a ready site ready, and the property with it, if nobody interrupts. -/
structure Preserves (P : Site (Recorded ε) → Prop) {α : Type} (a : Act (Site (Recorded ε)) α) :
    Prop where
  grows : Grows a
  keeps : ∀ s, s.Ready → P s → Uninterrupted (a.exec s).2.conversation →
    (a.exec s).2.Ready ∧ P (a.exec s).2

namespace Preserves

variable {α β : Type}

/-- What follows an action may rely on how the action ended. -/
theorem bind_of {a : Act (Site (Recorded ε)) α} {f : α → Act (Site (Recorded ε)) β}
    {s : Site (Recorded ε)}
    (ha : Preserves P a) (hf : ∀ x, Grows (f x)) (hready : s.Ready) (hs : P s)
    (hclean : Uninterrupted ((a >>= f).exec s).2.conversation)
    (hrest : ∀ x s', a.exec s = (.ok x, s') → s'.Ready → P s' →
      Uninterrupted ((f x).exec s').2.conversation →
        ((f x).exec s').2.Ready ∧ P ((f x).exec s').2) :
    ((a >>= f).exec s).2.Ready ∧ P ((a >>= f).exec s).2 := by
  have hfirst := ha.keeps s hready hs
    (hclean.of_prefix (Grows.conversation_bind ha.grows hf hready.sane))
  rw [Act.exec_bind] at hclean ⊢
  cases hr : a.exec s with
  | mk r s₁ =>
    rw [hr] at hfirst hclean
    cases r with
    | error e => exact hfirst
    | ok x => exact hrest x s₁ hr hfirst.1 hfirst.2 hclean

theorem bind {a : Act (Site (Recorded ε)) α} {f : α → Act (Site (Recorded ε)) β}
    (ha : Preserves P a) (hf : ∀ x, Preserves P (f x)) : Preserves P (a >>= f) where
  grows := .bind ha.grows fun x => (hf x).grows
  keeps _ hready hs hclean := ha.bind_of (fun x => (hf x).grows) hready hs hclean
    fun x s' _ hready' hs' hclean' => (hf x).keeps s' hready' hs' hclean'

theorem of_snd_eq {a : Act (Site (Recorded ε)) α} (h : ∀ s, (a.exec s).2 = s) : Preserves P a := by
  refine ⟨.of_snd_eq h, fun s hready hs _ => ?_⟩
  rw [h s]
  exact ⟨hready, hs⟩

theorem attempt {a : Act (Site (Recorded ε)) α} (ha : Preserves P a) :
    Preserves P (Act.attempt a) := ⟨.attempt ha.grows, ha.keeps⟩

/-- A change that leaves the link and the listeners alone. -/
theorem update {f : Bridge → Bridge} (hlink : ∀ b, (f b).link = b.link)
    (hconfig : ∀ b, (f b).config = b.config)
    (hf : ∀ s, s.Ready → P s → P { s with bridge := f s.bridge }) :
    Preserves P (Site.update f : Act (Site (Recorded ε)) Unit) where
  grows := .update hlink hconfig
  keeps s hready hs _ := by
    refine ⟨⟨?_, ?_⟩, hf s hready hs⟩
    · show (f s.bridge).config.Tame
      rw [hconfig]
      exact hready.tame
    · show (f s.bridge).link.Bare
      rw [hlink]
      exact hready.bare

end Preserves

/-! ## §2. Commands of one's own. -/

end Site

/-- A response takes no number, and adds no pending command. -/
theorem Link.answer_sublist (l : Link) (m : List (String × Json)) :
    (l.answer m).nextId = l.nextId ∧ (l.answer m).pending.Sublist l.pending := by
  refine ⟨l.answer_nextId m, ?_⟩
  rcases l.answer_cases m with ⟨hkeeps, -, -⟩ | ⟨p, -, -, heq⟩
  · rw [hkeeps.pending]
  · rw [heq]
    exact List.filter_sublist

namespace Site

variable {ε : Type} {s s' : Site (Recorded ε)} {P : Site (Recorded ε) → Prop}

/-- The number was given to a command with the method, if to any that is pending. -/
structure Owns (s : Site ε) (method : Json) (id : Nat) : Prop where
  taken : id < s.bridge.link.nextId
  own : ∀ p ∈ s.bridge.link.pending, p.id = id → p.method = method

/-- A number that is taken is given to no other command. -/
theorem Owns.later {method : Json} {id : Nat} (h : s.Owns method id)
    (hnext : s.bridge.link.nextId ≤ s'.bridge.link.nextId)
    (hpending : ∀ p ∈ s'.bridge.link.pending,
      p ∈ s.bridge.link.pending ∨ s.bridge.link.nextId ≤ p.id) : s'.Owns method id where
  taken := Nat.lt_of_lt_of_le h.taken hnext
  own p hp hid := by
    rcases hpending p hp with hold | hnew
    · exact h.own p hold hid
    · have := h.taken
      omega

variable [Endpoint ε]

theorem Owns.putting {method : Json} {id k : Nat} {awaited : Option Pending} {e : Envelope}
    (h : s.Owns method id) (hnew : ∀ p, awaited = some p → s.bridge.link.nextId ≤ p.id) :
    (s.putting k awaited e).Owns method id := by
  refine h.later ?_ fun p hp => ?_
  · cases awaited <;> exact Nat.le_succ _
  · cases awaited with
    | none => exact .inl hp
    | some q =>
      rcases List.mem_append.mp hp with hp | hp
      · exact .inl hp
      · obtain rfl := List.mem_singleton.mp hp
        exact .inr (hnew _ rfl)

theorem Owns.gone {method : Json} {id : Nat} (h : s.Owns method id) (k : Nat) :
    (s.gone k).Owns method id := by
  refine h.later (Nat.le_of_eq (Link.gone_nextId _).symm) fun p hp => ?_
  change p ∈ s.bridge.link.gone.pending at hp
  rw [Link.gone_pending] at hp
  cases hp

omit [Endpoint ε] in
theorem Owns.aside {method : Json} {id : Nat} (h : s.Owns method id) (haside : Aside s s') :
    s'.Owns method id := by
  refine h.later (by simp only [haside.link, Nat.le_refl]) fun p hp => .inl ?_
  rwa [haside.link] at hp

theorem Step.owns {method : Json} {id : Nat} (step : Step s s') (h : s.Owns method id) :
    s'.Owns method id := by
  cases step with
  | aside haside => exact h.aside haside
  | nothing hsocket hnone => exact h.later (Nat.le_refl _) fun p hp => .inl hp
  | ignored d hsocket hframe hno => exact h.later (Nat.le_refl _) fun p hp => .inl hp
  | @answered k frame m hsocket hframe hfields hresponse =>
    obtain ⟨hnext, hpending⟩ := Link.answer_sublist s.bridge.link m
    exact h.later (Nat.le_of_eq hnext.symm) fun p hp => .inl (hpending.subset hp)
  | @heard k frame m hsocket hframe hfields hmethod =>
    refine h.later ?_ fun p hp => .inl ?_
    · show _ ≤ ((s.reading k).bridge.hear m).link.nextId
      rw [Bridge.hear_link]
      exact Nat.le_refl _
    · change p ∈ ((s.reading k).bridge.hear m).link.pending at hp
      rw [Bridge.hear_link] at hp
      exact hp
  | numbered => exact h.later (Nat.le_succ _) fun p hp => .inl hp
  | released hsocket hopen hpaused he => exact h.putting fun _ hp => nomatch hp
  | fetched hsocket hopen hid hp he =>
    refine h.putting fun q hq => ?_
    obtain rfl := Option.some.inj hq
    exact Nat.le_of_eq (hp.id.trans hid).symm
  | lost hsocket => exact h.gone _

theorem Steps.owns {method : Json} {id : Nat} (steps : Steps s s') (h : s.Owns method id) :
    s'.Owns method id := by
  induction steps with
  | refl => exact h
  | tail _ step ih => exact step.owns ih

theorem Posted.owns {method : Json} {id : Nat} {awaited : Option Pending} {e : Envelope}
    {r : Except Fault Nat × Site (Recorded ε)} (hposted : Posted awaited e s r)
    (hnew : ∀ p, awaited = some p → s.bridge.link.nextId ≤ p.id) (h : s.Owns method id) :
    r.2.Owns method id := by
  cases hposted with
  | refused m hno => exact h.later (Nat.le_succ _) fun p hp => .inl hp
  | put hsocket hopen => exact h.putting hnew
  | lost m hsocket hopen haside => exact ((h.putting hnew).gone _).aside haside

/-- A command that was submitted owns its number. -/
theorem owns_submit {method params : Json} (hready : s.Ready)
    (hclean : Uninterrupted ((onLink (Wire.submit method params)).exec s).2.conversation) {id : Nat}
    {s₁ : Site (Recorded ε)} (h : (onLink (Wire.submit method params)).exec s = (.ok id, s₁)) :
    s₁.Owns method id := by
  have hposted := posted_submit method params hready hclean
  rw [h] at hposted
  cases hposted with
  | put hsocket hopen =>
    refine ⟨Nat.lt_succ_self _, fun p hp hid => ?_⟩
    rcases List.mem_append.mp hp with hold | hnew
    · have hlt := hready.bare.numbered.fresh p hold
      omega
    · obtain rfl := List.mem_singleton.mp hnew
      rfl

/-- Waiting for a reply is reading what there is, and a look at the outcome. -/
theorem exec_await (id : Nat) (method : Json) (hready : s.Ready)
    (hclean : Uninterrupted ((pump : Act (Site (Recorded ε)) Unit).exec s).2.conversation) :
    (await id method).exec s = match (pump.exec s).2.bridge.link.outcome? id with
      | some outcome => (outcome, (pump.exec s).2)
      | none => (.error (.timeout method), (pump.exec s).2.dropping id) := by
  obtain ⟨hok, steps⟩ := steps_pump hready hclean
  have hready' := steps.ready hready
  have hpump : (pump : Act (Site (Recorded ε)) Unit).exec s = (.ok (), (pump.exec s).2) := by
    rw [← hok]
  unfold await
  rw [Act.exec_bind_ok hpump]
  generalize (pump.exec s).2 = s' at hready'
  cases hout : s'.bridge.link.outcome? id with
  | some outcome =>
    have hconclude : (Wire.conclude id method).exec s'.wire = (outcome, s'.wire) :=
      Wire.exec_conclude_some hout method
    rw [exec_onLink_silent hconclude hready'.bare.silent, hready'.rewired_wire]
  | none =>
    have hconclude : (Wire.conclude id method).exec s'.wire
        = (.error (.timeout method), { s'.wire with link := s'.bridge.link.dropPending id }) :=
      Wire.exec_conclude_none hout method
    exact exec_onLink_silent hconclude hready'.bare.silent

/-- A poll ends as it does at the link, and leaves the site ready. -/
theorem polled_onLink (hready : s.Ready)
    (hclean : Uninterrupted ((onLink Wire.poll).exec s).2.conversation) :
    ∃ p s' w, (onLink Wire.poll).exec s = (.ok p, s') ∧ s'.Ready ∧
      Wire.poll.exec s.wire = (.ok p, w) ∧ Wire.Polled s.wire p w ∧
      s'.conversation = w.conversation := by
  have hready' : ((onLink Wire.poll : Act (Site (Recorded ε)) Wire.Poll).exec s).2.Ready := by
    rcases exec_poll_cases hready hclean with ⟨p, s', hexec, hsteps, _⟩ | ⟨k, _, m, hexec, _⟩
    · rw [hexec]
      exact hsteps.ready hready
    · rw [hexec]
      exact hready.reading k
  rw [conversation_onLink hready] at hclean
  obtain ⟨p, hp, hpolled⟩ := Wire.polled_poll (w := s.wire) hready.bare hclean
  have hr : (Wire.poll).exec s.wire = (.ok p, (Wire.poll.exec s.wire).2) := by rw [← hp]
  obtain ⟨s', hexec, _⟩ := exec_onLink hready.tame hr
  have hsaid := conversation_onLink (a := Wire.poll) hready
  rw [hexec] at hready' hsaid
  exact ⟨p, s', _, hexec, hready', hr, hpolled, hsaid⟩

/-- **Reading what waits**: a property lasts through it that every frame keeps, where handling
a notification makes up for what reading it left open. -/
theorem keeps_pumpWith {Q : Record → Site (Recorded ε) → Prop}
    (hpoll : ∀ s, s.Ready → P s → Uninterrupted ((onLink Wire.poll).exec s).2.conversation →
      ∃ p s', (onLink Wire.poll).exec s = (.ok p, s') ∧ s'.Ready ∧
        (∀ m, p = .notification m → Q m s') ∧ ((∀ m, p ≠ .notification m) → P s'))
    (hmessage : ∀ m s, s.Ready → Q m s → Uninterrupted ((onMessage m).exec s).2.conversation →
      P ((onMessage m).exec s).2)
    (burst : Nat) : ∀ s, s.Ready → P s →
      Uninterrupted ((pumpWith (onLink Wire.poll) onMessage burst).exec s).2.conversation →
        P ((pumpWith (onLink Wire.poll) onMessage burst).exec s).2 := by
  -- Induction on the frames that may still be read.
  induction burst with
  | zero => exact fun s _ h _ => h
  | succ burst ih =>
    intro s hready h hclean
    rw [pumpWith_succ] at hclean ⊢
    have hread := hclean.of_prefix (Grows.conversation_bind
      (.onLink fun w hplain => Wire.steps_poll hplain)
      (fun p => grows_afterPoll (grows_pumpWith burst) p) hready.sane)
    obtain ⟨p, s', hexec, hready', hnotified, hother⟩ := hpoll s hready h hread
    rw [Act.exec_bind_ok hexec] at hclean ⊢
    cases p with
    | idle => exact hother nofun
    | handled => exact ih s' hready' (hother nofun) hclean
    | notification m =>
      have hhandle := hclean.of_prefix (Grows.conversation_bind (.contained (grows_onMessage m))
        (fun _ => grows_pumpWith burst) hready'.sane)
      rw [Act.exec_contained_snd] at hhandle
      have hleads := leads_onMessage m hready' hhandle
      have hcontained := Act.exec_contained_ok hleads.mild
      change Uninterrupted ((Act.contained (onMessage m) >>= fun _ => _).exec _).2.conversation
        at hclean
      show P ((Act.contained (onMessage m) >>= fun _ => _).exec _).2
      rw [Act.exec_bind_ok hcontained] at hclean ⊢
      exact ih _ (hleads.steps.ready (hready'.heard m))
        (hmessage m s' hready' (hnotified m rfl) hhandle) hclean

/-! ## §3. Everyday tasks. -/

/-- The property is kept by the pieces that every task but a start or a stop is made of.  Only
an exception asks for a source, so no command of a task does. -/
structure Lasting (P : Site (Recorded ε) → Prop) : Prop where
  pump : ∀ s, s.Ready → P s →
    Uninterrupted ((pump : Act (Site (Recorded ε)) Unit).exec s).2.conversation → P (pump.exec s).2
  submit : ∀ (method : Json) params s, method ≠ "Debugger.getScriptSource" → s.Ready → P s →
    Uninterrupted ((onLink (Wire.submit method params)).exec s).2.conversation →
      P ((onLink (Wire.submit method params)).exec s).2
  notify : ∀ (method : Json) params s, method ≠ "Debugger.getScriptSource" → s.Ready → P s →
    Uninterrupted ((onLink (Wire.notify method params)).exec s).2.conversation →
      P ((onLink (Wire.notify method params)).exec s).2
  /-- A command of one's own is given up. -/
  dropping : ∀ method id s, s.Ready → P s → s.Owns method id →
    method ≠ "Debugger.getScriptSource" → P (s.dropping id)
  left : ∀ s, s.Ready → P s → P s.left
  registering : ∀ r s, s.Ready → P s → P (s.registering r)
  stirring : ∀ (f : ε → ε) (s : Site (Recorded ε)), s.Ready → P s →
    P { s with network := { s.network with endpoint := s.network.endpoint.stir f } }

theorem ready_posted {awaited : Option Pending} {e : Envelope}
    {r : Except Fault Nat × Site (Recorded ε)} (hready : s.Ready)
    (hput : ∀ k, s.bridge.link.socket = some k → (s.putting k awaited e).Ready)
    (hposted : Posted awaited e s r) : r.2.Ready := by
  cases hposted with
  | refused m hno => exact hready.numbered
  | put hsocket hopen => exact hput _ hsocket
  | lost m hsocket hopen haside => exact ((hput _ hsocket).gone _).aside haside

theorem ready_submit {method params : Json} (hready : s.Ready)
    (hclean : Uninterrupted ((onLink (Wire.submit method params)).exec s).2.conversation) :
    ((onLink (Wire.submit method params)).exec s).2.Ready :=
  ready_posted hready (fun _ hsocket => hready.putting hsocket)
    (posted_submit method params hready hclean)

namespace Lasting

theorem preserves_submit (hP : Lasting P) {method : Json}
    (hmethod : method ≠ "Debugger.getScriptSource") (params : Json) :
    Preserves P (onLink (Wire.submit method params) : Act (Site (Recorded ε)) Nat) where
  grows := grows_submit method params
  keeps s hready hs hclean :=
    ⟨ready_submit hready hclean, hP.submit method params s hmethod hready hs hclean⟩

theorem preserves_pump (hP : Lasting P) : Preserves P (Site.pump : Act (Site (Recorded ε)) Unit) where
  grows := grows_pump
  keeps s hready hs hclean :=
    ⟨(steps_pump hready hclean).2.ready hready, hP.pump s hready hs hclean⟩

/-- To own a number lasts. -/
theorem owns (method : Json) (id : Nat) :
    Lasting (fun s : Site (Recorded ε) => s.Owns method id) where
  pump _ hready h hclean := (steps_pump hready hclean).2.owns h
  submit method' params _ _ hready h hclean := by
    refine (posted_submit method' params hready hclean).owns (fun p hp => ?_) h
    obtain rfl := Option.some.inj hp
    exact Nat.le_refl _
  notify method' params _ _ hready h hclean :=
    (posted_notify method' params hready hclean).owns (fun _ hp => nomatch hp) h
  dropping _ _ _ _ h _ _ := h.later (Nat.le_refl _) fun _ hp => .inl (List.mem_filter.mp hp).1
  left _ _ h := ⟨h.taken, h.own⟩
  registering _ _ _ h := ⟨h.taken, h.own⟩
  stirring _ _ _ h := ⟨h.taken, h.own⟩

/-- Waiting for a command of one's own. -/
theorem await (hP : Lasting P) {method : Json} (hmethod : method ≠ "Debugger.getScriptSource")
    {id : Nat} {s : Site (Recorded ε)} (hready : s.Ready) (hs : P s) (howns : s.Owns method id)
    (hclean : Uninterrupted ((Site.await id method).exec s).2.conversation) :
    ((Site.await id method).exec s).2.Ready ∧ P ((Site.await id method).exec s).2 := by
  have hread := hclean.of_prefix (Grows.conversation_bind grows_pump
    (fun _ => grows_conclude id method) hready.sane)
  obtain ⟨hready', hs'⟩ := hP.preserves_pump.keeps s hready hs hread
  have howns' := (steps_pump hready hread).2.owns howns
  rw [exec_await id method hready hread]
  cases (Site.pump.exec s).2.bridge.link.outcome? id with
  | some outcome => exact ⟨hready', hs'⟩
  | none => exact ⟨hready'.dropping id, hP.dropping method id _ hready' hs' howns' hmethod⟩

theorem command (hP : Lasting P) {method : Json} (hmethod : method ≠ "Debugger.getScriptSource")
    (params : Json) : Preserves P (Site.command method params : Act (Site (Recorded ε)) Json) where
  grows := grows_command method params
  keeps s hready hs hclean := by
    have hsent := hclean.of_prefix (Grows.conversation_bind (grows_submit method params)
      (fun id => grows_await id method) hready.sane)
    refine (hP.preserves_submit hmethod params).bind_of (fun id => grows_await id method) hready hs
      hclean fun id s₁ hid hready₁ hs₁ hclean₁ => ?_
    exact hP.await hmethod hready₁ hs₁ (owns_submit hready hsent hid) hclean₁

/-! Arming. -/

theorem submitArming (hP : Lasting P) (bps : List Breakpoint) :
    Preserves P (Site.submitArming bps : Act (Site (Recorded ε)) (List Nat)) := by
  induction bps with
  | nil => exact .of_snd_eq fun _ => rfl
  | cons bp rest ih =>
    exact .bind (hP.preserves_submit (by decide) _) fun _ => .bind ih fun _ => .of_snd_eq fun _ => rfl

/-- Every number that arming takes is its own. -/
theorem owns_submitArming (bps : List Breakpoint) : ∀ {s s' : Site (Recorded ε)} {ids : List Nat},
    s.Ready → (Site.submitArming bps).exec s = (.ok ids, s') → Uninterrupted s'.conversation →
      ∀ id ∈ ids, s'.Owns armMethod id := by
  induction bps with
  | nil =>
    intro s s' ids _ h _ id hid
    cases h
    cases hid
  | cons bp rest ih =>
    intro s s' ids hready h hclean id hid
    have hbegin := prefix_submitArming hready.sane bp rest
    rw [h] at hbegin
    -- the first one was sent without interruption, as what is said only grows
    have hsent := hclean.of_prefix hbegin
    unfold Site.submitArming at h
    rw [Act.exec_bind] at h
    cases hr : (onLink (Wire.submit armMethod (armParams bp))).exec s with
    | mk r s₁ =>
      cases r with
      | error f =>
        rw [hr] at h
        cases h
      | ok first =>
        have hready₁ := ready_submit hready hsent
        have howns₁ := owns_submit hready hsent hr
        rw [hr] at h hready₁
        dsimp only at h hready₁
        rw [Act.exec_bind] at h
        cases hr' : (Site.submitArming rest).exec s₁ with
        | mk r' s₂ =>
          rw [hr'] at h
          cases r' with
          | error f => cases h
          | ok others =>
            cases h
            rcases List.mem_cons.mp hid with rfl | hid
            · -- to own a number lasts while the others are sent
              have hkept := ((owns armMethod id).submitArming rest).keeps s₁ hready₁ howns₁
              rw [hr'] at hkept
              exact (hkept hclean).2
            · exact ih hready₁ hr' hclean id hid

theorem awaitArming (hP : Lasting P) (ids : List Nat) : ∀ {s : Site (Recorded ε)}, s.Ready → P s →
    (∀ id ∈ ids, s.Owns armMethod id) →
      Uninterrupted ((Site.awaitArming ids).exec s).2.conversation →
        ((Site.awaitArming ids).exec s).2.Ready ∧ P ((Site.awaitArming ids).exec s).2 := by
  induction ids with
  | nil => exact fun hready hs _ _ => ⟨hready, hs⟩
  | cons id rest ih =>
    intro s hready hs howns hclean
    have hmethod : (armMethod : Json) ≠ "Debugger.getScriptSource" := by decide
    have hbefore := hclean.of_prefix (prefix_awaitArming hready.sane id rest)
    rw [awaitArming_cons] at hclean ⊢
    have hown := howns id (List.mem_cons_self ..)
    obtain ⟨hready₁, hs₁⟩ := hP.await hmethod hready hs hown hbefore
    have hrest : ∀ other ∈ rest, ((Site.await id armMethod).exec s).2.Owns armMethod other :=
      fun other hin => ((owns armMethod other).await hmethod hready
        (howns other (List.mem_cons_of_mem _ hin)) hown hbefore).2
    rw [Act.exec_bind_ok (Act.exec_attempt _ _)] at hclean ⊢
    generalize (Site.await id armMethod).exec s = r at hclean hready₁ hs₁ hrest
    obtain ⟨r, s₁⟩ := r
    dsimp only at hclean hready₁ hs₁ hrest ⊢
    rcases armingReply_cases r s₁ with ⟨reply, _, hexec⟩ | ⟨f, _, _, hexec⟩
    · rw [Act.exec_bind_ok hexec, Act.exec_bind_snd (fun _ _ => rfl)] at hclean ⊢
      exact ih hready₁ hs₁ hrest hclean
    · rw [Act.exec_bind_error hexec]
      exact ⟨hready₁, hs₁⟩

theorem registry (hP : Lasting P) {f : Bridge → Bridge}
    (hf : ∀ b, ∃ r, f b = { b with registry := r }) :
    Preserves P (update f : Act (Site (Recorded ε)) Unit) := by
  refine .update (fun b => ?_) (fun b => ?_) fun s hready hs => ?_
  · obtain ⟨r, hr⟩ := hf b
    rw [hr]
  · obtain ⟨r, hr⟩ := hf b
    rw [hr]
  · obtain ⟨r, hr⟩ := hf s.bridge
    rw [hr]
    exact hP.registering r s hready hs

theorem settingUp (hP : Lasting P) (replies : List Json) :
    Preserves P (Site.settingUp replies : Act (Site (Recorded ε)) (List Breakpoint)) where
  grows := .bind (grows_assignIds replies 0) fun _ => .of_snd_eq fun _ => rfl
  keeps s hready hs _ := by
    obtain ⟨r, hr⟩ := exec_settingUp_snd replies s
    rw [hr]
    exact ⟨⟨hready.tame, hready.bare⟩, hP.registering r s hready hs⟩

theorem armBreakpoints (hP : Lasting P) :
    Preserves P (Site.armBreakpoints : Act (Site (Recorded ε)) (List Breakpoint)) where
  grows := grows_armBreakpoints
  keeps s hready hs hclean := by
    have hset (replies : List Json) := (hP.settingUp (ε := ε) replies).grows
    have hwait (ids : List Nat) : Grows (Site.awaitArming ids >>= fun replies =>
        Site.settingUp replies : Act (Site (Recorded ε)) (List Breakpoint)) :=
      .bind (grows_awaitArming ids) hset
    rw [armBreakpoints_eq, Act.exec_bind_ok (exec_look s)] at hclean ⊢
    refine (hP.submitArming _).bind_of hwait hready hs hclean
      fun ids s₁ hr hready₁ hs₁ hclean₁ => ?_
    have hclean₂ :=
      hclean₁.of_prefix (Grows.conversation_bind (grows_awaitArming ids) hset hready₁.sane)
    have howns := owns_submitArming _ hready hr
      (hclean₂.of_prefix (grows_awaitArming ids s₁ hready₁.sane).2)
    obtain ⟨hready₂, hs₂⟩ := hP.awaitArming ids hready₁ hs₁ howns hclean₂
    rw [Act.exec_bind] at hclean₁ ⊢
    generalize (Site.awaitArming ids).exec s₁ = r at hclean₁ hready₂ hs₂
    obtain ⟨r, s₂⟩ := r
    cases r with
    | error f => exact ⟨hready₂, hs₂⟩
    | ok replies => exact (hP.settingUp replies).keeps s₂ hready₂ hs₂ hclean₁

/-- All that a start does on a connection. -/
theorem enabling (hP : Lasting P) : Preserves P (Site.enabling : Act (Site (Recorded ε)) Unit) :=
  .bind (hP.command (by decide) _) fun _ => .bind (hP.command (by decide) _) fun _ =>
    .bind hP.armBreakpoints fun _ => .of_snd_eq fun _ => rfl

/-! The other tasks. -/

theorem addBreakpoint (hP : Lasting P) (url line : Json) :
    Preserves P (Site.addBreakpoint url line : Act (Site (Recorded ε)) (Option Breakpoint)) := by
  refine .bind (.of_snd_eq fun _ => rfl) fun n => .bind (.of_snd_eq fun _ => rfl) fun b =>
    .bind (.of_snd_eq fun _ => rfl) fun added => .bind (hP.registry fun _ => ⟨_, rfl⟩) fun _ => ?_
  cases added.1.items[added.2]? with
  | none => exact .of_snd_eq fun _ => rfl
  | some bp =>
    refine .bind (.of_snd_eq fun _ => rfl) fun b' => ?_
    dsimp only
    split
    · exact .bind (hP.command (by decide) _) fun _ => .bind (.of_snd_eq fun _ => rfl)
        fun _ => .bind (hP.registry fun _ => ⟨_, rfl⟩) fun _ => .of_snd_eq fun _ => rfl
    · exact .of_snd_eq fun _ => rfl

theorem removeBreakpoint (hP : Lasting P) (url line : Json) :
    Preserves P (Site.removeBreakpoint url line : Act (Site (Recorded ε)) Bool) := by
  rw [removeBreakpoint_eq]
  refine .bind (.of_snd_eq fun _ => rfl) fun n => .bind (.of_snd_eq fun _ => rfl) fun b =>
    .bind (.of_snd_eq fun _ => rfl) fun found => ?_
  have hforget : Preserves P (forgetting url n : Act (Site (Recorded ε)) Bool) :=
    .bind (.of_snd_eq fun _ => rfl) fun _ => .bind (.of_snd_eq fun _ => rfl) fun _ =>
      .bind (hP.registry fun _ => ⟨_, rfl⟩) fun _ => .of_snd_eq fun _ => rfl
  cases found with
  | none => exact .of_snd_eq fun _ => rfl
  | some bp =>
    dsimp only
    unfold disarmingIf
    split
    · exact .bind (hP.command (by decide) _) fun _ => hforget
    · exact hforget

theorem running (hP : Lasting P) {method : Json} (hmethod : method ≠ "Debugger.getScriptSource")
    (params : Json) : Preserves P (do
      update Bridge.leavePause
      let _ ← onLink (Wire.notify method params) : Act (Site (Recorded ε)) Unit) := by
  refine .bind (.update (fun _ => rfl) (fun _ => rfl) hP.left) fun _ => .bind ⟨?_, ?_⟩ fun _ =>
    .of_snd_eq fun _ => rfl
  · exact .onLink fun _ hplain => Wire.steps_notify _ _ hplain
  · exact fun s hready hs hclean => ⟨ready_posted hready (fun k _ => hready.notifying k _)
      (posted_notify method params hready hclean), hP.notify method params s hmethod hready hs hclean⟩

/-- **Every task but a start or a stop keeps what lasts.** -/
theorem act (hP : Lasting P) (task : Task ε) (hstart : task ≠ .start) (hstop : task ≠ .stop) :
    Preserves P task.act := by
  cases task with
  | start => exact absurd rfl hstart
  | stop => exact absurd rfl hstop
  | resume => exact hP.running (by decide) _
  | stepOver => exact hP.running (by decide) _
  | evaluate expression =>
    exact .bind (.bind (.of_snd_eq fun _ => rfl) fun _ => .bind (.of_snd_eq fun _ => rfl) fun _ =>
      hP.command (by decide) _) fun _ => .of_snd_eq fun _ => rfl
  | properties objectId =>
    exact .bind (.bind (hP.command (by decide) _) fun _ => .of_snd_eq fun _ => rfl) fun _ =>
      .of_snd_eq fun _ => rfl
  | add url line => exact .bind (hP.addBreakpoint url line) fun _ => .of_snd_eq fun _ => rfl
  | remove url line => exact .bind (hP.removeBreakpoint url line) fun _ => .of_snd_eq fun _ => rfl
  | arm => exact .bind hP.armBreakpoints fun _ => .of_snd_eq fun _ => rfl
  | pump => exact hP.preserves_pump
  | stir f =>
    exact ⟨fun s hsane => ⟨⟨hsane.tame, hsane.plain⟩, List.prefix_refl _⟩,
      fun s hready hs _ => ⟨⟨hready.tame, hready.bare⟩, hP.stirring f s hready hs⟩⟩

end Lasting

/-! ## §4. Stopping and starting. -/

/-- The property is kept by the pieces of a stop as well. -/
structure Abiding (P : Site (Recorded ε) → Prop) : Prop extends Lasting P where
  close : ∀ s, s.Ready → P s → Uninterrupted ((onLink Wire.close).exec s).2.conversation →
    P ((onLink Wire.close).exec s).2
  stopping : ∀ s, s.Ready → P s → P { s with bridge := { s.bridge with stopped := true } }
  closing : ∀ s, s.Ready → P s → P { s with bridge := { s.bridge with status := .closed } }

theorem ready_close (hready : s.Ready)
    (hclean : Uninterrupted ((onLink Wire.close).exec s).2.conversation) :
    ((onLink Wire.close : Act (Site (Recorded ε)) Unit).exec s).2.Ready := by
  have hshut := shut_close hready hclean
  have hshutting : s.shutting.Ready := ⟨hready.tame, hready.bare.shut⟩
  generalize (onLink Wire.close).exec s = r at hshut
  cases hshut with
  | gone hsocket haside => exact (hshutting.gone _).aside haside
  | idle hsocket =>
    refine ⟨hready.tame, ?_⟩
    have hidle := hready.bare.shut.refused hsocket
    show ({ s.bridge.link with shutdown := true, status := .disconnected } : Link).silenced.Bare
    rw [hidle.silenced]
    exact hidle

namespace Abiding

theorem stop (hP : Abiding P) : Preserves P (Site.stop : Act (Site (Recorded ε)) Unit) := by
  refine .bind (.update (fun _ => rfl) (fun _ => rfl) hP.stopping) fun _ => .bind ⟨?_, ?_⟩ fun _ =>
    .update (fun _ => rfl) (fun _ => rfl) hP.closing
  · exact .onLink fun w hplain => Wire.stepping_close.steps w hplain
  · exact fun s hready hs hclean => ⟨ready_close hready hclean, hP.close s hready hs hclean⟩

theorem act (hP : Abiding P) (task : Task ε) (hstart : task ≠ .start) : Preserves P task.act := by
  by_cases hstop : task = .stop
  · subst hstop
    exact hP.stop
  · exact hP.toLasting.act task hstart hstop

end Abiding

/-- The property is kept by the pieces of a start as well. -/
structure Enduring (P : Site (Recorded ε) → Prop) : Prop extends Abiding P where
  connect : ∀ s, s.Ready → P s → Uninterrupted ((onLink Wire.connect).exec s).2.conversation →
    P ((onLink Wire.connect).exec s).2
  renewed : ∀ s, s.Ready → P s → P s.renewed
  settled : ∀ status s, s.Ready → P s → P { s with bridge := { s.bridge with status := status } }

/-- What is done before the breakpoints are armed, once a bridge is started. -/
def preparing : Act (Site ε) Json := do
  onLink Wire.connect
  let _ ← command "Debugger.enable" (.obj [])
  command "Runtime.enable" (.obj [])

theorem ready_connect (hready : s.Ready)
    (hclean : Uninterrupted ((onLink Wire.connect).exec s).2.conversation) :
    ((onLink Wire.connect : Act (Site (Recorded ε)) Unit).exec s).2.Ready := by
  have hjoined := joined_connect hready hclean
  generalize (onLink Wire.connect).exec s = r at hjoined
  cases hjoined with
  | already hsocket => exact hready
  | shut m hsocket hshut => exact hready
  | opened hsocket hopen hdial haside => exact (hready.opening _).aside haside
  | refused m hsocket hopen => exact hready.turnedAway hsocket

namespace Enduring

theorem connecting (hP : Enduring P) :
    Preserves P (onLink Wire.connect : Act (Site (Recorded ε)) Unit) where
  grows := grows_connect
  keeps s hready hs hclean := ⟨ready_connect hready hclean, hP.connect s hready hs hclean⟩

theorem preparing (hP : Enduring P) : Preserves P (Site.preparing : Act (Site (Recorded ε)) Json) :=
  .bind hP.connecting fun _ => .bind (hP.command (by decide) _) fun _ => hP.command (by decide) _

theorem establish (hP : Enduring P) :
    Preserves P (Site.establish : Act (Site (Recorded ε)) Unit) := by
  rw [establish_eq]
  exact .bind hP.connecting fun _ => hP.enabling

theorem start (hP : Enduring P) : Preserves P (Site.start : Act (Site (Recorded ε)) Unit) where
  grows := grows_start
  keeps s hready hs hclean := by
    rw [exec_start] at hclean ⊢
    by_cases hstopped : s.bridge.stopped
    · rw [if_pos hstopped]
      exact ⟨hready, hs⟩
    rw [if_neg hstopped, exec_settlingOn] at hclean ⊢
    have hrenewed : s.renewed.Ready := ⟨hready.tame, hready.bare⟩
    obtain ⟨hready', hs'⟩ := hP.establish.keeps s.renewed hrenewed (hP.renewed s hready hs) hclean
    exact ⟨⟨hready'.tame, hready'.bare⟩, hP.settled _ _ hready' hs'⟩

theorem act (hP : Enduring P) (task : Task ε) : Preserves P task.act := by
  by_cases hstart : task = .start
  · subst hstart
    exact hP.start
  · exact hP.toAbiding.act task hstart

end Enduring

/-- **What every piece keeps, every run keeps.** -/
theorem preserved_afterTasks (tasks : List (Task ε)) :
    ∀ s : Site (Recorded ε), (∀ task ∈ tasks, Preserves P task.act) → s.Ready → P s →
      Uninterrupted (s.afterTasks tasks).conversation →
        (s.afterTasks tasks).Ready ∧ P (s.afterTasks tasks) := by
  induction tasks with
  | nil => exact fun _ _ hready hs _ => ⟨hready, hs⟩
  | cons task rest ih =>
    intro s hacts hready hs hclean
    have hact := hacts task (List.mem_cons_self ..)
    have hbegin := grows_afterTasks rest _ (hact.grows s hready.sane).1
    obtain ⟨hready', hs'⟩ := hact.keeps s hready hs (hclean.of_prefix hbegin)
    exact ih _ (fun t ht => hacts t (List.mem_cons_of_mem _ ht)) hready' hs' hclean

/-- A ready site asks for no property more. -/
theorem enduring_true : Enduring (fun _ : Site (Recorded ε) => True) where
  pump _ _ _ _ := trivial
  submit _ _ _ _ _ _ _ := trivial
  notify _ _ _ _ _ _ _ := trivial
  dropping _ _ _ _ _ _ _ := trivial
  close _ _ _ _ := trivial
  left _ _ _ := trivial
  registering _ _ _ _ := trivial
  stopping _ _ _ := trivial
  closing _ _ _ := trivial
  stirring _ _ _ _ := trivial
  connect _ _ _ _ := trivial
  renewed _ _ _ := trivial
  settled _ _ _ _ := trivial

end Site
end FlowTrace
