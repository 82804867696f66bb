/-
  FlowTrace.Proofs.Bridge.Arming
  ────────────────────────────────
  **TO EACH BREAKPOINT ITS OWN ID.**

  The breakpoints of a registry are armed in one go: a command for each is sent, then
  the replies are waited for, and then the ids are given out.

      sending    — one command a breakpoint, in order, before anything is read
      waiting    — the reply to a command is the first response with its number
      giving     — each breakpoint gets the id in the reply to its own command

  So the order in which the replies come, what comes between them and what is said twice
  does not matter.  Where the link fails on the way no id has changed.
-/
import FlowTrace.Proofs.Bridge.Lasting
import FlowTrace.Proofs.Link.Reply

namespace FlowTrace

/-- The command that was sent, if one was. -/
def Exchange.envelope? : Exchange → Option Envelope
  | .sent _ e _ => some e
  | _ => none

/-- The id that a response brings to a breakpoint: null if it is an error or names none. -/
def repliedId (m : Record) : Json :=
  match Json.field m "error" with
  | .obj _ => .null
  | _ => grantedId (Json.field m "result").orObject

/-- The response is an error, or its result is an object or counts as none. -/
def WellReplied (m : Record) : Prop :=
  (∃ error, Json.field m "error" = .obj error) ∨
    ∃ fields, (Json.field m "result").orObject = .obj fields

/-- The id that a reply grants is the one that its response brings. -/
theorem grantedId_reply (method : Json) (m : Record) :
    grantedId ((Link.replyOutcome method m).toOption.getD .null) = repliedId m := by
  unfold Link.replyOutcome repliedId
  cases Json.field m "error" <;> rfl

/-- A well-formed response brings a reply that can be read. -/
theorem WellReplied.reads {m : Record} (h : WellReplied m) {method reply : Json}
    (hreply : reply = (Link.replyOutcome method m).toOption.getD .null) :
    reply = .null ∨ ∃ fields, reply = .obj fields := by
  unfold Link.replyOutcome at hreply
  subst hreply
  cases herror : Json.field m "error" with
  | obj error => exact .inl rfl
  | _ =>
    rcases h with ⟨error, hobj⟩ | hresult
    · cases herror.symm.trans hobj
    · exact .inr hresult

namespace Site

variable {ε : Type} {s s' : Site (Recorded ε)} {c : List Exchange} {method : Json} {id : Nat}

/-! ## §1. How a command fares. -/

/-- How a command has fared by what was said since some point. -/
def FaresSince (c : List Exchange) (method : Json) (id : Nat) (s : Site (Recorded ε)) : Prop :=
  ∃ xs, s.conversation = c ++ xs ∧ Fares method id s.bridge.link (firstReply? xs id)

/-- Nothing was said, and the link has lost nothing. -/
theorem FaresSince.of_link (h : FaresSince c method id s)
    (hconversation : s'.conversation = s.conversation)
    (hpending : s.bridge.link.pending ⊆ s'.bridge.link.pending)
    (houtcomes : s'.bridge.link.outcomes = s.bridge.link.outcomes)
    (hsocket : s.bridge.link.socket = none → s'.bridge.link.socket = none) :
    FaresSince c method id s' := by
  obtain ⟨xs, hxs, hfares⟩ := h
  exact ⟨xs, hconversation.trans hxs, hfares.of_link hpending houtcomes hsocket⟩

/-- Something was said that is no response. -/
theorem FaresSince.of_said (h : FaresSince c method id s) {x : Exchange}
    (hconversation : s'.conversation = s.conversation ++ [x]) (hx : x.response? = none)
    (hfares : ∀ first, Fares method id s.bridge.link first → Fares method id s'.bridge.link first) :
    FaresSince c method id s' := by
  obtain ⟨xs, hxs, hbefore⟩ := h
  refine ⟨xs ++ [x], by rw [hconversation, hxs, List.append_assoc], ?_⟩
  have hnone : firstReply? [x] id = none := firstReply?_eq_none fun y hy => by
    obtain rfl := List.mem_singleton.mp hy
    exact hx
  rw [firstReply?_append, hnone, Option.or_none]
  exact hfares _ hbefore

variable [Endpoint ε]

theorem FaresSince.putting (h : FaresSince c method id s) (k : Nat) (awaited : Option Pending)
    (e : Envelope) : FaresSince c method id (s.putting k awaited e) := by
  refine h.of_said (conversation_putting s k awaited e) rfl fun first hfares => ?_
  cases awaited with
  | none => exact hfares.of_link (fun _ hp => hp) rfl fun hnone => hnone
  | some p => exact hfares.of_link (fun _ hp => List.mem_append_left _ hp) rfl fun hnone => hnone

/-- **A step of reading settles the command by its first reply**, and nothing else does but
the loss of the connection. -/
theorem Step.fares (step : Step s s') (hready : s.Ready) (h : FaresSince c method id s) :
    FaresSince c method id s' := by
  cases step with
  | aside haside =>
    refine h.of_link (congrArg Network.conversation haside.network) ?_ ?_ ?_ <;>
      simp only [haside.link, List.Subset.refl, imp_self]
  | nothing hsocket hnone =>
    exact h.of_link (conversation_reading_none hnone) (fun _ hp => hp) rfl fun h => h
  | ignored d hsocket hframe hno =>
    refine h.of_said (conversation_reading_some hframe)
      (Exchange.response?_none fun m hm hresponse => ?_)
      fun first hfares => hfares.of_link (fun _ hp => hp) rfl fun h => h
    cases (hno m hm).2.symm.trans hresponse.2
  | @answered k frame m hsocket hframe hfields hresponse =>
    -- the one step that reads a response, which may be the first one to the command
    obtain ⟨xs, hxs, hfares⟩ := h
    have hconversation : (s.reading k).conversation = s.conversation ++ [.received k frame] :=
      conversation_reading_some hframe
    refine ⟨xs ++ [.received k frame], ?_, ?_⟩
    · show (s.reading k).conversation = _
      rw [hconversation, hxs, List.append_assoc]
    · rw [firstReply?_append, firstReply?_singleton (Exchange.response?_some hfields hresponse)]
      exact (hfares.answer hready.bare.numbered hsocket m).of_link (fun _ hp => hp) rfl fun h => h
  | @heard k frame m hsocket hframe hfields hmethod =>
    refine h.of_said (conversation_reading_some hframe)
      (Exchange.response?_none fun m' hm hresponse => ?_) fun first hfares => ?_
    · cases hfields.symm.trans hm
      cases hmethod.symm.trans hresponse.1
    · show Fares method id ((s.reading k).bridge.hear m).link first
      rw [Bridge.hear_link]
      exact hfares.of_link (fun _ hp => hp) rfl fun h => h
  | numbered => exact h.of_link rfl (fun _ hp => hp) rfl fun h => h
  | released hsocket hopen hpaused he => exact h.putting _ _ _
  | fetched hsocket hopen hid hp he => exact h.putting _ _ _
  | lost hsocket =>
    exact h.of_said (conversation_gone s _) rfl fun first hfares => hfares.gone

theorem Steps.fares (steps : Steps s s') (hready : s.Ready) (h : FaresSince c method id s) :
    FaresSince c method id s' := by
  induction steps with
  | refl => exact h
  | tail before step ih => exact step.fares (Steps.ready before hready) ih

omit [Endpoint ε] in
/-- A command that ends with anything but the loss of the connection has a first reply, and
ends as that says. -/
theorem FaresSince.replied (h : FaresSince c method id s) {xs : List Exchange}
    (hxs : s.conversation = c ++ xs) {r : Outcome} (hout : s.bridge.link.outcome? id = some r)
    (hne : r ≠ lostOutcome) :
    ∃ m, firstReply? xs id = some m ∧ r = Link.replyOutcome method m := by
  obtain ⟨ys, hys, hfares⟩ := h
  obtain rfl := List.append_cancel_left (hxs.symm.trans hys)
  exact hfares.exists_reply hout hne

/-! ## §2. Sending. -/

/-- The commands that arm breakpoints, numbered from `n`. -/
def armEnvelopes (n : Nat) (bps : List Breakpoint) : List Envelope :=
  bps.mapIdx (fun i bp => armEnvelope (n + i) bp)

omit [Endpoint ε] in
theorem armEnvelopes_cons (n : Nat) (bp : Breakpoint) (rest : List Breakpoint) :
    armEnvelopes n (bp :: rest) = armEnvelope n bp :: armEnvelopes (n + 1) rest := by
  unfold armEnvelopes
  rw [List.mapIdx_cons]
  simp only [Nat.add_zero, Nat.add_assoc, Nat.add_comm 1]

/-- What comes of sending a command to arm for each breakpoint: all of them are sent, or the
first ones until there is no connection. -/
inductive Dispatched (s : Site (Recorded ε)) (bps : List Breakpoint) :
    Except Fault (List Nat) × Site (Recorded ε) → Prop
  | all {s' : Site (Recorded ε)} (sends : List Exchange) (hready : s'.Ready)
      (hsaid : s'.conversation = s.conversation ++ sends)
      (hsends : sends.map Exchange.envelope? = (armEnvelopes s.bridge.link.nextId bps).map some)
      (houtline : s'.bridge.registry.outline = s.bridge.registry.outline)
      (hkept : ∀ {c method id}, FaresSince c method id s → FaresSince c method id s')
      (hwaits : ∀ i < bps.length,
        FaresSince s.conversation armMethod (s.bridge.link.nextId + i) s') :
      Dispatched s bps (.ok (List.range' s.bridge.link.nextId bps.length), s')
  | cut {s' : Site (Recorded ε)} (sends closes : List Exchange) (n : Nat) (m : String)
      (hready : s'.Ready) (hsaid : s'.conversation = s.conversation ++ (sends ++ closes))
      (hsends : sends.map Exchange.envelope?
        = ((armEnvelopes s.bridge.link.nextId bps).take n).map some)
      (hcloses : ∀ x ∈ closes, ∃ k a, x = .closed k a)
      (houtline : s'.bridge.registry.outline = s.bridge.registry.outline) :
      Dispatched s bps (.error (.link m), s')

/-- After the first command was sent, the others are sent as if they were all. -/
theorem Dispatched.cons (hready : s.Ready) {k : Nat} {bp : Breakpoint} {rest : List Breakpoint}
    {r : Except Fault (List Nat) × Site (Recorded ε)}
    (h : Dispatched (s.putting k (some { id := s.bridge.link.nextId, method := armMethod })
      (armEnvelope s.bridge.link.nextId bp)) rest r) :
    Dispatched s (bp :: rest) (r.1.map (fun ids => s.bridge.link.nextId :: ids), r.2) := by
  let p : Pending := { id := s.bridge.link.nextId, method := armMethod }
  let e := armEnvelope s.bridge.link.nextId bp
  let sent : Exchange := .sent k e (s.network.send k e).1
  -- what is said from now on can only answer the command that was just sent
  have hfirst : FaresSince s.conversation armMethod s.bridge.link.nextId (s.putting k (some p) e) :=
    ⟨[sent], conversation_putting s k (some p) e,
      (Fares.submitted hready.bare.numbered armMethod).of_link (fun _ hp => hp) rfl fun h => h⟩
  have hmore {c xs : List Exchange} (hsaid : c = (s.putting k (some p) e).conversation ++ xs) :
      c = s.conversation ++ sent :: xs := by
    rw [hsaid, conversation_putting, List.append_assoc]
    rfl
  cases h with
  | @all s' sends hready' hsaid hsends houtline hkept hwaits =>
    refine .all (sent :: sends) hready' (hmore hsaid) ?_ houtline
      (fun h => hkept (h.putting k (some p) e)) fun i hi => ?_
    · rw [armEnvelopes_cons, List.map_cons, List.map_cons, hsends]
      rfl
    · cases i with
      | zero => exact hkept hfirst
      | succ i =>
        obtain ⟨xs, hxs, hfares⟩ := hwaits i (by simpa using hi)
        refine ⟨sent :: xs, hmore hxs, ?_⟩
        have hnumber : s.bridge.link.nextId + (i + 1) = s.bridge.link.nextId + 1 + i := by omega
        rw [hnumber]
        exact hfares
  | @cut s' sends closes n m hready' hsaid hsends hcloses houtline =>
    refine .cut (sent :: sends) closes (n + 1) m hready' (hmore hsaid) ?_ hcloses houtline
    rw [armEnvelopes_cons, List.take_succ_cons, List.map_cons, List.map_cons, hsends]
    rfl

theorem dispatched_submitArming (bps : List Breakpoint) : ∀ {s : Site (Recorded ε)}, s.Ready →
    Uninterrupted ((submitArming bps).exec s).2.conversation →
      Dispatched s bps ((submitArming bps).exec s) := by
  -- Induction on the breakpoints that are still to be armed.
  induction bps with
  | nil =>
    intro s hready _
    exact .all [] hready (List.append_nil _).symm rfl rfl (fun h => h)
      fun _ hi => absurd hi (Nat.not_lt_zero _)
  | cons bp rest ih =>
    intro s hready hclean
    have hbefore := hclean.of_prefix (prefix_submitArming hready.sane bp rest)
    have hposted := posted_submit armMethod (armParams bp) hready hbefore
    unfold submitArming at hclean ⊢
    rw [Act.exec_bind] at hclean ⊢
    generalize (onLink (Wire.submit armMethod (armParams bp))).exec s = r at hposted hclean
    cases hposted with
    | refused m hno =>
      exact .cut [] [] 0 m hready.numbered (List.append_nil _).symm rfl (by simp) rfl
    | @lost k s₁ m hsocket hopen haside =>
      refine .cut [.sent k (armEnvelope s.bridge.link.nextId bp) _] [.closed k _] 1 m
        (((hready.putting hsocket).gone _).aside haside)
        (congrArg Network.conversation haside.network |>.trans (List.append_assoc ..)) ?_ ?_ ?_
      · rw [armEnvelopes_cons]
        rfl
      · intro x hx
        obtain rfl := List.mem_singleton.mp hx
        exact ⟨_, _, rfl⟩
      · rw [haside.registry]
        rfl
    | @put k hsocket hopen =>
      dsimp only at hclean ⊢
      rw [Act.exec_bind_snd (fun _ _ => rfl)] at hclean
      have hall := (ih (hready.putting hsocket) hclean).cons hready
      rw [Act.exec_bind]
      generalize (submitArming rest : Act (Site (Recorded ε)) (List Nat)).exec _ = r at hall ⊢
      obtain ⟨f | ids, s'⟩ := r <;> exact hall

/-! ## §3. Waiting. -/

/-- The reply to a command to arm is the result in the first response, null for a refusal. -/
def RepliedBy (xs : List Exchange) (id : Nat) (reply : Json) : Prop :=
  ∃ m, firstReply? xs id = some m ∧ reply = (Link.replyOutcome armMethod m).toOption.getD .null

/-- What was said by then is said in reading. -/
def ReadOn (s s' : Site (Recorded ε)) : Prop :=
  ∃ xs, s'.conversation = s.conversation ++ xs ∧ ∀ x ∈ xs, InReading x

omit [Endpoint ε] in
theorem ReadOn.trans {s'' : Site (Recorded ε)} (h : ReadOn s s') (h' : ReadOn s' s'') :
    ReadOn s s'' := by
  obtain ⟨xs, hxs, hall⟩ := h
  obtain ⟨ys, hys, hmore⟩ := h'
  refine ⟨xs ++ ys, by rw [hys, hxs, List.append_assoc], fun x hx => ?_⟩
  rcases List.mem_append.mp hx with hx | hx
  · exact hall x hx
  · exact hmore x hx

theorem Awaited.readOn {r : Except Fault Json × Site (Recorded ε)} (h : Awaited id method s r) :
    ReadOn s r.2 := by
  cases h with
  | ended steps hout => exact steps.said
  | late steps hnone => exact steps.said

/-- How waiting for a command ends: as the first response to it says, or with a fault of the
link that is no refusal. -/
inductive Concludes (c : List Exchange) (method : Json) (id : Nat) (s : Site (Recorded ε)) :
    Except Fault Json × Site (Recorded ε) → Prop
  | replied {s' : Site (Recorded ε)} {xs : List Exchange} {m : Record} (steps : Steps s s')
      (hsaid : s'.conversation = c ++ xs) (hfirst : firstReply? xs id = some m) :
      Concludes c method id s (Link.replyOutcome method m, s')
  | failed {f : Fault} {s' : Site (Recorded ε)} (hlink : f.isLink = true)
      (hother : ∀ m code data t, f ≠ .refused m code data t) :
      Concludes c method id s (.error f, s')

theorem Awaited.concludes {r : Except Fault Json × Site (Recorded ε)} (h : Awaited id method s r)
    (hready : s.Ready) (hfares : FaresSince c method id s) : Concludes c method id s r := by
  cases h with
  | late steps hnone => exact .failed rfl fun _ _ _ _ h => nomatch h
  | @ended s' outcome steps hout =>
    by_cases hlost : outcome = lostOutcome
    · subst hlost
      exact .failed rfl fun _ _ _ _ h => nomatch h
    · have hafter : FaresSince c method id s' := steps.fares hready hfares
      have hafter' := hafter
      obtain ⟨xs, hxs, _⟩ := hafter'
      obtain ⟨m, hm, rfl⟩ := hafter.replied hxs hout hlost
      exact .replied steps hxs hm

omit [Endpoint ε] in
/-- A response to a command to arm is taken for a reply, null if it is an error. -/
theorem exec_armingReply_replied (m : Record) (s : Site (Recorded ε)) :
    (armingReply (Link.replyOutcome armMethod m)).exec s
      = (.ok ((Link.replyOutcome armMethod m).toOption.getD .null), s) := by
  rcases armingReply_cases (Link.replyOutcome armMethod m) s with
    ⟨reply, rfl, hexec⟩ | ⟨f, hf, hother, _⟩
  · exact hexec
  · obtain ⟨m', code, data, t, rfl⟩ := Link.replyOutcome_refused hf
    exact absurd rfl (hother _ _ _ _)

omit [Endpoint ε] in
theorem exec_armingReply_failed {f : Fault} (h : ∀ m code data t, f ≠ .refused m code data t)
    (s : Site (Recorded ε)) :
    (armingReply (.error f)).exec s = (.error f, s) := by
  cases f with
  | refused m code data t => exact absurd rfl (h m code data t)
  | _ => rfl

/-- What comes of waiting for commands to arm. -/
inductive Collected (c : List Exchange) (s : Site (Recorded ε)) (ids : List Nat) :
    Except Fault (List Json) × Site (Recorded ε) → Prop
  | replied {replies : List Json} {s' : Site (Recorded ε)} {xs : List Exchange}
      (hread : ReadOn s s') (houtline : s'.bridge.registry.outline = s.bridge.registry.outline)
      (hsaid : s'.conversation = c ++ xs) (hreplies : List.Forall₂ (RepliedBy xs) ids replies) :
      Collected c s ids (.ok replies, s')
  | failed {f : Fault} {s' : Site (Recorded ε)} (hread : ReadOn s s')
      (houtline : s'.bridge.registry.outline = s.bridge.registry.outline)
      (hlink : f.isLink = true) : Collected c s ids (.error f, s')

theorem collected_awaitArming (ids : List Nat) : ∀ {s : Site (Recorded ε)} {xs : List Exchange},
    s.Ready → s.conversation = c ++ xs → (∀ id ∈ ids, FaresSince c armMethod id s) →
      Uninterrupted ((awaitArming ids).exec s).2.conversation →
        Collected c s ids ((awaitArming ids).exec s) := by
  -- Induction on the commands that are still to be waited for.
  induction ids with
  | nil =>
    intro s xs _ hsaid _ _
    exact .replied ⟨[], (List.append_nil _).symm, fun _ hx => nomatch hx⟩ rfl hsaid .nil
  | cons id rest ih =>
    intro s xs hready _ hfares hclean
    have hbefore := hclean.of_prefix (prefix_awaitArming hready.sane id rest)
    rw [awaitArming_cons] at hclean ⊢
    have hawaited := awaited_await id armMethod hready hbefore
    have hread := hawaited.readOn
    have houtline := hawaited.onward.outline
    have hready' := hawaited.ready hready
    have hconcludes := hawaited.concludes hready (hfares id (List.mem_cons_self ..))
    rw [Act.exec_bind_ok (Act.exec_attempt _ _)] at hclean ⊢
    generalize (await id armMethod).exec s = r at hclean hread houtline hready' hconcludes
    cases hconcludes with
    | @failed f s' hlink hother =>
      rw [Act.exec_bind_error (exec_armingReply_failed hother s')]
      exact .failed hread houtline hlink
    | @replied s' xs m steps hsaid hfirst =>
      have hexec := exec_armingReply_replied m s'
      dsimp only at hclean ⊢
      rw [Act.exec_bind_ok hexec, Act.exec_bind_snd (fun _ _ => rfl)] at hclean
      rw [Act.exec_bind_ok hexec, Act.exec_bind]
      have hrest := ih hready' hsaid
        (fun other hin => steps.fares hready (hfares other (List.mem_cons_of_mem _ hin))) hclean
      dsimp only at hrest hread houtline
      generalize (awaitArming rest).exec s' = r at hrest
      cases hrest with
      | failed hread' houtline' hlink =>
        exact .failed (hread.trans hread') (houtline'.trans houtline) hlink
      | @replied replies s'' ys hread' houtline' hsaid' hreplies =>
        refine .replied (hread.trans hread') (houtline'.trans houtline) hsaid' (.cons ?_ hreplies)
        -- what was the first response stays it
        obtain ⟨more, hmore, _⟩ := hread'
        refine ⟨m, firstReply?_of_prefix hfirst ⟨more, ?_⟩, rfl⟩
        rw [hsaid, hsaid', List.append_assoc] at hmore
        exact (List.append_cancel_left hmore).symm

/-! ## §4. Giving the ids out. -/

section GivingOut
omit [Endpoint ε]

/-- An id that can be read off a reply is the one that it grants. -/
theorem replyId_eq_ok {reply i : Json} (h : replyId reply = .ok i) : i = grantedId reply := by
  unfold replyId at h
  cases reply with
  | obj fields =>
    cases fields with
    | nil => exact (Except.ok.inj h).symm
    | cons f rest => exact (Except.ok.inj h).symm
  | _ =>
    split at h
    · cases h
    · exact (Except.ok.inj h).symm

theorem replyId_error {reply : Json} {f : Fault} (h : replyId reply = .error f) :
    f.isLink = false ∧ reply ≠ .null ∧ ∀ fields, reply ≠ .obj fields := by
  unfold replyId at h
  cases reply with
  | null => cases h
  | obj fields =>
    cases fields with
    | nil => cases h
    | cons f rest => cases h
  | _ =>
    split at h
    · cases h
      exact ⟨rfl, nofun, nofun⟩
    · cases h

/-- The breakpoint with the id that a reply grants, if there is a reply. -/
def granted (reply? : Option Json) (bp : Breakpoint) : Breakpoint :=
  match reply? with
  | some reply => { bp with id := grantedId reply }
  | none => bp

/-- Giving ids out gives each breakpoint from index `i` on the id that its reply grants. -/
theorem exec_assignIds_ok (replies : List Json) : ∀ {i : Nat} {s s' : Site ε},
    (assignIds i replies).exec s = (.ok (), s') → ∀ j, s'.bridge.registry.items[j]?
      = (s.bridge.registry.items[j]?).map
          (fun bp => if j < i then bp else granted replies[j - i]? bp) := by
  induction replies with
  | nil =>
    intro i s s' h j
    cases h
    simp [granted]
  | cons reply rest ih =>
    intro i s s' h j
    unfold assignIds at h
    rw [exec_ofExcept_bind] at h
    cases hid : replyId reply with
    | error f =>
      rw [hid] at h
      cases h
    | ok id =>
      rw [hid] at h
      obtain rfl := replyId_eq_ok hid
      rw [ih (s := s.registering (s.bridge.registry.modify i
        (fun bp => { bp with id := grantedId reply }))) h j]
      show ((s.bridge.registry.items.modify i _)[j]?).map _ = _
      rw [List.getElem?_modify]
      cases s.bridge.registry.items[j]? with
      | none => rfl
      | some bp =>
        -- in front of the place, at it, or behind it where the other replies are given out
        rcases Nat.lt_trichotomy j i with hlt | rfl | hgt
        · have hne : i ≠ j := by omega
          simp [hlt, hne, Nat.lt_succ_of_lt hlt]
        · simp [granted]
        · obtain ⟨d, rfl⟩ := Nat.exists_eq_add_of_lt hgt
          have hne : i ≠ i + d + 1 := by omega
          have hrest : i + d + 1 - (i + 1) = d := by omega
          have hall : i + d + 1 - i = d + 1 := by omega
          have hafter : ¬ i + d + 1 < i + 1 := by omega
          have hafter' : ¬ i + d + 1 < i := by omega
          simp only [Option.map_eq_map, Option.map_some, hne, if_false, hrest, hall, hafter,
            hafter', List.getElem?_cons_succ]

theorem exec_assignIds_zero {replies : List Json} {s s' : Site ε}
    (h : (assignIds 0 replies).exec s = (.ok (), s')) : s'.bridge.registry.items
      = s.bridge.registry.items.mapIdx (fun j bp => granted replies[j]? bp) := by
  apply List.ext_getElem?
  intro j
  rw [exec_assignIds_ok replies h j, List.getElem?_mapIdx]
  simp

/-- Giving ids out fails only at a reply that can not be read, and never for the link. -/
theorem exec_assignIds_error (replies : List Json) : ∀ {i : Nat} {s s' : Site ε} {f : Fault},
    (assignIds i replies).exec s = (.error f, s') →
      f.isLink = false ∧ ∃ reply ∈ replies, reply ≠ .null ∧ ∀ fields, reply ≠ .obj fields := by
  induction replies with
  | nil => exact fun h => nomatch h
  | cons reply rest ih =>
    intro i s s' f h
    unfold assignIds at h
    rw [exec_ofExcept_bind] at h
    cases hid : replyId reply with
    | error g =>
      rw [hid] at h
      cases h
      obtain ⟨hlink, hnull, hobj⟩ := replyId_error hid
      exact ⟨hlink, reply, List.mem_cons_self .., hnull, hobj⟩
    | ok id =>
      rw [hid] at h
      obtain ⟨hlink, other, hin, hother⟩ := ih h
      exact ⟨hlink, other, List.mem_cons_of_mem _ hin, hother⟩

end GivingOut

/-! ## §5. Arming. -/

section Result
omit [Endpoint ε]

/-- What was said from one state to a later one. -/
def since (s s' : Site (Recorded ε)) : List Exchange :=
  s'.conversation.drop s.conversation.length

theorem since_eq {xs : List Exchange} (h : s'.conversation = s.conversation ++ xs) :
    since s s' = xs := by
  unfold since
  rw [h, List.drop_left]

/-- The commands that arm the breakpoints of the registry. -/
def commands (s : Site (Recorded ε)) : List Envelope :=
  armEnvelopes s.bridge.link.nextId s.bridge.registry.items

/-- All commands are sent, in the order of the registry, before anything is read; or the first
ones, and then the link has failed. -/
def SendsInOrder (s : Site (Recorded ε))
    (r : Except Fault (List Breakpoint) × Site (Recorded ε)) : Prop :=
  ∃ sends rest, since s r.2 = sends ++ rest ∧
    ((sends.map Exchange.envelope? = s.commands.map some ∧ ∀ x ∈ rest, InReading x) ∨
      ((∃ n, sends.map Exchange.envelope? = (s.commands.take n).map some) ∧
        (∀ x ∈ rest, ∃ k a, x = .closed k a) ∧ ∃ m, r.1 = .error (.link m)))

/-- What arming the breakpoints of a registry comes to. -/
structure Arms (s : Site (Recorded ε)) (r : Except Fault (List Breakpoint) × Site (Recorded ε)) :
    Prop where
  sends : SendsInOrder s r
  returns : ∀ bps, r.1 = .ok bps →
    bps = r.2.bridge.registry.items ∧ bps.length = s.bridge.registry.items.length
  /-- Each breakpoint has the id that the first response to its own command brings. -/
  grants : ∀ bps, r.1 = .ok bps → ∀ i bp, s.bridge.registry.items[i]? = some bp →
    ∃ m, firstReply? (since s r.2) (s.bridge.link.nextId + i) = some m ∧
      r.2.bridge.registry.outline[i]? = some { id := repliedId m, url := bp.url, line := bp.line }
  /-- A link that fails leaves every id as it was. -/
  keeps : ∀ f, r.1 = .error f → f.isLink = true →
    r.2.bridge.registry.outline = s.bridge.registry.outline
  /-- Nothing but the link fails if the responses are well formed. -/
  fails : (∀ i < s.bridge.registry.items.length, ∀ m,
      firstReply? (since s r.2) (s.bridge.link.nextId + i) = some m → WellReplied m) →
    ∀ f, r.1 = .error f → f.isLink = true

/-- Arming that fails with the link has changed no id. -/
theorem Arms.of_failed {f : Fault} {s' : Site (Recorded ε)} (hsends : SendsInOrder s (.error f, s'))
    (houtline : s'.bridge.registry.outline = s.bridge.registry.outline) (hlink : f.isLink = true) :
    Arms s (.error f, s') where
  sends := hsends
  returns := nofun
  grants := nofun
  keeps _ _ _ := houtline
  fails _ g hg := by
    cases hg
    exact hlink

/-- Each of the replies to commands in a row is in the first response to its own one. -/
theorem repliedBy_range' {xs : List Exchange} {n k : Nat} {replies : List Json}
    (h : List.Forall₂ (RepliedBy xs) (List.range' n k) replies) :
    replies.length = k ∧
      ∀ i < k, ∃ reply, replies[i]? = some reply ∧ RepliedBy xs (n + i) reply := by
  have hlength : k = replies.length := by simpa using h.length_eq
  refine ⟨hlength.symm, fun i hi => ?_⟩
  have hreply : i < replies.length := by omega
  refine ⟨replies[i], List.getElem?_eq_getElem hreply, ?_⟩
  have hget := h.get (by simpa using hi) hreply
  simpa using hget

theorem exec_settingUp (replies : List Json) (s : Site ε) :
    (settingUp replies).exec s = match (assignIds 0 replies).exec s with
      | (.ok _, s') => (.ok s'.bridge.registry.items, s')
      | (.error f, s') => (.error f, s') := by
  unfold settingUp
  rw [Act.exec_bind]
  cases (assignIds 0 replies).exec s with
  | mk r s' => cases r <;> rfl

/-- A reply that cannot be read is in a response that is not well formed. -/
theorem exists_illReplied {xs : List Exchange} {n k : Nat} {replies : List Json}
    (h : List.Forall₂ (RepliedBy xs) (List.range' n k) replies) {reply : Json}
    (hin : reply ∈ replies) (hnull : reply ≠ .null) (hobj : ∀ fields, reply ≠ .obj fields) :
    ∃ i < k, ∃ m, firstReply? xs (n + i) = some m ∧ ¬ WellReplied m := by
  obtain ⟨hlength, hreplied⟩ := repliedBy_range' h
  obtain ⟨i, hi, hget⟩ := List.getElem_of_mem hin
  obtain ⟨reply', hreply', m, hm, hval⟩ := hreplied i (by omega)
  obtain rfl : reply = reply' := by
    rw [List.getElem?_eq_getElem hi, hget] at hreply'
    exact Option.some.inj hreply'
  refine ⟨i, by omega, m, hm, fun hwell => ?_⟩
  rcases hwell.reads hval with hreads | ⟨fields, hreads⟩
  · exact hnull hreads
  · exact hobj fields hreads

/-- A breakpoint keeps its place, and gets the id that its reply grants. -/
theorem outline_of_assigned {s₂ s₃ : Site ε} {replies : List Json}
    (h : (assignIds 0 replies).exec s₂ = (.ok (), s₃)) {i : Nat} {a : Armed} {reply : Json}
    (hat : s₂.bridge.registry.outline[i]? = some a) (hreply : replies[i]? = some reply) :
    s₃.bridge.registry.outline[i]? = some { a with id := grantedId reply } := by
  obtain ⟨bp, hbp, rfl⟩ := BreakpointRegistry.item_of_outline hat
  rw [BreakpointRegistry.outline_getElem?, exec_assignIds_zero h, List.getElem?_mapIdx, hbp, hreply]
  rfl

/-- Giving out the ids that the responses bring is the last part of arming. -/
theorem arms_settingUp {s₂ : Site (Recorded ε)} {xs : List Exchange} {replies : List Json}
    (hsends : ∀ r s₃, s₃.conversation = s₂.conversation → SendsInOrder s (r, s₃))
    (hsaid : s₂.conversation = s.conversation ++ xs)
    (houtline : s₂.bridge.registry.outline = s.bridge.registry.outline)
    (hreplies : List.Forall₂ (RepliedBy xs)
      (List.range' s.bridge.link.nextId s.bridge.registry.items.length) replies) :
    Arms s ((settingUp replies).exec s₂) := by
  obtain ⟨_, hreplied⟩ := repliedBy_range' hreplies
  rw [exec_settingUp]
  cases hassigned : (assignIds 0 replies).exec s₂ with
  | mk r s₃ =>
    -- giving out the ids says nothing to the host
    have hconversation : s₃.conversation = s₂.conversation := by
      obtain ⟨r', hr'⟩ := exec_assignIds_snd replies 0 s₂
      rw [hassigned] at hr'
      change s₃ = _ at hr'
      rw [hr']
      rfl
    have hsince : since s s₃ = xs := since_eq (hconversation.trans hsaid)
    cases r with
    | error f =>
      obtain ⟨hlink, reply, hin, hnull, hobj⟩ := exec_assignIds_error replies hassigned
      refine
        { sends := hsends _ s₃ hconversation
          returns := nofun
          grants := nofun
          keeps := fun g hg hglink => ?_
          fails := fun hwell => ?_ }
      · cases hg
        cases hlink.symm.trans hglink
      · -- it failed at a reply that is neither null nor an object, so the host sent that one
        obtain ⟨i, hi, m, hm, hill⟩ := exists_illReplied hreplies hin hnull hobj
        exact absurd (hwell i hi m (by rw [hsince]; exact hm)) hill
    | ok _ =>
      have hitems := exec_assignIds_zero hassigned
      refine
        { sends := hsends _ s₃ hconversation
          returns := fun bps hbps => ?_
          grants := fun bps _ i bp hbp => ?_
          keeps := nofun
          fails := nofun }
      · cases hbps
        refine ⟨rfl, ?_⟩
        rw [hitems, List.length_mapIdx]
        simpa [BreakpointRegistry.outline] using congrArg List.length houtline
      · obtain ⟨hi, _⟩ := List.getElem?_eq_some_iff.mp hbp
        obtain ⟨reply, hreply, m, hm, rfl⟩ := hreplied i hi
        refine ⟨m, by rw [hsince]; exact hm, ?_⟩
        -- the place is that of the breakpoint at the same index before, which was asked for
        have hat := BreakpointRegistry.outline_of_item hbp
        rw [← houtline] at hat
        rw [← grantedId_reply armMethod]
        exact outline_of_assigned hassigned hat hreply

end Result

theorem arms_armBreakpoints (hready : s.Ready)
    (hclean : Uninterrupted ((armBreakpoints : Act (Site (Recorded ε)) _).exec s).2.conversation) :
    Arms s ((armBreakpoints : Act (Site (Recorded ε)) _).exec s) := by
  have hbefore := hclean.of_prefix (prefix_armBreakpoints hready.sane)
  rw [armBreakpoints_eq, Act.exec_bind_ok (exec_look s)] at hclean ⊢
  have hdispatched := dispatched_submitArming s.bridge.registry.items hready hbefore
  rw [Act.exec_bind] at hclean ⊢
  generalize (submitArming s.bridge.registry.items).exec s = r at hclean hdispatched
  cases hdispatched with
  | cut sends closes n m hready' hsaid hsends hcloses houtline =>
    exact .of_failed ⟨_, _, since_eq hsaid, .inr ⟨⟨_, hsends⟩, hcloses, m, rfl⟩⟩ houtline rfl
  | @all s₁ sends hready' hsaid hsends houtline _ hwaits =>
    dsimp only at hclean ⊢
    rw [conversation_bind_silent conversation_settingUp] at hclean
    have hfares : ∀ id ∈ List.range' s.bridge.link.nextId s.bridge.registry.items.length,
        FaresSince s.conversation armMethod id s₁ := by
      intro id hid
      obtain ⟨i, hi, rfl⟩ := List.mem_range'.mp hid
      rw [Nat.one_mul]
      exact hwaits i hi
    have hcollected := collected_awaitArming _ hready' hsaid hfares hclean
    rw [Act.exec_bind]
    generalize (awaitArming (List.range' s.bridge.link.nextId s.bridge.registry.items.length)).exec s₁
      = r at hcollected
    -- everything is sent by now, and what follows is said in reading
    have hsent {s₂ : Site (Recorded ε)} (hread : ReadOn s₁ s₂) (r : Except Fault (List Breakpoint))
        (s₃ : Site (Recorded ε)) (hsame : s₃.conversation = s₂.conversation) :
        SendsInOrder s (r, s₃) := by
      obtain ⟨ys, hys, hall⟩ := hread
      refine ⟨sends, ys, since_eq ?_, .inl ⟨hsends, hall⟩⟩
      rw [hsame, hys, hsaid, List.append_assoc]
    cases hcollected with
    | failed hread houtline' hlink =>
      exact .of_failed (hsent hread _ _ rfl) (houtline'.trans houtline) hlink
    | replied hread houtline' hsaid' hreplies =>
      exact arms_settingUp (hsent hread) hsaid' (houtline'.trans houtline) hreplies

/-! ## §6. Any order of replies. -/

section Order
omit [Endpoint ε]

/-- No two responses to one command bring different ids. -/
def Unequivocal (xs : List Exchange) : Prop :=
  ∀ id, ∀ m ∈ responses xs, ∀ m' ∈ responses xs, Answers m id → Answers m' id →
    repliedId m = repliedId m'

/-- Where the breakpoints are. -/
def places (s : Site ε) : List (Json × Json) :=
  s.bridge.registry.items.map (fun bp => (bp.url, bp.line))

/-- **Two armings that hear the same responses, in whatever order and however often, give the
same ids.** -/
theorem Arms.same_ids {ε' : Type} {t : Site (Recorded ε')}
    {r : Except Fault (List Breakpoint) × Site (Recorded ε)}
    {r' : Except Fault (List Breakpoint) × Site (Recorded ε')} (h : Arms s r) (h' : Arms t r')
    (hnext : t.bridge.link.nextId = s.bridge.link.nextId) (hplaces : t.places = s.places)
    (hone : Unequivocal (since s r.2))
    (hsame : ∀ m, m ∈ responses (since t r'.2) ↔ m ∈ responses (since s r.2))
    {bps bps' : List Breakpoint} (hr : r.1 = .ok bps) (hr' : r'.1 = .ok bps') :
    bps'.map Breakpoint.outline = bps.map Breakpoint.outline := by
  obtain ⟨hitems, hlength⟩ := h.returns bps hr
  obtain ⟨hitems', hlength'⟩ := h'.returns bps' hr'
  have hcount : t.bridge.registry.items.length = s.bridge.registry.items.length := by
    simpa [places] using congrArg List.length hplaces
  rw [hitems, hitems']
  apply List.ext_getElem?
  intro i
  by_cases hi : i < s.bridge.registry.items.length
  · have hbp := List.getElem?_eq_getElem hi
    have hbp' := List.getElem?_eq_getElem (hcount.symm ▸ hi : i < t.bridge.registry.items.length)
    obtain ⟨m, hm, hat⟩ := h.grants bps hr i _ hbp
    obtain ⟨m', hm', hat'⟩ := h'.grants bps' hr' i _ hbp'
    -- both responses were heard in the first arming
    have hid : repliedId m' = repliedId m := by
      obtain ⟨hin, hanswers⟩ := of_firstReply? hm
      obtain ⟨hin', hanswers'⟩ := of_firstReply? hm'
      rw [hnext] at hanswers'
      exact hone _ m' ((hsame m').mp hin') m hin hanswers' hanswers
    have hplace := congrArg (·[i]?) hplaces
    simp only [places, List.getElem?_map, hbp, hbp', Option.map_some, Option.some.injEq,
      Prod.mk.injEq] at hplace
    show r'.2.bridge.registry.outline[i]? = r.2.bridge.registry.outline[i]?
    rw [hat, hat', hid, hplace.1, hplace.2]
  · rw [hitems] at hlength
    rw [hitems'] at hlength'
    rw [List.getElem?_eq_none (by simp only [List.length_map]; omega),
      List.getElem?_eq_none (by simp only [List.length_map]; omega)]

end Order

/-- The site is one that a new bridge may come to: between two tasks, with any registry, or in
a start that has come to arming. -/
inductive Reached : Site (Recorded ε) → Prop
  | fresh {config : BridgeConfig} (htame : config.Tame) (url : Json) (registry : BreakpointRegistry)
      (blocks : Option BlockTable) (host : ε) : Reached (fresh config url registry blocks host)
  | did {s : Site (Recorded ε)} (h : Reached s) (task : Task ε) : Reached (task.act.exec s).2
  | registering {s : Site (Recorded ε)} (h : Reached s) (r : BreakpointRegistry) :
      Reached (s.registering r)
  | starting {s : Site (Recorded ε)} (h : Reached s) :
      Reached (preparing.exec s.renewed).2

theorem Reached.sane (h : s.Reached) : s.Sane := by
  induction h with
  | fresh htame url registry blocks host => exact (ready_fresh htame url registry blocks host).sane
  | did _ task ih => exact (grows_act task _ ih).1
  | registering _ r ih => exact ⟨ih.tame, ih.plain⟩
  | @starting s _ ih =>
    exact (enduring_true.preparing.grows s.renewed ⟨ih.tame, ih.plain⟩).1

/-- A site that was reached without interruptions is ready. -/
theorem Reached.ready (h : s.Reached) (hclean : Uninterrupted s.conversation) : s.Ready := by
  induction h with
  | fresh htame url registry blocks host => exact ready_fresh htame url registry blocks host
  | @did s h task ih =>
    have hact := enduring_true.act (ε := ε) task
    have hready := ih (hclean.of_prefix (hact.grows s h.sane).2)
    exact (hact.keeps s hready trivial hclean).1
  | registering _ r ih => exact ⟨(ih hclean).tame, (ih hclean).bare⟩
  | @starting s h ih =>
    have hprepares := enduring_true.preparing (ε := ε)
    have hsane : s.renewed.Sane := ⟨h.sane.tame, h.sane.plain⟩
    have hready := ih (hclean.of_prefix (hprepares.grows _ hsane).2)
    exact (hprepares.keeps s.renewed ⟨hready.tame, hready.bare⟩ trivial hclean).1

/-- **TO EACH BREAKPOINT ITS OWN ID, IN ANY ORDER OF REPLIES**: arming sends one command for
each breakpoint in order, gives each the id that the first response to its command brings, and
changes no id if the link fails; and two armings of the same breakpoints that hear the same
responses give the same ids. -/
theorem armBreakpoints_arms_in_any_order {ε' : Type} [Endpoint ε'] {t : Site (Recorded ε')}
    (hs : s.Reached) (ht : t.Reached)
    (hclean : Uninterrupted ((armBreakpoints : Act (Site (Recorded ε)) _).exec s).2.conversation)
    (hclean' : Uninterrupted ((armBreakpoints : Act (Site (Recorded ε')) _).exec t).2.conversation) :
    Arms s (armBreakpoints.exec s) ∧
      (t.bridge.link.nextId = s.bridge.link.nextId → t.places = s.places →
        Unequivocal (since s (armBreakpoints.exec s).2) →
        (∀ m, m ∈ responses (since t (armBreakpoints.exec t).2) ↔
          m ∈ responses (since s (armBreakpoints.exec s).2)) →
        ∀ bps bps', (armBreakpoints.exec s).1 = .ok bps → (armBreakpoints.exec t).1 = .ok bps' →
          bps'.map Breakpoint.outline = bps.map Breakpoint.outline) := by
  have harms : Arms s (armBreakpoints.exec s) :=
    arms_armBreakpoints (hs.ready (hclean.of_prefix (grows_armBreakpoints s hs.sane).2)) hclean
  have harms' : Arms t (armBreakpoints.exec t) :=
    arms_armBreakpoints (ht.ready (hclean'.of_prefix (grows_armBreakpoints t ht.sane).2)) hclean'
  exact ⟨harms, fun hnext hplaces hone hsame bps bps' hr hr' =>
    harms.same_ids harms' hnext hplaces hone hsame hr hr'⟩

/-! ## §7. Two orders. -/

/-- Two breakpoints are wanted. -/
def wantedTwo : BreakpointRegistry :=
  ⟨[{ url := "lib/flow.js", line := .int 3 }, { url := "lib/flow.js", line := .int 7 }]⟩

/-- A host that keeps two commands to arm, and then answers both. -/
def keepingHost (latestFirst : Bool) : RehearsedHost :=
  { rules :=
      [{ method := "Debugger.setBreakpointByUrl", times := some 1, actions := [.hold] },
        { method := "Debugger.setBreakpointByUrl", actions := [.hold, .release latestFirst] }] }

/-- A bridge that was started without breakpoints wants two. -/
def wanting (latestFirst : Bool) : Site (Recorded RehearsedHost) :=
  ((fresh {} "ws" {} none (keepingHost latestFirst)).afterTasks [.start]).registering wantedTwo

/-- The response that brings an id. -/
def bringing (number : Nat) (id : String) : Record :=
  [("id", .int number), ("result", .obj [("breakpointId", .str id)])]

theorem unequivocal_bringing {xs : List Exchange} {a b : Nat} {x y : String} (hne : a ≠ b)
    (h : responses xs = [bringing a x, bringing b y]) : Unequivocal xs := by
  have hnumber {number id : Nat} {x : String} (hanswers : Answers (bringing number x) id) :
      id = number := by
    have hown : Answers (bringing number x) number := by
      show (Json.int number).same (.int number) = true
      simp [Json.same_int, Json.number?, Json.sameNumber]
    exact hanswers.unique hown
  intro id m hm m' hm' hanswers hanswers'
  rw [h] at hm hm'
  simp only [List.mem_cons, List.not_mem_nil, or_false] at hm hm'
  rcases hm with rfl | rfl <;> rcases hm' with rfl | rfl
  · rfl
  · exact absurd ((hnumber hanswers).symm.trans (hnumber hanswers')) hne
  · exact absurd ((hnumber hanswers').symm.trans (hnumber hanswers)) hne
  · rfl

/-- The host answers the last command first, and the ids are those that it gives otherwise. -/
theorem armBreakpoints_arms_in_any_order_reversed :
    (wanting false).Reached ∧ (wanting true).Reached ∧
      Uninterrupted ((armBreakpoints : Act (Site (Recorded RehearsedHost)) _).exec
        (wanting false)).2.conversation ∧
      Uninterrupted ((armBreakpoints : Act (Site (Recorded RehearsedHost)) _).exec
        (wanting true)).2.conversation ∧
      Arms (wanting false) (armBreakpoints.exec (wanting false)) ∧
      ∃ bps bps', (armBreakpoints.exec (wanting false)).1 = .ok bps ∧
        (armBreakpoints.exec (wanting true)).1 = .ok bps' ∧
        bps'.map Breakpoint.outline = bps.map Breakpoint.outline ∧
        bps.map (·.id) = [.str "bp:lib/flow.js:3", .str "bp:lib/flow.js:7"] := by
  have htame : ({} : BridgeConfig).Tame := fun _ hl => nomatch hl
  have hreached (latestFirst : Bool) : (wanting latestFirst).Reached :=
    .registering (.did (.fresh htame "ws" {} none (keepingHost latestFirst)) .start) wantedTwo
  have hclean : Uninterrupted ((armBreakpoints : Act (Site (Recorded RehearsedHost)) _).exec
      (wanting false)).2.conversation := by decide +kernel
  have hclean' : Uninterrupted ((armBreakpoints : Act (Site (Recorded RehearsedHost)) _).exec
      (wanting true)).2.conversation := by decide +kernel
  have hheard : responses (since (wanting false) (armBreakpoints.exec (wanting false)).2)
      = [bringing 3 "bp:lib/flow.js:3", bringing 4 "bp:lib/flow.js:7"] := rfl
  have hheard' : responses (since (wanting true) (armBreakpoints.exec (wanting true)).2)
      = [bringing 4 "bp:lib/flow.js:7", bringing 3 "bp:lib/flow.js:3"] := rfl
  obtain ⟨harms, hany⟩ :=
    armBreakpoints_arms_in_any_order (hreached false) (hreached true) hclean hclean'
  refine ⟨hreached false, hreached true, hclean, hclean', harms, _, _, rfl, rfl, ?_, rfl⟩
  refine hany rfl rfl (unequivocal_bringing (by decide) hheard) (fun m => ?_) _ _ rfl rfl
  rw [hheard, hheard']
  simp only [List.mem_cons, List.not_mem_nil, or_false]
  exact or_comm

end Site
end FlowTrace
