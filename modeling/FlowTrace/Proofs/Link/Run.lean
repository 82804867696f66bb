/-
  FlowTrace.Proofs.Link.Run
  ────────────────────────────────
  **RUNS OF A LINK ARE MADE OF MOVES.**

  Whatever the operations of a link do, in whatever order and nested in whatever
  callbacks, and however the endpoint behaves, is a sequence of moves.  A run is
  the sequence of the moves of its operations, and each of these is taken apart
  once, into the ways that it can go:

      Connects   — there is a connection, the link is shut, or the dialling decides
      SendsWith  — nothing is sent, or the envelope is put on the wire, come what may
      Accepts    — a message is a notification, a response, or neither
      Polls      — there is nothing to read, or a frame is taken in
-/
import FlowTrace.Proofs.Link.Move

namespace FlowTrace

variable {ε : Type} [Endpoint ε]

/-! ## §1. Connecting and tearing down. -/

namespace Wire

/-- How connecting goes. -/
inductive Connects (w : Wire ε) : Except Fault Unit × Wire ε → Prop
  | already (hsocket : w.link.socket.isSome = true) : Connects w (.ok (), w)
  | shut (hsocket : w.link.socket = none) (hshut : w.link.shutdown = true) :
      Connects w (.error (.link "transport closed"), w)
  | opened {s : Nat} (hsocket : w.link.socket = none) (hopen : w.link.shutdown = false)
      (hdial : (w.network.dial w.link.url).1 = .ok s) :
      Connects w (.ok (),
        { link := { w.link with socket := some s, deaf := false, status := .connected }.signal .up
          network := (w.network.dial w.link.url).2 })
  | refused {text : String} (hsocket : w.link.socket = none) (hopen : w.link.shutdown = false)
      (hdial : (w.network.dial w.link.url).1 = .error (.error text)) :
      Connects w (.error (.link ("connect failed: " ++ text)),
        { link := { w.link with status := .disconnected }
          network := (w.network.dial w.link.url).2 })
  | interrupted (hsocket : w.link.socket = none) (hopen : w.link.shutdown = false)
      (hdial : (w.network.dial w.link.url).1 = .error .interrupted) :
      Connects w (.error .interrupt,
        { link := { w.link with status := .connecting }, network := (w.network.dial w.link.url).2 })

/-- **Connecting goes one of these ways.** -/
theorem connects_connect (w : Wire ε) : Connects w (connect.exec w) := by
  unfold connect
  rw [Act.exec_bind_ok (exec_look w)]
  by_cases hsome : w.link.socket.isSome
  · rw [if_pos hsome]
    exact .already hsome
  rw [if_neg hsome]
  have hsocket : w.link.socket = none := by simpa using hsome
  by_cases hshut : w.link.shutdown
  · rw [if_pos hshut]
    exact .shut hsocket hshut
  rw [if_neg hshut, Act.exec_bind_ok (exec_update _ w), Act.exec_bind_ok (exec_onNetwork _ _)]
  have hopen : w.link.shutdown = false := by simpa using hshut
  cases hdial : (w.network.dial w.link.url).1 with
  | ok s => exact .opened hsocket hopen hdial
  | error b =>
    cases b with
    | error text => exact .refused hsocket hopen hdial
    | interrupted => exact .interrupted hsocket hopen hdial

/-- A link without a socket dials, and the dialling may open a socket. -/
theorem moving_connect : (connect : Act (Wire ε) Unit).Moving := by
  intro w o
  have htry : Leads w o { w with link := { w.link with status := .connecting } } o :=
    Leads.of_move (.other ⟨rfl, rfl, rfl⟩ rfl)
  have hdialled {b : Breakdown} (hdial : (w.network.dial w.link.url).1 = .error b) :
      Leads w o
        { link := { w.link with status := .connecting }, network := (w.network.dial w.link.url).2 }
        o := htry.trans (Leads.of_move (.dial b hdial))
  have hconnects := connects_connect w
  generalize connect.exec w = r at hconnects
  cases hconnects with
  | already hsocket => exact Leads.refl w o
  | shut hsocket hshut => exact Leads.refl w o
  | opened hsocket hopen hdial =>
    exact htry.trans (Leads.of_move (.attach _ ⟨rfl, rfl, rfl⟩ hdial hsocket rfl))
  | refused hsocket hopen hdial =>
    exact (hdialled hdial).trans (Leads.of_move (.other ⟨rfl, rfl, rfl⟩ rfl))
  | interrupted hsocket hopen hdial => exact hdialled hdial

/-- Closing a socket leaves the link alone, and nothing but the user's interruption
comes out of it. -/
theorem closeSocket_cases (s : Nat) (w : Wire ε) :
    (closeSocket s).exec w = (.ok (), { w with network := (w.network.close s).2 }) ∨
      (closeSocket s).exec w = (.error .interrupt, { w with network := (w.network.close s).2 }) := by
  unfold closeSocket
  rw [Act.exec_bind_ok (exec_onNetwork _ w)]
  cases (w.network.close s).1 with
  | ok _ => exact .inl rfl
  | error b =>
    cases b with
    | error text => exact .inl rfl
    | interrupted => exact .inr rfl

/-- The orphans of a connection fail, or those that are left when an interruption
comes in between are abandoned. -/
theorem leads_failAll (ps : List Pending) :
    ∀ (w : Wire ε) (o : List Pending), Leads w (ps ++ o) ((failAll ps).exec w).2 o := by
  -- Induction on the orphans; reconnecting in between leaves the rest of them alone.
  induction ps with
  | nil => exact fun w o => Leads.refl w o
  | cons p rest ih =>
    intro w o
    unfold failAll
    rw [Act.exec_bind_ok (exec_update _ w)]
    apply (Leads.of_move (.fail p)).trans
    by_cases hagain : p.reconnects
    · rw [if_pos hagain]
      exact (moving_connect.contained _ (rest ++ o)).bind (Leads.of_move (.abandon rest))
        (fun _ => ih _ o)
    · rw [if_neg hagain]
      exact ih _ o

variable {onDown : List (List DownAction) → Act (Wire ε) Unit}

theorem moving_becomeDisconnected (hdown : ∀ plan, (onDown plan).Moving) :
    (becomeDisconnected onDown).Moving := by
  intro w o
  unfold becomeDisconnected
  rw [Act.exec_bind_ok (exec_look w)]
  by_cases hoff : w.link.status = .disconnected
  · rw [if_pos hoff]
    exact Leads.refl w o
  rw [if_neg hoff]
  refine Act.Moving.bind ?_ (fun _ => ?_) w o
  · exact .update (fun _ => ⟨rfl, rfl, rfl⟩) (fun _ => rfl)
  by_cases hon : w.link.status = .connected
  · rw [if_pos hon]
    refine .bind ?_ (fun _ => hdown _)
    exact .update (fun _ => ⟨rfl, rfl, rfl⟩) (fun _ => rfl)
  · rw [if_neg hon]
    exact .pure ()

/-- The rest of a teardown, once the socket is gone. -/
def failPending (onDown : List (List DownAction) → Act (Wire ε) Unit) : Act (Wire ε) Unit := do
  let failed := (← look).pending
  update (fun l => { l with pending := [] })
  failAll failed
  becomeDisconnected onDown

theorem leads_failPending (hdown : ∀ plan, (onDown plan).Moving) (w : Wire ε) (o : List Pending) :
    Leads w.swept (w.link.pending ++ o) ((failPending onDown).exec w).2 o := by
  unfold failPending
  rw [Act.exec_bind_ok (exec_look w), Act.exec_bind_ok (exec_update _ w)]
  exact (leads_failAll _ _ o).bind (Leads.refl _ o)
    (fun _ => moving_becomeDisconnected hdown _ o)

/-- Tearing down leaves the connection of another alone.  Else the socket is closed, if
there is one, and unless that is interrupted the pending commands fail. -/
theorem teardownWith_cases (onDown : List (List DownAction) → Act (Wire ε) Unit)
    (owner : Option Nat) (w : Wire ε) :
    (owner.isSome = true ∧ w.link.socket ≠ owner ∧ (teardownWith onDown owner).exec w = (.ok (), w)) ∨
      (w.link.socket = none ∧ (teardownWith onDown owner).exec w = (failPending onDown).exec w) ∨
      ∃ s, w.link.socket = some s ∧
        ((teardownWith onDown owner).exec w = (.error .interrupt, w.hangUp s) ∨
          (teardownWith onDown owner).exec w = (failPending onDown).exec (w.hangUp s)) := by
  unfold teardownWith
  rw [Act.exec_bind_ok (exec_look w)]
  by_cases hother : owner.isSome && w.link.socket != owner
  · rw [if_pos hother]
    rw [Bool.and_eq_true, bne_iff_ne] at hother
    exact .inl ⟨hother.1, hother.2, rfl⟩
  rw [if_neg hother, Act.exec_bind_ok (exec_update _ w)]
  cases hsocket : w.link.socket with
  | none =>
    refine .inr (.inl ⟨rfl, ?_⟩)
    -- there is no socket to take away
    have hsame : { w with link := { w.link with socket := none } } = w := by rw [← hsocket]
    rw [hsame]
    rfl
  | some s =>
    refine .inr (.inr ⟨s, rfl, ?_⟩)
    show ((closeSocket s >>= fun _ => failPending onDown).exec _ = _) ∨
      ((closeSocket s >>= fun _ => failPending onDown).exec _ = _)
    rcases closeSocket_cases s { w with link := { w.link with socket := none } } with hok | hcut
    · exact .inr (Act.exec_bind_ok hok)
    · exact .inl (Act.exec_bind_error hcut)

/-- What tearing down is relied on to do.  It is made of moves, and unless it is
interrupted the commands of a lost connection are pending no longer. -/
structure TearsDown (down : Option Nat → Act (Wire ε) Unit) : Prop where
  moving : ∀ owner, (down owner).Moving
  clears : ∀ s w, w.link.socket = some s → ((down (some s)).exec w).1 = .error .interrupt ∨
    ∀ p ∈ ((down (some s)).exec w).2.link.pending, w.link.nextId ≤ p.id

/-- A connection is torn down by moves, if what is done at its loss is made of them. -/
theorem tearsDown_teardownWith (hdown : ∀ plan, (onDown plan).Moving) :
    TearsDown (teardownWith onDown) where
  moving := by
    intro owner w o
    rcases teardownWith_cases onDown owner w with
      ⟨_, _, heq⟩ | ⟨hsocket, heq⟩ | ⟨s, hsocket, heq | heq⟩
    · rw [heq]
      exact Leads.refl w o
    · rw [heq]
      exact (Leads.of_move (.sweep hsocket)).trans (leads_failPending hdown w o)
    · rw [heq]
      exact Leads.of_move (.lose s hsocket)
    · rw [heq]
      apply (Leads.of_move (.lose s hsocket)).trans
      exact (Leads.of_move (.sweep rfl)).trans (leads_failPending hdown (w.hangUp s) o)
  clears := by
    intro s w hsocket
    rcases teardownWith_cases onDown (some s) w with
      ⟨_, hother, _⟩ | ⟨hnone, _⟩ | ⟨s', _, heq | heq⟩
    · exact absurd hsocket hother
    · cases hsocket.symm.trans hnone
    · exact .inl (by rw [heq])
    · right
      intro p hp
      rw [heq] at hp
      obtain ⟨h, hmoves⟩ := leads_failPending hdown (w.hangUp s') []
      -- After the sweep nothing is pending, and what came later has a later number.
      rcases hmoves.numbers.2 p hp with hp | hp
      · cases hp
      · exact hp

/-! ## §2. Sending. -/

variable {down : Option Nat → Act (Wire ε) Unit}

/-- How sending an envelope goes, with what tears a connection down. -/
inductive SendsWith (down : Option Nat → Act (Wire ε) Unit) (e : Envelope) (w : Wire ε) :
    Except Fault Unit × Wire ε → Prop
  | refused (m : String) (hno : w.link.socket = none ∨ w.link.shutdown = true) :
      SendsWith down e w (.error (.link m), w)
  | sent {s : Nat} (hsocket : w.link.socket = some s) (hopen : w.link.shutdown = false) :
      SendsWith down e w (.ok (), { w with network := (w.network.send s e).2 })
  /-- The connection is torn down before the fault is told. -/
  | failed {s : Nat} {text : String} (hsocket : w.link.socket = some s)
      (hopen : w.link.shutdown = false) :
      SendsWith down e w
        ((down (some s) >>= fun _ => throw (.link ("send failed: " ++ text)) : Act _ Unit).exec
          { w with network := (w.network.send s e).2 })
  | interrupted {s : Nat} (hsocket : w.link.socket = some s) (hopen : w.link.shutdown = false)
      (hsend : (w.network.send s e).1 = .error .interrupted) :
      SendsWith down e w (.error .interrupt, { w with network := (w.network.send s e).2 })

/-- **Sending goes one of these ways.** -/
theorem sendsWith_sendWith (down : Option Nat → Act (Wire ε) Unit) (e : Envelope) (w : Wire ε) :
    SendsWith down e w ((sendWith down e).exec w) := by
  unfold sendWith
  rw [Act.exec_bind_ok (exec_look w)]
  by_cases hshut : w.link.shutdown
  · rw [if_pos hshut]
    exact .refused _ (.inr hshut)
  rw [if_neg hshut]
  have hopen : w.link.shutdown = false := by simpa using hshut
  cases hsocket : w.link.socket with
  | none => exact .refused _ (.inl hsocket)
  | some s =>
    rw [Act.exec_bind_ok (exec_onNetwork _ w)]
    cases hsend : (w.network.send s e).1 with
    | ok _ => exact .sent hsocket hopen
    | error b =>
      cases b with
      | error text => exact .failed hsocket hopen
      | interrupted => exact .interrupted hsocket hopen hsend

/-- Either nothing is sent and nothing changes, or the envelope is put on the wire
and the rest is made of moves.  If it could not be sent, the commands that were
pending are so no longer. -/
theorem sendWith_cases (hdown : TearsDown down) (e : Envelope) (w : Wire ε) :
    (∃ m, (sendWith down e).exec w = (.error (.link m), w)) ∨
      ∃ s, w.link.socket = some s ∧
        (∀ o, Leads { w with network := (w.network.send s e).2 } o
          ((sendWith down e).exec w).2 o) ∧
        ∀ f, ((sendWith down e).exec w).1 = .error f → f.isLink = true →
          ∀ p ∈ ((sendWith down e).exec w).2.link.pending, w.link.nextId ≤ p.id := by
  have hsends := sendsWith_sendWith down e w
  generalize (sendWith down e).exec w = r at hsends
  cases hsends with
  | refused m hno => exact .inl ⟨m, rfl⟩
  | @sent s hsocket hopen => exact .inr ⟨s, hsocket, fun o => Leads.refl _ o, fun f hf => nomatch hf⟩
  | @failed s text hsocket hopen =>
    refine .inr ⟨s, hsocket, Act.Moving.bind (hdown.moving (some s)) (fun _ => .throw _) _,
      fun f hf hlink => ?_⟩
    rcases hdown.clears s { w with network := (w.network.send s e).2 } hsocket with
      hcut | hcleared
    · -- an interruption of the teardown is told in place of the fault
      rw [Act.exec_bind] at hf
      generalize (down (some s)).exec { w with network := (w.network.send s e).2 } = r at hcut hf
      obtain ⟨r, w₂⟩ := r
      obtain rfl : r = .error .interrupt := hcut
      cases hf
      cases hlink
    · rw [Act.exec_bind_snd (fun _ _ => rfl)]
      exact hcleared
  | @interrupted s hsocket hopen hsend =>
    refine .inr ⟨s, hsocket, fun o => Leads.refl _ o, fun f hf hlink => ?_⟩
    cases hf
    cases hlink

/-- Dropping a number that no pending command has changes nothing. -/
theorem dropPending_eq_self {l : Link} {id : Nat} (hlater : ∀ p ∈ l.pending, id + 1 ≤ p.id) :
    l.dropPending id = l := by
  have hfilter : l.pending.filter (fun p => p.id != id) = l.pending := by
    apply List.filter_eq_self.mpr
    intro p hp
    have := hlater p hp
    simp
    omega
  unfold Link.dropPending
  rw [hfilter]

/-- A submitted command is put on the wire while it is pending, or refused. -/
theorem moving_submitWith (hdown : TearsDown down) (method params : Json) (reconnects : Bool) :
    (submitWith down method params reconnects).Moving := by
  intro w o
  let p : Pending := { id := w.link.nextId, method := method, reconnects := reconnects }
  let e : Envelope := { id := w.link.nextId, method := method, params := params.orObject }
  unfold submitWith
  rw [Act.exec_bind_ok (exec_allocate w), Act.exec_bind_ok (exec_update _ _),
    Act.exec_bind_ok (Act.exec_attempt _ _)]
  rcases sendWith_cases hdown e { w with link := w.link.allocate.2.addPending p } with
    ⟨m, hrefused⟩ | ⟨s, hsocket, hsent, hcleared⟩
  · rw [hrefused]
    exact Leads.of_move (.refuse p rfl)
  · have hopen : w.link.socket = some s := hsocket
    apply (Leads.of_move (.submit p e hopen rfl rfl rfl)).trans
    apply (hsent o).trans
    cases hr : ((sendWith down e).exec { w with link := w.link.allocate.2.addPending p }).1 with
    | ok _ => exact Leads.refl _ o
    | error f =>
      by_cases hlink : f.isLink
      · simp only [hlink]
        -- The command was lost with its connection: there is nothing left to drop.
        have hgone := dropPending_eq_self (hcleared f hr hlink)
        show Leads _ o { link := Link.dropPending _ w.link.nextId, network := _ } o
        rw [hgone]
        exact Leads.refl _ o
      · simp only [hlink]
        exact Leads.refl _ o

/-! ## §3. Losses inside one another. -/

theorem moving_runDownActions (hdown : TearsDown down) (actions : List DownAction) :
    (runDownActions down actions).Moving := by
  induction actions with
  | nil => exact .pure ()
  | cons action rest ih =>
    cases action with
    | connect => exact .bind moving_connect (fun _ => ih)
    | submit method => exact .bind (moving_submitWith hdown _ _ _) (fun _ => ih)
    | fail => exact .throw _

theorem moving_runDownPlan (hdown : TearsDown down) (plan : List (List DownAction)) :
    (runDownPlan down plan).Moving := by
  induction plan with
  | nil => exact .pure ()
  | cons actions rest ih =>
    exact .bind (.contained (moving_runDownActions hdown actions)) (fun _ => ih)

theorem tearsDown_teardownWithin (depth : Nat) :
    TearsDown (teardownWithin depth : Option Nat → Act (Wire ε) Unit) := by
  -- Induction on the number of losses that can still come inside this one.
  induction depth with
  | zero => exact tearsDown_teardownWith (fun _ => .pure ())
  | succ depth ih => exact tearsDown_teardownWith (moving_runDownPlan ih)

theorem tearsDown_teardown : TearsDown (teardown : Option Nat → Act (Wire ε) Unit) where
  moving := fun owner =>
    .bind .look (fun l => (tearsDown_teardownWithin l.downPlans.length).moving owner)
  clears := by
    intro s w hsocket
    unfold teardown
    rw [Act.exec_bind_ok (exec_look w)]
    exact (tearsDown_teardownWithin w.link.downPlans.length).clears s w hsocket

theorem moving_submit (method params : Json) (reconnects : Bool) :
    (submit method params reconnects : Act (Wire ε) Nat).Moving :=
  moving_submitWith tearsDown_teardown method params reconnects

/-- A command that is not awaited retires its number. -/
theorem moves_notify (method params : Json) (w : Wire ε) (o : List Pending) :
    ∃ h, Moves w o h ((notify method params).exec w).2 o ∧ Retired h w.link.nextId := by
  let e : Envelope := { id := w.link.nextId, method := method, params := params.orObject }
  unfold notify
  rw [Act.exec_bind_ok (exec_allocate w), Act.exec_bind_snd (fun _ _ => rfl)]
  rcases sendWith_cases tearsDown_teardown e { w with link := w.link.allocate.2 } with
    ⟨m, hrefused⟩ | ⟨s, hsocket, hsent, _⟩
  · rw [hrefused]
    exact ⟨_, .cons .number (.nil _ o), _, List.mem_cons_self .., rfl⟩
  · have hopen : w.link.socket = some s := hsocket
    obtain ⟨h, hmoves⟩ := hsent o
    exact ⟨_, .cons (.notify e hopen rfl) hmoves, _, List.mem_cons_self .., rfl⟩

theorem moving_close : (close : Act (Wire ε) Unit).Moving := by
  refine .bind ?_ (fun _ => tearsDown_teardown.moving none)
  exact .update (fun _ => ⟨rfl, rfl, rfl⟩) (fun _ => rfl)

/-- A command without an outcome times out, which retires its number. -/
theorem moves_conclude (id : Nat) (method : Json) (w : Wire ε) :
    ∃ h, Moves w [] h ((conclude id method).exec w).2 [] ∧
      (w.link.outcome? id = none → id < w.link.nextId → Retired h id) := by
  unfold conclude
  rw [Act.exec_bind_ok (exec_look w)]
  cases hout : w.link.outcome? id with
  | none =>
    refine ⟨_, .cons (.timeOut id hout) (.nil _ []), fun _ hlt => ?_⟩
    exact ⟨_, List.mem_cons_self .., rfl, hlt⟩
  | some outcome => cases outcome <;> exact ⟨[], .nil w [], fun hnone => nomatch hnone⟩

/-! ## §4. Reading. -/

/-- A frame that spells no response is read without one. -/
theorem leads_overhear {w : Wire ε} {s : Nat} {frame : Frame}
    (hframe : (w.network.receive s).1 = some frame)
    (hno : ∀ message, frame.fields? = some message → ¬ IsResponse message) (o : List Pending) :
    Leads w o { w with network := (w.network.receive s).2 } o := by
  apply Leads.of_move (.overhear s _)
  intro frame' message hframe' hspells
  obtain rfl : frame = frame' := Option.some.inj (hframe.symm.trans hframe')
  exact hno message hspells

/-- How a message is accepted. -/
inductive Accepts (m : List (String × Json)) (w : Wire ε) : Except Fault Poll × Wire ε → Prop
  | notification (hmethod : Fields.contains m "method" = true) :
      Accepts m w (.ok (.notification m), w)
  | response (hresponse : IsResponse m) : Accepts m w (.ok .handled, { w with link := w.link.answer m })
  | neither (hmethod : Fields.contains m "method" = false)
      (hid : Fields.contains m "id" = false) : Accepts m w (.ok .handled, w)

omit [Endpoint ε] in
theorem accepts_accept (m : List (String × Json)) (w : Wire ε) :
    Accepts m w ((accept m).exec w) := by
  unfold accept
  by_cases hmethod : Fields.contains m "method"
  · rw [if_pos hmethod]
    exact .notification hmethod
  rw [if_neg hmethod]
  have hplain : Fields.contains m "method" = false := by simpa using hmethod
  by_cases hid : Fields.contains m "id"
  · rw [if_pos hid]
    exact .response ⟨hplain, hid⟩
  · rw [if_neg hid]
    exact .neither hplain (by simpa using hid)

/-- An object is taken in as a response, or read without one. -/
theorem leads_accept {w : Wire ε} {s : Nat} {frame : Frame} {message : List (String × Json)}
    (hsocket : w.link.socket = some s) (hframe : (w.network.receive s).1 = some frame)
    (hspells : frame.fields? = some message) (o : List Pending) :
    Leads w o ((accept message).exec { w with network := (w.network.receive s).2 }).2 o := by
  have hover (hno : ¬ IsResponse message) :
      Leads w o { w with network := (w.network.receive s).2 } o := by
    apply leads_overhear hframe _ o
    intro message' hspells'
    obtain rfl : message = message' := Option.some.inj (hspells.symm.trans hspells')
    exact hno
  have haccepts := accepts_accept message { w with network := (w.network.receive s).2 }
  generalize (accept message).exec _ = r at haccepts
  cases haccepts with
  | notification hmethod => exact hover fun h => nomatch hmethod.symm.trans h.1
  | response hresponse => exact Leads.of_move (.hear message hsocket hframe hspells hresponse)
  | neither hmethod hid => exact hover fun h => nomatch hid.symm.trans h.2

theorem moving_finish (s : Nat) : (finish s : Act (Wire ε) Poll).Moving :=
  .bind (tearsDown_teardown.moving (some s)) (fun _ => .pure _)

/-- Whatever frame waits, taking it in is made of moves. -/
theorem leads_takeIn {w : Wire ε} {s : Nat} {frame : Frame} (hsocket : w.link.socket = some s)
    (hframe : (w.network.receive s).1 = some frame) (o : List Pending) :
    Leads w o ((takeIn s frame).exec { w with network := (w.network.receive s).2 }).2 o := by
  have hover (hno : frame.fields? = none) :
      Leads w o { w with network := (w.network.receive s).2 } o :=
    leads_overhear hframe (by simp [hno]) o
  have hfields := frame.fields?_intake
  rw [takeIn_eq]
  generalize frame.intake = i at hfields
  cases i with
  | object m => exact leads_accept hsocket hframe hfields o
  | stop => exact (hover hfields).trans (moving_finish s _ o)
  | deafen => exact (hover hfields).trans (Leads.of_move (.other ⟨rfl, rfl, rfl⟩ rfl))
  | nothing => exact hover hfields

/-- How a poll goes: there is nothing to read, or a frame is taken in. -/
inductive Polls (w : Wire ε) : Except Fault Poll × Wire ε → Prop
  | idle (hno : w.link.socket = none ∨ w.link.deaf = true) : Polls w (.ok .idle, w)
  | nothing {s : Nat} (hsocket : w.link.socket = some s) (hnone : (w.network.receive s).1 = none) :
      Polls w (.ok .idle, { w with network := (w.network.receive s).2 })
  | frame {s : Nat} {frame : Frame} (hsocket : w.link.socket = some s)
      (hframe : (w.network.receive s).1 = some frame) :
      Polls w ((takeIn s frame).exec { w with network := (w.network.receive s).2 })

theorem polls_poll (w : Wire ε) : Polls w (poll.exec w) := by
  unfold poll
  rw [Act.exec_bind_ok (exec_look w)]
  cases hsocket : w.link.socket with
  | none => exact .idle (.inl hsocket)
  | some s =>
    by_cases hdeaf : w.link.deaf
    · simp only [hdeaf]
      exact .idle (.inr hdeaf)
    simp only [hdeaf]
    show Polls w ((onNetwork _ >>= _).exec w)
    rw [Act.exec_bind_ok (exec_onNetwork _ w)]
    cases hframe : (w.network.receive s).1 with
    | none => exact .nothing hsocket hframe
    | some frame => exact .frame hsocket hframe

/-- A poll reads what the endpoint gives it. -/
theorem moving_poll : (poll : Act (Wire ε) Poll).Moving := by
  intro w o
  have hpolls := polls_poll w
  generalize poll.exec w = r at hpolls
  cases hpolls with
  | idle hno => exact Leads.refl w o
  | @nothing s hsocket hnone => exact Leads.of_move (.overhear s (by simp [hnone]))
  | frame hsocket hframe => exact leads_takeIn hsocket hframe o

/-! ## §5. Runs. -/

end Wire

/-- What is done with a link, or by the other side of it.  To send a command and wait
for its reply is to submit it, to poll, and to conclude it. -/
inductive LinkOp (ε : Type) where
  | connect
  | submit (method params : Json) (reconnects : Bool)
  | notify (method params : Json)
  /-- Ask for the outcome of a command; one without an outcome times out. -/
  | conclude (id : Nat) (method : Json)
  /-- Read what waits. -/
  | poll
  | close
  /-- The other side does something by itself. -/
  | stir (f : ε → ε)

namespace Wire

/-- A link that was never used. -/
def fresh (url : Json) (downPlans : List (List (List DownAction))) (endpoint : ε) : Wire ε where
  link := { url := url, downPlans := downPlans }
  network := { endpoint := endpoint }

/-- The state after one operation, however it ends. -/
def afterOp (w : Wire ε) : LinkOp ε → Wire ε
  | .connect => (connect.exec w).2
  | .submit method params reconnects => ((submit method params reconnects).exec w).2
  | .notify method params => ((notify method params).exec w).2
  | .conclude id method => ((conclude id method).exec w).2
  | .poll => (poll.exec w).2
  | .close => (close.exec w).2
  | .stir f => { w with network := { w.network with endpoint := f w.network.endpoint } }

/-- The state after a run of operations. -/
def afterRun (w : Wire ε) (ops : List (LinkOp ε)) : Wire ε := ops.foldl afterOp w

end Wire

/-- The operation retires a number: it sends a command whose reply is not awaited, or
finds that a command has timed out. -/
def LinkOp.Retires (w : Wire ε) (id : Nat) : LinkOp ε → Prop
  | .notify _ _ => w.link.nextId = id
  | .conclude id' _ => id' = id ∧ w.link.outcome? id = none ∧ id < w.link.nextId
  | _ => False

namespace Wire

/-- Every operation has a history, which tells of the number that it retires. -/
theorem moves_afterOp (w : Wire ε) (op : LinkOp ε) :
    ∃ h, Moves w [] h (w.afterOp op) [] ∧ ∀ id, op.Retires w id → Retired h id := by
  have hnever {w' : Wire ε} (hleads : Leads w [] w' []) (hno : ∀ id, ¬ op.Retires w id) :
      ∃ h, Moves w [] h w' [] ∧ ∀ id, op.Retires w id → Retired h id := by
    obtain ⟨h, hmoves⟩ := hleads
    exact ⟨h, hmoves, fun id hid => absurd hid (hno id)⟩
  cases op with
  | connect => exact hnever (moving_connect w []) (fun _ hid => hid)
  | submit method params reconnects =>
    exact hnever (moving_submit method params reconnects w []) (fun _ hid => hid)
  | notify method params =>
    obtain ⟨h, hmoves, hretired⟩ := moves_notify method params w []
    exact ⟨h, hmoves, fun id hid => hid ▸ hretired⟩
  | conclude id method =>
    obtain ⟨h, hmoves, hretired⟩ := moves_conclude id method w
    refine ⟨h, hmoves, ?_⟩
    rintro _ ⟨rfl, hnone, hlt⟩
    exact hretired hnone hlt
  | poll => exact hnever (moving_poll w []) (fun _ hid => hid)
  | close => exact hnever (moving_close w []) (fun _ hid => hid)
  | stir f => exact hnever (Leads.of_move (.stir f)) (fun _ hid => hid)

/-- Every run has a history, which tells of the numbers that its operations retire. -/
theorem moves_afterRun (ops : List (LinkOp ε)) : ∀ w : Wire ε,
    ∃ h, Moves w [] h (w.afterRun ops) [] ∧ ∀ before op after id, ops = before ++ op :: after →
      op.Retires (w.afterRun before) id → Retired h id := by
  -- Induction on the operations: the history of the first comes before those of the rest.
  induction ops with
  | nil => exact fun w => ⟨[], .nil w [], fun before op after id hops => by simp at hops⟩
  | cons op rest ih =>
    intro w
    obtain ⟨h, hmoves, hretired⟩ := moves_afterOp w op
    obtain ⟨h', hmoves', hretired'⟩ := ih (w.afterOp op)
    refine ⟨h ++ h', hmoves.append hmoves', fun before op' after id hops hid => ?_⟩
    cases before with
    | nil =>
      obtain ⟨rfl, _⟩ := List.cons.inj hops
      obtain ⟨x, hx, hxid⟩ := hretired id hid
      exact ⟨x, List.mem_append_left h' hx, hxid⟩
    | cons first before =>
      obtain ⟨rfl, hrest⟩ := List.cons.inj hops
      obtain ⟨x, hx, hxid⟩ := hretired' before op' after id hrest hid
      exact ⟨x, List.mem_append_right h hx, hxid⟩

end Wire
end FlowTrace
