/-
  FlowTrace.Proofs.Link.Reopening
  ────────────────────────────────
  **CONNECTING AGAIN WHILE A CONNECTION IS TORN DOWN.**

  When a connection is lost its socket is dropped, then the commands that were pending on
  it fail, and then the link becomes disconnected.  The submitter of a failing command may
  connect again in between:

      dropped → failing … dial … failing → disconnected

  If one of the attempts succeeds, the last step falls on the new connection: its socket
  stays, but the link says that it is disconnected, and tells its owner so.  If all of them
  are refused, the link is disconnected before the last step, and nobody is told of the
  loss at all.
-/
import FlowTrace.Proofs.Link.Lifetime

namespace FlowTrace

/-! ## §1. Dialling again. -/

/-- An address is dialled until somebody answers, so many times at most. -/
inductive Redials {ε : Type} [Endpoint ε] (url : Json) :
    Nat → Network ε → Option Nat → Network ε → Prop
  | spent {n : Network ε} : Redials url 0 n none n
  | opened {m k : Nat} {n n' : Network ε} (hdial : n.dial url = (.ok k, n')) :
      Redials url (m + 1) n (some k) n'
  | refused {m : Nat} {text : String} {r : Option Nat} {n n' n'' : Network ε}
      (hdial : n.dial url = (.error (.error text), n')) (rest : Redials url m n' r n'') :
      Redials url (m + 1) n r n''

/-- How many submitters of the commands connect again. -/
def attempts (ps : List Pending) : Nat := ps.countP (·.reconnects)

/-- What the owner is told while a connection is torn down, after so many attempts to connect
again, of which one may have led to a new socket. -/
def toldAfter (tries : Nat) (socket : Option Nat) : List Change :=
  if socket.isSome then [.up, .down] else if tries = 0 then [.down] else []

namespace Wire

variable {ε : Type} [Endpoint ε] {w w' : Wire ε}

/-! ## §2. Failing the commands. -/

/-- What is left of a wire once commands have failed on it. -/
structure FailedOn (w : Wire ε) (ps : List Pending) (w' : Wire ε) : Prop where
  pending : w'.link.pending = w.link.pending
  plans : w'.link.downPlans = w.link.downPlans
  outcomes : w'.link.outcomes = w.link.outcomes ++ ps.map (fun p => (p.id, lostOutcome))

omit [Endpoint ε] in
theorem FailedOn.cons {p : Pending} {ps : List Pending} {v : Wire ε}
    (h : FailedOn v ps w') (hpending : v.link.pending = w.link.pending)
    (hplans : v.link.downPlans = w.link.downPlans)
    (houtcomes : v.link.outcomes = w.link.outcomes ++ [(p.id, lostOutcome)]) :
    FailedOn w (p :: ps) w' where
  pending := h.pending.trans hpending
  plans := h.plans.trans hplans
  outcomes := by
    rw [h.outcomes, houtcomes, List.append_assoc]
    rfl

/-- A command has failed. -/
def failed (w : Wire ε) (p : Pending) : Wire ε :=
  { w with link := w.link.complete p.id lostOutcome }

theorem exec_failAll_cons (p : Pending) (rest : List Pending) (w : Wire ε) :
    (failAll (p :: rest)).exec w = if p.reconnects
      then ((Act.contained connect >>= fun _ => failAll rest) : Act (Wire ε) Unit).exec (w.failed p)
      else (failAll rest).exec (w.failed p) := by
  show (update _ >>= fun _ => _).exec w = _
  rw [Act.exec_bind_ok (exec_update _ w)]
  by_cases hreconnects : p.reconnects = true
  · rw [if_pos hreconnects, if_pos hreconnects]
    rfl
  · rw [if_neg hreconnects, if_neg hreconnects]
    rfl

/-! An attempt to connect. -/

/-- A connection was opened. -/
def opened (w : Wire ε) (k : Nat) (n : Network ε) : Wire ε where
  link := { w.link with socket := some k, deaf := false, status := .connected }.signal .up
  network := n

/-- Nobody has answered. -/
def rejected (w : Wire ε) (n : Network ε) : Wire ε where
  link := { w.link with status := .disconnected }
  network := n

theorem exec_contained_connect_plugged (hsocket : w.link.socket.isSome = true) :
    (Act.contained connect).exec w = (.ok (), w) := by
  have hconnect : connect.exec w = (.ok (), w) := by
    unfold connect
    rw [Act.exec_bind_ok (exec_look w), if_pos hsocket]
    rfl
  rw [Act.exec_contained_ok (fun f hf => by rw [hconnect] at hf; cases hf), hconnect]

theorem exec_contained_connect_opened {k : Nat} {n : Network ε} (hsocket : w.link.socket = none)
    (hopen : w.link.shutdown = false) (hdial : w.network.dial w.link.url = (.ok k, n)) :
    (Act.contained connect).exec w = (.ok (), w.opened k n) := by
  have hconnect : connect.exec w = (.ok (), w.opened k n) := by
    unfold connect
    rw [Act.exec_bind_ok (exec_look w), if_neg (by simp [hsocket]), if_neg (by simp [hopen]),
      Act.exec_bind_ok (exec_update _ w), Act.exec_bind_ok (exec_onNetwork _ _)]
    dsimp only
    rw [hdial]
    rfl
  rw [Act.exec_contained_ok (fun f hf => by rw [hconnect] at hf; cases hf), hconnect]

theorem exec_contained_connect_rejected {text : String} {n : Network ε}
    (hsocket : w.link.socket = none) (hopen : w.link.shutdown = false)
    (hdial : w.network.dial w.link.url = (.error (.error text), n)) :
    (Act.contained connect).exec w = (.ok (), w.rejected n) := by
  have hconnect : connect.exec w = (.error (.link ("connect failed: " ++ text)), w.rejected n) := by
    unfold connect
    rw [Act.exec_bind_ok (exec_look w), if_neg (by simp [hsocket]), if_neg (by simp [hopen]),
      Act.exec_bind_ok (exec_update _ w), Act.exec_bind_ok (exec_onNetwork _ _)]
    dsimp only
    rw [hdial]
    rfl
  have hkept : ∀ f, (connect.exec w).1 = .error f → f.containable = true := by
    intro f hf
    rw [hconnect] at hf
    cases hf
    rfl
  rw [Act.exec_contained_ok hkept, hconnect]

/-- With a socket nobody connects again. -/
theorem failAll_plugged (ps : List Pending) : ∀ {w : Wire ε}, w.link.socket.isSome = true →
    ∃ w', (failAll ps).exec w = (.ok (), w') ∧ w.FailedOn ps w' ∧ w'.network = w.network ∧
      w'.link.socket = w.link.socket ∧ w'.link.status = w.link.status ∧
      w'.link.changes = w.link.changes := by
  induction ps with
  | nil => exact fun {w} _ => ⟨w, rfl, ⟨rfl, rfl, (List.append_nil _).symm⟩, rfl, rfl, rfl, rfl⟩
  | cons p rest ih =>
    intro w hsocket
    obtain ⟨w', hexec, hfailed, hnetwork, hsame, hstatus, hchanges⟩ := ih (w := w.failed p) hsocket
    refine ⟨w', ?_, hfailed.cons rfl rfl rfl, hnetwork, hsame, hstatus,
      hchanges.trans (Link.changes_complete _ _ _)⟩
    have hplugged : (w.failed p).link.socket.isSome = true := hsocket
    rw [exec_failAll_cons, Act.exec_bind_ok (exec_contained_connect_plugged hplugged), hexec]
    split <;> rfl

/-- **Without a socket each submitter that would connect again dials**, until one of them is
answered. -/
theorem failAll_unplugged (ps : List Pending) : ∀ {w : Wire ε} {r : Option Nat} {n : Network ε},
    w.link.socket = none → w.link.shutdown = false →
      Redials w.link.url (attempts ps) w.network r n →
        ∃ w', (failAll ps).exec w = (.ok (), w') ∧ w.FailedOn ps w' ∧ w'.network = n ∧
          w'.link.socket = r ∧
          w'.link.status = (if r.isSome then .connected
            else if attempts ps = 0 then w.link.status else .disconnected) ∧
          w'.link.changes = w.link.changes ++ (if r.isSome then [.up] else []) := by
  -- Induction on the commands; what is dialled before one of them goes on after it.
  induction ps with
  | nil =>
    intro w r n hsocket _ hredials
    cases hredials
    exact ⟨w, rfl, ⟨rfl, rfl, (List.append_nil _).symm⟩, rfl, hsocket, rfl,
      (List.append_nil _).symm⟩
  | cons p rest ih =>
    intro w r n hsocket hopen hredials
    have hcomplete : (w.failed p).link.changes = w.link.changes := Link.changes_complete _ _ _
    rw [exec_failAll_cons]
    by_cases hreconnects : p.reconnects = true
    · rw [if_pos hreconnects]
      have htries : attempts (p :: rest) = attempts rest + 1 := List.countP_cons_of_pos hreconnects
      rw [htries] at hredials ⊢
      cases hredials with
      | @opened _ k _ _ hdial =>
        rw [Act.exec_bind_ok (exec_contained_connect_opened (w := w.failed p) hsocket hopen hdial)]
        obtain ⟨w', hexec, hfailed, hnetwork, hsame, hstatus, hchanges⟩ :=
          failAll_plugged rest (w := (w.failed p).opened k n) rfl
        refine ⟨w', hexec, hfailed.cons rfl rfl rfl, hnetwork, hsame, hstatus, ?_⟩
        rw [hchanges, ← hcomplete]
        exact Link.changes_signal _ _
      | @refused _ text _ _ n' _ hdial hrest =>
        rw [Act.exec_bind_ok
          (exec_contained_connect_rejected (w := w.failed p) hsocket hopen hdial)]
        obtain ⟨w', hexec, hfailed, hnetwork, hsame, hstatus, hchanges⟩ :=
          ih (w := (w.failed p).rejected n') hsocket hopen hrest
        refine ⟨w', hexec, hfailed.cons rfl rfl rfl, hnetwork, hsame, ?_, ?_⟩
        · rw [hstatus]
          -- the status is the one that the refusal left, however many attempts follow
          show (if r.isSome then _ else if _ then LinkStatus.disconnected else _) = _
          simp
        · rw [hchanges, ← hcomplete]
          rfl
    · rw [if_neg hreconnects]
      have htries : attempts (p :: rest) = attempts rest := List.countP_cons_of_neg hreconnects
      rw [htries] at hredials ⊢
      obtain ⟨w', hexec, hfailed, hnetwork, hsame, hstatus, hchanges⟩ :=
        ih (w := w.failed p) hsocket hopen hredials
      exact ⟨w', hexec, hfailed.cons rfl rfl rfl, hnetwork, hsame, hstatus,
        hchanges.trans (by rw [hcomplete])⟩

/-! ## §3. Tearing down. -/

/-- **What comes of connecting again while a connection is torn down.**  The socket is the new
one if an attempt has succeeded.  But the link ends up disconnected in any case: its owner is told
that a new connection went down which did not, or is told of no loss at all. -/
theorem teardown_reopening {owner : Option Nat} {k : Nat} {r : Option Nat} {n : Network ε}
    (hsocket : w.link.socket = some k) (howner : w.OwnedBy owner) (hon : w.link.status = .connected)
    (hopen : w.link.shutdown = false) (hplans : w.link.downPlans = [])
    (hclose : (w.network.close k).1 ≠ .error .interrupted)
    (hredials : Redials w.link.url (attempts w.link.pending) (w.network.close k).2 r n) :
    ∃ w', (teardown owner).exec w = (.ok (), w') ∧ w'.network = n ∧ w'.link.socket = r ∧
      w'.link.status = .disconnected ∧ w'.link.pending = [] ∧
      w'.link.outcomes
        = w.link.outcomes ++ w.link.pending.map (fun p => (p.id, lostOutcome)) ∧
      w'.link.changes = w.link.changes ++ toldAfter (attempts w.link.pending) r := by
  let swept : Wire ε := { w.hangUp k with link := { (w.hangUp k).link with pending := [] } }
  -- the commands that were pending are lost one after the other, and some of them connect
  obtain ⟨v, hexec, hfailed, hnetwork, hsame, hstatus, hchanges⟩ :=
    failAll_unplugged w.link.pending (w := swept) rfl hopen hredials
  have hend : (teardown owner).exec w = (.ok (), { v with link := v.link.disconnected }) := by
    unfold teardown
    rw [Act.exec_bind_ok (exec_look w), hplans]
    show (teardownWith _ owner).exec w = _
    rw [exec_teardownWith_owned howner, hsocket]
    have hhangUp : (closeSocket k).exec w.unplugged = (.ok (), w.hangUp k) :=
      exec_closeSocket hclose
    rw [Act.exec_bind_ok hhangUp]
    unfold failPending
    rw [Act.exec_bind_ok (exec_look _), Act.exec_bind_ok (exec_update _ _)]
    show (failAll w.link.pending >>= _).exec swept = _
    rw [Act.exec_bind_ok hexec, exec_becomeDisconnected rfl]
    rfl
  refine ⟨_, hend, hnetwork, (Link.disconnected_socket _).trans hsame, Link.disconnected_status _,
    (Link.disconnected_pending _).trans hfailed.pending,
    (Link.disconnected_outcomes _).trans hfailed.outcomes, ?_⟩
  -- what is told depends on whether the last one to connect left the link open
  show v.link.disconnected.changes = _
  have hbefore : swept.link.changes = w.link.changes := rfl
  rw [hbefore] at hchanges
  change v.link.status = (if r.isSome then _ else if _ then w.link.status else _) at hstatus
  rw [hon] at hstatus
  unfold toldAfter
  cases r with
  | some k' =>
    rw [Link.disconnected_of_connected hstatus, Link.changes_signal]
    show v.link.changes ++ [.down] = _
    rw [hchanges]
    simp
  | none =>
    by_cases hnobody : attempts w.link.pending = 0
    · have hup : v.link.status = .connected := by simpa [hnobody] using hstatus
      rw [Link.disconnected_of_connected hup, Link.changes_signal]
      show v.link.changes ++ [.down] = _
      rw [hchanges]
      simp [hnobody]
    · have hoff : v.link.status ≠ .connected := by simp [hstatus, hnobody]
      rw [Link.disconnected_of_ne hoff]
      show v.link.changes = _
      rw [hchanges]
      simp [hnobody]

/-- A link with a pending command, whose submitter connects again when it fails. -/
def holding (connects : List (Option Breakdown)) : Wire RehearsedHost :=
  let host : RehearsedHost :=
    { connects := connects, rules := [{ method := "A", actions := [.hold] }] }
  (fresh "ws" [] host).afterRun [.connect, .submit "A" (.obj []) true]

theorem teardown_reopening_holding :
    (holding []).link.socket = some 0 ∧ (holding []).link.status = .connected ∧
      attempts (holding []).link.pending = 1 ∧
    ∃ w', (teardown (some 0)).exec (holding []) = (.ok (), w') ∧ w'.link.socket = some 1 ∧
      w'.link.status = .disconnected ∧ w'.link.changes = [.up, .up, .down] := by
  have hclose : ((holding []).network.close 0).1 = .ok () := rfl
  have hredials : Redials (holding []).link.url 1 ((holding []).network.close 0).2 (some 1)
      (((holding []).network.close 0).2.dial (holding []).link.url).2 := .opened rfl
  obtain ⟨w', hexec, _, hsocket, hstatus, _, _, hchanges⟩ :=
    teardown_reopening (w := holding []) (k := 0) rfl (.inr rfl) rfl rfl rfl (by rw [hclose]; nofun)
      hredials
  exact ⟨rfl, rfl, rfl, w', hexec, hsocket, hstatus, hchanges⟩

/-- The stream ends, and the link is read. -/
def streamEnds : List (LinkOp RehearsedHost) :=
  [.stir (fun h => h.enqueue 0 [.ended]), .poll]

/-- **A connection that is opened while another is torn down does not survive** as it should: its
socket is the current one, but the link is disconnected and has told so.  And if it is refused,
nobody is told that the first connection is lost. -/
theorem reopened_disconnected :
    (((holding []).afterRun streamEnds).link.socket = some 1 ∧
      ((holding []).afterRun streamEnds).link.status = .disconnected ∧
      ((holding []).afterRun streamEnds).link.changes = [.up, .up, .down]) ∧
    ((holding [none, some (.error "refused")]).afterRun streamEnds).link.socket = none ∧
      ((holding [none, some (.error "refused")]).afterRun streamEnds).link.changes = [.up] :=
  ⟨⟨rfl, rfl, rfl⟩, rfl, rfl⟩

end Wire
end FlowTrace
