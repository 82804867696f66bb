/-
  FlowTrace.Proofs.Link.Correlation
  ────────────────────────────────
  **COMMANDS AND REPLIES BELONG TOGETHER.**

  A command that is pending, or an orphan of a lost connection, is called open.
  The invariant of a link says where the numbers of open, finished and retired
  commands lie, and what the history knows of each.  Every move preserves it: all
  but a submission only take commands out of the open ones, at most one of them by
  finishing it.

      pending   — numbered below the next number, each as it was submitted
      sent      — the numbers on the wire increase
      finished  — once each: by the first response with its number, or by a loss
      retired   — timed out, never awaited or never sent, and so never finished
-/
import FlowTrace.Link.Rehearsal
import FlowTrace.Proofs.Link.Run

namespace FlowTrace

/-! ## §1. What a history tells. -/

section History

variable {ε : Type} {h h' : List (Moment ε)} {p : Pending}

/-- The command was created with its number, which was the next one, and sent
under it. -/
def Submitted (h : List (Moment ε)) (p : Pending) : Prop :=
  ∃ x ∈ h, ∃ e, x.deed = .submitted p e ∧ p.id = x.wire.link.nextId ∧ e.id = p.id ∧
    e.method = p.method

/-- The connection was lost while the command was pending. -/
def LostIn (h : List (Moment ε)) (p : Pending) : Prop :=
  ∃ x ∈ h, ∃ s, x.deed = .lost s ∧ x.wire.link.socket = some s ∧ p ∈ x.wire.link.pending

/-- No response with the number of the command was taken in while it was pending. -/
def Unheard (h : List (Moment ε)) (p : Pending) : Prop :=
  ∀ x ∈ h, p ∈ x.wire.link.pending → ∀ m, x.deed = .heard m → ¬ Answers m p.id

theorem Submitted.append (hp : Submitted h p) : Submitted (h ++ h') p := by
  obtain ⟨x, hx, rest⟩ := hp
  exact ⟨x, List.mem_append_left h' hx, rest⟩

theorem LostIn.append (hp : LostIn h p) : LostIn (h ++ h') p := by
  obtain ⟨x, hx, rest⟩ := hp
  exact ⟨x, List.mem_append_left h' hx, rest⟩

theorem Unheard.append (hp : Unheard h p) (hp' : Unheard h' p) : Unheard (h ++ h') p := by
  intro x hx
  rcases List.mem_append.mp hx with hx | hx
  · exact hp x hx
  · exact hp' x hx

theorem Retired.append {id : Nat} (hid : Retired (h ++ h') id) : Retired h id ∨ Retired h' id := by
  obtain ⟨x, hx, rest⟩ := hid
  rcases List.mem_append.mp hx with hx | hx
  · exact .inl ⟨x, hx, rest⟩
  · exact .inr ⟨x, hx, rest⟩

theorem retired_singleton {x : Moment ε} {id : Nat} : Retired [x] id ↔ x.Retires id := by
  simp [Retired]

variable {w : Wire ε} {d : Deed}

/-- A response is taken in by hearing it. -/
theorem unheard_of_ne (hheard : ∀ m, d ≠ .heard m) (p : Pending) : Unheard [⟨w, d⟩] p := by
  intro x hx _ m hm
  obtain rfl := List.mem_singleton.mp hx
  exact absurd hm (hheard m)

/-- A deed that neither answers nor retires a command. -/
def Deed.Quiet : Deed → Prop
  | .heard _ => False
  | .timedOut _ => False
  | .notified _ => False
  | .numbered => False
  | _ => True

theorem Deed.Quiet.ne_heard (hquiet : d.Quiet) (m : List (String × Json)) : d ≠ .heard m := by
  rintro rfl
  exact hquiet

theorem Deed.Quiet.not_retired (hquiet : d.Quiet) (id : Nat) : ¬ Retired [⟨w, d⟩] id := by
  rw [retired_singleton]
  unfold Moment.Retires
  cases d <;> first | exact fun hid => hid | exact hquiet.elim

variable [Endpoint ε]

/-- The response is taken in from a frame of the current socket. -/
def Moment.Hears (x : Moment ε) (m : List (String × Json)) : Prop :=
  x.deed = .heard m ∧ IsResponse m ∧ ∃ s frame, x.wire.link.socket = some s ∧
    (x.wire.network.receive s).1 = some frame ∧ frame.fields? = some m

/-- The response was taken in while the command was pending.  It is the first one
with the number of the command, and has the number of no other. -/
def AnsweredBy (h : List (Moment ε)) (p : Pending) (m : List (String × Json)) : Prop :=
  ∃ before x after, h = before ++ x :: after ∧ x.Hears m ∧ p ∈ x.wire.link.pending ∧
    Unheard before p ∧ ∀ id, Answers m id ↔ id = p.id

/-- The outcome of a command comes from a response or from a loss. -/
def Completed (h : List (Moment ε)) (id : Nat) (r : Outcome) : Prop :=
  ∃ p, p.id = id ∧ Submitted h p ∧
    ((∃ m, AnsweredBy h p m ∧ r = Link.replyOutcome p.method m) ∨ (LostIn h p ∧ r = lostOutcome))

theorem AnsweredBy.append {m : List (String × Json)} (hp : AnsweredBy h p m) :
    AnsweredBy (h ++ h') p m := by
  obtain ⟨before, x, after, rfl, rest⟩ := hp
  exact ⟨before, x, after ++ h', by simp, rest⟩

theorem Completed.append {id : Nat} {r : Outcome} (hc : Completed h id r) :
    Completed (h ++ h') id r := by
  obtain ⟨p, hid, hsubmitted, ⟨m, hanswered, hr⟩ | ⟨hlost, hr⟩⟩ := hc
  · exact ⟨p, hid, hsubmitted.append, .inl ⟨m, hanswered.append, hr⟩⟩
  · exact ⟨p, hid, hsubmitted.append, .inr ⟨hlost.append, hr⟩⟩

end History

/-! ## §2. The invariant. -/

section Invariant

variable {ε : Type}

/-- The numbers of the open commands. -/
def Wire.openIds (w : Wire ε) (o : List Pending) : List Nat := (w.link.pending ++ o).map (·.id)

/-- The command will fail for a loss, unless it is abandoned. -/
def Doomed (w : Wire ε) (o : List Pending) (p : Pending) : Prop :=
  p ∈ o ∨ (w.link.socket = none ∧ p ∈ w.link.pending)

variable {h : List (Moment ε)} {w w' : Wire ε} {o o' : List Pending} {d : Deed} {p : Pending}

/-- The open commands after a submission are the new one and the others. -/
theorem open_perm (hlink : w'.link = w.link.allocate.2.addPending p) (o : List Pending) :
    (w'.link.pending ++ o).Perm (p :: (w.link.pending ++ o)) := by
  rw [hlink]
  show ((w.link.pending ++ [p]) ++ o).Perm _
  rw [List.append_assoc]
  exact List.perm_middle

variable [Endpoint ε]

/-- What holds of a state and its orphans after a history. -/
structure Sound (h : List (Moment ε)) (w : Wire ε) (o : List Pending) : Prop where
  open_lt : ∀ id ∈ w.openIds o, id < w.link.nextId
  open_nodup : (w.openIds o).Nodup
  open_unfinished : ∀ id ∈ w.openIds o, id ∉ w.link.finished
  submitted : ∀ p ∈ w.link.pending ++ o, Submitted h p
  unheard : ∀ p ∈ w.link.pending ++ o, Unheard h p
  lost : ∀ p, Doomed w o p → LostIn h p
  finished_lt : ∀ id ∈ w.link.finished, id < w.link.nextId
  finished_nodup : w.link.finished.Nodup
  completed : ∀ c ∈ w.link.outcomes, Completed h c.1 c.2
  retired : ∀ id, Retired h id → id < w.link.nextId ∧ id ∉ w.openIds o ∧ id ∉ w.link.finished
  past_lt : ∀ x ∈ h, ∀ p ∈ x.wire.link.pending, p.id < w.link.nextId

theorem Sound.pending_lt (hsound : Sound h w o) (hp : p ∈ w.link.pending) :
    p.id < w.link.nextId :=
  hsound.open_lt p.id (List.mem_map_of_mem (List.mem_append_left o hp))

/-- No state up to now has a command that is still to come. -/
theorem Sound.past_lt_last (hsound : Sound h w o) {x : Moment ε} (hx : x ∈ h ++ [⟨w, d⟩])
    (hp : p ∈ x.wire.link.pending) : p.id < w.link.nextId := by
  rcases List.mem_append.mp hx with hx | hx
  · exact hsound.past_lt x hx p hp
  · obtain rfl := List.mem_singleton.mp hx
    exact hsound.pending_lt hp

/-- What a move that takes no new command does: some commands are open no longer,
of which one may have finished. -/
structure Settles (h : List (Moment ε)) (w : Wire ε) (o : List Pending) (d : Deed) (w' : Wire ε)
    (o' : List Pending) (settled : Option (Pending × Outcome)) : Prop where
  nextId_le : w.link.nextId ≤ w'.link.nextId
  open_sub : (w'.link.pending ++ o').Sublist (w.link.pending ++ o)
  outcomes_eq : w'.link.outcomes = w.link.outcomes ++ (settled.map (fun c => (c.1.id, c.2))).toList
  completed : ∀ c, settled = some c → c.1 ∈ w.link.pending ++ o ∧ c.1.id ∉ w'.openIds o' ∧
    Completed (h ++ [⟨w, d⟩]) c.1.id c.2
  unheard : ∀ p ∈ w'.link.pending ++ o', Unheard [⟨w, d⟩] p
  lost : ∀ p, Doomed w' o' p → Doomed w o p ∨ LostIn [⟨w, d⟩] p
  retired : ∀ id, Retired [⟨w, d⟩] id →
    id < w'.link.nextId ∧ id ∉ w'.openIds o' ∧ id ∉ w'.link.finished

namespace Settles

variable {settled : Option (Pending × Outcome)}

theorem openIds_sublist (hstep : Settles h w o d w' o' settled) :
    (w'.openIds o').Sublist (w.openIds o) := hstep.open_sub.map _

theorem finished_eq (hstep : Settles h w o d w' o' settled) :
    w'.link.finished = w.link.finished ++ (settled.map (·.1.id)).toList := by
  unfold Link.finished
  rw [hstep.outcomes_eq, List.map_append]
  cases settled <;> rfl

/-- The command that finishes was open and is so no longer. -/
theorem of_mem_settled (hstep : Settles h w o d w' o' settled) {id : Nat}
    (hid : id ∈ (settled.map (·.1.id)).toList) : id ∈ w.openIds o ∧ id ∉ w'.openIds o' := by
  cases settled with
  | none => simp at hid
  | some c =>
    obtain ⟨hmem, hgone, _⟩ := hstep.completed c rfl
    obtain rfl : id = c.1.id := by simpa using hid
    exact ⟨List.mem_map_of_mem hmem, hgone⟩

theorem mem_finished (hstep : Settles h w o d w' o' settled) {id : Nat}
    (hid : id ∈ w'.link.finished) :
    id ∈ w.link.finished ∨ (id ∈ w.openIds o ∧ id ∉ w'.openIds o') := by
  rw [hstep.finished_eq] at hid
  rcases List.mem_append.mp hid with hold | hlast
  · exact .inl hold
  · exact .inr (hstep.of_mem_settled hlast)

end Settles

/-- A move that takes no new command preserves the invariant. -/
theorem Sound.settle (hsound : Sound h w o) {settled : Option (Pending × Outcome)}
    (hstep : Settles h w o d w' o' settled) : Sound (h ++ [⟨w, d⟩]) w' o' where
  open_lt := by
    intro id hid
    have := hsound.open_lt id (hstep.openIds_sublist.subset hid)
    have := hstep.nextId_le
    omega
  open_nodup := hsound.open_nodup.sublist hstep.openIds_sublist
  open_unfinished := by
    intro id hid hfin
    rcases hstep.mem_finished hfin with hold | ⟨_, hgone⟩
    · exact hsound.open_unfinished id (hstep.openIds_sublist.subset hid) hold
    · exact hgone hid
  submitted := fun p hp => (hsound.submitted p (hstep.open_sub.subset hp)).append
  unheard := fun p hp =>
    (hsound.unheard p (hstep.open_sub.subset hp)).append (hstep.unheard p hp)
  lost := by
    intro p hp
    rcases hstep.lost p hp with hdoomed | ⟨x, hx, rest⟩
    · exact (hsound.lost p hdoomed).append
    · exact ⟨x, List.mem_append_right h hx, rest⟩
  finished_lt := by
    intro id hid
    apply Nat.lt_of_lt_of_le _ hstep.nextId_le
    rcases hstep.mem_finished hid with hold | ⟨hopen, _⟩
    · exact hsound.finished_lt id hold
    · exact hsound.open_lt id hopen
  finished_nodup := by
    rw [hstep.finished_eq, List.nodup_append]
    refine ⟨hsound.finished_nodup, by cases settled <;> simp, ?_⟩
    intro a ha b hb hab
    -- a command that is settled now was open, and an open one has no outcome yet
    exact hsound.open_unfinished b (hstep.of_mem_settled hb).1 (hab ▸ ha)
  completed := by
    intro c hc
    rw [hstep.outcomes_eq] at hc
    rcases List.mem_append.mp hc with hold | hlast
    · exact (hsound.completed c hold).append
    · cases hs : settled with
      | none => simp [hs] at hlast
      | some c' =>
        obtain rfl : c = (c'.1.id, c'.2) := by simpa [hs] using hlast
        exact (hstep.completed c' hs).2.2
  retired := by
    intro id hid
    rcases hid.append with hold | hlast
    · obtain ⟨hlt, hnotOpen, hnotFinished⟩ := hsound.retired id hold
      refine ⟨Nat.lt_of_lt_of_le hlt hstep.nextId_le, fun hin => ?_, fun hfin => ?_⟩
      · exact hnotOpen (hstep.openIds_sublist.subset hin)
      · rcases hstep.mem_finished hfin with hfin | ⟨hopen, _⟩
        · exact hnotFinished hfin
        · exact hnotOpen hopen
    · exact hstep.retired id hlast
  past_lt := by
    intro x hx p hp
    exact Nat.lt_of_lt_of_le (hsound.past_lt_last hx hp) hstep.nextId_le

/-- A submitted command is open from then on. -/
theorem Sound.submit (hsound : Sound h w o) {s : Nat} {e : Envelope}
    (hsocket : w.link.socket = some s) (hid : p.id = w.link.nextId) (he : e.id = p.id)
    (hmethod : e.method = p.method) (hlink : w'.link = w.link.allocate.2.addPending p) :
    Sound (h ++ [⟨w, .submitted p e⟩]) w' o := by
  have hnext : w'.link.nextId = w.link.nextId + 1 := by rw [hlink]; rfl
  have hfinished : w'.link.finished = w.link.finished := by rw [hlink]; rfl
  -- the open commands are those before, and the new one
  have hperm := open_perm hlink o
  have hids : (w'.openIds o).Perm (p.id :: w.openIds o) := hperm.map _
  -- its number is the next one, and all numbers given out are below that
  have hfresh : p.id ∉ w.openIds o := by
    intro hin
    have := hsound.open_lt p.id hin
    omega
  constructor
  case open_lt =>
    intro id hin
    rcases List.mem_cons.mp (hids.subset hin) with rfl | hold
    · omega
    · have := hsound.open_lt id hold
      omega
  case open_nodup =>
    exact hids.nodup_iff.mpr (List.nodup_cons.mpr ⟨hfresh, hsound.open_nodup⟩)
  case open_unfinished =>
    intro id hin
    rw [hfinished]
    rcases List.mem_cons.mp (hids.subset hin) with rfl | hold
    · intro hfin
      have := hsound.finished_lt p.id hfin
      omega
    · exact hsound.open_unfinished id hold
  case submitted =>
    intro q hq
    rcases List.mem_cons.mp (hperm.subset hq) with rfl | hold
    · exact ⟨⟨w, .submitted q e⟩, by simp, e, rfl, hid, he, hmethod⟩
    · exact (hsound.submitted q hold).append
  case unheard =>
    intro q hq
    rcases List.mem_cons.mp (hperm.subset hq) with rfl | hold
    · -- no earlier state has the new command
      intro x hx hin
      have := hsound.past_lt_last hx hin
      omega
    · exact (hsound.unheard q hold).append (unheard_of_ne (by simp) q)
  case lost =>
    intro q hq
    rcases hq with hq | ⟨hnone, _⟩
    · exact (hsound.lost q (.inl hq)).append
    · rw [hlink] at hnone
      cases hsocket.symm.trans hnone
  case finished_lt =>
    intro id hin
    rw [hfinished] at hin
    have := hsound.finished_lt id hin
    omega
  case finished_nodup =>
    rw [hfinished]
    exact hsound.finished_nodup
  case completed =>
    intro c hc
    rw [hlink] at hc
    exact (hsound.completed c hc).append
  case retired =>
    intro id hretired
    -- to submit a command retires none, so it was retired before
    rcases hretired.append with hold | hlast
    · obtain ⟨hlt, hnotOpen, hnotFinished⟩ := hsound.retired id hold
      refine ⟨by omega, fun hin => ?_, by rwa [hfinished]⟩
      rcases List.mem_cons.mp (hids.subset hin) with rfl | hin
      · omega
      · exact hnotOpen hin
    · exact (retired_singleton.mp hlast).elim
  case past_lt =>
    intro x hx q hq
    have := hsound.past_lt_last hx hq
    omega

/-- A move that finishes nothing: a socket may come, and commands may go. -/
theorem Settles.still (hnext : w.link.nextId ≤ w'.link.nextId)
    (hpending : w'.link.pending.Sublist w.link.pending) (hout : w'.link.outcomes = w.link.outcomes)
    (hsocket : w'.link.socket = none → w.link.socket = none) (hheard : ∀ m, d ≠ .heard m)
    (hretired : ∀ id, Retired [⟨w, d⟩] id →
      id < w'.link.nextId ∧ id ∉ w'.openIds o ∧ id ∉ w'.link.finished) :
    Settles h w o d w' o none where
  nextId_le := hnext
  open_sub := hpending.append_right o
  outcomes_eq := by simp [hout]
  completed := by simp
  unheard := fun p _ => unheard_of_ne hheard p
  lost := by
    intro p hp
    rcases hp with hp | ⟨hnone, hp⟩
    · exact .inl (.inl hp)
    · exact .inl (.inr ⟨hsocket hnone, hpending.subset hp⟩)
  retired := hretired

/-- Most moves finish nothing and are quiet. -/
theorem Settles.quiet (hnext : w.link.nextId ≤ w'.link.nextId)
    (hpending : w'.link.pending.Sublist w.link.pending) (hout : w'.link.outcomes = w.link.outcomes)
    (hsocket : w'.link.socket = none → w.link.socket = none) (hquiet : d.Quiet) :
    Settles h w o d w' o none :=
  .still hnext hpending hout hsocket hquiet.ne_heard (fun id hid => absurd hid (hquiet.not_retired id))

/-- A command that finishes is none of the others that are open. -/
theorem Sound.settles_fail (hsound : Sound h w (p :: o)) :
    Settles h w (p :: o) (.failed p) { w with link := w.link.complete p.id lostOutcome } o
      (some (p, lostOutcome)) where
  nextId_le := Nat.le_refl _
  open_sub := (List.sublist_cons_self p o).append_left w.link.pending
  outcomes_eq := rfl
  completed := by
    rintro _ ⟨⟩
    have hin : p ∈ w.link.pending ++ p :: o := by simp
    have hnodup : (p.id :: w.openIds o).Nodup :=
      (List.perm_middle.map Pending.id).nodup_iff.mp hsound.open_nodup
    refine ⟨hin, (List.nodup_cons.mp hnodup).1, p, rfl, (hsound.submitted p hin).append, ?_⟩
    exact .inr ⟨(hsound.lost p (.inl (List.mem_cons_self ..))).append, rfl⟩
  unheard := fun q _ => unheard_of_ne (by simp) q
  lost := by
    intro q hq
    rcases hq with hq | hq
    · exact .inl (.inl (List.mem_cons_of_mem p hq))
    · exact .inl (.inr hq)
  retired := fun id hid => absurd hid (Deed.Quiet.not_retired (d := .failed p) trivial id)

/-- A response that finishes a command. -/
theorem Sound.settles_hear (hsound : Sound h w o) {m : List (String × Json)} {n : Network ε}
    (hhears : Moment.Hears ⟨w, .heard m⟩ m) (hp : p ∈ w.link.pending)
    (hanswers : Answers m p.id) :
    Settles h w o (.heard m)
      { link := (w.link.dropPending p.id).complete p.id (Link.replyOutcome p.method m), network := n }
      o (some (p, Link.replyOutcome p.method m)) := by
  have hin : p ∈ w.link.pending ++ o := List.mem_append_left o hp
  -- the numbers of the open commands differ, so dropping this one leaves none with its number
  have hgone : p.id ∉ ((w.link.dropPending p.id).pending ++ o).map (·.id) := by
    have hnodup := hsound.open_nodup
    unfold Wire.openIds at hnodup
    rw [List.map_append, List.nodup_append] at hnodup
    rw [List.map_append]
    intro hmem
    rcases List.mem_append.mp hmem with hmem | hmem
    · obtain ⟨q, hq, hqid⟩ := List.mem_map.mp hmem
      have hkept := (List.mem_filter.mp hq).2
      simp [hqid] at hkept
    · exact hnodup.2.2 p.id (List.mem_map_of_mem hp) p.id hmem rfl
  constructor
  case nextId_le => exact Nat.le_refl _
  case open_sub => exact List.filter_sublist.append_right o
  case outcomes_eq => rfl
  case completed =>
    rintro _ ⟨⟩
    refine ⟨hin, hgone, p, rfl, (hsound.submitted p hin).append, .inl ⟨m, ?_, rfl⟩⟩
    refine ⟨h, ⟨w, .heard m⟩, [], rfl, hhears, hp, hsound.unheard p hin, fun id => ?_⟩
    exact ⟨fun hid => hid.unique hanswers, fun hid => hid ▸ hanswers⟩
  case unheard =>
    intro q hq x hx _ m' hheard hq'
    obtain rfl := List.mem_singleton.mp hx
    obtain rfl : m = m' := Deed.heard.inj hheard
    have hqid : q.id = p.id := hq'.unique hanswers
    exact hgone (List.mem_map.mpr ⟨q, hq, hqid⟩)
  case lost =>
    intro q hq
    rcases hq with hq | ⟨hnone, hq⟩
    · exact .inl (.inl hq)
    · exact .inl (.inr ⟨hnone, (List.mem_filter.mp hq).1⟩)
  case retired => exact fun id hid => (retired_singleton.mp hid).elim

/-- A number that is taken and retired at once is the number of no command. -/
theorem Sound.settles_take (hsound : Sound h w o) (hnext : w'.link.nextId = w.link.nextId + 1)
    (hpending : w'.link.pending.Sublist w.link.pending) (hout : w'.link.outcomes = w.link.outcomes)
    (hsocket : w'.link.socket = w.link.socket) (hheard : ∀ m, d ≠ .heard m)
    (hretires : ∀ id, Moment.Retires ⟨w, d⟩ id → w.link.nextId = id) :
    Settles h w o d w' o none := by
  refine .still (by omega) hpending hout (fun hnone => hsocket ▸ hnone) hheard fun id hid => ?_
  obtain rfl := hretires id (retired_singleton.mp hid)
  refine ⟨by omega, fun hopen => ?_, fun hfin => ?_⟩
  · have hold := ((hpending.append_right o).map (·.id)).subset hopen
    exact Nat.lt_irrefl _ (hsound.open_lt _ hold)
  · unfold Link.finished at hfin
    rw [hout] at hfin
    exact Nat.lt_irrefl _ (hsound.finished_lt _ hfin)

/-- A command that times out has no outcome and is open no longer. -/
theorem Settles.timeOut {id : Nat} (hnone : w.link.outcome? id = none) :
    Settles h w [] (.timedOut id) { w with link := w.link.dropPending id } [] none := by
  refine .still (Nat.le_refl _) List.filter_sublist rfl (fun hnone => hnone) (by simp) ?_
  intro id' hid'
  obtain ⟨rfl, hlt⟩ := retired_singleton.mp hid'
  refine ⟨hlt, fun hopen => ?_, fun hfin => ?_⟩
  · obtain ⟨p, hp, hid⟩ := List.mem_map.mp hopen
    have hkept : p ∈ (w.link.dropPending id).pending := by simpa using hp
    simpa [hid] using (List.mem_filter.mp hkept).2
  · obtain ⟨c, hc, hid⟩ := List.mem_map.mp hfin
    have hno := List.lookup_eq_none_iff.mp hnone c hc
    simp [hid] at hno

/-- A response that finishes no command. -/
theorem Settles.unanswered {m : List (String × Json)} {l : Link} {n : Network ε}
    (hkeeps : w.link.Keeps l) (hsocket : l.socket = w.link.socket)
    (hno : ∀ p ∈ w.link.pending, ¬ Answers m p.id) :
    Settles h w o (.heard m) { link := l, network := n } o none where
  nextId_le := Nat.le_of_eq hkeeps.nextId.symm
  open_sub := by simp [hkeeps.pending]
  outcomes_eq := by simp [hkeeps.outcomes]
  completed := by simp
  unheard := by
    intro p _ x hx hp m' hheard
    obtain rfl := List.mem_singleton.mp hx
    obtain rfl : m = m' := Deed.heard.inj hheard
    exact hno p hp
  lost := by
    intro p hp
    unfold Doomed at hp
    rw [hsocket, hkeeps.pending] at hp
    exact .inl hp
  retired := fun id hid => (retired_singleton.mp hid).elim

/-- A move that changes who is doomed and nothing else that the numbering depends on. -/
theorem Settles.doom (hnext : w'.link.nextId = w.link.nextId)
    (hout : w'.link.outcomes = w.link.outcomes)
    (hopen : (w'.link.pending ++ o').Sublist (w.link.pending ++ o)) (hquiet : d.Quiet)
    (hlost : ∀ p, Doomed w' o' p → Doomed w o p ∨ LostIn [⟨w, d⟩] p) :
    Settles h w o d w' o' none where
  nextId_le := Nat.le_of_eq hnext.symm
  open_sub := hopen
  outcomes_eq := by simp [hout]
  completed := by simp
  unheard := fun p _ => unheard_of_ne hquiet.ne_heard p
  lost := hlost
  retired := fun id hid => absurd hid (hquiet.not_retired id)

/-- Every move preserves the invariant. -/
theorem Sound.step (hsound : Sound h w o) (move : Move w o d w' o') :
    Sound (h ++ [⟨w, d⟩]) w' o' := by
  -- Only a submission adds to the open commands; the others settle at most one.
  cases move with
  | submit p e hsocket hid he hmethod => exact hsound.submit hsocket hid he hmethod rfl
  | notify e hsocket he =>
    exact hsound.settle (hsound.settles_take rfl (.refl _) rfl rfl (by simp)
      (fun id hid => he.symm.trans hid))
  | number =>
    exact hsound.settle (hsound.settles_take rfl (.refl _) rfl rfl (by simp) (fun id hid => hid))
  | refuse p hid =>
    have hsub : ((w.link.allocate.2.addPending p).dropPending p.id).pending.Sublist
        w.link.pending := by
      show ((w.link.pending ++ [p]).filter (fun q => q.id != p.id)).Sublist _
      rw [List.filter_append]
      simp
    exact hsound.settle (hsound.settles_take rfl hsub rfl rfl (by simp) (fun id hid => hid))
  | dial b hdial => exact hsound.settle (.quiet (Nat.le_refl _) (.refl _) rfl (fun h => h) trivial)
  | attach s hkeeps hdial hnone hsome =>
    exact hsound.settle (.quiet (Nat.le_of_eq hkeeps.nextId.symm) (hkeeps.pending ▸ .refl _)
      hkeeps.outcomes (fun _ => hnone) trivial)
  | hear message hsocket hframe hspells hresponse =>
    rcases w.link.answer_cases message with ⟨hkeeps, hsame, hno⟩ | ⟨p, hp, hanswers, heq⟩
    · exact hsound.settle (.unanswered hkeeps hsame hno)
    · rw [heq]
      have hhears : Moment.Hears ⟨w, .heard message⟩ message :=
        ⟨rfl, hresponse, _, _, hsocket, hframe, hspells⟩
      exact hsound.settle (hsound.settles_hear hhears hp hanswers)
  | overhear s hno => exact hsound.settle (.quiet (Nat.le_refl _) (.refl _) rfl (fun h => h) trivial)
  | lose s hsocket =>
    -- What is pending is doomed from now on, and this is the loss of it.
    refine hsound.settle (.doom rfl rfl (.refl _) trivial ?_)
    rintro p (hp | ⟨_, hp⟩)
    · exact .inl (.inl hp)
    · exact .inr ⟨_, List.mem_singleton_self _, s, rfl, hsocket, hp⟩
  | sweep hsocket =>
    -- Without a socket the pending commands are doomed already.
    refine hsound.settle (.doom rfl rfl (.refl _) trivial ?_)
    rintro p (hp | ⟨_, hp⟩)
    · rcases List.mem_append.mp hp with hp | hp
      · exact .inl (.inr ⟨hsocket, hp⟩)
      · exact .inl (.inl hp)
    · cases hp
  | fail p => exact hsound.settle hsound.settles_fail
  | abandon ps =>
    have hsub : (w.link.pending ++ o').Sublist (w.link.pending ++ (ps ++ o')) :=
      (List.sublist_append_right ps o').append_left w.link.pending
    refine hsound.settle (.doom rfl rfl hsub trivial ?_)
    rintro p (hp | hp)
    · exact .inl (.inl (List.mem_append_right ps hp))
    · exact .inl (.inr hp)
  | timeOut id hnone => exact hsound.settle (.timeOut hnone)
  | stir f => exact hsound.settle (.quiet (Nat.le_refl _) (.refl _) rfl (fun h => h) trivial)
  | other hkeeps hsocket =>
    exact hsound.settle (.quiet (Nat.le_of_eq hkeeps.nextId.symm) (hkeeps.pending ▸ .refl _)
      hkeeps.outcomes (fun hnone => hsocket ▸ hnone) trivial)

/-- What holds before a sequence of moves holds after it. -/
theorem Moves.sound {h' : List (Moment ε)} (moves : Moves w o h' w' o') :
    ∀ h, Sound h w o → Sound (h ++ h') w' o' := by
  induction moves with
  | nil => exact fun h hsound => by simpa using hsound
  | cons move _ ih =>
    intro h hsound
    rw [List.append_cons]
    exact ih _ (hsound.step move)

end Invariant

/-! ## §3. Numbers on the wire. -/

/-- The number of what was put on the wire, if it is a command. -/
def Traffic.sentId? : Traffic → Option Nat
  | sent e => some e.id
  | dialled _ => none

section Sent

variable {ε : Type}

/-- The numbers of the commands that were put on the wire, in order. -/
def Network.sentIds (n : Network ε) : List Nat := n.log.filterMap Traffic.sentId?

/-- The numbers on the wire increase, and the next one is larger than all of them. -/
structure SentInOrder (w : Wire ε) : Prop where
  sent_lt : ∀ id ∈ w.network.sentIds, id < w.link.nextId
  sent_increasing : w.network.sentIds.Pairwise (· < ·)

variable [Endpoint ε] {w w' : Wire ε} {o o' : List Pending} {d : Deed} {h : List (Moment ε)}

theorem Network.sentIds_send (n : Network ε) (s : Nat) (e : Envelope) :
    (n.send s e).2.sentIds = n.sentIds ++ [e.id] := by
  unfold sentIds send
  simp [Traffic.sentId?]

/-- A move puts a command on the wire under the next number, or none. -/
theorem Move.sent (move : Move w o d w' o') :
    w'.network.sentIds = w.network.sentIds ∨
      (w'.network.sentIds = w.network.sentIds ++ [w.link.nextId] ∧
        w'.link.nextId = w.link.nextId + 1) := by
  have hdialled : (w.network.dial w.link.url).2.sentIds = w.network.sentIds := by
    simp [Network.sentIds, Network.dial, Traffic.sentId?]
  cases move with
  | submit p e hsocket hid he hmethod =>
    refine .inr ⟨?_, rfl⟩
    rw [← hid, ← he]
    exact w.network.sentIds_send _ e
  | notify e hsocket he =>
    refine .inr ⟨?_, rfl⟩
    rw [← he]
    exact w.network.sentIds_send _ e
  | dial b hdial => exact .inl hdialled
  | attach s hkeeps hdial hnone hsome => exact .inl hdialled
  | _ => exact .inl rfl

theorem SentInOrder.step (hsent : SentInOrder w) (move : Move w o d w' o') : SentInOrder w' := by
  rcases move.sent with hsame | ⟨hmore, hnext⟩
  · refine ⟨fun id hid => ?_, hsame ▸ hsent.sent_increasing⟩
    rw [hsame] at hid
    exact Nat.lt_of_lt_of_le (hsent.sent_lt id hid) move.numbers.1
  · constructor
    · intro id hid
      rw [hmore] at hid
      rcases List.mem_append.mp hid with hid | hid
      · have := hsent.sent_lt id hid
        omega
      · obtain rfl := List.mem_singleton.mp hid
        omega
    · rw [hmore, List.pairwise_append]
      refine ⟨hsent.sent_increasing, List.pairwise_singleton _ _, fun a ha b hb => ?_⟩
      obtain rfl := List.mem_singleton.mp hb
      exact hsent.sent_lt a ha

theorem Moves.sentInOrder (moves : Moves w o h w' o') : SentInOrder w → SentInOrder w' := by
  induction moves with
  | nil => exact fun hsent => hsent
  | cons move _ ih => exact fun hsent => ih (hsent.step move)

end Sent

/-! ## §4. Correlation. -/

section Correlation

variable {ε : Type} [Endpoint ε]

/-- Commands and replies belong together in a state, as its history tells. -/
structure Correlated (h : List (Moment ε)) (w : Wire ε) : Prop where
  /-- Pending commands have numbers of their own below the next one, -/
  pending_lt : ∀ p ∈ w.link.pending, p.id < w.link.nextId
  pending_nodup : (w.link.pending.map (·.id)).Nodup
  /-- under which they were created and sent, -/
  pending_submitted : ∀ p ∈ w.link.pending, Submitted h p
  /-- and no outcome. -/
  pending_unfinished : ∀ p ∈ w.link.pending, p.id ∉ w.link.finished
  /-- The numbers on the wire increase. -/
  sent_increasing : w.network.sentIds.Pairwise (· < ·)
  /-- A command finishes once: -/
  finished_nodup : w.link.finished.Nodup
  /-- by the first response with its number that is taken in while it is pending, -/
  answered : ∀ id r, (id, r) ∈ w.link.outcomes → r ≠ lostOutcome →
    ∃ p m, p.id = id ∧ Submitted h p ∧ AnsweredBy h p m ∧ r = Link.replyOutcome p.method m
  /-- or by a loss of the connection while it is pending. -/
  lost : ∀ id, (id, lostOutcome) ∈ w.link.outcomes →
    ∃ p, p.id = id ∧ Submitted h p ∧ LostIn h p
  /-- A command that timed out, is not awaited or was not sent never finishes. -/
  retired : ∀ id, Retired h id → id ∉ w.link.pending.map (·.id) ∧ id ∉ w.link.finished

/-- The invariant says that commands and replies belong together. -/
theorem Sound.correlated {h : List (Moment ε)} {w : Wire ε} {o : List Pending}
    (hsound : Sound h w o) (hsent : SentInOrder w) : Correlated h w := by
  have hids : (w.link.pending.map (·.id)).Sublist (w.openIds o) :=
    (List.sublist_append_left w.link.pending o).map _
  constructor
  case pending_lt => exact fun p hp => hsound.pending_lt hp
  case pending_nodup => exact hsound.open_nodup.sublist hids
  case pending_submitted => exact fun p hp => hsound.submitted p (List.mem_append_left o hp)
  case pending_unfinished =>
    exact fun p hp => hsound.open_unfinished p.id (hids.subset (List.mem_map_of_mem hp))
  case sent_increasing => exact hsent.sent_increasing
  case finished_nodup => exact hsound.finished_nodup
  case answered =>
    intro id r hr hne
    obtain ⟨p, hid, hsubmitted, ⟨m, hanswered, hreply⟩ | ⟨_, hlost⟩⟩ := hsound.completed _ hr
    · exact ⟨p, m, hid, hsubmitted, hanswered, hreply⟩
    · exact absurd hlost hne
  case lost =>
    intro id hr
    obtain ⟨p, hid, hsubmitted, ⟨m, _, hreply⟩ | ⟨hlost, _⟩⟩ := hsound.completed _ hr
    · exact absurd hreply.symm (Link.replyOutcome_ne_lost p.method m)
    · exact ⟨p, hid, hsubmitted, hlost⟩
  case retired =>
    intro id hretired
    obtain ⟨_, hnotOpen, hnotFinished⟩ := hsound.retired id hretired
    exact ⟨fun hin => hnotOpen (hids.subset hin), hnotFinished⟩

/-- A link that was never used has nothing to tell. -/
theorem sound_fresh (url : Json) (downPlans : List (List (List DownAction))) (endpoint : ε) :
    Sound [] (Wire.fresh url downPlans endpoint) [] := by
  constructor <;> simp [Wire.fresh, Wire.openIds, Link.finished, Doomed, Retired]

/-- Whatever moves lead from there, commands and replies belong together. -/
theorem Moves.correlated {url : Json} {downPlans : List (List (List DownAction))} {endpoint : ε}
    {h : List (Moment ε)} {w : Wire ε} {o : List Pending}
    (moves : Moves (Wire.fresh url downPlans endpoint) [] h w o) : Correlated h w := by
  have hsound : Sound ([] ++ h) w o := moves.sound [] (sound_fresh url downPlans endpoint)
  exact hsound.correlated (moves.sentInOrder ⟨by simp [Wire.fresh, Network.sentIds], .nil⟩)

/-- **Commands and replies belong together.**  Every run of a link has a history of
moves.  In every state on the way pending commands, numbers on the wire and outcomes
are as the history up to there tells, and a number that an operation has retired stays
without an outcome. -/
theorem Wire.run_correlated (url : Json) (downPlans : List (List (List DownAction))) (endpoint : ε)
    (ops : List (LinkOp ε)) :
    ∃ h, Moves (fresh url downPlans endpoint) [] h ((fresh url downPlans endpoint).afterRun ops) [] ∧
      (∀ before w o, before <+: h → Moves (fresh url downPlans endpoint) [] before w o →
        Correlated before w) ∧
      ∀ before op after id, ops = before ++ op :: after →
        op.Retires ((fresh url downPlans endpoint).afterRun before) id →
        id ∉ ((fresh url downPlans endpoint).afterRun ops).link.finished := by
  obtain ⟨h, hmoves, hretired⟩ := moves_afterRun ops (fresh url downPlans endpoint)
  refine ⟨h, hmoves, fun before w o _ hbefore => hbefore.correlated, ?_⟩
  intro before op after id hops hid
  exact (hmoves.correlated.retired id (hretired before op after id hops hid)).2

-- Replies out of order find their commands.
example : ((Wire.fresh .null [] ({
      rules := [
        { method := "first", actions := [.hold] },
        { method := "second", actions := [.hold, .release true] }] } : RehearsedHost)).afterRun
    [.connect, .submit "first" .null false, .submit "second" .null false, .poll,
      .poll]).link.finished = [2, 1] := rfl

end Correlation

end FlowTrace
