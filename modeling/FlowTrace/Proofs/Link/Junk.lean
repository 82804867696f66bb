/-
  FlowTrace.Proofs.Link.Junk
  ────────────────────────────────
  **JUNK IS INVISIBLE.**

  A frame that says nothing to a link is dropped, and reading goes on: a text that is no
  JSON, a value that is no object, an object with neither id nor method, a response that
  answers no pending command.  So a run in which such frames come in between is the run in
  which they do not come:

      taking in   — junk changes nothing, and is handed to nobody
      reading     — whatever junk comes first, the next frame is the same
      runs        — every answer, every notification and every state is the same

  Two kinds of frames are no junk although nothing answers to them: a response whose id can
  not be looked up among pending commands, and a text that nests too deeply.  Either ends the
  reading of its connection.
-/
import FlowTrace.Link.Rehearsal
import FlowTrace.Proofs.Link.Run

namespace FlowTrace

/-! ## §1. Junk. -/

/-- The value that a frame spells. -/
def Frame.value? : Frame → Option Json
  | message v => some v
  | text t room => (Json.read room t).toOption
  | _ => none

/-- The frame says nothing to a link in this state. -/
inductive Junk (l : Link) : Frame → Prop
  | unread {t : String} {room : Nat} {f : Fault} (hsome : t.isEmpty = false)
      (hread : Json.read room t = .error f) (hshallow : f ≠ .tooDeep) : Junk l (.text t room)
  | noObject {frame : Frame} {v : Json} (hvalue : frame.value? = some v) (hno : v.isObj = false) :
      Junk l frame
  | mute {frame : Frame} {m : List (String × Json)} (hvalue : frame.value? = some (.obj m))
      (hmethod : Fields.contains m "method" = false) (hid : Fields.contains m "id" = false) :
      Junk l frame
  /-- A response to no pending command, with an id that can be looked up among them. -/
  | stray {frame : Frame} {m : List (String × Json)} (hvalue : frame.value? = some (.obj m))
      (hresponse : IsResponse m) (hkey : (Json.field m "id").isKey = true ∨ l.pending = [])
      (hno : ∀ p ∈ l.pending, ¬ Answers m p.id) : Junk l frame

/-- A response to no pending command is dropped. -/
theorem Link.answer_stray {l : Link} {m : List (String × Json)}
    (hkey : (Json.field m "id").isKey = true ∨ l.pending = [])
    (hno : ∀ p ∈ l.pending, ¬ Answers m p.id) : l.answer m = l := by
  unfold answer
  by_cases hempty : l.pending = []
  · rw [if_pos (by simp [hempty])]
  have hkey' := hkey.resolve_right hempty
  rw [if_neg (by simpa using hempty), if_neg (by simp [hkey'])]
  have hnone : l.pending? (Json.field m "id") = none := List.find?_eq_none.mpr hno
  rw [hnone]

namespace Wire

variable {ε : Type} [Endpoint ε] {w : Wire ε} {frame : Frame}

/-- A value that was received is taken in if it is an object. -/
def takeInValue : Json → Act (Wire ε) Poll
  | .obj fields => accept fields
  | _ => return .handled

/-- A value is taken in as it is, whether it comes spelled or not. -/
theorem takeIn_value {v : Json} (hvalue : frame.value? = some v) (s : Nat) :
    (takeIn s frame : Act (Wire ε) Poll) = takeInValue v := by
  cases frame with
  | ended => cases hvalue
  | broken b => cases hvalue
  | message v' =>
    obtain rfl := Option.some.inj hvalue
    cases v' <;> rfl
  | text t room =>
    have hread : Json.read room t = .ok v := by
      unfold Frame.value? at hvalue
      cases hr : Json.read room t with
      | error f => simp [hr, Except.toOption] at hvalue
      | ok v' =>
        obtain rfl : v' = v := by simpa [hr, Except.toOption] using hvalue
        rfl
    show (if t.isEmpty then finish s else takeInText t room) = _
    cases hempty : t.isEmpty with
    | true =>
      -- the empty text spells nothing
      obtain rfl : t = "" := by simpa using hempty
      cases hread
    | false =>
      rw [if_neg Bool.false_ne_true]
      unfold takeInText
      rw [hread]
      cases v <;> rfl

/-- **Junk that is taken in changes nothing**, and is no notification. -/
theorem takeIn_junk (h : Junk w.link frame) (s : Nat) :
    (takeIn s frame).exec w = (.ok .handled, w) := by
  cases h with
  | @unread t room f hsome hread hshallow =>
    show (if t.isEmpty then finish s else takeInText t room : Act (Wire ε) Poll).exec w = _
    rw [hsome, if_neg Bool.false_ne_true]
    unfold takeInText
    rw [hread]
    cases f with
    | tooDeep => exact absurd rfl hshallow
    | _ => rfl
  | @noObject frame v hvalue hno =>
    rw [takeIn_value hvalue]
    cases v with
    | obj m => cases hno
    | _ => rfl
  | mute hvalue hmethod hid =>
    rw [takeIn_value hvalue]
    unfold takeInValue accept
    dsimp only
    rw [if_neg (by simp [hmethod]), if_neg (by simp [hid])]
    rfl
  | stray hvalue hresponse hkey hno =>
    rw [takeIn_value hvalue]
    unfold takeInValue accept
    dsimp only
    rw [if_neg (by simp [hresponse.1]), if_pos hresponse.2, Act.exec_bind_ok (exec_update _ w),
      Link.answer_stray hkey hno]
    rfl

end Wire

/-! ## §2. Reading. -/

/-- What is asked of a link by those who use it, or done by the endpoint by itself. -/
inductive Errand (ε : Type) where
  | connect
  | submit (method params : Json) (reconnects : Bool)
  | notify (method params : Json)
  | conclude (id : Nat) (method : Json)
  | close
  | stir (f : ε → ε)

/-- Do an errand, and answer what comes of it. -/
def Errand.act {ε : Type} [Endpoint ε] : Errand ε → Act (Wire ε) Json
  | connect => do
      Wire.connect
      return .null
  | submit method params reconnects => do return .int (← Wire.submit method params reconnects)
  | notify method params => do return .int (← Wire.notify method params)
  | conclude id method => Wire.conclude id method
  | close => do
      Wire.close
      return .null
  | stir f => do
      modify (fun w => { w with network := { w.network with endpoint := f w.network.endpoint } })
      return .null

/-- A user of a link: how errands are done, a frame is read, and a notification is handled. -/
structure Reader (ε σ : Type) where
  ask : Errand ε → Act σ Json
  poll : Act σ Wire.Poll
  handle : List (String × Json) → Act σ Unit

/-- Frames are read and notifications handled until nothing waits, or something fails that no
guard may keep. -/
inductive Reads {ε σ : Type} (R : Reader ε σ) : σ → Except Fault Unit × σ → Prop
  | idle {s s' : σ} (hpoll : R.poll.exec s = (.ok .idle, s')) : Reads R s (.ok (), s')
  | failed {s s' : σ} {f : Fault} (hpoll : R.poll.exec s = (.error f, s')) :
      Reads R s (.error f, s')
  | handled {s s₁ : σ} {r : Except Fault Unit × σ} (hpoll : R.poll.exec s = (.ok .handled, s₁))
      (rest : Reads R s₁ r) : Reads R s r
  | told {s s₁ s₂ : σ} {m : List (String × Json)} {r : Except Fault Unit × σ}
      (hpoll : R.poll.exec s = (.ok (.notification m), s₁))
      (hhandle : (Act.contained (R.handle m)).exec s₁ = (.ok (), s₂)) (rest : Reads R s₂ r) :
      Reads R s r
  | broken {s s₁ s₂ : σ} {m : List (String × Json)} {f : Fault}
      (hpoll : R.poll.exec s = (.ok (.notification m), s₁))
      (hhandle : (Act.contained (R.handle m)).exec s₁ = (.error f, s₂)) : Reads R s (.error f, s₂)

section Reader

variable {ε σ : Type} {R : Reader ε σ} {s s' : σ} {r r' : Except Fault Unit × σ}

/-- What reading comes to is what a pump comes to, however many frames more it may read. -/
theorem Reads.exec (h : Reads R s r) :
    ∃ burst, ∀ more, (pumpWith R.poll R.handle (more + burst)).exec s = r := by
  -- Induction on what is read; each frame takes one of the burst.
  induction h with
  | idle hpoll => exact ⟨1, fun more => Act.exec_bind_ok hpoll⟩
  | failed hpoll => exact ⟨1, fun more => Act.exec_bind_error hpoll⟩
  | handled hpoll _ ih =>
    obtain ⟨burst, hrest⟩ := ih
    exact ⟨burst + 1, fun more => (Act.exec_bind_ok hpoll).trans (hrest more)⟩
  | told hpoll hhandle _ ih =>
    obtain ⟨burst, hrest⟩ := ih
    refine ⟨burst + 1, fun more => (Act.exec_bind_ok hpoll).trans ?_⟩
    exact (Act.exec_bind_ok hhandle).trans (hrest more)
  | broken hpoll hhandle =>
    exact ⟨1, fun more => (Act.exec_bind_ok hpoll).trans (Act.exec_bind_error hhandle)⟩

/-- Reading comes to one thing. -/
theorem Reads.unique (h : Reads R s r) (h' : Reads R s r') : r' = r := by
  obtain ⟨burst, hexec⟩ := h.exec
  obtain ⟨burst', hexec'⟩ := h'.exec
  have hsame := hexec' burst
  rw [Nat.add_comm, hexec burst'] at hsame
  exact hsame.symm

/-- An errand, or reading what waits. -/
inductive Chore (ε : Type) where
  | ask (errand : Errand ε)
  | read

/-- Chores are done one after the other, and come to these answers and this state. -/
inductive Goes (R : Reader ε σ) : σ → List (Chore ε) → List (Except Fault Json) → σ → Prop
  | nil {s : σ} : Goes R s [] [] s
  | ask {s s₁ s' : σ} {e : Errand ε} {cs : List (Chore ε)} {r : Except Fault Json}
      {rs : List (Except Fault Json)} (hask : (R.ask e).exec s = (r, s₁))
      (rest : Goes R s₁ cs rs s') : Goes R s (.ask e :: cs) (r :: rs) s'
  | read {s s₁ s' : σ} {cs : List (Chore ε)} {r : Except Fault Unit}
      {rs : List (Except Fault Json)} (hread : Reads R s (r, s₁)) (rest : Goes R s₁ cs rs s') :
      Goes R s (.read :: cs) (r.map (fun _ => .null) :: rs) s'

/-- Chores come to one thing. -/
theorem Goes.unique {cs : List (Chore ε)} {rs : List (Except Fault Json)} (h : Goes R s cs rs s') :
    ∀ {rs' : List (Except Fault Json)} {t : σ}, Goes R s cs rs' t → rs' = rs ∧ t = s' := by
  induction h with
  | nil =>
    intro rs' t h'
    cases h'
    exact ⟨rfl, rfl⟩
  | ask hask _ ih =>
    intro rs' t h'
    cases h' with
    | ask hask' rest' =>
      obtain ⟨rfl, rfl⟩ := Prod.mk.inj (hask.symm.trans hask')
      obtain ⟨rfl, rfl⟩ := ih rest'
      exact ⟨rfl, rfl⟩
  | read hread _ ih =>
    intro rs' t h'
    cases h' with
    | read hread' rest' =>
      obtain ⟨rfl, rfl⟩ := Prod.mk.inj (hread.unique hread')
      obtain ⟨rfl, rfl⟩ := ih rest'
      exact ⟨rfl, rfl⟩

end Reader

/-! ## §3. Litter. -/

/-- A link, its network, and what its user has apart from them. -/
structure Station (ε τ : Type) where
  wire : Wire ε
  own : τ

/-- Frames that come in between.  Each time that a frame may come the next one says, for the
link as it is, whether one comes, and the frame is junk for that link. -/
abbrev Litter := List ((l : Link) → Option { frame : Frame // Junk l frame })

/-- A station and the litter that is still to come. -/
structure Littered (ε τ : Type) where
  station : Station ε τ
  litter : Litter

section Litter

variable {ε τ α : Type}

/-- An action on the link of a station. -/
def Station.onWire (a : Act (Wire ε) α) : Act (Station ε τ) α :=
  Act.within Station.wire (fun w s => { s with wire := w }) a

/-- An action that no litter comes into. -/
def Littered.apart (a : Act (Station ε τ) α) : Act (Littered ε τ) α :=
  Act.within Littered.station (fun s x => { x with station := s }) a

variable [Endpoint ε]

/-- Read a frame that comes on the current socket. -/
def Wire.takeNext (frame : Frame) : Act (Wire ε) Poll := do
  let l ← look
  match l.socket with
  | none => return .idle
  | some s => if l.deaf then return .idle else takeIn s frame

/-- Read one frame, which is litter if any comes. -/
def Littered.poll : Act (Littered ε τ) Wire.Poll := Act.ofFun fun x =>
  match x.litter with
  | [] => (apart (Station.onWire Wire.poll)).exec x
  | next :: rest =>
      match next x.station.wire.link with
      | some frame =>
          (apart (Station.onWire (Wire.takeNext frame.val))).exec { x with litter := rest }
      | none => (apart (Station.onWire Wire.poll)).exec { x with litter := rest }

variable (handle : List (String × Json) → Act (Station ε τ) Unit)

/-- A user of a link with a handler for notifications. -/
def Reader.plain : Reader ε (Station ε τ) where
  ask e := Station.onWire e.act
  poll := Station.onWire Wire.poll
  handle := handle

/-- The same user, with litter on the link. -/
def Reader.littered : Reader ε (Littered ε τ) where
  ask e := Littered.apart (Station.onWire e.act)
  poll := Littered.poll
  handle m := Littered.apart (handle m)

variable {handle}

/-- Junk that comes next is read and changes nothing, if frames are read at all. -/
theorem Wire.takeNext_junk {w : Wire ε} {frame : Frame} (h : Junk w.link frame) :
    (takeNext frame).exec w = (.ok .handled, w) ∨
      ((takeNext frame).exec w = (.ok .idle, w) ∧ Wire.poll.exec w = (.ok .idle, w)) := by
  unfold takeNext poll
  rw [Act.exec_bind_ok (exec_look w), Act.exec_bind_ok (exec_look w)]
  cases w.link.socket with
  | none => exact .inr ⟨rfl, rfl⟩
  | some s =>
    cases hdeaf : w.link.deaf with
    | true => exact .inr ⟨rfl, rfl⟩
    | false => exact .inl (takeIn_junk h s)

namespace Littered

variable {s s' s₁ : Station ε τ}

omit [Endpoint ε] in
/-- An action that no litter comes into ends as it does without. -/
theorem exec_apart {a : Act (Station ε τ) α} {r : Except Fault α} (h : a.exec s = (r, s₁))
    (litter : Litter) : (apart a).exec ⟨s, litter⟩ = (r, ⟨s₁, litter⟩) := by
  show ((a.exec s).1, (⟨(a.exec s).2, litter⟩ : Littered ε τ)) = _
  rw [h]

theorem exec_poll_some {next : (l : Link) → Option { frame : Frame // Junk l frame }}
    {frame : { frame : Frame // Junk s.wire.link frame }} (hnext : next s.wire.link = some frame)
    (rest : Litter) : (poll : Act (Littered ε τ) Wire.Poll).exec ⟨s, next :: rest⟩
      = (apart (Station.onWire (Wire.takeNext frame.val))).exec ⟨s, rest⟩ := by
  unfold poll
  rw [Act.exec_ofFun]
  dsimp only
  rw [hnext]

theorem exec_poll_none {next : (l : Link) → Option { frame : Frame // Junk l frame }}
    (hnext : next s.wire.link = none) (rest : Litter) :
    (poll : Act (Littered ε τ) Wire.Poll).exec ⟨s, next :: rest⟩
      = (apart (Station.onWire Wire.poll)).exec ⟨s, rest⟩ := by
  unfold poll
  rw [Act.exec_ofFun]
  dsimp only
  rw [hnext]

/-- **Whatever litter comes first, the next frame is the same**: it is read in the same state,
and reading may go on from there. -/
theorem poll_next {q : Except Fault Wire.Poll}
    (hpoll : (Reader.plain handle).poll.exec s = (q, s₁)) (litter : Litter) :
    ∃ before after : Litter,
      (∀ r, Reads (Reader.littered handle) ⟨s, before⟩ r →
        Reads (Reader.littered handle) ⟨s, litter⟩ r) ∧
      (Reader.littered handle).poll.exec ⟨s, before⟩ = (q, ⟨s₁, after⟩) := by
  -- Induction on the litter that may come before the frame.
  induction litter with
  | nil => exact ⟨[], [], fun _ h => h, exec_apart hpoll []⟩
  | cons next rest ih =>
    cases hnext : next s.wire.link with
    | none =>
      exact ⟨next :: rest, rest, fun _ h => h,
        (exec_poll_none hnext rest).trans (exec_apart hpoll rest)⟩
    | some frame =>
      have htaken {p : Wire.Poll}
          (h : (Wire.takeNext frame.val).exec s.wire = (.ok p, s.wire)) :
          (Reader.littered handle).poll.exec ⟨s, next :: rest⟩ = (.ok p, ⟨s, rest⟩) := by
        refine (exec_poll_some hnext rest).trans (exec_apart ?_ rest)
        show (((Wire.takeNext frame.val).exec s.wire).1,
          ({ s with wire := ((Wire.takeNext frame.val).exec s.wire).2 } : Station ε τ)) = _
        rw [h]
      rcases Wire.takeNext_junk frame.property with hhandled | ⟨hidle, hsame⟩
      · -- it is read and forgotten
        obtain ⟨before, after, hreads, hrest⟩ := ih
        exact ⟨before, after, fun r h => .handled (htaken hhandled) (hreads r h), hrest⟩
      · -- nothing is read at all
        have hpoll' : (Reader.plain handle).poll.exec s = (.ok .idle, s) := by
          show ((Wire.poll.exec s.wire).1,
            ({ s with wire := (Wire.poll.exec s.wire).2 } : Station ε τ)) = _
          rw [hsame]
        obtain ⟨rfl, rfl⟩ := Prod.mk.inj (hpoll'.symm.trans hpoll)
        exact ⟨next :: rest, rest, fun _ h => h, htaken hidle⟩

omit [Endpoint ε] in
/-- A guarded handler that no litter comes into ends as it does without. -/
theorem exec_contained_apart {a : Act (Station ε τ) Unit} {r : Except Fault Unit}
    (h : (Act.contained a).exec s = (r, s₁)) (litter : Litter) :
    (Act.contained (apart a)).exec ⟨s, litter⟩ = (r, ⟨s₁, litter⟩) := by
  unfold Act.contained at h ⊢
  rw [Act.exec_ofFun] at h ⊢
  cases ha : a.exec s with
  | mk q s₂ =>
    rw [ha] at h
    rw [exec_apart ha litter]
    cases q <;> cases h <;> rfl

end Littered

/-- **Reading comes to the same with litter.** -/
theorem Reads.littered {s : Station ε τ} {r : Except Fault Unit × Station ε τ}
    (h : Reads (Reader.plain handle) s r) : ∀ litter : Litter, ∃ left : Litter,
      Reads (Reader.littered handle) ⟨s, litter⟩ (r.1, ⟨r.2, left⟩) := by
  -- Induction on what is read without litter.
  induction h with
  | idle hpoll =>
    intro litter
    obtain ⟨before, after, hreads, hnext⟩ := Littered.poll_next hpoll litter
    exact ⟨after, hreads _ (.idle hnext)⟩
  | failed hpoll =>
    intro litter
    obtain ⟨before, after, hreads, hnext⟩ := Littered.poll_next hpoll litter
    exact ⟨after, hreads _ (.failed hnext)⟩
  | handled hpoll _ ih =>
    intro litter
    obtain ⟨before, after, hreads, hnext⟩ := Littered.poll_next hpoll litter
    obtain ⟨left, hrest⟩ := ih after
    exact ⟨left, hreads _ (.handled hnext hrest)⟩
  | told hpoll hhandle _ ih =>
    intro litter
    obtain ⟨before, after, hreads, hnext⟩ := Littered.poll_next hpoll litter
    obtain ⟨left, hrest⟩ := ih after
    exact ⟨left, hreads _ (.told hnext (Littered.exec_contained_apart hhandle after) hrest)⟩
  | broken hpoll hhandle =>
    intro litter
    obtain ⟨before, after, hreads, hnext⟩ := Littered.poll_next hpoll litter
    exact ⟨after, hreads _ (.broken hnext (Littered.exec_contained_apart hhandle after))⟩

/-- **Chores come to the same with litter.** -/
theorem Goes.littered {s s' : Station ε τ} {cs : List (Chore ε)} {rs : List (Except Fault Json)}
    (h : Goes (Reader.plain handle) s cs rs s') : ∀ litter : Litter, ∃ left : Litter,
      Goes (Reader.littered handle) ⟨s, litter⟩ cs rs ⟨s', left⟩ := by
  induction h with
  | nil => exact fun litter => ⟨litter, .nil⟩
  | ask hask _ ih =>
    intro litter
    obtain ⟨left, hrest⟩ := ih litter
    exact ⟨left, .ask (Littered.exec_apart hask litter) hrest⟩
  | read hread _ ih =>
    intro litter
    obtain ⟨between, hread'⟩ := hread.littered litter
    obtain ⟨left, hrest⟩ := ih between
    exact ⟨left, .read hread' hrest⟩

/-- **JUNK IS INVISIBLE**: whatever frames that say nothing come in between, whenever they come
and however many, a run comes to the same answers and ends with the same link, the same network
and the same user as the run without them, and to nothing else. -/
theorem junk_invisible {s s' : Station ε τ} {cs : List (Chore ε)} {rs : List (Except Fault Json)}
    (h : Goes (Reader.plain handle) s cs rs s') (litter : Litter) :
    ∃ left : Litter, ∀ rs' x, Goes (Reader.littered handle) ⟨s, litter⟩ cs rs' x ↔
      rs' = rs ∧ x = ⟨s', left⟩ := by
  obtain ⟨left, hgoes⟩ := h.littered litter
  refine ⟨left, fun rs' x => ⟨fun h' => hgoes.unique h', ?_⟩⟩
  rintro ⟨rfl, rfl⟩
  exact hgoes

end Litter

/-! ## §4. Runs with and without. -/

/-- A user who notes every notification. -/
def noting (m : List (String × Json)) :
    Act (Station RehearsedHost (List (List (String × Json)))) Unit :=
  modify (fun s => { s with own := s.own ++ [m] })

/-- A station without a connection, at a host with rules. -/
def stationAt (rules : List HostRule) : Station RehearsedHost (List (List (String × Json))) where
  wire := { link := { url := "ws" }, network := { endpoint := { rules := rules } } }
  own := []

/-- One frame of each kind of junk, whatever the link is like. -/
def everyLitter : Litter :=
  [fun _ => some ⟨.text "x" 0, .unread (f := .notJson _) rfl rfl nofun⟩,
    fun _ => some ⟨.message (.arr []), .noObject rfl rfl⟩,
    fun _ => some ⟨.message (.obj []), .mute rfl rfl rfl⟩,
    fun _ => some ⟨.message (.obj [("id", "x")]), .stray rfl ⟨rfl, rfl⟩ (.inl rfl) nofun⟩]

/-- A command, the reading of its reply, and a look at its outcome. -/
def oneCommand : List (Chore RehearsedHost) :=
  [.ask .connect, .ask (.submit "A" (.obj []) false), .read, .ask (.conclude 1 "A")]

theorem junk_invisible_oneCommand : ∃ s',
    Goes (Reader.plain noting) (stationAt []) oneCommand
      [.ok .null, .ok (.int 1), .ok .null, .ok (.obj [])] s' ∧
    ∃ left : Litter, ∀ rs x,
      Goes (Reader.littered noting) ⟨stationAt [], everyLitter⟩ oneCommand rs x ↔
      rs = [.ok .null, .ok (.int 1), .ok .null, .ok (.obj [])] ∧ x = ⟨s', left⟩ := by
  have hgoes : Goes (Reader.plain noting) (stationAt []) oneCommand
      [.ok .null, .ok (.int 1), .ok .null, .ok (.obj [])] _ :=
    .ask rfl (.ask rfl (.read (r := .ok ()) (.handled rfl (.idle rfl)) (.ask rfl .nil)))
  exact ⟨_, hgoes, junk_invisible hgoes everyLitter⟩

/-- A response whose id is a list. -/
def unkeyed : List (String × Json) := [("id", .arr []), ("result", .obj [])]

/-- Two commands; the endpoint says something after the first. -/
def twoCommands (said : List Frame) : List (Chore RehearsedHost) :=
  [.ask .connect, .ask (.submit "A" (.obj []) false), .ask (.stir (fun h => h.enqueue 0 said)),
    .read, .ask (.submit "B" (.obj []) false), .read, .ask (.conclude 2 "B")]

/-- The station of a host that never answers one of the commands. -/
def stationHolding : Station RehearsedHost (List (List (String × Json))) :=
  stationAt [{ method := "A", actions := [.hold] }]

/-- **A response to no command may be visible**: its id is that of none, but with a command
pending it ends the reading, and the next command times out that is answered without it. -/
theorem unkeyed_response_visible :
    IsResponse unkeyed ∧ (∀ id, ¬ Answers unkeyed id) ∧
      (∃ s, Goes (Reader.plain noting) stationHolding (twoCommands [.message (.obj unkeyed)])
        [.ok .null, .ok (.int 1), .ok .null, .ok .null, .ok (.int 2), .ok .null,
          .error (.timeout "B")] s) ∧
      ∃ s, Goes (Reader.plain noting) stationHolding (twoCommands [])
        [.ok .null, .ok (.int 1), .ok .null, .ok .null, .ok (.int 2), .ok .null,
          .ok (.obj [])] s := by
  have hwith : Goes (Reader.plain noting) stationHolding (twoCommands [.message (.obj unkeyed)])
      [.ok .null, .ok (.int 1), .ok .null, .ok .null, .ok (.int 2), .ok .null,
        .error (.timeout "B")] _ :=
    .ask rfl (.ask rfl (.ask rfl (.read (r := .ok ()) (.handled rfl (.idle rfl))
      (.ask rfl (.read (r := .ok ()) (.idle rfl) (.ask rfl .nil))))))
  have hwithout : Goes (Reader.plain noting) stationHolding (twoCommands [])
      [.ok .null, .ok (.int 1), .ok .null, .ok .null, .ok (.int 2), .ok .null, .ok (.obj [])] _ :=
    .ask rfl (.ask rfl (.ask rfl (.read (r := .ok ()) (.idle rfl)
      (.ask rfl (.read (r := .ok ()) (.handled rfl (.idle rfl)) (.ask rfl .nil))))))
  exact ⟨⟨rfl, rfl⟩, nofun, ⟨_, hwith⟩, _, hwithout⟩

end FlowTrace
