/-
  FlowTrace.Proofs.Link.Move
  ────────────────────────────────
  **THE MOVES OF A LINK.**

  The operations of a link are made of few moves: a number is taken and an
  envelope put on the wire, a frame is received, the socket is lost, a command
  fails.  A move changes the link and the network in one way, and which way is
  told by a deed.  The deeds of a sequence of moves, each with the state in
  which it was done, are the history of the link.

  Tearing a connection down takes the pending commands out of the link and then
  lets them fail one by one.  In between they belong to no table: a move is
  between states together with these orphans.
-/
import FlowTrace.Link.Operations
import FlowTrace.Proofs.Act

namespace FlowTrace

/-! ## §1. Pieces. -/

namespace Wire

variable {ε : Type}

@[simp] theorem exec_look (w : Wire ε) : (look : Act (Wire ε) Link).exec w = (.ok w.link, w) := rfl

@[simp] theorem exec_update (f : Link → Link) (w : Wire ε) :
    (update f : Act (Wire ε) Unit).exec w = (.ok (), { w with link := f w.link }) := rfl

@[simp] theorem exec_onNetwork {α : Type} (f : Network ε → α × Network ε) (w : Wire ε) :
    (onNetwork f).exec w = (.ok (f w.network).1, { w with network := (f w.network).2 }) := rfl

@[simp] theorem exec_allocate (w : Wire ε) : (allocate : Act (Wire ε) Nat).exec w =
    (.ok w.link.nextId, { w with link := w.link.allocate.2 }) := rfl

end Wire

/-- A link that differs in nothing that the numbering of commands depends on. -/
structure Link.Keeps (l l' : Link) : Prop where
  nextId : l'.nextId = l.nextId
  pending : l'.pending = l.pending
  outcomes : l'.outcomes = l.outcomes

/-! ## §2. Frames and responses. -/

/-- The fields of the object that a frame spells. -/
def Frame.fields? : Frame → Option (List (String × Json))
  | message v => v.fields?
  | text s room => (Json.read room s).toOption.bind Json.fields?
  | _ => none

/-- What a frame comes to for the reader of its socket. -/
inductive Intake
  /-- It spells an object. -/
  | object (fields : List (String × Json))
  /-- It is the end of the stream. -/
  | stop
  /-- Its text nests too deeply, and nothing more is read. -/
  | deafen
  | nothing

namespace Intake

def fields? : Intake → Option (List (String × Json))
  | object fields => some fields
  | _ => none

/-- What the reader does about it. -/
def act {ε : Type} [Endpoint ε] (s : Nat) : Intake → Act (Wire ε) Wire.Poll
  | object fields => Wire.accept fields
  | stop => Wire.finish s
  | deafen => do
      Wire.update (fun l => { l with deaf := true })
      return .handled
  | nothing => return .handled

def ofValue : Json → Intake
  | .obj fields => .object fields
  | _ => .nothing

def ofText (t : String) (room : Nat) : Intake :=
  match Json.read room t with
  | .ok v => .ofValue v
  | .error .tooDeep => .deafen
  | .error _ => .nothing

theorem fields?_ofValue (v : Json) : (ofValue v).fields? = v.fields? := by
  cases v <;> rfl

end Intake

def Frame.intake : Frame → Intake
  | message v => .ofValue v
  | text t room => if t.isEmpty then .stop else .ofText t room
  | ended => .stop
  | broken (.error _) => .stop
  | broken .interrupted => .nothing

/-- The object that a frame spells is what it comes to. -/
theorem Frame.fields?_intake (frame : Frame) : frame.fields? = frame.intake.fields? := by
  cases frame with
  | message v => exact (Intake.fields?_ofValue v).symm
  | text t room =>
    show (Json.read room t).toOption.bind Json.fields?
      = (if t.isEmpty then Intake.stop else .ofText t room).fields?
    by_cases hempty : t.isEmpty
    · -- the empty text spells nothing
      rw [if_pos hempty, String.isEmpty_iff.mp hempty]
      rfl
    rw [if_neg hempty]
    unfold Intake.ofText
    cases Json.read room t with
    | ok v => exact (Intake.fields?_ofValue v).symm
    | error e => cases e <;> rfl
  | ended => rfl
  | broken b => cases b <;> rfl

/-- **A frame is taken in by what it comes to.** -/
theorem Wire.takeIn_eq {ε : Type} [Endpoint ε] (s : Nat) (frame : Frame) :
    (takeIn s frame : Act (Wire ε) Poll) = frame.intake.act s := by
  cases frame with
  | message v => cases v <;> rfl
  | text t room =>
    show (if t.isEmpty then finish s else takeInText t room)
      = (if t.isEmpty then Intake.stop else .ofText t room).act s
    by_cases hempty : t.isEmpty
    · rw [if_pos hempty, if_pos hempty]
      rfl
    rw [if_neg hempty, if_neg hempty]
    unfold takeInText Intake.ofText
    cases Json.read room t with
    | ok v => cases v <;> rfl
    | error e => cases e <;> rfl
  | ended => rfl
  | broken b => cases b <;> rfl

/-- The message is a response: it has an id and no method. -/
def IsResponse (message : List (String × Json)) : Prop :=
  Fields.contains message "method" = false ∧ Fields.contains message "id" = true

/-- A value is equal to an integer if it is a number equal to it. -/
theorem Json.same_int (v : Json) (n : Int) :
    v.same (.int n) = match v.number? with
      | some x => Json.sameNumber x (.inl n)
      | none => false := by
  cases v <;> rfl

/-- No value is equal to two integers. -/
theorem Json.same_int_inj {v : Json} {a b : Int} (ha : v.same (.int a) = true)
    (hb : v.same (.int b) = true) : a = b := by
  rw [same_int] at ha hb
  cases hv : v.number? with
  | none => simp [hv] at ha
  | some x =>
    rw [hv] at ha hb
    cases x with
    | inl n =>
      have hna : n = a := by simpa [sameNumber] using ha
      have hnb : n = b := by simpa [sameNumber] using hb
      exact hna.symm.trans hnb
    | inr y =>
      have hya : y.toInt? = some a := by simpa [sameNumber] using ha
      have hyb : y.toInt? = some b := by simpa [sameNumber] using hb
      exact Option.some.inj (hya.symm.trans hyb)

/-- A value that is equal to an integer can be looked up. -/
theorem Json.isKey_of_same_int {v : Json} {n : Int} (h : v.same (.int n) = true) :
    v.isKey = true := by
  cases v with
  | arr items => simp [same_int, number?] at h
  | obj fields => simp [same_int, number?] at h
  | _ => rfl

/-- The response has the number of the command. -/
def Answers (response : List (String × Json)) (id : Nat) : Prop :=
  (Json.field response "id").same (.int id) = true

theorem Answers.unique {response : List (String × Json)} {a b : Nat} (ha : Answers response a)
    (hb : Answers response b) : a = b := Int.ofNat.inj (Json.same_int_inj ha hb)

/-- The outcome of a command that is lost with its connection. -/
def lostOutcome : Outcome := .error (.link "connection closed")

namespace Link

/-- The numbers of the commands that have an outcome. -/
def finished (l : Link) : List Nat := l.outcomes.map (·.1)

/-- **What a response does**: it finishes the pending command with its number; where no pending
command has it, it does nothing, or ends the reading. -/
theorem answer_inversion (l : Link) (response : List (String × Json)) :
    ((∀ p ∈ l.pending, ¬ Answers response p.id) ∧
        (l.answer response = l ∨ l.answer response = { l with deaf := true })) ∨
      ∃ p ∈ l.pending, Answers response p.id ∧ l.answer response =
        (l.dropPending p.id).complete p.id (replyOutcome p.method response) := by
  unfold answer
  by_cases hempty : l.pending.isEmpty
  · rw [if_pos hempty]
    exact .inl ⟨by simp [List.isEmpty_iff.mp hempty], .inl rfl⟩
  rw [if_neg hempty]
  by_cases hkey : (Json.field response "id").isKey
  · rw [if_neg (by simp [hkey])]
    cases hfound : l.pending? (Json.field response "id") with
    | none => exact .inl ⟨fun p hp => List.find?_eq_none.mp hfound p hp, .inl rfl⟩
    | some p =>
      have hanswers := List.find?_some hfound
      exact .inr ⟨p, List.mem_of_find?_eq_some hfound, hanswers, rfl⟩
  · rw [if_pos (by simp [hkey])]
    exact .inl ⟨fun p _ hanswers => hkey (Json.isKey_of_same_int hanswers), .inr rfl⟩

/-- A response finishes the one pending command with its number, or leaves all of
them alone. -/
theorem answer_cases (l : Link) (response : List (String × Json)) :
    (l.Keeps (l.answer response) ∧ (l.answer response).socket = l.socket ∧
        ∀ p ∈ l.pending, ¬ Answers response p.id) ∨
      ∃ p ∈ l.pending, Answers response p.id ∧ l.answer response =
        (l.dropPending p.id).complete p.id (replyOutcome p.method response) := by
  rcases l.answer_inversion response with ⟨hno, heq | heq⟩ | hanswered
  · rw [heq]
    exact .inl ⟨⟨rfl, rfl, rfl⟩, rfl, hno⟩
  · rw [heq]
    exact .inl ⟨⟨rfl, rfl, rfl⟩, rfl, hno⟩
  · exact .inr hanswered

/-- What a response says is never that the connection was lost. -/
theorem replyOutcome_ne_lost (method : Json) (response : List (String × Json)) :
    replyOutcome method response ≠ lostOutcome := by
  unfold replyOutcome lostOutcome
  split <;> simp

end Link

/-! ## §3. Moves. -/

/-- What a move does. -/
inductive Deed where
  /-- A command is numbered, becomes pending and is put on the wire. -/
  | submitted (p : Pending) (envelope : Envelope)
  /-- A command is numbered and put on the wire. -/
  | notified (envelope : Envelope)
  /-- A number is taken for a command that is not put on the wire. -/
  | numbered
  /-- Nobody answers at the address. -/
  | dialled
  | opened (socket : Nat)
  /-- A response is taken in. -/
  | heard (response : List (String × Json))
  /-- The socket is read without a response. -/
  | overheard
  /-- The current socket is closed. -/
  | lost (socket : Nat)
  /-- The pending commands become orphans. -/
  | swept
  /-- An orphan fails. -/
  | failed (p : Pending)
  /-- The orphans are left as they are. -/
  | abandoned
  /-- A command without an outcome is pending no longer. -/
  | timedOut (id : Nat)
  /-- The other side does something by itself. -/
  | stirred
  /-- Something that the numbering of commands does not depend on. -/
  | other

section Moves

variable {ε : Type}

/-- A deed and the state in which it was done. -/
structure Moment (ε : Type) where
  wire : Wire ε
  deed : Deed

/-- The number is retired: a command has timed out after it was created, or the reply
to a command is not awaited, or a command is not sent. -/
def Moment.Retires (x : Moment ε) (id : Nat) : Prop :=
  match x.deed with
  | .timedOut id' => id' = id ∧ id < x.wire.link.nextId
  | .notified e => e.id = id
  | .numbered => x.wire.link.nextId = id
  | _ => False

/-- The number was retired at some moment of the history. -/
def Retired (h : List (Moment ε)) (id : Nat) : Prop := ∃ x ∈ h, x.Retires id

variable [Endpoint ε]

/-- The current socket is closed. -/
def Wire.hangUp (w : Wire ε) (s : Nat) : Wire ε where
  link := { w.link with socket := none }
  network := (w.network.close s).2

/-- The pending commands are swept off the link. -/
def Wire.swept (w : Wire ε) : Wire ε := { w with link := { w.link with pending := [] } }

/-- A move, from a state and orphans to a state and orphans. -/
inductive Move : Wire ε → List Pending → Deed → Wire ε → List Pending → Prop where
  | submit {w : Wire ε} {o : List Pending} {s : Nat} (p : Pending) (e : Envelope)
      (hsocket : w.link.socket = some s) (hid : p.id = w.link.nextId) (he : e.id = p.id)
      (hmethod : e.method = p.method) :
      Move w o (.submitted p e)
        { link := w.link.allocate.2.addPending p, network := (w.network.send s e).2 } o
  | notify {w : Wire ε} {o : List Pending} {s : Nat} (e : Envelope)
      (hsocket : w.link.socket = some s) (he : e.id = w.link.nextId) :
      Move w o (.notified e)
        { link := w.link.allocate.2, network := (w.network.send s e).2 } o
  | number {w : Wire ε} {o : List Pending} :
      Move w o .numbered { w with link := w.link.allocate.2 } o
  | refuse {w : Wire ε} {o : List Pending} (p : Pending) (hid : p.id = w.link.nextId) :
      Move w o .numbered { w with link := (w.link.allocate.2.addPending p).dropPending p.id } o
  | dial {w : Wire ε} {o : List Pending} (b : Breakdown)
      (hdial : (w.network.dial w.link.url).1 = .error b) :
      Move w o .dialled { w with network := (w.network.dial w.link.url).2 } o
  | attach {w : Wire ε} {o : List Pending} {l : Link} (s : Nat) (hkeeps : w.link.Keeps l)
      (hdial : (w.network.dial w.link.url).1 = .ok s) (hnone : w.link.socket = none)
      (hsome : l.socket = some s) :
      Move w o (.opened s) { link := l, network := (w.network.dial w.link.url).2 } o
  | hear {w : Wire ε} {o : List Pending} {s : Nat} {frame : Frame}
      (message : List (String × Json)) (hsocket : w.link.socket = some s)
      (hframe : (w.network.receive s).1 = some frame) (hspells : frame.fields? = some message)
      (hresponse : IsResponse message) :
      Move w o (.heard message)
        { link := w.link.answer message, network := (w.network.receive s).2 } o
  | overhear {w : Wire ε} {o : List Pending} (s : Nat)
      (hno : ∀ frame message, (w.network.receive s).1 = some frame →
        frame.fields? = some message → ¬ IsResponse message) :
      Move w o .overheard { w with network := (w.network.receive s).2 } o
  | lose {w : Wire ε} {o : List Pending} (s : Nat) (hsocket : w.link.socket = some s) :
      Move w o (.lost s) (w.hangUp s) o
  | sweep {w : Wire ε} {o : List Pending} (hsocket : w.link.socket = none) :
      Move w o .swept w.swept (w.link.pending ++ o)
  | fail {w : Wire ε} {o : List Pending} (p : Pending) :
      Move w (p :: o) (.failed p) { w with link := w.link.complete p.id lostOutcome } o
  | abandon {w : Wire ε} {o : List Pending} (ps : List Pending) :
      Move w (ps ++ o) .abandoned w o
  | timeOut {w : Wire ε} (id : Nat) (hnone : w.link.outcome? id = none) :
      Move w [] (.timedOut id) { w with link := w.link.dropPending id } []
  | stir {w : Wire ε} {o : List Pending} (f : ε → ε) :
      Move w o .stirred { w with network := { w.network with endpoint := f w.network.endpoint } } o
  | other {w : Wire ε} {o : List Pending} {l : Link} (hkeeps : w.link.Keeps l)
      (hsocket : l.socket = w.link.socket) :
      Move w o .other { w with link := l } o

/-- Moves, one after the other, and the moments of them in order. -/
inductive Moves : Wire ε → List Pending → List (Moment ε) → Wire ε → List Pending → Prop where
  | nil (w : Wire ε) (o : List Pending) : Moves w o [] w o
  | cons {w w₁ w' : Wire ε} {o o₁ o' : List Pending} {d : Deed} {h : List (Moment ε)} :
      Move w o d w₁ o₁ → Moves w₁ o₁ h w' o' → Moves w o (⟨w, d⟩ :: h) w' o'

theorem Moves.append {w w₁ w' : Wire ε} {o o₁ o' : List Pending} {h h' : List (Moment ε)}
    (first : Moves w o h w₁ o₁) (rest : Moves w₁ o₁ h' w' o') : Moves w o (h ++ h') w' o' := by
  induction first with
  | nil => exact rest
  | cons move _ ih => exact .cons move (ih rest)

/-- There are moves between the states. -/
def Leads (w : Wire ε) (o : List Pending) (w' : Wire ε) (o' : List Pending) : Prop :=
  ∃ h, Moves w o h w' o'

theorem Leads.refl (w : Wire ε) (o : List Pending) : Leads w o w o := ⟨[], .nil w o⟩

theorem Leads.trans {w w₁ w' : Wire ε} {o o₁ o' : List Pending} (first : Leads w o w₁ o₁)
    (rest : Leads w₁ o₁ w' o') : Leads w o w' o' := by
  obtain ⟨h, hfirst⟩ := first
  obtain ⟨h', hrest⟩ := rest
  exact ⟨h ++ h', hfirst.append hrest⟩

theorem Leads.of_move {w w' : Wire ε} {o o' : List Pending} {d : Deed} (move : Move w o d w' o') :
    Leads w o w' o' := ⟨[⟨w, d⟩], .cons move (.nil w' o')⟩

/-- A move takes numbers from the next one on, and every new pending command has one
of them. -/
theorem Move.numbers {w w' : Wire ε} {o o' : List Pending} {d : Deed} (move : Move w o d w' o') :
    w.link.nextId ≤ w'.link.nextId ∧
      ∀ p ∈ w'.link.pending, p ∈ w.link.pending ∨ w.link.nextId ≤ p.id := by
  have hold {l : Link} (hsub : l.pending ⊆ w.link.pending) :
      ∀ p ∈ l.pending, p ∈ w.link.pending ∨ w.link.nextId ≤ p.id := fun p hp => .inl (hsub hp)
  have hkept {l : Link} (hkeeps : w.link.Keeps l) : w.link.nextId ≤ l.nextId ∧
      ∀ p ∈ l.pending, p ∈ w.link.pending ∨ w.link.nextId ≤ p.id :=
    ⟨Nat.le_of_eq hkeeps.nextId.symm, hold (by rw [hkeeps.pending]; exact List.Subset.refl _)⟩
  -- what a move adds has the number that was the next one
  have hadded {p : Pending} (hid : p.id = w.link.nextId) :
      ∀ q ∈ w.link.pending ++ [p], q ∈ w.link.pending ∨ w.link.nextId ≤ q.id := by
    intro q hq
    rcases List.mem_append.mp hq with hq | hq
    · exact .inl hq
    · obtain rfl := List.mem_singleton.mp hq
      exact .inr (Nat.le_of_eq hid.symm)
  cases move with
  | submit p e hsocket hid he hmethod => exact ⟨Nat.le_succ _, hadded hid⟩
  | notify e hsocket he => exact ⟨Nat.le_succ _, hold (List.Subset.refl _)⟩
  | number => exact ⟨Nat.le_succ _, hold (List.Subset.refl _)⟩
  | refuse p hid =>
    exact ⟨Nat.le_succ _, fun q hq => hadded hid q (List.mem_filter.mp hq).1⟩
  | attach s hkeeps hdial hnone hsome => exact hkept hkeeps
  | hear message hsocket hframe hspells hresponse =>
    rcases w.link.answer_cases message with ⟨hkeeps, _⟩ | ⟨p, _, _, heq⟩
    · exact hkept hkeeps
    · rw [heq]
      exact ⟨Nat.le_refl _, hold List.filter_sublist.subset⟩
  | sweep hsocket => exact ⟨Nat.le_refl _, hold (List.nil_subset _)⟩
  | timeOut id hnone => exact ⟨Nat.le_refl _, hold List.filter_sublist.subset⟩
  | other hkeeps hsocket => exact hkept hkeeps
  | _ => exact ⟨Nat.le_refl _, hold (List.Subset.refl _)⟩

theorem Moves.numbers {w w' : Wire ε} {o o' : List Pending} {h : List (Moment ε)}
    (moves : Moves w o h w' o') : w.link.nextId ≤ w'.link.nextId ∧
      ∀ p ∈ w'.link.pending, p ∈ w.link.pending ∨ w.link.nextId ≤ p.id := by
  induction moves with
  | nil w o => exact ⟨Nat.le_refl _, fun p hp => .inl hp⟩
  | cons move _ ih =>
    obtain ⟨hnext, hpending⟩ := move.numbers
    refine ⟨Nat.le_trans hnext ih.1, fun p hp => ?_⟩
    rcases ih.2 p hp with hp | hp
    · exact hpending p hp
    · exact .inr (Nat.le_trans hnext hp)

/-! ## §4. Actions made of moves. -/

/-- A sequence is made of moves if its first action is, and what follows it is,
be it the rest of the sequence or nothing after a fault. -/
theorem Leads.bind {α β : Type} {a : Act (Wire ε) α} {f : α → Act (Wire ε) β} {w : Wire ε}
    {o o₁ o' : List Pending} (first : Leads w o (a.exec w).2 o₁)
    (failed : Leads (a.exec w).2 o₁ (a.exec w).2 o')
    (rest : ∀ x, Leads (a.exec w).2 o₁ ((f x).exec (a.exec w).2).2 o') :
    Leads w o ((a >>= f).exec w).2 o' := by
  apply first.trans
  rw [Act.exec_bind]
  cases hr : a.exec w with
  | mk r w₁ =>
    rw [hr] at failed rest
    cases r with
    | error e => exact failed
    | ok x => exact rest x

/-- Whatever the action does is made of moves, and it leaves the orphans of others
alone. -/
def Act.Moving {α : Type} (a : Act (Wire ε) α) : Prop := ∀ w o, Leads w o (a.exec w).2 o

namespace Act.Moving

variable {α β : Type}

theorem pure (a : α) : Act.Moving (Pure.pure a : Act (Wire ε) α) := fun w o => Leads.refl w o

theorem throw (f : Fault) : Act.Moving (MonadExcept.throw f : Act (Wire ε) α) :=
  fun w o => Leads.refl w o

theorem bind {a : Act (Wire ε) α} {f : α → Act (Wire ε) β} (ha : a.Moving)
    (hf : ∀ x, (f x).Moving) : (a >>= f).Moving :=
  fun w o => (ha w o).bind (Leads.refl _ o) (fun x => hf x _ o)

theorem contained {a : Act (Wire ε) Unit} (ha : a.Moving) : (Act.contained a).Moving := by
  intro w o
  rw [Act.exec_contained_snd]
  exact ha w o

theorem look : (Wire.look : Act (Wire ε) Link).Moving := fun w o => Leads.refl w o

/-- A change of the link that the numbering does not depend on. -/
theorem update {f : Link → Link} (hkeeps : ∀ l : Link, l.Keeps (f l))
    (hsocket : ∀ l : Link, (f l).socket = l.socket) : (Wire.update f : Act (Wire ε) Unit).Moving :=
  fun w _ => Leads.of_move (.other (hkeeps w.link) (hsocket w.link))

end Act.Moving

end Moves
end FlowTrace
