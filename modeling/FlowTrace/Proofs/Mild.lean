/-
  FlowTrace.Proofs.Mild
  ────────────────────────────────
  **FAULTS THAT A GUARD KEEPS.**

  A guard around a handler keeps every fault to itself but the user's
  interruption and the request to leave.  A computation is mild if it ends with
  neither of them: reading a message, looking into its fields, finding the block
  of a line and scanning a source are.
-/
import FlowTrace.Bridge.Events
import FlowTrace.Proofs.Outcome

namespace FlowTrace

/-- The computation ends well or with a fault that a guard keeps. -/
def Mild {α : Type} (x : Except Fault α) : Prop := ∀ f, x = .error f → f.containable = true

/-! ## §1. Ways of computing. -/

namespace Mild

variable {α β : Type}

theorem ok (a : α) : Mild (.ok a : Except Fault α) := fun _ h => nomatch h

theorem error {f : Fault} (h : f.containable = true) : Mild (.error f : Except Fault α) := by
  intro g hg
  obtain rfl := Except.error.inj hg
  exact h

theorem bind {x : Except Fault α} {k : α → Except Fault β} (hx : Mild x) (hk : ∀ a, Mild (k a)) :
    Mild (x >>= k) := by
  cases x with
  | error f => exact error (hx f rfl)
  | ok a => exact hk a

theorem map {x : Except Fault α} (hx : Mild x) (k : α → β) : Mild (x.map k) := by
  cases x with
  | error f => exact error (hx f rfl)
  | ok a => exact ok _

theorem ite {p : Prop} [Decidable p] {x y : Except Fault α} (hx : Mild x) (hy : Mild y) :
    Mild (if p then x else y) := by
  by_cases h : p
  · rwa [if_pos h]
  · rwa [if_neg h]

end Mild

/-! ## §2. Values. -/

namespace Json

theorem mild_fieldsOf (v : Json) : Mild v.fieldsOf := by
  cases v with
  | obj fields => exact .ok _
  | _ => exact .error rfl

theorem mild_get (v : Json) (key : String) : Mild (v.get key) := v.mild_fieldsOf.map _

theorem mild_toInt (v : Json) : Mild v.toInt := by
  cases v with
  | null => exact .error rfl
  | bool b => exact .ok _
  | int n => exact .ok _
  | float x =>
    simp only [toInt]
    cases x.truncate? with
    | some n => exact .ok _
    | none => exact .ite (.error rfl) (.error rfl)
  | str s =>
    simp only [toInt]
    cases Numeral.readInt? s with
    | some n => exact .ok _
    | none => exact .error rfl
  | arr items => exact .error rfl
  | obj fields => exact .error rfl

theorem mild_toInt? (v : Json) : Mild v.toInt? := by
  unfold toInt?
  split
  · exact .ok _
  · exact .error rfl
  · exact .ok _

theorem mild_toFloatOrZero (v : Json) : Mild v.toFloatOrZero := by
  cases v with
  | int n =>
    simp only [toFloatOrZero]
    cases Binary64.ofInt? n with
    | some x => exact .ok _
    | none => exact .error rfl
  | _ => exact .ok _

theorem mild_toItems (v : Json) : Mild v.toItems := by
  cases v with
  | str s => exact .ok _
  | arr items => exact .ok _
  | obj fields => exact .ok _
  | _ => exact .error rfl

theorem mild_readWithin (room : Nat) (cs : List Char) : Mild (readWithin room cs) := by
  unfold readWithin
  cases readChars room cs with
  | ok v => exact .ok _
  | error e =>
    apply Mild.error
    unfold ReadError.fault
    cases e.problem <;> rfl

end Json

/-! ## §3. Block tables. -/

namespace Scan

theorem mild_number (token : List Char) : Mild (number token) := (Json.mild_toInt _).map _

theorem mild_decode (token : List Char) : Mild (decode token) := Json.mild_readWithin _ _

theorem mild_toBlock (call : Call) : Mild call.toBlock :=
  .bind (mild_number _) fun _ => .bind (mild_decode _) fun _ => .bind (mild_decode _) fun _ =>
    .bind (mild_decode _) fun _ => .bind (mild_decode _) fun _ => .bind (mild_decode _) fun _ =>
      .bind (mild_number _) fun _ => .bind (mild_number _) fun _ => .ok _

theorem mild_scanLines (factory : List Char) (ls : List (List Char)) :
    ∀ line, Mild (scanLines factory line ls) := by
  induction ls with
  | nil => exact fun _ => .ok _
  | cons cs rest ih =>
    intro line
    unfold scanLines
    cases firstCall? factory cs with
    | none => exact ih _
    | some call => exact .bind (mild_toBlock call) fun _ => .bind (ih _) fun _ => .ok _

end Scan

namespace BlockTable

theorem mild_ofSource (source factory : Json) : Mild (ofSource source factory) := by
  unfold ofSource
  split
  · exact (Scan.mild_scanLines _ _ _).map _
  · exact .error rfl
  · exact .error rfl

theorem mild_find (t : BlockTable) (line : Json) : Mild (t.find line) :=
  .ite (.ok _) ((Json.mild_toInt _).map _)

end BlockTable

/-! ## §4. Notifications. -/

theorem Thrown.mild_ofDetails (v : Json) : Mild (Thrown.ofDetails v) :=
  .bind (Json.mild_fieldsOf _) fun _ => .bind (Json.mild_toInt? _) fun _ =>
    .bind (Json.mild_toInt? _) fun _ => .bind (Json.mild_get _ _) fun _ => .ok _

theorem Report.mild_ofConsole (params : Record) : Mild (Report.ofConsole params) :=
  .bind (Json.mild_toInt? _) fun _ => .bind (Json.mild_toFloatOrZero _) fun _ => .ok _

theorem Report.mild_read (method : String) (params : Json) : Mild (Report.read method params) :=
  .ite ((Json.mild_fieldsOf _).map _) <| .ite ((Json.mild_fieldsOf _).map _) <| .ite (.ok _) <|
    .ite (.bind (Json.mild_get _ _) fun _ => .bind (Thrown.mild_ofDetails _) fun _ => .ok _) <|
      .ite (.bind (Json.mild_fieldsOf _) fun _ => Report.mild_ofConsole _) (.ok _)

theorem Notification.mild_ofFields (message : Record) : Mild (Notification.ofFields message) :=
  .bind (Report.mild_read _ _) fun _ => .ok _

theorem mild_locationNumber (location : Json) (key : String) : Mild (locationNumber location key) :=
  .bind (Json.mild_get _ _) fun _ => Json.mild_toInt _

theorem PausedFrame.mild_ofFrame (frame : Record) : Mild (PausedFrame.ofFrame frame) :=
  .bind (Json.mild_get _ _) fun _ => .bind (mild_locationNumber _ _) fun _ =>
    .bind (mild_locationNumber _ _) fun _ => .bind (Json.mild_toItems _) fun _ => .ok _

/-! ## §5. Reports. -/

namespace Bridge

variable (b : Bridge)

theorem mild_isFlowScript (url : Json) : Mild (b.isFlowScript url) := by
  unfold isFlowScript
  refine .ite ?_ (.ok _)
  cases b.config.marker with
  | str marker => exact .ok _
  | _ => exact .error rfl

theorem mild_flowFrame? (frames : List Record) : Mild (b.flowFrame? frames) := by
  induction frames with
  | nil => exact .ok _
  | cons f rest ih => exact .bind (b.mild_isFlowScript _) fun flow => .ite (.ok _) ih

theorem mild_flowLocation (e : Thrown) : Mild (b.flowLocation e) := by
  refine .bind (b.mild_flowFrame? _) fun found => ?_
  cases found with
  | some f => exact .ok _
  | none => exact .bind (b.mild_isFlowScript _) fun flow => .ite (.ok _) (.ok _)

theorem mild_describe (e : Thrown) (table : Option BlockTable) : Mild (b.describe e table) := by
  refine .bind (b.mild_flowLocation e) fun location => ?_
  cases table.or b.blocks with
  | none => exact .ok _
  | some t =>
    refine .bind (t.mild_find _) fun found => ?_
    cases found <;> exact .ok _

end Bridge

theorem Site.mild_tableOfSource (factory result : Json) : Mild (Site.tableOfSource factory result) :=
  .bind (Json.mild_get _ _) fun _ => BlockTable.mild_ofSource _ _

end FlowTrace
