/-
  FlowTrace.Proofs.Bridge.PauseFilter
  ────────────────────────────────
  **A PAUSE IS FILTERED BY ITS TOP FRAME.**

  The host pauses wherever it likes; a debugger of flow scripts stays only where
  the top frame is in one.  The script of the frame was reported before, maybe more
  than once, and its latest report says what its address is:

      in a flow script  — nothing is sent, the frame is kept, every listener is told,
                          and the breakpoints that were hit note the frame
      anywhere else     — one command lets the script run on, and nobody is told

  The latest report is the last one whose id reads as the frame's does (`latest?`).  The
  tracker finds it under that id (`filed?`), unless a report was misfiled: an id such as the
  number zero counts as not given when it is filed, and as given when it is looked up.  So
  the result asks that no misfiled report concern the frame's script.

  Main result: `Site.pause_filtered`.
-/
import FlowTrace.Bridge.Operations
import FlowTrace.Link.Rehearsal
import FlowTrace.Proofs.Bridge.Reading
import FlowTrace.Proofs.Json.Fields
import Mathlib.Data.List.Find
import Mathlib.Data.List.Induction

namespace FlowTrace

/-! ## §1. The latest report of a script. -/

/-- The text of an id, empty if none is given. -/
def idText (id : Json) : String := if id.isNull then "" else id.text

/-- The latest report of the script with an id: the last one whose id has the same text. -/
def latest? (history : List Record) (id : Json) : Option Record :=
  history.reverse.find? (fun told => idText (Json.field told "scriptId") == id.text)

/-- The script that a report is about. -/
def ParsedScript.ofParams (params : Record) : ParsedScript :=
  { scriptId := (Json.field params "scriptId").textOrEmpty
    url := (Json.field params "url").textOrEmpty
    params := params }

/-- The scripts that a history of reports leaves. -/
def scriptsOf (history : List Record) : List (String × ParsedScript) :=
  (history.foldl (fun t params => t.record (.ofParams params)) ({} : PauseTracker)).scripts

/-- The report that was filed last under an id. -/
def filed? (history : List Record) (id : String) : Option Record :=
  history.reverse.find? (fun params => (ParsedScript.ofParams params).scriptId == id)

theorem filed?_concat (history : List Record) (params : Record) (id : String) :
    filed? (history ++ [params]) id = if (ParsedScript.ofParams params).scriptId = id
      then some params else filed? history id := by
  unfold filed?
  rw [List.reverse_append, List.reverse_singleton, List.singleton_append, List.find?_cons]
  by_cases h : (ParsedScript.ofParams params).scriptId = id
  · simp [h]
  · have h' : ((ParsedScript.ofParams params).scriptId == id) = false := by simpa using h
    simp [h, h']

theorem scriptsOf_concat (history : List Record) (params : Record) :
    scriptsOf (history ++ [params]) = Fields.put (ParsedScript.ofParams params).scriptId
      (.ofParams params) (scriptsOf history) := by
  unfold scriptsOf
  rw [List.foldl_append]
  rfl

/-- The scripts hold the report that was filed last under each id. -/
theorem get?_scriptsOf (history : List Record) (id : String) :
    Fields.get? (scriptsOf history) id = (filed? history id).map .ofParams := by
  induction history using List.reverseRecOn with
  | nil => rfl
  | append_singleton history params ih =>
    rw [scriptsOf_concat, Fields.get?_put, filed?_concat, ih]
    split <;> rfl

/-- A report that is filed under no id although it has one: zero, false, an empty list or an
empty object. -/
def Misfiled (told : Record) : Prop :=
  (Json.field told "scriptId").truthy = false ∧ (Json.field told "scriptId").isNull = false
    ∧ (Json.field told "scriptId").text? = none

theorem Misfiled.scriptId_eq {told : Record} (h : Misfiled told) :
    (ParsedScript.ofParams told).scriptId = "" := by
  show (Json.field told "scriptId").textOrEmpty = ""
  rw [Json.textOrEmpty, h.1]
  rfl

/-- Every other report is filed under its id. -/
theorem scriptId_ofParams {told : Record} (h : ¬ Misfiled told) :
    (ParsedScript.ofParams told).scriptId = idText (Json.field told "scriptId") := by
  show (Json.field told "scriptId").textOrEmpty = _
  unfold Misfiled at h
  generalize Json.field told "scriptId" = id at h
  unfold Json.textOrEmpty idText
  cases htruthy : id.truthy with
  | true => cases id <;> first | rfl | cases htruthy
  | false =>
    cases id with
    | null => rfl
    | str text =>
      have hempty : text = "" := by simpa [Json.truthy] using htruthy
      subst hempty
      rfl
    | _ => exact absurd ⟨htruthy, rfl, rfl⟩ h

/-- No misfiled report concerns the script with an id: none has that id, and none is found
under it. -/
def Settled (history : List Record) (id : Json) : Prop :=
  ∀ told ∈ history, Misfiled told → id.text ≠ "" ∧ id.text ≠ idText (Json.field told "scriptId")

/-- **Under a settled id the latest report is found.** -/
theorem Settled.filed?_eq {history : List Record} {id : Json} (h : Settled history id) :
    filed? history id.text = latest? history id := by
  unfold filed? latest?
  refine List.find?_congr fun told htold => ?_
  have hmem : told ∈ history := List.mem_reverse.mp htold
  by_cases hmisfiled : Misfiled told
  · obtain ⟨hempty, hother⟩ := h told hmem hmisfiled
    rw [hmisfiled.scriptId_eq, beq_eq_false_iff_ne.mpr hempty.symm,
      beq_eq_false_iff_ne.mpr hother.symm]
  · rw [scriptId_ofParams hmisfiled]

/-! ## §2. Well-formed pauses. -/

namespace Message

/-- The method that a message names. -/
def method (message : Record) : String := (Json.field message "method").textOrEmpty

/-- The parameters of a message. -/
def params (message : Record) : Json := (Json.field message "params").orObject

theorem ofFields_eq (message : Record) : Notification.ofFields message =
    (Report.read (method message) (params message)).map (fun report =>
      { method := method message, params := params message, report := report }) := by
  show (Report.read (method message) (params message) >>= _) = _
  cases Report.read (method message) (params message) <;> rfl

end Message

namespace CallFrame

/-- Where a call frame stands. -/
def location (frame : Record) : Record := (Json.field frame "location").fields?.getD []

/-- A number of the location, zero if it is absent. -/
def number (frame : Record) (key : String) : Int :=
  match Json.field (location frame) key with
  | .int n => n
  | _ => 0

def scopes (frame : Record) : List Json :=
  match Json.field frame "scopeChain" with
  | .arr items => items
  | _ => []

/-- The location is absent or an object, with lines and columns that are absent or whole
numbers; the scope chain is absent or a list. -/
structure WellFormed (frame : Record) : Prop where
  place : Json.field frame "location" = .null ∨ (Json.field frame "location").isObj = true
  line : Json.field (location frame) "lineNumber" = .null ∨
    ∃ n, Json.field (location frame) "lineNumber" = .int n
  column : Json.field (location frame) "columnNumber" = .null ∨
    ∃ n, Json.field (location frame) "columnNumber" = .int n
  chain : Json.field frame "scopeChain" = .null ∨ ∃ items, Json.field frame "scopeChain" = .arr items

/-- The frame as it is kept. -/
def kept (frame : Record) : PausedFrame :=
  { callFrameId := (Json.field frame "callFrameId").textOrEmpty
    scriptId := (Json.field (location frame) "scriptId").textOrEmpty
    line := number frame "lineNumber", column := number frame "columnNumber"
    scopeChain := scopes frame, frame := frame }

/-- The id of the frame's script. -/
def scriptId (frame : Record) : Json := Json.field (location frame) "scriptId"

/-- The address in the latest report of the frame's script. -/
def latestUrl? (history : List Record) (frame : Record) : Option String :=
  if (scriptId frame).isNull then none
  else (latest? history (scriptId frame)).map (fun told => (ParsedScript.ofParams told).url)

/-- The address that is filed for the frame's script. -/
def url? (history : List Record) (frame : Record) : Option String :=
  if (Json.field (location frame) "scriptId").isNull then none
  else (filed? history (Json.field (location frame) "scriptId").text).map
    (fun params => (ParsedScript.ofParams params).url)

theorem url?_eq_latestUrl? {history : List Record} {frame : Record}
    (h : Settled history (scriptId frame)) : url? history frame = latestUrl? history frame := by
  show (if (scriptId frame).isNull then none
    else (filed? history (scriptId frame).text).map _) = _
  rw [h.filed?_eq, latestUrl?]

/-- Is the frame taken for one in a flow script?  The address that is filed for its script
is not empty and holds the marker. -/
def inFlow (marker : String) (history : List Record) (frame : Record) : Bool :=
  match url? history frame with
  | some url => !url.isEmpty && contains url marker
  | none => false

variable {frame : Record}

theorem WellFormed.orObject (h : WellFormed frame) :
    (Json.field frame "location").orObject = .obj (location frame) := by
  unfold CallFrame.location
  rcases h.place with hnull | hobj
  · rw [hnull]
    rfl
  · cases hfield : Json.field frame "location" <;> rw [hfield] at hobj <;> try cases hobj
    rename_i fields
    cases fields <;> rfl

theorem locationNumber_eq {fields : Record} {key : String}
    (h : Json.field fields key = .null ∨ ∃ n, Json.field fields key = .int n) :
    locationNumber (.obj fields) key = .ok (match Json.field fields key with
      | .int n => n
      | _ => 0) := by
  show ((Json.field fields key).orElse (.int 0)).toInt = _
  rcases h with hnull | ⟨n, hint⟩
  · rw [hnull]
    rfl
  · rw [hint]
    unfold Json.orElse Json.truthy
    by_cases hn : n = 0
    · subst hn
      rfl
    · simp [hn, Json.toInt]

/-- A well-formed frame is kept. -/
theorem WellFormed.ofFrame (h : WellFormed frame) :
    PausedFrame.ofFrame frame = .ok (kept frame) := by
  have hscopes : ((Json.field frame "scopeChain").orElse (.arr [])).toItems = .ok (scopes frame) := by
    unfold CallFrame.scopes
    rcases h.chain with hnull | ⟨items, hitems⟩
    · rw [hnull]
      rfl
    · rw [hitems]
      cases items <;> rfl
  unfold PausedFrame.ofFrame
  dsimp only
  rw [h.orObject, locationNumber_eq h.line, locationNumber_eq h.column, hscopes]
  rfl

end CallFrame
namespace PauseParams

/-- The call frames of a pause, top frame first. -/
def frames (params : Record) : List Record := (Json.field params "callFrames").objects

/-- The ids of the breakpoints that were hit. -/
def hits (params : Record) : List Json :=
  match Json.field params "hitBreakpoints" with
  | .arr ids => ids
  | _ => []

/-- The top frame is well formed, and the breakpoints hit are absent or a list. -/
structure WellFormed (params : Record) : Prop where
  top : ∀ frame rest, frames params = frame :: rest → CallFrame.WellFormed frame
  hit : Json.field params "hitBreakpoints" = .null ∨
    ∃ ids, Json.field params "hitBreakpoints" = .arr ids

theorem WellFormed.hitIds {params : Record} (h : WellFormed params) :
    Bridge.hitIds (.obj params) = .ok (hits params) := by
  unfold Bridge.hitIds hits
  show ((Json.field params "hitBreakpoints").orElse (.arr [])).toItems = _
  rcases h.hit with hnull | ⟨ids, hids⟩
  · rw [hnull]
    rfl
  · rw [hids]
    cases ids <;> rfl

/-- The pause is one at a frame of a flow script with an address: the latest report of the
script of its top frame has that address, which is not empty and holds the marker. -/
def InFlow (marker : String) (history : List Record) (params frame : Record) (url : String) :
    Prop :=
  (frames params).head? = some frame ∧ CallFrame.latestUrl? history frame = some url ∧ url ≠ ""
    ∧ contains url marker = true

/-- No misfiled report concerns the script of the top frame. -/
def TopSettled (history : List Record) (params : Record) : Prop :=
  ∀ frame, (frames params).head? = some frame → Settled history (CallFrame.scriptId frame)

theorem inFlow_iff {marker : String} {history : List Record} {params frame : Record}
    (hsettled : TopSettled history params) :
    (∃ url, InFlow marker history params frame url) ↔
      (frames params).head? = some frame ∧ CallFrame.inFlow marker history frame = true := by
  unfold InFlow CallFrame.inFlow
  constructor
  · rintro ⟨url, hhead, hurl, hne, hholds⟩
    refine ⟨hhead, ?_⟩
    rw [CallFrame.url?_eq_latestUrl? (hsettled frame hhead), hurl]
    simp [hne, hholds]
  · rintro ⟨hhead, hflow⟩
    rw [CallFrame.url?_eq_latestUrl? (hsettled frame hhead)] at hflow
    cases hurl : CallFrame.latestUrl? history frame with
    | none =>
      rw [hurl] at hflow
      cases hflow
    | some url =>
      rw [hurl] at hflow
      refine ⟨url, hhead, rfl, ?_⟩
      simpa using hflow

end PauseParams

/-! ## §3. Breakpoints that were hit. -/

namespace BreakpointRegistry

/-- The frame is noted at the breakpoint. -/
def note (frame : PausedFrame) (bp : Breakpoint) : Breakpoint :=
  { bp with hitFrame := some frame.frame, hitScopes := frame.scopeChain }

/-- Is the breakpoint at an index the first one with one of the ids? -/
def isHit (r : BreakpointRegistry) (ids : List Json) (i : Nat) : Bool :=
  ids.any (fun id => r.indexOfId? id == some i)

/-- The registry with a frame noted at the breakpoints that were hit. -/
def noting (r : BreakpointRegistry) (frame : PausedFrame) (ids : List Json) : BreakpointRegistry :=
  ⟨r.items.mapIdx (fun i bp => if r.isHit ids i then note frame bp else bp)⟩

/-- Noting a frame changes nothing that breakpoints are found by. -/
theorem indexOfId?_modify (r : BreakpointRegistry) (i : Nat) (f : Breakpoint → Breakpoint)
    (hf : ∀ bp, (f bp).id = bp.id) (id : Json) :
    (r.modify i f).indexOfId? id = r.indexOfId? id := by
  have hids : ∀ (items : List Breakpoint) (i : Nat),
      (items.modify i f).map (·.id) = items.map (·.id) := by
    intro items
    induction items with
    | nil => intro i; cases i <;> rfl
    | cons bp rest ih =>
      intro i
      cases i with
      | zero => simp [hf]
      | succ i => simpa using ih i
  have hfind (items : List Breakpoint) :
      items.findIdx? (fun bp => bp.id.same id) = (items.map (·.id)).findIdx? (fun x => x.same id) := by
    rw [List.findIdx?_map]
    rfl
  unfold indexOfId? modify
  rw [hfind, hids, ← hfind]

theorem noting_nil (r : BreakpointRegistry) (frame : PausedFrame) : r.noting frame [] = r := by
  have hitems : r.items.mapIdx (fun i bp => if r.isHit [] i then note frame bp else bp)
      = r.items := by
    apply List.ext_getElem?
    intro j
    rw [List.getElem?_mapIdx]
    cases r.items[j]? <;> rfl
  unfold noting
  rw [hitems]

/-- The breakpoints hit are noted one after the other. -/
theorem noting_cons_some (r : BreakpointRegistry) (frame : PausedFrame) (ids : List Json)
    {id : Json} {i : Nat} (hi : r.indexOfId? id = some i) :
    (r.modify i (note frame)).noting frame ids = r.noting frame (id :: ids) := by
  -- to note a hit moves no id, so the later ids hit what they hit before
  have hsame (j : Nat) : (r.modify i (note frame)).isHit ids j = r.isHit ids j := by
    unfold isHit
    congr 1
    funext id'
    rw [indexOfId?_modify r i (note frame) (fun _ => rfl)]
  have hitems : (r.items.modify i (note frame)).mapIdx (fun j bp =>
        if (r.modify i (note frame)).isHit ids j then note frame bp else bp)
      = r.items.mapIdx (fun j bp => if r.isHit (id :: ids) j then note frame bp else bp) := by
    apply List.ext_getElem?
    intro j
    rw [List.getElem?_mapIdx, List.getElem?_mapIdx, List.getElem?_modify, hsame]
    have hcons : r.isHit (id :: ids) j = (some i == some j || r.isHit ids j) := by
      unfold isHit
      rw [List.any_cons, hi]
    rw [hcons]
    cases r.items[j]? with
    | none => rfl
    | some bp =>
      by_cases hij : i = j
      · subst hij
        by_cases hhit : r.isHit ids i <;> simp [hhit, note]
      · simp [hij]
  unfold noting
  exact congrArg mk hitems

theorem noting_cons_none (r : BreakpointRegistry) (frame : PausedFrame) (ids : List Json)
    {id : Json} (hi : r.indexOfId? id = none) : r.noting frame (id :: ids) = r.noting frame ids := by
  have hsame (j : Nat) : r.isHit (id :: ids) j = r.isHit ids j := by
    unfold isHit
    rw [List.any_cons, hi]
    rfl
  unfold noting
  simp only [hsame]

end BreakpointRegistry

/-- The frame is noted at every breakpoint that was hit, and nowhere else. -/
theorem Bridge.recordHits_noting (frame : PausedFrame) (ids : List Json) : ∀ b : Bridge,
    b.recordHits frame ids = { b with registry := b.registry.noting frame ids } := by
  induction ids with
  | nil =>
    intro b
    rw [BreakpointRegistry.noting_nil]
    rfl
  | cons id rest ih =>
    intro b
    unfold recordHits
    cases hi : b.registry.indexOfId? id with
    | none =>
      rw [BreakpointRegistry.noting_cons_none _ _ _ hi]
      exact ih b
    | some i =>
      rw [← BreakpointRegistry.noting_cons_some _ _ _ hi]
      exact ih _

/-! ## §4. What is done about a pause. -/

namespace Bridge

variable {b : Bridge} {marker : String} {history : List Record}

/-- The address of a frame's script is the one that is filed. -/
theorem url_of_history (hhistory : b.tracker.scripts = scriptsOf history) (frame : Record) :
    b.tracker.url (Json.field (CallFrame.location frame) "scriptId")
      = match CallFrame.url? history frame with
        | some url => .str url
        | none => .null := by
  unfold PauseTracker.url PauseTracker.script? CallFrame.url?
  by_cases hnull : (Json.field (CallFrame.location frame) "scriptId").isNull
  · rw [if_pos hnull, if_pos hnull]
  · rw [if_neg hnull, if_neg hnull, hhistory, get?_scriptsOf]
    cases filed? history (Json.field (CallFrame.location frame) "scriptId").text <;> rfl

/-- An address is one of a flow script if it is not empty and holds the marker. -/
theorem isFlowScript_str (hmarker : b.config.marker = .str marker) (url : String) :
    b.isFlowScript (.str url) = .ok (!url.isEmpty && contains url marker) := by
  unfold isFlowScript
  rw [hmarker]
  by_cases hempty : url.isEmpty
  · simp [Json.truthy, hempty]
  · simp [Json.truthy, hempty, Json.text]

/-- A frame is taken for one in a flow script exactly if it is. -/
theorem isFlowScript_of_history (hmarker : b.config.marker = .str marker)
    (hhistory : b.tracker.scripts = scriptsOf history) (frame : Record) :
    b.isFlowScript (b.tracker.url (Json.field (CallFrame.location frame) "scriptId"))
      = .ok (CallFrame.inFlow marker history frame) := by
  rw [url_of_history hhistory]
  unfold CallFrame.inFlow
  cases CallFrame.url? history frame with
  | none => rfl
  | some url => exact isFlowScript_str hmarker url

end Bridge

namespace Site

variable {ε : Type} {s : Site ε}

/-- The site at a pause in a flow script. -/
def staying (s : Site ε) (params frame : Record) (url : String) : Site ε :=
  { s with
    bridge :=
      { s.bridge with
        tracker := s.bridge.tracker.capture (CallFrame.kept frame)
        registry := s.bridge.registry.noting (CallFrame.kept frame) (PauseParams.hits params)
        status := .paused
        calls := s.bridge.calls ++ s.bridge.config.callsOf
          (.breakpoint url (.int (CallFrame.number frame "lineNumber")) (CallFrame.scopes frame)
            frame) } }

/-- The command that lets a script run on. -/
def resumeCommand (s : Site ε) : Envelope :=
  { id := s.bridge.link.nextId, method := "Debugger.resume"
    params := .obj [("terminateOnResume", .bool false)] }

variable [Endpoint ε]

/-- The site after a pause anywhere else: one command was sent on the socket. -/
def passing (s : Site ε) (k : Nat) : Site ε :=
  { bridge := { s.bridge.leavePause with link := s.bridge.link.allocate.2 }
    network := (s.network.send k s.resumeCommand).2 }

/-- A site with a connection on which commands can be sent. -/
structure Sends (s : Site ε) (k : Nat) : Prop where
  socket : s.bridge.link.socket = some k
  opened : s.bridge.link.shutdown = false
  ok : ∀ e, (s.network.send k e).1 = .ok ()

/-- Letting the script run on sends one command, and that is all. -/
theorem exec_resume {k : Nat} (hsends : s.Sends k) (hsilent : s.bridge.link.signals = []) :
    resume.exec s = (.ok (), s.passing k) := by
  -- the number is taken first, and the command goes out over the open link
  have hsend : (Wire.sendWith Wire.teardown s.resumeCommand).exec
      { s.left.wire with link := s.bridge.link.allocate.2 } = (.ok (),
        { link := s.bridge.link.allocate.2, network := (s.network.send k s.resumeCommand).2 }) := by
    have hlink : (s.bridge.link.allocate.2).socket = some k := hsends.socket
    unfold Wire.sendWith
    rw [Act.exec_bind_ok (Wire.exec_look _),
      if_neg (by show ¬ s.bridge.link.shutdown = true; simp [hsends.opened])]
    simp only [hlink]
    rw [Act.exec_bind_ok (Wire.exec_onNetwork _ _)]
    have hok : (s.left.wire.network.send k s.resumeCommand).1 = .ok () := hsends.ok _
    simp only [hok]
    rfl
  have hnotify : (Wire.notify "Debugger.resume" (.obj [("terminateOnResume", .bool false)])).exec
      s.left.wire = (.ok s.bridge.link.nextId,
        { link := s.bridge.link.allocate.2, network := (s.network.send k s.resumeCommand).2 }) := by
    unfold Wire.notify
    rw [Act.exec_bind_ok (Wire.exec_allocate _)]
    exact Act.exec_bind_ok hsend
  have honLink := exec_onLink_silent (s := s.left) hnotify hsilent
  have hsilenced : s.bridge.link.allocate.2.silenced = s.bridge.link.allocate.2 := by
    show ({ s.bridge.link.allocate.2 with signals := [] } : Link) = _
    rw [← hsilent]
    rfl
  unfold resume
  rw [Act.exec_bind_ok (exec_update _ s)]
  refine (Act.exec_bind_ok honLink).trans ?_
  show (Except.ok (), ({ bridge := { s.bridge.leavePause with link := Link.silenced _ }
                         network := _ } : Site ε)) = _
  rw [hsilenced]
  rfl

variable {marker : String} {history : List Record} {message params : Record}

/-- The message of a pause with its parameters. -/
structure IsPause (message params : Record) : Prop where
  method : Message.method message = "Debugger.paused"
  params : Message.params message = .obj params

theorem IsPause.ofFields (h : IsPause message params) : Notification.ofFields message = .ok
    { method := "Debugger.paused", params := .obj params
      report := .paused (PauseParams.frames params) (Json.field params "reason") } := by
  rw [Message.ofFields_eq, h.method, h.params]
  rfl

theorem IsPause.exec_onMessage (h : IsPause message params) :
    (onMessage message).exec s = (onPaused (PauseParams.frames params) (.obj params)).exec s := by
  unfold onMessage
  rw [exec_ofExcept_bind, h.ofFields]
  rfl

/-- What is done about a pause: one thing in a flow script, another anywhere else. -/
structure Filters (s : Site ε) (k : Nat) (marker : String) (history : List Record)
    (message params : Record) : Prop where
  /-- Nothing is sent, the frame is kept, the listeners are told and the breakpoints that
  were hit note the frame. -/
  inFlow : ∀ frame url, PauseParams.InFlow marker history params frame url →
    (onMessage message).exec s = (.ok (), s.staying params frame url)
  /-- One command is sent, and nobody is told. -/
  elsewhere : (∀ frame url, ¬ PauseParams.InFlow marker history params frame url) →
    (onMessage message).exec s = (.ok (), s.passing k)

/-- A pause with a well-formed top frame is entered in a flow script, and left anywhere else. -/
theorem IsPause.exec_onMessage_cons (hpause : IsPause message params)
    (hmarker : s.bridge.config.marker = .str marker)
    (hhistory : s.bridge.tracker.scripts = scriptsOf history) {frame : Record} {rest : List Record}
    (hframes : PauseParams.frames params = frame :: rest) (hwell : CallFrame.WellFormed frame) :
    (onMessage message).exec s = (if CallFrame.inFlow marker history frame then enterPause
      (s.bridge.tracker.url (Json.field (CallFrame.location frame) "scriptId")).text frame
        (.obj params) else resume).exec s := by
  rw [hpause.exec_onMessage, hframes]
  unfold onPaused
  rw [exec_ofExcept_bind, hwell.orObject]
  show (look >>= _ : Act (Site ε) Unit).exec s = _
  rw [Act.exec_bind_ok (exec_look s), exec_ofExcept_bind]
  dsimp only
  rw [Bridge.isFlowScript_of_history hmarker hhistory]

theorem filters {k : Nat} (htame : s.bridge.config.Tame)
    (hmarker : s.bridge.config.marker = .str marker)
    (hhistory : s.bridge.tracker.scripts = scriptsOf history)
    (hsends : s.Sends k) (hsilent : s.bridge.link.signals = [])
    (hpause : IsPause message params) (hwell : PauseParams.WellFormed params)
    (hsettled : PauseParams.TopSettled history params) :
    s.Filters k marker history message params := by
  constructor
  case inFlow =>
    intro frame url hin
    obtain ⟨hhead, hflow⟩ := (PauseParams.inFlow_iff hsettled).mp ⟨url, hin⟩
    have hurl : CallFrame.url? history frame = some url :=
      (CallFrame.url?_eq_latestUrl? (hsettled frame hhead)).trans hin.2.1
    -- the frame in question is the first one
    obtain ⟨rest, hframes⟩ : ∃ rest, PauseParams.frames params = frame :: rest := by
      cases hall : PauseParams.frames params with
      | nil => rw [hall] at hhead; cases hhead
      | cons f rest => rw [hall] at hhead; cases hhead; exact ⟨rest, rfl⟩
    have htop := hwell.top frame rest hframes
    rw [hpause.exec_onMessage_cons hmarker hhistory hframes htop, if_pos hflow,
      exec_enterPause htame, htop.ofFrame, Bridge.url_of_history hhistory, hurl]
    dsimp only
    rw [hwell.hitIds]
    dsimp only
    unfold Bridge.staying
    rw [Bridge.recordHits_noting]
    rfl
  case elsewhere =>
    intro hno
    cases hframes : PauseParams.frames params with
    | nil =>
      rw [hpause.exec_onMessage, hframes]
      exact exec_resume hsends hsilent
    | cons frame rest =>
      have hflow : ¬ CallFrame.inFlow marker history frame = true := by
        intro hflow
        obtain ⟨url, hin⟩ := (PauseParams.inFlow_iff hsettled).mpr ⟨by rw [hframes]; rfl, hflow⟩
        exact hno frame url hin
      rw [hpause.exec_onMessage_cons hmarker hhistory hframes (hwell.top frame rest hframes),
        if_neg hflow]
      exact exec_resume hsends hsilent

/-- **A PAUSE IS FILTERED BY ITS TOP FRAME**: in whatever state a bridge takes the
message of a pause from its link, it stays there exactly if the latest report of the top
frame's script has an address of a flow script, and lets the script run on otherwise. -/
theorem pause_filtered {s₀ : Site ε} {k : Nat} (htame : s₀.bridge.config.Tame)
    (hread : (onLink Wire.poll).exec s₀ = (.ok (.notification message), s))
    (hmarker : s.bridge.config.marker = .str marker)
    (hhistory : s.bridge.tracker.scripts = scriptsOf history) (hsends : s.Sends k)
    (hpause : IsPause message params) (hwell : PauseParams.WellFormed params)
    (hsettled : PauseParams.TopSettled history params) :
    s.Filters k marker history message params := by
  obtain ⟨s₁, hexec, hlink, -, hconfig⟩ := onLink_leaves (a := Wire.poll) htame rfl
  obtain rfl : s = s₁ := (Prod.mk.inj (hread.symm.trans hexec)).2
  have htame' : s.bridge.config.Tame := hconfig ▸ htame
  have hsilent : s.bridge.link.signals = [] := by
    rw [hlink]
    rfl
  exact filters htame' hmarker hhistory hsends hsilent hpause hwell hsettled

/-! ## §5. A host that pauses. -/

/-- A script is reported with an address. -/
def parsedParams (url : String) : Record := [("scriptId", "7"), ("url", .str url)]

/-- A pause in that script. -/
def pauseParams : Record :=
  [("callFrames", .arr [.obj [("callFrameId", "f"),
    ("location", .obj [("scriptId", "7"), ("lineNumber", .int 4)])]])]

def pauseMessage : Record := [("method", "Debugger.paused"), ("params", .obj pauseParams)]

theorem wellFormed_pauseParams : PauseParams.WellFormed pauseParams := by
  refine ⟨?_, .inl rfl⟩
  intro frame rest hframes
  cases hframes
  exact ⟨.inr rfl, .inr ⟨4, rfl⟩, .inl rfl, .inl rfl⟩

/-- A bridge that was started with a marker, on a host that has reported a script and
will say that it pauses there. -/
def pausing (marker url : String) : Site RehearsedHost :=
  let fresh : Site RehearsedHost :=
    { bridge :=
        { config := { marker := .str marker, listeners := [{ kind := .breakpoint, name := "a" }] }
          link := { url := "ws" } }
      network := { endpoint := {} } }
  let started := (start.exec fresh).2
  let parsed : Record :=
    [("method", "Debugger.scriptParsed"), ("params", .obj (parsedParams url))]
  let told := (onMessage parsed).exec started
  { told.2 with
    network := { told.2.network with
      endpoint := told.2.network.endpoint.enqueue 0 [.message (.obj pauseMessage)] } }

/-- The bridge has taken the message of the pause. -/
def paused (marker url : String) : Site RehearsedHost :=
  ((onLink Wire.poll).exec (pausing marker url)).2

theorem topSettled_pauseParams (url : String) :
    PauseParams.TopSettled [parsedParams url] pauseParams := by
  intro frame _ told htold hmisfiled
  obtain rfl := List.mem_singleton.mp htold
  cases hmisfiled.2.2

theorem pause_filtered_pausing :
    (pausing "flow.js" "lib/flow.js").bridge.config.Tame ∧
      (onLink Wire.poll).exec (pausing "flow.js" "lib/flow.js")
        = (.ok (.notification pauseMessage), paused "flow.js" "lib/flow.js") ∧
      (paused "flow.js" "lib/flow.js").bridge.config.marker = .str "flow.js" ∧
      (paused "flow.js" "lib/flow.js").bridge.tracker.scripts
        = scriptsOf [parsedParams "lib/flow.js"] ∧
      (paused "flow.js" "lib/flow.js").Sends 0 ∧
      IsPause pauseMessage pauseParams ∧ PauseParams.WellFormed pauseParams ∧
      PauseParams.TopSettled [parsedParams "lib/flow.js"] pauseParams ∧
      (paused "flow.js" "lib/flow.js").Filters 0 "flow.js" [parsedParams "lib/flow.js"]
        pauseMessage pauseParams := by
  have htame : (pausing "flow.js" "lib/flow.js").bridge.config.Tame := by
    have hlisteners : (pausing "flow.js" "lib/flow.js").bridge.config.listeners
        = [{ kind := .breakpoint, name := "a" }] := rfl
    intro l hl e
    rw [hlisteners] at hl
    obtain rfl := List.mem_singleton.mp hl
    exact .ok ()
  have hsends : (paused "flow.js" "lib/flow.js").Sends 0 := ⟨rfl, rfl, fun _ => rfl⟩
  have hsettled := topSettled_pauseParams "lib/flow.js"
  exact ⟨htame, rfl, rfl, rfl, hsends, ⟨rfl, rfl⟩, wellFormed_pauseParams, hsettled,
    pause_filtered htame rfl rfl rfl hsends ⟨rfl, rfl⟩ wellFormed_pauseParams hsettled⟩

/-- A script whose address is empty is no flow script, although the empty address holds
the empty marker: it runs on from a pause, and no listener is told. -/
theorem empty_address_passed :
    (onLink Wire.poll).exec (pausing "" "") = (.ok (.notification pauseMessage), paused "" "") ∧
      (paused "" "").bridge.tracker.scripts = scriptsOf [parsedParams ""] ∧
      (paused "" "").Sends 0 ∧
      IsPause pauseMessage pauseParams ∧ PauseParams.WellFormed pauseParams ∧
      (∃ frame, (PauseParams.frames pauseParams).head? = some frame ∧
        CallFrame.latestUrl? [parsedParams ""] frame = some "") ∧
      contains "" "" = true ∧
      (onMessage pauseMessage).exec (paused "" "") = (.ok (), (paused "" "").passing 0) ∧
      ((paused "" "").passing 0).bridge.status = .ready ∧
      ((paused "" "").passing 0).bridge.calls = [] :=
  ⟨rfl, rfl, ⟨rfl, rfl, fun _ => rfl⟩, ⟨rfl, rfl⟩, wellFormed_pauseParams, ⟨_, rfl, rfl⟩, rfl, rfl,
    rfl, rfl⟩

end Site
end FlowTrace
