/-
  FlowTrace.Proofs.Bridge.Watch
  ────────────────────────────────
  **THE BRIDGE IS PAUSED WHERE THE HOST IS.**

  Whether a script is paused, and where, can be read off the conversation alone: it
  stands at the last pause in a flow script, unless something was said since that
  lets it run or starts the debugging anew.  The bridge keeps a status and a frame
  of its own, and changes them in many places.  Whatever it was asked to do:

      the status is that of a pause   exactly if   a frame is kept
      a frame is kept                 exactly if   the script stands there

  The invariant is that the tracker of the bridge is what a watcher of the
  conversation would have in its place.
-/
import FlowTrace.Proofs.Bridge.Command
import FlowTrace.Proofs.Bridge.PauseFilter

namespace FlowTrace

/-! ## §1. What can be read off a conversation. -/

namespace Exchange

/-- The debugging starts anew: a connection is attempted, or the reports of the host are
enabled. -/
def starts : Exchange → Bool
  | dialled _ => true
  | sent _ e _ => e.asks "Debugger.enable"
  | _ => false

/-- The script is let run, or the connection to it is gone. -/
def releases : Exchange → Bool
  | sent _ e _ => e.asks "Debugger.resume" || e.asks "Debugger.stepOver"
  | closed _ _ => true
  | _ => false

/-- The notification that was received, if it was one. -/
def notification? : Exchange → Option Record
  | received _ frame => frame.fields?.filter (fun m => Fields.contains m "method")
  | _ => none

theorem notification?_some {k : Nat} {frame : Frame} {m : Record}
    (hfields : frame.fields? = some m) (hmethod : Fields.contains m "method" = true) :
    (received k frame).notification? = some m := by
  show frame.fields?.filter (fun m => Fields.contains m "method") = some m
  rw [hfields]
  exact Option.filter_some_pos hmethod

theorem notification?_none {k : Nat} {frame : Frame}
    (hno : ∀ m, frame.fields? = some m → Fields.contains m "method" = false) :
    (received k frame).notification? = none := by
  show frame.fields?.filter (fun m => Fields.contains m "method") = none
  cases hfields : frame.fields? with
  | none => rfl
  | some m => simp [hno m hfields]

/-- The parameters of a notification with the method. -/
def told? (x : Exchange) (method : String) : Option Json :=
  (x.notification?.filter (fun m => Message.method m == method)).map Message.params

/-- A notification tells of its own method. -/
theorem told?_of_notification {x : Exchange} {message : Record} (hx : x.notification? = some message)
    (method : String) : x.told? method =
      if Message.method message = method then some (Message.params message) else none := by
  unfold told?
  rw [hx]
  by_cases hm : Message.method message = method <;> simp [hm]

/-- What is no notification tells of nothing. -/
theorem told?_quiet {x : Exchange} (hnone : x.notification? = none) (method : String) :
    x.told? method = none := by
  unfold told?
  rw [hnone]
  rfl

theorem told?_eq_some {x : Exchange} {method : String} {params : Json} :
    x.told? method = some params ↔ ∃ m, x.notification? = some m ∧ Message.method m = method ∧
      Message.params m = params := by
  simp [told?, Option.filter_eq_some_iff, and_assoc]

/-- The reports of scripts after an exchange. -/
def report (history : List Record) (x : Exchange) : List Record :=
  if x.starts then [] else history ++ ((x.told? "Debugger.scriptParsed").bind Json.fields?).toList

end Exchange

/-- The scripts that were reported since the debugging was started last. -/
def reported (xs : List Exchange) : List Record := xs.foldl Exchange.report []

/-- Every pause that was told is well formed. -/
def PausesWell (xs : List Exchange) : Prop :=
  ∀ x ∈ xs, ∀ v, x.told? "Debugger.paused" = some v →
    ∃ params, v = .obj params ∧ PauseParams.WellFormed params

theorem PausesWell.of_prefix {xs ys : List Exchange} (h : PausesWell ys) (hbegin : xs <+: ys) :
    PausesWell xs := fun x hx => h x (hbegin.subset hx)

/-- The exchange leaves the script where it stands. -/
def Exchange.Leaves (x : Exchange) : Prop :=
  x.starts = false ∧ x.releases = false ∧ x.told? "Debugger.paused" = none ∧
    x.told? "Debugger.resumed" = none

/-- The exchange is the notification of a pause at a frame of a flow script. -/
def Exchange.PausesAt (marker : String) (history : List Record) (x : Exchange) (frame : Record) :
    Prop :=
  ∃ params, x.told? "Debugger.paused" = some (.obj params) ∧
    (PauseParams.frames params).head? = some frame ∧
      CallFrame.inFlow marker history frame = true

/-- The script stands at a frame: it paused there, and nothing that was said since has
changed that. -/
def StandsAt (marker : String) (xs : List Exchange) (frame : Record) : Prop :=
  ∃ before x after, xs = before ++ x :: after ∧ x.PausesAt marker (reported before) frame ∧
    ∀ y ∈ after, y.Leaves

/-! ## §2. A watcher of the conversation. -/

/-- The top frame of a pause, if it is in a flow script. -/
def flowTop? (marker : String) (history : List Record) (params : Record) : Option Record :=
  (PauseParams.frames params).head?.filter (CallFrame.inFlow marker history)

/-- What a watcher of the conversation knows: the reports of scripts, and the frame at
which the script stands. -/
structure Watch where
  history : List Record := []
  frame : Option Record := none

namespace Watch

/-- The frame after an exchange. -/
def frameAfter (marker : String) (w : Watch) (x : Exchange) : Option Record :=
  if x.starts || x.releases then none
  else
    match x.told? "Debugger.paused" with
    | some v => v.fields?.bind (flowTop? marker w.history)
    | none => if (x.told? "Debugger.resumed").isSome then none else w.frame

/-- What is known after an exchange. -/
def next (marker : String) (w : Watch) (x : Exchange) : Watch :=
  { history := x.report w.history, frame := w.frameAfter marker x }

/-- The tracker that a bridge with this knowledge has. -/
def tracker (w : Watch) : PauseTracker :=
  { scripts := scriptsOf w.history, paused := w.frame.map CallFrame.kept }

end Watch

/-- What is known after a conversation. -/
def watch (marker : String) (xs : List Exchange) : Watch := xs.foldl (Watch.next marker) {}

variable {marker : String} {xs : List Exchange} {x : Exchange} {frame : Record}

theorem watch_concat (marker : String) (xs : List Exchange) (x : Exchange) :
    watch marker (xs ++ [x]) = (watch marker xs).next marker x := by
  unfold watch
  rw [List.foldl_append]
  rfl

theorem reported_concat (xs : List Exchange) (x : Exchange) :
    reported (xs ++ [x]) = x.report (reported xs) := by
  unfold reported
  rw [List.foldl_append]
  rfl

theorem watch_history (marker : String) (xs : List Exchange) :
    (watch marker xs).history = reported xs := by
  induction xs using List.reverseRecOn with
  | nil => rfl
  | append_singleton xs x ih =>
    rw [watch_concat, reported_concat, ← ih]
    rfl

/-- What is told is told by the host: it neither starts the debugging nor lets the script
run. -/
theorem Exchange.told_received {method : String} {v : Json} (h : x.told? method = some v) :
    x.starts = false ∧ x.releases = false := by
  cases x with
  | received k frame => exact ⟨rfl, rfl⟩
  | _ => cases h

/-- The script stands where it has just paused, or where it stood before. -/
theorem standsAt_concat : StandsAt marker (xs ++ [x]) frame ↔
    x.PausesAt marker (reported xs) frame ∨ (StandsAt marker xs frame ∧ x.Leaves) := by
  constructor
  · rintro ⟨before, y, after, heq, hpauses, hleaves⟩
    rcases List.eq_nil_or_concat after with rfl | ⟨rest, z, rfl⟩
    · obtain ⟨rfl, hy⟩ := List.append_inj' heq rfl
      obtain rfl : x = y := by simpa using hy
      exact .inl hpauses
    · have heq' : xs ++ [x] = (before ++ y :: rest) ++ [z] := by simpa using heq
      obtain ⟨rfl, hz⟩ := List.append_inj' heq' rfl
      obtain rfl : x = z := by simpa using hz
      refine .inr ⟨⟨before, y, rest, rfl, hpauses, fun u hu => hleaves u ?_⟩, hleaves x ?_⟩
      · simp [hu]
      · simp
  · rintro (hpauses | ⟨⟨before, y, after, rfl, hpauses, hleaves⟩, hx⟩)
    · exact ⟨xs, x, [], rfl, hpauses, fun u hu => nomatch hu⟩
    · refine ⟨before, y, after ++ [x], by simp, hpauses, fun u hu => ?_⟩
      rcases List.mem_append.mp hu with hu | hu
      · exact hleaves u hu
      · obtain rfl := List.mem_singleton.mp hu
        exact hx

/-- **A watcher knows where the script stands.** -/
theorem watch_frame_iff : ∀ {xs : List Exchange},
    (watch marker xs).frame = some frame ↔ StandsAt marker xs frame := by
  intro xs
  -- the last exchange decides, unless it neither pauses nor leaves a pause
  induction xs using List.reverseRecOn with
  | nil =>
    constructor
    · exact fun h => nomatch h
    · rintro ⟨before, y, after, heq, _⟩
      cases before <;> cases heq
  | append_singleton xs x ih =>
    rw [watch_concat, standsAt_concat, ← ih]
    show Watch.frameAfter marker (watch marker xs) x = some frame ↔ _
    unfold Watch.frameAfter Exchange.PausesAt Exchange.Leaves
    rw [watch_history]
    cases htold : x.told? "Debugger.paused" with
    | some v =>
      obtain ⟨hstarts, hreleases⟩ := Exchange.told_received htold
      rw [hstarts, hreleases]
      cases v with
      | obj params =>
        simp [Json.fields?, flowTop?, Option.filter_eq_some_iff]
      | _ => simp [Json.fields?]
    | none =>
      by_cases hruns : (x.starts || x.releases) = true
      · rw [if_pos hruns]
        have : ¬ (x.starts = false ∧ x.releases = false) := by
          rintro ⟨h₁, h₂⟩
          rw [h₁, h₂] at hruns
          cases hruns
        simp only [reduceCtorEq, false_and, exists_false, false_or, false_iff]
        rintro ⟨_, h₁, h₂, _⟩
        exact this ⟨h₁, h₂⟩
      · rw [if_neg hruns]
        have hkeeps : x.starts = false ∧ x.releases = false := by simpa using hruns
        cases hresumed : x.told? "Debugger.resumed" with
        | some v => simp
        | none => simp [hkeeps]

/-! ## §3. Hearing. -/

namespace Bridge

variable {b : Bridge} {history : List Record} {params message : Record}

/-- A well-formed pause keeps the script where it is in a flow script, and nowhere else. -/
theorem heedPause_of_wellFormed (hmarker : b.config.marker = .str marker)
    (hhistory : b.tracker.scripts = scriptsOf history) (hwell : PauseParams.WellFormed params) :
    b.heedPause (PauseParams.frames params) (.obj params)
      = match flowTop? marker history params with
        | some frame => b.staying (CallFrame.kept frame) (PauseParams.hits params)
        | none => b.leavePause := by
  unfold flowTop?
  cases hframes : PauseParams.frames params with
  | nil => rfl
  | cons frame rest =>
    have htop := hwell.top frame rest hframes
    unfold heedPause
    dsimp only
    have hscript : (Json.obj (CallFrame.location frame)).get "scriptId"
        = .ok (Json.field (CallFrame.location frame) "scriptId") := rfl
    rw [htop.orObject, hscript]
    dsimp only
    rw [isFlowScript_of_history hmarker hhistory, List.head?_cons]
    cases hflow : CallFrame.inFlow marker history frame with
    | false =>
      rw [Option.filter_some_neg (by simp [hflow])]
    | true =>
      rw [Option.filter_some_pos hflow]
      dsimp only
      rw [htop.ofFrame, hwell.hitIds]

theorem hear_of_read (message : Record) : b.hear message =
    match Report.read (Message.method message) (Message.params message) with
      | .error _ => b
      | .ok (.scriptParsed scriptId url) =>
          { b with
            tracker := b.tracker.record
              { scriptId := scriptId, url := url
                params := (Message.params message).fields?.getD [] } }
      | .ok (.paused frames _) => b.heedPause frames (Message.params message)
      | .ok .resumed => b.leavePause
      | .ok _ => b := by
  unfold hear
  rw [Message.ofFields_eq]
  cases Report.read (Message.method message) (Message.params message) with
  | error e => rfl
  | ok report => cases report <;> rfl

/-- A script is recorded if the report of it can be read. -/
theorem hear_parsed (hmethod : Message.method message = "Debugger.scriptParsed") :
    b.hear message = match Message.params message with
      | .obj params => { b with tracker := b.tracker.record (.ofParams params) }
      | _ => b := by
  rw [hear_of_read, hmethod]
  cases Message.params message <;> rfl

theorem hear_paused (hmethod : Message.method message = "Debugger.paused")
    (hparams : Message.params message = .obj params) :
    b.hear message = b.heedPause (PauseParams.frames params) (.obj params) := by
  rw [hear_of_read, hmethod, hparams]
  rfl

theorem hear_resumed (hmethod : Message.method message = "Debugger.resumed") :
    b.hear message = b.leavePause := by
  rw [hear_of_read, hmethod]
  rfl

/-- Any other notification changes nothing by itself. -/
theorem hear_other (hparsed : Message.method message ≠ "Debugger.scriptParsed")
    (hpaused : Message.method message ≠ "Debugger.paused")
    (hresumed : Message.method message ≠ "Debugger.resumed") : b.hear message = b := by
  rw [hear_of_read]
  unfold Report.read
  rw [if_neg hparsed, if_neg hpaused, if_neg hresumed]
  by_cases hthrown : Message.method message = "Runtime.exceptionThrown"
  · rw [if_pos hthrown]
    -- an exception is read for its details, but nothing of the pause changes whether that
    -- succeeds or not
    cases hdetails : (Message.params message).get "exceptionDetails" with
    | error e => rfl
    | ok details =>
      show (match Thrown.ofDetails details >>= fun e => pure (Report.thrown e) with
        | .error _ => b
        | .ok (.scriptParsed _ _) => _
        | .ok (.paused _ _) => _
        | .ok .resumed => _
        | .ok _ => b) = b
      cases Thrown.ofDetails details <;> rfl
  rw [if_neg hthrown]
  by_cases hconsole : Message.method message = "Runtime.consoleAPICalled"
  · rw [if_pos hconsole]
    cases Message.params message with
    | obj fields =>
      show (match Report.ofConsole fields with
        | .error _ => b
        | .ok (.scriptParsed _ _) => _
        | .ok (.paused _ _) => _
        | .ok .resumed => _
        | .ok _ => b) = b
      unfold Report.ofConsole
      cases (Json.field fields "executionContextId").toInt? with
      | error e => rfl
      | ok contextId =>
        cases (Json.field fields "timestamp").toFloatOrZero <;> rfl
    | _ => rfl
  · rw [if_neg hconsole]

end Bridge

/-- A bridge that knows what a watcher knows. -/
structure Bridge.Knows (marker : String) (w : Watch) (b : Bridge) : Prop where
  marker : b.config.marker = .str marker
  tracker : b.tracker = w.tracker
  agree : b.status = .paused ↔ w.frame.isSome = true

namespace Bridge.Knows

variable {b : Bridge} {w : Watch} {message : Record}

/-- A bridge whose frame is given up knows that the script runs. -/
theorem leavePause (h : b.Knows marker w) : b.leavePause.Knows marker { w with frame := none } where
  marker := h.marker
  tracker := by
    show b.tracker.clear = _
    rw [h.tracker]
    rfl
  agree := by
    unfold Bridge.leavePause
    by_cases hpaused : b.status = .paused <;> simp [hpaused]

/-- **Hearing a notification is watching it.** -/
theorem hear (h : b.Knows marker w) (hx : x.notification? = some message)
    (hwell : ∀ v, x.told? "Debugger.paused" = some v →
      ∃ params, v = .obj params ∧ PauseParams.WellFormed params) :
    (b.hear message).Knows marker (w.next marker x) := by
  have htold := Exchange.told?_of_notification hx
  have hreceived : x.starts = false ∧ x.releases = false := by
    cases x with
    | received k frame => exact ⟨rfl, rfl⟩
    | _ => cases hx
  have hscripts : b.tracker.scripts = scriptsOf w.history := by
    rw [h.tracker]
    rfl
  unfold Watch.next Watch.frameAfter Exchange.report
  rw [hreceived.1, hreceived.2]
  simp only [htold, Bool.or_self, Bool.false_eq_true, if_false]
  -- only three methods teach a watcher anything
  by_cases hparsed : Message.method message = "Debugger.scriptParsed"
  · rw [Bridge.hear_parsed hparsed, hparsed]
    cases hparams : Message.params message with
    | obj params =>
      refine ⟨h.marker, ?_, h.agree⟩
      show b.tracker.record (.ofParams params) = _
      rw [h.tracker]
      show _ = ({ scripts := scriptsOf (w.history ++ [params]), paused := _ } : PauseTracker)
      rw [scriptsOf_concat]
      rfl
    | _ => simpa [Json.fields?] using h
  by_cases hpaused : Message.method message = "Debugger.paused"
  · obtain ⟨params, hparams, hpause⟩ :=
      hwell (Message.params message) (by rw [htold, if_pos hpaused])
    rw [Bridge.hear_paused hpaused hparams,
      Bridge.heedPause_of_wellFormed h.marker hscripts hpause, hpaused, hparams]
    simp only [Json.fields?]
    cases htop : flowTop? marker w.history params with
    | none => simpa [htop] using h.leavePause
    | some frame =>
      obtain ⟨registry, hstaying, _⟩ :=
        b.staying_eq (CallFrame.kept frame) (PauseParams.hits params)
      dsimp only
      rw [hstaying]
      refine ⟨h.marker, ?_, by simp [htop]⟩
      show b.tracker.capture _ = _
      rw [h.tracker]
      simp [PauseTracker.capture, Watch.tracker, htop]
  by_cases hresumed : Message.method message = "Debugger.resumed"
  · rw [Bridge.hear_resumed hresumed, hresumed]
    simpa using h.leavePause
  · rw [Bridge.hear_other hparsed hpaused hresumed]
    simpa [hparsed, hpaused, hresumed] using h

end Bridge.Knows

/-! ## §4. The invariant. -/

namespace Watch

variable {w : Watch}

/-- Most exchanges teach nothing. -/
theorem next_quiet (hstarts : x.starts = false) (hreleases : x.releases = false)
    (hnone : x.notification? = none) : w.next marker x = w := by
  have htold := Exchange.told?_quiet hnone
  unfold next frameAfter Exchange.report
  rw [hstarts, hreleases, htold, htold, htold]
  simp [Option.bind]

theorem next_starts (hstarts : x.starts = true) : w.next marker x = {} := by
  unfold next frameAfter Exchange.report
  rw [hstarts]
  rfl

theorem next_releases (hstarts : x.starts = false) (hreleases : x.releases = true)
    (hnone : x.notification? = none) : w.next marker x = { w with frame := none } := by
  unfold next frameAfter Exchange.report
  rw [hstarts, hreleases, Exchange.told?_quiet hnone]
  simp [Option.bind]

end Watch

namespace Site

variable {ε : Type} {s s' : Site (Recorded ε)} {w : Watch}

/-- A site whose bridge knows what a watcher knows.  Only with a connection can the script
stand anywhere, and a link is closed for good exactly when the bridge is stopped. -/
structure Knows (marker : String) (w : Watch) (s : Site (Recorded ε)) : Prop where
  ready : s.Ready
  bridge : s.bridge.Knows marker w
  joined : w.frame.isSome = true → s.bridge.link.socket.isSome = true
  opened : s.bridge.link.socket.isSome = true → s.bridge.link.shutdown = false
  stopped : s.bridge.link.shutdown = true ↔ s.bridge.stopped = true

/-- The bridge knows what a watcher of the whole conversation knows. -/
abbrev Watched (marker : String) (s : Site (Recorded ε)) : Prop :=
  s.Knows marker (watch marker s.conversation)

namespace Knows

/-- Without a connection the script stands nowhere. -/
theorem frame_none (h : s.Knows marker w) (hsocket : s.bridge.link.socket = none) :
    w.frame = none := by
  by_contra hne
  have hsome := h.joined (Option.isSome_iff_ne_none.mpr hne)
  rw [hsocket] at hsome
  cases hsome

/-- A link that is closed for good has no connection. -/
theorem socket_none (h : s.Knows marker w)
    (hno : s.bridge.link.socket = none ∨ s.bridge.link.shutdown = true) :
    s.bridge.link.socket = none := by
  rcases hno with hnone | hshut
  · exact hnone
  · by_contra hne
    have hopen := h.opened (Option.isSome_iff_ne_none.mpr hne)
    rw [hshut] at hopen
    cases hopen

theorem aside (h : s.Knows marker w) (haside : Aside s s') : s'.Knows marker w where
  ready := h.ready.aside haside
  bridge :=
    ⟨by rw [haside.config]; exact h.bridge.marker, by rw [haside.tracker]; exact h.bridge.tracker,
      by rw [haside.status]; exact h.bridge.agree⟩
  joined := by rw [haside.link]; exact h.joined
  opened := by rw [haside.link]; exact h.opened
  stopped := by rw [haside.link, haside.stopped]; exact h.stopped

/-- What happens to the link alone teaches nothing, as long as the connection stays. -/
theorem rewired (h : s.Knows marker w) {v : Wire (Recorded ε)} (hready : (s.rewired v).Ready)
    (hsocket : v.link.socket = s.bridge.link.socket)
    (hshutdown : v.link.shutdown = s.bridge.link.shutdown) : (s.rewired v).Knows marker w where
  ready := hready
  bridge := ⟨h.bridge.marker, h.bridge.tracker, h.bridge.agree⟩
  joined := by
    show _ → v.link.socket.isSome = true
    rw [hsocket]
    exact h.joined
  opened := by
    show v.link.socket.isSome = true → v.link.shutdown = false
    rw [hsocket, hshutdown]
    exact h.opened
  stopped := by
    show v.link.shutdown = true ↔ _
    rw [hshutdown]
    exact h.stopped

/-- A change of the bridge that leaves link and configuration alone. -/
theorem update (h : s.Knows marker w) {b : Bridge} {w' : Watch} (hlink : b.link = s.bridge.link)
    (hconfig : b.config = s.bridge.config) (hstopped : b.stopped = s.bridge.stopped)
    (hknows : b.Knows marker w') (hframe : w'.frame.isSome = true → w.frame.isSome = true) :
    ({ s with bridge := b } : Site (Recorded ε)).Knows marker w' where
  ready := ⟨by rw [hconfig]; exact h.ready.tame, by rw [hlink]; exact h.ready.bare⟩
  bridge := hknows
  joined hsome := by
    show b.link.socket.isSome = true
    rw [hlink]
    exact h.joined (hframe hsome)
  opened := by
    show b.link.socket.isSome = true → b.link.shutdown = false
    rw [hlink]
    exact h.opened
  stopped := by
    show b.link.shutdown = true ↔ b.stopped = true
    rw [hlink, hstopped]
    exact h.stopped

variable [Endpoint ε]

theorem putting (h : s.Knows marker w) {k : Nat} {awaited : Option Pending} {e : Envelope}
    (hready : (s.putting k awaited e).Ready) : (s.putting k awaited e).Knows marker w := by
  refine h.rewired hready ?_ ?_
  all_goals cases awaited <;> rfl

/-- The loss of the connection ends every pause. -/
theorem gone (h : s.Knows marker w) (k : Nat) :
    (s.gone k).Knows marker { w with frame := none } where
  ready := h.ready.gone k
  bridge := by
    refine ⟨h.bridge.marker, ?_, by simp [Site.gone, downed]⟩
    show s.bridge.tracker.clear = _
    rw [h.bridge.tracker]
    rfl
  joined hsome := nomatch hsome
  opened hsome := by
    have hnone : (s.gone k).bridge.link.socket = none := s.bridge.link.gone_socket
    rw [hnone] at hsome
    cases hsome
  stopped := by
    have hsame : (s.gone k).bridge.link.shutdown = s.bridge.link.shutdown :=
      s.bridge.link.gone_shutdown
    rw [hsame]
    exact h.stopped

end Knows

/-- One more exchange, and what it teaches. -/
theorem Watched.of_next (hconversation : s'.conversation = s.conversation ++ [x])
    (h : s'.Knows marker ((watch marker s.conversation).next marker x)) : Watched marker s' := by
  unfold Watched
  rw [hconversation, watch_concat]
  exact h

/-- One more exchange, which teaches nothing. -/
theorem Watched.of_quiet (hconversation : s'.conversation = s.conversation ++ [x])
    (hstarts : x.starts = false) (hreleases : x.releases = false) (hnone : x.notification? = none)
    (h : s'.Knows marker (watch marker s.conversation)) : Watched marker s' := by
  refine .of_next hconversation ?_
  rw [Watch.next_quiet hstarts hreleases hnone]
  exact h

/-- No exchange at all. -/
theorem Watched.of_same (hconversation : s'.conversation = s.conversation)
    (h : s'.Knows marker (watch marker s.conversation)) : Watched marker s' := by
  unfold Watched
  rw [hconversation]
  exact h

variable [Endpoint ε]

theorem Watched.gone (h : Watched marker s) (k : Nat) : Watched marker (s.gone k) := by
  refine .of_next (conversation_gone s k) ?_
  rw [Watch.next_releases rfl rfl rfl]
  exact Knows.gone h k

/-- A notification that is heard is watched. -/
theorem Watched.heard (h : Watched marker s) {k : Nat} {frame : Frame} {m : Record}
    (hsocket : s.bridge.link.socket = some k) (hframe : (s.network.receive k).1 = some frame)
    (hfields : frame.fields? = some m) (hmethod : Fields.contains m "method" = true)
    (hwell : PausesWell (s.reading k).conversation) :
    Watched marker
      ({ s.reading k with bridge := (s.reading k).bridge.hear m } : Site (Recorded ε)) := by
  have hx := Exchange.notification?_some (k := k) hfields hmethod
  have hconversation := conversation_reading_some hframe
  have hpause : ∀ v, (Exchange.received k frame).told? "Debugger.paused" = some v →
      ∃ params, v = .obj params ∧ PauseParams.WellFormed params := by
    refine hwell (.received k frame) ?_
    rw [hconversation]
    exact List.mem_append_right _ (List.mem_singleton_self _)
  -- to read the frame changes nothing that is watched; to hear it does
  have hread : (s.reading k).Knows marker (watch marker s.conversation) :=
    h.rewired (h.ready.reading k) rfl rfl
  have hhear := hread.bridge.hear hx hpause
  refine .of_next (s := s) (x := .received k frame) hconversation
    ⟨hread.ready.heard m, hhear, fun _ => ?_, ?_, ?_⟩
  · show ((s.reading k).bridge.hear m).link.socket.isSome = true
    rw [Bridge.hear_link]
    exact Option.isSome_iff_exists.mpr ⟨k, hsocket⟩
  · show ((s.reading k).bridge.hear m).link.socket.isSome = true →
      ((s.reading k).bridge.hear m).link.shutdown = false
    rw [Bridge.hear_link]
    exact hread.opened
  · show ((s.reading k).bridge.hear m).link.shutdown = true ↔
      ((s.reading k).bridge.hear m).stopped = true
    rw [Bridge.hear_link, Bridge.hear_stopped]
    exact hread.stopped

/-- **A step of reading keeps the bridge in the know.** -/
theorem Step.watched (step : Step s s') (h : Watched marker s)
    (hwell : PausesWell s'.conversation) : Watched marker s' := by
  have hready := step.ready h.ready
  cases step with
  | aside haside =>
    exact .of_same (congrArg Network.conversation haside.network) (h.aside haside)
  | @nothing k hsocket hnone =>
    exact .of_same (conversation_reading_none hnone) (h.rewired hready rfl rfl)
  | @ignored k frame d hsocket hframe hno =>
    have hquiet := Exchange.notification?_none (k := k) fun m hm => (hno m hm).1
    exact .of_quiet (s := s) (conversation_reading_some hframe) rfl rfl hquiet
      (h.rewired hready rfl rfl)
  | @answered k frame m hsocket hframe hfields hresponse =>
    have hquiet : (Exchange.received k frame).notification? = none :=
      Exchange.notification?_none fun m' hm' => by
        cases hfields.symm.trans hm'
        exact hresponse.1
    exact .of_quiet (s := s) (conversation_reading_some hframe) rfl rfl hquiet
      (h.rewired hready (Link.answer_socket _ _) (Link.answer_shutdown _ _))
  | heard hsocket hframe hfields hmethod => exact h.heard hsocket hframe hfields hmethod hwell
  | numbered => exact .of_same rfl (h.rewired hready rfl rfl)
  | @released k e hsocket hopen hpaused he =>
    -- the bridge lets the script run on only when it has no frame, so the watcher has none
    have hnone : (watch marker s.conversation).frame = none := by
      have htracker := hpaused
      rw [h.bridge.tracker] at htracker
      simpa [Watch.tracker] using htracker
    refine .of_next (conversation_putting s k none e) ?_
    rw [Watch.next_releases]
    · have hsame : ({ watch marker s.conversation with frame := none } : Watch)
          = watch marker s.conversation := by
        rw [← hnone]
      rw [hsame]
      exact h.putting hready
    · simp [Exchange.starts, Envelope.asks, he]
    · simp [Exchange.releases, Envelope.asks, he]
    · rfl
  | @fetched k e p hsocket hopen hid hp he =>
    refine .of_quiet (conversation_putting s k (some p) e) ?_ ?_ rfl (h.putting hready)
    · simp [Exchange.starts, Envelope.asks, he]
    · simp [Exchange.releases, Envelope.asks, he]
  | lost hsocket => exact h.gone _

end Site
end FlowTrace
