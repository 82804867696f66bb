/-
  FlowTrace.Proofs.Bridge.Agreement
  ────────────────────────────────
  **BRIDGE AND HOST AGREE ON WHAT IS ARMED.**

  Adding a breakpoint brings one more to both sides, or to neither; removing one takes it
  from both, or from neither; starting arms all of them on a new connection.  So whenever
  no operation is under way and there is a connection, the host holds armed what the
  registry has an id for, each once, under that id and at that place.

  The host may refuse what it likes, answer in any order and drop the connection at any
  moment.  It has to answer a command to arm or to disarm before the bridge gives up
  waiting, and to grant an id that it has not granted to another.
-/
import FlowTrace.Proofs.Bridge.Attentive
import FlowTrace.Proofs.Bridge.Rearming

namespace FlowTrace
namespace Site

variable {ε : Type} {s s' : Site (Recorded ε)}

variable [Endpoint ε]

/-! ## §1. Adding. -/

/-- What comes of adding a breakpoint. -/
inductive Added (url line : Json) (s : Site (Recorded ε)) :
    Except Fault (Option Breakpoint) × Site (Recorded ε) → Prop
  | failed (f : Fault) : Added url line s (.error f, s)
  /-- The breakpoint is armed already, or cannot be armed. -/
  | wanted {n : Int} {r : BreakpointRegistry} {i : Nat}
      (hadd : s.bridge.registry.add { url := url, line := .int n } = .ok (r, i)) :
      Added url line s (.ok r.items[i]?, s.registering r)
  | refused {n : Int} {r : BreakpointRegistry} {i : Nat} {bp : Breakpoint} {f : Fault}
      {s' : Site (Recorded ε)}
      (hadd : s.bridge.registry.add { url := url, line := .int n } = .ok (r, i))
      (hcommanded : Commanded armMethod (armParams bp) (s.registering r) (.error f, s')) :
      Added url line s (.error f, s')
  | unread {n : Int} {r : BreakpointRegistry} {i : Nat} {bp : Breakpoint} {reply : Json} {f : Fault}
      {s' : Site (Recorded ε)}
      (hadd : s.bridge.registry.add { url := url, line := .int n } = .ok (r, i))
      (hcommanded : Commanded armMethod (armParams bp) (s.registering r) (.ok reply, s'))
      (hget : reply.get "breakpointId" = .error f) : Added url line s (.error f, s')
  | armed {n : Int} {r : BreakpointRegistry} {i : Nat} {bp : Breakpoint} {reply id : Json}
      {s' : Site (Recorded ε)}
      (hadd : s.bridge.registry.add { url := url, line := .int n } = .ok (r, i))
      (hbp : r.items[i]? = some bp) (hunarmed : bp.id = .null) (hlive : s.bridge.isLive = true)
      (hcommanded : Commanded armMethod (armParams bp) (s.registering r) (.ok reply, s'))
      (hget : reply.get "breakpointId" = .ok id) :
      Added url line s (.ok (s'.bridge.registry.modify i (fun bp => { bp with id := id })).items[i]?,
        s'.registering (s'.bridge.registry.modify i (fun bp => { bp with id := id })))

/-- The breakpoint at an index, as it is then. -/
def readingBack (i : Nat) : Act (Site ε) (Option Breakpoint) := do
  return (← look).registry.items[i]?

/-- A breakpoint gets the id in a reply. -/
def granting (i : Nat) (reply : Json) : Act (Site ε) (Option Breakpoint) := do
  let id ← Act.ofExcept (reply.get "breakpointId")
  assignId i id
  readingBack i

/-- What follows once a breakpoint is wanted. -/
def armingIfLive (i : Nat) (bp : Breakpoint) : Act (Site ε) (Option Breakpoint) := do
  let b ← look
  if bp.id.isNull && b.isLive then command armMethod (armParams bp) >>= granting i
  else readingBack i

theorem addBreakpoint_eq (url line : Json) :
    (addBreakpoint url line : Act (Site ε) (Option Breakpoint)) = (do
      let n ← Act.ofExcept line.toInt
      let b ← look
      let (registry, i) ← Act.ofExcept (b.registry.add { url := url, line := .int n })
      update (fun b => { b with registry := registry })
      match registry.items[i]? with
      | none => return none
      | some bp => armingIfLive i bp) := rfl

omit [Endpoint ε] in
theorem grows_granting (i : Nat) (reply : Json) :
    Grows (granting i reply : Act (Site (Recorded ε)) (Option Breakpoint)) :=
  .bind (.of_snd_eq fun _ => rfl) fun _ => .bind (.update (fun _ => rfl) (fun _ => rfl)) fun _ =>
    .of_snd_eq fun _ => rfl

theorem added_armingIfLive {url line : Json} {n : Int} {r : BreakpointRegistry} {i : Nat}
    {bp : Breakpoint} (hready : s.Ready)
    (hadd : s.bridge.registry.add { url := url, line := .int n } = .ok (r, i))
    (hbp : r.items[i]? = some bp)
    (hclean : Uninterrupted ((armingIfLive i bp).exec (s.registering r)).2.conversation) :
    Added url line s ((armingIfLive i bp).exec (s.registering r)) := by
  unfold armingIfLive at hclean ⊢
  rw [Act.exec_bind_ok (exec_look _)] at hclean ⊢
  by_cases harm : (bp.id.isNull && (s.registering r).bridge.isLive) = true
  · rw [if_pos harm] at hclean ⊢
    obtain ⟨hunarmed, hlive⟩ := Bool.and_eq_true_iff.mp harm
    have hregistered : (s.registering r).Ready := ⟨hready.tame, hready.bare⟩
    -- what is said only grows, so the command was not interrupted either
    have hbefore := hclean.of_prefix (Grows.conversation_bind
      (grows_command armMethod (armParams bp)) (grows_granting i) hregistered.sane)
    have hcommanded : Commanded armMethod (armParams bp) (s.registering r) _ :=
      commanded_command armMethod (armParams bp) hregistered hbefore
    rw [Act.exec_bind]
    generalize (command armMethod (armParams bp)).exec (s.registering r) = c at hcommanded
    obtain ⟨c, s'⟩ := c
    cases c with
    | error f => exact .refused hadd hcommanded
    | ok reply =>
      dsimp only
      unfold granting
      rw [exec_ofExcept_bind]
      cases hget : reply.get "breakpointId" with
      | error f => exact .unread hadd hcommanded hget
      | ok id => exact .armed hadd hbp (Json.eq_null_of_isNull hunarmed) hlive hcommanded hget
  · rw [if_neg harm]
    exact .wanted hadd

theorem added_addBreakpoint (url line : Json) (hready : s.Ready)
    (hclean : Uninterrupted ((addBreakpoint url line).exec s).2.conversation) :
    Added url line s ((addBreakpoint url line).exec s) := by
  rw [addBreakpoint_eq, exec_ofExcept_bind] at hclean ⊢
  cases hline : line.toInt with
  | error f => exact .failed f
  | ok n =>
    simp only [hline] at hclean ⊢
    rw [Act.exec_bind_ok (exec_look s), exec_ofExcept_bind] at hclean ⊢
    cases hadd : s.bridge.registry.add { url := url, line := .int n } with
    | error f => exact .failed f
    | ok added =>
      obtain ⟨r, i⟩ := added
      simp only [hadd] at hclean ⊢
      rw [Act.exec_bind_ok (exec_update _ s)] at hclean ⊢
      cases hbp : r.items[i]? with
      | none =>
        have hwanted : Added url line s (.ok r.items[i]?, s.registering r) := .wanted hadd
        rw [hbp] at hwanted
        exact hwanted
      | some bp =>
        simp only [hbp] at hclean
        exact added_armingIfLive hready hadd hbp hclean

omit [Endpoint ε] in
/-- A breakpoint that is only wanted is held by neither side. -/
theorem Settled.wanted (h : s.Settled) {url line : Json} {r : BreakpointRegistry} {i : Nat}
    (hadd : s.bridge.registry.add { url := url, line := line } = .ok (r, i)) :
    (s.registering r).Settled := by
  rcases BreakpointRegistry.add_cases hadd with ⟨rfl, _⟩ | ⟨rfl, _⟩
  · exact h
  · refine Kept.registering h (fun _ => .of_eq ?_) fun hup hlive a ha => ?_
    · exact (BreakpointRegistry.entries_append_unarmed rfl).symm
    · have hsplit :
          a ∈ s.bridge.registry.outline ++ [Breakpoint.outline { url := url, line := line }] := by
        rw [← List.map_singleton (f := Breakpoint.outline)]
        exact List.map_append ▸ ha
      rcases List.mem_append.mp hsplit with ha | ha
      · exact h.dormant hup hlive a ha
      · obtain rfl := List.mem_singleton.mp ha
        rfl

/-- What a command to arm brings, once the breakpoint is wanted. -/
theorem Settled.brought (h : s.Settled) {url : Json} {n : Int} {r : BreakpointRegistry} {i : Nat}
    {bp : Breakpoint} {c : Except Fault Json × Site (Recorded ε)}
    (hadd : s.bridge.registry.add { url := url, line := .int n } = .ok (r, i))
    (hcommanded : Commanded armMethod (armParams bp) (s.registering r) c)
    (hdone : Concluded c.2.conversation) :
    Kept (r.entries ++ (Owed.arm (armEnvelope s.bridge.link.nextId bp)).yield (some c.1)) []
      r.outline c.2 ∧ (c.2.IsUp → ∀ reply, c.1 = .ok reply → grantedId reply ≠ .null) := by
  have hwanted : Kept (r.entries ++ (Owed.arm (armEnvelope s.bridge.link.nextId bp)).yield none) []
      r.outline (s.registering r) := by
    show Kept (r.entries ++ []) [] r.outline (s.registering r)
    rw [List.append_nil]
    exact h.wanted hadd
  obtain ⟨hkept, hanswered⟩ := hwanted.commanded hcommanded rfl rfl hdone.fair hdone.prompt
  refine ⟨hkept, fun hup reply hok => ?_⟩
  have hgranted := hanswered hup
  rw [hok] at hgranted
  exact hgranted rfl

/-- **Adding a breakpoint** ends at rest, however it ends. -/
theorem Added.settled {url line : Json} {c : Except Fault (Option Breakpoint) × Site (Recorded ε)}
    (hadded : Added url line s c) (h : s.Settled) (hdone : Concluded c.2.conversation) :
    c.2.Settled := by
  cases hadded with
  | failed f => exact h
  | wanted hadd => exact h.wanted hadd
  | refused hadd hcommanded =>
    obtain ⟨hkept, _⟩ := h.brought hadd hcommanded hdone
    refine hkept.settled fun _ => .of_eq ?_
    rw [BreakpointRegistry.entries_congr hkept.registered]
    exact List.append_nil _
  | unread hadd hcommanded hget =>
    obtain ⟨hkept, hgranted⟩ := h.brought hadd hcommanded hdone
    refine hkept.settled fun hup => ?_
    -- a fair host grants with an id, so its reply can be read
    cases (get_of_granted (hgranted hup _ rfl)).symm.trans hget
  | @armed n r i bp reply id s' hadd hbp hunarmed hlive hcommanded hget =>
    obtain ⟨hkept, hgranted⟩ := h.brought hadd hcommanded hdone
    obtain ⟨bp', hitem, hsame⟩ := BreakpointRegistry.item_of_outline
      ((congrArg (·[i]?) hkept.registered).trans (BreakpointRegistry.outline_of_item hbp))
    have hnull : bp'.id = .null := (congrArg Armed.id hsame).trans hunarmed
    have hplace : ∀ id, ({ id := id, url := bp'.url, line := bp'.line } : Armed)
        = { bp.outline with id := id } := fun id => by rw [← hsame]; rfl
    refine hkept.registering (fun hup => ?_) fun hup hdormant => ?_
    · -- the host holds the breakpoint under the id that it got
      have hid := hgranted hup reply rfl
      obtain rfl : id = grantedId reply := Except.ok.inj (hget.symm.trans (get_of_granted hid))
      have hassign := BreakpointRegistry.entries_assign hitem hnull hid
      rw [hplace, BreakpointRegistry.entries_congr hkept.registered] at hassign
      exact hassign.symm
    · cases (hcommanded.onward.live hup hlive).symm.trans hdormant

/-! ## §2. Removing. -/

/-- What comes of removing a breakpoint. -/
inductive Removed (url line : Json) (s : Site (Recorded ε)) :
    Except Fault Bool × Site (Recorded ε) → Prop
  | failed (f : Fault) : Removed url line s (.error f, s)
  | unknown {n : Int} (hline : line.toInt = .ok n)
      (hindex : s.bridge.registry.index? url (.int n) = .ok none) : Removed url line s (.ok false, s)
  /-- The breakpoint is not armed, or cannot be disarmed. -/
  | forgotten {n : Int} {i : Nat} {bp : Breakpoint} (hline : line.toInt = .ok n)
      (hindex : s.bridge.registry.index? url (.int n) = .ok (some i))
      (hbp : s.bridge.registry.items[i]? = some bp)
      (hidle : bp.id = .null ∨ s.bridge.isLive = false) :
      Removed url line s (.ok true, s.registering (s.bridge.registry.without i))
  | refused {n : Int} {i : Nat} {bp : Breakpoint} {f : Fault} {s' : Site (Recorded ε)}
      (hindex : s.bridge.registry.index? url (.int n) = .ok (some i))
      (hbp : s.bridge.registry.items[i]? = some bp) (harmed : bp.id ≠ .null)
      (hcommanded : Commanded "Debugger.removeBreakpoint" (.obj [("breakpointId", bp.id)]) s
        (.error f, s')) :
      Removed url line s (.error f, s')
  | disarmed {n : Int} {i : Nat} {bp : Breakpoint} {reply : Json} {s' : Site (Recorded ε)}
      (hline : line.toInt = .ok n)
      (hindex : s.bridge.registry.index? url (.int n) = .ok (some i))
      (hbp : s.bridge.registry.items[i]? = some bp) (harmed : bp.id ≠ .null)
      (hcommanded : Commanded "Debugger.removeBreakpoint" (.obj [("breakpointId", bp.id)]) s
        (.ok reply, s')) :
      Removed url line s (.ok true, s'.registering (s'.bridge.registry.without i))

/-- A breakpoint is wanted no longer. -/
def forgetting (url : Json) (n : Int) : Act (Site ε) Bool := do
  let b ← look
  let (registry, _) ← Act.ofExcept (b.registry.remove url (.int n))
  update (fun b => { b with registry := registry })
  return true

/-- What follows once the breakpoint is found. -/
def disarmingIf (live : Bool) (url : Json) (n : Int) (bp : Breakpoint) : Act (Site ε) Bool :=
  if !bp.id.isNull && live then
    command "Debugger.removeBreakpoint" (.obj [("breakpointId", bp.id)]) >>= fun _ =>
      forgetting url n
  else forgetting url n

theorem removeBreakpoint_eq (url line : Json) :
    (removeBreakpoint url line : Act (Site ε) Bool) = (do
      let n ← Act.ofExcept line.toInt
      let b ← look
      match ← Act.ofExcept (b.registry.find url (.int n)) with
      | none => return false
      | some bp => disarmingIf b.isLive url n bp) := rfl

omit [Endpoint ε] in
theorem exec_forgetting {url : Json} {n : Int} {i : Nat}
    (houtline : s'.bridge.registry.outline = s.bridge.registry.outline)
    (hindex : s.bridge.registry.index? url (.int n) = .ok (some i)) :
    (forgetting url n).exec s' = (.ok true, s'.registering (s'.bridge.registry.without i)) := by
  unfold forgetting
  rw [Act.exec_bind_ok (exec_look s'), exec_ofExcept_bind,
    BreakpointRegistry.remove_congr houtline hindex]
  rfl

omit [Endpoint ε] in
theorem grows_forgetting (url : Json) (n : Int) :
    Grows (forgetting url n : Act (Site (Recorded ε)) Bool) :=
  .bind (.of_snd_eq fun _ => rfl) fun _ => .bind (.of_snd_eq fun _ => rfl) fun _ =>
    .bind (.update (fun _ => rfl) (fun _ => rfl)) fun _ => .of_snd_eq fun _ => rfl

theorem removed_disarmingIf {url line : Json} {n : Int} {i : Nat} {bp : Breakpoint}
    (hready : s.Ready) (hline : line.toInt = .ok n)
    (hindex : s.bridge.registry.index? url (.int n) = .ok (some i))
    (hbp : s.bridge.registry.items[i]? = some bp)
    (hclean : Uninterrupted ((disarmingIf s.bridge.isLive url n bp).exec s).2.conversation) :
    Removed url line s ((disarmingIf s.bridge.isLive url n bp).exec s) := by
  unfold disarmingIf at hclean ⊢
  by_cases hdisarm : (!bp.id.isNull && s.bridge.isLive) = true
  · rw [if_pos hdisarm] at hclean ⊢
    have harmed : bp.id ≠ .null := by
      intro hnull
      rw [hnull] at hdisarm
      cases hdisarm
    -- what is said only grows, so the command was not interrupted either
    have hbefore := hclean.of_prefix (Grows.conversation_bind
      (grows_command "Debugger.removeBreakpoint" (.obj [("breakpointId", bp.id)]))
      (fun _ => grows_forgetting url n) hready.sane)
    have hcommanded : Commanded "Debugger.removeBreakpoint" (.obj [("breakpointId", bp.id)]) s _ :=
      commanded_command "Debugger.removeBreakpoint" (.obj [("breakpointId", bp.id)]) hready hbefore
    rw [Act.exec_bind]
    generalize (command "Debugger.removeBreakpoint" (.obj [("breakpointId", bp.id)])).exec s = c
      at hcommanded
    obtain ⟨c, s'⟩ := c
    cases c with
    | error f => exact .refused hindex hbp harmed hcommanded
    | ok reply =>
      dsimp only
      rw [exec_forgetting hcommanded.onward.outline hindex]
      exact .disarmed hline hindex hbp harmed hcommanded
  · rw [if_neg hdisarm, exec_forgetting rfl hindex]
    refine .forgotten hline hindex hbp ?_
    cases hnull : bp.id.isNull with
    | true => exact .inl (Json.eq_null_of_isNull hnull)
    | false => exact .inr (by simpa [hnull] using hdisarm)

theorem removed_removeBreakpoint (url line : Json) (hready : s.Ready)
    (hclean : Uninterrupted ((removeBreakpoint url line).exec s).2.conversation) :
    Removed url line s ((removeBreakpoint url line).exec s) := by
  rw [removeBreakpoint_eq, exec_ofExcept_bind] at hclean ⊢
  cases hline : line.toInt with
  | error f => exact .failed f
  | ok n =>
    simp only [hline] at hclean ⊢
    rw [Act.exec_bind_ok (exec_look s), exec_ofExcept_bind] at hclean ⊢
    cases hfind : s.bridge.registry.find url (.int n) with
    | error f => exact .failed f
    | ok found =>
      simp only [hfind] at hclean ⊢
      cases found with
      | none => exact .unknown hline (BreakpointRegistry.find_none hfind)
      | some bp =>
        obtain ⟨i, hindex, hbp⟩ := BreakpointRegistry.find_some hfind
        exact removed_disarmingIf hready hline hindex hbp hclean

/-- The command to disarm a breakpoint, which is held until the host has done so. -/
def disarming (id : Nat) (bp : Breakpoint) : Owed :=
  .disarm { id := id, method := "Debugger.removeBreakpoint"
            params := .obj [("breakpointId", bp.id)] } bp.outline

/-- What a command to disarm takes away. -/
theorem Settled.taken (h : s.Settled) {i : Nat} {bp : Breakpoint}
    {c : Except Fault Json × Site (Recorded ε)} (hbp : s.bridge.registry.items[i]? = some bp)
    (harmed : bp.id ≠ .null)
    (hcommanded : Commanded "Debugger.removeBreakpoint" (.obj [("breakpointId", bp.id)]) s c)
    (hdone : Concluded c.2.conversation) :
    Kept ((s.bridge.registry.without i).entries
      ++ (disarming s.bridge.link.nextId bp).yield (some c.1)) [] s.bridge.registry.outline c.2 := by
  have hsplit := BreakpointRegistry.entries_without_armed hbp harmed
  have hbefore : Kept ((s.bridge.registry.without i).entries
      ++ (disarming s.bridge.link.nextId bp).yield none) [] s.bridge.registry.outline s :=
    h.onward (.refl s) h.ready fun hup => (h.owes hup).idle hsplit _
  exact (hbefore.commanded hcommanded ⟨rfl, rfl, rfl⟩ rfl hdone.fair hdone.prompt).1

/-- **Removing a breakpoint** ends at rest, however it ends. -/
theorem Removed.settled {url line : Json} {c : Except Fault Bool × Site (Recorded ε)}
    (hremoved : Removed url line s c) (h : s.Settled) (hdone : Concluded c.2.conversation) :
    c.2.Settled := by
  cases hremoved with
  | failed f => exact h
  | unknown hline hindex => exact h
  | @forgotten n i bp hline hindex hbp hidle =>
    -- on a connection a bridge that is not live has nothing armed
    have hnull (hup : s.IsUp) : bp.id = .null := by
      rcases hidle with hnull | hdormant
      · exact hnull
      · refine h.dormant hup hdormant bp.outline ?_
        exact List.mem_map_of_mem (List.mem_of_getElem? hbp)
    refine Kept.registering h
      (fun hup => BreakpointRegistry.entries_without_unarmed hbp (hnull hup))
      fun hup hdormant a ha => ?_
    rw [BreakpointRegistry.outline_without] at ha
    exact h.dormant hup hdormant a (List.mem_of_mem_eraseIdx ha)
  | refused hindex hbp harmed hcommanded =>
    have hkept := h.taken hbp harmed hcommanded hdone
    refine hkept.settled fun _ => ?_
    rw [BreakpointRegistry.entries_congr hkept.registered]
    exact (BreakpointRegistry.entries_without_armed hbp harmed).symm
  | @disarmed n i bp reply s' hline hindex hbp harmed hcommanded =>
    have hkept := h.taken hbp harmed hcommanded hdone
    have hwithout : (s'.bridge.registry.without i).outline
        = (s.bridge.registry.without i).outline := by
      rw [BreakpointRegistry.outline_without, BreakpointRegistry.outline_without, hkept.registered]
    refine hkept.registering (fun _ => ?_) fun hup hdormant a ha => ?_
    · rw [BreakpointRegistry.entries_congr hwithout]
      exact .of_eq (List.append_nil _)
    · rw [hwithout, BreakpointRegistry.outline_without] at ha
      exact hkept.dormant hup hdormant a (List.mem_of_mem_eraseIdx ha)

/-- What a removal tells.  If it fails the registry is as it was.  If it answers that there was
such a breakpoint, that one is gone from the registry, and the host holds nothing under its id. -/
def Tells (url line : Json) (s s' : Site (Recorded ε)) : Except Fault Bool → Prop
  | .error _ => s'.bridge.registry.outline = s.bridge.registry.outline
  | .ok false => s'.bridge.registry.outline = s.bridge.registry.outline ∧
      ∃ n, line.toInt = .ok n ∧ s.bridge.registry.index? url (.int n) = .ok none
  | .ok true => ∃ n i x, line.toInt = .ok n ∧
      s.bridge.registry.index? url (.int n) = .ok (some i) ∧
      s.bridge.registry.outline[i]? = some x ∧
      s'.bridge.registry.outline = s.bridge.registry.outline.eraseIdx i ∧
      (s'.bridge.link.isConnected = true → ∀ a ∈ (holding s'.conversation).armed, a.id ≠ x.id)

omit [Endpoint ε] in
theorem Ready.isUp (h : s.Ready) (hconnected : s.bridge.link.isConnected = true) : s.IsUp :=
  h.bare.connected_iff.mp (by simpa [Link.isConnected] using hconnected)

/-- The host holds, on the connection, what the registry has armed, each breakpoint once. -/
structure Agrees (s : Site (Recorded ε)) : Prop where
  same : (holding s.conversation).armed.Perm s.bridge.registry.entries
  once : ((holding s.conversation).armed.map (·.id)).Nodup

omit [Endpoint ε] in
theorem Settled.agrees (h : s.Settled) (hup : s.IsUp) : s.Agrees := by
  have howes := h.owes hup
  refine ⟨?_, howes.distinct⟩
  have hall := howes.armed
  rwa [List.flatMap_nil, List.append_nil] at hall

omit [Endpoint ε] in
/-- A breakpoint that is taken out at rest is held no longer. -/
theorem Settled.not_held (h : s.Settled) (h' : s'.Settled) {i : Nat} {bp : Breakpoint}
    (hbp : s.bridge.registry.items[i]? = some bp) (hup : s'.IsUp → s.IsUp)
    (houtline : s'.bridge.registry.outline = s.bridge.registry.outline.eraseIdx i)
    (hup' : s'.IsUp) :
    ∀ a ∈ (holding s'.conversation).armed, a.id ≠ bp.id := by
  intro a ha hid
  have hentries : s'.bridge.registry.entries = (s.bridge.registry.without i).entries :=
    BreakpointRegistry.entries_congr
      (houtline.trans (BreakpointRegistry.outline_without _ _).symm)
  have hmem := (h'.agrees hup').same.mem_iff.mp ha
  have hnotNull : a.id ≠ .null := by simpa using (List.mem_filter.mp hmem).2
  rw [hentries] at hmem
  obtain ⟨hsame, honce⟩ := h.agrees (hup hup')
  have hsplit := hsame.trans
    (BreakpointRegistry.entries_without_armed hbp (by rw [← hid]; exact hnotNull))
  have hnodup := (hsplit.map (·.id)).nodup_iff.mp honce
  rw [List.map_append, List.nodup_append] at hnodup
  exact hnodup.2.2 a.id (List.mem_map_of_mem hmem) bp.id (by simp [Breakpoint.outline]) hid

theorem Removed.tells {url line : Json} {c : Except Fault Bool × Site (Recorded ε)}
    (hremoved : Removed url line s c) (h : s.Settled) (h' : c.2.Settled) :
    Tells url line s c.2 c.1 := by
  cases hremoved with
  | failed f => exact rfl
  | unknown hline hindex => exact ⟨rfl, _, hline, hindex⟩
  | @forgotten n i bp hline hindex hbp hidle =>
    have houtline := BreakpointRegistry.outline_without s.bridge.registry i
    have hplace := BreakpointRegistry.outline_of_item hbp
    exact ⟨n, i, _, hline, hindex, hplace, houtline, fun hconnected =>
      h.not_held h' hbp id houtline (h'.ready.isUp hconnected)⟩
  | refused hindex hbp harmed hcommanded => exact hcommanded.onward.outline
  | @disarmed n i bp reply s' hline hindex hbp harmed hcommanded =>
    have houtline : (s'.bridge.registry.without i).outline
        = s.bridge.registry.outline.eraseIdx i := by
      rw [BreakpointRegistry.outline_without, hcommanded.onward.outline]
    have hplace := BreakpointRegistry.outline_of_item hbp
    exact ⟨n, i, _, hline, hindex, hplace, houtline, fun hconnected =>
      h.not_held h' hbp hcommanded.onward.up houtline (h'.ready.isUp hconnected)⟩

/-! ## §3. Everything else. -/

/-- A command of another kind leaves a site at rest. -/
theorem Settled.posted {awaited : Option Pending} {e : Envelope}
    {r : Except Fault Nat × Site (Recorded ε)} (h : s.Settled) (hpassive : e.Passive)
    (hready : ∀ k, s.bridge.link.socket = some k → (s.putting k awaited e).Ready)
    (hposted : Posted awaited e s r) : r.2.Settled := by
  have honward := hposted.onward
  cases hposted with
  | refused m hno =>
    exact settled_down h.ready.numbered h.opened
      fun hup => h.not_up_of_refused hno (honward.up hup)
  | @put k hsocket hopen =>
    refine .of_kept (h.onward honward (hready k hsocket) fun hup => ?_)
    rw [conversation_putting, holding_concat, Holding.next_passive hpassive]
    exact (h.owes (honward.up hup)).idle (List.Perm.refl _) _
  | @lost k s' m hsocket hopen haside =>
    exact settled_down (((hready k hsocket).gone k).aside haside)
      (honward.shutdown.trans h.opened) (not_isUp_gone haside)

omit [Endpoint ε] in
theorem Settled.left (h : s.Settled) : s.left.Settled where
  ready := h.ready.left
  opened := h.opened
  registered := rfl
  owes := h.owes
  dormant hup hdormant := by
    refine h.dormant hup ?_
    change s.bridge.leavePause.isLive = false at hdormant
    by_cases hpaused : s.bridge.status = .paused
    · simp [Bridge.leavePause, Bridge.isLive, hpaused] at hdormant
    · simpa [Bridge.leavePause, Bridge.isLive, hpaused] using hdormant

theorem settled_running {method params : Json} (h : s.Settled)
    (hpassive : Passive method params.orObject)
    (hclean : Uninterrupted ((do
      update Bridge.leavePause
      let _ ← onLink (Wire.notify method params) : Act (Site (Recorded ε)) Unit).exec s).2.conversation) :
    ((do
      update Bridge.leavePause
      let _ ← onLink (Wire.notify method params) : Act (Site (Recorded ε)) Unit).exec s).2.Settled := by
  rw [Act.exec_bind_ok (exec_update _ s)] at hclean ⊢
  change Uninterrupted ((onLink _ >>= fun _ => pure ()).exec s.left).2.conversation at hclean
  show ((onLink _ >>= fun _ => pure ()).exec s.left).2.Settled
  rw [Act.exec_bind_snd (fun _ _ => rfl)] at hclean ⊢
  exact h.left.posted (hpassive _) (fun k _ => h.ready.left.notifying k _)
    (posted_notify method params h.ready.left hclean)

/-- A command of another kind whose reply is awaited leaves a site at rest. -/
theorem settled_command {α : Type} {method params : Json} {f : Json → Act (Site (Recorded ε)) α}
    (h : s.Settled) (hpassive : Passive method params.orObject)
    (hf : ∀ reply s, ((f reply).exec s).2 = s)
    (hdone : Concluded ((command method params >>= f).exec s).2.conversation) :
    ((command method params >>= f).exec s).2.Settled := by
  rw [Act.exec_bind_snd hf] at hdone ⊢
  exact h.commanded_quiet (commanded_command method params h.ready hdone.clean) hpassive hdone.fair

/-! ## §4. Runs. -/

/-- The task keeps the breakpoints up.  The bridge is started only without a connection, it is
not stopped for good, and nothing is armed that may be armed already. -/
def Task.Upkeeps (s : Site (Recorded ε)) : Task ε → Prop
  | .start => s.bridge.link.socket = none
  | .stop => False
  | .arm => False
  | _ => True

/-- Every task keeps the breakpoints up, and no command to arm or to disarm is without an
answer when it ends. -/
def Upkept : Site (Recorded ε) → List (Task ε) → Prop
  | _, [] => True
  | s, task :: rest =>
      task.Upkeeps s ∧ (holding (task.act.exec s).2.conversation).waiting = [] ∧
        Upkept (task.act.exec s).2 rest

theorem settled_act {task : Task ε} (hupkeeps : task.Upkeeps s) (h : s.Settled)
    (hdone : Concluded (task.act.exec s).2.conversation) : (task.act.exec s).2.Settled := by
  cases task with
  | start => exact settled_start h hupkeeps hdone
  | stop => exact hupkeeps.elim
  | arm => exact hupkeeps.elim
  | resume => exact settled_running h (fun _ => ⟨rfl, rfl⟩) hdone.clean
  | stepOver => exact settled_running h (fun _ => ⟨rfl, rfl⟩) hdone.clean
  | evaluate expression =>
    unfold Task.act at hdone ⊢
    rw [Act.exec_bind_snd (fun _ _ => rfl)] at hdone ⊢
    unfold evaluate at hdone ⊢
    rw [Act.exec_bind_ok (exec_look s), exec_ofExcept_bind] at hdone ⊢
    -- without a frame nothing is sent
    cases hframe : s.bridge.tracker.require with
    | error f => exact h
    | ok frame =>
      simp only [hframe] at hdone ⊢
      exact h.commanded_quiet (commanded_command _ _ h.ready hdone.clean)
        (fun _ => ⟨rfl, rfl⟩) hdone.fair
  | properties objectId =>
    unfold Task.act at hdone ⊢
    rw [Act.exec_bind_snd (fun _ _ => rfl)] at hdone ⊢
    exact settled_command h (fun _ => ⟨rfl, rfl⟩) (fun _ _ => rfl) hdone
  | add url line =>
    unfold Task.act at hdone ⊢
    rw [Act.exec_bind_snd (fun _ _ => rfl)] at hdone ⊢
    exact (added_addBreakpoint url line h.ready hdone.clean).settled h hdone
  | remove url line =>
    unfold Task.act at hdone ⊢
    rw [Act.exec_bind_snd (fun _ _ => rfl)] at hdone ⊢
    exact (removed_removeBreakpoint url line h.ready hdone.clean).settled h hdone
  | pump => exact (steps_pump h.ready hdone.clean).2.settled h hdone.fair
  | stir f => exact ⟨⟨h.ready.tame, h.ready.bare⟩, h.opened, rfl, h.owes, h.dormant⟩

/-- A task of a run is concluded when it ends, and the site is at rest. -/
theorem Settled.first {task : Task ε} {rest : List (Task ε)} (h : s.Settled)
    (hupkept : Upkept s (task :: rest))
    (hcivil : Civil (s.afterTasks (task :: rest)).conversation) :
    Concluded (task.act.exec s).2.conversation ∧ (task.act.exec s).2.Settled := by
  obtain ⟨hupkeeps, hprompt, _⟩ := hupkept
  have hbegin : (task.act.exec s).2.conversation <+: (s.afterTasks (task :: rest)).conversation :=
    grows_afterTasks rest _ (grows_act task s h.ready.sane).1
  have hdone : Concluded (task.act.exec s).2.conversation := ⟨hcivil.of_prefix hbegin, hprompt⟩
  exact ⟨hdone, settled_act hupkeeps h hdone⟩

theorem settled_afterTasks (tasks : List (Task ε)) : ∀ s : Site (Recorded ε), s.Settled →
    Upkept s tasks → Civil (s.afterTasks tasks).conversation → (s.afterTasks tasks).Settled := by
  induction tasks with
  | nil => exact fun _ h _ _ => h
  | cons task rest ih =>
    intro s h hupkept hcivil
    exact ih _ (h.first hupkept hcivil).2 hupkept.2.2 hcivil

/-- Every removal in a run tells what has become of the registry. -/
theorem tells_afterTasks {url line : Json} {after : List (Task ε)} (before : List (Task ε)) :
    ∀ s : Site (Recorded ε), s.Settled → Upkept s (before ++ .remove url line :: after) →
      Civil (s.afterTasks (before ++ .remove url line :: after)).conversation →
      Tells url line (s.afterTasks before) ((removeBreakpoint url line).exec (s.afterTasks before)).2
        ((removeBreakpoint url line).exec (s.afterTasks before)).1 := by
  -- Induction on the tasks before the removal.
  induction before with
  | nil =>
    intro s h hupkept hcivil
    have hdone := (h.first hupkept hcivil).1
    unfold Task.act at hdone
    rw [Act.exec_bind_snd (fun _ _ => rfl)] at hdone
    have hremoved := removed_removeBreakpoint url line h.ready hdone.clean
    exact hremoved.tells h (hremoved.settled h hdone)
  | cons task before ih =>
    intro s h hupkept hcivil
    exact ih _ (h.first hupkept hcivil).2 hupkept.2.2 hcivil

/-- **BRIDGE AND HOST AGREE ON WHAT IS ARMED**: after any run of a new bridge, if there is a
connection, the host holds on it what the registry has armed, each breakpoint once.  And every
removal on the way tells what has become of the registry. -/
theorem afterTasks_agrees {config : BridgeConfig} (htame : config.Tame) (url : Json)
    (registry : BreakpointRegistry) (blocks : Option BlockTable) (host : ε) (tasks : List (Task ε))
    (hupkept : Upkept (fresh config url registry blocks host) tasks)
    (hclean : Uninterrupted ((fresh config url registry blocks host).afterTasks tasks).conversation)
    (hfair : Fairly ((fresh config url registry blocks host).afterTasks tasks).conversation) :
    (((fresh config url registry blocks host).afterTasks tasks).bridge.link.isConnected = true →
      Agrees ((fresh config url registry blocks host).afterTasks tasks)) ∧
    ∀ before url' line after, tasks = before ++ .remove url' line :: after →
      Tells url' line ((fresh config url registry blocks host).afterTasks before)
        ((removeBreakpoint url' line).exec
          ((fresh config url registry blocks host).afterTasks before)).2
        ((removeBreakpoint url' line).exec
          ((fresh config url registry blocks host).afterTasks before)).1 := by
  have hfresh : (fresh config url registry blocks host).Settled :=
    settled_down (ready_fresh htame url registry blocks host) rfl (not_isUp rfl)
  have hcivil : Civil ((fresh config url registry blocks host).afterTasks tasks).conversation :=
    ⟨hclean, hfair⟩
  have hsettled := settled_afterTasks tasks _ hfresh hupkept hcivil
  refine ⟨fun hconnected => hsettled.agrees (hsettled.ready.isUp hconnected), ?_⟩
  rintro before url' line after rfl
  exact tells_afterTasks before _ hfresh hupkept hcivil

/-! ## §5. A run with two breakpoints. -/

/-- One breakpoint is wanted before the start, another is added, and the first is removed. -/
def editedTasks : List (Task RehearsedHost) :=
  [.start, .add "lib/flow.js" (.int 7), .remove "lib/flow.js" (.int 3)]

/-- The registry before the start. -/
def wantedBefore : BreakpointRegistry := ⟨[{ url := "lib/flow.js", line := .int 3 }]⟩

/-- The site after these tasks. -/
def edited : Site (Recorded RehearsedHost) :=
  (fresh {} "ws" wantedBefore none {}).afterTasks editedTasks

theorem afterTasks_agrees_edited :
    ({} : BridgeConfig).Tame ∧ Upkept (fresh {} "ws" wantedBefore none {}) editedTasks ∧
      Uninterrupted edited.conversation ∧ Fairly edited.conversation ∧
      edited.bridge.link.isConnected = true ∧ Agrees edited ∧
      edited.bridge.registry.entries
        = [{ id := "bp:lib/flow.js:7", url := "lib/flow.js", line := .int 7 }] := by
  have htame : ({} : BridgeConfig).Tame := fun _ hl => nomatch hl
  have hupkept : Upkept (fresh {} "ws" wantedBefore none {}) editedTasks :=
    ⟨rfl, rfl, trivial, rfl, trivial, rfl, trivial⟩
  have hclean : Uninterrupted edited.conversation := by decide +kernel
  have hfair : Fairly edited.conversation := by decide +kernel
  have hagrees := afterTasks_agrees htame "ws" wantedBefore none ({} : RehearsedHost) editedTasks
  exact ⟨htame, hupkept, hclean, hfair, rfl, (hagrees hupkept hclean hfair).1 rfl, rfl⟩

end Site
end FlowTrace
