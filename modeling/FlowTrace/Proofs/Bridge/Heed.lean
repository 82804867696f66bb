/-
  FlowTrace.Proofs.Bridge.Heed
  ────────────────────────────────
  **A BRIDGE HEEDS ITS LINK.**

  Whatever a bridge asks of its link, it acts on the signals that come of it
  before anything else.  A signal about a command or a new connection changes
  nothing but what is set aside: calls of listeners, tables and requests for
  sources.  The signal of a loss ends the pause and closes the bridge.

  The listeners are tame: what they raise is kept by the guard around them.
-/
import FlowTrace.Bridge.Events
import FlowTrace.Proofs.Act
import FlowTrace.Proofs.Link.Bare
import FlowTrace.Proofs.Mild

namespace FlowTrace

/-- No listener raises what no guard may keep. -/
def BridgeConfig.Tame (c : BridgeConfig) : Prop := ∀ l ∈ c.listeners, ∀ e, Mild (l.answer e)

/-- The calls that an event makes: every listener of its kind, in the order of
registration. -/
def BridgeConfig.callsOf (c : BridgeConfig) (e : Event) : List (String × Event) :=
  (c.listeners.filter (fun l => l.kind == e.kind)).map (fun l => (l.name, e))

namespace Site

variable {ε : Type} {s s' : Site ε}

/-! ## §1. Listeners. -/

@[simp] theorem exec_look (s : Site ε) : (look : Act (Site ε) Bridge).exec s = (.ok s.bridge, s) :=
  rfl

@[simp] theorem exec_update (f : Bridge → Bridge) (s : Site ε) :
    (update f).exec s = (.ok ⟨⟩, { s with bridge := f s.bridge }) := rfl

/-- A computation that looks at the state goes on with its value, or ends there. -/
theorem exec_ofExcept_bind {α β : Type} (r : Except Fault α) (f : α → Act (Site ε) β) (s : Site ε) :
    (Act.ofExcept r >>= f).exec s = match r with
      | .ok a => (f a).exec s
      | .error e => (.error e, s) := by
  rw [Act.exec_bind, Act.exec_ofExcept]
  cases r <;> rfl

/-- The site with some calls more. -/
def calling (s : Site ε) (calls : List (String × Event)) : Site ε :=
  { s with bridge := { s.bridge with calls := s.bridge.calls ++ calls } }

theorem exec_callAll (e : Event) (ls : List Listener) : ∀ s : Site ε,
    (∀ l ∈ ls, Mild (l.answer e)) →
      (callAll e ls).exec s = (.ok (), s.calling (ls.map (fun l => (l.name, e)))) := by
  induction ls with
  | nil =>
    intro s _
    unfold calling
    rw [List.map_nil, List.append_nil]
    rfl
  | cons l rest ih =>
    intro s htame
    have hl : Mild (l.answer e) := htame l (List.mem_cons_self ..)
    have hcall : (call l e).exec s = (.ok (), s.calling [(l.name, e)]) := by
      unfold call
      rw [Act.exec_bind_ok (exec_update _ s)]
      exact Act.exec_contained_ok (a := Act.ofExcept (l.answer e)) hl
    unfold callAll
    rw [Act.exec_bind_ok hcall, ih _ (fun l' hl' => htame l' (List.mem_cons_of_mem l hl'))]
    unfold calling
    rw [List.map_cons, List.append_assoc]
    rfl

/-- **An event calls every listener of its kind**, each once, in the order of
registration, whatever the ones before it raise. -/
theorem exec_emit_tame (htame : s.bridge.config.Tame) (e : Event) :
    (emit e).exec s = (.ok (), s.calling (s.bridge.config.callsOf e)) := by
  unfold emit
  rw [Act.exec_bind_ok (exec_look s)]
  exact exec_callAll e _ s (fun l hl => htame l (List.mem_filter.mp hl).1 e)

/-! ## §2. What is set aside. -/

/-- The states differ in calls, tables and requests for sources only. -/
structure Aside (s s' : Site ε) : Prop where
  network : s'.network = s.network
  link : s'.bridge.link = s.bridge.link
  registry : s'.bridge.registry = s.bridge.registry
  tracker : s'.bridge.tracker = s.bridge.tracker
  status : s'.bridge.status = s.bridge.status
  stopped : s'.bridge.stopped = s.bridge.stopped
  config : s'.bridge.config = s.bridge.config

theorem Aside.refl (s : Site ε) : Aside s s := ⟨rfl, rfl, rfl, rfl, rfl, rfl, rfl⟩

theorem Aside.trans {s'' : Site ε} (h : Aside s s') (h' : Aside s' s'') : Aside s s'' :=
  ⟨h'.network.trans h.network, h'.link.trans h.link, h'.registry.trans h.registry,
    h'.tracker.trans h.tracker, h'.status.trans h.status, h'.stopped.trans h.stopped,
    h'.config.trans h.config⟩

theorem Aside.calling (s : Site ε) (calls : List (String × Event)) : Aside s (s.calling calls) :=
  ⟨rfl, rfl, rfl, rfl, rfl, rfl, rfl⟩

/-- The action sets things aside and fails only with what a guard keeps. -/
def SetsAside {α : Type} (a : Act (Site ε) α) : Prop :=
  ∀ s : Site ε, s.bridge.config.Tame → Mild (a.exec s).1 ∧ Aside s (a.exec s).2

namespace SetsAside

variable {α β : Type}

theorem bind {a : Act (Site ε) α} {f : α → Act (Site ε) β} (ha : SetsAside a)
    (hf : ∀ x, SetsAside (f x)) : SetsAside (a >>= f) := by
  intro s htame
  have hfirst := ha s htame
  rw [Act.exec_bind]
  cases hr : a.exec s with
  | mk r s₁ =>
    rw [hr] at hfirst
    cases r with
    | error e => exact ⟨.error (hfirst.1 e rfl), hfirst.2⟩
    | ok x =>
      have hrest := hf x s₁ (by rw [hfirst.2.config]; exact htame)
      exact ⟨hrest.1, hfirst.2.trans hrest.2⟩

theorem look : SetsAside (look : Act (Site ε) Bridge) := fun s _ => ⟨.ok _, .refl s⟩

theorem ofExcept {r : Except Fault α} (h : Mild r) : SetsAside (Act.ofExcept r : Act (Site ε) α) :=
  fun s _ => ⟨h, .refl s⟩

theorem emit (e : Event) : SetsAside (emit e : Act (Site ε) Unit) := by
  intro s htame
  rw [exec_emit_tame htame e]
  exact ⟨.ok _, .calling s _⟩

theorem update {f : Bridge → Bridge} (hf : ∀ s : Site ε, Aside s { s with bridge := f s.bridge }) :
    SetsAside (update f : Act (Site ε) Unit) := fun s _ => ⟨.ok _, hf s⟩

theorem publishException (e : Thrown) (table : Option BlockTable) :
    SetsAside (publishException e table : Act (Site ε) Unit) :=
  .bind .look fun b => .bind (.ofExcept (b.mild_describe e table)) fun _ => .emit _

theorem finishFetch (f : Fetch) (outcome : Outcome) :
    SetsAside (finishFetch f outcome : Act (Site ε) Unit) := by
  cases outcome with
  | error _ => exact .publishException _ _
  | ok result =>
    exact .bind .look fun _ => .bind (.ofExcept (mild_tableOfSource _ _)) fun _ =>
      .bind (.update fun _ => ⟨rfl, rfl, rfl, rfl, rfl, rfl, rfl⟩) fun _ => .publishException _ _

theorem completeCommand (id : Nat) (outcome : Outcome) :
    SetsAside (completeCommand id outcome : Act (Site ε) Unit) := by
  refine .bind .look fun b => ?_
  cases b.fetches.find? (fun f => f.id == id) with
  | none => exact .ofExcept (.ok ())
  | some f =>
    exact .bind (.update fun _ => ⟨rfl, rfl, rfl, rfl, rfl, rfl, rfl⟩) fun _ => .finishFetch f outcome

end SetsAside

/-- A guard around such an action keeps whatever it raises. -/
theorem SetsAside.exec_contained {a : Act (Site ε) Unit} (ha : SetsAside a)
    (htame : s.bridge.config.Tame) :
    ∃ s', (Act.contained a).exec s = (.ok (), s') ∧ Aside s s' := by
  obtain ⟨hmild, haside⟩ := ha s htame
  exact ⟨(a.exec s).2, Act.exec_contained_ok hmild, haside⟩

/-! ## §3. Signals. -/

/-- The bridge has lost its connection: the pause is over, and the bridge is closed. -/
def downed (s : Site ε) : Site ε :=
  { s with bridge := { s.bridge with tracker := s.bridge.tracker.clear, status := .closed } }

/-- The state after changes of the connection. -/
def heeded (s : Site ε) (changes : List Change) : Site ε :=
  if .down ∈ changes then s.downed else s

theorem Aside.downed (h : Aside s s') : Aside s.downed s'.downed where
  network := h.network
  link := h.link
  registry := h.registry
  tracker := congrArg PauseTracker.clear h.tracker
  status := rfl
  stopped := h.stopped
  config := h.config

theorem Aside.heeded (h : Aside s s') (changes : List Change) :
    Aside (s.heeded changes) (s'.heeded changes) := by
  unfold Site.heeded
  by_cases hdown : Change.down ∈ changes
  · rw [if_pos hdown, if_pos hdown]
    exact h.downed
  · rw [if_neg hdown, if_neg hdown]
    exact h

@[simp] theorem heeded_nil (s : Site ε) : s.heeded [] = s := rfl

@[simp] theorem heeded_network (s : Site ε) (changes : List Change) :
    (s.heeded changes).network = s.network := by
  unfold heeded
  split <;> rfl

@[simp] theorem heeded_link (s : Site ε) (changes : List Change) :
    (s.heeded changes).bridge.link = s.bridge.link := by
  unfold heeded
  split <;> rfl

@[simp] theorem heeded_config (s : Site ε) (changes : List Change) :
    (s.heeded changes).bridge.config = s.bridge.config := by
  unfold heeded
  split <;> rfl

/-- Changes are heeded one after the other. -/
theorem heeded_append (s : Site ε) (xs ys : List Change) :
    (s.heeded xs).heeded ys = s.heeded (xs ++ ys) := by
  unfold heeded
  by_cases hx : Change.down ∈ xs <;> by_cases hy : Change.down ∈ ys <;>
    simp [hx, hy, downed, PauseTracker.clear]

/-- The loss of the connection is told to those who listen for it. -/
theorem exec_loseConnection (htame : s.bridge.config.Tame) :
    ∃ s', loseConnection.exec s = (.ok (), s') ∧ Aside s.downed s' := by
  unfold loseConnection
  rw [Act.exec_bind_ok (exec_update _ s), Act.exec_bind_ok (exec_look _)]
  exact ⟨_, exec_emit_tame (s := s.downed) htame _, .calling s.downed _⟩

theorem exec_heed (htame : s.bridge.config.Tame) (signal : Signal) :
    ∃ s', (Act.contained (heed signal)).exec s = (.ok (), s') ∧
      Aside (s.heeded signal.change?.toList) s' := by
  cases signal with
  | up => exact ⟨s, rfl, .refl s⟩
  | down =>
    obtain ⟨s', hexec, haside⟩ := exec_loseConnection htame
    refine ⟨s', ?_, haside⟩
    show (Act.contained loseConnection).exec s = _
    rw [Act.exec_contained_ok (by rw [hexec]; exact Mild.ok ()), hexec]
  | completed id outcome => exact (SetsAside.completeCommand id outcome).exec_contained htame

/-- Signals are heeded to the last one, whatever comes of each. -/
theorem exec_heedAll (signals : List Signal) : ∀ s : Site ε, s.bridge.config.Tame →
    ∃ s', (heedAll signals).exec s = (.ok (), s') ∧
      Aside (s.heeded (signals.filterMap Signal.change?)) s' := by
  induction signals with
  | nil => exact fun s _ => ⟨s, rfl, .refl s⟩
  | cons signal rest ih =>
    intro s htame
    obtain ⟨s₁, hfirst, haside⟩ := exec_heed htame signal
    have htame₁ : s₁.bridge.config.Tame := by
      rw [haside.config, heeded_config]
      exact htame
    obtain ⟨s', hrest, haside'⟩ := ih s₁ htame₁
    refine ⟨s', ?_, ?_⟩
    · unfold heedAll
      rw [Act.exec_bind_ok hfirst, hrest]
    · have hall := (haside.heeded (rest.filterMap Signal.change?)).trans haside'
      rw [heeded_append] at hall
      cases hchange : signal.change? <;> rw [hchange] at hall <;>
        simpa [List.filterMap_cons, hchange] using hall

/-! ## §4. Operations of the link. -/

/-- The link of a site, and the network that it uses. -/
def wire (s : Site ε) : Wire ε := { link := s.bridge.link, network := s.network }

/-- The site with another link and network, every signal heeded. -/
def rewired (s : Site ε) (w : Wire ε) : Site ε :=
  { bridge := { s.bridge with link := w.link.silenced }, network := w.network }

/-- The operation at the site, before its signals are heeded. -/
theorem exec_attempt_within {α : Type} {a : Act (Wire ε) α} {r : Except Fault α} {w : Wire ε}
    (ha : a.exec s.wire = (r, w)) :
    (Act.attempt (Act.within (fun s : Site ε =>
      ({ link := s.bridge.link, network := s.network } : Wire ε))
      (fun w s => { bridge := { s.bridge with link := w.link }, network := w.network }) a)).exec s
      = (.ok r, { bridge := { s.bridge with link := w.link }, network := w.network }) := by
  rw [Act.exec_attempt, Act.exec_within]
  show (Except.ok (a.exec s.wire).1,
    ({ bridge := { s.bridge with link := (a.exec s.wire).2.link },
       network := (a.exec s.wire).2.network } : Site ε)) = _
  rw [ha]

/-- **An operation of the link ends at the site as it ends at the link**, and the
changes of the connection that came of it have been heeded. -/
theorem exec_onLink {α : Type} {a : Act (Wire ε) α} {r : Except Fault α} {w : Wire ε}
    (htame : s.bridge.config.Tame) (ha : a.exec s.wire = (r, w)) :
    ∃ s', (onLink a).exec s = (r, s') ∧ Aside ((s.rewired w).heeded w.link.changes) s' := by
  let told : Site ε := { bridge := { s.bridge with link := w.link }, network := w.network }
  obtain ⟨s', hheed, haside⟩ := exec_heedAll w.link.signals (s.rewired w) htame
  refine ⟨s', ?_, haside⟩
  have hheedLink : heedLink.exec told = (.ok (), s') := by
    unfold heedLink
    rw [Act.exec_bind_ok (exec_look told), Act.exec_bind_ok (exec_update _ told)]
    exact hheed
  unfold onLink
  rw [Act.exec_bind_ok (exec_attempt_within ha), Act.exec_bind_ok hheedLink]
  rfl

/-- What an operation of the link leaves: the link with its signals heeded, the network, and the
configuration that was there. -/
theorem onLink_leaves {α : Type} {a : Act (Wire ε) α} {r : Except Fault α} {w : Wire ε}
    (htame : s.bridge.config.Tame) (ha : a.exec s.wire = (r, w)) :
    ∃ s', (onLink a).exec s = (r, s') ∧ s'.bridge.link = w.link.silenced ∧
      s'.network = w.network ∧ s'.bridge.config = s.bridge.config := by
  obtain ⟨s', hexec, haside⟩ := exec_onLink htame ha
  exact ⟨s', hexec, haside.link.trans (heeded_link _ _),
    haside.network.trans (heeded_network _ _), haside.config.trans (heeded_config _ _)⟩

/-- An operation that gives no signal changes the link and the network only. -/
theorem exec_onLink_silent {α : Type} {a : Act (Wire ε) α} {r : Except Fault α} {w : Wire ε}
    (ha : a.exec s.wire = (r, w)) (hsilent : w.link.signals = []) :
    (onLink a).exec s = (r, s.rewired w) := by
  let told : Site ε := { bridge := { s.bridge with link := w.link }, network := w.network }
  have hheedLink : heedLink.exec told = (.ok (), s.rewired w) := by
    unfold heedLink
    rw [Act.exec_bind_ok (exec_look told), Act.exec_bind_ok (exec_update _ told)]
    show (heedAll w.link.signals).exec _ = _
    rw [hsilent]
    rfl
  unfold onLink
  rw [Act.exec_bind_ok (exec_attempt_within ha), Act.exec_bind_ok hheedLink]
  rfl

end Site
end FlowTrace
