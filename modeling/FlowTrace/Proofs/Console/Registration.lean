/-
  FlowTrace.Proofs.Console.Registration
  ────────────────────────────────
  **A COMMAND IS REGISTERED UNDER ALL OF ITS KEYS OR NOT AT ALL.**

  Registering a command writes a table in two places: the list of commands and the map from
  keys.  It may be refused, on any of the keys.  The map and the list still agree after any
  registrations, because nothing is written before the last key was looked at:

      refused   — some key leads to another command; the table is as it was
      accepted  — every key leads to the command from then on, and none of them led to
                  another before, so no command loses a key

  A command that was accepted is handed the table when everything is written, and nothing
  would be taken back if it failed then or wrote to the table itself.  So the theory is about
  commands that do neither (`CommandTable.Harmless`); the help command is the only one of the
  prompt's that does anything at all, and it does neither.

  Main result: `CommandTable.enrollAll_serves`.
-/
import FlowTrace.Console.Command
import FlowTrace.Proofs.Act
import FlowTrace.Proofs.Json.Fields
import FlowTrace.Proofs.Text.Order

namespace FlowTrace
namespace CommandTable

variable {t : CommandTable} {c owner : Command} {key : String} {keys : List String}

/-! ## §1. Looking at the keys. -/

/-- The key leads to no other command than `c`. -/
def Free (t : CommandTable) (c : Command) (key : String) : Prop :=
  ∀ owner, t.get? key = some owner → owner = c

/-- The fault of a key that another command has. -/
def takenFault (key : String) (owner : Command) : Fault :=
  .badValue ("command name " ++ quoted key ++ " already taken by " ++ quoted owner.name)

theorem exec_reserve_free (h : t.Free c key) : (reserve c key).exec t = (.ok (), t) := by
  unfold reserve
  rw [Act.exec_bind_ok (Act.exec_get t)]
  cases hget : t.get? key with
  | none => rfl
  | some owner =>
    dsimp only
    rw [if_pos (h owner hget)]
    rfl

theorem exec_reserve_taken (hget : t.get? key = some owner) (hne : owner ≠ c) :
    (reserve c key).exec t = (.error (takenFault key owner), t) := by
  unfold reserve
  rw [Act.exec_bind_ok (Act.exec_get t), hget]
  dsimp only
  rw [if_neg hne]
  rfl

/-- All of the keys are free, or there is a first that is not. -/
theorem free_or_taken (t : CommandTable) (c : Command) (keys : List String) :
    (∀ key ∈ keys, t.Free c key) ∨
      ∃ before key after owner, keys = before ++ key :: after ∧ (∀ k ∈ before, t.Free c k) ∧
        t.get? key = some owner ∧ owner ≠ c := by
  induction keys with
  | nil => exact .inl (List.forall_mem_nil _)
  | cons key rest ih =>
    by_cases hfree : t.Free c key
    · rcases ih with hrest | ⟨before, k, after, owner, rfl, hbefore, htaken⟩
      · exact .inl (List.forall_mem_cons.mpr ⟨hfree, hrest⟩)
      · exact .inr ⟨key :: before, k, after, owner, rfl, List.forall_mem_cons.mpr ⟨hfree, hbefore⟩,
          htaken⟩
    · unfold Free at hfree
      push Not at hfree
      obtain ⟨owner, hget, hne⟩ := hfree
      exact .inr ⟨[], key, rest, owner, rfl, List.forall_mem_nil _, hget, hne⟩

theorem exec_withKeys_free (h : ∀ key ∈ keys, t.Free c key) :
    (withKeys (reserve c) keys).exec t = (.ok (), t) := by
  induction keys with
  | nil => rfl
  | cons key rest ih =>
    obtain ⟨hkey, hrest⟩ := List.forall_mem_cons.mp h
    unfold withKeys
    rw [Act.exec_bind_ok (exec_reserve_free hkey), ih hrest]

theorem exec_withKeys_taken {before after : List String} (hbefore : ∀ k ∈ before, t.Free c k)
    (hget : t.get? key = some owner) (hne : owner ≠ c) :
    (withKeys (reserve c) (before ++ key :: after)).exec t
      = (.error (takenFault key owner), t) := by
  induction before with
  | nil =>
    show (withKeys (reserve c) (key :: after)).exec t = _
    unfold withKeys
    rw [Act.exec_bind_error (exec_reserve_taken hget hne)]
  | cons k rest ih =>
    obtain ⟨hk, hrest⟩ := List.forall_mem_cons.mp hbefore
    rw [List.cons_append]
    unfold withKeys
    rw [Act.exec_bind_ok (exec_reserve_free hk), ih hrest]

/-! ## §2. Taking the keys. -/

/-- The table in which some keys lead to a command. -/
def entering (t : CommandTable) (c : Command) (keys : List String) : CommandTable :=
  { t with byKey := keys.foldl (fun entries key => Fields.put key c entries) t.byKey }

/-- The table with a command more. -/
def listing (t : CommandTable) (c : Command) : CommandTable :=
  { t with commands := t.commands ++ [c] }

theorem exec_withKeys_enter (t : CommandTable) :
    (withKeys (enter c) keys).exec t = (.ok (), t.entering c keys) := by
  induction keys generalizing t with
  | nil => rfl
  | cons key rest ih =>
    unfold withKeys
    have hkey : (enter c key).exec t = (.ok (), t.entering c [key]) := rfl
    rw [Act.exec_bind_ok hkey, ih]
    rfl

/-- A key that was taken leads to the command, and any other where it led. -/
theorem get?_entering (t : CommandTable) (key : String) :
    (t.entering c keys).get? key = if key ∈ keys then some c else t.get? key := by
  induction keys generalizing t with
  | nil => rw [if_neg List.not_mem_nil]; rfl
  | cons k rest ih =>
    show ((t.entering c [k]).entering c rest).get? key = _
    have hk : (t.entering c [k]).get? key = if k = key then some c else t.get? key :=
      Fields.get?_put k key c t.byKey
    rw [ih, hk]
    by_cases hrest : key ∈ rest
    · rw [if_pos hrest, if_pos (List.mem_cons_of_mem k hrest)]
    · rw [if_neg hrest]
      by_cases heq : k = key
      · rw [if_pos heq, if_pos (List.mem_cons.mpr (.inl heq.symm))]
      · rw [if_neg heq, if_neg (by simp [hrest, Ne.symm heq])]

theorem nodup_entering (h : (Fields.keys t.byKey).Nodup) :
    (Fields.keys (t.entering c keys).byKey).Nodup := by
  induction keys generalizing t with
  | nil => exact h
  | cons k rest ih => exact ih (t := t.entering c [k]) (Fields.nodup_keys_put h k c)

/-! ## §3. One registration. -/

/-- What a command does with a table changes nothing but who keeps it, and does not fail. -/
def Harmless (act : Act CommandTable Unit) : Prop :=
  ∀ t, ∃ bound, act.exec t = (.ok (), { t with bound := bound })

/-- **What the prompt's commands do with their table is harmless.** -/
theorem harmless_bindHelp (c : Command) : Harmless (bindHelp c) := by
  intro t
  unfold bindHelp
  split
  · exact ⟨t.bound ++ [c], rfl⟩
  · exact ⟨t.bound, rfl⟩

variable {bind : Binding}

/-- **Without a key that is taken, the command is listed and all of its keys lead to it**, and
so it is when the command is handed the table. -/
theorem exec_enroll_free (h : ∀ key ∈ c.keys, t.Free c key) :
    (enroll bind c).exec t = (bind c).exec ((t.listing c).entering c c.keys) := by
  unfold enroll
  rw [Act.exec_bind_ok (exec_withKeys_free h), Act.exec_bind_ok (Act.exec_modify _ t),
    Act.exec_bind_ok (exec_withKeys_enter _)]
  rfl

/-- **A key that is taken refuses the command**, and the table is as it was. -/
theorem exec_enroll_taken {before after : List String} (hkeys : c.keys = before ++ key :: after)
    (hbefore : ∀ k ∈ before, t.Free c k) (hget : t.get? key = some owner) (hne : owner ≠ c) :
    (enroll bind c).exec t = (.error (takenFault key owner), t) := by
  unfold enroll
  rw [hkeys]
  exact Act.exec_bind_error (exec_withKeys_taken hbefore hget hne)

/-- The help command that was registered keeps the table. -/
theorem mem_bound_of_enroll {t' : CommandTable} (haction : c.action = .help)
    (h : (enroll bindHelp c).exec t = (.ok (), t')) : c ∈ t'.bound := by
  have hfree : ∀ key ∈ c.keys, t.Free c key := by
    rcases free_or_taken t c c.keys with
      hfree | ⟨before, key, after, owner, hkeys, hbefore, hget, hne⟩
    · exact hfree
    · rw [exec_enroll_taken hkeys hbefore hget hne] at h
      cases h
  rw [exec_enroll_free hfree, bindHelp, if_pos haction, Act.exec_modify] at h
  cases h
  exact List.mem_append_right _ List.mem_cons_self

/-! ## §4. Tables that agree with themselves. -/

/-- The list and the map of the table agree on the commands that were accepted. -/
structure Agrees (t : CommandTable) (accepted : List Command) : Prop where
  listed : t.commands = accepted
  own : ∀ c ∈ accepted, ∀ key ∈ c.keys, t.get? key = some c
  named : ∀ key c, t.get? key = some c → c ∈ accepted ∧ key ∈ c.keys
  distinct : (Fields.keys t.byKey).Nodup

/-- Another command than `c` was accepted with the key. -/
def Claimed (accepted : List Command) (c : Command) (key : String) : Prop :=
  ∃ owner ∈ accepted, owner ≠ c ∧ key ∈ owner.keys

variable {accepted : List Command}

theorem agrees_empty : Agrees {} [] where
  listed := rfl
  own _ h := nomatch h
  named _ _ h := nomatch h
  distinct := List.nodup_nil

theorem Agrees.free_iff (h : t.Agrees accepted) : t.Free c key ↔ ¬ Claimed accepted c key := by
  constructor
  · rintro hfree ⟨owner, howner, hne, hkey⟩
    exact hne (hfree owner (h.own owner howner key hkey))
  · intro hnone owner hget
    obtain ⟨howner, hkey⟩ := h.named key owner hget
    by_contra hne
    exact hnone ⟨owner, howner, hne, hkey⟩

/-- The step: an accepted command takes no key from another. -/
theorem Agrees.accept (h : t.Agrees accepted) (hfree : ∀ key ∈ c.keys, t.Free c key) :
    ((t.listing c).entering c c.keys).Agrees (accepted ++ [c]) where
  listed := congrArg (· ++ [c]) h.listed
  own other hother key hkey := by
    rw [get?_entering]
    split
    next hmem =>
      -- the new command has the key, too; so the other one is that command
      rcases List.mem_append.mp hother with hother | hother
      · exact congrArg some (hfree key hmem other (h.own other hother key hkey)).symm
      · exact congrArg some (List.mem_singleton.mp hother).symm
    next hmem =>
      rcases List.mem_append.mp hother with hother | hother
      · exact h.own other hother key hkey
      · rw [List.mem_singleton.mp hother] at hkey
        exact absurd hkey hmem
  named key other hget := by
    rw [get?_entering] at hget
    split at hget
    next hmem =>
      obtain rfl := Option.some.inj hget
      exact ⟨List.mem_append_right _ List.mem_cons_self, hmem⟩
    next =>
      obtain ⟨hother, hkey⟩ := h.named key other hget
      exact ⟨List.mem_append_left _ hother, hkey⟩
  distinct := nodup_entering h.distinct

/-- Who keeps the table is nothing that the list and the map have to do with. -/
theorem Agrees.binding (h : t.Agrees accepted) (bound : List Command) :
    ({ t with bound := bound } : CommandTable).Agrees accepted :=
  ⟨h.listed, h.own, h.named, h.distinct⟩

/-! ## §5. Looking up. -/

theorem mem_names_iff : key ∈ t.names ↔ ∃ c, t.get? key = some c := by
  unfold names
  rw [List.mem_mergeSort]
  exact Fields.mem_keys_iff

theorem nodup_names (h : t.Agrees accepted) : t.names.Nodup :=
  (List.mergeSort_perm _ _).nodup_iff.mpr h.distinct

/-- What a table shows of the commands that were accepted. -/
structure Serves (t : CommandTable) (accepted : List Command) : Prop where
  /-- The commands are listed in the order in which they were accepted. -/
  listed : t.commands = accepted
  /-- A key leads to the earliest command that has it, and nowhere if none has it. -/
  earliest : ∀ key, t.get? key = accepted.find? (fun c => decide (key ∈ c.keys))
  /-- Every key of a listed command leads to that very command. -/
  own : ∀ c ∈ t.commands, ∀ key ∈ c.keys, t.get? key = some c
  /-- Every key leads to a listed command that has it. -/
  named : ∀ key c, t.get? key = some c → c ∈ t.commands ∧ key ∈ c.keys
  /-- The names are the keys of the listed commands, each once. -/
  names : ∀ key, key ∈ t.names ↔ ∃ c ∈ t.commands, key ∈ c.keys
  distinct : t.names.Nodup
  /-- They are strictly increasing in the order of texts.  A string that is not the marked
  form of any text has no place in it. -/
  increasing : (∀ c ∈ t.commands, ∀ key ∈ c.keys, CodePoint.HoldsText key) →
    t.names.Pairwise (fun a b => precedes a b = true)

theorem Agrees.earliest (h : t.Agrees accepted) (key : String) :
    t.get? key = accepted.find? (fun c => decide (key ∈ c.keys)) := by
  cases hfind : accepted.find? (fun c => decide (key ∈ c.keys)) with
  | none =>
    rw [List.find?_eq_none] at hfind
    cases hget : t.get? key with
    | none => rfl
    | some c =>
      obtain ⟨hc, hkey⟩ := h.named key c hget
      exact absurd (decide_eq_true hkey) (hfind c hc)
  | some c =>
    have hkey : key ∈ c.keys := by simpa using List.find?_some hfind
    exact h.own c (List.mem_of_find?_eq_some hfind) key hkey

theorem Agrees.serves (h : t.Agrees accepted) : t.Serves accepted := by
  have hnames (key : String) : key ∈ t.names ↔ ∃ c ∈ t.commands, key ∈ c.keys := by
    rw [mem_names_iff, h.listed]
    constructor
    · rintro ⟨c, hget⟩
      exact ⟨c, h.named key c hget⟩
    · rintro ⟨c, hc, hkey⟩
      exact ⟨c, h.own c hc key hkey⟩
  refine ⟨h.listed, h.earliest, h.listed.symm ▸ h.own, h.listed.symm ▸ h.named, hnames,
    nodup_names h, fun htexts => ?_⟩
  refine increasing_of_sorted (fun key hkey => ?_) (nodup_names h) (pairwise_sorted _)
  obtain ⟨c, hc, hmem⟩ := (hnames key).mp hkey
  exact htexts c hc key hmem

/-! ## §6. Any registrations. -/

/-- Register commands one after the other, whatever becomes of each.  Answers those that were
accepted. -/
def enrollAll (bind : Binding) : List Command → Act CommandTable (List Command)
  | [] => return []
  | c :: rest => do
      match ← Act.attempt (enroll bind c) with
      | .ok _ => return c :: (← enrollAll bind rest)
      | .error _ => enrollAll bind rest

/-- How the registration of a further command ends. -/
structure Decides (bind : Binding) (t : CommandTable) (accepted : List Command) (c : Command) :
    Prop where
  /-- If one of its keys is claimed it is refused, with the first of them and the command that
  has it, and the table is as it was. -/
  refused : (∃ key ∈ c.keys, Claimed accepted c key) →
    ∃ before key after owner, c.keys = before ++ key :: after ∧
      (∀ k ∈ before, ¬ Claimed accepted c k) ∧ owner ∈ accepted ∧ owner ≠ c ∧ key ∈ owner.keys ∧
      (enroll bind c).exec t = (.error (takenFault key owner), t)
  /-- Otherwise the table shows it when the command is handed the table, and it ends as what
  the command does with that. -/
  handed : (∀ key ∈ c.keys, ¬ Claimed accepted c key) →
    ∃ t', t'.Serves (accepted ++ [c]) ∧ (enroll bind c).exec t = (bind c).exec t'
  /-- If that is harmless, the table shows the command from then on. -/
  accepted : (∀ key ∈ c.keys, ¬ Claimed accepted c key) → Harmless (bind c) →
    ∃ t', (enroll bind c).exec t = (.ok (), t') ∧ t'.Serves (accepted ++ [c])

/-- A command whose keys are free is accepted if it is harmless. -/
theorem Agrees.exec_enroll (h : t.Agrees accepted) (hfree : ∀ key ∈ c.keys, t.Free c key)
    (hbind : Harmless (bind c)) :
    ∃ t', (enroll bind c).exec t = (.ok (), t') ∧ t'.Agrees (accepted ++ [c]) := by
  obtain ⟨bound, hexec⟩ := hbind ((t.listing c).entering c c.keys)
  exact ⟨_, (exec_enroll_free hfree).trans hexec, (h.accept hfree).binding bound⟩

theorem Agrees.decides (h : t.Agrees accepted) (c : Command) : t.Decides bind accepted c := by
  rcases free_or_taken t c c.keys with
    hfree | ⟨before, key, after, owner, hkeys, hbefore, hget, hne⟩
  · refine ⟨?_, fun _ => ⟨_, (h.accept hfree).serves, exec_enroll_free hfree⟩, fun _ hbind => ?_⟩
    · rintro ⟨key, hkey, hclaimed⟩
      exact absurd hclaimed (h.free_iff.mp (hfree key hkey))
    · obtain ⟨t', hexec, hagrees⟩ := h.exec_enroll hfree hbind
      exact ⟨t', hexec, hagrees.serves⟩
  · obtain ⟨howner, hmem⟩ := h.named key owner hget
    have hclaimed : ¬ ∀ key ∈ c.keys, ¬ Claimed accepted c key := by
      intro hnone
      have hkey : key ∈ c.keys := by
        rw [hkeys]
        exact List.mem_append_right _ List.mem_cons_self
      exact hnone key hkey ⟨owner, howner, hne, hmem⟩
    refine ⟨fun _ => ⟨before, key, after, owner, hkeys, ?_, howner, hne, hmem, ?_⟩,
      fun hnone => absurd hnone hclaimed, fun hnone => absurd hnone hclaimed⟩
    · exact fun k hk => h.free_iff.mp (hbefore k hk)
    · exact exec_enroll_taken hkeys hbefore hget hne

/-- Induction on the commands: an accepted one is a step, and a refused one is none. -/
theorem Agrees.exec_enrollAll (cs : List Command) (hbind : ∀ c ∈ cs, Harmless (bind c)) :
    ∀ {t accepted}, t.Agrees accepted →
      ∃ more t', (enrollAll bind cs).exec t = (.ok more, t') ∧ more.Sublist cs ∧
        t'.Agrees (accepted ++ more) := by
  induction cs with
  | nil =>
    intro t accepted h
    exact ⟨[], t, rfl, List.Sublist.refl _, by rwa [List.append_nil]⟩
  | cons c rest ih =>
    intro t accepted h
    obtain ⟨hc, hrest⟩ := List.forall_mem_cons.mp hbind
    unfold enrollAll
    rw [Act.exec_bind_ok (Act.exec_attempt _ t)]
    rcases free_or_taken t c c.keys with
      hfree | ⟨before, key, after, owner, hkeys, hbefore, hget, hne⟩
    · obtain ⟨t₁, henroll, hagrees₁⟩ := h.exec_enroll hfree hc
      obtain ⟨more, t', hexec, hsub, hagrees⟩ := ih hrest hagrees₁
      rw [henroll]
      refine ⟨c :: more, t', ?_, hsub.cons_cons c, by simpa using hagrees⟩
      dsimp only
      rw [Act.exec_bind_ok hexec]
      rfl
    · obtain ⟨more, t', hexec, hsub, hagrees⟩ := ih hrest h
      rw [exec_enroll_taken hkeys hbefore hget hne]
      exact ⟨more, t', hexec, hsub.cons c, hagrees⟩

/-- **The list of commands and the names agree after any registrations.**  Whichever of them
were refused, the table shows the commands that were accepted, in their order; and a further
command is refused, without a trace, exactly if another one was accepted with one of its
keys. -/
theorem enrollAll_serves (bind : Binding) (cs : List Command)
    (hbind : ∀ c ∈ cs, Harmless (bind c)) :
    ∃ accepted t, (enrollAll bind cs).exec {} = (.ok accepted, t) ∧ accepted.Sublist cs ∧
      t.Serves accepted ∧ ∀ c, t.Decides bind accepted c := by
  obtain ⟨accepted, t, hexec, hsub, hagrees⟩ := agrees_empty.exec_enrollAll cs hbind
  exact ⟨accepted, t, hexec, hsub, hagrees.serves, fun c => hagrees.decides c⟩

/-- A command whose last alias is one of the prompt's. -/
def carryCommand : Command := { name := "carry", description := "", aliases := ["on", "cont"] }

/-- The prompt's commands get in each other's way nowhere, and none of them loses a key to the
other one. -/
theorem enrollAll_serves_builtin :
    (∀ c ∈ builtinCommands ++ [carryCommand], Harmless (bindHelp c))
      ∧ (enrollAll bindHelp (builtinCommands ++ [carryCommand])).exec {}
        = (.ok builtinCommands, builtin)
      ∧ builtin.Serves builtinCommands
      ∧ ∀ c, builtin.Decides bindHelp builtinCommands c := by
  have hrun : (enrollAll bindHelp (builtinCommands ++ [carryCommand])).exec {}
      = (.ok builtinCommands, builtin) := by rfl
  obtain ⟨accepted, t, hexec, -, hserves, hdecides⟩ := enrollAll_serves bindHelp
    (builtinCommands ++ [carryCommand]) fun c _ => harmless_bindHelp c
  rw [hrun] at hexec
  cases hexec
  exact ⟨fun c _ => harmless_bindHelp c, hrun, hserves, hdecides⟩

/-- A command that is registered again is listed twice; the one in between leaves none of its
keys behind. -/
example :
    let go : Command := { name := "continue", description := "", aliases := ["c", "cont"] }
    let carry : Command := { name := "carry", description := "", aliases := ["on", "cont"] }
    let t := ((enrollAll bindHelp [go, carry, go]).exec {}).2
    t.commands = [go, go] ∧ t.get? "on" = none ∧ t.get? "cont" = some go := by decide

end CommandTable
end FlowTrace
