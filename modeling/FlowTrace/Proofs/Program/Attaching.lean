/-
  FlowTrace.Proofs.Program.Attaching
  ────────────────────────────────
  **ATTACHING WITH A BLOCK TABLE'S FILE.**

  A session can be told a file with a block table.  It reads the file anew whenever it
  attaches, and it means to do without a table if there is none in it.  How attaching goes
  depends on the first flaw of the file (`BlockTable.fileFlaws`):

      none           — the bridge is started with the table that was read, and keeps it
      a file problem — attaching goes as it does without a file; so it does for a text
      or a bad value   that is not JSON, and for a script line that is no number's text
      any other      — attaching fails with it, and nothing has happened

  The flaws of the last kind are those of documents with the wrong shape.

  Main result: `Session.attach_with_file`.
-/
import FlowTrace.Link.Rehearsal
import FlowTrace.Program.Folder
import FlowTrace.Proofs.Block.Flaws
import FlowTrace.Proofs.Bridge.Given
import FlowTrace.Proofs.Program.Closing

namespace FlowTrace

open Outcome

/-! ## §1. The file. -/

/-- **The flaws of a block table's file**: that it cannot be read or its text is not JSON, or
those of its document. -/
def BlockTable.fileFlaws (room : Nat) (folder : Folder) (path : String) : List Fault :=
  match (folder.read path).bind (Json.read room) with
  | .error f => [f]
  | .ok v => flaws v

theorem BlockTable.finds_file (room : Nat) (folder : Folder) (path : String) :
    Finds (fileFlaws room folder path) ((folder.read path).bind (ofText room)) := by
  have hsteps : (folder.read path).bind (ofText room)
      = ((folder.read path).bind (Json.read room)).bind ofDocument := by
    cases folder.read path <;> rfl
  rw [hsteps, fileFlaws]
  cases (folder.read path).bind (Json.read room) with
  | error f => exact .error f []
  | ok v => exact finds_ofDocument v

namespace SessionConfig

variable {c : SessionConfig} {f : Fault}

/-- The flaws in spite of which a session attaches. -/
def Overlooks (f : Fault) : Prop := (∃ problem path, f = .file problem path) ∨ f.isValue = true

theorem overlooks_nameFault? {text : String} (h : Path.nameFault? text = some f) :
    Overlooks f := by
  unfold Path.nameFault? at h
  split at h
  · obtain rfl := Option.some.inj h
    exact .inr rfl
  · split at h
    · obtain rfl := Option.some.inj h
      exact .inr rfl
    · cases h

theorem overlooks_of_find {folder : Folder} {path : String} (h : folder.find path = .error f) :
    Overlooks f := by
  unfold Folder.find at h
  split at h
  next hname =>
    obtain rfl := Except.error.inj h
    exact overlooks_nameFault? hname
  next =>
    split at h
    · obtain rfl := Except.error.inj h
      exact .inl ⟨_, _, rfl⟩
    · split at h
      · cases h
      · obtain rfl := Except.error.inj h
        exact .inl ⟨_, _, rfl⟩

/-- **A file that cannot be read is overlooked.** -/
theorem overlooks_of_read {folder : Folder} {path : String} (h : folder.read path = .error f) :
    Overlooks f := by
  unfold Folder.read at h
  cases hfind : folder.find path with
  | error g =>
    rw [hfind] at h
    obtain rfl := Except.error.inj h
    exact overlooks_of_find hfind
  | ok located =>
    rw [hfind] at h
    cases located with
    | file name => cases h
    | sink => cases h
    | directory => exact .inl ⟨_, _, (Except.error.inj h).symm⟩
    | vacant name => exact .inl ⟨_, _, (Except.error.inj h).symm⟩

theorem not_overlooks_tooDeep : ¬ Overlooks .tooDeep := by
  rintro (⟨problem, path, h⟩ | h) <;> cases h

/-- **A text that is not JSON is, too**, unless it nests too deep to be read. -/
theorem overlooks_of_json {room : Nat} {text : String} (h : Json.read room text = .error f) :
    Overlooks f ↔ f ≠ .tooDeep := by
  constructor
  · rintro hover rfl
    exact not_overlooks_tooDeep hover
  · intro hne
    unfold Json.read Json.readWithin at h
    cases hread : Json.readChars room text.toList with
    | ok v =>
      rw [hread] at h
      cases h
    | error e =>
      rw [hread] at h
      obtain rfl := Except.error.inj h
      obtain ⟨problem, left⟩ := e
      cases problem with
      | deepNesting => exact absurd rfl hne
      | _ => exact .inr rfl

/-- The settings without the file. -/
def tableless (c : SessionConfig) : SessionConfig := { c with blocks := none }

/-- The settings decide on the table first, and then on everything else. -/
theorem newBridge_eq (c : SessionConfig) : c.newBridge = c.blockTable >>= fun table =>
    c.tableless.newBridge.map fun b => { b with blocks := table } := by
  unfold newBridge
  cases c.blockTable with
  | error f => rfl
  | ok table =>
    show (c.breakpoints >>= _) = Except.map _ (c.breakpoints >>= _)
    cases c.breakpoints with
    | error f => rfl
    | ok bps =>
      show (BreakpointRegistry.ofList bps >>= _)
        = Except.map _ (BreakpointRegistry.ofList bps >>= _)
      cases BreakpointRegistry.ofList bps <;> rfl

/-- A bridge that is made without a table has none. -/
theorem newBridge_tableless (c : SessionConfig) :
    (c.tableless.newBridge.map fun b => { b with blocks := none }) = c.tableless.newBridge := by
  rw [newBridge_eq c.tableless]
  show (Except.map _ (c.tableless.newBridge.map _)) = c.tableless.newBridge.map _
  cases c.tableless.newBridge <;> rfl

variable {folder : Folder} {path : String}

theorem blockTable_read (hfile : c.blocks = some (folder.read path)) {t : BlockTable}
    (h : (folder.read path).bind (BlockTable.ofText c.limits.reading) = .ok t) :
    c.blockTable = .ok (some t) := by
  unfold blockTable
  rw [hfile]
  dsimp only
  rw [h]

theorem blockTable_overlooked (hfile : c.blocks = some (folder.read path))
    (h : (folder.read path).bind (BlockTable.ofText c.limits.reading) = .error f)
    (hover : Overlooks f) :
    c.blockTable = .ok none := by
  unfold blockTable
  rw [hfile]
  dsimp only
  rw [h]
  rcases hover with ⟨problem, name, rfl⟩ | hvalue
  · rfl
  · cases f <;> first | rfl | cases hvalue

theorem blockTable_fails (hfile : c.blocks = some (folder.read path))
    (h : (folder.read path).bind (BlockTable.ofText c.limits.reading) = .error f)
    (hover : ¬ Overlooks f) :
    c.blockTable = .error f := by
  have hvalue : f.isValue = false := by
    cases hf : f.isValue with
    | false => rfl
    | true => exact absurd (.inr hf) hover
  unfold blockTable
  rw [hfile]
  dsimp only
  rw [h]
  cases f with
  | file problem name => exact absurd (.inl ⟨_, _, rfl⟩) hover
  | _ => first | rfl | cases hvalue

end SessionConfig

/-! ## §2. Attaching. -/

namespace Session

open BlockTable (fileFlaws)
open SessionConfig (Overlooks)

variable {ε : Type} {s s' : Session ε} {folder : Folder} {path : String}

/-- The session without the file. -/
def tableless (s : Session ε) : Session ε := { s with config := s.config.tableless }

variable [Endpoint ε]

/-- What becomes of a session that starts a new bridge, if one could be made. -/
def starting (s : Session ε) : Except Fault Bridge → Except Fault Unit × Session ε
  | .error f => (.error f, s)
  | .ok b => afterStart s.bridge ((onBridge Site.start).exec { s with bridge := some b })

theorem exec_attach_eq (hleft : s.attached = false) :
    Session.attach.exec s = s.starting s.config.newBridge := by
  cases hnew : s.config.newBridge with
  | ok b => exact exec_attach hleft hnew
  | error f =>
    unfold Session.attach
    rw [Act.exec_bind_ok (Act.exec_get s), if_neg (by rw [hleft]; decide), hnew]
    exact Act.exec_bind_error (Act.exec_ofExcept _ _)

/-- The bridge is started in its site, and its events are published. -/
theorem starting_ok (s : Session ε) (b : Bridge) :
    s.starting (.ok b) = afterStart s.bridge
      ((Site.start.exec ({ bridge := b, network := s.network } : Site ε)).1,
        { s with
          bridge := some { (Site.start.exec { bridge := b, network := s.network }).2.bridge with
            calls := [] }
          network := (Site.start.exec { bridge := b, network := s.network }).2.network
          bus := publishAll s.bus
            (Site.start.exec { bridge := b, network := s.network }).2.bridge.calls }) :=
  congrArg (afterStart s.bridge) (exec_onBridge rfl Site.start)

/-- Once a bridge is made, its start asks for nothing in the settings. -/
theorem starting_config (s : Session ε) (c : SessionConfig) (made : Except Fault Bridge) :
    ({ s with config := c } : Session ε).starting made
      = ((s.starting made).1, { (s.starting made).2 with config := c }) := by
  cases made with
  | error f => rfl
  | ok b =>
    rw [starting_ok, starting_ok]
    dsimp only
    generalize Site.start.exec ({ bridge := b, network := s.network } : Site ε) = run
    obtain ⟨result, s₁⟩ := run
    cases result with
    | ok u => rfl
    | error f =>
      unfold afterStart neverConnected
      dsimp only
      split <;> rfl

/-- An attached session's bridge has the table that it was made with. -/
theorem blocks_of_starting {made : Except Fault Bridge} {table : Option BlockTable}
    (h : s.starting (made.map fun b => { b with blocks := table }) = (.ok (), s')) :
    ∃ b, s'.bridge = some b ∧ b.blocks = table := by
  cases made with
  | error f => cases congrArg Prod.fst h
  | ok b =>
    have hkept : Site.Given table (Site.start.exec
        ({ bridge := { b with blocks := table }, network := s.network } : Site ε)).2 :=
      Site.given_start _ rfl
    rw [Except.map, starting_ok] at h
    generalize Site.start.exec
      ({ bridge := { b with blocks := table }, network := s.network } : Site ε) = run at h hkept
    obtain ⟨result, s₁⟩ := run
    cases result with
    | error f => cases congrArg Prod.fst h
    | ok u =>
      obtain ⟨-, rfl⟩ := Prod.mk.inj h
      exact ⟨_, rfl, hkept⟩

/-- **How a session attaches that was told a file with a block table.** -/
structure AttachesWith (s : Session ε) (folder : Folder) (path : String) : Prop where
  /-- Without a flaw the file has a table; the bridge is made and started with it, and has it
  once the session is attached. -/
  used : fileFlaws s.config.limits.reading folder path = [] →
    ∃ t, (folder.read path).bind (BlockTable.ofText s.config.limits.reading) = .ok t ∧
      Session.attach.exec s = s.starting
        (s.config.tableless.newBridge.map fun b => { b with blocks := some t }) ∧
      ∀ s', Session.attach.exec s = (.ok (), s') → ∃ b, s'.bridge = some b ∧ b.blocks = some t
  /-- If the first flaw is overlooked, attaching goes as it does without the file. -/
  overlooked : ∀ f rest, fileFlaws s.config.limits.reading folder path = f :: rest → Overlooks f →
    Session.attach.exec s = ((Session.attach.exec s.tableless).1,
      { (Session.attach.exec s.tableless).2 with config := s.config })
  /-- Otherwise it fails with that flaw, and the session is as it was. -/
  fails : ∀ f rest, fileFlaws s.config.limits.reading folder path = f :: rest → ¬ Overlooks f →
    Session.attach.exec s = (.error f, s)
  /-- A file that cannot be read is overlooked, and so is a text that is not JSON, unless it
  nests too deep. -/
  unread : ∀ f, (folder.read path).bind (Json.read s.config.limits.reading) = .error f →
    fileFlaws s.config.limits.reading folder path = [f] ∧ (Overlooks f ↔ f ≠ .tooDeep)

/-- **Attaching with a block table's file.**  It takes a file that can be read, and JSON of the
wrong shape in it, to prevent attaching. -/
theorem attach_with_file (hleft : s.attached = false)
    (hfile : s.config.blocks = some (folder.read path)) : s.AttachesWith folder path := by
  have hfinds := BlockTable.finds_file s.config.limits.reading folder path
  constructor
  case used =>
    intro hnone
    obtain ⟨t, ht⟩ := hfinds.exists_ok_iff.mpr hnone
    have hattach : Session.attach.exec s = s.starting
        (s.config.tableless.newBridge.map fun b => { b with blocks := some t }) := by
      rw [exec_attach_eq hleft, SessionConfig.newBridge_eq, SessionConfig.blockTable_read hfile ht]
      rfl
    refine ⟨t, ht, hattach, fun s' hs' => ?_⟩
    rw [hattach] at hs'
    exact blocks_of_starting hs'
  case overlooked =>
    intro f rest hfirst hover
    rw [hfirst] at hfinds
    -- the bridge is new with the same parts as without the file
    have hnew : s.config.newBridge = s.config.tableless.newBridge := by
      rw [SessionConfig.newBridge_eq,
        SessionConfig.blockTable_overlooked hfile hfinds.eq_error hover]
      exact SessionConfig.newBridge_tableless s.config
    rw [exec_attach_eq hleft, exec_attach_eq (s := s.tableless) hleft, hnew]
    exact starting_config s.tableless s.config _
  case fails =>
    intro f rest hfirst hover
    rw [hfirst] at hfinds
    rw [exec_attach_eq hleft, SessionConfig.newBridge_eq,
      SessionConfig.blockTable_fails hfile hfinds.eq_error hover]
    rfl
  case unread =>
    intro f hread
    refine ⟨by rw [BlockTable.fileFlaws, hread], ?_⟩
    cases htext : folder.read path with
    | error g =>
      rw [htext] at hread
      obtain rfl := Except.error.inj hread
      -- what the folder cannot read is never a text that nests too deep
      have hover := SessionConfig.overlooks_of_read htext
      refine iff_of_true hover fun hdeep => ?_
      rw [hdeep] at hover
      exact SessionConfig.not_overlooks_tooDeep hover
    | ok text =>
      rw [htext] at hread
      exact SessionConfig.overlooks_of_json hread

/-- A folder with a block table's file. -/
def tableFolder (text : String) : Folder := { files := [("blocks.json", text)] }

/-- A session of a rehearsed host that is told the file. -/
def told (text : String) : Session RehearsedHost :=
  { config := { blocks := some ((tableFolder text).read "blocks.json") }
    network := { endpoint := {} } }

/-- A document with one entry. -/
def oneEntry : String := "\x7b\"blocks\": [\x7b\"scriptLine\": 2\x7d]\x7d"

theorem exec_told (text : String)
    (h : (Session.attach.exec (told text)).1.toOption = some ()) :
    Session.attach.exec (told text) = (.ok (), (Session.attach.exec (told text)).2) := by
  refine Prod.ext ?_ rfl
  cases hr : (Session.attach.exec (told text)).1 with
  | ok u => rfl
  | error f =>
    rw [hr] at h
    cases h

/-- A table with one entry is used. -/
theorem attach_with_file_told :
    ((told oneEntry).attached = false ∧
      (told oneEntry).config.blocks = some ((tableFolder oneEntry).read "blocks.json")) ∧
      ∃ b t s', Session.attach.exec (told oneEntry) = (.ok (), s') ∧
        s'.bridge = some b ∧ b.blocks = some t := by
  have h : (told oneEntry).AttachesWith (tableFolder oneEntry) "blocks.json" :=
    attach_with_file rfl rfl
  have hnone : fileFlaws (told oneEntry).config.limits.reading (tableFolder oneEntry)
      "blocks.json" = [] := List.isEmpty_iff.mp (by decide +kernel)
  obtain ⟨t, -, -, hkept⟩ := h.used hnone
  have hattached := exec_told oneEntry (by decide +kernel)
  obtain ⟨b, hbridge, htable⟩ := hkept _ hattached
  exact ⟨⟨rfl, rfl⟩, b, t, _, hattached, hbridge, htable⟩

/-- **A file with an empty list prevents attaching**, although without the file the session
attaches. -/
theorem empty_list_prevents_attaching :
    ∃ text, (Session.attach.exec (told text).tableless).1 = .ok () ∧
      ∀ u, (Session.attach.exec (told text)).1 ≠ .ok u := by
  refine ⟨"[]", rfl, fun u hu => ?_⟩
  have hfails : (Session.attach.exec (told "[]")).1.toOption = none := by decide +kernel
  rw [hu] at hfails
  cases hfails

end Session
end FlowTrace
