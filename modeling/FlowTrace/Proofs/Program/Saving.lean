/-
  FlowTrace.Proofs.Program.Saving
  ────────────────────────────────
  **A TEXT THAT WAS SAVED IS READ BACK.**

  A path leads through directories to a file, or to a place where a file may be created.
  Saving a text puts it there, and the path leads to it from then on: no directory on the
  way is lost, and the new file is no directory itself, because a name has no slash in it
  and so a file lies no deeper than its path is long.

      saved    — the file holds the text, and reading it gives the text with its line
                 ends unified
      refused  — a text with a lone half leaves the file empty

  Main results: `Folder.LeadsTo.exec_save`, `Folder.LeadsTo.read_stored`.
-/
import FlowTrace.Block.File
import FlowTrace.Proofs.Act
import FlowTrace.Proofs.Json.Fields
import FlowTrace.Proofs.Outcome
import Mathlib.Data.List.Basic

namespace FlowTrace

/-! ## §1. Names of a path. -/

namespace Path

/-- A name as it stands between the slashes of a path. -/
def IsName (n : String) : Prop := n ≠ "" ∧ '/' ∉ n.toList

/-- Names, the first of which may be the root. -/
def IsTrail : List String → Prop
  | [] => True
  | n :: ns => (n = "/" ∨ IsName n) ∧ ∀ m ∈ ns, IsName m

variable {n : String} {ns rest here : List String} {cs : List Char}

theorem length_splitSlashes (cs : List Char) : (splitSlashes cs).length = cs.count '/' + 1 := by
  induction cs with
  | nil => rfl
  | cons c cs ih =>
    unfold splitSlashes
    by_cases hc : c = '/'
    · subst hc
      rw [if_pos rfl, List.length_cons, ih, List.count_cons_self]
    · rw [if_neg hc, List.count_cons_of_ne hc]
      cases hsplit : splitSlashes cs with
      | nil =>
        rw [hsplit] at ih
        cases ih
      | cons name names =>
        rw [hsplit] at ih
        exact ih

theorem not_mem_of_mem_splitSlashes {piece : List Char} (h : piece ∈ splitSlashes cs) :
    '/' ∉ piece := by
  induction cs generalizing piece with
  | nil =>
    rw [List.mem_singleton.mp h]
    exact List.not_mem_nil
  | cons c cs ih =>
    unfold splitSlashes at h
    by_cases hc : c = '/'
    · rw [if_pos hc] at h
      rcases List.mem_cons.mp h with rfl | h
      · exact List.not_mem_nil
      · exact ih h
    · rw [if_neg hc] at h
      cases hsplit : splitSlashes cs with
      | nil =>
        rw [hsplit] at h
        rw [List.mem_singleton.mp h]
        simpa using Ne.symm hc
      | cons name names =>
        rw [hsplit] at h ih
        rcases List.mem_cons.mp h with rfl | h
        · have hname := ih List.mem_cons_self
          simpa [hname] using Ne.symm hc
        · exact ih (List.mem_cons_of_mem _ h)

theorem isName_of_mem_steps {path : String} (h : n ∈ steps path) : IsName n := by
  obtain ⟨hmem, hkept⟩ := List.mem_filter.mp h
  obtain ⟨piece, hpiece, rfl⟩ := List.mem_map.mp hmem
  refine ⟨?_, ?_⟩
  · rintro hempty
    simp [hempty] at hkept
  · rw [String.toList_ofList]
    exact not_mem_of_mem_splitSlashes hpiece

theorem isTrail_of_forall (h : ∀ n ∈ ns, IsName n) : IsTrail ns := by
  cases ns with
  | nil => trivial
  | cons n ns => exact ⟨.inr (h n List.mem_cons_self), fun m hm => h m (List.mem_cons_of_mem n hm)⟩

theorem isTrail_names (path : String) : IsTrail (names path) := by
  have hsteps : ∀ n ∈ steps path, IsName n := fun n => isName_of_mem_steps
  unfold names
  split
  · exact isTrail_of_forall hsteps
  · exact ⟨.inl rfl, hsteps⟩

/-- Going up leaves names. -/
theorem isTrail_above (h : IsTrail (here ++ ".." :: rest)) : IsTrail (above here ++ rest) := by
  unfold above
  cases here with
  | nil => exact h
  | cons n ns =>
    obtain ⟨hn, hns⟩ := h
    have hrest : ∀ m ∈ rest, IsName m :=
      fun m hm => hns m (List.mem_append_right _ (List.mem_cons_of_mem _ hm))
    split
    · next hroot =>
      obtain ⟨rfl, rfl⟩ := List.cons.inj hroot
      exact ⟨.inl rfl, hrest⟩
    · split
      · rw [List.append_assoc]
        exact ⟨hn, hns⟩
      · cases ns with
        | nil => exact isTrail_of_forall hrest
        | cons m ms =>
          refine ⟨hn, fun x hx => ?_⟩
          rcases List.mem_append.mp hx with hx | hx
          · exact hns x (List.mem_append_left _ (List.dropLast_subset _ hx))
          · exact hrest x hx

/-! ## §2. How deep a path leads. -/

theorem count_intercalate (h : ∀ n ∈ ns, IsName n) :
    (String.intercalate "/" ns).toList.count '/' = ns.length - 1 := by
  rw [String.toList_intercalate]
  induction ns with
  | nil => rfl
  | cons n ns ih =>
    have hn : n.toList.count '/' = 0 := List.count_eq_zero.mpr (h n List.mem_cons_self).2
    have hrest := ih fun m hm => h m (List.mem_cons_of_mem n hm)
    cases ns with
    | nil => simpa using hn
    | cons m ms =>
      rw [List.map_cons, List.intercalate_cons_of_ne_nil (by simp), List.count_append,
        List.count_append, hn, hrest]
      simp
      omega

theorem length_steps_intercalate (h : ∀ n ∈ ns, IsName n) (hne : ns ≠ []) :
    (steps (String.intercalate "/" ns)).length ≤ ns.length := by
  have hlen := length_splitSlashes (String.intercalate "/" ns).toList
  have hpos := List.length_pos_iff.mpr hne
  rw [count_intercalate h] at hlen
  refine Nat.le_trans (List.length_filter_le _ _) ?_
  rw [List.length_map, hlen]
  omega

/-- The text of names begins with the first of them, so no slash leads. -/
theorem root_intercalate (hn : IsName n) (rest : List String) :
    root (String.intercalate "/" (n :: rest)) = "" := by
  obtain ⟨hempty, hslash⟩ := hn
  cases hlist : n.toList with
  | nil => exact absurd (String.toList_eq_nil_iff.mp hlist) hempty
  | cons c cs =>
    have hc : c ≠ '/' := fun hc => hslash (by simp [hlist, hc])
    have hfirst : ∃ more, (String.intercalate "/" (n :: rest)).toList = c :: more := by
      rw [String.toList_intercalate, List.map_cons, hlist]
      cases rest with
      | nil => exact ⟨_, rfl⟩
      | cons m ms => exact ⟨_, List.intercalate_cons_of_ne_nil (by simp)⟩
    obtain ⟨more, hmore⟩ := hfirst
    unfold root
    rw [hmore, List.takeWhile_cons_of_neg (by simpa using hc)]
    rfl

/-- **A path has no more names than it was joined of.** -/
theorem length_names_join (h : IsTrail ns) (hne : ns ≠ []) :
    (names (join ns)).length ≤ ns.length := by
  cases ns with
  | nil => exact absurd rfl hne
  | cons n rest =>
    obtain ⟨hn, hrest⟩ := h
    by_cases hroot : n = "/"
    · subst hroot
      have htext : (join ("/" :: rest)).toList
          = '/' :: (String.intercalate "/" rest).toList := by
        show ("/" ++ String.intercalate "/" rest).toList = _
        rw [String.toList_append]
        rfl
      have hsteps : steps (join ("/" :: rest)) = steps (String.intercalate "/" rest) := by
        unfold steps
        rw [htext, splitSlashes, if_pos rfl]
        simp
      have hlen : (steps (join ("/" :: rest))).length ≤ rest.length := by
        rw [hsteps]
        cases rest with
        | nil => simp [steps, splitSlashes]
        | cons m ms => exact length_steps_intercalate hrest (by simp)
      unfold names
      split
      · exact Nat.le_succ_of_le hlen
      · exact Nat.succ_le_succ hlen
    · have hnames : ∀ m ∈ n :: rest, IsName m :=
        List.forall_mem_cons.mpr ⟨hn.resolve_left hroot, hrest⟩
      have hjoin : join (n :: rest) = String.intercalate "/" (n :: rest) := by
        unfold join
        split
        · next heq => exact absurd (List.cons.inj heq).1 hroot
        · rfl
      unfold names
      rw [hjoin, if_pos (root_intercalate (hn.resolve_left hroot) rest)]
      exact length_steps_intercalate hnames (by simp)

end Path

/-! ## §3. Files that are stored. -/

namespace Folder

/-- The path leads to a file with that name, there or not yet. -/
def LeadsTo (f : Folder) (path name : String) : Prop :=
  f.find path = .ok (.file name) ∨ f.find path = .ok (.vacant name)

/-- The folder with a text in a file. -/
def stored (f : Folder) (name text : String) : Folder :=
  { f with files := Fields.put name text f.files }

variable {f : Folder} {path name text : String}

theorem text?_stored (f : Folder) (name name' text : String) :
    (f.stored name text).text? name' = if name = name' then some text else f.text? name' :=
  Fields.get?_put name name' text f.files

theorem hasDirectory_iff {names : List String} :
    f.hasDirectory names = true ↔ systemDirectories.contains names = true
      ∨ f.directories.contains names = true
      ∨ ∃ key ∈ Fields.keys f.files,
          names.isPrefixOf (Path.names key) = true ∧ names.length < (Path.names key).length := by
  simp only [hasDirectory, Bool.or_eq_true, or_assoc, List.any_eq_true, Bool.and_eq_true,
    decide_eq_true_eq, Fields.keys, List.mem_map, exists_exists_and_eq_and]

/-- A file that is stored is in no directory but those in which it lies. -/
theorem hasDirectory_stored {there : List String}
    (h : (Path.names name).length ≤ there.length ∨ f.hasDirectory there = true) :
    (f.stored name text).hasDirectory there = f.hasDirectory there := by
  have hkeys : ∀ key, key ∈ Fields.keys (f.stored name text).files
      ↔ key = name ∨ key ∈ Fields.keys f.files := fun key => Fields.mem_keys_put
  rw [Bool.eq_iff_iff]
  constructor
  · intro hdir
    rcases h with hshort | hdir'
    · rcases hasDirectory_iff.mp hdir with hsystem | hlisted | ⟨key, hkey, hprefix, hlong⟩
      · exact hasDirectory_iff.mpr (.inl hsystem)
      · exact hasDirectory_iff.mpr (.inr (.inl hlisted))
      · rcases (hkeys key).mp hkey with rfl | hkey
        · omega
        · exact hasDirectory_iff.mpr (.inr (.inr ⟨key, hkey, hprefix, hlong⟩))
    · exact hdir'
  · intro hdir
    rcases hasDirectory_iff.mp hdir with hsystem | hlisted | ⟨key, hkey, hrest⟩
    · exact hasDirectory_iff.mpr (.inl hsystem)
    · exact hasDirectory_iff.mpr (.inr (.inl hlisted))
    · exact hasDirectory_iff.mpr (.inr (.inr ⟨key, (hkeys key).mpr (.inr hkey), hrest⟩))

/-- From a directory the names arrive at a file with that path, there or not yet. -/
def Arrives (f : Folder) (name : String) (here names : List String) : Prop :=
  f.locate here names = .ok (.file name) ∨ f.locate here names = .ok (.vacant name)

/-- The first of the names that arrive at a file: it leads up, or down into a directory, or it
is the name of the file. -/
inductive Arrival (f : Folder) (name : String) (here : List String) (n : String)
    (rest : List String) : Prop
  | up (hup : n = "..") (h : f.Arrives name (Path.above here) rest)
  | down (hplain : n ≠ "..") (hshort : ¬ Path.nameLimit < Path.byteCount n)
      (hdir : f.hasDirectory (here ++ [n]) = true) (h : f.Arrives name (here ++ [n]) rest)
  | last (hplain : n ≠ "..") (hshort : ¬ Path.nameLimit < Path.byteCount n)
      (hdir : ¬ f.hasDirectory (here ++ [n]) = true) (hrest : rest = [])
      (hnull : here ++ [n] ≠ nullDevice) (hname : name = Path.join (here ++ [n]))

theorem Arrives.arrival {n : String} {here rest : List String}
    (h : f.Arrives name here (n :: rest)) : f.Arrival name here n rest := by
  unfold Arrives locate at h
  dsimp only at h
  by_cases hup : n = ".."
  · rw [if_pos hup] at h
    exact .up hup h
  rw [if_neg hup] at h
  by_cases hlong : Path.nameLimit < Path.byteCount n
  · rw [if_pos hlong] at h
    rcases h with h | h <;> cases h
  rw [if_neg hlong] at h
  by_cases hdir : f.hasDirectory (here ++ [n]) = true
  · rw [if_pos hdir] at h
    exact .down hup hlong hdir h
  rw [if_neg hdir] at h
  cases rest with
  | cons m ms => split at h <;> rcases h with h | h <;> cases h
  | nil =>
    by_cases hnull : here ++ [n] = nullDevice
    · rw [if_pos (.inl hnull), if_neg (by simp), if_pos hnull] at h
      rcases h with h | h <;> cases h
    · refine .last hup hlong hdir rfl hnull ?_
      simp only [List.isEmpty_nil, Bool.not_true, Bool.false_eq_true, if_false, if_neg hnull,
        if_true] at h
      split at h <;> rcases h with h | h <;> cases h <;> rfl

/-- **The names that arrive at a file, there or not yet, arrive at the one that is stored
there.**  Induction on the names, from any directory on. -/
theorem Arrives.locate_stored {here names : List String} (htrail : Path.IsTrail (here ++ names))
    (h : f.Arrives name here names) :
    (f.stored name text).locate here names = .ok (.file name) := by
  induction names generalizing here with
  | nil => rcases h with h | h <;> cases h
  | cons n rest ih =>
    have hthere : Path.IsTrail ((here ++ [n]) ++ rest) := by
      rwa [List.append_assoc, List.singleton_append]
    unfold locate
    dsimp only
    cases h.arrival with
    | up hup h =>
      subst hup
      rw [if_pos rfl]
      exact ih (Path.isTrail_above htrail) h
    | down hplain hshort hdir h =>
      rw [if_neg hplain, if_neg hshort, hasDirectory_stored (.inr hdir), if_pos hdir]
      exact ih hthere h
    | last hplain hshort hdir hrest hnull hname =>
      subst hrest hname
      -- a file lies no deeper than its path is long, so it is no directory on its own way
      have hlow : (Path.names (Path.join (here ++ [n]))).length ≤ (here ++ [n]).length :=
        Path.length_names_join (by rwa [List.append_nil] at hthere) (by simp)
      have hfound : ((f.stored (Path.join (here ++ [n])) text).text?
          (Path.join (here ++ [n]))).isSome = true := by
        rw [text?_stored, if_pos rfl]
        rfl
      rw [if_neg hplain, if_neg hshort, hasDirectory_stored (.inl hlow), if_neg hdir,
        if_pos (.inr hfound), if_neg (by simp), if_neg hnull]

/-- **A path that led to a file, there or not yet, leads to it when it is stored.** -/
theorem LeadsTo.find_stored (h : f.LeadsTo path name) (text : String) :
    (f.stored name text).find path = .ok (.file name) := by
  unfold LeadsTo find at h
  unfold find
  split at h
  · rcases h with h | h <;> cases h
  · split at h
    · rcases h with h | h <;> cases h
    · next hname hpath =>
      have hlocate : f.Arrives name [] (Path.names path) := by
        unfold Arrives
        cases hfound : f.locate [] (Path.names path) with
        | error problem =>
          rw [hfound] at h
          rcases h with h | h <;> cases h
        | ok located =>
          rw [hfound] at h
          simpa using h
      rw [if_neg hpath, hlocate.locate_stored (Path.isTrail_names path)]

theorem LeadsTo.write (h : f.LeadsTo path name) (text : String) :
    f.write path text = .ok (f.stored name text) := by
  unfold Folder.write
  rcases h with h | h <;> rw [h] <;> rfl

/-- **A stored text is read**, with its line ends unified. -/
theorem LeadsTo.read_stored (h : f.LeadsTo path name) (text : String) :
    (f.stored name text).read path = .ok (String.ofList (unifyNewlines text.toList)) := by
  unfold read
  rw [h.find_stored text]
  simp only [bind, Except.bind, text?_stored, if_true, Option.getD_some]
  rfl

/-- **A file is saved with its text, and left empty if no file can hold the text.** -/
theorem LeadsTo.exec_save (h : f.LeadsTo path name) (text : String) :
    (save path text).exec f =
      if CodePoint.hasHalf text then (.error .unwritable, f.stored name "")
      else (.ok (), f.stored name text) := by
  unfold save
  rw [Act.exec_bind_ok (Act.exec_get f)]
  cases hhalf : CodePoint.hasHalf text with
  | true =>
    simp only [if_true]
    rw [h.write ""]
    rfl
  | false =>
    simp only [Bool.false_eq_true, if_false]
    rw [h.write text]
    rfl

/-- **How the writing of a table ends.** -/
theorem LeadsTo.exec_writeTable (h : f.LeadsTo path name) (room : Nat) (t : BlockTable) :
    (t.write room path).exec f =
      match t.toText room with
      | .error fault => (.error fault, f)
      | .ok text =>
          if CodePoint.hasHalf text then (.error .unwritable, f.stored name "")
          else (.ok (), f.stored name text) := by
  unfold BlockTable.write
  cases htext : t.toText room with
  | error fault => exact Act.exec_bind_error (Act.exec_ofExcept _ _)
  | ok text => exact (Act.exec_bind_ok (Act.exec_ofExcept _ _)).trans (h.exec_save text)

end Folder
end FlowTrace
