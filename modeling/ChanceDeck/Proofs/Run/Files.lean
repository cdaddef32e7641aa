import ChanceDeck.Run.Files
import Mathlib.Data.List.Basic

/-!
# Files before and after a change

Making folders adds folders and leaves what is there (`grown_makeFolders`). Writing a file puts it at
one place, which was no folder, and leaves all other places alone. `Saved` puts the two together:
what saving a file in a folder that may have to be made leaves behind.

A path leads to one place whether it begins at the working folder or at the root
(`find_path_working`), also by way of the folder around the working folder (`find_back`). It leads
where it led as long as the folders on its way are kept (`find_of_keepsFolders`), so that a file that
was saved is read back after other files were saved, unless one of them went to the same place.
-/

set_option autoImplicit false
set_option relaxedAutoImplicit false

namespace ChanceDeck.FileTree

variable {tree before middle after : FileTree} {location other : Location} {entry : FileEntry}

/-! ### Places -/

theorem entry?_set_self (h : tree.entry? location ≠ some .folder) (entry : FileEntry) :
    entry? (tree.set location entry) location = some entry := by
  have hplace : ¬location <+: tree.working := fun hplace ↦ h (if_pos hplace)
  unfold entry? set
  rw [if_neg hplace, List.find?_cons_of_pos (by simp)]
  rfl

theorem entry?_set_of_ne (h : other ≠ location) (entry : FileEntry) :
    entry? (tree.set location entry) other = tree.entry? other := by
  -- Nothing that the change takes out is at the other place.
  have hagree (place : Location × FileEntry) :
      (place.1 ≠ location ∧ place.1 = other) ↔ place.1 = other :=
    ⟨And.right, fun hplace ↦ ⟨hplace ▸ h, hplace⟩⟩
  unfold entry? set
  rw [List.find?_cons_of_neg (by simpa using h.symm), List.find?_filter]
  simp only [decide_eq_true_eq, hagree]

/-! ### Making folders -/

/-- A place holds what it held, or a folder where nothing was. -/
def SameOrFolder (before after : FileTree) (location : Location) : Prop :=
  after.entry? location = before.entry? location ∨
    before.entry? location = none ∧ after.entry? location = some .folder

/-- Nothing changed but for new folders. -/
structure Grown (before after : FileTree) : Prop where
  working : after.working = before.working
  places : ∀ location, SameOrFolder before after location

theorem SameOrFolder.trans (hfirst : SameOrFolder before middle location)
    (hlast : SameOrFolder middle after location) : SameOrFolder before after location := by
  rcases hfirst with hsame | ⟨hnone, hfolder⟩
  · rw [SameOrFolder, ← hsame]
    exact hlast
  · rcases hlast with hsame | ⟨hmiddle, -⟩
    · exact Or.inr ⟨hnone, hsame.trans hfolder⟩
    · simp [hfolder] at hmiddle

theorem SameOrFolder.keeps (h : SameOrFolder before after location)
    (hentry : before.entry? location = some entry) : after.entry? location = some entry := by
  rcases h with hsame | ⟨hnone, -⟩
  · exact hsame.trans hentry
  · simp [hentry] at hnone

theorem Grown.refl (tree : FileTree) : Grown tree tree :=
  ⟨rfl, fun _ ↦ Or.inl rfl⟩

theorem Grown.trans (hfirst : Grown before middle) (hlast : Grown middle after) :
    Grown before after :=
  ⟨hlast.working.trans hfirst.working,
    fun location ↦ (hfirst.places location).trans (hlast.places location)⟩

theorem grown_makeFolder {folder : Location} {parts : List Bytes}
    (h : before.makeFolder folder parts = .ok after) : Grown before after := by
  rw [makeFolder] at h
  cases hlocate : before.locate folder parts with
  | error e => simp [hlocate] at h
  | ok location =>
    cases hentry : before.entry? location with
    | some entry => simp [hlocate, hentry] at h
    | none =>
      have hset : before.set location .folder = after := by simpa [hlocate, hentry] using h
      subst hset
      refine ⟨rfl, fun other ↦ ?_⟩
      by_cases hother : other = location
      · subst hother
        exact Or.inr ⟨hentry, entry?_set_self (by simp [hentry]) .folder⟩
      · exact Or.inl (entry?_set_of_ne hother .folder)

theorem grown_ensureFolder {folder : Location} {parts : List Bytes}
    (h : before.ensureFolder folder parts = .ok after) : Grown before after := by
  rw [ensureFolder] at h
  cases hmake : before.makeFolder folder parts with
  | ok made =>
    obtain rfl : made = after := by simpa [hmake] using h
    exact grown_makeFolder hmake
  | error e =>
    cases hfolder : before.isFolder folder parts with
    | false => simp [hmake, hfolder] at h
    | true =>
      obtain rfl : before = after := by simpa [hmake, hfolder] using h
      exact .refl before

/-- Folders on the way are made first, and stay if a later one cannot be made. -/
theorem grown_ensureAll (folder : Location) (parts : List Bytes) :
    Grown tree (tree.ensureAll folder parts).2 := by
  induction parts with
  | nil => exact .refl tree
  | cons last before ih =>
    rw [ensureAll]
    split
    · rename_i made hmade
      exact grown_ensureFolder hmade
    · split
      · rename_i made hbefore
        exact hbefore ▸ ih
      · rename_i made hbefore
        have hmade : Grown tree made := by simpa [hbefore] using ih
        split
        · rename_i whole hwhole
          exact hmade.trans (grown_ensureFolder hwhole)
        · exact hmade
    · exact .refl tree

theorem grown_makeFolders (tree : FileTree) (path : RawText) :
    Grown tree (tree.makeFolders path).2 := by
  rw [makeFolders]
  split_ifs
  · exact .refl tree
  · exact grown_ensureAll _ _

/-! ### Paths -/

/-- Folders stay folders, and paths lead on from where they did. -/
structure KeepsFolders (before after : FileTree) : Prop where
  working : after.working = before.working
  folders : ∀ location, before.entry? location = some .folder →
    after.entry? location = some .folder

theorem locate_of_keepsFolders (hkeeps : KeepsFolders before after) {folder : Location}
    {parts : List Bytes} (h : before.locate folder parts = .ok location) :
    after.locate folder parts = .ok location := by
  induction parts generalizing folder with
  | nil => exact h
  | cons part rest ih =>
    simp only [locate] at h ⊢
    split_ifs at h ⊢ with hpoint hpoints hrest
    · exact ih h
    · exact ih h
    · exact h
    · cases hentry : before.entry? (folder ++ [part]) with
      | none => simp [hentry] at h
      | some entry =>
        cases entry with
        | file bytes => simp [hentry] at h
        | folder =>
          rw [hkeeps.folders _ hentry]
          exact ih (by simpa [hentry] using h)

/-- A path leads where it led as long as the folders on its way stay. -/
theorem find_of_keepsFolders (hkeeps : KeepsFolders before after) {path : RawText}
    (h : before.find path = .ok location) : after.find path = .ok location := by
  have horigin : after.origin path = before.origin path := by
    rw [origin, origin, hkeeps.working]
  rw [find] at h ⊢
  split_ifs at h ⊢ with hzero hpath
  rw [horigin]
  exact locate_of_keepsFolders hkeeps h

theorem ne_nil_of_read {path : RawText} {bytes : Bytes} (h : tree.read path = .ok bytes) :
    path.bytes ≠ [] := by
  intro hpath
  simp [read, find, hpath] at h

/-! ### Paths from the root and back -/

/-- Names that a path can spell and that lead on from a folder. -/
def Spellable (names : Location) : Prop :=
  ∀ name ∈ names, name ≠ [] ∧ slash ∉ name ∧ 0 ∉ name ∧ name ≠ [point] ∧ name ≠ [point, point]

theorem parts_slash (path : Bytes) : parts ⟨slash :: path⟩ = parts ⟨path⟩ := by
  have hsplit : (slash :: path).splitOn slash = [] :: path.splitOn slash :=
    List.splitOn_append_cons_self [] path
  simp only [parts, hsplit, List.filter_cons]
  rfl

theorem parts_name {name : Bytes} (hname : name ≠ []) (hslash : slash ∉ name) (path : Bytes) :
    parts ⟨name ++ slash :: path⟩ = name :: parts ⟨path⟩ := by
  simp only [parts, List.splitOn_append_cons_self_of_not_mem hslash, List.filter_cons, hname,
    ne_eq, not_false_eq_true, decide_true, if_true]

/-- The parts of a path from the root are the names of the folder and the parts after them. -/
theorem parts_path {names : Location} (hnames : Spellable names) (path : Bytes) :
    parts (names.path path) = names ++ parts ⟨path⟩ := by
  induction names with
  | nil => exact parts_slash path
  | cons name names ih =>
    obtain ⟨⟨hname, hslash, -⟩, hrest⟩ := List.forall_mem_cons.mp hnames
    obtain ⟨tail, htail⟩ : ∃ tail, (Location.path names path).bytes = slash :: tail := by
      cases names <;> exact ⟨_, rfl⟩
    have hpath : Location.path (name :: names) path = ⟨slash :: (name ++ slash :: tail)⟩ := by
      rw [← htail]
      simp only [Location.path, List.flatMap_cons, List.cons_append, List.append_assoc]
    have hparts := ih hrest
    rw [show Location.path names path = ⟨slash :: tail⟩ from congrArg RawText.mk htail,
      parts_slash] at hparts
    rw [hpath, parts_slash, parts_name hname hslash, hparts, List.cons_append]

/-- Names of folders that are there lead from one to the next. -/
theorem locate_append (tree : FileTree) (folder : Location) {names : Location}
    (hnames : Spellable names) (hfolders : ∀ before, before <+: names → before ≠ [] →
      tree.entry? (folder ++ before) = some .folder) (parts : List Bytes) :
    tree.locate folder (names ++ parts) = tree.locate (folder ++ names) parts := by
  induction names generalizing folder with
  | nil => rw [List.nil_append, List.append_nil]
  | cons name names ih =>
    obtain ⟨⟨-, -, -, hpoint, hpoints⟩, hrest⟩ := List.forall_mem_cons.mp hnames
    have hentry : tree.entry? (folder ++ [name]) = some .folder :=
      hfolders [name] ⟨names, rfl⟩ (List.cons_ne_nil _ _)
    have hnext := ih (folder ++ [name]) hrest fun before hbefore hne ↦ by
      rw [List.append_assoc]
      exact hfolders _ ((List.prefix_cons_inj name).mpr hbefore) (List.cons_ne_nil _ _)
    rw [List.append_assoc, List.singleton_append] at hnext
    rw [← hnext, List.cons_append, locate, if_neg hpoint, if_neg hpoints]
    simp only [hentry]
    split_ifs with hlast
    · rw [hlast]
      rfl
    · rfl

theorem entry?_working (names : Location) (h : names <+: tree.working) :
    tree.entry? names = some .folder :=
  if_pos h

/-- A path leads to one place whether it begins at the working folder or at the root. -/
theorem find_path_working (hworking : Spellable tree.working) {path : Bytes} (hpath : path ≠ [])
    (hrelative : path.head? ≠ some slash) :
    tree.find (tree.working.path path) = tree.find ⟨path⟩ := by
  have hzero : 0 ∈ (tree.working.path path).bytes ↔ 0 ∈ path := by
    have hnames : 0 ∉ tree.working.flatMap (slash :: ·) := by
      simp only [List.mem_flatMap, List.mem_cons, not_exists, not_and, not_or]
      exact fun name hname ↦ ⟨by decide, (hworking name hname).2.2.1⟩
    have hslash : (0 : UInt8) ≠ slash := by decide
    simp only [Location.path, List.mem_append, hnames, List.mem_cons, hslash, false_or]
  have hroot : tree.origin (tree.working.path path) = [] := by
    have hhead : (tree.working.path path).bytes.head? = some slash := by
      unfold Location.path
      cases tree.working <;> rfl
    exact if_pos hhead
  have hhere : tree.origin ⟨path⟩ = tree.working := if_neg hrelative
  have hnonempty : (tree.working.path path).bytes ≠ [] := by simp [Location.path]
  have hlocate := locate_append tree [] hworking
    (fun before hbefore _ ↦ entry?_working before hbefore) (parts ⟨path⟩)
  rw [find, find, hroot, hhere, parts_path hworking, hlocate, List.nil_append]
  simp only [hzero, hnonempty, hpath, if_false]

/-- Out of the working folder and back into it, a path leads where it leads from there. -/
theorem find_back {outer : Location} {name path : Bytes} (hworking : tree.working = outer ++ [name])
    (hname : Spellable [name]) (hpath : path ≠ []) (hrelative : path.head? ≠ some slash) :
    tree.find ⟨[point, point] ++ slash :: (name ++ slash :: path)⟩ = tree.find ⟨path⟩ := by
  obtain ⟨⟨hne, hslash, hzero, -⟩, -⟩ := List.forall_mem_cons.mp hname
  have hbytes : 0 ∈ [point, point] ++ slash :: (name ++ slash :: path) ↔ 0 ∈ path := by
    have hpoint : (0 : UInt8) ≠ point := by decide
    have hseparator : (0 : UInt8) ≠ slash := by decide
    simp [hpoint, hseparator, hzero]
  have hparts : parts ⟨[point, point] ++ slash :: (name ++ slash :: path)⟩ =
      [point, point] :: ([name] ++ parts ⟨path⟩) := by
    rw [parts_name (by decide) (by decide), parts_name hne hslash]
    rfl
  have hentry (before : Location) (hbefore : before <+: [name]) :
      tree.entry? (outer ++ before) = some .folder :=
    entry?_working _ (hworking ▸ (List.prefix_append_right_inj outer).mpr hbefore)
  have hlocate := locate_append tree outer hname
    (fun before hbefore _ ↦ hentry before hbefore) (parts ⟨path⟩)
  have hhere (relative : Bytes) (h : relative.head? ≠ some slash) :
      tree.origin ⟨relative⟩ = outer ++ [name] := by
    rw [← hworking]
    exact if_neg h
  have hback : tree.locate (outer ++ [name]) ([point, point] :: ([name] ++ parts ⟨path⟩)) =
      tree.locate outer ([name] ++ parts ⟨path⟩) := by
    rw [locate, if_neg (by decide), if_pos rfl, List.dropLast_concat]
  rw [find, find, hhere _ hrelative, hhere _ (by simp [point, slash]), hparts, hback, hlocate]
  simp only [hbytes, hpath, List.append_ne_nil_of_left_ne_nil, ne_eq, reduceCtorEq,
    not_false_eq_true, if_false]

/-! ### Saved files -/

/-- What saving a file leaves behind: its bytes at the place to which its path leads, and all other
places as they were but for new folders. -/
structure Saved (path : RawText) (location : Location) (bytes : Bytes)
    (before after : FileTree) : Prop where
  find : after.find path = .ok location
  name : path.bytes.getLast? ≠ some slash
  entry : after.entry? location = some (.file bytes)
  others : ∀ other ≠ location, SameOrFolder before after other
  folders : KeepsFolders before after

theorem read_of_entry {path : RawText} {bytes : Bytes} (hfind : tree.find path = .ok location)
    (hname : path.bytes.getLast? ≠ some slash) (hentry : tree.entry? location = some (.file bytes)) :
    tree.read path = .ok bytes := by
  simp only [read, hfind, hentry, hname, if_false]

/-- Writing a file, perhaps after making folders, saves it. -/
theorem exists_saved_of_write {path : RawText} {bytes : Bytes} (hmade : Grown before middle)
    (hwrite : middle.write path bytes = .ok after) :
    ∃ location, Saved path location bytes before after := by
  rw [write] at hwrite
  cases hfind : middle.find path with
  | error e => simp [hfind] at hwrite
  | ok location =>
    by_cases hplace : middle.entry? location = some .folder ∨ path.bytes.getLast? = some slash
    · simp [hfind, hplace] at hwrite
    · obtain ⟨hfolder, hname⟩ := not_or.mp hplace
      obtain rfl : middle.set location (.file bytes) = after := by
        simpa [hfind, hfolder, hname] using hwrite
      have hothers : ∀ other ≠ location,
          SameOrFolder before (middle.set location (.file bytes)) other :=
        fun other hother ↦ (hmade.places other).trans (Or.inl (entry?_set_of_ne hother _))
      -- The place itself was no folder, since the folders that were made are still there.
      have hbefore : before.entry? location ≠ some .folder :=
        fun hentry ↦ hfolder ((hmade.places location).keeps hentry)
      have hkeeps : KeepsFolders middle (middle.set location (.file bytes)) := by
        refine ⟨rfl, fun other hother ↦ ?_⟩
        have hne : other ≠ location := fun heq ↦ hfolder (heq ▸ hother)
        rw [entry?_set_of_ne hne, hother]
      refine ⟨location, find_of_keepsFolders hkeeps hfind, hname, entry?_set_self hfolder _,
        hothers, hmade.working, fun other hother ↦ ?_⟩
      exact (hothers other fun heq ↦ hbefore (heq ▸ hother)).keeps hother

namespace Saved

variable {path otherPath : RawText} {bytes otherBytes : Bytes}

/-- What was saved is read back. -/
theorem read (h : Saved path location bytes before after) : after.read path = .ok bytes :=
  read_of_entry h.find h.name h.entry

/-- What was saved is read back after another file was saved at another place. -/
theorem read_of_ne (hfirst : Saved path location bytes before middle)
    (hlast : Saved otherPath other otherBytes middle after) (h : location ≠ other) :
    after.read path = .ok bytes :=
  read_of_entry (find_of_keepsFolders hlast.folders hfirst.find) hfirst.name
    ((hlast.others location h).keeps hfirst.entry)

/-- Of two files that were saved at one place, the later one is read back under either path. -/
theorem read_of_eq (hfirst : Saved path location bytes before middle)
    (hlast : Saved otherPath location otherBytes middle after) :
    after.read path = .ok otherBytes :=
  read_of_entry (find_of_keepsFolders hlast.folders hfirst.find) hfirst.name hlast.entry

end Saved

end ChanceDeck.FileTree
