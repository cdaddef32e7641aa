import ChanceDeck.Proofs.Run.Files
import ChanceDeck.Run.Machine
import ChanceDeck.Run.Step

/-!
# Steps on a machine

What it means that a step on a machine does not fail: `Gives` relates the machine before it to its
value and the machine after it. One lemma for each kind of step says when it holds, so that a run is
taken apart from its first step on (`gives_bind`) without opening the machine. Reading leaves the
machine as it is; printing and reporting leave the files alone; saving is the only step that changes
them (`exists_saved_of_save`).
-/

set_option autoImplicit false
set_option relaxedAutoImplicit false

namespace ChanceDeck.Step

variable {ε α β : Type} {machine after : Machine}

/-- A step on a machine gives a value and leaves another machine behind. -/
def Gives (step : Step (StateM Machine) α) (machine : Machine) (value : α) (after : Machine) :
    Prop :=
  step.run machine = (.ok value, after)

/-! ### Steps one after another -/

theorem run_bind (step : Step (StateM Machine) α) (next : α → Step (StateM Machine) β)
    (machine : Machine) : (step >>= next).run machine =
      match step.run machine with
      | (.ok found, middle) => (next found).run middle
      | (.error e, middle) => (.error e, middle) := by
  show StateT.bind step.run (ExceptT.bindCont next) machine = _
  rw [StateT.bind]
  rcases step.run machine with ⟨_ | _, _⟩ <;> rfl

/-- Two steps give a value if the first gives one with which the second does. -/
theorem gives_bind {step : Step (StateM Machine) α} {next : α → Step (StateM Machine) β}
    {value : β} : Gives (step >>= next) machine value after ↔
      ∃ found middle, Gives step machine found middle ∧ Gives (next found) middle value after := by
  constructor
  · intro h
    rw [Gives, run_bind] at h
    rcases hstep : step.run machine with ⟨e | found, middle⟩
    · rw [hstep] at h
      cases (Prod.mk.inj h).1
    · rw [hstep] at h
      exact ⟨found, middle, hstep, h⟩
  · rintro ⟨found, middle, hstep, hnext⟩
    rw [Gives] at hstep
    rw [Gives, run_bind, hstep]
    exact hnext

theorem gives_pure {found value : α} :
    Gives (pure found) machine value after ↔ value = found ∧ after = machine := by
  show ((.ok found, machine) : Except RunError α × Machine) = (.ok value, after) ↔ _
  rw [Prod.mk.injEq, Except.ok.injEq, eq_comm, @eq_comm _ machine]

theorem gives_require {error : ε → RunError} {result : Except ε α} {value : α} :
    Gives (require error result) machine value after ↔ result = .ok value ∧ after = machine := by
  show ((result.mapError error, machine) : Except RunError α × Machine) = (.ok value, after) ↔ _
  rw [Prod.mk.injEq, @eq_comm _ machine]
  cases result <;> simp [Except.mapError]

theorem gives_lift {action : StateM Machine α} {value : α} :
    Gives (ExceptT.lift action) machine value after ↔ action machine = (value, after) := by
  show ((.ok (action machine).1, (action machine).2) : Except RunError α × Machine) =
    (.ok value, after) ↔ _
  rw [Prod.mk.injEq, Except.ok.injEq]
  exact (@Prod.ext_iff _ _ (action machine) (value, after)).symm

/-! ### Reading and telling -/

theorem gives_readFile {path : RawText} {contents : Except FileError Bytes} :
    Gives (readFile path) machine contents after ↔
      contents = machine.files.read path ∧ after = machine :=
  gives_pure

theorem gives_readText {source : Source} {path : RawText} {text : Text} :
    Gives (readText source path) machine text after ↔
      decode (machine.files.read path) = .ok text ∧ after = machine := by
  rw [readText, gives_bind]
  constructor
  · rintro ⟨contents, middle, hread, htext⟩
    obtain ⟨rfl, rfl⟩ := gives_readFile.mp hread
    exact gives_require.mp htext
  · exact fun h ↦ ⟨_, _, gives_readFile.mpr ⟨rfl, rfl⟩, gives_require.mpr h⟩

theorem gives_print {lines : List Text} {value : Unit} :
    Gives (print lines) machine value after ↔
      after = { machine with results := machine.results ++ Text.unlines lines } :=
  gives_pure.trans (and_iff_right rfl)

/-- Reports change neither files nor results. -/
theorem exists_reports_of_log {filter : LogFilter} {entries : List LogEntry} {value : Unit}
    (h : Gives (log filter entries) machine value after) :
    ∃ reports, after = { machine with reports := reports } := by
  induction entries generalizing machine with
  | nil =>
    rw [log, gives_pure] at h
    exact ⟨_, h.2⟩
  | cons entry rest ih =>
    rw [log] at h
    cases hshows : filter.shows entry with
    | false =>
      rw [hshows, if_neg Bool.false_ne_true] at h
      exact ih h
    | true =>
      rw [hshows, if_pos rfl, gives_bind] at h
      obtain ⟨found, middle, hreport, hrest⟩ := h
      obtain rfl : middle = { machine with reports := machine.reports ++ [entry.line] } :=
        (gives_pure.mp hreport).2
      obtain ⟨reports, hafter⟩ := ih hrest
      exact ⟨reports, hafter⟩

/-! ### Saving -/

/-- Making the folder of a file changes no file. -/
theorem grown_of_makeFolder {product : Product} {path : RawText} {value : Unit}
    (h : Gives (makeFolder product path) machine value after) :
    machine.files.Grown after.files := by
  rw [makeFolder] at h
  cases hfolder : Folder.ofFile? path with
  | none =>
    rw [hfolder, gives_pure] at h
    exact h.2 ▸ .refl machine.files
  | some folder =>
    rw [hfolder, gives_bind] at h
    obtain ⟨made, middle, hmake, hmade⟩ := h
    obtain ⟨-, rfl⟩ := gives_require.mp hmade
    obtain ⟨-, hafter⟩ := Prod.mk.inj hmake
    exact hafter ▸ FileTree.grown_makeFolders machine.files folder

theorem write_of_gives {product : Product} {path : RawText} {bytes : Bytes} {value : Unit}
    (h : Gives (write product path bytes) machine value after) :
    machine.files.write path bytes = .ok after.files := by
  rw [write, gives_bind] at h
  obtain ⟨written, middle, hlift, hwritten⟩ := h
  obtain ⟨rfl, rfl⟩ := gives_require.mp hwritten
  have hrun := gives_lift.mp hlift
  cases hwrite : machine.files.write path bytes with
  | error e =>
    simp only [Host.writeFile, hwrite] at hrun
    cases (Prod.mk.inj hrun).1
  | ok files =>
    simp only [Host.writeFile, hwrite] at hrun
    exact (Prod.mk.inj hrun).2 ▸ rfl

/-- A file that was saved is at the place to which its path leads, and nothing else changes but for
new folders. -/
theorem exists_saved_of_save {product : Product} {path : RawText} {bytes : Bytes} {value : Unit}
    (h : Gives (save product path bytes) machine value after) :
    ∃ location, FileTree.Saved path location bytes machine.files after.files := by
  rw [save, gives_bind] at h
  obtain ⟨_, middle, hfolder, hwrite⟩ := h
  exact FileTree.exists_saved_of_write (grown_of_makeFolder hfolder) (write_of_gives hwrite)

end ChanceDeck.Step
