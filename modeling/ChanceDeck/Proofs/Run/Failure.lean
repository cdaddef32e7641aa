import ChanceDeck.Proofs.Run.Session

/-!
# Failed runs

A run that fails for any other reason than saving leaves the files and folders as they were, and an
inspection always does (`Machine.files_run`). What a run does before it saves changes no file
(`Step.KeepsFiles`), and from then on only saving can fail (`Step.Fails`). Steps of the first kind
and then steps of the second leave the files alone when they fail otherwise (`Step.SparesFiles`).

Saving may fail for a reason that has nothing to do with files: a report is written down after the
output was saved and the folder of the report was made, and it names paths, which must be texts. Only
paths that are given as arguments may be none (`Conversion.serializes_run`), since those in settings
files are texts.
-/

set_option autoImplicit false
set_option relaxedAutoImplicit false

namespace ChanceDeck

/-- Whether an error comes from saving the output or the report: from making the folder, from writing
the contents down, or from writing the file. -/
def RunError.isSaving : RunError → Bool
  | .noFolder _ _ _ => true
  | .unserialized => true
  | .unsaved _ _ _ => true
  | _ => false

namespace Step

variable {ε α β : Type} {step : Step (StateM Machine) α} {next : α → Step (StateM Machine) β}
  {P : RunError → Prop}

/-! ### What steps do to the files -/

/-- Whether a step leaves the files and folders as they are. -/
def KeepsFiles (step : Step (StateM Machine) α) : Prop :=
  ∀ machine, (step.run machine).2.files = machine.files

/-- Whether a step can only fail with errors of some kind. -/
def Fails (P : RunError → Prop) (step : Step (StateM Machine) α) : Prop :=
  ∀ machine error after, step.run machine = (.error error, after) → P error

/-- Whether a step leaves the files and folders as they are if it fails for another reason than
saving. -/
def SparesFiles (step : Step (StateM Machine) α) : Prop :=
  ∀ machine error after, step.run machine = (.error error, after) → error.isSaving = false →
    after.files = machine.files

theorem KeepsFiles.sparesFiles (h : KeepsFiles step) : SparesFiles step := by
  intro machine error after hrun _
  have hfiles := h machine
  rw [hrun] at hfiles
  exact hfiles

theorem Fails.sparesFiles (h : Fails (·.isSaving = true) step) : SparesFiles step := by
  intro machine error after hrun hother
  exact absurd (h machine error after hrun) (Bool.eq_false_iff.mp hother)

theorem KeepsFiles.bind (hstep : KeepsFiles step) (hnext : ∀ found, KeepsFiles (next found)) :
    KeepsFiles (step >>= next) := by
  intro machine
  have hfirst := hstep machine
  rw [run_bind]
  rcases hrun : step.run machine with ⟨error | found, middle⟩
  · rw [hrun] at hfirst
    exact hfirst
  · rw [hrun] at hfirst
    exact (hnext found middle).trans hfirst

/-- Two steps fail as the first does, or as the second does after the first. -/
theorem error_of_bind {machine after : Machine} {error : RunError}
    (h : (step >>= next).run machine = (.error error, after)) :
    step.run machine = (.error error, after) ∨
      ∃ found middle, step.run machine = (.ok found, middle) ∧
        (next found).run middle = (.error error, after) := by
  rw [run_bind] at h
  rcases hstep : step.run machine with ⟨first | found, middle⟩
  · rw [hstep] at h
    obtain ⟨herror, rfl⟩ := Prod.mk.inj h
    exact Or.inl (by rw [Except.error.inj herror])
  · rw [hstep] at h
    exact Or.inr ⟨found, middle, rfl, h⟩

theorem Fails.bind (hstep : Fails P step) (hnext : ∀ found, Fails P (next found)) :
    Fails P (step >>= next) := by
  intro machine error after hrun
  rcases error_of_bind hrun with hfirst | ⟨found, middle, -, hsecond⟩
  · exact hstep machine error after hfirst
  · exact hnext found middle error after hsecond

theorem KeepsFiles.bind_sparesFiles (hstep : KeepsFiles step)
    (hnext : ∀ found, SparesFiles (next found)) : SparesFiles (step >>= next) := by
  intro machine error after hrun hother
  rcases error_of_bind hrun with hfirst | ⟨found, middle, hfound, hsecond⟩
  · exact hstep.sparesFiles machine error after hfirst hother
  · have hfiles := hstep machine
    rw [hfound] at hfiles
    exact (hnext found middle error after hsecond hother).trans hfiles

/-! ### Reading and telling -/

theorem keepsFiles_pure (value : α) : KeepsFiles (pure value) :=
  fun _ ↦ rfl

theorem keepsFiles_require (error : ε → RunError) (result : Except ε α) :
    KeepsFiles (require error result) :=
  fun _ ↦ rfl

theorem keepsFiles_readFile (path : RawText) : KeepsFiles (readFile path) :=
  fun _ ↦ rfl

theorem keepsFiles_readText (source : Source) (path : RawText) :
    KeepsFiles (readText source path) :=
  (keepsFiles_readFile path).bind fun _ ↦ keepsFiles_require _ _

theorem keepsFiles_print (lines : List Text) : KeepsFiles (print lines) :=
  fun _ ↦ rfl

theorem fails_lift (action : StateM Machine α) : Fails P (ExceptT.lift action) := by
  intro machine error after hrun
  cases (Prod.mk.inj hrun).1

theorem fails_pure (value : α) : Fails P (pure value) :=
  fails_lift (pure value)

theorem fails_require {error : ε → RunError} {result : Except ε α}
    (h : ∀ e, result = .error e → P (error e)) : Fails P (require error result) := by
  intro machine found after hrun
  cases result with
  | error e =>
    obtain rfl : error e = found := Except.error.inj (Prod.mk.inj hrun).1
    exact h e rfl
  | ok value => cases (Prod.mk.inj hrun).1

/-- What follows a computation has to be looked at for its value only. -/
theorem fails_require_bind {error : ε → RunError} {result : Except ε α}
    (herror : ∀ e, result = .error e → P (error e))
    (hnext : ∀ value, result = .ok value → Fails P (next value)) :
    Fails P (require error result >>= next) := by
  intro machine found after hrun
  rcases error_of_bind hrun with hfirst | ⟨value, middle, hvalue, hsecond⟩
  · exact fails_require herror machine found after hfirst
  · exact hnext value (gives_require.mp hvalue).1 middle found after hsecond

theorem fails_readText {source : Source} {path : RawText}
    (h : ∀ e, P (.unread source path e)) : Fails P (readText source path) :=
  (fails_lift _).bind fun _ ↦ fails_require fun e _ ↦ h e

theorem keepsFiles_log (filter : LogFilter) (entries : List LogEntry) :
    KeepsFiles (log filter entries) := by
  induction entries with
  | nil => exact keepsFiles_pure ()
  | cons entry rest ih =>
    rw [log]
    split_ifs
    · exact KeepsFiles.bind (fun _ ↦ rfl) fun _ ↦ ih
    · exact ih

theorem fails_log (filter : LogFilter) (entries : List LogEntry) : Fails P (log filter entries) := by
  induction entries with
  | nil => exact fails_pure ()
  | cons entry rest ih =>
    rw [log]
    split_ifs
    · exact (fails_lift _).bind fun _ ↦ ih
    · exact ih

/-! ### Saving -/

theorem fails_makeFolder {product : Product} (h : ∀ folder e, P (.noFolder product folder e))
    (path : RawText) : Fails P (makeFolder product path) := by
  rw [makeFolder]
  cases Folder.ofFile? path with
  | none => exact fails_pure ()
  | some folder => exact (fails_lift _).bind fun _ ↦ fails_require fun e _ ↦ h folder e

theorem fails_write {product : Product} {path : RawText} (h : ∀ e, P (.unsaved product path e))
    (bytes : Bytes) : Fails P (write product path bytes) :=
  (fails_lift _).bind fun _ ↦ fails_require fun e _ ↦ h e

theorem fails_save {product : Product} {path : RawText}
    (hfolder : ∀ folder e, P (.noFolder product folder e))
    (hfile : ∀ e, P (.unsaved product path e)) (bytes : Bytes) :
    Fails P (save product path bytes) :=
  (fails_makeFolder hfolder path).bind fun _ ↦ fails_write hfile bytes

end Step

/-! ### Commands -/

open Step

theorem ConversionReport.text_eq_error_iff {report : ConversionReport} {error : RunError} :
    report.text = .error error ↔ error = .unserialized ∧
      (report.settings.input.text? = none ∨ report.settings.output.text? = none) := by
  rw [ConversionReport.text]
  cases report.settings.input.text? with
  | none => simp [eq_comm]
  | some input =>
    cases report.settings.output.text? with
    | none => simp [eq_comm]
    | some output => simp

variable (filter : LogFilter) (settings : Settings)

namespace Conversion

theorem fails_saveReport {P : RunError → Prop} {report : ConversionReport}
    (hfolder : ∀ folder e, P (.noFolder .report folder e))
    (htext : ∀ e, report.text = .error e → P e)
    (hfile : ∀ path e, P (.unsaved .report path e)) :
    Fails P (saveReport (m := StateM Machine) report) := by
  rw [saveReport]
  cases report.settings.report with
  | none => exact fails_pure ()
  | some path =>
    refine (fails_makeFolder hfolder path).bind fun _ ↦ ?_
    refine (fails_require htext).bind fun text ↦ ?_
    exact (fails_write (hfile path) _).bind fun _ ↦ fails_lift _

/-- Everything that can be wrong with the settings, the sheet and the numbering is found before the
listing is saved. -/
theorem sparesFiles_run (flags : ConvertFlags) :
    SparesFiles (run (m := StateM Machine) filter settings flags) := by
  rw [run]
  refine (keepsFiles_require _ _).bind_sparesFiles fun chosen ↦ ?_
  refine (keepsFiles_readFile chosen.input).bind_sparesFiles fun contents ↦ ?_
  refine (keepsFiles_require _ _).bind_sparesFiles fun rows ↦ ?_
  refine (keepsFiles_require _ _).bind_sparesFiles fun deck ↦ ?_
  refine (keepsFiles_print _).bind_sparesFiles fun _ ↦ ?_
  refine (keepsFiles_log filter _).bind_sparesFiles fun _ ↦ ?_
  refine (keepsFiles_print _).bind_sparesFiles fun _ ↦ ?_
  refine (keepsFiles_require _ _).bind_sparesFiles fun listing ↦ Fails.sparesFiles ?_
  refine (fails_save (fun _ _ ↦ rfl) (fun _ ↦ rfl) _).bind fun _ ↦ ?_
  refine (fails_log filter _).bind fun _ ↦ (fails_lift _).bind fun _ ↦ ?_
  refine (fails_saveReport (fun _ _ ↦ rfl) (fun e he ↦ ?_) fun _ _ ↦ rfl).bind fun _ ↦
    fails_log filter _
  rw [(ConversionReport.text_eq_error_iff.mp he).1]
  rfl

/-- A path of the settings is a text unless a flag gives one that is none. -/
theorem text?_getD_ne_none {given : Option RawText} (h : ∀ path ∈ given, path.text? ≠ none)
    (found : Text) : (given.getD (.ofText found)).text? ≠ none := by
  cases given with
  | none =>
    rw [Option.getD_none, RawText.text?_ofText]
    exact Option.some_ne_none found
  | some path => exact h path rfl

/-- The settings of a conversion are those of the section with the flags over them. -/
theorem exists_eq_of_resolve {flags : ConvertFlags} {chosen : ConvertSettings RawText}
    (h : flags.resolve settings = .ok chosen) :
    ∃ found : ConvertSettings, chosen = flags.applyTo (found.map .ofText) := by
  rw [ConvertFlags.resolve] at h
  split at h
  · cases h
  · rename_i found hfound
    rw [ConvertSettings.validate] at h
    split at h
    · cases h
    · exact ⟨found, (Except.ok.inj h).symm⟩

/-- A report can be written down if the paths that are given are texts. -/
theorem serializes_run {flags : ConvertFlags} (hinput : ∀ path ∈ flags.input, path.text? ≠ none)
    (houtput : ∀ path ∈ flags.output, path.text? ≠ none) :
    Fails (· ≠ .unserialized) (run (m := StateM Machine) filter settings flags) := by
  rw [run]
  refine fails_require_bind (fun _ _ ↦ by simp) fun chosen hchosen ↦ ?_
  obtain ⟨found, rfl⟩ := exists_eq_of_resolve settings hchosen
  refine (fails_lift _).bind fun contents ↦ (fails_require fun _ _ ↦ by simp).bind fun rows ↦ ?_
  refine (fails_require fun _ _ ↦ by simp).bind fun deck ↦ (fails_lift _).bind fun _ ↦ ?_
  refine (fails_log filter _).bind fun _ ↦ (fails_lift _).bind fun _ ↦ ?_
  refine (fails_require fun _ _ ↦ by simp).bind fun listing ↦ ?_
  refine (fails_save (fun _ _ ↦ by simp) (fun _ ↦ by simp) _).bind fun _ ↦ ?_
  refine (fails_log filter _).bind fun _ ↦ (fails_lift _).bind fun _ ↦ ?_
  refine (fails_saveReport (fun _ _ ↦ by simp) (fun e he ↦ ?_) fun _ _ ↦ by simp).bind fun _ ↦
    fails_log filter _
  rcases (ConversionReport.text_eq_error_iff.mp he).2 with hnone | hnone
  · exact absurd hnone (text?_getD_ne_none hinput found.input)
  · exact absurd hnone (text?_getD_ne_none houtput found.output)

end Conversion

namespace Tokenization

/-- The image is made before it is saved, and nothing but saving can fail after that. -/
theorem sparesFiles_run (flags : TokenizeFlags) :
    SparesFiles (run (m := StateM Machine) filter settings flags) := by
  rw [run]
  refine (keepsFiles_require _ _).bind_sparesFiles fun chosen ↦ ?_
  refine (keepsFiles_readText _ _).bind_sparesFiles fun text ↦ ?_
  refine (keepsFiles_require _ _).bind_sparesFiles fun image ↦ Fails.sparesFiles ?_
  refine (fails_log filter _).bind fun _ ↦ ?_
  refine (fails_save (fun _ _ ↦ rfl) (fun _ ↦ rfl) _).bind fun _ ↦ ?_
  exact (fails_lift _).bind fun _ ↦ fails_log filter _

theorem serializes_run (flags : TokenizeFlags) :
    Fails (· ≠ .unserialized) (run (m := StateM Machine) filter settings flags) := by
  rw [run]
  refine (fails_require fun _ _ ↦ by simp).bind fun chosen ↦ ?_
  refine (fails_readText fun _ ↦ by simp).bind fun text ↦ ?_
  refine (fails_require fun _ _ ↦ by simp).bind fun image ↦ (fails_log filter _).bind fun _ ↦ ?_
  refine (fails_save (fun _ _ ↦ by simp) (fun _ ↦ by simp) _).bind fun _ ↦ ?_
  exact (fails_lift _).bind fun _ ↦ fails_log filter _

end Tokenization

namespace Inspection

theorem keepsFiles_run (input : Option RawText) :
    KeepsFiles (run (m := StateM Machine) filter settings input) := by
  rw [run]
  refine (keepsFiles_require _ _).bind fun path ↦ (keepsFiles_readText _ _).bind fun text ↦ ?_
  refine (keepsFiles_print _).bind fun _ ↦ (keepsFiles_log filter _).bind fun _ ↦ ?_
  exact (keepsFiles_print _).bind fun _ ↦ keepsFiles_require _ _

theorem serializes_run (input : Option RawText) :
    Fails (· ≠ .unserialized) (run (m := StateM Machine) filter settings input) := by
  rw [run]
  refine (fails_require fun _ _ ↦ by simp).bind fun path ↦ ?_
  refine (fails_readText fun _ ↦ by simp).bind fun text ↦ (fails_lift _).bind fun _ ↦ ?_
  refine (fails_log filter _).bind fun _ ↦ (fails_lift _).bind fun _ ↦ fails_require fun e he ↦ ?_
  rw [verdict] at he
  split_ifs at he
  rw [← Except.error.inj he]
  simp

end Inspection

namespace Session

theorem keepsFiles_readLayers (paths : List RawText) :
    KeepsFiles (readLayers (m := StateM Machine) paths) := by
  induction paths with
  | nil => exact keepsFiles_pure []
  | cons path rest ih =>
    exact (keepsFiles_readText _ _).bind fun text ↦ ih.bind fun texts ↦ keepsFiles_pure _

theorem keepsFiles_loadSettings (paths : List RawText) (strict : Bool) :
    KeepsFiles (loadSettings (m := StateM Machine) filter paths strict) := by
  rw [loadSettings]
  refine (keepsFiles_readLayers paths).bind fun texts ↦ ?_
  refine (keepsFiles_require _ _).bind fun loaded ↦ (keepsFiles_require _ _).bind fun report ↦ ?_
  exact (keepsFiles_log filter _).bind fun _ ↦ keepsFiles_pure loaded

theorem serializes_readLayers (paths : List RawText) :
    Fails (· ≠ .unserialized) (readLayers (m := StateM Machine) paths) := by
  induction paths with
  | nil => exact fails_pure []
  | cons path rest ih =>
    exact (fails_readText fun _ ↦ by simp).bind fun text ↦ ih.bind fun texts ↦ fails_pure _

theorem serializes_loadSettings (paths : List RawText) (strict : Bool) :
    Fails (· ≠ .unserialized) (loadSettings (m := StateM Machine) filter paths strict) := by
  rw [loadSettings]
  refine (serializes_readLayers paths).bind fun texts ↦ ?_
  refine (fails_require fun _ _ ↦ by simp).bind fun loaded ↦ ?_
  refine (fails_require fun _ _ ↦ by simp).bind fun report ↦ ?_
  exact (fails_log filter _).bind fun _ ↦ fails_pure loaded

theorem sparesFiles_perform (command : Command) :
    SparesFiles (perform (m := StateM Machine) filter settings command) := by
  cases command with
  | convert flags => exact Conversion.sparesFiles_run filter settings flags
  | decode input => exact (Inspection.keepsFiles_run filter settings input).sparesFiles
  | tokenize flags => exact Tokenization.sparesFiles_run filter settings flags

theorem sparesFiles_invoke (invocation : Invocation) :
    SparesFiles (invoke (m := StateM Machine) filter invocation) :=
  (keepsFiles_loadSettings filter _ _).bind_sparesFiles fun settings ↦
    sparesFiles_perform filter settings invocation.command

theorem keepsFiles_invoke_decode (paths : List RawText) (strict : Bool) (input : Option RawText) :
    KeepsFiles (invoke (m := StateM Machine) filter ⟨paths, strict, .decode input⟩) :=
  (keepsFiles_loadSettings filter paths strict).bind fun settings ↦
    Inspection.keepsFiles_run filter settings input

/-- Only a conversion fails because a report cannot be written down, and only if a path that is given
with it is no text. -/
theorem exists_convert_of_unserialized {filter : LogFilter} {invocation : Invocation}
    {machine after : Machine}
    (h : (invoke (m := StateM Machine) filter invocation).run machine =
      (.error .unserialized, after)) :
    ∃ flags, invocation.command = .convert flags ∧
      ∃ path, (path ∈ flags.input ∨ path ∈ flags.output) ∧ path.text? = none := by
  by_contra hnone
  have hserializes (settings : Settings) :
      Fails (· ≠ .unserialized) (perform (m := StateM Machine) filter settings invocation.command) := by
    cases hcommand : invocation.command with
    | convert flags =>
      refine Conversion.serializes_run filter settings (fun path hpath htext ↦ ?_)
        fun path hpath htext ↦ ?_
      · exact hnone ⟨flags, hcommand, path, Or.inl hpath, htext⟩
      · exact hnone ⟨flags, hcommand, path, Or.inr hpath, htext⟩
    | decode input => exact Inspection.serializes_run filter settings input
    | tokenize flags => exact Tokenization.serializes_run filter settings flags
  exact ((serializes_loadSettings filter _ _).bind hserializes) machine _ after h rfl

theorem reportAll_apply (lines : List Text) (machine : Machine) :
    (reportAll lines : StateM Machine Unit) machine =
      ((), { machine with reports := machine.reports ++ lines }) := by
  induction lines generalizing machine with
  | nil =>
    rw [List.append_nil]
    rfl
  | cons line rest ih =>
    rw [reportAll, Machine.bind_apply]
    refine (ih _).trans ?_
    show ((), { machine with reports := machine.reports ++ [line] ++ rest }) = _
    rw [List.append_assoc, List.singleton_append]

end Session

/-! ### Whole runs -/

namespace Machine

/-- How the command ends that arguments ask for, and the machine that it leaves behind. -/
def outcome (machine : Machine) (invocation : Invocation) : Except RunError Unit × Machine :=
  (Session.invoke machine.logFilter invocation : Step (StateM Machine) Unit).run machine

/-- Why a run with given arguments fails, if they are understood and it does. -/
def failure? (machine : Machine) (arguments : List RawText) : Option RunError :=
  (Invocation.ofArguments? arguments).bind fun invocation ↦
    match (machine.outcome invocation).1 with
    | .ok () => none
    | .error e => some e

variable {machine after : Machine} {arguments : List RawText} {invocation : Invocation}

theorem run_of_not_understood (h : Invocation.ofArguments? arguments = none) :
    machine.run arguments =
      (2, { machine with reports := machine.reports ++ [Invocation.usage] }) := by
  rw [run_eq, Session.execute, h]
  rfl

/-- The end of a run whose command ended in some way. -/
def conclude : Except RunError Unit → StateM Machine Nat
  | .ok () => pure 0
  | .error e => do
    Session.reportAll e.explanation.report
    return 1

theorem run_of_understood (h : Invocation.ofArguments? arguments = some invocation) :
    machine.run arguments =
      conclude (machine.outcome invocation).1 (machine.outcome invocation).2 := by
  rw [run_eq, Session.execute, h]
  rfl

theorem run_of_ok (h : Invocation.ofArguments? arguments = some invocation)
    (houtcome : machine.outcome invocation = (.ok (), after)) :
    machine.run arguments = (0, after) := by
  rw [run_of_understood h, houtcome]
  rfl

theorem run_of_error (h : Invocation.ofArguments? arguments = some invocation) {error : RunError}
    (houtcome : machine.outcome invocation = (.error error, after)) :
    machine.run arguments =
      (1, { after with reports := after.reports ++ error.explanation.report }) := by
  rw [run_of_understood h, houtcome]
  rw [conclude, bind_apply, Session.reportAll_apply]
  rfl

theorem failure?_of_error (h : Invocation.ofArguments? arguments = some invocation)
    {error : RunError} (houtcome : machine.outcome invocation = (.error error, after)) :
    machine.failure? arguments = some error := by
  rw [failure?, h, Option.bind_some, houtcome]

theorem exists_outcome_of_failure? {error : RunError}
    (h : machine.failure? arguments = some error) :
    ∃ invocation after, Invocation.ofArguments? arguments = some invocation ∧
      machine.outcome invocation = (.error error, after) := by
  obtain ⟨invocation, hunderstood, hfailure⟩ := Option.bind_eq_some_iff.mp h
  rcases houtcome : machine.outcome invocation with ⟨found | ⟨⟩, after⟩
  · rw [houtcome] at hfailure
    obtain rfl : found = error := Option.some.inj hfailure
    exact ⟨invocation, after, hunderstood, houtcome⟩
  · rw [houtcome] at hfailure
    cases hfailure

/-- A machine with a sheet that has no column of a stock. -/
def stockless : Machine :=
  .ofSheet "Card,Event\n1,5\n".toList

/-- A listing goes to a path that is no text, and a report to a folder that is not there: the listing
is saved and the folder made before the report cannot be written down. -/
example :
    let arguments := ["convert".toList, "--input".toList, "cards.csv".toList,
      "--report".toList, "out/report.json".toList, "--output".toList].map .ofText ++ [⟨[0xFF]⟩]
    (oneCard.run arguments).1 = 1 ∧
      (oneCard.failure? arguments).map RunError.explanation =
        some ⟨"serialize report json failed".toList,
          some "path contains invalid UTF-8 characters".toList⟩ ∧
      (oneCard.run arguments).2.files.entries.map (·.1.drop oneCard.files.working.length) =
        [[Utf8.encode "out".toList], [[0xFF]], [Utf8.encode "cards.csv".toList]] := by
  decide +kernel

end Machine

end ChanceDeck
