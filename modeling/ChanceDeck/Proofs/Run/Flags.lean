import ChanceDeck.Proofs.Listing.Basic
import ChanceDeck.Proofs.Settings.Layers
import ChanceDeck.Run.Conversion

/-!
# Flags over settings

A value that is given with a conversion takes the place of what the section states, and that the
place of the default (`ConvertFlags.effective`). The settings of a conversion are these effective
values and no others (`resolve_eq_ok_iff`). They are refused if the start line or the line step among
them is out of range, and also if one that the section states is, though a flag takes its place
(`resolve_overriddenStart`): the section is looked at before the flags are.

What a section states is said without reading it (`ConvertFlags.Stated`), by what stands under the
key of each field.
-/

set_option autoImplicit false
set_option relaxedAutoImplicit false

namespace ChanceDeck

open Document

/-! ### What entries leave in the settings -/

namespace Section

variable {σ : Type} {fields : List (Field σ)} {defaults settings last : σ}
  {shown : Text → σ → Document} {entries : List (Text × Document)} {field : Field σ}

/-- A field that no entry names stays as it is. -/
theorem shown_of_setEntries_of_none (hlawful : Lawful fields defaults shown) {key : Text}
    (hnone : get? key entries = none) (hset : setEntries fields settings entries = .ok last) :
    shown key last = shown key settings := by
  induction entries generalizing settings with
  | nil =>
    obtain rfl : settings = last := Except.ok.inj hset
    rfl
  | cons entry rest ih =>
    obtain ⟨other, value⟩ := entry
    rw [get?] at hnone
    split_ifs at hnone with hkey
    rcases setEntries_cons_eq_ok hset with ⟨-, hlast⟩ | ⟨field, next, hfind, hnext, hlast⟩
    · exact ih hnone hlast
    · obtain ⟨hfield, rfl⟩ := hlawful.find?_eq_some_iff.mp hfind
      have hrest := ((hlawful.set_eq_ok_iff field hfield settings value next).mp hnext).2.2
      exact (ih hnone hlast).trans (hrest key hkey)

/-- What a field shows in the end: the value of its entry, or what it showed before. -/
theorem shown_of_setEntries (hlawful : Lawful fields defaults shown)
    (hsorted : KeysSorted entries) (hset : setEntries fields settings entries = .ok last)
    {key : Text} (hkey : key ∈ fields.map Field.key) :
    shown key last = (get? key entries).getD (shown key settings) := by
  obtain ⟨field, hfield, rfl⟩ := List.mem_map.mp hkey
  cases hget : get? field.key entries with
  | none => exact shown_of_setEntries_of_none hlawful hget hset
  | some value =>
    exact hlawful.shown_of_set hfield (set_of_setEntries hlawful hsorted hset hfield hget)

/-- Entries are set if every field takes the value that they have for it. -/
theorem exists_setEntries (htakes : ∀ entry ∈ entries, ∀ field ∈ fields, field.key = entry.1 →
      ∀ settings, ∃ next, field.set settings entry.2 = .ok next) (settings : σ) :
    ∃ last, setEntries fields settings entries = .ok last := by
  induction entries generalizing settings with
  | nil => exact ⟨settings, rfl⟩
  | cons entry rest ih =>
    obtain ⟨key, value⟩ := entry
    obtain ⟨hfirst, hrest⟩ := List.forall_mem_cons.mp htakes
    cases hfind : fields.find? (·.key = key) with
    | none =>
      rw [setEntries_cons_of_none hfind]
      exact ih hrest settings
    | some field =>
      have hkey := List.find?_some hfind
      obtain ⟨next, hnext⟩ :=
        hfirst field (List.mem_of_find?_eq_some hfind) (of_decide_eq_true hkey) settings
      rw [setEntries_cons_of_ok hfind hnext]
      exact ih hrest next

end Section

/-! ### Numbering -/

namespace ConvertSettings

/-- Whether the start line and the line step are in the range of line numbers. -/
structure Numbered {P : Type} (settings : ConvertSettings P) : Prop where
  startLine : 1 ≤ settings.startLine ∧ settings.startLine ≤ 65529
  lineStep : 1 ≤ settings.lineStep ∧ settings.lineStep ≤ 65529

theorem validate_eq_ok_iff {P : Type} {settings checked : ConvertSettings P} :
    settings.validate = .ok checked ↔ checked = settings ∧ settings.Numbered := by
  have hcheck : Listing.checkNumbering settings.startLine settings.lineStep = .ok () ↔
      settings.Numbered := by
    rw [Listing.checkNumbering_eq_ok_iff, Listing.inRange_iff, Listing.inRange_iff]
    exact ⟨fun h ↦ ⟨h.1, h.2⟩, fun h ↦ ⟨h.startLine, h.lineStep⟩⟩
  rw [validate, ← hcheck]
  cases Listing.checkNumbering settings.startLine settings.lineStep with
  | error e => simp
  | ok _ => simp [eq_comm]

theorem numbered_map {P Q : Type} {f : P → Q} {settings : ConvertSettings P} :
    (settings.map f).Numbered ↔ settings.Numbered :=
  ⟨fun h ↦ ⟨h.startLine, h.lineStep⟩, fun h ↦ ⟨h.startLine, h.lineStep⟩⟩

/-- Under a key that is no field nothing shows. -/
theorem shown_of_not_mem {key : Text} (h : key ∉ fields.map Section.Field.key)
    (settings : ConvertSettings) : shown key settings = .null := by
  simp only [fields, List.map_cons, List.map_nil, List.mem_cons, List.not_mem_nil, or_false,
    not_or] at h
  obtain ⟨hinput, houtput, hstart, hstep, hreport⟩ := h
  rw [shown, if_neg hinput, if_neg houtput, if_neg hstart, if_neg hstep, if_neg hreport]

end ConvertSettings

namespace ConvertFlags

variable {flags : ConvertFlags} {stated : ConvertFlags Text} {entries : List (Text × Document)}

/-! ### Stated and effective values -/

/-- No values at all. -/
def nothing {P : Type} : ConvertFlags P :=
  ⟨none, none, none, none, none⟩

/-- Whether entries have these values and no others for the fields of the section, each of the right
type. A report may be null, which states none. -/
structure StatedBy (stated : ConvertFlags Text) (entries : List (Text × Document)) : Prop where
  input : get? "input".toList entries = stated.input.map .text
  output : get? "output".toList entries = stated.output.map .text
  startLine : get? "start_line".toList entries = stated.startLine.map fun n ↦ .integer n
  startLine_lt : ∀ n ∈ stated.startLine, n < Nat.pow 2 32
  lineStep : get? "line_step".toList entries = stated.lineStep.map fun n ↦ .integer n
  lineStep_lt : ∀ n ∈ stated.lineStep, n < Nat.pow 2 32
  report : get? "report".toList entries = stated.report.map .text ∨
    stated.report = none ∧ get? "report".toList entries = some .null

/-- Whether what is in the place of the section states these values: nothing is there or null, which
state none, or an object with entries for them. -/
def Stated (stated : ConvertFlags Text) (found : Option Document) : Prop :=
  (found = none ∨ found = some .null) ∧ stated = nothing ∨
    ∃ entries, found = some (.object entries) ∧ stated.StatedBy entries

/-- For each setting the value of the flag, or else the stated one, or else the default. -/
def effective (flags : ConvertFlags) (stated : ConvertFlags Text) : ConvertSettings RawText where
  input := (flags.input.or (stated.input.map .ofText)).getD (.ofText ConvertSettings.defaults.input)
  output :=
    (flags.output.or (stated.output.map .ofText)).getD (.ofText ConvertSettings.defaults.output)
  startLine := (flags.startLine.or stated.startLine).getD ConvertSettings.defaults.startLine
  lineStep := (flags.lineStep.or stated.lineStep).getD ConvertSettings.defaults.lineStep
  report := flags.report.or (stated.report.map .ofText)

/-- The effective values are the flags over the stated values over the defaults. -/
theorem applyTo_map_applyTo :
    flags.applyTo ((stated.applyTo ConvertSettings.defaults).map .ofText) =
      flags.effective stated := by
  have hgetD {α : Type} (given stated : Option α) (value : α) :
      given.getD (stated.getD value) = (given.or stated).getD value := by
    cases given <;> rfl
  have hmap (stated : Option Text) (value : Text) :
      RawText.ofText (stated.getD value) = (stated.map .ofText).getD (.ofText value) := by
    cases stated <;> rfl
  have hdefault : ConvertSettings.defaults.report = none := rfl
  unfold applyTo effective ConvertSettings.map
  simp only [hmap, hgetD, hdefault, Option.or_none]

/-- Without flags the effective values are the stated ones over the defaults. -/
theorem map_applyTo_defaults :
    (stated.applyTo ConvertSettings.defaults).map .ofText = nothing.effective stated := by
  rw [← applyTo_map_applyTo]
  unfold applyTo nothing
  simp only [Option.getD_none, Option.none_or]

/-! ### Reading what is stated -/

/-- Every field takes what is stated for it. -/
theorem StatedBy.takes (h : stated.StatedBy entries) (hsorted : KeysSorted entries) :
    ∀ entry ∈ entries, ∀ field ∈ ConvertSettings.fields, field.key = entry.1 →
      ∀ settings, ∃ next, field.set settings entry.2 = .ok next := by
  rintro ⟨key, value⟩ hentry field hfield rfl settings
  have hget := (get?_eq_some_iff hsorted).mpr hentry
  simp only [ConvertSettings.fields, List.mem_cons, List.not_mem_nil, or_false] at hfield
  rcases hfield with rfl | rfl | rfl | rfl | rfl
  · obtain ⟨path, -, hvalue⟩ := Option.map_eq_some_iff.mp (h.input.symm.trans hget)
    exact ⟨_, Section.map_eq_ok_iff.mpr ⟨path, Section.path_eq_ok_iff.mpr hvalue.symm, rfl⟩⟩
  · obtain ⟨path, -, hvalue⟩ := Option.map_eq_some_iff.mp (h.output.symm.trans hget)
    exact ⟨_, Section.map_eq_ok_iff.mpr ⟨path, Section.path_eq_ok_iff.mpr hvalue.symm, rfl⟩⟩
  · obtain ⟨n, hn, hvalue⟩ := Option.map_eq_some_iff.mp (h.startLine.symm.trans hget)
    have hnatural := Section.natural_eq_ok_iff.mpr ⟨hvalue.symm, h.startLine_lt n hn⟩
    exact ⟨_, Section.map_eq_ok_iff.mpr ⟨n, hnatural, rfl⟩⟩
  · obtain ⟨n, hn, hvalue⟩ := Option.map_eq_some_iff.mp (h.lineStep.symm.trans hget)
    have hnatural := Section.natural_eq_ok_iff.mpr ⟨hvalue.symm, h.lineStep_lt n hn⟩
    exact ⟨_, Section.map_eq_ok_iff.mpr ⟨n, hnatural, rfl⟩⟩
  · rcases h.report with hreport | ⟨-, hnull⟩
    · obtain ⟨path, -, hvalue⟩ := Option.map_eq_some_iff.mp (hreport.symm.trans hget)
      have hpath : Section.path? value = .ok (some path) :=
        Section.path?_eq_ok_iff.mpr hvalue.symm
      exact ⟨_, Section.map_eq_ok_iff.mpr ⟨some path, hpath, rfl⟩⟩
    · have hvalue := Option.some.inj (hget.symm.trans hnull)
      have hpath : Section.path? value = .ok none := Section.path?_eq_ok_iff.mpr hvalue
      exact ⟨_, Section.map_eq_ok_iff.mpr ⟨none, hpath, rfl⟩⟩

/-- What a field shows in the stated values: the value of its entry, or what the default shows. -/
theorem StatedBy.shown_effective (h : stated.StatedBy entries) {key : Text}
    (hkey : key ∈ ConvertSettings.fields.map Section.Field.key) :
    ConvertSettings.shown key (stated.applyTo ConvertSettings.defaults) =
      (get? key entries).getD (ConvertSettings.shown key ConvertSettings.defaults) := by
  have hkeys : ConvertSettings.fields.map Section.Field.key =
      ["input".toList, "output".toList, "start_line".toList, "line_step".toList,
        "report".toList] := rfl
  rw [hkeys] at hkey
  simp only [List.mem_cons, List.not_mem_nil, or_false] at hkey
  rcases hkey with rfl | rfl | rfl | rfl | rfl
  · rw [ConvertSettings.shown_input, ConvertSettings.shown_input, h.input, Option.getD_map]
    rfl
  · rw [ConvertSettings.shown_output, ConvertSettings.shown_output, h.output, Option.getD_map]
    rfl
  · rw [ConvertSettings.shown_startLine, ConvertSettings.shown_startLine, h.startLine,
      Option.getD_map (fun n : Nat ↦ Document.integer n)]
    rfl
  · rw [ConvertSettings.shown_lineStep, ConvertSettings.shown_lineStep, h.lineStep,
      Option.getD_map (fun n : Nat ↦ Document.integer n)]
    rfl
  · have hover : (stated.applyTo ConvertSettings.defaults).report = stated.report := Option.or_none
    rw [ConvertSettings.shown_report, ConvertSettings.shown_report, hover]
    rcases h.report with hreport | ⟨hnone, hnull⟩
    · rw [hreport]
      cases stated.report <;> rfl
    · rw [hnull, hnone]
      rfl

/-- Entries give the stated values, and the defaults where they state none. -/
theorem StatedBy.setEntries_eq (h : stated.StatedBy entries) (hsorted : KeysSorted entries) :
    Section.setEntries ConvertSettings.fields ConvertSettings.defaults entries =
      .ok (stated.applyTo ConvertSettings.defaults) := by
  obtain ⟨last, hset⟩ := Section.exists_setEntries (h.takes hsorted) ConvertSettings.defaults
  have hshown (key : Text) :
      ConvertSettings.shown key last =
        ConvertSettings.shown key (stated.applyTo ConvertSettings.defaults) := by
    by_cases hkey : key ∈ ConvertSettings.fields.map Section.Field.key
    · rw [h.shown_effective hkey,
        Section.shown_of_setEntries ConvertSettings.lawful hsorted hset hkey]
    · rw [ConvertSettings.shown_of_not_mem hkey, ConvertSettings.shown_of_not_mem hkey]
  rw [hset, ConvertSettings.eq_of_shown hshown]

/-- A section gives the stated values, and the defaults where it states none. -/
theorem readAt_of_stated {root : Document} (hsorted : root.Sorted)
    (hstated : stated.Stated (root.field? "convert".toList)) :
    Section.readAt "convert".toList ConvertSettings.fields .convertSection ConvertSettings.defaults
      root = .ok (stated.applyTo ConvertSettings.defaults) := by
  rw [Section.readAt_eq_readAny]
  rcases hstated with ⟨hnone | hnull, rfl⟩ | ⟨entries, hobject, hentries⟩
  · rw [hnone]
    rfl
  · rw [hnull]
    rfl
  · have hkeys := (sorted_object_iff.mp (hsorted.field? hobject)).1
    rw [hobject]
    exact hentries.setEntries_eq hkeys

/-! ### Settings of a conversion -/

/-- The settings of a conversion are the effective values and no others. It has settings exactly if
the line numbers and steps that come out of the flags are in range, and so are those without the
flags. -/
theorem resolve_eq_ok_iff {texts : List Text} {settings : Settings}
    {chosen : ConvertSettings RawText} (hloaded : Settings.ofLayers texts = .ok settings)
    (hstated : stated.Stated (settings.document.field? "convert".toList)) :
    flags.resolve settings = .ok chosen ↔
      chosen = flags.effective stated ∧ (flags.effective stated).Numbered ∧
        (nothing.effective stated).Numbered := by
  have hread := readAt_of_stated (Settings.sorted_of_ofLayers hloaded) hstated
  have hconvert : settings.convert = (stated.applyTo ConvertSettings.defaults).validate := by
    rw [Settings.convert, ConvertSettings.ofDocument, hread]
  rw [resolve, hconvert, ← map_applyTo_defaults, ConvertSettings.numbered_map]
  by_cases hbare : (stated.applyTo ConvertSettings.defaults).Numbered
  · rw [ConvertSettings.validate_eq_ok_iff.mpr ⟨rfl, hbare⟩]
    show (flags.applyTo ((stated.applyTo ConvertSettings.defaults).map .ofText)).validate =
      .ok chosen ↔ _
    rw [applyTo_map_applyTo, ConvertSettings.validate_eq_ok_iff]
    constructor
    · rintro ⟨rfl, hnumbered⟩
      exact ⟨rfl, hnumbered, hbare⟩
    · rintro ⟨rfl, hnumbered, -⟩
      exact ⟨rfl, hnumbered⟩
  · cases hvalidate : (stated.applyTo ConvertSettings.defaults).validate with
    | error e => exact iff_of_false (by simp) fun h ↦ hbare h.2.2
    | ok found => exact absurd (ConvertSettings.validate_eq_ok_iff.mp hvalidate).2 hbare

/-- A start line that is given takes the place of the one in the section; the others stay. -/
theorem resolve_eq_ok_iff_startLine :
    ∃ settings, ∃ stated : ConvertFlags Text,
      Settings.ofLayers
          ["convert:\n  start_line: 100\n  line_step: 5\n  output: cfg.txt\n".toList] =
        .ok settings ∧
      stated.Stated (settings.document.field? "convert".toList) ∧
      resolve ⟨none, none, some 200, none, none⟩ settings =
        .ok ⟨ConvertSettings.defaults.input, RawText.ofText "cfg.txt".toList, 200, 5, none⟩ := by
  let members := object [("line_step".toList, .integer 5),
    ("output".toList, .text "cfg.txt".toList), ("start_line".toList, .integer 100)]
  have hlayers : Settings.layers
      ["convert:\n  start_line: 100\n  line_step: 5\n  output: cfg.txt\n".toList] =
        .ok [object [("convert".toList, members)]] := by
    decide +kernel
  have hloaded := Settings.ofLayers_of_layers hlayers
  have hstated : Stated ⟨none, some "cfg.txt".toList, some 100, some 5, none⟩ (some members) :=
    Or.inr ⟨_, rfl, ⟨rfl, rfl, rfl, by decide, rfl, by decide, Or.inl rfl⟩⟩
  exact ⟨_, _, hloaded, hstated, (resolve_eq_ok_iff hloaded hstated).mpr
    ⟨rfl, ⟨by decide, by decide⟩, ⟨by decide, by decide⟩⟩⟩

/-- A start line that is given in place of 0: the effective values are in range, and yet the
conversion is refused. -/
theorem resolve_overriddenStart :
    ∃ settings, ∃ stated : ConvertFlags Text,
      Settings.ofLayers ["convert:\n  start_line: 0\n".toList] = .ok settings ∧
      stated.Stated (settings.document.field? "convert".toList) ∧
      (effective ⟨none, none, some 100, none, none⟩ stated).Numbered ∧
      resolve ⟨none, none, some 100, none, none⟩ settings =
        .error (.badNumbering (.invalidStartLine 0)) := by
  have hlayers : Settings.layers ["convert:\n  start_line: 0\n".toList] =
      .ok [object [("convert".toList, object [("start_line".toList, .integer 0)])]] := by
    decide +kernel
  have hstated : Stated ⟨none, none, some 0, none, none⟩
      (some (object [("start_line".toList, .integer 0)])) :=
    Or.inr ⟨_, rfl, ⟨rfl, rfl, rfl, by decide, rfl, by decide, Or.inl rfl⟩⟩
  exact ⟨_, _, Settings.ofLayers_of_layers hlayers, hstated, ⟨by decide, by decide⟩, rfl⟩

end ConvertFlags

end ChanceDeck
