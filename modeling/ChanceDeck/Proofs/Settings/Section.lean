import ChanceDeck.Proofs.Settings.Document
import ChanceDeck.Settings.Section
import Mathlib.Data.List.Nodup

/-!
# Reading sections

The fields of a section set different parts of its settings (`Section.Lawful`): what a field has set
shows as the value it took, and stays as it is when other fields are set. Both sections are of this
kind (`ConvertSettings.lawful`, `TokenizeSettings.lawful`).

For lawful fields the entries of a section count one by one. Each field that is named shows its
value in the end (`set_of_setEntries`), and a section says nothing beyond the entries that move a
field away from its default (`setEntries_eq_of_agree`).
-/

set_option autoImplicit false
set_option relaxedAutoImplicit false

namespace ChanceDeck

namespace Section

open Document

variable {σ α : Type}

/-! ### Lawful fields -/

/-- Whether fields set different parts of settings. `shown` tells how the part of a field looks as a
value. -/
structure Lawful (fields : List (Field σ)) (defaults : σ) (shown : Text → σ → Document) :
    Prop where
  nodup_keys : (fields.map Field.key).Nodup
  set_eq_ok_iff : ∀ field ∈ fields, ∀ settings value next,
    field.set settings value = .ok next ↔ (∃ taken, field.set defaults value = .ok taken) ∧
      shown field.key next = value ∧ ∀ key, key ≠ field.key → shown key next = shown key settings
  plain : ∀ field ∈ fields, ∀ value taken, field.set defaults value = .ok taken →
    value.IsPlain
  shown_null : ∀ field ∈ fields, ∀ taken, field.set defaults .null = .ok taken →
    shown field.key defaults = .null

theorem mapError_eq_ok_iff {ε δ : Type} {wrap : ε → δ} {found : Except ε α} {part : α} :
    found.mapError wrap = .ok part ↔ found = .ok part := by
  cases found <;> simp [Except.mapError]

theorem map_eq_ok_iff {ε β : Type} {change : α → β} {found : Except ε α} {next : β} :
    found.map change = .ok next ↔ ∃ part, found = .ok part ∧ change part = next := by
  cases found <;> simp [Except.map]

/-- A field that puts what a value says into its own part of settings is lawful. -/
theorem set_eq_ok_iff_of_put {field : Field σ} {defaults : σ} {shown : Text → σ → Document}
    (hshown : ∀ s t, (∀ key, shown key s = shown key t) → s = t)
    (decode : Document → Except SectionError α) (put : σ → α → σ)
    (hset : ∀ settings value, field.set settings value = (decode value).map (put settings))
    (hself : ∀ settings value part, decode value = .ok part →
      shown field.key (put settings part) = value)
    (hother : ∀ settings part key, key ≠ field.key →
      shown key (put settings part) = shown key settings)
    (settings : σ) (value : Document) (next : σ) :
    field.set settings value = .ok next ↔ (∃ taken, field.set defaults value = .ok taken) ∧
      shown field.key next = value ∧
      ∀ key, key ≠ field.key → shown key next = shown key settings := by
  simp only [hset, map_eq_ok_iff]
  constructor
  · rintro ⟨part, hpart, rfl⟩
    exact ⟨⟨_, part, hpart, rfl⟩, hself settings value part hpart, hother settings part⟩
  · rintro ⟨⟨-, part, hpart, -⟩, hkey, hkeys⟩
    -- Settings that show the same under every key are the same.
    refine ⟨part, hpart, hshown _ _ fun key ↦ ?_⟩
    by_cases h : key = field.key
    · rw [h, hself settings value part hpart, hkey]
    · rw [hother settings part key h, hkeys key h]

theorem path_eq_ok_iff {value : Document} {part : Text} :
    path value = .ok part ↔ value = .text part := by
  cases value <;> simp [path]

theorem path?_eq_ok_iff {value : Document} {part : Option Text} :
    path? value = .ok part ↔ value = part.elim .null .text := by
  cases value <;> cases part <;> simp [path?, path, Except.map]

theorem natural_eq_ok_iff {bits part : Nat} {value : Document} :
    natural bits value = .ok part ↔ value = .integer part ∧ part < Nat.pow 2 bits := by
  cases value with
  | integer n =>
    rw [natural]
    generalize Nat.pow 2 bits = limit
    split_ifs with h
    · simp only [Except.ok.injEq, integer.injEq]
      omega
    · simp only [integer.injEq, false_iff]
      omega
  | _ => simp [natural]

theorem plain_of_path {value : Document} {part : Text} (h : path value = .ok part) :
    value.IsPlain := by
  rw [path_eq_ok_iff.mp h]
  exact Or.inr rfl

theorem plain_of_path? {value : Document} {part : Option Text} (h : path? value = .ok part) :
    value.IsPlain := by
  rw [path?_eq_ok_iff.mp h]
  cases part with
  | none => exact Or.inl rfl
  | some part => exact Or.inr rfl

theorem plain_of_natural {bits part : Nat} {value : Document} (h : natural bits value = .ok part) :
    value.IsPlain := by
  rw [(natural_eq_ok_iff.mp h).1]
  exact Or.inr rfl

/-! ### Setting one field -/

variable {fields : List (Field σ)} {defaults settings next last : σ}
  {shown : Text → σ → Document} {field other : Field σ} {value : Document}

namespace Lawful

variable (hlawful : Lawful fields defaults shown)

include hlawful

/-- What is set shows. -/
theorem shown_of_set (hfield : field ∈ fields) (hset : field.set settings value = .ok next) :
    shown field.key next = value :=
  ((hlawful.set_eq_ok_iff field hfield settings value next).mp hset).2.1

/-- A value that a field has taken already changes nothing. -/
theorem set_self_iff (hfield : field ∈ fields) : field.set settings value = .ok settings ↔
    (∃ taken, field.set defaults value = .ok taken) ∧ shown field.key settings = value := by
  rw [hlawful.set_eq_ok_iff field hfield]
  exact and_congr_right fun _ ↦ and_iff_left fun _ _ ↦ rfl

theorem set_again (hfield : field ∈ fields) (hset : field.set settings value = .ok next) :
    field.set next value = .ok next :=
  (hlawful.set_self_iff hfield).mpr
    ⟨((hlawful.set_eq_ok_iff field hfield settings value next).mp hset).1,
      hlawful.shown_of_set hfield hset⟩

/-- What one field has set stays when another is set. -/
theorem set_kept (hfield : field ∈ fields) (hother : other ∈ fields) (hne : field.key ≠ other.key)
    (hkept : field.set settings value = .ok settings) {document : Document}
    (hset : other.set settings document = .ok next) : field.set next value = .ok next := by
  obtain ⟨htaken, hshown⟩ := (hlawful.set_self_iff hfield).mp hkept
  have hrest := ((hlawful.set_eq_ok_iff other hother settings document next).mp hset).2.2
  exact (hlawful.set_self_iff hfield).mpr ⟨htaken, (hrest field.key hne).trans hshown⟩

/-- A field that takes null takes it for its default. -/
theorem set_null (hfield : field ∈ fields) (hset : field.set settings .null = .ok next) :
    field.set defaults .null = .ok defaults := by
  obtain ⟨taken, htaken⟩ := ((hlawful.set_eq_ok_iff field hfield settings .null next).mp hset).1
  exact (hlawful.set_self_iff hfield).mpr
    ⟨⟨taken, htaken⟩, hlawful.shown_null field hfield taken htaken⟩

theorem plain_of_set (hfield : field ∈ fields) (hset : field.set settings value = .ok next) :
    value.IsPlain := by
  obtain ⟨taken, htaken⟩ := ((hlawful.set_eq_ok_iff field hfield settings value next).mp hset).1
  exact hlawful.plain field hfield value taken htaken

theorem find?_eq_some_iff {key : Text} :
    fields.find? (·.key = key) = some field ↔ field ∈ fields ∧ field.key = key := by
  constructor
  · intro h
    have hkey := List.find?_some h
    exact ⟨List.mem_of_find?_eq_some h, of_decide_eq_true hkey⟩
  · rintro ⟨hfield, rfl⟩
    cases hfound : fields.find? (·.key = field.key) with
    | none => exact absurd (List.find?_eq_none.mp hfound field hfield) (by simp)
    | some found =>
      have hkey := List.find?_some hfound
      rw [List.inj_on_of_nodup_map hlawful.nodup_keys (List.mem_of_find?_eq_some hfound) hfield
        (of_decide_eq_true hkey)]

end Lawful

/-! ### Setting fields from entries -/

variable {key : Text} {entries rest : List (Text × Document)}

theorem setEntries_cons_of_none (h : fields.find? (·.key = key) = none) :
    setEntries fields settings ((key, value) :: rest) = setEntries fields settings rest := by
  rw [setEntries, h]

theorem setEntries_cons_of_ok (h : fields.find? (·.key = key) = some field)
    (hset : field.set settings value = .ok next) :
    setEntries fields settings ((key, value) :: rest) = setEntries fields next rest := by
  rw [setEntries, h]
  simp only [hset]

theorem setEntries_cons_of_error {error : SectionError}
    (h : fields.find? (·.key = key) = some field) (hset : field.set settings value = .error error) :
    setEntries fields settings ((key, value) :: rest) = .error error := by
  rw [setEntries, h]
  simp only [hset]

/-- The first of the entries that are set: nothing reads it, or its field takes it. -/
theorem setEntries_cons_eq_ok (h : setEntries fields settings ((key, value) :: rest) = .ok last) :
    (fields.find? (·.key = key) = none ∧ setEntries fields settings rest = .ok last) ∨
    ∃ field next, fields.find? (·.key = key) = some field ∧ field.set settings value = .ok next ∧
      setEntries fields next rest = .ok last := by
  rw [setEntries] at h
  cases hfind : fields.find? (·.key = key) with
  | none => exact Or.inl ⟨rfl, by simpa only [hfind] using h⟩
  | some field =>
    cases hset : field.set settings value with
    | error e => simp [hfind, hset] at h
    | ok next => exact Or.inr ⟨field, next, rfl, hset, by simpa only [hfind, hset] using h⟩

section Entries

variable (hlawful : Lawful fields defaults shown)

include hlawful

/-- What a field has set stays while entries with other keys are set. -/
theorem set_kept_of_setEntries (hfield : field ∈ fields)
    (hkept : field.set settings value = .ok settings)
    (hkeys : ∀ entry ∈ entries, entry.1 ≠ field.key)
    (hset : setEntries fields settings entries = .ok last) : field.set last value = .ok last := by
  induction entries generalizing settings with
  | nil =>
    obtain rfl : settings = last := Except.ok.inj hset
    exact hkept
  | cons entry rest ih =>
    obtain ⟨key, document⟩ := entry
    obtain ⟨hkey, hrest⟩ := List.forall_mem_cons.mp hkeys
    rcases setEntries_cons_eq_ok hset with ⟨-, hlast⟩ | ⟨other, next, hfind, hother, hlast⟩
    · exact ih hkept hrest hlast
    · obtain ⟨hmem, rfl⟩ := hlawful.find?_eq_some_iff.mp hfind
      exact ih (hlawful.set_kept hfield hmem hkey.symm hkept hother) hrest hlast

/-- Every field that entries name has taken its value in the end. -/
theorem set_of_setEntries (hsorted : KeysSorted entries)
    (hset : setEntries fields settings entries = .ok last) (hfield : field ∈ fields)
    (hget : get? field.key entries = some value) : field.set last value = .ok last := by
  induction entries generalizing settings with
  | nil => simp [get?] at hget
  | cons entry rest ih =>
    obtain ⟨key, document⟩ := entry
    obtain ⟨hfirst, hrest⟩ := keysSorted_cons_iff.mp hsorted
    rw [get?] at hget
    by_cases hkey : field.key = key
    · subst hkey
      obtain rfl : document = value := by simpa using hget
      rcases setEntries_cons_eq_ok hset with ⟨hnone, -⟩ | ⟨other, next, hfind, htaken, hlast⟩
      · exact absurd (List.find?_eq_none.mp hnone field hfield) (by simp)
      · rw [hlawful.find?_eq_some_iff.mpr ⟨hfield, rfl⟩] at hfind
        obtain rfl : field = other := Option.some.inj hfind
        exact set_kept_of_setEntries hlawful hfield (hlawful.set_again hfield htaken)
          (fun entry hentry ↦ ne_of_gt (hfirst entry hentry)) hlast
    · rw [if_neg hkey] at hget
      rcases setEntries_cons_eq_ok hset with ⟨-, hlast⟩ | ⟨_, _, -, -, hlast⟩
      · exact ih hrest hlast hget
      · exact ih hrest hlast hget

end Entries

/-! ### A value in the place of a section -/

/-- The settings that a value in the place of a section gives, if there is one. -/
def readAny (fields : List (Field σ)) (expected : Expected) (defaults : σ) :
    Option Document → Except SectionError σ
  | none => .ok defaults
  | some .null => .ok defaults
  | some found => read fields expected defaults found

theorem readAt_eq_readAny {expected : Expected} {root : Document} :
    readAt key fields expected defaults root =
      readAny fields expected defaults (root.field? key) := by
  rw [readAt]
  cases root.field? key with
  | none => rfl
  | some found => cases found <;> rfl

/-! ### Entries that tell something -/

/-- Whether a value leaves a field at its default. -/
def Field.Neutral (field : Field σ) (defaults : σ) (value : Document) : Prop :=
  field.set defaults value = .ok defaults

/-- Whether a field gets the same from two values that may be missing: they are equal, or each of
them is missing or leaves the field at its default. -/
def Field.Agrees (field : Field σ) (defaults : σ) (first second : Option Document) : Prop :=
  first = second ∨ (∀ value, first = some value → field.Neutral defaults value) ∧
    ∀ value, second = some value → field.Neutral defaults value

open Classical in
/-- The entries of fields that these do not take for their default. -/
noncomputable def telling (fields : List (Field σ)) (defaults : σ)
    (entries : List (Text × Document)) : List (Text × Document) :=
  entries.filter fun entry ↦
    ∃ field ∈ fields, field.key = entry.1 ∧ ¬field.Neutral defaults entry.2

theorem mem_telling_iff {entry : Text × Document} : entry ∈ telling fields defaults entries ↔
    entry ∈ entries ∧ ∃ field ∈ fields, field.key = entry.1 ∧ ¬field.Neutral defaults entry.2 := by
  simp only [telling, List.mem_filter, decide_eq_true_eq]

theorem telling_cons_of_neutral {entry : Text × Document}
    (h : ∀ field ∈ fields, field.key = entry.1 → field.Neutral defaults entry.2) :
    telling fields defaults (entry :: rest) = telling fields defaults rest := by
  refine List.filter_cons_of_neg fun hentry ↦ ?_
  simp only [decide_eq_true_eq] at hentry
  obtain ⟨field, hfield, hkey, htells⟩ := hentry
  exact htells (h field hfield hkey)

theorem telling_cons_of_not_neutral {entry : Text × Document} (hfield : field ∈ fields)
    (hkey : field.key = entry.1) (h : ¬field.Neutral defaults entry.2) :
    telling fields defaults (entry :: rest) = entry :: telling fields defaults rest := by
  refine List.filter_cons_of_pos ?_
  simp only [decide_eq_true_eq]
  exact ⟨field, hfield, hkey, h⟩

/-- Entries that tell nothing may be left out, as long as the settings before them still have the
defaults there. -/
theorem setEntries_telling (hlawful : Lawful fields defaults shown) (hsorted : KeysSorted entries)
    (hneutral : ∀ entry ∈ entries, ∀ field ∈ fields, field.key = entry.1 →
      field.Neutral defaults entry.2 → field.set settings entry.2 = .ok settings) :
    setEntries fields settings (telling fields defaults entries) =
      setEntries fields settings entries := by
  induction entries generalizing settings with
  | nil => rfl
  | cons entry rest ih =>
    obtain ⟨key, value⟩ := entry
    obtain ⟨hfirst, hrest⟩ := keysSorted_cons_iff.mp hsorted
    obtain ⟨hhere, hlater⟩ := List.forall_mem_cons.mp hneutral
    cases hfind : fields.find? (·.key = key) with
    | none =>
      have hunread : ∀ field ∈ fields, field.key ≠ key := by
        intro field hfield hkey
        exact List.find?_eq_none.mp hfind field hfield (decide_eq_true hkey)
      rw [telling_cons_of_neutral fun field hfield hkey ↦ absurd hkey (hunread field hfield),
        setEntries_cons_of_none hfind, ih hrest hlater]
    | some field =>
      obtain ⟨hfield, rfl⟩ := hlawful.find?_eq_some_iff.mp hfind
      by_cases hdefault : field.Neutral defaults value
      · have honly : ∀ other ∈ fields, other.key = field.key → other.Neutral defaults value := by
          intro other hother hkey
          rwa [List.inj_on_of_nodup_map hlawful.nodup_keys hother hfield hkey]
        rw [telling_cons_of_neutral honly,
          setEntries_cons_of_ok hfind (hhere field hfield rfl hdefault), ih hrest hlater]
      · rw [telling_cons_of_not_neutral hfield rfl hdefault]
        cases hset : field.set settings value with
        | error e => rw [setEntries_cons_of_error hfind hset, setEntries_cons_of_error hfind hset]
        | ok next =>
          rw [setEntries_cons_of_ok hfind hset, setEntries_cons_of_ok hfind hset]
          refine ih hrest fun entry hentry other hother hkey hquiet ↦ ?_
          have hne : other.key ≠ field.key := hkey ▸ ne_of_gt (hfirst entry hentry)
          have hkept := hlater entry hentry other hother hkey hquiet
          exact hlawful.set_kept hother hfield hne hkept hset

/-- Entries tell the same if every field gets the same from them. -/
theorem telling_eq_of_agree {others : List (Text × Document)} (hentries : KeysSorted entries)
    (hothers : KeysSorted others) (hagree : ∀ field ∈ fields,
      field.Agrees defaults (get? field.key entries) (get? field.key others)) :
    telling fields defaults entries = telling fields defaults others := by
  have hsubset : ∀ {first second : List (Text × Document)}, KeysSorted first → KeysSorted second →
      (∀ field ∈ fields, field.Agrees defaults (get? field.key first) (get? field.key second)) →
      ∀ entry ∈ telling fields defaults first, entry ∈ telling fields defaults second := by
    rintro first second hfirst hsecond hagree ⟨key, value⟩ hentry
    obtain ⟨hmem, field, hfield, rfl, htells⟩ := mem_telling_iff.mp hentry
    have hget := (get?_eq_some_iff hfirst).mpr hmem
    rcases hagree field hfield with hsame | ⟨hneutral, -⟩
    · rw [hget] at hsame
      exact mem_telling_iff.mpr ⟨mem_of_get? hsame.symm, field, hfield, rfl, htells⟩
    · exact absurd (hneutral value hget) htells
  have hback : ∀ field ∈ fields,
      field.Agrees defaults (get? field.key others) (get? field.key entries) :=
    fun field hfield ↦ (hagree field hfield).imp Eq.symm And.symm
  exact eq_of_mem_iff (hentries.filter _) (hothers.filter _) fun entry ↦
    ⟨hsubset hentries hothers hagree entry, hsubset hothers hentries hback entry⟩

/-- Two sections from which every field gets the same give the same settings, or fail alike. -/
theorem setEntries_eq_of_agree (hlawful : Lawful fields defaults shown)
    {others : List (Text × Document)} (hentries : KeysSorted entries) (hothers : KeysSorted others)
    (hagree : ∀ field ∈ fields,
      field.Agrees defaults (get? field.key entries) (get? field.key others)) :
    setEntries fields defaults entries = setEntries fields defaults others := by
  have hneutral : ∀ {found : List (Text × Document)}, ∀ entry ∈ found, ∀ field ∈ fields,
      field.key = entry.1 → field.Neutral defaults entry.2 →
      field.set defaults entry.2 = .ok defaults := fun _ _ _ _ _ h ↦ h
  rw [← setEntries_telling hlawful hentries hneutral, ← setEntries_telling hlawful hothers hneutral,
    telling_eq_of_agree hentries hothers hagree]

end Section

/-! ### The two sections -/

namespace ConvertSettings

open Document

/-- How a field of the settings looks as a value. -/
def shown (key : Text) (settings : ConvertSettings) : Document :=
  if key = "input".toList then .text settings.input
  else if key = "output".toList then .text settings.output
  else if key = "start_line".toList then .integer settings.startLine
  else if key = "line_step".toList then .integer settings.lineStep
  else if key = "report".toList then settings.report.elim .null .text
  else .null

section Shown

variable (settings : ConvertSettings)

theorem shown_input : shown "input".toList settings = .text settings.input :=
  if_pos rfl

theorem shown_output : shown "output".toList settings = .text settings.output := by
  rw [shown, if_neg (by decide), if_pos rfl]

theorem shown_startLine : shown "start_line".toList settings = .integer settings.startLine := by
  rw [shown, if_neg (by decide), if_neg (by decide), if_pos rfl]

theorem shown_lineStep : shown "line_step".toList settings = .integer settings.lineStep := by
  rw [shown, if_neg (by decide), if_neg (by decide), if_neg (by decide), if_pos rfl]

theorem shown_report :
    shown "report".toList settings = settings.report.elim .null .text := by
  rw [shown, if_neg (by decide), if_neg (by decide), if_neg (by decide), if_neg (by decide),
    if_pos rfl]

end Shown

theorem eq_of_shown {s t : ConvertSettings} (h : ∀ key, shown key s = shown key t) : s = t := by
  have hinput : s.input = t.input := by
    simpa only [shown_input, text.injEq] using h "input".toList
  have houtput : s.output = t.output := by
    simpa only [shown_output, text.injEq] using h "output".toList
  have hstart : s.startLine = t.startLine := by
    simpa only [shown_startLine, integer.injEq, Int.natCast_inj] using h "start_line".toList
  have hstep : s.lineStep = t.lineStep := by
    simpa only [shown_lineStep, integer.injEq, Int.natCast_inj] using h "line_step".toList
  have hreport : s.report = t.report := by
    have hshown := h "report".toList
    rw [shown_report, shown_report] at hshown
    cases hs : s.report <;> cases ht : t.report <;> simp_all
  cases s
  cases t
  congr

theorem lawful : Section.Lawful fields defaults shown where
  nodup_keys := by decide
  set_eq_ok_iff := by
    intro field hfield
    simp only [fields, List.mem_cons, List.not_mem_nil, or_false] at hfield
    rcases hfield with rfl | rfl | rfl | rfl | rfl <;>
      refine Section.set_eq_ok_iff_of_put (fun _ _ ↦ eq_of_shown) _ _ (fun _ _ ↦ rfl)
        (fun settings value part hpart ↦ ?_) (fun settings part key hkey ↦ ?_)
    · exact (shown_input _).trans (Section.path_eq_ok_iff.mp hpart).symm
    · change key ≠ "input".toList at hkey
      rw [shown, if_neg hkey, shown, if_neg hkey]
    · exact (shown_output _).trans (Section.path_eq_ok_iff.mp hpart).symm
    · change key ≠ "output".toList at hkey
      simp only [shown, if_neg hkey]
    · exact (shown_startLine _).trans (Section.natural_eq_ok_iff.mp hpart).1.symm
    · change key ≠ "start_line".toList at hkey
      simp only [shown, if_neg hkey]
    · exact (shown_lineStep _).trans (Section.natural_eq_ok_iff.mp hpart).1.symm
    · change key ≠ "line_step".toList at hkey
      simp only [shown, if_neg hkey]
    · exact (shown_report _).trans (Section.path?_eq_ok_iff.mp hpart).symm
    · change key ≠ "report".toList at hkey
      simp only [shown, if_neg hkey]
  plain := by
    intro field hfield value taken h
    simp only [fields, List.mem_cons, List.not_mem_nil, or_false] at hfield
    rcases hfield with rfl | rfl | rfl | rfl | rfl <;>
      obtain ⟨part, hpart, -⟩ := Section.map_eq_ok_iff.mp h
    · exact Section.plain_of_path hpart
    · exact Section.plain_of_path hpart
    · exact Section.plain_of_natural hpart
    · exact Section.plain_of_natural hpart
    · exact Section.plain_of_path? hpart
  shown_null := by
    intro field hfield taken h
    simp only [fields, List.mem_cons, List.not_mem_nil, or_false] at hfield
    rcases hfield with rfl | rfl | rfl | rfl | rfl
    · exact absurd h (by simp [Section.path, Except.map])
    · exact absurd h (by simp [Section.path, Except.map])
    · exact absurd h (by simp [Section.natural, Except.map])
    · exact absurd h (by simp [Section.natural, Except.map])
    · exact shown_report defaults

end ConvertSettings

namespace TokenizeSettings

open Document

/-- How a field of the settings looks as a value. -/
def shown (key : Text) (settings : TokenizeSettings) : Document :=
  if key = "input".toList then .text settings.input
  else if key = "output".toList then .text settings.output
  else if key = "base_address".toList then .integer settings.baseAddress.toNat
  else .null

section Shown

variable (settings : TokenizeSettings)

theorem shown_input : shown "input".toList settings = .text settings.input :=
  if_pos rfl

theorem shown_output : shown "output".toList settings = .text settings.output := by
  rw [shown, if_neg (by decide), if_pos rfl]

theorem shown_baseAddress :
    shown "base_address".toList settings = .integer settings.baseAddress.toNat := by
  rw [shown, if_neg (by decide), if_neg (by decide), if_pos rfl]

end Shown

theorem eq_of_shown {s t : TokenizeSettings} (h : ∀ key, shown key s = shown key t) : s = t := by
  have hinput : s.input = t.input := by
    simpa only [shown_input, text.injEq] using h "input".toList
  have houtput : s.output = t.output := by
    simpa only [shown_output, text.injEq] using h "output".toList
  have hbase : s.baseAddress = t.baseAddress := by
    simpa only [shown_baseAddress, integer.injEq, Int.natCast_inj, UInt16.toNat_inj] using
      h "base_address".toList
  cases s
  cases t
  congr

theorem lawful : Section.Lawful fields defaults shown where
  nodup_keys := by decide
  set_eq_ok_iff := by
    intro field hfield
    simp only [fields, List.mem_cons, List.not_mem_nil, or_false] at hfield
    rcases hfield with rfl | rfl | rfl <;>
      refine Section.set_eq_ok_iff_of_put (fun _ _ ↦ eq_of_shown) _ _ (fun _ _ ↦ rfl)
        (fun settings value part hpart ↦ ?_) (fun settings part key hkey ↦ ?_)
    · exact (shown_input _).trans (Section.path_eq_ok_iff.mp hpart).symm
    · change key ≠ "input".toList at hkey
      simp only [shown, if_neg hkey]
    · exact (shown_output _).trans (Section.path_eq_ok_iff.mp hpart).symm
    · change key ≠ "output".toList at hkey
      simp only [shown, if_neg hkey]
    · obtain ⟨rfl, hlt⟩ := Section.natural_eq_ok_iff.mp hpart
      refine (shown_baseAddress _).trans ?_
      rw [UInt16.toNat_ofNat_of_lt' hlt]
    · change key ≠ "base_address".toList at hkey
      simp only [shown, if_neg hkey]
  plain := by
    intro field hfield value taken h
    simp only [fields, List.mem_cons, List.not_mem_nil, or_false] at hfield
    rcases hfield with rfl | rfl | rfl <;>
      obtain ⟨part, hpart, -⟩ := Section.map_eq_ok_iff.mp h
    · exact Section.plain_of_path hpart
    · exact Section.plain_of_path hpart
    · exact Section.plain_of_natural hpart
  shown_null := by
    intro field hfield taken h
    simp only [fields, List.mem_cons, List.not_mem_nil, or_false] at hfield
    rcases hfield with rfl | rfl | rfl
    · exact absurd h (by simp [Section.path, Except.map])
    · exact absurd h (by simp [Section.path, Except.map])
    · exact absurd h (by simp [Section.natural, Except.map])

end TokenizeSettings

end ChanceDeck
