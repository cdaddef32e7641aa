import ChanceDeck.Proofs.Settings.Merge
import ChanceDeck.Proofs.Settings.Pointer
import ChanceDeck.Proofs.Settings.Section

/-!
# Sections under a later layer

A layer changes what stands in the place of a section, and layers after it may change that again.
Two values in that place are alike (`Section.Alike`) if they are equal, or if each of them is an
object or gives the defaults and every field gets the same from both. Values that are alike stay so
under every later layer (`Alike.overlay`) and give the same settings (`Alike.readAny_eq`).

A layer spares a section (`Section.Spares`) if it does not mention it, or moves nothing that
earlier layers have set. Then what it leaves is alike to what was there (`alike_of_spares`). A
layer that sets nothing has no other way to keep the settings of a section (`spares_of_readAt_eq`).
-/

set_option autoImplicit false
set_option relaxedAutoImplicit false

namespace ChanceDeck

namespace Document

/-- A document overridden by a later one, unless that is null. -/
def overlay (merged later : Document) : Document :=
  if later.isNull then merged else merge merged later

variable {key : Text} {merged later : Document} {members : List (Text × Document)}

theorem field?_overlay (hlater : later.Sorted) (hobject : later.IsObject) :
    (overlay merged later).field? key =
      ((later.field? key).map (merge ((merged.field? key).getD .null))).or (merged.field? key) := by
  obtain ⟨entries, rfl⟩ := hobject
  exact field?_merge (sorted_object_iff.mp hlater).1

/-- Whether a later document leaves the value of a key alone: it is null, or an object without the
key. -/
def PassesOver (key : Text) (later : Document) : Prop :=
  later = .null ∨ later.IsObject ∧ later.field? key = none

theorem field?_overlay_of_passesOver (hlater : later.Sorted) (h : later.PassesOver key) :
    (overlay merged later).field? key = merged.field? key := by
  rcases h with rfl | ⟨hobject, hnone⟩
  · rfl
  · rw [field?_overlay hlater hobject, hnone, Option.map_none, Option.none_or]

/-- An object in a later document is put over the earlier value of its key. -/
theorem field?_overlay_of_object (hlater : later.Sorted)
    (hmembers : later.field? key = some (.object members)) :
    (overlay merged later).field? key =
      some (merge ((merged.field? key).getD .null) (.object members)) := by
  rw [field?_overlay hlater (isObject_of_field? hmembers), hmembers, Option.map_some,
    Option.some_or]

/-- Any other later value takes the place of the earlier one, and so does what is no object, with no
value for the key. -/
theorem field?_overlay_of_not_object (hlater : later.Sorted) (hpasses : ¬later.PassesOver key)
    (hvalue : ∀ value, later.field? key = some value → ¬value.IsObject) :
    (overlay merged later).field? key = later.field? key := by
  obtain ⟨hnull, hmissing⟩ := not_or.mp hpasses
  by_cases hobject : later.IsObject
  · obtain ⟨value, hfound⟩ := Option.ne_none_iff_exists'.mp fun hnone ↦ hmissing ⟨hobject, hnone⟩
    rw [field?_overlay hlater hobject, hfound, Option.map_some, Option.some_or,
      merge_of_later_not_isObject (hvalue value hfound)]
  · cases later with
    | null => exact absurd rfl hnull
    | _ => exact congrArg (Document.field? key) (merge_of_later_not_isObject hobject)

/-- What a later document does to the value of a key: it leaves it alone, it puts an object over
it, or it puts what it has itself in its place. -/
theorem field?_overlay_cases (hlater : later.Sorted) (key : Text) : later.PassesOver key ∨
    (∃ members, later.field? key = some (.object members)) ∨
    ∀ merged, (overlay merged later).field? key = later.field? key := by
  by_cases hpasses : later.PassesOver key
  · exact Or.inl hpasses
  by_cases hvalue : ∃ members, later.field? key = some (.object members)
  · exact Or.inr (Or.inl hvalue)
  · refine Or.inr (Or.inr fun merged ↦ field?_overlay_of_not_object hlater hpasses ?_)
    rintro value hfound ⟨members, rfl⟩
    exact hvalue ⟨members, hfound⟩

theorem sorted_overlay (hmerged : merged.Sorted) (hlater : later.Sorted) :
    (overlay merged later).Sorted := by
  rw [overlay]
  split_ifs
  · exact hmerged
  · exact sorted_merge hmerged hlater

theorem sorted_foldl_overlay {laters : List Document} (hmerged : merged.Sorted)
    (hlaters : ∀ later ∈ laters, later.Sorted) : (laters.foldl overlay merged).Sorted := by
  induction laters generalizing merged with
  | nil => exact hmerged
  | cons later rest ih =>
    obtain ⟨hlater, hrest⟩ := List.forall_mem_cons.mp hlaters
    exact ih (sorted_overlay hmerged hlater) hrest

/-- Whether all leaves of a document set nothing. -/
def IsBlank (document : Document) : Prop :=
  ∀ leaf ∈ document.leaves [], leaf.2.setsNothing = true

instance : DecidablePred IsBlank := fun document ↦
  inferInstanceAs (Decidable (∀ leaf ∈ document.leaves [], leaf.2.setsNothing = true))

section Blank

variable {key : Text} {document value : Document} {members : List (Text × Document)}
  {items : List Document}

theorem IsBlank.get? (hblank : (object members).IsBlank)
    (hget : Document.get? key members = some value) : value.IsBlank := by
  rintro ⟨path, leaf⟩ hleaf
  exact hblank (key :: path, leaf)
    (HasLeaf.key (mem_of_get? hget) (hasLeaf_of_mem_leaves hleaf)).mem_leaves

theorem IsBlank.field? (hblank : document.IsBlank)
    (hfield : document.field? key = some value) : value.IsBlank := by
  obtain ⟨members, rfl⟩ := isObject_of_field? hfield
  exact hblank.get? hfield

theorem IsBlank.item (hblank : (list items).IsBlank) (hitem : value ∈ items) : value.IsBlank := by
  rintro ⟨path, leaf⟩ hleaf
  obtain ⟨i, hi⟩ := List.mem_iff_getElem?.mp hitem
  exact hblank (Decimal.natural i :: path, leaf)
    (HasLeaf.position hi (hasLeaf_of_mem_leaves hleaf)).mem_leaves

theorem IsBlank.eq_null (hblank : document.IsBlank) (hplain : document.IsPlain) :
    document = .null := by
  rcases hplain with rfl | hscalar
  · rfl
  · have hnothing := hblank ([], document) (HasLeaf.here (Or.inl hscalar)).mem_leaves
    rw [IsLeaf.setsNothing_eq (Or.inl hscalar), hscalar] at hnothing
    exact absurd hnothing (by decide)

end Blank

end Document

namespace Section

open Document

variable {σ : Type}

/-! ### Values in the place of a section -/

/-- The entries of a value in the place of a section. -/
def entriesOf : Option Document → List (Text × Document)
  | some (.object entries) => entries
  | _ => []

/-- Whether a value in the place of a section is an object or gives the defaults, so that an object
put over it counts entry by entry. -/
def IsOpen (fields : List (Field σ)) (expected : Expected) (defaults : σ)
    (value : Option Document) : Prop :=
  (∃ entries, value = some (.object entries)) ∨
    readAny fields expected defaults value = .ok defaults

/-- Whether two values in the place of a section count the same, under whatever later layers. -/
def Alike (fields : List (Field σ)) (expected : Expected) (defaults : σ)
    (first second : Option Document) : Prop :=
  first = second ∨ IsOpen fields expected defaults first ∧ IsOpen fields expected defaults second ∧
    ∀ field ∈ fields, field.Agrees defaults (get? field.key (entriesOf first))
      (get? field.key (entriesOf second))

/-- Whether a layer moves nothing in a section. It passes it over; or what it says there gives the
defaults, and so did the section before, or both are objects and the layer names only fields that
the section leaves at their defaults. -/
def Spares (key : Text) (fields : List (Field σ)) (expected : Expected) (defaults : σ)
    (merged layer : Document) : Prop :=
  layer.PassesOver key ∨
    readAt key fields expected defaults layer = .ok defaults ∧
      (readAt key fields expected defaults merged = .ok defaults ∨
        ∃ entries members, merged.field? key = some (.object entries) ∧
          layer.field? key = some (.object members) ∧
          ∀ field ∈ fields, get? field.key members ≠ none → ∀ value,
            get? field.key entries = some value → field.Neutral defaults value)

variable {fields : List (Field σ)} {expected : Expected} {defaults : σ}
  {shown : Text → σ → Document} {field : Field σ} {key : Text} {root merged later value : Document}
  {first second : Option Document}

theorem get?_entriesOf : get? key (entriesOf (some value)) = value.field? key := by
  cases value <;> rfl

theorem entriesOf_of_not_isObject (h : ¬value.IsObject) : entriesOf (some value) = [] := by
  cases value with
  | object entries => exact absurd (isObject_object entries) h
  | _ => rfl

theorem keysSorted_entriesOf (hsorted : ∀ found, first = some found → found.Sorted) :
    KeysSorted (entriesOf first) := by
  cases first with
  | none => exact List.Pairwise.nil
  | some found =>
    by_cases hobject : found.IsObject
    · obtain ⟨entries, rfl⟩ := hobject
      exact (sorted_object_iff.mp (hsorted _ rfl)).1
    · rw [entriesOf_of_not_isObject hobject]
      exact List.Pairwise.nil

theorem readAny_of_isOpen (h : IsOpen fields expected defaults first) :
    readAny fields expected defaults first = setEntries fields defaults (entriesOf first) := by
  rcases h with ⟨entries, rfl⟩ | hdefaults
  · rfl
  · cases first with
    | none => rfl
    | some found =>
      by_cases hobject : found.IsObject
      · obtain ⟨entries, rfl⟩ := hobject
        rfl
      · rw [hdefaults, entriesOf_of_not_isObject hobject]
        rfl

/-! ### Values that are alike -/

/-- The entry of a section under an object that is put over it. -/
theorem get?_entriesOf_merge {members : List (Text × Document)} (hmembers : KeysSorted members) :
    get? key (entriesOf (some (merge (first.getD .null) (.object members)))) =
      ((get? key members).map (merge ((get? key (entriesOf first)).getD .null))).or
        (get? key (entriesOf first)) := by
  rw [get?_entriesOf, field?_merge hmembers]
  cases first with
  | none => rfl
  | some found => rw [Option.getD_some, get?_entriesOf]

theorem isOpen_merge {members : List (Text × Document)} :
    IsOpen fields expected defaults (some (merge value (.object members))) := by
  obtain ⟨entries, hentries⟩ : (merge value (.object members)).IsObject := isObject_merge
  exact Or.inl ⟨entries, congrArg some hentries⟩

section Lawful

variable (hlawful : Lawful fields defaults shown)

include hlawful

/-- A later value takes the place of one that leaves a field at its default. -/
theorem merge_of_neutral (hfield : field ∈ fields)
    (hneutral : ∀ value, first = some value → field.Neutral defaults value) :
    merge (first.getD .null) later = later := by
  refine merge_of_not_isObject ?_
  cases first with
  | none => exact not_isObject_null
  | some value => exact (hlawful.plain_of_set hfield (hneutral value rfl)).not_isObject

/-- Fields that get the same from two values do so under an object that is put over both. -/
theorem Alike.merge (hagree : ∀ field ∈ fields, field.Agrees defaults
      (get? field.key (entriesOf first)) (get? field.key (entriesOf second)))
    {members : List (Text × Document)} (hmembers : KeysSorted members) :
    Alike fields expected defaults (some (Document.merge (first.getD .null) (.object members)))
      (some (Document.merge (second.getD .null) (.object members))) := by
  refine Or.inr ⟨isOpen_merge, isOpen_merge, fun field hfield ↦ ?_⟩
  rw [get?_entriesOf_merge hmembers, get?_entriesOf_merge hmembers]
  cases get? field.key members with
  | none => exact hagree field hfield
  | some later =>
    rcases hagree field hfield with hsame | ⟨hneutral, hneutral'⟩
    · exact Or.inl (by rw [hsame])
    · refine Or.inl ?_
      rw [Option.map_some, Option.map_some, merge_of_neutral hlawful hfield hneutral,
        merge_of_neutral hlawful hfield hneutral', Option.some_or, Option.some_or]

/-- Sections that are alike stay so under a later layer. -/
theorem Alike.overlay {other : Document} (hlater : later.Sorted)
    (halike : Alike fields expected defaults (merged.field? key) (other.field? key)) :
    Alike fields expected defaults ((Document.overlay merged later).field? key)
      ((Document.overlay other later).field? key) := by
  rcases field?_overlay_cases hlater key with hpasses | ⟨members, hmembers⟩ | htaken
  · rwa [field?_overlay_of_passesOver hlater hpasses, field?_overlay_of_passesOver hlater hpasses]
  · rw [field?_overlay_of_object hlater hmembers, field?_overlay_of_object hlater hmembers]
    rcases halike with hsame | ⟨-, -, hagree⟩
    · exact Or.inl (by rw [hsame])
    · exact Alike.merge hlawful hagree (sorted_object_iff.mp (hlater.field? hmembers)).1
  · rw [htaken, htaken]
    exact Or.inl rfl

/-- Sections that are alike stay so under any later layers. -/
theorem Alike.foldl_overlay {other : Document} {laters : List Document}
    (hlaters : ∀ later ∈ laters, later.Sorted)
    (halike : Alike fields expected defaults (merged.field? key) (other.field? key)) :
    Alike fields expected defaults ((laters.foldl Document.overlay merged).field? key)
      ((laters.foldl Document.overlay other).field? key) := by
  induction laters generalizing merged other with
  | nil => exact halike
  | cons later rest ih =>
    obtain ⟨hlater, hrest⟩ := List.forall_mem_cons.mp hlaters
    exact ih hrest (Alike.overlay hlawful hlater halike)

/-- Values that are alike give the same settings, or fail alike. -/
theorem Alike.readAny_eq (hfirst : ∀ found, first = some found → found.Sorted)
    (hsecond : ∀ found, second = some found → found.Sorted)
    (halike : Alike fields expected defaults first second) :
    readAny fields expected defaults first = readAny fields expected defaults second := by
  rcases halike with rfl | ⟨hopen, hopen', hagree⟩
  · rfl
  · rw [readAny_of_isOpen hopen, readAny_of_isOpen hopen',
      setEntries_eq_of_agree hlawful (keysSorted_entriesOf hfirst) (keysSorted_entriesOf hsecond)
        hagree]

/-! ### Layers that spare a section -/

/-- A section that gives the defaults leaves every field that it names at its default. -/
theorem neutral_of_readAny (hsorted : ∀ found, first = some found → found.Sorted)
    (hread : readAny fields expected defaults first = .ok defaults) (hfield : field ∈ fields)
    (hget : get? field.key (entriesOf first) = some value) : field.Neutral defaults value := by
  rw [readAny_of_isOpen (Or.inr hread)] at hread
  exact set_of_setEntries hlawful (keysSorted_entriesOf hsorted) hread hfield hget

/-- Entries that leave every field at its default give the defaults. -/
theorem setEntries_eq_defaults {entries : List (Text × Document)} (hentries : KeysSorted entries)
    (hneutral : ∀ field ∈ fields, ∀ value, get? field.key entries = some value →
      field.Neutral defaults value) : setEntries fields defaults entries = .ok defaults := by
  rw [setEntries_eq_of_agree hlawful hentries List.Pairwise.nil fun field hfield ↦
    Or.inr ⟨hneutral field hfield, fun _ h ↦ absurd h (Option.some_ne_none _).symm⟩]
  rfl

/-- An object that gives the defaults may be put over a section whose fields still have their
defaults where it names them. -/
theorem alike_merge_of_neutral {members : List (Text × Document)}
    (hopen : IsOpen fields expected defaults first) (hmembers : KeysSorted members)
    (hread : setEntries fields defaults members = .ok defaults)
    (hneutral : ∀ field ∈ fields, get? field.key members ≠ none → ∀ value,
      get? field.key (entriesOf first) = some value → field.Neutral defaults value) :
    Alike fields expected defaults first
      (some (Document.merge (first.getD .null) (.object members))) := by
  refine Or.inr ⟨hopen, isOpen_merge, fun field hfield ↦ ?_⟩
  rw [get?_entriesOf_merge hmembers]
  cases hget : get? field.key members with
  | none => exact Or.inl rfl
  | some later =>
    have hfirst := hneutral field hfield (hget ▸ Option.some_ne_none later)
    refine Or.inr ⟨hfirst, fun value hvalue ↦ ?_⟩
    rw [Option.map_some, Option.some_or, merge_of_neutral hlawful hfield hfirst] at hvalue
    exact Option.some.inj hvalue ▸ set_of_setEntries hlawful hmembers hread hfield hget

/-- Two values that give the defaults are alike. -/
theorem alike_of_defaults (hfirst : ∀ found, first = some found → found.Sorted)
    (hsecond : ∀ found, second = some found → found.Sorted)
    (hdefaults : readAny fields expected defaults first = .ok defaults)
    (hdefaults' : readAny fields expected defaults second = .ok defaults) :
    Alike fields expected defaults first second :=
  Or.inr ⟨Or.inr hdefaults, Or.inr hdefaults', fun _ hfield ↦
    Or.inr ⟨fun _ ↦ neutral_of_readAny hlawful hfirst hdefaults hfield,
      fun _ ↦ neutral_of_readAny hlawful hsecond hdefaults' hfield⟩⟩

/-- A layer that gives the defaults keeps a section that gives them. -/
theorem alike_overlay_of_defaults (hmerged : merged.Sorted) (hlater : later.Sorted)
    (hdefaults : readAny fields expected defaults (merged.field? key) = .ok defaults)
    (hdefaults' : readAny fields expected defaults (later.field? key) = .ok defaults) :
    Alike fields expected defaults (merged.field? key)
      ((Document.overlay merged later).field? key) := by
  have hbelow : ∀ found, merged.field? key = some found → found.Sorted :=
    fun _ h ↦ hmerged.field? h
  rcases field?_overlay_cases hlater key with hpasses | ⟨members, hmembers⟩ | htaken
  · exact Or.inl (field?_overlay_of_passesOver hlater hpasses).symm
  · rw [hmembers] at hdefaults'
    rw [field?_overlay_of_object hlater hmembers]
    exact alike_merge_of_neutral hlawful (Or.inr hdefaults)
      (sorted_object_iff.mp (hlater.field? hmembers)).1 hdefaults' fun field hfield _ value ↦
        neutral_of_readAny hlawful hbelow hdefaults hfield
  · rw [htaken]
    exact alike_of_defaults hlawful hbelow (fun _ h ↦ hlater.field? h) hdefaults hdefaults'

/-- What a layer leaves of a section that it spares is alike to what was there. -/
theorem alike_of_spares (hmerged : merged.Sorted) (hlater : later.Sorted)
    (hspares : Spares key fields expected defaults merged later) :
    Alike fields expected defaults (merged.field? key)
      ((Document.overlay merged later).field? key) := by
  rcases hspares with hpasses | ⟨hlayer, hdefaults | hobjects⟩
  · exact Or.inl (field?_overlay_of_passesOver hlater hpasses).symm
  · rw [readAt_eq_readAny] at hlayer hdefaults
    exact alike_overlay_of_defaults hlawful hmerged hlater hdefaults hlayer
  · obtain ⟨entries, members, hentries, hmembers, hneutral⟩ := hobjects
    rw [readAt_eq_readAny, hmembers] at hlayer
    rw [field?_overlay_of_object hlater hmembers]
    exact alike_merge_of_neutral hlawful (Or.inl ⟨entries, hentries⟩)
      (sorted_object_iff.mp (hlater.field? hmembers)).1 hlayer (hentries ▸ hneutral)

/-- A section gives the same settings with a layer that spares it and without, whatever layers
follow. -/
theorem readAt_foldl_overlay_of_spares {laters : List Document} (hmerged : merged.Sorted)
    (hlater : later.Sorted) (hlaters : ∀ later ∈ laters, later.Sorted)
    (hspares : Spares key fields expected defaults merged later) :
    readAt key fields expected defaults (laters.foldl Document.overlay merged) =
      readAt key fields expected defaults
        (laters.foldl Document.overlay (Document.overlay merged later)) := by
  have halike := Alike.foldl_overlay hlawful hlaters
    (alike_of_spares hlawful hmerged hlater hspares)
  have hfirst := sorted_foldl_overlay hmerged hlaters
  have hsecond := sorted_foldl_overlay (sorted_overlay hmerged hlater) hlaters
  rw [readAt_eq_readAny, readAt_eq_readAny]
  exact Alike.readAny_eq hlawful (fun _ h ↦ hfirst.field? h) (fun _ h ↦ hsecond.field? h) halike

/-! ### Layers that set nothing -/

variable {members : List (Text × Document)} {settings next taken : σ}

/-- A field takes no blank value but null, and that for its default. -/
theorem Lawful.null_of_set (hfield : field ∈ fields)
    (hset : field.set settings value = .ok next) (hblank : value.IsBlank) :
    value = .null ∧ field.Neutral defaults .null := by
  obtain rfl := hblank.eq_null (hlawful.plain_of_set hfield hset)
  exact ⟨rfl, hlawful.set_null hfield hset⟩

/-- Blank items are taken for defaults, if they are taken. -/
theorem defaults_of_setItems {items : List Document} {rest : List (Field σ)}
    (hrest : ∀ field ∈ rest, field ∈ fields)
    (hblank : ∀ item ∈ items, item.IsBlank) (hset : setItems defaults rest items = .ok taken) :
    taken = defaults := by
  induction rest generalizing items with
  | nil => exact (Except.ok.inj hset).symm
  | cons field rest ih =>
    obtain ⟨hfield, hrest⟩ := List.forall_mem_cons.mp hrest
    cases items with
    | nil => exact (Except.ok.inj hset).symm
    | cons item items =>
      obtain ⟨hitem, hitems⟩ := List.forall_mem_cons.mp hblank
      cases hnext : field.set defaults item with
      | error e => simp [setItems, hnext] at hset
      | ok next =>
        simp only [setItems, hnext] at hset
        obtain ⟨rfl, hneutral⟩ := hlawful.null_of_set hfield hnext hitem
        obtain rfl : next = defaults := Except.ok.inj (hnext.symm.trans hneutral)
        exact ih hrest hitems hset

/-- A blank section gives the defaults, if it gives settings. -/
theorem defaults_of_readAny (hsorted : ∀ found, first = some found → found.Sorted)
    (hblank : ∀ found, first = some found → found.IsBlank)
    (hread : readAny fields expected defaults first = .ok taken) : taken = defaults := by
  cases first with
  | none => exact (Except.ok.inj hread).symm
  | some value =>
    have hblank := hblank value rfl
    cases value with
    | null => exact (Except.ok.inj hread).symm
    | object members =>
      have hmembers := (sorted_object_iff.mp (hsorted _ rfl)).1
      have hdefaults := setEntries_eq_defaults hlawful hmembers fun field hfield value hget ↦ by
        have hset := set_of_setEntries hlawful hmembers hread hfield hget
        obtain ⟨rfl, hneutral⟩ := hlawful.null_of_set hfield hset (hblank.get? hget)
        exact hneutral
      exact Except.ok.inj (hread.symm.trans hdefaults)
    | list items =>
      cases hset : setItems defaults fields items with
      | error e => simp [readAny, read, hset] at hread
      | ok last =>
        obtain rfl := defaults_of_setItems hlawful (fun _ h ↦ h) (fun _ h ↦ hblank.item h) hset
        simp only [readAny, read, hset] at hread
        split at hread
        · exact absurd hread (by simp)
        · exact (Except.ok.inj hread).symm
    | _ => simp [readAny, read] at hread

/-- Where a blank object is put over a section and the settings can be read, it gives null to the
fields that it names, and they take null for their default. -/
theorem null_of_merge {entries : List (Text × Document)} (hentries : Sorted (.object entries))
    (hmembers : Sorted (.object members)) (hblank : (object members).IsBlank)
    (hafter : readAny fields expected defaults (some (merge (.object entries) (.object members))) =
      .ok taken) (hfield : field ∈ fields) (hget : get? field.key members = some value) :
    value = .null ∧ field.Neutral defaults .null ∧ field.set taken .null = .ok taken := by
  have hmerge := sorted_merge hentries hmembers
  have hfound : get? field.key (entriesOf (some (merge (.object entries) (.object members)))) =
      some (merge ((get? field.key entries).getD .null) value) := by
    rw [get?_entriesOf, field?_merge (sorted_object_iff.mp hmembers).1, hget]
    rfl
  rw [readAny_of_isOpen isOpen_merge] at hafter
  have hset := set_of_setEntries hlawful
    (keysSorted_entriesOf fun found h ↦ Option.some.inj h ▸ hmerge) hafter hfield hfound
  have hplain : ¬value.IsObject := by
    rintro ⟨below, rfl⟩
    exact (hlawful.plain_of_set hfield hset).not_isObject isObject_merge
  rw [merge_of_later_not_isObject hplain] at hset
  obtain ⟨rfl, hneutral⟩ := hlawful.null_of_set hfield hset (hblank.get? hget)
  exact ⟨rfl, hneutral, hset⟩

/-- A blank object that is put over a section and leaves its settings as they were gives the
defaults, and the section had its defaults where the object names fields. -/
theorem neutral_of_merge {entries : List (Text × Document)} (hentries : Sorted (.object entries))
    (hmembers : Sorted (.object members)) (hblank : (object members).IsBlank)
    (hbefore : readAny fields expected defaults (some (.object entries)) = .ok taken)
    (hafter : readAny fields expected defaults (some (merge (.object entries) (.object members))) =
      .ok taken) :
    readAny fields expected defaults (some (.object members)) = .ok defaults ∧
      ∀ field ∈ fields, get? field.key members ≠ none → ∀ value,
        get? field.key entries = some value → field.Neutral defaults value := by
  constructor
  · refine setEntries_eq_defaults hlawful (sorted_object_iff.mp hmembers).1
      fun field hfield value hget ↦ ?_
    obtain ⟨rfl, hneutral, -⟩ :=
      null_of_merge hlawful hentries hmembers hblank hafter hfield hget
    exact hneutral
  · intro field hfield hget value hentry
    obtain ⟨found, hfound⟩ := Option.ne_none_iff_exists'.mp hget
    obtain ⟨-, hneutral, hnull⟩ :=
      null_of_merge hlawful hentries hmembers hblank hafter hfield hfound
    -- The settings show null in this field, so what they were read from is null too.
    have hset := set_of_setEntries hlawful (sorted_object_iff.mp hentries).1 hbefore hfield hentry
    have hvalue : value = .null :=
      (hlawful.shown_of_set hfield hset).symm.trans (hlawful.shown_of_set hfield hnull)
    exact hvalue ▸ hneutral

/-- A blank layer that leaves the settings of a section as they were spares it. -/
theorem spares_of_readAt_eq (hmerged : merged.Sorted) (hlater : later.Sorted)
    (hblank : later.IsBlank)
    (hbefore : readAt key fields expected defaults merged = .ok taken)
    (hafter : readAt key fields expected defaults (Document.overlay merged later) = .ok taken) :
    Spares key fields expected defaults merged later := by
  have hlayer : (Document.overlay merged later).field? key = later.field? key →
      Spares key fields expected defaults merged later := by
    intro h
    rw [readAt_eq_readAny, h] at hafter
    obtain rfl := defaults_of_readAny hlawful (fun _ h ↦ hlater.field? h)
      (fun _ h ↦ hblank.field? h) hafter
    exact Or.inr ⟨readAt_eq_readAny.trans hafter, Or.inl hbefore⟩
  rcases field?_overlay_cases hlater key with hpasses | ⟨members, hmembers⟩ | htaken
  · exact Or.inl hpasses
  · have hoverlay : (Document.overlay merged later).field? key =
        some (merge ((merged.field? key).getD .null) (.object members)) :=
      field?_overlay_of_object hlater hmembers
    by_cases hobject : ((merged.field? key).getD .null).IsObject
    · obtain ⟨entries, hgetD⟩ := hobject
      have hentries : merged.field? key = some (.object entries) := by
        cases hfound : merged.field? key with
        | none => simp [hfound] at hgetD
        | some found => rw [← hgetD, hfound, Option.getD_some]
      rw [readAt_eq_readAny, hoverlay, hgetD] at hafter
      rw [readAt_eq_readAny, hentries] at hbefore
      obtain ⟨hread, hneutral⟩ := neutral_of_merge hlawful (hmerged.field? hentries)
        (hlater.field? hmembers) (hblank.field? hmembers) hbefore hafter
      refine Or.inr ⟨?_, Or.inr ⟨entries, members, hentries, hmembers, hneutral⟩⟩
      rw [readAt_eq_readAny, hmembers]
      exact hread
    · exact hlayer (by rw [hoverlay, merge_of_not_isObject hobject, hmembers])
  · exact hlayer (htaken merged)

end Lawful

end Section

end ChanceDeck
