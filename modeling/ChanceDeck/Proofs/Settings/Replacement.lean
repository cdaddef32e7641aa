import ChanceDeck.Proofs.Settings.Section
import ChanceDeck.Proofs.Settings.Unused

/-!
# Replacing unused leaves

A value may be put in the place of another (`Document.replace`), and a leaf put in its own place
changes nothing (`replace_self`). Sections pass over keys that they do not know, so that what stands
below an unknown key of a section, or outside the sections, bears on no settings
(`Section.outcome_replace_eq`).

The report counts more as unused. It goes by keys, while a section may be written as a list, whose
items are read by position, and a section that is no section at all is refused.
`Unused.toOption_replace_iff` tells exactly which of the leaves that it lists may have any value,
and `Unused.report_listedSection` is one that may not.
-/

set_option autoImplicit false
set_option relaxedAutoImplicit false

namespace ChanceDeck

namespace Document

/-! ### Values in the place of others -/

/-- A document with another value in the place that a path leads to. -/
def replace (new : Document) : Path → Document → Document
  | [], _ => new
  | key :: rest, .object entries =>
    .object (entries.map fun entry ↦
      (entry.1, if entry.1 = key then replace new rest entry.2 else entry.2))
  | key :: rest, .list items =>
    .list (items.mapIdx fun i item ↦
      if Decimal.natural i = key then replace new rest item else item)
  | _ :: _, document => document

variable {key other : Text} {path rest : Path} {document new root value : Document}
  {entries : List (Text × Document)} {items : List Document}

theorem get?_map_values (change : Text → Document → Document) :
    get? key (entries.map fun entry ↦ (entry.1, change entry.1 entry.2)) =
      (get? key entries).map (change key) := by
  induction entries with
  | nil => rfl
  | cons entry rest ih =>
    rw [List.map_cons, get?, get?]
    split_ifs with h
    · rw [h, Option.map_some]
    · exact ih

theorem field?_replace : (replace new (key :: rest) root).field? other =
    (root.field? other).map fun found ↦ if other = key then replace new rest found else found := by
  cases root with
  | object entries =>
    exact get?_map_values fun name found ↦ if name = key then replace new rest found else found
  | _ => rfl

theorem field?_replace_self (h : root.field? key = some value) :
    (replace new (key :: rest) root).field? key = some (replace new rest value) := by
  rw [field?_replace, h, Option.map_some, if_pos rfl]

theorem field?_replace_of_ne (h : other ≠ key) :
    (replace new (key :: rest) root).field? other = root.field? other := by
  rw [field?_replace]
  simp only [if_neg h, Option.map_id']

theorem getElem?_replace {i : Nat} (h : items[i]? = some value) :
    (items.mapIdx fun j item ↦
      if Decimal.natural j = Decimal.natural i then replace new path item else item)[i]? =
      some (replace new path value) := by
  rw [List.getElem?_mapIdx, h, Option.map_some, if_pos rfl]

/-- A leaf put in its own place changes nothing. -/
theorem replace_self (hsorted : root.Sorted) (hleaf : HasLeaf root path value) :
    replace value path root = root := by
  induction hleaf with
  | here => rfl
  | @key entries key found value rest hentry _ ih =>
    obtain ⟨hkeys, hvalues⟩ := sorted_object_iff.mp hsorted
    refine congrArg object ((List.map_congr_left fun entry hmem ↦ ?_).trans (List.map_id _))
    by_cases hkey : entry.1 = key
    · have hsame : entry.2 = found := by
        have hget := (get?_eq_some_iff hkeys).mpr hmem
        rw [hkey, (get?_eq_some_iff hkeys).mpr hentry] at hget
        exact (Option.some.inj hget).symm
      rw [if_pos hkey, hsame, ih (hvalues _ hentry), ← hsame]
      rfl
    · rw [if_neg hkey]
      rfl
  | @position items i found value rest hitem _ ih =>
    refine congrArg list (List.ext_getElem? fun j ↦ ?_)
    rw [List.getElem?_mapIdx]
    by_cases hj : j = i
    · rw [hj, hitem, Option.map_some, if_pos rfl,
        ih (sorted_list_iff.mp hsorted _ (List.mem_of_getElem? hitem))]
    · have hne : Decimal.natural j ≠ Decimal.natural i := fun h ↦ hj (Decimal.natural_injective h)
      simp only [if_neg hne, Option.map_id']

/-- What holds a leaf below itself is neither null nor a scalar. -/
theorem HasLeaf.not_plain (hleaf : HasLeaf root (key :: path) value) :
    ¬root.IsPlain := by
  rcases hasLeaf_cons_iff.mp hleaf with ⟨_, _, rfl, -⟩ | ⟨_, _, _, rfl, -⟩
  · simp [IsPlain, isScalar]
  · simp [IsPlain, isScalar]

theorem HasLeaf.replace_not_plain (hleaf : HasLeaf root (key :: path) value) :
    ¬(replace new (key :: path) root).IsPlain := by
  rcases hasLeaf_cons_iff.mp hleaf with ⟨_, _, rfl, -⟩ | ⟨_, _, _, rfl, -⟩
  · simp [replace, IsPlain, isScalar]
  · simp [replace, IsPlain, isScalar]

end Document

namespace Section

open Document

variable {σ τ : Type} {fields rest : List (Field σ)} {expected : Expected}
  {defaults settings last taken : σ} {shown : Text → σ → Document} {key : Text} {path : Path}
  {root new value item : Document} {items : List Document} {members : List (Text × Document)}

/-! ### What a section gives in the end -/

/-- What a section gives in the end: settings that can be read and pass a check. -/
def outcome (key : Text) (fields : List (Field σ)) (expected : Expected) (defaults : σ)
    (check : σ → Option τ) (root : Document) : Option τ :=
  (readAt key fields expected defaults root).toOption.bind check

/-- Whether a path that no field has ends where it bears on the outcome of a section: at the whole
document, at the section itself, or at an item of a section that is written as a list and that gives
something with some value there. -/
def Bears (key : Text) (outcome : Document → Option τ) (root : Document) (path : Path) : Prop :=
  path = [] ∨ path = [key] ∨ ∃ items i, root.field? key = some (.list items) ∧
    path = [key, Decimal.natural i] ∧ ∃ new, outcome (replace new path root) ≠ none

variable {check : σ → Option τ}

theorem outcome_congr {other : Document} (h : root.field? key = other.field? key) :
    outcome key fields expected defaults check root =
      outcome key fields expected defaults check other := by
  rw [outcome, outcome, readAt_eq_readAny, readAt_eq_readAny, h]

theorem outcome_of_field? (hfound : root.field? key = some value) (hnull : value.isNull = false) :
    outcome key fields expected defaults check root =
      (read fields expected defaults value).toOption.bind check := by
  rw [outcome, readAt_eq_readAny, hfound]
  cases value with
  | null => exact absurd hnull (by decide)
  | _ => rfl

theorem toOption_read_of_isScalar (h : value.isScalar = true) :
    (read fields expected defaults value).toOption = none := by
  cases value with
  | null => exact absurd h Bool.false_ne_true
  | list => exact absurd h Bool.false_ne_true
  | object => exact absurd h Bool.false_ne_true
  | _ => rfl

/-- A scalar in the place of a section is refused, and so a section that has one gives nothing. -/
theorem outcome_of_isScalar (hfound : root.field? key = some value)
    (hscalar : value.isScalar = true) :
    outcome key fields expected defaults check root = none := by
  have hnull : value.isNull = false := by
    cases value with
    | null => exact absurd hscalar Bool.false_ne_true
    | _ => rfl
  rw [outcome_of_field? hfound hnull, toOption_read_of_isScalar hscalar]
  rfl

section Lawful

variable (hlawful : Lawful fields defaults shown)

include hlawful

/-! ### Sections written as lists -/

/-- A section that is read from a list has neither lists nor objects among its items. -/
theorem plain_of_setItems (hrest : ∀ field ∈ rest, field ∈ fields)
    (hlength : items.length ≤ rest.length) (hset : setItems settings rest items = .ok last) :
    ∀ item ∈ items, item.IsPlain := by
  induction rest generalizing settings items with
  | nil =>
    rw [List.length_nil, Nat.le_zero, List.length_eq_zero_iff] at hlength
    exact hlength ▸ List.forall_mem_nil _
  | cons field rest ih =>
    obtain ⟨hfield, hrest⟩ := List.forall_mem_cons.mp hrest
    cases items with
    | nil => exact List.forall_mem_nil _
    | cons item items =>
      cases hnext : field.set settings item with
      | error e => simp [setItems, hnext] at hset
      | ok next =>
        simp only [setItems, hnext] at hset
        exact List.forall_mem_cons.mpr ⟨hlawful.plain_of_set hfield hnext,
          ih hrest (Nat.le_of_succ_le_succ hlength) hset⟩

/-- A list with a list or an object among its items gives no settings. -/
theorem toOption_read_list (hitem : item ∈ items) (hplain : ¬item.IsPlain) :
    (read fields expected defaults (.list items)).toOption = none := by
  rw [read]
  cases hset : setItems defaults fields items with
  | error e => rfl
  | ok last =>
    by_cases hlength : fields.length < items.length
    · simp only [if_pos hlength]
      rfl
    · exact absurd (plain_of_setItems hlawful (fun _ h ↦ h) (not_lt.mp hlength) hset item hitem)
        hplain

/-! ### Sections written as objects -/

/-- An object is passed over below keys that no field has. -/
theorem read_replace_object (hsorted : (object members).Sorted)
    (hkey : ∀ field ∈ fields, field.key ≠ key) :
    read fields expected defaults (replace new (key :: path) (.object members)) =
      read fields expected defaults (.object members) := by
  obtain ⟨hkeys, -⟩ := sorted_object_iff.mp hsorted
  have hsame : ∀ field ∈ fields,
      (replace new (key :: path) (.object members)).field? field.key = get? field.key members :=
    fun field hfield ↦ field?_replace_of_ne (hkey field hfield)
  exact setEntries_eq_of_agree hlawful (List.pairwise_map.mpr hkeys) hkeys fun field hfield ↦
    Or.inl (hsame field hfield)

/-! ### What replacing an unread leaf does -/

/-- A leaf below a section that no field has may be replaced, unless it is an item of a list that
gives something with some value there. -/
theorem outcome_replace_below (hsorted : root.Sorted) (hname : ∀ i, Decimal.natural i ≠ key)
    {next : Text} (hleaf : HasLeaf root (key :: next :: path) value)
    (hunread : ∀ field ∈ fields, field.key ≠ next)
    (hbears : ¬Bears key (outcome key fields expected defaults check) root (key :: next :: path)) :
    outcome key fields expected defaults check (replace new (key :: next :: path) root) =
      outcome key fields expected defaults check root := by
  obtain ⟨found, hfound, hbelow⟩ := hleaf.exists_field? hsorted hname
  have hreplaced : (replace new (key :: next :: path) root).field? key =
      some (replace new (next :: path) found) :=
    field?_replace_self hfound
  rcases hasLeaf_cons_iff.mp hbelow with ⟨members, -, rfl, -, -⟩ |
    ⟨items, i, item, rfl, hitem, rfl, hlast⟩
  · rw [outcome_of_field? hreplaced rfl, outcome_of_field? hfound rfl,
      read_replace_object hlawful (hsorted.field? hfound) hunread]
  · cases path with
    | nil =>
      -- No value at this position lets the section give anything, the leaf itself neither.
      have hnone : ∀ new, outcome key fields expected defaults check
          (replace new [key, Decimal.natural i] root) = none := by
        intro new
        by_contra hsome
        exact hbears (Or.inr (Or.inr ⟨items, i, hfound, rfl, new, hsome⟩))
      have hself := hnone value
      rw [replace_self hsorted hleaf] at hself
      rw [hself, hnone new]
    | cons third path =>
      rw [outcome_of_field? hreplaced rfl, outcome_of_field? hfound rfl,
        toOption_read_list hlawful (List.mem_of_getElem? hitem) hlast.not_plain, replace,
        toOption_read_list hlawful (List.mem_of_getElem? (getElem?_replace hitem))
          hlast.replace_not_plain]

/-- A leaf that does not bear on a section may be replaced, as long as no field has its path. -/
theorem outcome_replace_eq (hsorted : root.Sorted) (hname : ∀ i, Decimal.natural i ≠ key)
    (hleaf : HasLeaf root path value) (hunread : ∀ field ∈ fields, ¬[key, field.key] <+: path)
    (hbears : ¬Bears key (outcome key fields expected defaults check) root path) :
    outcome key fields expected defaults check (replace new path root) =
      outcome key fields expected defaults check root := by
  cases path with
  | nil => exact absurd (Or.inl rfl) hbears
  | cons first rest =>
    by_cases hfirst : key = first
    · subst hfirst
      cases rest with
      | nil => exact absurd (Or.inr (Or.inl rfl)) hbears
      | cons next rest =>
        have hnext : ∀ field ∈ fields, field.key ≠ next := by
          rintro field hfield rfl
          exact hunread field hfield ⟨rest, rfl⟩
        exact outcome_replace_below hlawful hsorted hname hleaf hnext hbears
    · exact outcome_congr (field?_replace_of_ne hfirst)

/-- A scalar that bears on a section may not be replaced by every value. -/
theorem exists_outcome_replace_ne (hsorted : root.Sorted) (hname : ∀ i, Decimal.natural i ≠ key)
    (hcheck : check defaults ≠ none) (hleaf : HasLeaf root path value)
    (hscalar : value.isScalar = true)
    (hbears : Bears key (outcome key fields expected defaults check) root path) :
    ∃ new, outcome key fields expected defaults check (replace new path root) ≠
      outcome key fields expected defaults check root := by
  rcases hbears with rfl | rfl | ⟨items, i, hfound, rfl, new, hnew⟩
  · -- The defaults hold for a scalar, and an object may set the section to what is refused.
    obtain ⟨rfl, -⟩ := hasLeaf_nil_iff.mp hleaf
    have hroot : ¬root.IsObject := by
      rintro ⟨entries, rfl⟩
      exact absurd hscalar Bool.false_ne_true
    have hnew : (replace (.object [(key, root)]) [] root).field? key = some root := if_pos rfl
    refine ⟨.object [(key, root)], ?_⟩
    rw [outcome_of_isScalar hnew hscalar, outcome, readAt_eq_readAny, field?_of_not_isObject hroot]
    exact hcheck.symm
  · -- A scalar is refused in the place of the section, and an empty object gives the defaults.
    obtain ⟨found, hfound, hvalue⟩ := hleaf.exists_field? hsorted hname
    obtain ⟨rfl, -⟩ := hasLeaf_nil_iff.mp hvalue
    have hnew : (replace (.object []) [key] root).field? key = some (.object []) :=
      field?_replace_self hfound
    refine ⟨.object [], ?_⟩
    rw [outcome_of_isScalar hfound hscalar, outcome_of_field? hnew rfl]
    exact hcheck
  · -- A list is refused at every position, so that it takes away what the section gives.
    by_cases hroot : outcome key fields expected defaults check root = none
    · exact ⟨new, hroot ▸ hnew⟩
    · obtain ⟨found, hfound', hbelow⟩ := hleaf.exists_field? hsorted hname
      obtain rfl : Document.list items = found := Option.some.inj (hfound.symm.trans hfound')
      obtain ⟨item, hitem, -⟩ := hbelow.exists_getElem?
      have hnew : (replace (.list []) [key, Decimal.natural i] root).field? key =
          some (replace (.list []) [Decimal.natural i] (.list items)) :=
        field?_replace_self hfound
      have hplain : ¬(replace (.list []) [] item).IsPlain := by
        simp [replace, IsPlain, isScalar]
      refine ⟨.list [], ?_⟩
      rw [outcome_of_field? hnew rfl, replace,
        toOption_read_list hlawful (List.mem_of_getElem? (getElem?_replace hitem)) hplain]
      exact fun h ↦ hroot h.symm

/-- A leaf that is reported may be replaced by every value exactly if it does not bear on a
section. -/
theorem forall_outcome_replace_iff (hsorted : root.Sorted) (hname : ∀ i, Decimal.natural i ≠ key)
    (hkey : key ≠ []) (hcheck : check defaults ≠ none) (hleaf : HasLeaf root path value)
    (hunread : ∀ field ∈ fields, ¬[key, field.key] <+: path)
    (hcounts : value.isScalar = true ∨ path = [[]]) :
    (∀ new, outcome key fields expected defaults check (replace new path root) =
        outcome key fields expected defaults check root) ↔
      ¬Bears key (outcome key fields expected defaults check) root path := by
  constructor
  · intro hsame hbears
    have hscalar : value.isScalar = true := by
      rcases hcounts with hscalar | rfl
      · exact hscalar
      · rcases hbears with hpath | hpath | ⟨_, _, -, hpath, -⟩
        · exact absurd hpath (List.cons_ne_nil _ _)
        · exact absurd (List.cons.inj hpath).1.symm hkey
        · exact absurd (List.cons.inj hpath).1.symm hkey
    obtain ⟨new, hnew⟩ :=
      exists_outcome_replace_ne hlawful hsorted hname hcheck hleaf hscalar hbears
    exact hnew (hsame new)
  · exact fun hbears new ↦ outcome_replace_eq hlawful hsorted hname hleaf hunread hbears

end Lawful

end Section

/-! ### The two sections -/

open Document

theorem ConvertSettings.toOption_ofDocument (root : Document) :
    (ofDocument root).toOption = Section.outcome "convert".toList fields .convertSection defaults
      (fun settings ↦ settings.validate.toOption) root := by
  rw [ofDocument, Section.outcome]
  split
  · rename_i e hread
    rw [hread]
    rfl
  · rename_i settings hread
    rw [hread]
    rfl

theorem TokenizeSettings.toOption_ofDocument (root : Document) :
    (ofDocument root).toOption =
      Section.outcome "tokenize".toList fields .tokenizeSection defaults some root := by
  rw [ofDocument, Section.outcome]
  cases Section.readAt "tokenize".toList fields .tokenizeSection defaults root <;> rfl

namespace Unused

variable {root value : Document} {path : Path} {listed : UnusedReport}

/-- A leaf that is reported as unused may be replaced by every value without changing what the two
sections give, exactly if it is neither the whole document nor a section, and no item of a section
that is written as a list and gives something with some value there. -/
theorem toOption_replace_iff (hsorted : root.Sorted) (hreport : report .warn root = .ok listed)
    (hleaf : (path, value) ∈ root.leaves []) (hunused : path.pointer ∈ listed.unused) :
    (∀ new, (ConvertSettings.ofDocument (replace new path root)).toOption =
          (ConvertSettings.ofDocument root).toOption ∧
        (TokenizeSettings.ofDocument (replace new path root)).toOption =
          (TokenizeSettings.ofDocument root).toOption) ↔
      ¬Section.Bears "convert".toList (fun root ↦ (ConvertSettings.ofDocument root).toOption)
          root path ∧
        ¬Section.Bears "tokenize".toList (fun root ↦ (TokenizeSettings.ofDocument root).toOption)
          root path := by
  obtain rfl : ⟨consumed, pointers root⟩ = listed := Except.ok.inj hreport
  have hleaf := mem_leaves_iff.mp hleaf
  obtain ⟨hunread, hcounts⟩ := (pointer_mem_pointers_iff hsorted hleaf).mp hunused
  have hconvert : ∀ field ∈ ConvertSettings.fields, ¬["convert".toList, field.key] <+: path :=
    fun field hfield ↦ hunread _ (pointer_mem_consumed_iff.mpr
      (List.mem_append_left _ (List.mem_map_of_mem hfield)))
  have htokenize : ∀ field ∈ TokenizeSettings.fields, ¬["tokenize".toList, field.key] <+: path :=
    fun field hfield ↦ hunread _ (pointer_mem_consumed_iff.mpr
      (List.mem_append_right _ (List.mem_map_of_mem hfield)))
  have hname : ∀ i, Decimal.natural i ≠ "convert".toList :=
    Decimal.natural_ne_of_mem List.mem_cons_self (by decide)
  have hname' : ∀ i, Decimal.natural i ≠ "tokenize".toList :=
    Decimal.natural_ne_of_mem List.mem_cons_self (by decide)
  rw [forall_and]
  simp only [ConvertSettings.toOption_ofDocument, TokenizeSettings.toOption_ofDocument]
  exact and_congr
    (Section.forall_outcome_replace_iff ConvertSettings.lawful hsorted hname (by decide) (by decide)
      hleaf hconvert hcounts)
    (Section.forall_outcome_replace_iff TokenizeSettings.lawful hsorted hname' (by decide)
      (by decide) hleaf htokenize hcounts)

/-- A misspelled key of a section is reported, and it may have any value. -/
theorem toOption_replace_misspelled :
    report .warn (object [("convert".toList, object [("inptu".toList, .text "a.csv".toList)])]) =
        .ok ⟨consumed, ["/convert/inptu".toList]⟩ ∧
      ∀ new,
        (ConvertSettings.ofDocument (replace new ["convert".toList, "inptu".toList]
          (object
            [("convert".toList, object [("inptu".toList, .text "a.csv".toList)])]))).toOption =
        (ConvertSettings.ofDocument (object
            [("convert".toList, object [("inptu".toList, .text "a.csv".toList)])])).toOption := by
  have hsorted :
      (object [("convert".toList, object [("inptu".toList, .text "a.csv".toList)])]).Sorted := by
    decide
  have hreport :
      report .warn (object [("convert".toList, object [("inptu".toList, .text "a.csv".toList)])]) =
        .ok ⟨consumed, ["/convert/inptu".toList]⟩ := by
    decide
  have hleaf : (["convert".toList, "inptu".toList], .text "a.csv".toList) ∈
      (object [("convert".toList, object [("inptu".toList, .text "a.csv".toList)])]).leaves [] := by
    decide
  have hconvert : ¬Section.Bears "convert".toList
      (fun root ↦ (ConvertSettings.ofDocument root).toOption)
      (object [("convert".toList, object [("inptu".toList, .text "a.csv".toList)])])
      ["convert".toList, "inptu".toList] := by
    rintro (hpath | hpath | ⟨items, i, hfound, -⟩)
    · exact absurd hpath (by decide)
    · exact absurd hpath (by decide)
    · exact Document.noConfusion (Option.some.inj hfound)
  have htokenize : ¬Section.Bears "tokenize".toList
      (fun root ↦ (TokenizeSettings.ofDocument root).toOption)
      (object [("convert".toList, object [("inptu".toList, .text "a.csv".toList)])])
      ["convert".toList, "inptu".toList] := by
    rintro (hpath | hpath | ⟨items, i, -, hpath, -⟩)
    · exact absurd hpath (by decide)
    · exact absurd hpath (by decide)
    · exact absurd (List.cons.inj hpath).1 (by decide)
  have hsame :=
    (toOption_replace_iff hsorted hreport hleaf (by decide)).mpr ⟨hconvert, htokenize⟩
  exact ⟨hreport, fun new ↦ (hsame new).1⟩

/-- The first item of a section that is written as a list is reported as unused, and it is the
input. -/
theorem report_listedSection :
    report .warn (object [("convert".toList, .list [.text "a.csv".toList])]) =
      .ok ⟨consumed, ["/convert/0".toList]⟩ ∧
    (ConvertSettings.ofDocument
      (object [("convert".toList, .list [.text "a.csv".toList])])).toOption =
        some { ConvertSettings.defaults with input := "a.csv".toList } ∧
    (ConvertSettings.ofDocument (replace (.text "b.csv".toList) ["convert".toList, "0".toList]
      (object [("convert".toList, .list [.text "a.csv".toList])]))).toOption =
        some { ConvertSettings.defaults with input := "b.csv".toList } := by
  decide

end Unused

end ChanceDeck
