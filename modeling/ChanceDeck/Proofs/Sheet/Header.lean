import ChanceDeck.Proofs.Catalog
import ChanceDeck.Sheet.Header
import Mathlib.Data.List.NodupEquivFin

/-!
# The columns of a header

`Holds` says of a ticker of the catalog that it stands in a column. The scan looks at each label once
and remembers what it has found; `Remembers` is its invariant, that it has found what the columns
seen so far hold. One label keeps it or makes the first repetition (`Remembers.skip`,
`Remembers.add`, `Remembers.firstRepeat`), and `scan_outcome` is the run over all labels.

Labels make a header if some ticker of the catalog stands among them and none stands there twice
(`ofLabels_of_occurs`, `exists_ofLabels`). The columns are then those that a search of the labels
finds for each ticker (`columns_of_ofLabels`). `cellUnder` is what a row holds under a ticker, read
through the labels alone.
-/

set_option autoImplicit false
set_option relaxedAutoImplicit false

namespace ChanceDeck.Header

/-- The first column whose label is a ticker, blanks aside. -/
def columnOf? (labels : List Text) (ticker : Text) : Option Nat :=
  labels.findIdx? fun label ↦ Text.trim label = ticker

/-- The cell of a row under a ticker, blanks aside. It is blank if the labels have no such ticker
or if the row is too short. -/
def cellUnder (labels row : List Text) (ticker : Text) : Text :=
  Text.trim (((columnOf? labels ticker).bind fun column ↦ row[column]?).getD [])

/-- No ticker of the catalog stands in two columns. -/
def Unambiguous (catalog : Catalog) (labels : List Text) : Prop :=
  ∀ i ∈ catalog.instruments, (labels.map Text.trim).count i.ticker ≤ 1

/-- Some ticker of the catalog stands among the labels. -/
def Occurs (catalog : Catalog) (labels : List Text) : Prop :=
  ∃ i ∈ catalog.instruments, i.ticker ∈ labels.map Text.trim

instance (catalog : Catalog) (labels : List Text) : Decidable (Unambiguous catalog labels) :=
  inferInstanceAs (Decidable (∀ i ∈ catalog.instruments, _))

instance (catalog : Catalog) (labels : List Text) : Decidable (Occurs catalog labels) :=
  inferInstanceAs (Decidable (∃ i ∈ catalog.instruments, _))

/-! ### Searching the labels -/

theorem columnOf?_cons (label : Text) (rest : List Text) (ticker : Text) :
    columnOf? (label :: rest) ticker =
      if Text.trim label = ticker then some 0 else (columnOf? rest ticker).map (· + 1) := by
  rw [columnOf?, List.findIdx?_cons]
  by_cases h : Text.trim label = ticker <;> simp [h, columnOf?]

theorem columnOf?_isSome_iff {labels : List Text} {ticker : Text} :
    (columnOf? labels ticker).isSome = true ↔ ticker ∈ labels.map Text.trim := by
  induction labels with
  | nil => simp [columnOf?]
  | cons label rest ih =>
    rw [columnOf?_cons, List.map_cons, List.mem_cons, ← ih]
    by_cases h : Text.trim label = ticker
    · simp [h]
    · simp [h, Ne.symm h]

theorem cellUnder_of_some {labels row : List Text} {ticker : Text} {column : Nat}
    (h : columnOf? labels ticker = some column) :
    cellUnder labels row ticker = Text.trim (row[column]?.getD []) := by
  rw [cellUnder, h, Option.bind_some]

theorem cellUnder_of_none {labels row : List Text} {ticker : Text}
    (h : columnOf? labels ticker = none) : cellUnder labels row ticker = [] := by
  rw [cellUnder, h]
  rfl

/-! ### Where the tickers stand -/

section Columns

variable {catalog : Catalog} {labels seen rest : List Text} {ticker other : Text} {column : Nat}

/-- A column holds a ticker of the catalog: its label is that ticker, blanks aside. -/
structure Holds (catalog : Catalog) (labels : List Text) (ticker : Text) (column : Nat) : Prop where
  listed : ticker ∈ catalog.instruments.map Instrument.ticker
  label : (labels.map Text.trim)[column]? = some ticker

/-- A ticker of the catalog stands in two columns, one before the other. -/
structure Repeats (catalog : Catalog) (labels : List Text) (ticker : Text)
    (first second : Nat) : Prop where
  lt : first < second
  holds_first : Holds catalog labels ticker first
  holds_second : Holds catalog labels ticker second

/-- No ticker comes for the second time before this one does. -/
structure FirstRepeat (catalog : Catalog) (labels : List Text) (ticker : Text)
    (first second : Nat) : Prop extends Repeats catalog labels ticker first second where
  least : ∀ other earlier later, Repeats catalog labels other earlier later → second ≤ later

theorem contains_trim_iff {label : Text} : catalog.contains (Text.trim label) = true ↔
    Text.trim label ∈ catalog.instruments.map Instrument.ticker := by
  rw [Catalog.contains_trim, List.mem_map]

/-- A column holds one ticker. -/
theorem Holds.unique (h : Holds catalog labels ticker column)
    (hother : Holds catalog labels other column) : ticker = other :=
  Option.some.inj (h.label.symm.trans hother.label)

theorem Holds.lt_length (h : Holds catalog labels ticker column) : column < labels.length := by
  have hlt := (List.getElem?_eq_some_iff.mp h.label).1
  rwa [List.length_map] at hlt

theorem holds_append_of_lt (hlt : column < seen.length) :
    Holds catalog (seen ++ rest) ticker column ↔ Holds catalog seen ticker column := by
  have hsame : ((seen ++ rest).map Text.trim)[column]? = (seen.map Text.trim)[column]? := by
    rw [List.map_append, List.getElem?_append_left (by rwa [List.length_map])]
  constructor
  · intro h
    exact ⟨h.listed, hsame ▸ h.label⟩
  · intro h
    exact ⟨h.listed, hsame.trans h.label⟩

theorem Holds.append (h : Holds catalog seen ticker column) :
    Holds catalog (seen ++ rest) ticker column :=
  (holds_append_of_lt h.lt_length).mpr h

theorem holds_length_iff {label : Text} :
    Holds catalog (seen ++ label :: rest) ticker seen.length ↔
      ticker = Text.trim label ∧ catalog.contains (Text.trim label) = true := by
  have hlabel : ((seen ++ label :: rest).map Text.trim)[seen.length]? = some (Text.trim label) := by
    simp
  rw [contains_trim_iff]
  constructor
  · intro h
    have hticker : ticker = Text.trim label := Option.some.inj (h.label.symm.trans hlabel)
    exact ⟨hticker, hticker ▸ h.listed⟩
  · rintro ⟨rfl, hlisted⟩
    exact ⟨hlisted, hlabel⟩

/-- One label more: it stands in the column after those before it. -/
theorem holds_snoc_iff {label : Text} : Holds catalog (seen ++ [label]) ticker column ↔
    Holds catalog seen ticker column ∨
      column = seen.length ∧ ticker = Text.trim label ∧
        catalog.contains (Text.trim label) = true := by
  constructor
  · intro h
    have hlt := h.lt_length
    rw [List.length_append, List.length_singleton] at hlt
    by_cases hcolumn : column = seen.length
    · exact Or.inr ⟨hcolumn, holds_length_iff.mp (hcolumn ▸ h)⟩
    · exact Or.inl ((holds_append_of_lt (by omega)).mp h)
  · rintro (h | ⟨rfl, h⟩)
    · exact h.append
    · exact holds_length_iff.mpr h

/-- A ticker that stands in two columns is counted twice. -/
theorem Unambiguous.not_repeats (h : Unambiguous catalog labels) {first second : Nat} :
    ¬Repeats catalog labels ticker first second := by
  intro hrepeats
  obtain ⟨i, hi, rfl⟩ := List.mem_map.mp hrepeats.holds_first.listed
  obtain ⟨hfirst, hfirst'⟩ := List.getElem?_eq_some_iff.mp hrepeats.holds_first.label
  obtain ⟨hsecond, hsecond'⟩ := List.getElem?_eq_some_iff.mp hrepeats.holds_second.label
  have htwice : (labels.map Text.trim).Duplicate i.ticker :=
    List.duplicate_iff_exists_distinct_get.mpr
      ⟨⟨first, hfirst⟩, ⟨second, hsecond⟩, hrepeats.lt, hfirst'.symm, hsecond'.symm⟩
  have hcount : 2 ≤ (labels.map Text.trim).count i.ticker :=
    List.replicate_sublist_iff.mp (List.duplicate_iff_sublist.mp htwice)
  have hle := h i hi
  omega

/-- Where nothing stands twice, the search finds the one column that holds a ticker. -/
theorem columnOf?_eq_some_iff (hlisted : ticker ∈ catalog.instruments.map Instrument.ticker)
    (hrepeats : ∀ first second, ¬Repeats catalog labels ticker first second) :
    columnOf? labels ticker = some column ↔ Holds catalog labels ticker column := by
  have hholds (c : Nat) (hc : c < labels.length) :
      Holds catalog labels ticker c ↔ Text.trim labels[c] = ticker := by
    constructor
    · intro h
      simpa [List.getElem?_eq_getElem hc] using h.label
    · intro h
      exact ⟨hlisted, by simp [List.getElem?_eq_getElem hc, h]⟩
  rw [columnOf?, List.findIdx?_eq_some_iff_getElem]
  simp only [decide_eq_true_eq]
  constructor
  · rintro ⟨hlt, hlabel, -⟩
    exact (hholds column hlt).mpr hlabel
  · intro h
    refine ⟨h.lt_length, (hholds column h.lt_length).mp h, fun earlier hearlier hlabel ↦ ?_⟩
    have hlt := h.lt_length
    exact hrepeats earlier column ⟨hearlier, (hholds earlier (by omega)).mpr hlabel, h⟩

end Columns

/-! ### Scanning the labels -/

theorem found?_cons (ticker : Text) (column : Nat) (found : List (Text × Nat)) (other : Text) :
    found? ((ticker, column) :: found) other =
      if ticker = other then some column else found? found other := by
  by_cases h : ticker = other <;> simp [found?, h]

variable {catalog : Catalog} {labels seen : List Text} {found : List (Text × Nat)}

/-- What has been found is what the columns seen so far hold. -/
def Remembers (catalog : Catalog) (seen : List Text) (found : List (Text × Nat)) : Prop :=
  ∀ ticker column, found? found ticker = some column ↔ Holds catalog seen ticker column

theorem remembers_nil : Remembers catalog [] [] := by
  intro ticker column
  constructor
  · intro h
    simp [found?] at h
  · intro h
    exact absurd h.lt_length (by simp)

/-- What is found is one column for each ticker, so no ticker stands twice. -/
theorem Remembers.not_repeats (h : Remembers catalog seen found) (ticker : Text)
    (first second : Nat) : ¬Repeats catalog seen ticker first second := by
  intro hrepeats
  have hfirst := (h ticker first).mpr hrepeats.holds_first
  have hsecond := (h ticker second).mpr hrepeats.holds_second
  have hsame : first = second := Option.some.inj (hfirst.symm.trans hsecond)
  exact absurd hrepeats.lt (by omega)

/-- A label that is no ticker is passed over. -/
theorem Remembers.skip (h : Remembers catalog seen found) {label : Text}
    (hlabel : ¬catalog.contains (Text.trim label) = true) :
    Remembers catalog (seen ++ [label]) found := by
  intro ticker column
  rw [h ticker column, holds_snoc_iff]
  simp [hlabel]

/-- A ticker that is new is remembered with its column. -/
theorem Remembers.add (h : Remembers catalog seen found) {label : Text}
    (hlabel : catalog.contains (Text.trim label) = true)
    (hnew : found? found (Text.trim label) = none) :
    Remembers catalog (seen ++ [label]) ((Text.trim label, seen.length) :: found) := by
  intro ticker column
  rw [found?_cons, holds_snoc_iff, ← h ticker column]
  by_cases hticker : Text.trim label = ticker
  · rw [if_pos hticker, ← hticker, hnew]
    simp [hlabel, eq_comm]
  · rw [if_neg hticker]
    simp [Ne.symm hticker]

/-- A ticker that was found before makes the first repetition, as there was none up to it. -/
theorem Remembers.firstRepeat (h : Remembers catalog seen found) {label : Text} {rest : List Text}
    (hlabel : catalog.contains (Text.trim label) = true) {first : Nat}
    (hfirst : found? found (Text.trim label) = some first) :
    FirstRepeat catalog (seen ++ label :: rest) (Text.trim label) first seen.length := by
  have hholds : Holds catalog seen (Text.trim label) first := (h _ _).mp hfirst
  refine ⟨⟨hholds.lt_length, hholds.append, holds_length_iff.mpr ⟨rfl, hlabel⟩⟩, ?_⟩
  intro other earlier later hrepeats
  by_contra hlater
  have hlt := hrepeats.lt
  exact h.not_repeats other earlier later ⟨hlt,
    (holds_append_of_lt (by omega)).mp hrepeats.holds_first,
    (holds_append_of_lt (by omega)).mp hrepeats.holds_second⟩

/-- The scan stops at the first repetition, or it remembers all the columns. -/
theorem scan_outcome (h : Remembers catalog seen found) (rest : List Text) :
    (∃ ticker first second, FirstRepeat catalog (seen ++ rest) ticker first second ∧
      scan catalog found seen.length rest =
        .error (.duplicateTickerColumn ticker first second)) ∨
    ∃ final, Remembers catalog (seen ++ rest) final ∧
      scan catalog found seen.length rest = .ok final := by
  induction rest generalizing seen found with
  | nil =>
    rw [List.append_nil]
    exact Or.inr ⟨found, h, rfl⟩
  | cons label rest ih =>
    have hsnoc : seen ++ label :: rest = (seen ++ [label]) ++ rest := by simp
    have hlength : seen.length + 1 = (seen ++ [label]).length := by simp
    rw [scan]
    by_cases hlabel : catalog.contains (Text.trim label) = true
    · rw [if_pos hlabel]
      cases hfound : found? found (Text.trim label) with
      | some first => exact Or.inl ⟨_, first, seen.length, h.firstRepeat hlabel hfound, rfl⟩
      | none =>
        rw [hsnoc, hlength]
        exact ih (h.add hlabel hfound)
    · rw [if_neg hlabel, hsnoc, hlength]
      exact ih (h.skip hlabel)

/-- Columns are found exactly if some ticker stands among the labels. -/
theorem Remembers.occurs_iff (h : Remembers catalog labels found) :
    Occurs catalog labels ↔ found ≠ [] := by
  constructor
  · rintro ⟨i, hi, hlabel⟩ rfl
    obtain ⟨column, hcolumn⟩ := List.mem_iff_getElem?.mp hlabel
    have hfound := (h i.ticker column).mpr ⟨List.mem_map_of_mem hi, hcolumn⟩
    simp [found?] at hfound
  · intro hfound
    obtain ⟨⟨ticker, column⟩, others, rfl⟩ := List.exists_cons_of_ne_nil hfound
    have hholds := (h ticker column).mp (by rw [found?_cons, if_pos rfl])
    obtain ⟨i, hi, rfl⟩ := List.mem_map.mp hholds.listed
    exact ⟨i, hi, List.mem_of_getElem? hholds.label⟩

/-! ### Labels that make a header -/

/-- The header of the columns that have been found. -/
def ofFound (catalog : Catalog) (found : List (Text × Nat)) : Header :=
  ⟨catalog.instruments.filterMap fun i ↦
    (found? found i.ticker).map fun column ↦ ⟨i.ticker, i.index, column⟩⟩

/-- A label under which a ticker stands is not blank. -/
theorem Holds.not_blank {ticker : Text} {column : Nat} (h : Holds catalog labels ticker column) :
    ¬∀ label ∈ labels, Text.trim label = [] := by
  intro hblank
  obtain ⟨i, hi, rfl⟩ := List.mem_map.mp h.listed
  obtain ⟨label, hlabel, htrim⟩ := List.mem_map.mp (List.mem_of_getElem? h.label)
  exact catalog.admissible.named i hi (htrim ▸ hblank label hlabel)

theorem Occurs.not_blank (h : Occurs catalog labels) :
    ¬∀ label ∈ labels, Text.trim label = [] := by
  obtain ⟨i, hi, hlabel⟩ := h
  obtain ⟨column, hcolumn⟩ := List.mem_iff_getElem?.mp hlabel
  exact Holds.not_blank ⟨List.mem_map_of_mem hi, hcolumn⟩

/-- Where a ticker stands twice, there is a first one that does, and it is reported. -/
theorem exists_firstRepeat {ticker : Text} {first second : Nat}
    (h : Repeats catalog labels ticker first second) :
    ∃ ticker first second, FirstRepeat catalog labels ticker first second ∧
      ofLabels catalog labels = .error (.duplicateTickerColumn ticker first second) := by
  rcases scan_outcome (remembers_nil : Remembers catalog [] []) labels with
    ⟨other, earlier, later, hrepeat, hscan⟩ | ⟨final, hfinal, -⟩
  · rw [List.nil_append] at hrepeat
    rw [List.length_nil] at hscan
    exact ⟨other, earlier, later, hrepeat,
      by rw [ofLabels, if_neg h.holds_first.not_blank, hscan]⟩
  · exact absurd h (hfinal.not_repeats ticker first second)

/-- Where no ticker stands twice, the scan remembers all the columns. -/
theorem exists_remembers
    (hrepeats : ∀ ticker first second, ¬Repeats catalog labels ticker first second) :
    ∃ final, Remembers catalog labels final ∧ scan catalog [] 0 labels = .ok final := by
  rcases scan_outcome (remembers_nil : Remembers catalog [] []) labels with
    ⟨ticker, first, second, hrepeat, -⟩ | hfinal
  · exact absurd hrepeat.toRepeats (hrepeats ticker first second)
  · exact hfinal

theorem ofLabels_of_not_occurs (hblank : ¬∀ label ∈ labels, Text.trim label = [])
    (hoccurs : ¬Occurs catalog labels) :
    ofLabels catalog labels = .error .noTickerColumns := by
  obtain ⟨final, hfinal, hscan⟩ : ∃ final, Remembers catalog labels final ∧
      scan catalog [] 0 labels = .ok final := by
    refine exists_remembers fun ticker first second hrepeats ↦ hoccurs ?_
    obtain ⟨i, hi, rfl⟩ := List.mem_map.mp hrepeats.holds_first.listed
    exact ⟨i, hi, List.mem_of_getElem? hrepeats.holds_first.label⟩
  have hnil : final = [] := by
    by_contra hne
    exact hoccurs (hfinal.occurs_iff.mpr hne)
  rw [ofLabels, if_neg hblank, hscan, hnil]

theorem ofLabels_of_occurs (hoccurs : Occurs catalog labels)
    (hrepeats : ∀ ticker first second, ¬Repeats catalog labels ticker first second) :
    ∃ final, Remembers catalog labels final ∧
      ofLabels catalog labels = .ok (ofFound catalog final) := by
  obtain ⟨final, hfinal, hscan⟩ := exists_remembers hrepeats
  refine ⟨final, hfinal, ?_⟩
  obtain ⟨entry, others, rfl⟩ := List.exists_cons_of_ne_nil (hfinal.occurs_iff.mp hoccurs)
  rw [ofLabels, if_neg hoccurs.not_blank, hscan]
  rfl

/-- Labels among which tickers stand, none of them twice, make a header. -/
theorem exists_ofLabels (hunambiguous : Unambiguous catalog labels)
    (hoccurs : Occurs catalog labels) : ∃ header, ofLabels catalog labels = .ok header := by
  obtain ⟨final, -, hheader⟩ :=
    ofLabels_of_occurs hoccurs fun _ _ _ ↦ hunambiguous.not_repeats
  exact ⟨_, hheader⟩

/-- A header comes of labels among which no ticker stands twice. -/
theorem not_repeats_of_ofLabels {header : Header} (h : ofLabels catalog labels = .ok header)
    (ticker : Text) (first second : Nat) : ¬Repeats catalog labels ticker first second := by
  intro hrepeats
  obtain ⟨_, _, _, -, herror⟩ := exists_firstRepeat hrepeats
  rw [herror] at h
  simp at h

/-- A header comes of labels among which some ticker stands. -/
theorem occurs_of_ofLabels {header : Header} (h : ofLabels catalog labels = .ok header) :
    Occurs catalog labels := by
  by_contra hoccurs
  by_cases hblank : ∀ label ∈ labels, Text.trim label = []
  · rw [ofLabels, if_pos hblank] at h
    simp at h
  · rw [ofLabels_of_not_occurs hblank hoccurs] at h
    simp at h

/-- The columns of a header, by a search of its labels for each ticker of the catalog. -/
theorem columns_of_ofLabels {header : Header} (h : ofLabels catalog labels = .ok header) :
    header.columns = catalog.instruments.filterMap fun i ↦
      (columnOf? labels i.ticker).map fun column ↦ ⟨i.ticker, i.index, column⟩ := by
  have hrepeats := not_repeats_of_ofLabels h
  obtain ⟨final, hfinal, hheader⟩ := ofLabels_of_occurs (occurs_of_ofLabels h) hrepeats
  rw [Except.ok.inj (h.symm.trans hheader)]
  refine List.filterMap_congr fun i hi ↦ ?_
  have hsearch : found? final i.ticker = columnOf? labels i.ticker := by
    refine Option.ext fun column ↦ ?_
    rw [hfinal i.ticker column,
      columnOf?_eq_some_iff (List.mem_map_of_mem hi) (hrepeats i.ticker)]
  rw [hsearch]

end ChanceDeck.Header
