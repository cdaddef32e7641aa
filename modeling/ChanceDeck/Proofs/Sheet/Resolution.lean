import ChanceDeck.Proofs.Sheet.Header
import Mathlib.Data.List.Pairwise

/-!
# What a row of labels makes

`ofLabels_resolution` says what every row of labels makes of every catalog: it is rejected as blank,
or for the first ticker that comes for the second time, or for want of a ticker, in this order, or it
makes a header of which `Resolves` holds.

A header keeps its columns in the order of the catalog. `map_instrument_ofFound` compares them with
the catalog, and `column?_ofFound` follows because no two instruments have one ticker. Sorted by their
columns they are compared with `places`, the tickers as they stand among the labels: both lists hold
the same places (`perm_places`) and both go from left to right, so they are equal
(`tickersBySheet_ofFound`).
-/

set_option autoImplicit false
set_option relaxedAutoImplicit false

namespace ChanceDeck

/-- The stock of a column. -/
def StockColumn.instrument (c : StockColumn) : Instrument :=
  ⟨c.ticker, c.index⟩

/-- The ticker of a column and where it stands. -/
def StockColumn.place (c : StockColumn) : Text × Nat :=
  (c.ticker, c.column)

namespace Header

/-! ### The tickers from left to right -/

section Places

variable {catalog : Catalog} {labels : List Text}

/-- The tickers of the catalog among the labels and where they stand, from left to right. -/
def places (catalog : Catalog) (labels : List Text) : List (Text × Nat) :=
  (labels.map Text.trim).zipIdx.filter fun place ↦ catalog.contains place.1

theorem mem_places_iff {ticker : Text} {column : Nat} :
    (ticker, column) ∈ places catalog labels ↔ Holds catalog labels ticker column := by
  rw [places, List.mem_filter, List.mem_zipIdx_iff_getElem?]
  constructor
  · rintro ⟨hlabel, hcontains⟩
    obtain ⟨label, -, rfl⟩ := List.mem_map.mp (List.mem_of_getElem? hlabel)
    exact ⟨contains_trim_iff.mp hcontains, hlabel⟩
  · intro h
    obtain ⟨label, -, rfl⟩ := List.mem_map.mp (List.mem_of_getElem? h.label)
    exact ⟨h.label, contains_trim_iff.mpr h.listed⟩

theorem pairwise_places : (places catalog labels).Pairwise fun a b ↦ a.2 < b.2 := by
  refine List.Pairwise.filter _ ?_
  rw [← List.pairwise_map (f := Prod.snd) (R := (· < ·)), List.zipIdx_map_snd]
  exact List.pairwise_lt_range'

theorem map_fst_places :
    (places catalog labels).map Prod.fst = (labels.map Text.trim).filter catalog.contains := by
  have hfilter := List.filter_map (f := Prod.fst) (p := catalog.contains)
    (l := (labels.map Text.trim).zipIdx)
  rw [List.zipIdx_map_fst] at hfilter
  exact hfilter.symm

end Places

/-! ### The columns that have been found -/

section Found

variable {catalog : Catalog} {labels : List Text} {found : List (Text × Nat)}

theorem mem_ofFound_iff (h : Remembers catalog labels found) {c : StockColumn} :
    c ∈ (ofFound catalog found).columns ↔
      c.instrument ∈ catalog.instruments ∧ Holds catalog labels c.ticker c.column := by
  rw [ofFound, List.mem_filterMap]
  constructor
  · rintro ⟨i, hi, hcolumn⟩
    obtain ⟨column, hfound, rfl⟩ := Option.map_eq_some_iff.mp hcolumn
    exact ⟨hi, (h i.ticker column).mp hfound⟩
  · rintro ⟨hi, hholds⟩
    refine ⟨c.instrument, hi, Option.map_eq_some_iff.mpr ⟨c.column, ?_, rfl⟩⟩
    exact (h c.ticker c.column).mpr hholds

/-- The stocks found are those that stand among the labels, in the order of the catalog. -/
theorem map_instrument_ofFound (h : Remembers catalog labels found) :
    (ofFound catalog found).columns.map StockColumn.instrument =
      catalog.instruments.filter fun i ↦ i.ticker ∈ labels.map Text.trim := by
  rw [ofFound, List.map_filterMap, ← List.filterMap_eq_filter]
  refine List.filterMap_congr fun i hi ↦ ?_
  by_cases hlabel : i.ticker ∈ labels.map Text.trim
  · obtain ⟨column, hcolumn⟩ := List.mem_iff_getElem?.mp hlabel
    have hfound : found? found i.ticker = some column :=
      (h i.ticker column).mpr ⟨List.mem_map_of_mem hi, hcolumn⟩
    rw [hfound, Option.guard_pos (by simpa using hlabel)]
    rfl
  · have hfound : found? found i.ticker = none := by
      refine Option.eq_none_iff_forall_ne_some.mpr fun column hcolumn ↦ hlabel ?_
      exact List.mem_of_getElem? ((h i.ticker column).mp hcolumn).label
    rw [hfound, Option.guard_eq_none_iff.mpr (by simpa using hlabel)]
    rfl

theorem nodup_tickers_ofFound (h : Remembers catalog labels found) :
    ((ofFound catalog found).columns.map StockColumn.ticker).Nodup := by
  have htickers : (ofFound catalog found).columns.map StockColumn.ticker =
      ((ofFound catalog found).columns.map StockColumn.instrument).map Instrument.ticker := by
    rw [List.map_map]
    rfl
  rw [htickers, map_instrument_ofFound h]
  exact (List.filter_sublist.map _).nodup catalog.admissible.tickers_nodup

theorem column?_ofFound (h : Remembers catalog labels found) {ticker : Text} {column : Nat} :
    (ofFound catalog found).column? ticker = some column ↔ Holds catalog labels ticker column := by
  rw [column?, Catalog.lookup_eq_some_iff StockColumn.ticker StockColumn.column
    (nodup_tickers_ofFound h)]
  constructor
  · rintro ⟨c, hc, rfl, rfl⟩
    exact ((mem_ofFound_iff h).mp hc).2
  · intro hholds
    obtain ⟨i, hi, rfl⟩ := List.mem_map.mp hholds.listed
    exact ⟨⟨i.ticker, i.index, column⟩, (mem_ofFound_iff h).mpr ⟨hi, hholds⟩, rfl, rfl⟩

theorem perm_places (h : Remembers catalog labels found) :
    ((ofFound catalog found).columns.map StockColumn.place).Perm (places catalog labels) := by
  have hcolumns : ((ofFound catalog found).columns.map StockColumn.place).Nodup := by
    refine List.Nodup.of_map Prod.fst ?_
    rw [List.map_map]
    exact nodup_tickers_ofFound h
  have hplaces : (places catalog labels).Nodup :=
    pairwise_places.imp fun hlt heq ↦ absurd hlt (by rw [heq]; exact lt_irrefl _)
  refine (List.perm_ext_iff_of_nodup hcolumns hplaces).mpr fun ⟨ticker, column⟩ ↦ ?_
  rw [mem_places_iff, ← column?_ofFound h, column?, Catalog.lookup_eq_some_iff
    StockColumn.ticker StockColumn.column (nodup_tickers_ofFound h), List.mem_map]
  simp [StockColumn.place]

/-- Sorted by their columns, the tickers found are those of the labels from left to right. -/
theorem tickersBySheet_ofFound (h : Remembers catalog labels found) :
    (ofFound catalog found).tickersBySheet =
      (labels.map Text.trim).filter catalog.contains := by
  let sorted := (ofFound catalog found).columns.mergeSort fun a b ↦ a.column ≤ b.column
  have hperm : (sorted.map StockColumn.place).Perm (places catalog labels) :=
    ((List.mergeSort_perm _ _).map _).trans (perm_places h)
  have hsorted : (sorted.map StockColumn.place).Pairwise fun a b ↦ a.2 ≤ b.2 := by
    have hcolumns : sorted.Pairwise fun a b ↦ decide (a.column ≤ b.column) = true := by
      refine List.pairwise_mergeSort (fun a b c hab hbc ↦ ?_) (fun a b ↦ ?_) _
      · simp only [decide_eq_true_eq] at hab hbc ⊢
        exact hab.trans hbc
      · simpa using le_total a.column b.column
    rw [List.pairwise_map]
    exact hcolumns.imp fun hle ↦ of_decide_eq_true hle
  have hplaces : sorted.map StockColumn.place = places catalog labels := by
    refine List.Perm.eq_of_pairwise ?_ hsorted (pairwise_places.imp le_of_lt) hperm
    -- A column holds one ticker, so the order of the columns decides.
    rintro ⟨ticker, column⟩ ⟨other, column'⟩ ha hb hle hge
    obtain rfl : column = column' := le_antisymm hle hge
    have hholds := mem_places_iff.mp (hperm.mem_iff.mp ha)
    rw [hholds.unique (mem_places_iff.mp hb)]
  rw [← map_fst_places, ← hplaces, List.map_map]
  rfl

end Found

/-! ### The outcome -/

/-- A header tells exactly where the tickers of the catalog stand among the labels. -/
structure Resolves (catalog : Catalog) (labels : List Text) (header : Header) : Prop where
  instruments : header.columns.map StockColumn.instrument =
    catalog.instruments.filter fun i ↦ i.ticker ∈ labels.map Text.trim
  only_column : ∀ c ∈ header.columns, ∀ column,
    (labels.map Text.trim)[column]? = some c.ticker ↔ column = c.column
  column?_iff : ∀ ticker column,
    header.column? ticker = some column ↔ Holds catalog labels ticker column
  tickersBySheet : header.tickersBySheet = (labels.map Text.trim).filter catalog.contains

variable {catalog : Catalog} {labels : List Text} {found : List (Text × Nat)}

theorem resolves_ofFound (h : Remembers catalog labels found) :
    Resolves catalog labels (ofFound catalog found) where
  instruments := map_instrument_ofFound h
  only_column := by
    intro c hc column
    have hholds : Holds catalog labels c.ticker c.column := ((mem_ofFound_iff h).mp hc).2
    constructor
    · intro hlabel
      have hcolumn := (h c.ticker column).mpr ⟨hholds.listed, hlabel⟩
      exact Option.some.inj (hcolumn.symm.trans ((h c.ticker c.column).mpr hholds))
    · rintro rfl
      exact hholds.label
  column?_iff := fun _ _ ↦ column?_ofFound h
  tickersBySheet := tickersBySheet_ofFound h

/-- What a row of labels makes. Blank labels come first, then a ticker that stands in two columns,
the one whose second column is leftmost, then the want of a ticker. -/
theorem ofLabels_resolution (catalog : Catalog) (labels : List Text) :
    ((∀ label ∈ labels, Text.trim label = []) →
      ofLabels catalog labels = .error .emptyHeader) ∧
    ((∃ label ∈ labels, Text.trim label ≠ []) →
      ((∃ ticker first second, Repeats catalog labels ticker first second) →
        ∃ ticker first second, FirstRepeat catalog labels ticker first second ∧
          ofLabels catalog labels = .error (.duplicateTickerColumn ticker first second)) ∧
      ((¬∃ ticker first second, Repeats catalog labels ticker first second) →
        (¬Occurs catalog labels → ofLabels catalog labels = .error .noTickerColumns) ∧
        (Occurs catalog labels →
          ∃ header, ofLabels catalog labels = .ok header ∧
            Resolves catalog labels header))) := by
  refine ⟨fun hblank ↦ by rw [ofLabels, if_pos hblank], fun hlabel ↦ ⟨?_, ?_⟩⟩
  · rintro ⟨ticker, first, second, hrepeats⟩
    exact exists_firstRepeat hrepeats
  · intro hrepeats
    refine ⟨fun hoccurs ↦ ofLabels_of_not_occurs ?_ hoccurs, fun hoccurs ↦ ?_⟩
    · obtain ⟨label, hmem, htrim⟩ := hlabel
      exact fun hblank ↦ htrim (hblank label hmem)
    · obtain ⟨final, hfinal, hheader⟩ := ofLabels_of_occurs hoccurs fun ticker first second h ↦
        hrepeats ⟨ticker, first, second, h⟩
      exact ⟨_, hheader, resolves_ofFound hfinal⟩

/-- A ticker that comes twice, and labels in another order than the catalog. -/
theorem ofLabels_resolution_standard :
    (∃ ticker first second,
      FirstRepeat .standard ["id".toList, "CE".toList, "GR".toList, "CE ".toList]
        ticker first second ∧
      ofLabels .standard ["id".toList, "CE".toList, "GR".toList, "CE ".toList] =
        .error (.duplicateTickerColumn ticker first second)) ∧
    ∃ header,
      ofLabels .standard ["Card".toList, "VA".toList, " GR ".toList, "CE".toList] = .ok header ∧
      Resolves .standard ["Card".toList, "VA".toList, " GR ".toList, "CE".toList] header := by
  constructor
  · refine ((ofLabels_resolution _ _).2 ⟨"id".toList, by decide, by decide⟩).1 ?_
    exact ⟨"CE".toList, 1, 3, by decide, ⟨by decide, by decide⟩, ⟨by decide, by decide⟩⟩
  · refine (((ofLabels_resolution _ _).2 ⟨"Card".toList, by decide, by decide⟩).2 ?_).2 (by decide)
    rintro ⟨ticker, first, second, hrepeats⟩
    exact Unambiguous.not_repeats (by decide) hrepeats

end Header

end ChanceDeck
