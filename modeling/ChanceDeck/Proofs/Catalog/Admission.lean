import ChanceDeck.Proofs.Catalog
import Mathlib.Data.List.Induction

/-!
# Which lists are catalogs

A list of tickers and indices can be admitted or not without looking at how a catalog is built:
`Listable` asks that no ticker is blank, no index is 0, and neither tickers nor indices repeat, blanks
around tickers aside. An entry offends against the entries before it if it breaks one of these rules
(`Offends`), the first of them in a fixed order, and a list is listable exactly if none of its
entries does (`listable_iff`).

`ofList_outcome` says what every list makes. The draft that grows while entries are added holds the
entries added so far, in order and trimmed; so entries that are listable are all added
(`exists_addAll`), and the first entry that offends is reported (`add_of_offends`). In the
catalog of a list, tickers and indices lead to each other.
-/

set_option autoImplicit false
set_option relaxedAutoImplicit false

namespace ChanceDeck

namespace Instrument

/-- The instrument of an entry, its ticker without the blanks around it. -/
def ofEntry (entry : Text × UInt8) : Instrument :=
  ⟨Text.trim entry.1, entry.2⟩

/-- What is asked of entries that are to make a catalog, their number apart. -/
structure Listable (entries : List (Text × UInt8)) : Prop where
  named : ∀ entry ∈ entries, Text.trim entry.1 ≠ []
  unreserved : ∀ entry ∈ entries, entry.2 ≠ 0
  tickers_nodup : (entries.map fun entry ↦ Text.trim entry.1).Nodup
  indices_nodup : (entries.map Prod.snd).Nodup

/-- What is wrong with an entry that follows others: of several faults, the one that is named
first. -/
inductive Offends (before : List (Text × UInt8)) (entry : Text × UInt8) : CatalogError → Prop where
  | blank (hticker : Text.trim entry.1 = []) : Offends before entry .blankTicker
  | reserved (hticker : Text.trim entry.1 ≠ []) (hindex : entry.2 = 0) :
      Offends before entry (.reservedIndex (Text.trim entry.1))
  | duplicateTicker (hticker : Text.trim entry.1 ≠ []) (hindex : entry.2 ≠ 0)
      (hknown : Text.trim entry.1 ∈ before.map fun other ↦ Text.trim other.1) :
      Offends before entry (.duplicateTicker (Text.trim entry.1))
  | duplicateIndex (hticker : Text.trim entry.1 ≠ []) (hindex : entry.2 ≠ 0)
      (hnew : Text.trim entry.1 ∉ before.map fun other ↦ Text.trim other.1)
      (hknown : entry.2 ∈ before.map Prod.snd) :
      Offends before entry (.duplicateIndex entry.2)

/-- The fault of the first entry that offends against those before it. -/
def FirstOffence (entries : List (Text × UInt8)) (e : CatalogError) : Prop :=
  ∃ front entry rest, entries = front ++ entry :: rest ∧ Offends front entry e ∧
    ∀ earlier other between, front = earlier ++ other :: between → ∀ e', ¬Offends earlier other e'

variable {before front rest entries : List (Text × UInt8)} {entry : Text × UInt8} {e : CatalogError}

/-! ### Lists whose entries do not offend -/

theorem listable_nil : Listable [] := by
  constructor <;> simp

theorem not_offends_iff : (∀ e, ¬Offends before entry e) ↔
    Text.trim entry.1 ≠ [] ∧ entry.2 ≠ 0 ∧
      Text.trim entry.1 ∉ before.map (fun other ↦ Text.trim other.1) ∧
      entry.2 ∉ before.map Prod.snd := by
  constructor
  · intro h
    have hticker : Text.trim entry.1 ≠ [] := fun hblank ↦ h _ (.blank hblank)
    have hindex : entry.2 ≠ 0 := fun hzero ↦ h _ (.reserved hticker hzero)
    have hnew : Text.trim entry.1 ∉ before.map fun other ↦ Text.trim other.1 :=
      fun hknown ↦ h _ (.duplicateTicker hticker hindex hknown)
    exact ⟨hticker, hindex, hnew, fun hknown ↦ h _ (.duplicateIndex hticker hindex hnew hknown)⟩
  · rintro ⟨hticker, hindex, hnew, hfree⟩ e (hblank | ⟨-, hzero⟩ | ⟨-, -, hknown⟩ | ⟨-, -, -, hknown⟩)
    · exact hticker hblank
    · exact hindex hzero
    · exact hnew hknown
    · exact hfree hknown

theorem listable_concat_iff :
    Listable (front ++ [entry]) ↔ Listable front ∧ ∀ e, ¬Offends front entry e := by
  rw [not_offends_iff]
  constructor
  · rintro ⟨hnamed, hunreserved, htickers, hindices⟩
    rw [List.map_append, List.map_singleton, ← List.concat_eq_append,
      List.nodup_concat] at htickers hindices
    obtain ⟨hnamed, hticker⟩ := List.forall_mem_append.mp hnamed
    obtain ⟨hunreserved, hindex⟩ := List.forall_mem_append.mp hunreserved
    exact ⟨⟨hnamed, hunreserved, htickers.2, hindices.2⟩, hticker entry List.mem_cons_self,
      hindex entry List.mem_cons_self, htickers.1, hindices.1⟩
  · rintro ⟨⟨hnamed, hunreserved, htickers, hindices⟩, hticker, hindex, hnew, hfree⟩
    constructor
    · exact List.forall_mem_append.mpr ⟨hnamed, List.forall_mem_singleton.mpr hticker⟩
    · exact List.forall_mem_append.mpr ⟨hunreserved, List.forall_mem_singleton.mpr hindex⟩
    · rw [List.map_append, List.map_singleton, ← List.concat_eq_append, List.nodup_concat]
      exact ⟨hnew, htickers⟩
    · rw [List.map_append, List.map_singleton, ← List.concat_eq_append, List.nodup_concat]
      exact ⟨hfree, hindices⟩

theorem Listable.of_append (h : Listable (front ++ rest)) : Listable front := by
  obtain ⟨hnamed, hunreserved, htickers, hindices⟩ := h
  rw [List.map_append] at htickers hindices
  exact ⟨(List.forall_mem_append.mp hnamed).1, (List.forall_mem_append.mp hunreserved).1,
    htickers.of_append_left, hindices.of_append_left⟩

/-- Entries are listable exactly if none of them offends against those before it. -/
theorem listable_iff : Listable entries ↔
    ∀ earlier other between, entries = earlier ++ other :: between →
      ∀ e, ¬Offends earlier other e := by
  constructor
  · rintro h earlier other between rfl
    rw [← List.singleton_append, ← List.append_assoc] at h
    exact (listable_concat_iff.mp h.of_append).2
  · intro h
    induction entries using List.reverseRecOn with
    | nil => exact listable_nil
    | append_singleton entries entry ih =>
      refine listable_concat_iff.mpr ⟨ih fun earlier other between hparts ↦ ?_, h _ _ [] rfl⟩
      refine h earlier other (between ++ [entry]) ?_
      rw [hparts, List.append_assoc, List.cons_append]

/-- In a list that is not listable, some entry is the first that offends. -/
theorem exists_firstOffence (h : ¬Listable entries) : ∃ e, FirstOffence entries e := by
  induction entries using List.reverseRecOn with
  | nil => exact absurd listable_nil h
  | append_singleton entries entry ih =>
    by_cases hentries : Listable entries
    · have hoffends : ∃ e, Offends entries entry e := by
        by_contra hnone
        exact h (listable_concat_iff.mpr ⟨hentries, not_exists.mp hnone⟩)
      obtain ⟨e, he⟩ := hoffends
      exact ⟨e, entries, entry, [], rfl, he, listable_iff.mp hentries⟩
    · obtain ⟨e, front, first, rest, rfl, he, hfront⟩ := ih hentries
      exact ⟨e, front, first, rest ++ [entry], by simp, he, hfront⟩

/-! ### Drafts that hold the entries added so far -/

namespace Draft

variable {draft : Draft}

theorem ticker_mem_iff (hdraft : draft.val = before.map ofEntry) {ticker : Text} :
    ticker ∈ draft.val.map Instrument.ticker ↔
      ticker ∈ before.map fun other ↦ Text.trim other.1 := by
  rw [hdraft, List.map_map]
  rfl

theorem index_mem_iff (hdraft : draft.val = before.map ofEntry) {index : UInt8} :
    index ∈ draft.val.map Instrument.index ↔ index ∈ before.map Prod.snd := by
  rw [hdraft, List.map_map]
  rfl

theorem add_of_offends (hdraft : draft.val = before.map ofEntry) (h : Offends before entry e) :
    draft.add entry.1 entry.2 = .error e := by
  rw [add]
  obtain hticker | ⟨hticker, hindex⟩ | ⟨hticker, hindex, hknown⟩ | ⟨hticker, hindex, hnew, hknown⟩ :=
    h
  · rw [dif_pos hticker]
  · rw [dif_neg hticker, dif_pos hindex]
  · rw [dif_neg hticker, dif_neg hindex, dif_pos ((ticker_mem_iff hdraft).mpr hknown)]
  · rw [dif_neg hticker, dif_neg hindex, dif_neg (mt (ticker_mem_iff hdraft).mp hnew),
      dif_pos ((index_mem_iff hdraft).mpr hknown)]

theorem exists_add (hdraft : draft.val = before.map ofEntry) (h : ∀ e, ¬Offends before entry e) :
    ∃ next : Draft, draft.add entry.1 entry.2 = .ok next ∧
      next.val = (before ++ [entry]).map ofEntry := by
  obtain ⟨hticker, hindex, hnew, hfree⟩ := not_offends_iff.mp h
  rw [add, dif_neg hticker, dif_neg hindex, dif_neg (mt (ticker_mem_iff hdraft).mp hnew),
    dif_neg (mt (index_mem_iff hdraft).mp hfree)]
  refine ⟨_, rfl, ?_⟩
  rw [List.map_append, ← hdraft]
  rfl

/-- Entries that do not offend are all added, whatever entries follow them. -/
theorem exists_addAll_append (hdraft : draft.val = before.map ofEntry)
    (h : Listable (before ++ front)) :
    ∃ next : Draft, next.val = (before ++ front).map ofEntry ∧
      ∀ rest, draft.addAll (front ++ rest) = next.addAll rest := by
  induction front generalizing draft before with
  | nil => exact ⟨draft, by rw [hdraft, List.append_nil], fun rest ↦ rfl⟩
  | cons entry front ih =>
    have hparts : before ++ entry :: front = before ++ [entry] ++ front := by simp
    rw [hparts] at h ⊢
    obtain ⟨next, hadd, hnext⟩ := exists_add hdraft (listable_concat_iff.mp h.of_append).2
    obtain ⟨final, hfinal, hrest⟩ := ih hnext h
    exact ⟨final, hfinal, fun rest ↦ by rw [List.cons_append, addAll, hadd]; exact hrest rest⟩

theorem exists_addAll (h : Listable front) :
    ∃ next : Draft, next.val = front.map ofEntry ∧
      ∀ rest, addAll ⟨[], admissible_nil⟩ (front ++ rest) = next.addAll rest := by
  have hdraft : (⟨[], admissible_nil⟩ : Draft).val = List.map ofEntry [] := rfl
  exact exists_addAll_append hdraft h

end Draft

end Instrument

namespace Catalog

open Instrument

variable {entries : List (Text × UInt8)} {e : CatalogError} {catalog : Catalog}

theorem exists_ofList (hne : entries ≠ []) (h : Listable entries) :
    ∃ catalog, ofList entries = .ok catalog ∧ catalog.instruments = entries.map ofEntry := by
  obtain ⟨final, hfinal, hall⟩ := Draft.exists_addAll h
  have hadded : Draft.addAll ⟨[], admissible_nil⟩ entries = .ok final := by
    simpa [Draft.addAll] using hall []
  have hnonempty : final.val ≠ [] := by
    rw [hfinal]
    simpa using hne
  rw [ofList, hadded]
  exact ⟨⟨final.val, hnonempty, final.property⟩, dif_neg hnonempty, hfinal⟩

theorem ofList_of_firstOffence (h : FirstOffence entries e) : ofList entries = .error e := by
  obtain ⟨front, entry, rest, rfl, he, hfront⟩ := h
  obtain ⟨next, hnext, hall⟩ := Draft.exists_addAll (listable_iff.mpr hfront)
  rw [ofList, hall, Draft.addAll, Draft.add_of_offends hnext he]

/-- Tickers and indices of a catalog lead to each other, blanks around tickers aside. -/
theorem indexOf?_eq_some_iff_tickerOf? {ticker : Text} {index : UInt8} :
    catalog.indexOf? ticker = some index ↔ catalog.tickerOf? index = some (Text.trim ticker) := by
  rw [indexOf?_eq_some_iff, tickerOf?_eq_some_iff]

theorem tickerOf?_zero : catalog.tickerOf? 0 = none := by
  refine Option.eq_none_iff_forall_ne_some.mpr fun ticker h ↦ ?_
  exact catalog.admissible.unreserved _ (tickerOf?_eq_some_iff.mp h) rfl

/-- A list makes a catalog exactly if it is listable and not empty. Otherwise the error is that of
the empty list or of the first entry that offends against those before it. The catalog keeps the
entries in order, and its tickers and indices lead to each other. -/
theorem ofList_outcome (entries : List (Text × UInt8)) :
    ((∃ catalog, ofList entries = .ok catalog) ↔ entries ≠ [] ∧ Listable entries) ∧
    (∀ e, ofList entries = .error e ↔ (entries = [] ∧ e = .empty) ∨ FirstOffence entries e) ∧
    ∀ catalog, ofList entries = .ok catalog →
      catalog.instruments = entries.map ofEntry ∧
      (∀ ticker index, catalog.indexOf? ticker = some index ↔
        catalog.tickerOf? index = some (Text.trim ticker)) ∧
      catalog.tickerOf? 0 = none := by
  by_cases hne : entries = []
  · subst hne
    have hempty : ofList [] = .error .empty := rfl
    rw [hempty]
    refine ⟨by simp, fun e ↦ ⟨fun h ↦ Or.inl ⟨rfl, (Except.error.inj h).symm⟩, ?_⟩, by simp⟩
    rintro (⟨-, rfl⟩ | ⟨front, entry, rest, hparts, -⟩)
    · rfl
    · exact absurd hparts.symm (List.append_ne_nil_of_right_ne_nil _ (List.cons_ne_nil _ _))
  by_cases h : Listable entries
  · obtain ⟨catalog, hcatalog, hinstruments⟩ := exists_ofList hne h
    refine ⟨iff_of_true ⟨catalog, hcatalog⟩ ⟨hne, h⟩, fun e ↦ iff_of_false (by simp [hcatalog]) ?_,
      fun other hother ↦ ?_⟩
    · rintro (⟨hempty, -⟩ | hoffence)
      · exact hne hempty
      · exact absurd (hcatalog.symm.trans (ofList_of_firstOffence hoffence)) (by simp)
    · obtain rfl : catalog = other := Except.ok.inj (hcatalog.symm.trans hother)
      exact ⟨hinstruments, fun ticker index ↦ indexOf?_eq_some_iff_tickerOf?, tickerOf?_zero⟩
  · obtain ⟨e, he⟩ := exists_firstOffence h
    have herror := ofList_of_firstOffence he
    refine ⟨iff_of_false (by simp [herror]) fun hboth ↦ h hboth.2, fun e' ↦ ?_, by simp [herror]⟩
    rw [herror, Except.error.injEq]
    constructor
    · rintro rfl
      exact Or.inr he
    · rintro (⟨hempty, -⟩ | he')
      · exact absurd hempty hne
      · exact Except.error.inj (herror.symm.trans (ofList_of_firstOffence he'))

/-- Indices with gaps and a ticker with blanks around it, and an entry with two faults of which the
index is named first. -/
theorem ofList_outcome_sparse :
    (∃ catalog, ofList [(" GR ".toList, 7), ("CE".toList, 200)] = .ok catalog ∧
      catalog.instruments = [⟨"GR".toList, 7⟩, ⟨"CE".toList, 200⟩] ∧
      catalog.tickerOf? 7 = some "GR".toList ∧ catalog.tickerOf? 0 = none) ∧
    ofList [("CE".toList, 7), (" CE".toList, 0)] = .error (.reservedIndex "CE".toList) := by
  constructor
  · obtain ⟨catalog, hcatalog⟩ := (ofList_outcome [(" GR ".toList, 7), ("CE".toList, 200)]).1.mpr
      ⟨List.cons_ne_nil _ _, by constructor <;> decide⟩
    obtain ⟨hinstruments, hinverse, hzero⟩ := (ofList_outcome _).2.2 catalog hcatalog
    have hindex : catalog.indexOf? "GR ".toList = some 7 := by
      rw [indexOf?, hinstruments]
      rfl
    exact ⟨catalog, hcatalog, hinstruments, (hinverse _ _).mp hindex, hzero⟩
  · refine ((ofList_outcome _).2.1 _).mpr (Or.inr ⟨[("CE".toList, 7)], (" CE".toList, 0), [], rfl,
      .reserved (by decide) rfl, listable_iff.mp ?_⟩)
    constructor <;> decide

end Catalog

end ChanceDeck
