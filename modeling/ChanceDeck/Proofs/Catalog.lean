import ChanceDeck.Catalog
import Mathlib.Data.List.Basic
import Mathlib.Data.List.Nodup

/-!
# Look-ups in a catalog

Tickers and indices identify each other: an index has a ticker exactly when the catalog holds the
instrument of both (`tickerOf?_eq_some_iff`), and the same from a ticker to its index
(`indexOf?_eq_some_iff`). Both rest on one fact about lists whose keys are different,
`lookup_eq_some_iff`.
-/

set_option autoImplicit false
set_option relaxedAutoImplicit false

namespace ChanceDeck.Catalog

/-- Where no two members have the same key, looking a key up finds the value of any member that has
it. -/
theorem lookup_eq_some_iff {α β γ : Type} [DecidableEq β] (key : α → β) (value : α → γ)
    {members : List α} (hnodup : (members.map key).Nodup) {k : β} {v : γ} :
    (members.find? fun m ↦ key m = k).map value = some v ↔
      ∃ m ∈ members, key m = k ∧ value m = v := by
  constructor
  · intro h
    obtain ⟨m, hm, hv⟩ := Option.map_eq_some_iff.mp h
    exact ⟨m, List.mem_of_find?_eq_some hm, by simpa using List.find?_some hm, hv⟩
  · rintro ⟨m, hm, rfl, rfl⟩
    have hsome : (members.find? fun other ↦ key other = key m).isSome :=
      List.find?_isSome.mpr ⟨m, hm, by simp⟩
    obtain ⟨other, hother⟩ := Option.isSome_iff_exists.mp hsome
    have hkey : key other = key m := by simpa using List.find?_some hother
    have hsame : other = m :=
      List.inj_on_of_nodup_map hnodup (List.mem_of_find?_eq_some hother) hm hkey
    rw [hother, hsame]
    rfl

variable {catalog : Catalog}

/-- An index has a ticker exactly when the catalog holds the instrument of both. -/
theorem tickerOf?_eq_some_iff {index : UInt8} {ticker : Text} :
    catalog.tickerOf? index = some ticker ↔ ⟨ticker, index⟩ ∈ catalog.instruments := by
  rw [tickerOf?, lookup_eq_some_iff Instrument.index Instrument.ticker
    catalog.admissible.indices_nodup]
  constructor
  · rintro ⟨i, hi, rfl, rfl⟩
    exact hi
  · intro h
    exact ⟨_, h, rfl, rfl⟩

theorem tickerOf?_of_mem {i : Instrument} (h : i ∈ catalog.instruments) :
    catalog.tickerOf? i.index = some i.ticker :=
  tickerOf?_eq_some_iff.mpr h

/-- The indices given away are those that have a ticker. -/
theorem exists_tickerOf?_iff {index : UInt8} :
    (∃ ticker, catalog.tickerOf? index = some ticker) ↔
      index ∈ catalog.instruments.map Instrument.index := by
  constructor
  · rintro ⟨ticker, h⟩
    exact List.mem_map_of_mem (f := Instrument.index) (tickerOf?_eq_some_iff.mp h)
  · intro h
    obtain ⟨i, hi, rfl⟩ := List.mem_map.mp h
    exact ⟨i.ticker, tickerOf?_of_mem hi⟩

/-- A text has an index exactly when the catalog holds the instrument of both, blanks aside. -/
theorem indexOf?_eq_some_iff {ticker : Text} {index : UInt8} :
    catalog.indexOf? ticker = some index ↔
      ⟨Text.trim ticker, index⟩ ∈ catalog.instruments := by
  rw [indexOf?, lookup_eq_some_iff Instrument.ticker Instrument.index
    catalog.admissible.tickers_nodup]
  constructor
  · rintro ⟨i, hi, hticker, rfl⟩
    rw [← hticker]
    exact hi
  · intro h
    exact ⟨_, h, rfl, rfl⟩

theorem contains_iff {ticker : Text} :
    catalog.contains ticker = true ↔ ∃ i ∈ catalog.instruments, i.ticker = Text.trim ticker := by
  rw [contains, Option.isSome_iff_exists]
  constructor
  · rintro ⟨index, h⟩
    exact ⟨_, indexOf?_eq_some_iff.mp h, rfl⟩
  · rintro ⟨i, hi, hticker⟩
    exact ⟨i.index, indexOf?_eq_some_iff.mpr (hticker ▸ hi)⟩

theorem contains_trim {ticker : Text} :
    catalog.contains (Text.trim ticker) = true ↔
      ∃ i ∈ catalog.instruments, i.ticker = Text.trim ticker := by
  rw [contains_iff, Text.trim_trim]

end ChanceDeck.Catalog
