import ChanceDeck.Text.Blank
import ChanceDeck.Text.Decimal

/-!
# The instrument catalog

A catalog is an ordered list of stocks, each with a ticker and a byte that stands for it in the
records. No ticker is blank, no two tickers and no two indices are equal, and index 0 is never
given away because it ends a record. `Catalog.ofList` adds instruments one by one and reports the
first that cannot be added.
-/

set_option autoImplicit false
set_option relaxedAutoImplicit false

namespace ChanceDeck

/-- A stock: its ticker and its index in the records. -/
structure Instrument where
  ticker : Text
  index : UInt8
  deriving DecidableEq, Repr

/-- What every catalog and every beginning of one keeps. -/
structure Instrument.Admissible (instruments : List Instrument) : Prop where
  named : ∀ i ∈ instruments, i.ticker ≠ []
  trimmed : ∀ i ∈ instruments, Text.trim i.ticker = i.ticker
  unreserved : ∀ i ∈ instruments, i.index ≠ 0
  tickers_nodup : (instruments.map Instrument.ticker).Nodup
  indices_nodup : (instruments.map Instrument.index).Nodup

/-- An ordered list of instruments in which tickers and indices identify each other. -/
structure Catalog where
  instruments : List Instrument
  instruments_ne_nil : instruments ≠ []
  admissible : Instrument.Admissible instruments

/-- Why a list of instruments is no catalog. -/
inductive CatalogError where
  | empty
  | blankTicker
  | reservedIndex (ticker : Text)
  | duplicateTicker (ticker : Text)
  | duplicateIndex (index : UInt8)
  deriving DecidableEq, Repr

/-- The wording of a catalog error. -/
def CatalogError.message : CatalogError → Text
  | .empty => "catalog has no instruments".toList
  | .blankTicker => "catalog contains a blank ticker".toList
  | .reservedIndex ticker =>
    "catalog ticker '".toList ++ ticker ++ "' uses reserved terminator index 0".toList
  | .duplicateTicker ticker =>
    "catalog ticker '".toList ++ ticker ++ "' appears more than once".toList
  | .duplicateIndex index =>
    "catalog index ".toList ++ Decimal.natural index.toNat ++
      " is assigned more than once".toList

namespace Instrument

theorem admissible_nil : Admissible [] := by
  constructor <;> simp

/-- An instrument may follow an admissible list if it is named by no member. -/
theorem Admissible.append {instruments : List Instrument} (h : Admissible instruments)
    {ticker : Text} {index : UInt8} (hblank : Text.trim ticker ≠ []) (hindex : index ≠ 0)
    (hticker : Text.trim ticker ∉ instruments.map Instrument.ticker)
    (hfree : index ∉ instruments.map Instrument.index) :
    Admissible (instruments ++ [⟨Text.trim ticker, index⟩]) := by
  constructor
  · intro i hi
    rcases List.mem_append.mp hi with hi | hi
    · exact h.named i hi
    · simpa [List.mem_singleton.mp hi] using hblank
  · intro i hi
    rcases List.mem_append.mp hi with hi | hi
    · exact h.trimmed i hi
    · simp [List.mem_singleton.mp hi]
  · intro i hi
    rcases List.mem_append.mp hi with hi | hi
    · exact h.unreserved i hi
    · simpa [List.mem_singleton.mp hi] using hindex
  · rw [List.map_append, List.nodup_append]
    refine ⟨h.tickers_nodup, by simp, fun a ha b hb ↦ ?_⟩
    rintro rfl
    exact hticker ((by simpa using hb : a = Text.trim ticker) ▸ ha)
  · rw [List.map_append, List.nodup_append]
    refine ⟨h.indices_nodup, by simp, fun a ha b hb ↦ ?_⟩
    rintro rfl
    exact hfree ((by simpa using hb : a = index) ▸ ha)

/-- An admissible list of instruments, perhaps empty. -/
abbrev Draft := { instruments : List Instrument // Admissible instruments }

/-- Adds an instrument at the end of an admissible list, its ticker trimmed. -/
def Draft.add (draft : Draft) (ticker : Text) (index : UInt8) : Except CatalogError Draft :=
  if hblank : Text.trim ticker = [] then .error .blankTicker
  else if hindex : index = 0 then .error (.reservedIndex (Text.trim ticker))
  else if hticker : Text.trim ticker ∈ draft.val.map Instrument.ticker then
    .error (.duplicateTicker (Text.trim ticker))
  else if hfree : index ∈ draft.val.map Instrument.index then .error (.duplicateIndex index)
  else .ok ⟨_, draft.property.append hblank hindex hticker hfree⟩

/-- Adds instruments in order, up to the first that cannot be added. -/
def Draft.addAll (draft : Draft) : List (Text × UInt8) → Except CatalogError Draft
  | [] => .ok draft
  | (ticker, index) :: rest =>
    match draft.add ticker index with
    | .error e => .error e
    | .ok next => next.addAll rest

end Instrument

namespace Catalog

/-- The catalog of a list of tickers and indices. -/
def ofList (instruments : List (Text × UInt8)) : Except CatalogError Catalog :=
  match Instrument.Draft.addAll ⟨[], Instrument.admissible_nil⟩ instruments with
  | .error e => .error e
  | .ok draft =>
    if h : draft.val = [] then .error .empty
    else .ok ⟨draft.val, h, draft.property⟩

/-- The ten stocks of the deck, numbered from one. -/
def standard : Catalog where
  instruments :=
    [⟨"CE".toList, 1⟩, ⟨"GR".toList, 2⟩, ⟨"ME".toList, 3⟩, ⟨"PI".toList, 4⟩, ⟨"SH".toList, 5⟩,
      ⟨"ST".toList, 6⟩, ⟨"TR".toList, 7⟩, ⟨"UN".toList, 8⟩, ⟨"UR".toList, 9⟩, ⟨"VA".toList, 10⟩]
  instruments_ne_nil := by decide
  admissible := by constructor <;> decide

/-- The number of instruments. -/
def size (catalog : Catalog) : Nat :=
  catalog.instruments.length

/-- The index of a ticker, whatever blanks surround it. -/
def indexOf? (catalog : Catalog) (ticker : Text) : Option UInt8 :=
  (catalog.instruments.find? fun i ↦ i.ticker = Text.trim ticker).map Instrument.index

/-- Whether a text is a ticker of the catalog, whatever blanks surround it. -/
def contains (catalog : Catalog) (ticker : Text) : Bool :=
  (catalog.indexOf? ticker).isSome

/-- The ticker with an index. -/
def tickerOf? (catalog : Catalog) (index : UInt8) : Option Text :=
  (catalog.instruments.find? fun i ↦ i.index = index).map Instrument.ticker

/-- The highest index given away. -/
def maxIndex (catalog : Catalog) : UInt8 :=
  catalog.instruments.foldl (fun highest i ↦ max highest i.index) 0

end Catalog

end ChanceDeck
