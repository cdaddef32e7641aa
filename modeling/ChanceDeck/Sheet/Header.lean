import ChanceDeck.Catalog

/-!
# Headers

The header of a sheet tells which column holds which stock. Labels are compared with the tickers
of a catalog without the blanks around them; other labels are passed over. A header keeps its
columns in the order of the catalog, so that nothing read through it depends on how the columns
are arranged.
-/

set_option autoImplicit false
set_option relaxedAutoImplicit false

namespace ChanceDeck

/-- A stock and its column, counted from zero. -/
structure StockColumn where
  ticker : Text
  index : UInt8
  column : Nat
  deriving DecidableEq, Repr

/-- The stock columns of a sheet in the order of the catalog. -/
structure Header where
  columns : List StockColumn
  deriving DecidableEq, Repr

/-- Why a row is no header. -/
inductive HeaderError where
  | emptyHeader
  | noTickerColumns
  | duplicateTickerColumn (ticker : Text) (first second : Nat)
  deriving DecidableEq, Repr

/-- The wording of a header error. -/
def HeaderError.message : HeaderError → Text
  | .emptyHeader => "CSV header row is empty".toList
  | .noTickerColumns => "no stock columns found in CSV header".toList
  | .duplicateTickerColumn ticker first second =>
    "stock column '".toList ++ ticker ++ "' appears twice in CSV header (columns ".toList ++
      Decimal.natural first ++ " and ".toList ++ Decimal.natural second ++ ")".toList

namespace Header

/-- The column at which a ticker was found. -/
def found? (found : List (Text × Nat)) (ticker : Text) : Option Nat :=
  (found.find? (·.1 = ticker)).map Prod.snd

/-- Tickers and their columns from a column on, given those found before it; the latest comes
first. -/
def scan (catalog : Catalog) (found : List (Text × Nat)) (column : Nat) :
    List Text → Except HeaderError (List (Text × Nat))
  | [] => .ok found
  | label :: rest =>
    if catalog.contains (Text.trim label) then
      match found? found (Text.trim label) with
      | some first => .error (.duplicateTickerColumn (Text.trim label) first column)
      | none => scan catalog ((Text.trim label, column) :: found) (column + 1) rest
    else scan catalog found (column + 1) rest

/-- The header that a row of labels makes. -/
def ofLabels (catalog : Catalog) (labels : List Text) : Except HeaderError Header :=
  if ∀ label ∈ labels, Text.trim label = [] then .error .emptyHeader
  else
    match scan catalog [] 0 labels with
    | .error e => .error e
    | .ok [] => .error .noTickerColumns
    | .ok found =>
      .ok ⟨catalog.instruments.filterMap fun i ↦
        (found? found i.ticker).map fun column ↦ ⟨i.ticker, i.index, column⟩⟩

/-- The number of stock columns. -/
def size (header : Header) : Nat :=
  header.columns.length

/-- The column of a ticker. -/
def column? (header : Header) (ticker : Text) : Option Nat :=
  (header.columns.find? (·.ticker = ticker)).map StockColumn.column

/-- The tickers from left to right. -/
def tickersBySheet (header : Header) : List Text :=
  (header.columns.mergeSort fun a b ↦ a.column ≤ b.column).map StockColumn.ticker

end Header

end ChanceDeck
