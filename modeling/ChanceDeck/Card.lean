import ChanceDeck.Remark
import ChanceDeck.Sheet.Header

/-!
# Cards

A row of the sheet below its header is a card if its first cell is an integer. The cells under
the stock columns give its effects: a cell that is blank, zero or no integer gives none.
-/

set_option autoImplicit false
set_option relaxedAutoImplicit false

namespace ChanceDeck

/-- What one cell under a stock column holds. -/
inductive Cell where
  | blank
  | zero
  | malformed (text : Text)
  | delta (value : Int64)
  deriving DecidableEq, Repr

/-- The reading of a cell; a row that is too short has no cell. -/
def Cell.ofText? : Option Text → Cell
  | none => .blank
  | some raw =>
    let text := Text.trim raw
    if text = [] then .blank
    else
      match Decimal.integer? text with
      | none => .malformed text
      | some value => if value = 0 then .zero else .delta value

/-- The price change that a cell gives. -/
def Cell.delta? : Cell → Option Int64
  | .delta value => some value
  | _ => none

/-- A card as it goes into a listing. -/
structure Card where
  id : Text
  record : Record
  remark : Text
  overflow : Option Overflow
  deriving DecidableEq, Repr

/-- Why a row is no card. -/
inductive SkipReason where
  | emptyRow
  | blankIdentifier
  | nonNumericIdentifier
  deriving DecidableEq, Repr

namespace Card

/-- The effects of a row in the order of the catalog. -/
def effectsOfRow (header : Header) (row : List Text) : List Effect :=
  header.columns.filterMap fun c ↦
    (Cell.ofText? row[c.column]?).delta?.map fun delta ↦ ⟨c.index, delta⟩

/-- The card with an identifier and effects. -/
def ofEffects (catalog : Catalog) (specials : Specials) (id : Text) (effects : List Effect) :
    Card where
  id := id
  record := Record.ofEffects effects
  remark := Remark.ofRecord catalog specials id (Record.ofEffects effects)
  overflow := Record.overflow? effects

/-- The card of a row. -/
def ofRow (catalog : Catalog) (specials : Specials) (header : Header) (row : List Text) :
    Except SkipReason Card :=
  match row with
  | [] => .error .emptyRow
  | first :: _ =>
    if Text.trim first = [] then .error .blankIdentifier
    else if (Decimal.integer? (Text.trim first)).isNone then .error .nonNumericIdentifier
    else .ok (ofEffects catalog specials (Text.trim first) (effectsOfRow header row))

end Card

end ChanceDeck
