import ChanceDeck.Listing.Basic

/-!
# Data lines read back

The parts of a line that has the form of a card's line: its number, the values, the identifier and
the remark. The number ends at the first space, the values at the first comment separator and the
identifier at the first colon with a space after it.
-/

set_option autoImplicit false
set_option relaxedAutoImplicit false

namespace ChanceDeck

/-- The parts of a card's line. -/
structure DataLine where
  lineNumber : Nat
  values : List Int64
  card : Text
  remark : Text
  deriving DecidableEq, Repr

namespace DataLine

/-- The highest line number that is read. -/
def maxLineNumber : Nat := 0xFFFFFFFF

/-- The integers that a list of texts spells, whatever blanks surround them. -/
def integers? : List Text → Option (List Int64)
  | [] => some []
  | text :: rest =>
    match Decimal.integer? (Text.trim text) with
    | none => none
    | some value => (integers? rest).map (value :: ·)

/-- The parts of a line, or nothing if it has not the form of a card's line. -/
def ofText? (line : Text) : Option DataLine := do
  let (number, rest) ← Text.cut? [' '] (Text.trim line)
  let lineNumber ← Decimal.natural? maxLineNumber number
  let rest ← Text.strip? "DATA ".toList rest
  let (values, comment) ← Text.cut? Listing.separator rest
  let (card, remark) ← Text.cut? ": ".toList comment
  let values ← integers? (values.splitOn ',')
  return ⟨lineNumber, values, Text.trim card, remark⟩

end DataLine

end ChanceDeck
