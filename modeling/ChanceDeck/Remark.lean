import ChanceDeck.Record
import ChanceDeck.Specials

/-!
# Remarks

The remark of a card lists its effects in words, in the order of its record, and ends with the
note of a special card in parentheses.
-/

set_option autoImplicit false
set_option relaxedAutoImplicit false

namespace ChanceDeck.Remark

/-- A price change with a plus sign if it is positive. -/
def signed (delta : Int64) : Text :=
  if 0 < delta.toInt then '+' :: Decimal.integer delta.toInt else Decimal.integer delta.toInt

/-- The name of an instrument, or its number sign and index if the catalog has none. -/
def name (catalog : Catalog) (index : UInt8) : Text :=
  (catalog.tickerOf? index).getD ('#' :: Decimal.natural index.toNat)

/-- One effect in words. -/
def phrase (catalog : Catalog) (effect : Effect) : Text :=
  name catalog effect.index ++ ' ' :: signed effect.delta

/-- The effects of a record in words. -/
def ofEffects (catalog : Catalog) : List Effect → Text
  | [] => "no changes".toList
  | effects => Text.join ", ".toList (effects.map (phrase catalog))

/-- A note in parentheses after a space. -/
def note : Option Text → Text
  | none => []
  | some text => " (".toList ++ text ++ ")".toList

/-- The remark of a card with a given record. -/
def ofRecord (catalog : Catalog) (specials : Specials) (card : Text) (record : Record) : Text :=
  ofEffects catalog record.effects ++ note (specials.note? card)

end ChanceDeck.Remark
