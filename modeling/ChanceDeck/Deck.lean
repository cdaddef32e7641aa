import ChanceDeck.Card

/-!
# Decks

A deck is what a whole sheet holds: its header, its cards in the order of the rows, and counts of
what was read. Only a bad header fails; rows that are no cards are counted and left out.
-/

set_option autoImplicit false
set_option relaxedAutoImplicit false

namespace ChanceDeck

/-- Counts of one reading of a sheet; the header is not counted as a row. -/
structure DeckStats where
  rowsRead : Nat
  rowsSkipped : Nat
  cardsEncoded : Nat
  cardsOverflowed : Nat
  deriving DecidableEq, Repr

/-- The header, the cards and the counts of a sheet. -/
structure Deck where
  header : Header
  cards : List Card
  stats : DeckStats
  deriving DecidableEq, Repr

namespace DeckStats

/-- No rows. -/
def zero : DeckStats :=
  ⟨0, 0, 0, 0⟩

/-- Counts one more row, by what became of it. -/
def count (stats : DeckStats) : Except SkipReason Card → DeckStats
  | .error _ =>
    { stats with rowsRead := stats.rowsRead + 1, rowsSkipped := stats.rowsSkipped + 1 }
  | .ok card =>
    { stats with
      rowsRead := stats.rowsRead + 1
      cardsEncoded := stats.cardsEncoded + 1
      cardsOverflowed := stats.cardsOverflowed + if card.overflow.isSome then 1 else 0 }

end DeckStats

namespace Deck

/-- The deck of the rows of a sheet, header first. -/
def ofRows (catalog : Catalog) (specials : Specials) :
    List (List Text) → Except HeaderError Deck
  | [] => .error .emptyHeader
  | labels :: rows =>
    match Header.ofLabels catalog labels with
    | .error e => .error e
    | .ok header =>
      let outcomes := rows.map (Card.ofRow catalog specials header)
      .ok ⟨header, outcomes.filterMap Except.toOption, outcomes.foldl DeckStats.count .zero⟩

/-- The cards that had more effects than a record can hold. -/
def overflowed (deck : Deck) : List Card :=
  deck.cards.filter (·.overflow.isSome)

end Deck

end ChanceDeck
