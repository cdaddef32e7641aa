import ChanceDeck.Proofs.Deck
import Mathlib.Data.List.Induction

/-!
# Decks, row by row

A deck comes out of its rows one by one. A row has a card exactly when its first cell reads as an
integer, whatever else it holds, and no row makes the reading fail (`ofRows_eq_error_iff`). The
counts of a deck are those of its rows (`DeckStats.Counts`): one more row keeps them right
(`Counts.count`), two readings together have the sums of both (`Counts.add`), and outcomes have no
other counts (`Counts.unique`). So a sheet may be read in parts: `ofRows_rowwise` says what the deck
of every sheet with a header holds, and that the decks of two parts make up the deck of the whole.
-/

set_option autoImplicit false
set_option relaxedAutoImplicit false

namespace ChanceDeck

/-! ### Counts -/

namespace DeckStats

/-- The counts of two readings together. -/
instance : Add DeckStats where
  add a b :=
    ⟨a.rowsRead + b.rowsRead, a.rowsSkipped + b.rowsSkipped, a.cardsEncoded + b.cardsEncoded,
      a.cardsOverflowed + b.cardsOverflowed⟩

/-- What the counts of a reading say of the outcomes of its rows. -/
structure Counts (outcomes : List (Except SkipReason Card)) (stats : DeckStats) : Prop where
  rowsRead : stats.rowsRead = outcomes.length
  rowsSkipped : stats.rowsSkipped = outcomes.countP (·.toOption.isNone)
  cardsEncoded : stats.cardsEncoded = (outcomes.filterMap Except.toOption).length
  cardsOverflowed : stats.cardsOverflowed =
    ((outcomes.filterMap Except.toOption).filter (·.overflow.isSome)).length

variable {outcomes others : List (Except SkipReason Card)} {stats stats' : DeckStats}

theorem counts_zero : Counts [] zero :=
  ⟨rfl, rfl, rfl, rfl⟩

/-- One more row is counted for what became of it. -/
theorem Counts.count (h : Counts outcomes stats) (outcome : Except SkipReason Card) :
    Counts (outcomes ++ [outcome]) (stats.count outcome) := by
  obtain ⟨hread, hskipped, hencoded, hoverflowed⟩ := h
  cases outcome with
  | error reason =>
    constructor <;>
      simp [DeckStats.count, Except.toOption, hread, hskipped, hencoded, hoverflowed]
  | ok card =>
    constructor
    · simp [DeckStats.count, hread]
    · simp [DeckStats.count, Except.toOption, hskipped]
    · simp [DeckStats.count, Except.toOption, hencoded]
    · cases hcard : card.overflow <;>
        simp [DeckStats.count, Except.toOption, List.filter_append, hoverflowed, hcard]

theorem counts_foldl (outcomes : List (Except SkipReason Card)) :
    Counts outcomes (outcomes.foldl DeckStats.count zero) := by
  induction outcomes using List.reverseRecOn with
  | nil => exact counts_zero
  | append_singleton outcomes outcome ih =>
    rw [List.foldl_concat]
    exact ih.count outcome

theorem Counts.add (h : Counts outcomes stats) (h' : Counts others stats') :
    Counts (outcomes ++ others) (stats + stats') := by
  constructor
  · rw [List.length_append, ← h.rowsRead, ← h'.rowsRead]
    rfl
  · rw [List.countP_append, ← h.rowsSkipped, ← h'.rowsSkipped]
    rfl
  · rw [List.filterMap_append, List.length_append, ← h.cardsEncoded, ← h'.cardsEncoded]
    rfl
  · rw [List.filterMap_append, List.filter_append, List.length_append, ← h.cardsOverflowed,
      ← h'.cardsOverflowed]
    rfl

theorem Counts.unique (h : Counts outcomes stats) (h' : Counts outcomes stats') :
    stats = stats' := by
  obtain ⟨read, skipped, encoded, overflowed⟩ := stats
  rw [DeckStats.mk.injEq]
  exact ⟨h.rowsRead.trans h'.rowsRead.symm, h.rowsSkipped.trans h'.rowsSkipped.symm,
    h.cardsEncoded.trans h'.cardsEncoded.symm, h.cardsOverflowed.trans h'.cardsOverflowed.symm⟩

/-- Every row is either passed over or has a card. -/
theorem Counts.rowsRead_eq (h : Counts outcomes stats) :
    stats.rowsRead = stats.rowsSkipped + stats.cardsEncoded := by
  rw [h.rowsRead, h.rowsSkipped, h.cardsEncoded, List.length_filterMap_eq_countP,
    List.length_eq_countP_add_countP fun outcome : Except SkipReason Card ↦
      outcome.toOption.isNone]
  congr 2
  funext outcome
  cases outcome.toOption <;> rfl

end DeckStats

/-! ### Rows -/

/-- Whether the first cell of a row reads as an integer. -/
def Card.IsNumbered (row : List Text) : Prop :=
  (Decimal.integer? (Text.trim (row.headD []))).isSome = true

instance (row : List Text) : Decidable (Card.IsNumbered row) :=
  inferInstanceAs (Decidable (_ = true))

namespace Deck

variable {catalog : Catalog} {specials : Specials} {labels : List Text} {header : Header}

/-- What a deck holds of each of the rows it comes out of. -/
structure Rowwise (catalog : Catalog) (specials : Specials) (labels : List Text)
    (rows : List (List Text)) (deck : Deck) : Prop where
  header : Header.ofLabels catalog labels = .ok deck.header
  cards : deck.cards = rows.filterMap fun row ↦
    (Card.ofRow catalog specials deck.header row).toOption
  exists_card_iff : ∀ row,
    (∃ card, Card.ofRow catalog specials deck.header row = .ok card) ↔ Card.IsNumbered row
  rowsRead : deck.stats.rowsRead = rows.length
  rowsRead_eq : deck.stats.rowsRead = deck.stats.rowsSkipped + deck.stats.cardsEncoded
  cardsEncoded : deck.stats.cardsEncoded = deck.cards.length
  cardsOverflowed : deck.stats.cardsOverflowed = deck.overflowed.length
  cardsOverflowed_eq : deck.stats.cardsOverflowed = rows.countP fun row ↦
    Card.IsNumbered row ∧ 4 < (Card.changes catalog labels row).length

/-- A reading fails only for its header. -/
theorem ofRows_eq_error_iff {sheet : List (List Text)} {e : HeaderError} :
    ofRows catalog specials sheet = .error e ↔
      Header.ofLabels catalog (sheet.headD []) = .error e := by
  cases sheet with
  | nil => simp [ofRows, Header.ofLabels]
  | cons labels rows =>
    rw [ofRows, List.headD_cons]
    cases Header.ofLabels catalog labels <;> simp

theorem exists_card_iff {row : List Text} :
    (∃ card, Card.ofRow catalog specials header row = .ok card) ↔ Card.IsNumbered row := by
  constructor
  · rintro ⟨card, hcard⟩
    exact (Card.ofRow_eq_ok_iff.mp hcard).1
  · intro hnumbered
    exact ⟨_, Card.ofRow_eq_ok_iff.mpr ⟨hnumbered, rfl⟩⟩

/-- The cards that overflow come out of the rows that state more than four price changes. -/
theorem length_filter_overflow (hheader : Header.ofLabels catalog labels = .ok header)
    (rows : List (List Text)) :
    (((rows.map (Card.ofRow catalog specials header)).filterMap Except.toOption).filter
      (·.overflow.isSome)).length =
      rows.countP fun row ↦ Card.IsNumbered row ∧ 4 < (Card.changes catalog labels row).length := by
  rw [← List.countP_eq_length_filter, List.countP_filterMap, List.countP_map]
  refine List.countP_congr fun row _ ↦ ?_
  have hlength : (Card.effectsOfRow header row).length =
      (Card.changes catalog labels row).length := by
    rw [Card.effectsOfRow_eq hheader, List.length_map]
  rw [Function.comp_apply, Card.toOption_ofRow, decide_eq_true_iff, ← hlength]
  unfold Card.IsNumbered
  cases Decimal.integer? (Text.trim (row.headD [])) with
  | none => simp
  | some value => simp [Card.ofEffects, Record.isSome_overflow?_iff, Record.capacity]

theorem rowwise_of_ofLabels (hheader : Header.ofLabels catalog labels = .ok header)
    (rows : List (List Text)) :
    Rowwise catalog specials labels rows
      ⟨header, (rows.map (Card.ofRow catalog specials header)).filterMap Except.toOption,
        (rows.map (Card.ofRow catalog specials header)).foldl DeckStats.count .zero⟩ := by
  have hcounts := DeckStats.counts_foldl (rows.map (Card.ofRow catalog specials header))
  constructor
  · exact hheader
  · exact List.filterMap_map
  · exact fun row ↦ exists_card_iff
  · exact hcounts.rowsRead.trans (List.length_map _)
  · exact hcounts.rowsRead_eq
  · exact hcounts.cardsEncoded
  · exact hcounts.cardsOverflowed
  · exact hcounts.cardsOverflowed.trans (length_filter_overflow hheader rows)

/-- A reading fails only for its header. Under a header, every sheet has a deck that holds the cards
of its rows in order and counts them, and the decks of two parts of the rows have the cards of the
whole, one part after the other, and counts that add up to those of the whole. -/
theorem ofRows_rowwise (catalog : Catalog) (specials : Specials) :
    (∀ sheet e, ofRows catalog specials sheet = .error e ↔
      Header.ofLabels catalog (sheet.headD []) = .error e) ∧
    ∀ labels header, Header.ofLabels catalog labels = .ok header →
      (∀ rows, ∃ deck, ofRows catalog specials (labels :: rows) = .ok deck ∧
        Rowwise catalog specials labels rows deck) ∧
      ∀ front back, ∃ deck deck₁ deck₂,
        ofRows catalog specials (labels :: (front ++ back)) = .ok deck ∧
        ofRows catalog specials (labels :: front) = .ok deck₁ ∧
        ofRows catalog specials (labels :: back) = .ok deck₂ ∧
        deck.cards = deck₁.cards ++ deck₂.cards ∧ deck.stats = deck₁.stats + deck₂.stats := by
  refine ⟨fun sheet e ↦ ofRows_eq_error_iff, fun labels header hheader ↦ ⟨fun rows ↦ ?_,
    fun front back ↦ ?_⟩⟩
  · exact ⟨_, ofRows_cons specials hheader rows, rowwise_of_ofLabels hheader rows⟩
  · refine ⟨_, _, _, ofRows_cons specials hheader (front ++ back),
      ofRows_cons specials hheader front, ofRows_cons specials hheader back, ?_, ?_⟩
    · simp only [List.map_append, List.filterMap_append]
    · -- Both sides are right counts of all rows, and there is only one right count.
      have hwhole := DeckStats.counts_foldl
        ((front ++ back).map (Card.ofRow catalog specials header))
      have hparts := (DeckStats.counts_foldl (front.map (Card.ofRow catalog specials header))).add
        (DeckStats.counts_foldl (back.map (Card.ofRow catalog specials header)))
      rw [← List.map_append] at hparts
      exact hwhole.unique hparts

/-- A row of five price changes, a row without an identifier and a short row, the last one read
apart. -/
theorem ofRows_rowwise_overflow :
    ∃ header deck deck₁ deck₂,
      Header.ofLabels .standard ["Card".toList, "CE".toList, "GR".toList, "ME".toList, "PI".toList,
        "SH".toList] = .ok header ∧
      ofRows .standard .standard [["Card".toList, "CE".toList, "GR".toList, "ME".toList,
        "PI".toList, "SH".toList], ["1".toList, "1".toList, "2".toList, "3".toList, "4".toList,
        "5".toList], ["Totals".toList, "9".toList], ["+2".toList]] = .ok deck ∧
      ofRows .standard .standard [["Card".toList, "CE".toList, "GR".toList, "ME".toList,
        "PI".toList, "SH".toList], ["1".toList, "1".toList, "2".toList, "3".toList, "4".toList,
        "5".toList], ["Totals".toList, "9".toList]] = .ok deck₁ ∧
      ofRows .standard .standard [["Card".toList, "CE".toList, "GR".toList, "ME".toList,
        "PI".toList, "SH".toList], ["+2".toList]] = .ok deck₂ ∧
      deck.cards = deck₁.cards ++ deck₂.cards ∧ deck.stats = deck₁.stats + deck₂.stats ∧
      deck₁.stats.cardsOverflowed = 1 := by
  have hheader : Header.ofLabels .standard ["Card".toList, "CE".toList, "GR".toList, "ME".toList,
      "PI".toList, "SH".toList] = .ok ⟨[⟨"CE".toList, 1, 1⟩, ⟨"GR".toList, 2, 2⟩,
      ⟨"ME".toList, 3, 3⟩, ⟨"PI".toList, 4, 4⟩, ⟨"SH".toList, 5, 5⟩]⟩ := by
    decide
  obtain ⟨hall, hparts⟩ := (ofRows_rowwise .standard .standard).2 _ _ hheader
  obtain ⟨deck, deck₁, deck₂, hdeck, hdeck₁, hdeck₂, hcards, hstats⟩ :=
    hparts [["1".toList, "1".toList, "2".toList, "3".toList, "4".toList, "5".toList],
      ["Totals".toList, "9".toList]] [["+2".toList]]
  obtain ⟨other, hother, hrows⟩ := hall [["1".toList, "1".toList, "2".toList, "3".toList,
    "4".toList, "5".toList], ["Totals".toList, "9".toList]]
  obtain rfl : deck₁ = other := Except.ok.inj (hdeck₁.symm.trans hother)
  exact ⟨_, deck, deck₁, deck₂, hheader, hdeck, hdeck₁, hdeck₂, hcards, hstats,
    hrows.cardsOverflowed_eq.trans (by decide)⟩

end Deck

end ChanceDeck
