import ChanceDeck.Deck
import ChanceDeck.Proofs.Card

/-!
# Decks and the layout of their sheets

A deck depends on what its sheet says, not on how the sheet is laid out. Two sheets have the same
content if the same tickers stand among their labels, none of them twice, and if each two rows at
the same place agree on the first cell and under every ticker, blanks aside. Order and number of
columns, other labels, the width of rows and blanks around cells may differ. Both sheets then have
decks, with equal cards and equal counts (`ofRows_of_sameContent`).

The two readings are compared row by row. Rows that agree state the same price changes, so they
give the same card or are both passed over (`toOption_ofRow_congr`), and the counts look at a row
only to see which of the two it is (`count_congr`).
-/

set_option autoImplicit false
set_option relaxedAutoImplicit false

namespace ChanceDeck

/-- Two rows under their labels agree on the first cell and under every ticker, blanks aside. -/
def Card.SameRow (catalog : Catalog) (labels₁ labels₂ row₁ row₂ : List Text) : Prop :=
  Text.trim (row₁.headD []) = Text.trim (row₂.headD []) ∧
    ∀ i ∈ catalog.instruments, i.ticker ∈ labels₁.map Text.trim →
      Header.cellUnder labels₁ row₁ i.ticker = Header.cellUnder labels₂ row₂ i.ticker

instance (catalog : Catalog) (labels₁ labels₂ row₁ row₂ : List Text) :
    Decidable (Card.SameRow catalog labels₁ labels₂ row₁ row₂) :=
  inferInstanceAs (Decidable (_ ∧ ∀ i ∈ catalog.instruments, _))

/-- Two sheets say the same about the stocks of a catalog, however they are laid out. -/
structure Deck.SameContent (catalog : Catalog) (labels₁ labels₂ : List Text)
    (rows₁ rows₂ : List (List Text)) : Prop where
  unambiguous₁ : Header.Unambiguous catalog labels₁
  unambiguous₂ : Header.Unambiguous catalog labels₂
  occurs : Header.Occurs catalog labels₁
  same_tickers : ∀ i ∈ catalog.instruments,
    i.ticker ∈ labels₁.map Text.trim ↔ i.ticker ∈ labels₂.map Text.trim
  same_rows : List.Forall₂ (Card.SameRow catalog labels₁ labels₂) rows₁ rows₂

variable {catalog : Catalog} {specials : Specials} {labels₁ labels₂ : List Text}

namespace Card

/-- Rows that agree under the tickers that occur state the same price changes. -/
theorem changes_congr {row₁ row₂ : List Text}
    (htickers : ∀ i ∈ catalog.instruments,
      i.ticker ∈ labels₁.map Text.trim ↔ i.ticker ∈ labels₂.map Text.trim)
    (hcells : ∀ i ∈ catalog.instruments, i.ticker ∈ labels₁.map Text.trim →
      Header.cellUnder labels₁ row₁ i.ticker = Header.cellUnder labels₂ row₂ i.ticker) :
    changes catalog labels₁ row₁ = changes catalog labels₂ row₂ := by
  refine List.filterMap_congr fun i hi ↦ ?_
  by_cases hoccurs : i.ticker ∈ labels₁.map Text.trim
  · rw [hcells i hi hoccurs]
  · -- Neither sheet has the ticker, so that nothing is read under it.
    have hoccurs₂ : i.ticker ∉ labels₂.map Text.trim := fun h ↦ hoccurs ((htickers i hi).mpr h)
    rw [← Header.columnOf?_isSome_iff, Option.not_isSome_iff_eq_none] at hoccurs hoccurs₂
    rw [Header.cellUnder_of_none hoccurs, Header.cellUnder_of_none hoccurs₂]

/-- Rows that agree give the same card or are both passed over. -/
theorem toOption_ofRow_congr {header₁ header₂ : Header} {row₁ row₂ : List Text}
    (hheader₁ : Header.ofLabels catalog labels₁ = .ok header₁)
    (hheader₂ : Header.ofLabels catalog labels₂ = .ok header₂)
    (htickers : ∀ i ∈ catalog.instruments,
      i.ticker ∈ labels₁.map Text.trim ↔ i.ticker ∈ labels₂.map Text.trim)
    (hrow : SameRow catalog labels₁ labels₂ row₁ row₂) :
    (ofRow catalog specials header₁ row₁).toOption =
      (ofRow catalog specials header₂ row₂).toOption := by
  have heffects : effectsOfRow header₁ row₁ = effectsOfRow header₂ row₂ := by
    rw [effectsOfRow_eq hheader₁, effectsOfRow_eq hheader₂, changes_congr htickers hrow.2]
  rw [toOption_ofRow, toOption_ofRow, hrow.1, heffects]

end Card

/-- The counts see of a row only whether it is a card, and which. -/
theorem DeckStats.count_congr {outcome₁ outcome₂ : Except SkipReason Card}
    (h : outcome₁.toOption = outcome₂.toOption) (stats : DeckStats) :
    stats.count outcome₁ = stats.count outcome₂ := by
  cases outcome₁ with
  | error reason₁ =>
    cases outcome₂ with
    | error reason₂ => rfl
    | ok card₂ => simp [Except.toOption] at h
  | ok card₁ =>
    cases outcome₂ with
    | error reason₂ => simp [Except.toOption] at h
    | ok card₂ =>
      have hcard : card₁ = card₂ := by simpa [Except.toOption] using h
      rw [hcard]

namespace Deck

/-- Under a header, a sheet has a deck whatever its rows hold. -/
theorem ofRows_cons {labels : List Text} {header : Header} (specials : Specials)
    (hheader : Header.ofLabels catalog labels = .ok header) (rows : List (List Text)) :
    ofRows catalog specials (labels :: rows) =
      .ok ⟨header, (rows.map (Card.ofRow catalog specials header)).filterMap Except.toOption,
        (rows.map (Card.ofRow catalog specials header)).foldl DeckStats.count .zero⟩ := by
  rw [ofRows, hheader]

/-- The cards of a deck come out of rows under its header. -/
theorem encoded_of_mem {rows : List (List Text)} {deck : Deck}
    (hdeck : ofRows catalog specials rows = .ok deck) {card : Card} (hcard : card ∈ deck.cards) :
    card.Encoded catalog specials := by
  cases rows with
  | nil => simp [ofRows] at hdeck
  | cons labels rows =>
    cases hheader : Header.ofLabels catalog labels with
    | error e => simp [ofRows, hheader] at hdeck
    | ok header =>
      rw [ofRows_cons specials hheader, Except.ok.injEq] at hdeck
      rw [← hdeck] at hcard
      obtain ⟨outcome, houtcome, hsome⟩ := List.mem_filterMap.mp hcard
      obtain ⟨row, -, rfl⟩ := List.mem_map.mp houtcome
      refine ⟨labels, header, row, hheader, ?_⟩
      cases hrow : Card.ofRow catalog specials header row with
      | error reason => simp [hrow, Except.toOption] at hsome
      | ok other => simpa [hrow, Except.toOption] using hsome

/-- Rows whose outcomes agree have the same cards. -/
theorem filterMap_toOption_congr {outcomes₁ outcomes₂ : List (Except SkipReason Card)}
    (h : List.Forall₂ (fun outcome₁ outcome₂ ↦ outcome₁.toOption = outcome₂.toOption)
      outcomes₁ outcomes₂) :
    outcomes₁.filterMap Except.toOption = outcomes₂.filterMap Except.toOption := by
  induction h with
  | nil => rfl
  | cons hhead _ ih => rw [List.filterMap_cons, List.filterMap_cons, hhead, ih]

/-- Rows whose outcomes agree are counted alike. -/
theorem foldl_count_congr {outcomes₁ outcomes₂ : List (Except SkipReason Card)}
    (h : List.Forall₂ (fun outcome₁ outcome₂ ↦ outcome₁.toOption = outcome₂.toOption)
      outcomes₁ outcomes₂) (stats : DeckStats) :
    outcomes₁.foldl DeckStats.count stats = outcomes₂.foldl DeckStats.count stats := by
  induction h generalizing stats with
  | nil => rfl
  | cons hhead _ ih =>
    rw [List.foldl_cons, List.foldl_cons, DeckStats.count_congr hhead]
    exact ih _

/-- Sheets with the same content have decks with equal cards and equal counts. -/
theorem ofRows_of_sameContent {rows₁ rows₂ : List (List Text)} (specials : Specials)
    (h : SameContent catalog labels₁ labels₂ rows₁ rows₂) :
    ∃ deck₁ deck₂, ofRows catalog specials (labels₁ :: rows₁) = .ok deck₁ ∧
      ofRows catalog specials (labels₂ :: rows₂) = .ok deck₂ ∧
      deck₁.cards = deck₂.cards ∧ deck₁.stats = deck₂.stats := by
  have hoccurs₂ : Header.Occurs catalog labels₂ := by
    obtain ⟨i, hi, hmem⟩ := h.occurs
    exact ⟨i, hi, (h.same_tickers i hi).mp hmem⟩
  obtain ⟨header₁, hheader₁⟩ := Header.exists_ofLabels h.unambiguous₁ h.occurs
  obtain ⟨header₂, hheader₂⟩ := Header.exists_ofLabels h.unambiguous₂ hoccurs₂
  have houtcomes : List.Forall₂ (fun outcome₁ outcome₂ ↦ outcome₁.toOption = outcome₂.toOption)
      (rows₁.map (Card.ofRow catalog specials header₁))
      (rows₂.map (Card.ofRow catalog specials header₂)) := by
    rw [List.forall₂_map_left_iff, List.forall₂_map_right_iff]
    exact h.same_rows.imp fun row₁ row₂ hrow ↦
      Card.toOption_ofRow_congr hheader₁ hheader₂ h.same_tickers hrow
  exact ⟨_, _, ofRows_cons specials hheader₁ rows₁, ofRows_cons specials hheader₂ rows₂,
    filterMap_toOption_congr houtcomes, foldl_count_congr houtcomes .zero⟩

/-- Shuffled columns with another label between them, blanks around labels and cells, and a row
that ends early in one of the sheets. -/
theorem ofRows_of_sameContent_shuffled :
    ∃ deck₁ deck₂,
      ofRows .standard .standard [["No".toList, "CE".toList, "GR".toList],
        ["1".toList, "5".toList, "-2".toList], ["36".toList, "".toList, " ".toList]] = .ok deck₁ ∧
      ofRows .standard .standard [[" ".toList, "GR ".toList, "note".toList, " CE".toList],
        [" 1".toList, "-2 ".toList, "boom".toList, " 5".toList], ["36".toList]] = .ok deck₂ ∧
      deck₁.cards = deck₂.cards ∧ deck₁.stats = deck₂.stats := by
  refine ofRows_of_sameContent .standard ⟨?_, ?_, ?_, ?_, ?_⟩
  · decide
  · decide
  · decide
  · decide
  · exact .cons (by decide) (.cons (by decide) .nil)

end Deck

end ChanceDeck
