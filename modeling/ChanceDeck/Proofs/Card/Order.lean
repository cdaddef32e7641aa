import ChanceDeck.Proofs.Card

/-!
# The order of the effects of a card

The effects of a card stand in the order of the catalog, and no instrument has two of them
(`Encoded.sublist`). The check of a record does not ask for that: it takes pairs one by one. So the
values of cards are the values that pass the check and keep the order of the catalog
(`encoded_values_iff`).

For the way back a row is written that states given effects. Its sheet has a blank label over the
identifiers and then the tickers of the catalog in order (`plainLabels`), and the row has the price
change of each effect under its ticker (`plainRow`).
-/

set_option autoImplicit false
set_option relaxedAutoImplicit false

namespace ChanceDeck

/-- Where no key is asked for twice, looking up keys among which those of some members stand in
order finds these members. -/
theorem filterMap_find?_of_sublist {α κ : Type} [DecidableEq κ] (key : α → κ) {keys : List κ}
    {members : List α} (hnodup : keys.Nodup) (h : (members.map key).Sublist keys) :
    keys.filterMap (fun k ↦ members.find? fun m ↦ key m = k) = members := by
  induction keys generalizing members with
  | nil =>
    have hmembers : members = [] := List.map_eq_nil_iff.mp (List.sublist_nil.mp h)
    rw [hmembers, List.filterMap_nil]
  | cons k keys ih =>
    obtain ⟨hk, hkeys⟩ := List.nodup_cons.mp hnodup
    cases members with
    | nil => simp
    | cons m members =>
      rw [List.map_cons] at h
      by_cases hm : key m = k
      · subst hm
        have hrest : keys.filterMap (fun k ↦ (m :: members).find? fun n ↦ key n = k) =
            keys.filterMap (fun k ↦ members.find? fun n ↦ key n = k) := by
          refine List.filterMap_congr fun other hother ↦ ?_
          have hne : key m ≠ other := fun heq ↦ hk (heq ▸ hother)
          simp [hne]
        rw [List.filterMap_cons, List.find?_cons_of_pos (by simp), hrest,
          ih hkeys (List.cons_sublist_cons.mp h)]
      · -- The first key belongs to no member.
        have hlater : (key m :: members.map key).Sublist keys :=
          (List.sublist_cons_iff.mp h).resolve_right (by
            rintro ⟨rest, heq, -⟩
            exact hm (List.cons.inj heq).1)
        have hnone : (m :: members).find? (fun n ↦ key n = k) = none := by
          rw [List.find?_eq_none]
          intro n hn hkey
          have hmem : key n ∈ (m :: members).map key := List.mem_map_of_mem hn
          rw [List.map_cons, of_decide_eq_true hkey] at hmem
          exact hk (hlater.subset hmem)
        rw [List.filterMap_cons, hnone]
        exact ih hkeys hlater

namespace Card

variable {catalog : Catalog} {specials : Specials} {labels row : List Text} {header : Header}
  {card : Card}

/-! ### Cards keep the order -/

theorem changes_sublist (catalog : Catalog) (labels row : List Text) :
    ((changes catalog labels row).map Prod.fst).Sublist catalog.instruments := by
  unfold changes
  induction catalog.instruments with
  | nil => exact List.Sublist.slnil
  | cons i rest ih =>
    rw [List.filterMap_cons]
    cases (Decimal.integer? (Header.cellUnder labels row i.ticker)).filter (· ≠ 0) with
    | none => exact ih.cons i
    | some delta => exact ih.cons_cons i

theorem effectsOfRow_sublist (hheader : Header.ofLabels catalog labels = .ok header) :
    ((effectsOfRow header row).map Effect.index).Sublist
      (catalog.instruments.map Instrument.index) := by
  rw [effectsOfRow_eq hheader, List.map_map]
  have hsublist := (changes_sublist catalog labels row).map Instrument.index
  rw [List.map_map] at hsublist
  exact hsublist

/-- The record of a card lists its instruments in the order of the catalog. -/
theorem Encoded.sublist (h : card.Encoded catalog specials) :
    (card.record.effects.map Effect.index).Sublist
      (catalog.instruments.map Instrument.index) := by
  obtain ⟨labels, header, row, hheader, hcard⟩ := h
  obtain ⟨-, rfl⟩ := ofRow_eq_ok_iff.mp hcard
  have htaken : ((Record.ofEffects (effectsOfRow header row)).effects).Sublist
      (effectsOfRow header row) := by
    rw [Record.effects_ofEffects]
    exact (List.takeWhile_sublist _).trans (List.take_sublist _ _)
  exact (htaken.map Effect.index).trans (effectsOfRow_sublist hheader)

/-! ### A row for given effects -/

/-- A blank label and then the tickers of the catalog. -/
def plainLabels (catalog : Catalog) : List Text :=
  [] :: catalog.instruments.map Instrument.ticker

/-- The price change of an instrument among effects, or nothing. -/
def plainCell (effects : List Effect) (i : Instrument) : Text :=
  match effects.find? (·.index = i.index) with
  | none => []
  | some effect => Decimal.integer effect.delta.toInt

/-- A row that states effects under these labels. -/
def plainRow (catalog : Catalog) (effects : List Effect) : List Text :=
  "1".toList :: catalog.instruments.map (plainCell effects)

theorem map_trim_plainLabels (catalog : Catalog) :
    (plainLabels catalog).map Text.trim = plainLabels catalog := by
  unfold plainLabels
  rw [List.map_cons, List.map_map]
  exact congrArg ([] :: ·) (List.map_congr_left fun i hi ↦ catalog.admissible.trimmed i hi)

theorem exists_ofLabels_plainLabels (catalog : Catalog) :
    ∃ header, Header.ofLabels catalog (plainLabels catalog) = .ok header := by
  apply Header.exists_ofLabels
  · intro i hi
    have hnamed : [] ≠ i.ticker := (catalog.admissible.named i hi).symm
    rw [map_trim_plainLabels, plainLabels, List.count_cons_of_ne hnamed]
    exact List.nodup_iff_count_le_one.mp catalog.admissible.tickers_nodup _
  · obtain ⟨i, hi⟩ := List.exists_mem_of_ne_nil _ catalog.instruments_ne_nil
    refine ⟨i, hi, ?_⟩
    rw [map_trim_plainLabels, plainLabels]
    exact List.mem_cons_of_mem _ (List.mem_map_of_mem hi)

theorem columnOf?_plainLabels {i : Instrument} (hi : i ∈ catalog.instruments) :
    ∃ column, Header.columnOf? (plainLabels catalog) i.ticker = some (column + 1) ∧
      catalog.instruments[column]? = some i := by
  have hblank : Text.trim [] ≠ i.ticker := (catalog.admissible.named i hi).symm
  have hoccurs : i.ticker ∈ (plainLabels catalog).map Text.trim := by
    rw [map_trim_plainLabels]
    exact List.mem_cons_of_mem _ (List.mem_map_of_mem hi)
  rw [← Header.columnOf?_isSome_iff, plainLabels, Header.columnOf?_cons, if_neg hblank,
    Option.isSome_map] at hoccurs
  obtain ⟨column, hcolumn⟩ := Option.isSome_iff_exists.mp hoccurs
  refine ⟨column, by rw [plainLabels, Header.columnOf?_cons, if_neg hblank, hcolumn]; rfl, ?_⟩
  obtain ⟨hlength, hticker, -⟩ := List.findIdx?_eq_some_iff_getElem.mp hcolumn
  rw [List.length_map] at hlength
  have hmem := List.getElem_mem hlength
  have hsame : catalog.instruments[column].ticker = i.ticker := by
    rw [← catalog.admissible.trimmed _ hmem]
    simpa using hticker
  rw [List.getElem?_eq_getElem hlength,
    List.inj_on_of_nodup_map catalog.admissible.tickers_nodup hmem hi hsame]

theorem cellUnder_plainRow (effects : List Effect) {i : Instrument}
    (hi : i ∈ catalog.instruments) :
    Header.cellUnder (plainLabels catalog) (plainRow catalog effects) i.ticker =
      Text.trim (plainCell effects i) := by
  obtain ⟨column, hcolumn, hget⟩ := columnOf?_plainLabels hi
  rw [Header.cellUnder_of_some hcolumn, plainRow, List.getElem?_cons_succ, List.getElem?_map, hget]
  rfl

/-- The cell of an instrument reads as the price change of its effect. -/
theorem integer?_plainCell {effects : List Effect} (hdelta : ∀ effect ∈ effects, effect.delta ≠ 0)
    (i : Instrument) :
    ((Decimal.integer? (Text.trim (plainCell effects i))).filter (· ≠ 0)).map (⟨i.index, ·⟩) =
      effects.find? fun effect ↦ effect.index = i.index := by
  unfold plainCell
  cases hfind : effects.find? fun effect ↦ effect.index = i.index with
  | none => rfl
  | some effect =>
    have hindex : effect.index = i.index := by simpa using List.find?_some hfind
    have hne : effect.delta ≠ 0 := hdelta effect (List.mem_of_find?_eq_some hfind)
    have htrim : Text.trim (Decimal.integer effect.delta.toInt) =
        Decimal.integer effect.delta.toInt :=
      Decimal.trim_eq_self_of_isNumeric fun c hc ↦ Decimal.isNumeric_of_mem_integer hc
    simp only [htrim, Decimal.integer?_integer, Option.filter_some, hne, ne_eq, not_false_eq_true,
      decide_true, if_true, Option.map_some, ← hindex]

theorem effectsOfRow_plainRow {effects : List Effect}
    (hheader : Header.ofLabels catalog (plainLabels catalog) = .ok header)
    (hlawful : ∀ effect ∈ effects, effect.Lawful catalog)
    (horder : (effects.map Effect.index).Sublist (catalog.instruments.map Instrument.index)) :
    effectsOfRow header (plainRow catalog effects) = effects := by
  have hdelta : ∀ effect ∈ effects, effect.delta ≠ 0 :=
    fun effect heffect ↦ (hlawful effect heffect).delta_ne_zero
  calc
    effectsOfRow header (plainRow catalog effects)
      = catalog.instruments.filterMap fun i ↦
          effects.find? fun effect ↦ effect.index = i.index := by
        rw [effectsOfRow_eq hheader, changes, List.map_filterMap]
        refine List.filterMap_congr fun i hi ↦ ?_
        rw [cellUnder_plainRow effects hi, Option.map_map, ← integer?_plainCell hdelta]
        rfl
    _ = (catalog.instruments.map Instrument.index).filterMap fun index ↦
          effects.find? fun effect ↦ effect.index = index := by
        rw [List.filterMap_map]
        rfl
    _ = effects :=
        filterMap_find?_of_sublist Effect.index catalog.admissible.indices_nodup horder

/-! ### The values of cards -/

/-- The values that cards have are those that pass the check and list their instruments in the order
of the catalog. -/
theorem encoded_values_iff (catalog : Catalog) (specials : Specials) (values : List Int64) :
    (∃ card, Encoded catalog specials card ∧ card.record.values = values) ↔
      ∃ record, Record.ofValues catalog values = .ok record ∧
        (record.effects.map Effect.index).Sublist
          (catalog.instruments.map Instrument.index) := by
  constructor
  · rintro ⟨card, hcard, rfl⟩
    exact ⟨card.record, hcard.faithful.record_ok, hcard.sublist⟩
  · rintro ⟨record, hrecord, horder⟩
    obtain ⟨effects, hlength, hlawful, rfl⟩ := Record.exists_lawful_of_ofValues hrecord
    obtain ⟨header, hheader⟩ := exists_ofLabels_plainLabels catalog
    rw [Record.effects_ofEffects_of_lawful hlength hlawful] at horder
    have heffects := effectsOfRow_plainRow hheader hlawful horder
    refine ⟨ofEffects catalog specials "1".toList effects,
      ⟨plainLabels catalog, header, plainRow catalog effects, hheader, ?_⟩, ?_⟩
    · have hread : (Decimal.integer? (Text.trim "1".toList)).isSome = true := by decide
      exact ofRow_eq_ok_iff.mpr ⟨hread, by rw [heffects]; rfl⟩
    · exact Record.values_of_ofValues hrecord

/-- Values that pass the check but name a later instrument first are those of no card. -/
theorem encoded_values_swapped :
    (∃ record, Record.ofValues .standard [2, 1, 1, 1, 0, 0, 0, 0] = .ok record) ∧
      ¬∃ specials card, Encoded .standard specials card ∧
        card.record.values = [2, 1, 1, 1, 0, 0, 0, 0] := by
  refine ⟨⟨⟨[2, 1, 1, 1, 0, 0, 0, 0], rfl⟩, by decide⟩, ?_⟩
  rintro ⟨specials, card, hcard, hvalues⟩
  have hrecord : card.record = ⟨[2, 1, 1, 1, 0, 0, 0, 0], rfl⟩ := Record.eq_of_values_eq hvalues
  have horder := hcard.sublist
  rw [hrecord] at horder
  exact absurd horder (by decide)

end Card

end ChanceDeck
