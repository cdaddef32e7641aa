import ChanceDeck.Card
import ChanceDeck.Proofs.Record
import ChanceDeck.Proofs.Sheet.Header
import ChanceDeck.Proofs.Text.Decimal

/-!
# Cards and the rows they come from

What a row says about the stocks of a catalog can be read off its labels and cells without a
header: `changes` goes through the instruments in the order of the catalog and takes the cells that
read as an integer other than zero. The effects that a card is made of are these changes
(`effectsOfRow_eq`), and a row has a card exactly when its first cell reads as an integer
(`toOption_ofRow`).

The record of a card is the row cut at four changes and nothing else is lost: it decodes to them,
it is a record of the catalog, and its overflow counts all of them. `Faithful` collects what holds
of every card that comes out of a row (`Encoded.faithful`); a listing needs no more than that.
-/

set_option autoImplicit false
set_option relaxedAutoImplicit false

namespace ChanceDeck

/-- The price change that a cell gives is the integer other than zero that it spells. -/
theorem Cell.delta?_ofText? (cell : Option Text) :
    (Cell.ofText? cell).delta? =
      (Decimal.integer? (Text.trim (cell.getD []))).filter (· ≠ 0) := by
  cases cell with
  | none => rfl
  | some raw =>
    rw [Option.getD_some, Cell.ofText?]
    by_cases hblank : Text.trim raw = []
    · simp [hblank, Cell.delta?]
    · cases hread : Decimal.integer? (Text.trim raw) with
      | none => simp [hblank, Cell.delta?]
      | some value =>
        by_cases hzero : value = 0 <;> simp [hblank, hzero, Cell.delta?, Option.filter]

namespace Card

/-- The price changes that a row states, in the order of the catalog. -/
def changes (catalog : Catalog) (labels row : List Text) : List (Instrument × Int64) :=
  catalog.instruments.filterMap fun i ↦
    ((Decimal.integer? (Header.cellUnder labels row i.ticker)).filter (· ≠ 0)).map (i, ·)

/-- The price changes that a row states, by ticker. -/
def stated (catalog : Catalog) (labels row : List Text) : List (Text × Int64) :=
  (changes catalog labels row).map fun change ↦ (change.1.ticker, change.2)

variable {catalog : Catalog} {specials : Specials} {labels row : List Text} {header : Header}
  {card : Card}

theorem mem_changes {change : Instrument × Int64} (h : change ∈ changes catalog labels row) :
    change.1 ∈ catalog.instruments ∧ change.2 ≠ 0 := by
  obtain ⟨i, hi, hchange⟩ := List.mem_filterMap.mp h
  obtain ⟨delta, hdelta, rfl⟩ := Option.map_eq_some_iff.mp hchange
  have hne := (Option.filter_eq_some_iff.mp hdelta).2
  exact ⟨hi, by simpa using hne⟩

/-- The effects of a row are the price changes that it states. -/
theorem effectsOfRow_eq (hheader : Header.ofLabels catalog labels = .ok header) :
    effectsOfRow header row =
      (changes catalog labels row).map fun change ↦ ⟨change.1.index, change.2⟩ := by
  rw [effectsOfRow, changes, Header.columns_of_ofLabels hheader, List.filterMap_filterMap,
    List.map_filterMap]
  refine List.filterMap_congr fun i _ ↦ ?_
  cases hcolumn : Header.columnOf? labels i.ticker with
  | none => simp [Header.cellUnder_of_none hcolumn]
  | some column =>
    simp only [Option.map_some, Option.bind_some, Cell.delta?_ofText?,
      Header.cellUnder_of_some hcolumn, Option.map_map]
    rfl

theorem effectsOfRow_lawful (hheader : Header.ofLabels catalog labels = .ok header) :
    ∀ effect ∈ effectsOfRow header row, effect.Lawful catalog := by
  rw [effectsOfRow_eq hheader]
  intro effect heffect
  obtain ⟨change, hchange, rfl⟩ := List.mem_map.mp heffect
  obtain ⟨hknown, hdelta⟩ := mem_changes hchange
  exact ⟨List.mem_map_of_mem hknown, hdelta⟩

/-- A row has a card exactly when its first cell reads as an integer. -/
theorem toOption_ofRow (catalog : Catalog) (specials : Specials) (header : Header)
    (row : List Text) :
    (ofRow catalog specials header row).toOption =
      (Decimal.integer? (Text.trim (row.headD []))).map fun _ ↦
        ofEffects catalog specials (Text.trim (row.headD [])) (effectsOfRow header row) := by
  cases row with
  | nil => rfl
  | cons first rest =>
    rw [List.headD_cons, ofRow]
    by_cases hblank : Text.trim first = []
    · simp [hblank, Except.toOption]
    · cases hread : Decimal.integer? (Text.trim first) <;> simp [hblank, Except.toOption]

theorem ofRow_eq_ok_iff :
    ofRow catalog specials header row = .ok card ↔
      (Decimal.integer? (Text.trim (row.headD []))).isSome = true ∧
        card = ofEffects catalog specials (Text.trim (row.headD [])) (effectsOfRow header row) := by
  have hoption : ofRow catalog specials header row = .ok card ↔
      (ofRow catalog specials header row).toOption = some card := by
    cases ofRow catalog specials header row <;> simp [Except.toOption]
  rw [hoption, toOption_ofRow, Option.map_eq_some_iff, Option.isSome_iff_exists]
  constructor
  · rintro ⟨value, hvalue, rfl⟩
    exact ⟨⟨value, hvalue⟩, rfl⟩
  · rintro ⟨⟨value, hvalue⟩, rfl⟩
    exact ⟨value, hvalue, rfl⟩

/-! ### What a card keeps of its row -/

theorem decode_ofEffects (hheader : Header.ofLabels catalog labels = .ok header) :
    Record.decode catalog (Record.ofEffects (effectsOfRow header row)) =
      .ok ((stated catalog labels row).take Record.capacity) := by
  have hlawful : ∀ effect ∈ (effectsOfRow header row).take Record.capacity,
      effect.Lawful catalog :=
    fun effect heffect ↦ effectsOfRow_lawful hheader effect (List.mem_of_mem_take heffect)
  have hlength := List.length_take_le Record.capacity (effectsOfRow header row)
  rw [Record.decode, ← Record.ofEffects_take,
    Record.effects_ofEffects_of_lawful hlength hlawful, effectsOfRow_eq hheader, ← List.map_take,
    Record.nameEffects_map, stated, List.map_take]
  exact fun change hchange ↦ (mem_changes (List.mem_of_mem_take hchange)).1

/-- The record of a card decodes to the first four price changes that its row states, keeps the
record rules and is zero after them; the overflow counts all changes if there are more. -/
theorem decode_record_of_ofRow (hheader : Header.ofLabels catalog labels = .ok header)
    (hcard : ofRow catalog specials header row = .ok card) :
    Record.decode catalog card.record = .ok ((stated catalog labels row).take 4) ∧
      Record.ofValues catalog card.record.values = .ok card.record ∧
      (∀ (position : Nat) (value : Int64),
        2 * min 4 (stated catalog labels row).length ≤ position →
          card.record.values[position]? = some value → value = 0) ∧
      card.overflow =
        if 4 < (stated catalog labels row).length then
          some ⟨(stated catalog labels row).length⟩
        else none := by
  obtain ⟨-, rfl⟩ := ofRow_eq_ok_iff.mp hcard
  have hlength : (effectsOfRow header row).length = (stated catalog labels row).length := by
    rw [effectsOfRow_eq hheader, stated, List.length_map, List.length_map]
  refine ⟨decode_ofEffects hheader, ?_, ?_, ?_⟩
  · exact Record.ofValues_ofEffects fun effect heffect ↦
      effectsOfRow_lawful hheader effect (List.mem_of_mem_take heffect)
  · intro position value hposition hvalue
    rw [← hlength] at hposition
    exact Record.getElem?_ofEffects hposition hvalue
  · rw [← hlength]
    rfl

/-- A row of five price changes, one of them in the column of the identifier, with blanks around a
cell and a cell that is no integer: four of the changes are kept and all five counted. -/
theorem decode_record_of_ofRow_five :
    ∃ header card,
      Header.ofLabels .standard ["VA".toList, "No".toList, " CE ".toList, "GR".toList, "ME".toList,
        "PI".toList, "SH".toList] = .ok header ∧
      ofRow .standard .standard header ["07".toList, "x".toList, " +10".toList, "-3".toList,
        "2.5".toList, "2".toList, "9".toList] = .ok card ∧
      Record.decode .standard card.record = .ok [("CE".toList, 10), ("GR".toList, -3),
        ("PI".toList, 2), ("SH".toList, 9)] ∧
      card.overflow = some ⟨5⟩ := by
  have hheader : Header.ofLabels .standard ["VA".toList, "No".toList, " CE ".toList, "GR".toList,
      "ME".toList, "PI".toList, "SH".toList] = .ok ⟨[⟨"CE".toList, 1, 2⟩, ⟨"GR".toList, 2, 3⟩,
      ⟨"ME".toList, 3, 4⟩, ⟨"PI".toList, 4, 5⟩, ⟨"SH".toList, 5, 6⟩, ⟨"VA".toList, 10, 0⟩]⟩ := by
    decide
  have hcard : ofRow .standard .standard ⟨[⟨"CE".toList, 1, 2⟩, ⟨"GR".toList, 2, 3⟩,
      ⟨"ME".toList, 3, 4⟩, ⟨"PI".toList, 4, 5⟩, ⟨"SH".toList, 5, 6⟩, ⟨"VA".toList, 10, 0⟩]⟩
      ["07".toList, "x".toList, " +10".toList, "-3".toList, "2.5".toList, "2".toList, "9".toList] =
      .ok ⟨"07".toList, ⟨[1, 10, 2, -3, 4, 2, 5, 9], rfl⟩,
        "CE +10, GR -3, PI +2, SH +9".toList, some ⟨5⟩⟩ := by
    decide
  obtain ⟨hdecode, -, -, hoverflow⟩ := decode_record_of_ofRow hheader hcard
  exact ⟨_, _, hheader, hcard, hdecode.trans (by decide), hoverflow.trans (by decide)⟩

/-! ### Cards that come out of rows -/

/-- A card that some row gives under some header of the catalog. -/
def Encoded (catalog : Catalog) (specials : Specials) (card : Card) : Prop :=
  ∃ labels header row, Header.ofLabels catalog labels = .ok header ∧
    ofRow catalog specials header row = .ok card

/-- What a listing needs to know of a card: its identifier is spelled with digits and signs, its
record keeps the rules of the catalog, and its remark is the one that its record gives. -/
structure Faithful (catalog : Catalog) (specials : Specials) (card : Card) : Prop where
  id_isNumeric : ∀ c ∈ card.id, Decimal.isNumeric c = true
  record_ok : Record.ofValues catalog card.record.values = .ok card.record
  remark_eq : card.remark = Remark.ofRecord catalog specials card.id card.record

theorem Encoded.faithful (h : Encoded catalog specials card) : Faithful catalog specials card := by
  obtain ⟨labels, header, row, hheader, hcard⟩ := h
  obtain ⟨hid, rfl⟩ := ofRow_eq_ok_iff.mp hcard
  obtain ⟨value, hvalue⟩ := Option.isSome_iff_exists.mp hid
  constructor
  · exact Decimal.isNumeric_of_integer? hvalue
  · exact Record.ofValues_ofEffects fun effect heffect ↦
      effectsOfRow_lawful hheader effect (List.mem_of_mem_take heffect)
  · rfl

end Card

end ChanceDeck
