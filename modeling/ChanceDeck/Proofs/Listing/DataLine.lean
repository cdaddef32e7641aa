import ChanceDeck.Listing.DataLine
import ChanceDeck.Proofs.Card
import ChanceDeck.Proofs.Listing.Basic
import ChanceDeck.Proofs.Remark

/-!
# Data lines read back from what was written

`toText` writes the parts of a data line out, and the line of a card is its parts written out.
Reading finds each mark where writing put it, because nothing before a mark can be taken for it:
the number has no space, the values have none either, and the identifier has no colon with a space
after it. What comes after a mark is not looked at, so that remarks may hold anything.

`ofText?_toText` is the round trip for legible parts. It takes any integers as values, and only a
line without values is refused. `lines_text` puts the lines together: the file of a listing has the
lines that were written, if no card breaks its own.
-/

set_option autoImplicit false
set_option relaxedAutoImplicit false

namespace ChanceDeck

namespace Record

theorem mem_spelling {values : List Int64} {c : Char} (h : c ∈ spelling values) :
    c = ',' ∨ Decimal.isNumeric c = true := by
  rcases Text.mem_join h with hcomma | ⟨part, hpart, hc⟩
  · exact Or.inl (List.mem_singleton.mp hcomma)
  · obtain ⟨value, -, rfl⟩ := List.mem_map.mp hpart
    exact Or.inr (Decimal.isNumeric_of_mem_integer hc)

/-- Only commas, digits and signs stand among spelled values. -/
theorem not_mem_spelling {values : List Int64} {c : Char} (hcomma : c ≠ ',')
    (hnumeric : Decimal.isNumeric c = false) : c ∉ spelling values := by
  intro hmem
  rcases mem_spelling hmem with rfl | h
  · exact hcomma rfl
  · rw [hnumeric] at h
    exact Bool.false_ne_true h

theorem values_ne_nil (record : Record) : record.values ≠ [] :=
  List.ne_nil_of_length_pos (by rw [record.length_values]; decide)

end Record

/-- A card whose line in a listing is one line: its identifier holds no line feed, and its remark
closes the line. -/
structure Card.OneLine (card : Card) : Prop where
  id_feedless : '\n' ∉ card.id
  remark_line : Text.Line card.remark

namespace DataLine

/-- Every line number of a listing can be read. -/
theorem maxLineNumber_le : Listing.maxLineNumber ≤ maxLineNumber := by
  decide

/-- The parts of a line written out. -/
def toText (parts : DataLine) : Text :=
  Decimal.natural parts.lineNumber ++ " DATA ".toList ++ Record.spelling parts.values ++
    Listing.separator ++ parts.card ++ ": ".toList ++ parts.remark

/-- The parts of the line of a card. -/
def ofCard (line : Nat) (card : Card) : DataLine :=
  ⟨line, card.record.values, card.id, card.remark⟩

/-- Parts that can be told apart when they are written out: the number is in range, the identifier
holds no end of an identifier and no blanks around it, and the remark closes the line. -/
structure Legible (parts : DataLine) : Prop where
  lineNumber_le : parts.lineNumber ≤ maxLineNumber
  trim_card : Text.trim parts.card = parts.card
  card_unended : ¬[':', ' '] <:+: parts.card
  closed : Text.Closed parts.remark

theorem dataLine_eq_toText (line : Nat) (card : Card) :
    Listing.dataLine line card = toText (ofCard line card) :=
  rfl

/-- The line as its marks part it. -/
theorem toText_eq (parts : DataLine) :
    toText parts = Decimal.natural parts.lineNumber ++ ' ' :: ("DATA ".toList ++
      (Record.spelling parts.values ++ (Listing.separator ++
        (parts.card ++ ([':', ' '] ++ parts.remark))))) := by
  have hdata : " DATA ".toList = ' ' :: "DATA ".toList := rfl
  have hcolon : ": ".toList = [':', ' '] := rfl
  rw [toText, hdata, hcolon]
  simp only [List.append_assoc, List.cons_append]

/-! ### Reading the values -/

theorem integers?_map_integer (values : List Int64) :
    integers? (values.map fun value ↦ Decimal.integer value.toInt) = some values := by
  induction values with
  | nil => rfl
  | cons value rest ih =>
    have htrim : Text.trim (Decimal.integer value.toInt) = Decimal.integer value.toInt :=
      Decimal.trim_eq_self_of_isNumeric fun c hc ↦ Decimal.isNumeric_of_mem_integer hc
    rw [List.map_cons, integers?, htrim, Decimal.integer?_integer]
    simp only [ih, Option.map_some]

/-- Values are read back from their spelling, unless there are none. -/
theorem integers?_splitOn_spelling (values : List Int64) :
    integers? ((Record.spelling values).splitOn ',') = if values = [] then none else some values := by
  cases values with
  | nil => rfl
  | cons value rest =>
    have hsplit : (Record.spelling (value :: rest)).splitOn ',' =
        (value :: rest).map fun v ↦ Decimal.integer v.toInt := by
      refine List.splitOn_intercalate ',' (fun part hpart hcomma ↦ ?_) (List.cons_ne_nil _ _)
      obtain ⟨v, -, rfl⟩ := List.mem_map.mp hpart
      exact absurd (Decimal.isNumeric_of_mem_integer hcomma) (by decide)
    rw [hsplit, integers?_map_integer, if_neg (List.cons_ne_nil _ _)]

/-! ### The round trip -/

theorem numbered_toText (parts : DataLine) (hcard : '\n' ∉ parts.card)
    (hremark : Text.Line parts.remark) : Listing.Numbered parts.lineNumber (toText parts) := by
  refine ⟨⟨_, toText_eq parts⟩, ?_, hremark.closed.append _⟩
  have hline := Listing.feed_not_mem_natural parts.lineNumber
  have hdata : '\n' ∉ " DATA ".toList := by decide
  have hvalues : '\n' ∉ Record.spelling parts.values :=
    Record.not_mem_spelling (by decide) (by decide)
  have hseparator : '\n' ∉ Listing.separator := by decide
  have hcolon : '\n' ∉ ": ".toList := by decide
  simp only [toText, List.mem_append, not_or]
  exact ⟨⟨⟨⟨⟨⟨hline, hdata⟩, hvalues⟩, hseparator⟩, hcard⟩, hcolon⟩, hremark.feedless⟩

theorem trim_toText {parts : DataLine} (h : Text.Closed parts.remark) :
    Text.trim (toText parts) = toText parts := by
  have hclosed : Text.Closed (toText parts) := h.append _
  rw [toText_eq] at hclosed ⊢
  exact Listing.trim_natural_append hclosed

/-- Legible parts are read back as they were written; a line without values is no data line. -/
theorem ofText?_toText {parts : DataLine} (h : Legible parts) :
    ofText? (toText parts) = if parts.values = [] then none else some parts := by
  have hseparator : Listing.separator = ' ' :: " : REM Card ".toList := rfl
  have hcolon : ": ".toList = [':', ' '] := rfl
  have hcard := Text.cut?_append_pair parts.remark (by decide : ':' ≠ ' ') h.card_unended
  have hvalues : ' ' ∉ Record.spelling parts.values :=
    Record.not_mem_spelling (by decide) (by decide)
  rw [ofText?, trim_toText h.closed, toText_eq, Listing.cut?_natural]
  simp only [Option.bind_eq_bind, Option.bind_some, Decimal.natural?_natural h.lineNumber_le,
    Text.strip?_append]
  rw [hseparator, Text.cut?_append _ _ hvalues]
  simp only [Option.bind_some, hcolon, hcard, integers?_splitOn_spelling, h.trim_card]
  split_ifs <;> rfl

/-- The line of a card is read back, whatever its number and its values are, if its identifier has
no blanks around it and holds no end of an identifier, and its remark ends in a character that is no
blank. -/
theorem ofText?_dataLine (line : UInt32) {card : Card} (htrim : Text.trim card.id = card.id)
    (hid : ¬": ".toList <:+: card.id) (hremark : Text.Closed card.remark) :
    ofText? (Listing.dataLine line.toNat card) =
      some ⟨line.toNat, card.record.values, card.id, card.remark⟩ := by
  have hlegible : Legible (ofCard line.toNat card) :=
    ⟨Nat.le_of_lt_succ line.toNat_lt, htrim, hid, hremark⟩
  have hvalues : (ofCard line.toNat card).values ≠ [] := card.record.values_ne_nil
  rw [dataLine_eq_toText, ofText?_toText hlegible, if_neg hvalues]
  rfl

/-- The highest number and the extreme values, with the marks of a line in the remark and the
beginnings of two of them in the identifier. -/
theorem ofText?_dataLine_marks :
    ∃ card : Card, Text.trim card.id = card.id ∧ ¬": ".toList <:+: card.id ∧
      Text.Closed card.remark ∧
      Listing.dataLine 4294967295 card =
        "4294967295 DATA -9223372036854775808,9223372036854775807,0,-1,0,0,0,7".toList ++
          "  : REM Card ,a  ::: 5  : REM Card b: , c: d".toList ∧
      ofText? (Listing.dataLine 4294967295 card) =
        some ⟨4294967295, [-9223372036854775808, 9223372036854775807, 0, -1, 0, 0, 0, 7],
          ",a  ::".toList, "5  : REM Card b: , c: d".toList⟩ := by
  let card : Card := ⟨",a  ::".toList,
    ⟨[-9223372036854775808, 9223372036854775807, 0, -1, 0, 0, 0, 7], rfl⟩,
    "5  : REM Card b: , c: d".toList, none⟩
  have htrim : Text.trim card.id = card.id := rfl
  have hid : ¬": ".toList <:+: card.id := by decide +kernel
  have hremark : Text.Closed card.remark := ⟨'d', by decide, by decide⟩
  exact ⟨card, htrim, hid, hremark, by decide +kernel,
    ofText?_dataLine 4294967295 htrim hid hremark⟩

/-! ### Lines of cards -/

variable {catalog : Catalog} {specials : Specials} {card : Card}

theorem numbered_of_oneLine (hcard : card.OneLine) (line : Nat) (values : List Int64) :
    Listing.Numbered line (toText ⟨line, values, card.id, card.remark⟩) :=
  numbered_toText ⟨line, values, card.id, card.remark⟩ hcard.id_feedless hcard.remark_line

theorem line_remark (hcatalog : catalog.Feedless) (hspecials : specials.Feedless)
    (hcard : card.Faithful catalog specials) : Text.Line card.remark := by
  rw [hcard.remark_eq]
  exact Remark.line_ofRecord hcatalog hspecials card.id card.record

theorem not_mem_id (hcard : card.Faithful catalog specials) {c : Char}
    (hc : Decimal.isNumeric c = false) : c ∉ card.id := by
  intro hmem
  rw [hcard.id_isNumeric c hmem] at hc
  exact Bool.false_ne_true hc.symm

/-- The identifier and the remark of a faithful card are legible beside any values. -/
theorem legible_of_faithful (hcatalog : catalog.Feedless) (hspecials : specials.Feedless)
    (hcard : card.Faithful catalog specials) {line : Nat} (hline : line ≤ maxLineNumber)
    (values : List Int64) : Legible ⟨line, values, card.id, card.remark⟩ where
  lineNumber_le := hline
  trim_card := Decimal.trim_eq_self_of_isNumeric hcard.id_isNumeric
  card_unended := fun hends ↦
    not_mem_id hcard (by decide : Decimal.isNumeric ':' = false) (hends.subset List.mem_cons_self)
  closed := (line_remark hcatalog hspecials hcard).closed

theorem oneLine_of_faithful (hcatalog : catalog.Feedless) (hspecials : specials.Feedless)
    (hcard : card.Faithful catalog specials) : card.OneLine where
  id_feedless := not_mem_id hcard (by decide)
  remark_line := line_remark hcatalog hspecials hcard

theorem numbered_of_faithful (hcatalog : catalog.Feedless) (hspecials : specials.Feedless)
    (hcard : card.Faithful catalog specials) (line : Nat) (values : List Int64) :
    Listing.Numbered line (toText ⟨line, values, card.id, card.remark⟩) :=
  numbered_of_oneLine (oneLine_of_faithful hcatalog hspecials hcard) line values

end DataLine

namespace Listing

variable {cards : List Card}

theorem line_of_mem_dataLines (hcards : ∀ card ∈ cards, card.OneLine) (line step : Nat) :
    ∀ text ∈ dataLines line step cards, Text.Line text := by
  induction cards generalizing line with
  | nil => simp [dataLines]
  | cons card cards ih =>
    intro text htext
    rcases List.mem_cons.mp htext with rfl | htext
    · exact (DataLine.numbered_of_oneLine (hcards card List.mem_cons_self) (line + step)
        card.record.values).line
    · exact ih (fun other hother ↦ hcards other (List.mem_cons_of_mem _ hother)) _ text htext

/-- The lines of the file of a listing are those that were written. -/
theorem lines_text {options : ListingOptions} {listing : Listing} (htitle : '\n' ∉ options.title)
    (hcards : ∀ card ∈ cards, card.OneLine) (hlisting : ofCards options cards = .ok listing) :
    Text.lines listing.text = listing.lines := by
  obtain ⟨-, -, rfl⟩ := ofCards_eq_ok_iff.mp hlisting
  refine Text.lines_unlines fun text htext ↦ ?_
  rcases List.mem_cons.mp htext with rfl | htext
  · exact (heading_numbered _ _ htitle).line
  · exact line_of_mem_dataLines hcards _ _ text htext

end Listing

end ChanceDeck
