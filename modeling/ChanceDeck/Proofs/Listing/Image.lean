import ChanceDeck.Proofs.Basic.Crunch
import ChanceDeck.Proofs.Basic.Image
import ChanceDeck.Proofs.Listing.DataLine

/-!
# Images of listings

A listing is read by the tokenizer as it was written: every line number of a listing fits in sixteen
bits, the heading is a `REM` line and the line of a card a `DATA` line, and what follows the keyword
is stored character by character. `storedLines` says what the image of a listing holds, and
`ofText_listing` that it holds that, or else its end address does not fit in sixteen bits.
-/

set_option autoImplicit false
set_option relaxedAutoImplicit false

namespace ChanceDeck

namespace SourceLine

/-! ### Numbered lines read by the tokenizer -/

/-- The code of a numbered line is what follows the space after the number. -/
theorem ofText_of_numbered {number : Nat} {rest : Text}
    (h : Listing.Numbered number (Decimal.natural number ++ ' ' :: rest))
    (hnumber : number ≤ 65535) (hrest : ∀ c ∈ rest.head?, Text.isBlank c = false)
    (textLine : Nat) :
    ofText textLine (Decimal.natural number ++ ' ' :: rest) =
      .ok (some ⟨UInt16.ofNat number, rest⟩) := by
  have hcode : Text.trimStart (' ' :: rest) = rest := by
    have hspace : Text.isBlank ' ' = true := by decide
    rw [Text.trimStart, List.dropWhile_cons_of_pos hspace]
    exact Text.trimStart_eq_self hrest
  unfold ofText
  simp only [h.trim_eq_self, Listing.takeWhile_isDigit_natural, Decimal.natural_ne_nil, if_false,
    Decimal.natural?_natural hnumber, Listing.dropWhile_isDigit_natural, hcode]

/-- Lines that are read one by one, wherever they stand, are read together. -/
theorem ofLines_of_forall₂ {lines : List Text} {sources : List SourceLine}
    (h : List.Forall₂ (fun line source ↦ ∀ textLine, ofText textLine line = .ok (some source))
      lines sources) (textLine : Nat) : ofLines textLine lines = .ok sources := by
  induction h generalizing textLine with
  | nil => rfl
  | cons hline _ ih =>
    unfold ofLines
    rw [hline, ih]
    rfl

end SourceLine

namespace Listing

/-- What stands after `REM` and a space in a heading. -/
def headingText (title : Text) (cards : Nat) : Text :=
  "--- ".toList ++ title ++ " (".toList ++ Decimal.natural cards ++ " CARDS) ---".toList

/-- What stands after `DATA` and a space in the line of a card. -/
def dataText (card : Card) : Text :=
  Record.spelling card.record.values ++ separator ++ card.id ++ ": ".toList ++ card.remark

/-- The numbered lines of a listing of cards. -/
def sources (options : ListingOptions) (cards : List Card) : List SourceLine :=
  ⟨UInt16.ofNat options.startLine,
      "REM".toList ++ ' ' :: headingText options.title cards.length⟩ ::
    cards.mapIdx fun k card ↦
      ⟨UInt16.ofNat (options.startLine + (k + 1) * options.lineStep),
        "DATA".toList ++ ' ' :: dataText card⟩

/-- The numbers and the bytes of the lines that the image of a listing of cards holds: one byte for
the keyword and one for each character after it. -/
def storedLines (options : ListingOptions) (cards : List Card) : List (Nat × Bytes) :=
  (options.startLine,
      0x8E :: (' ' :: headingText options.title cards.length).map Lexeme.charByte) ::
    cards.mapIdx fun k card ↦
      (options.startLine + (k + 1) * options.lineStep,
        0x83 :: (' ' :: dataText card).map Lexeme.charByte)

/-- The bytes that these lines take in an image: four before each and a zero after it. -/
def storedSize (options : ListingOptions) (cards : List Card) : Nat :=
  ((storedLines options cards).map fun line ↦ line.2.length + 5).sum

/-! ### The lines of a listing read by the tokenizer -/

theorem heading_eq_rem (line : Nat) (title : Text) (cards : Nat) :
    heading line title cards =
      Decimal.natural line ++ ' ' :: ("REM".toList ++ ' ' :: headingText title cards) := by
  have hrem : " REM --- ".toList = ' ' :: ("REM".toList ++ ' ' :: "--- ".toList) := rfl
  -- The equation of a definition that begins with a literal is slow to make.
  delta headingText
  rw [heading, hrem]
  simp only [List.append_assoc, List.cons_append]

theorem dataLine_eq_data (line : Nat) (card : Card) :
    dataLine line card = Decimal.natural line ++ ' ' :: ("DATA".toList ++ ' ' :: dataText card) := by
  have hdata : " DATA ".toList = ' ' :: ("DATA".toList ++ [' ']) := rfl
  rw [dataLine, dataText, hdata]
  simp only [List.append_assoc, List.cons_append, List.nil_append]

variable {options : ListingOptions} {cards : List Card} {listing : Listing}

/-- The tokenizer reads the lines of a listing back. -/
theorem ofLines_lines (htitle : '\n' ∉ options.title) (hcards : ∀ card ∈ cards, card.OneLine)
    (hlisting : ofCards options cards = .ok listing) (textLine : Nat) :
    SourceLine.ofLines textLine listing.lines = .ok (sources options cards) := by
  have hmax : maxLineNumber ≤ 65535 := by decide
  have hnumber {k : Nat} {card : Card} (hcard : cards[k]? = some card) :=
    (lineNumber_le hlisting hcard).trans hmax
  obtain ⟨⟨hstart, -⟩, -, rfl⟩ := ofCards_eq_ok_iff.mp hlisting
  rw [inRange_iff] at hstart
  refine SourceLine.ofLines_of_forall₂ (.cons (fun line ↦ ?_) ?_) textLine
  · have hheading := heading_numbered options.startLine cards.length htitle
    rw [heading_eq_rem] at hheading ⊢
    exact SourceLine.ofText_of_numbered hheading (hstart.2.trans hmax) (by simp [Text.isBlank]) line
  · rw [dataLines_eq_mapIdx, List.forall₂_iff_get]
    refine ⟨by simp, fun k hk _ line ↦ ?_⟩
    have hindex : k < cards.length := by simpa using hk
    have hdata := DataLine.numbered_of_oneLine (hcards cards[k] (List.getElem_mem hindex))
      (options.startLine + (k + 1) * options.lineStep) cards[k].record.values
    rw [← DataLine.ofCard, ← DataLine.dataLine_eq_toText, dataLine_eq_data] at hdata
    simp only [List.get_eq_getElem, List.getElem_mapIdx, dataLine_eq_data]
    exact SourceLine.ofText_of_numbered hdata (hnumber (List.getElem?_eq_getElem hindex))
      (by simp [Text.isBlank]) line

/-- Crunching the lines of a listing shortens the first word of each to its byte. -/
theorem map_crunchLine_sources (hlisting : ofCards options cards = .ok listing) :
    ((sources options cards).map Image.crunchLine).map (fun line ↦
      (line.number.toNat, line.code)) = storedLines options cards := by
  have hmax : maxLineNumber < 65536 := by decide
  have hnumber {n : Nat} (h : n ≤ maxLineNumber) : (UInt16.ofNat n).toNat = n := by
    rw [UInt16.toNat_ofNat', Nat.mod_eq_of_lt (h.trans_lt hmax)]
  obtain ⟨⟨hstart, -⟩, -, -⟩ := ofCards_eq_ok_iff.mp hlisting
  rw [inRange_iff] at hstart
  unfold sources storedLines
  rw [List.map_cons, List.map_cons]
  refine congrArg₂ List.cons ?_ (List.ext_getElem (by simp) fun k hk _ ↦ ?_)
  · rw [Image.crunchLine, crunch_rem, hnumber hstart.2]
  · have hindex : k < cards.length := by simpa using hk
    simp only [List.getElem_map, List.getElem_mapIdx, Image.crunchLine, crunch_data,
      hnumber (lineNumber_le hlisting (List.getElem?_eq_getElem hindex))]

theorem size_sources (hlisting : ofCards options cards = .ok listing) :
    Image.size ((sources options cards).map Image.crunchLine) = storedSize options cards := by
  unfold storedSize Image.size
  rw [← map_crunchLine_sources hlisting]
  simp only [List.map_map]
  rfl

/-- The image of a listing holds the heading and the cards one after another, each line with its
keyword in one byte and the characters after it as they stand, and a walk of it meets these lines
exactly if they end below 2 ^ 32. There is no image exactly if the end address, in a word of 32 bits,
would pass the end of the address space. -/
theorem ofText_listing (htitle : '\n' ∉ options.title)
    (hcards : ∀ card ∈ cards, ∃ catalog specials, catalog.Feedless ∧ specials.Feedless ∧
      card.Encoded catalog specials)
    (hlisting : ofCards options cards = .ok listing) (base : UInt16) :
    let endAddress := base.toNat + storedSize options cards
    (65535 < endAddress % 2 ^ 32 →
      Image.ofText listing.text base = .error (.programTooLarge (UInt32.ofNat endAddress))) ∧
    (endAddress % 2 ^ 32 ≤ 65535 →
      ∃ image met, Image.ofText listing.text base = .ok image ∧
        image = met.flatMap Visit.bytes ∧
        met.map (fun visit ↦ (visit.line.number.toNat, visit.line.code)) =
          storedLines options cards ∧
        (Image.walk image base 0 = some met ↔ endAddress < 2 ^ 32)) := by
  intro endAddress
  have honeLine : ∀ card ∈ cards, card.OneLine := by
    intro card hcard
    obtain ⟨catalog, specials, hcatalog, hspecials, hencoded⟩ := hcards card hcard
    exact DataLine.oneLine_of_faithful hcatalog hspecials hencoded.faithful
  have hlines := ofLines_lines htitle honeLine hlisting 1
  rw [← lines_text htitle honeLine hlisting] at hlines
  have hsize := size_sources hlisting
  have himage := Image.ofText_of_ofLines base hlines
  rw [hsize] at himage
  refine ⟨fun hlarge ↦ himage.trans (if_pos hlarge), fun hfits ↦ ?_⟩
  rw [if_neg (Nat.not_lt.mpr hfits)] at himage
  have hnumbered := SourceLine.eq_filterMap_of_ofLines hlines
  refine ⟨_, Image.visits base 0 ((sources options cards).map Image.crunchLine), himage, ?_, ?_, ?_⟩
  · rw [Image.flatMap_bytes_visits, Nat.add_zero]
  · rw [← map_crunchLine_sources hlisting,
      ← Function.comp_def (fun line : ImageLine ↦ (line.number.toNat, line.code)),
      ← List.map_map, Image.map_line_visits]
  · rw [Image.walk_eq_some_iff himage, Image.length_layout, hsize]
    exact and_iff_left (congrArg _ (congrArg _ hnumbered))

/-- Keywords, quotation marks and an apostrophe in the title and in a note, with a character above
U+00FF. -/
theorem ofText_listing_marks :
    ∃ card listing image met,
      card.Encoded .standard (.insert .empty "5".toList "\x22PRINT\x22 'TO' é→".toList) ∧
      ofCards ⟨65489, 40, "FOR \x22NEXT".toList⟩ [card] = .ok listing ∧
      Image.ofText listing.text 0xFF00 = .ok image ∧ Image.walk image 0xFF00 0 = some met ∧
      met.map (fun visit ↦ (visit.line.number.toNat, visit.line.code)) =
        [(65489, 0x8E :: " --- FOR \x22NEXT (1 CARDS) ---".toList.map Lexeme.charByte),
          (65529, 0x83 :: " 1,-7,0,0,0,0,0,0  : REM Card 5: CE -7 (\x22PRINT\x22 'TO' é?)".toList.map
            Lexeme.charByte)] := by
  have hspecials : Specials.Feedless (.insert .empty "5".toList "\x22PRINT\x22 'TO' é→".toList) := by
    decide
  have hcard : Card.Encoded .standard
      (.insert .empty "5".toList "\x22PRINT\x22 'TO' é→".toList)
      ⟨"5".toList, ⟨[1, -7, 0, 0, 0, 0, 0, 0], rfl⟩, "CE -7 (\x22PRINT\x22 'TO' é→)".toList, none⟩ :=
    ⟨["No".toList, "CE".toList], ⟨[⟨"CE".toList, 1, 1⟩]⟩, ["5".toList, "-7".toList], by decide,
      by decide⟩
  have hcards : ∀ card ∈ [_], ∃ catalog specials, catalog.Feedless ∧ specials.Feedless ∧
      Card.Encoded catalog specials card :=
    List.forall_mem_singleton.mpr ⟨_, _, Catalog.feedless_standard, hspecials, hcard⟩
  obtain ⟨image, met, himage, -, hmet, hwalk⟩ := (ofText_listing
    (by decide : '\n' ∉ (⟨65489, 40, "FOR \x22NEXT".toList⟩ : ListingOptions).title) hcards rfl
    0xFF00).2 (by decide +kernel)
  exact ⟨_, _, image, met, hcard, rfl, himage, hwalk.mpr (by decide +kernel),
    hmet.trans (by decide +kernel)⟩

end Listing

end ChanceDeck
