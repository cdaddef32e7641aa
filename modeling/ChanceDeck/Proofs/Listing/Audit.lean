import ChanceDeck.Listing.Audit
import ChanceDeck.Proofs.Deck
import ChanceDeck.Proofs.Listing.DataLine

/-!
# Audits of what was listed

An audit of the listing of a deck is clean and finds every card again: `ofText_text`. Line by line
it reads a number that follows the one before, and from the line of a card the card itself, since
the remark written is the one that its record gives (`readLine_toText`).

The audit carries the last line number from line to line. `ofLines_dataLines` takes it over the
lines of any cards, whatever lines come after them, and says which number it carries on, and
`ofLines_lines` does so for the lines of a listing, whatever number was carried to it.
-/

set_option autoImplicit false
set_option relaxedAutoImplicit false

namespace ChanceDeck.Audit

variable {catalog : Catalog} {specials : Specials}

/-! ### One line -/

theorem lineNumber?_of_numbered {number : Nat} {line : Text} (h : Listing.Numbered number line)
    (hnumber : number ≤ DataLine.maxLineNumber) : lineNumber? line = some number := by
  obtain ⟨rest, rfl⟩ := h.begins
  rw [lineNumber?, Listing.takeWhile_isDigit_natural, Decimal.natural?_natural hnumber]

/-- What an audit makes of a numbered line: what the line holds, and its number carried on. -/
theorem ofLines_of_numbered {number : Nat} {line : Text} (h : Listing.Numbered number line)
    (hnumber : number ≤ DataLine.maxLineNumber) (textLine : Nat) (previous : Option Nat)
    (rest : List Text) :
    ofLines catalog specials textLine previous (line :: rest) =
      ⟨(readLine catalog specials textLine line).1 ++
          (ofLines catalog specials (textLine + 1) (some number) rest).cards,
        orderIssue previous (some number) ++ (readLine catalog specials textLine line).2 ++
          (ofLines catalog specials (textLine + 1) (some number) rest).issues⟩ := by
  simp only [ofLines, h.trim_eq_self, h.ne_nil, if_false, lineNumber?_of_numbered h hnumber,
    Option.some_or]

theorem orderIssue_of_lt {previous found : Nat} (h : previous < found) :
    orderIssue (some previous) (some found) = [] := by
  rw [orderIssue, if_neg (Nat.not_le.mpr h)]

/-- A heading holds no card and gives no issue. -/
theorem readLine_heading (textLine line : Nat) {title : Text} (cards : Nat)
    (htitle : '\n' ∉ title) :
    readLine catalog specials textLine (Listing.heading line title cards) = ([], []) := by
  have hnumbered := Listing.heading_numbered line cards htitle
  have hstrip (rest : Text) :
      Text.strip? "DATA ".toList ("REM --- ".toList ++ rest) = none := rfl
  have hparts : DataLine.ofText? (Listing.heading line title cards) = none := by
    rw [DataLine.ofText?, hnumbered.trim_eq_self, Listing.heading_eq, Listing.cut?_natural]
    simp only [Option.bind_eq_bind, Option.bind_some, hstrip, Option.bind_none, Option.bind_fun_none]
  have hstatement : isDataStatement (Listing.heading line title cards) = false := by
    rw [isDataStatement, Listing.heading_eq, Listing.dropWhile_isDigit_natural]
    rfl
  rw [readLine, hparts, hstatement]
  rfl

/-- A legible line whose values are a record and whose remark is the one that the record gives
holds a card and gives no issue. -/
theorem readLine_toText {parts : DataLine} {record : Record} (hlegible : parts.Legible)
    (hrecord : Record.ofValues catalog parts.values = .ok record)
    (hremark : Remark.ofRecord catalog specials parts.card record = parts.remark)
    (textLine : Nat) :
    readLine catalog specials textLine parts.toText =
      ([⟨parts.lineNumber, parts.card, record, parts.remark⟩], []) := by
  have hvalues : parts.values ≠ [] := Record.values_of_ofValues hrecord ▸ record.values_ne_nil
  simp only [readLine, DataLine.ofText?_toText hlegible, hvalues, if_false, hrecord, hremark,
    if_true]

/-! ### The lines of a listing -/

/-- The cards that an audit finds in the lines of cards. -/
def listed (line step : Nat) (cards : List Card) : List AuditedCard :=
  cards.mapIdx fun k card ↦ ⟨line + (k + 1) * step, card.id, card.record, card.remark⟩

theorem listed_cons (line step : Nat) (card : Card) (rest : List Card) :
    listed line step (card :: rest) =
      ⟨line + step, card.id, card.record, card.remark⟩ :: listed (line + step) step rest := by
  rw [listed, listed, List.mapIdx_cons]
  have hnumber (k : Nat) : line + (k + 1 + 1) * step = line + step + (k + 1) * step := by ring
  simp only [hnumber, Nat.zero_add, Nat.one_mul]

/-- The lines of faithful cards are audited without an issue, and the number of the last of them is
carried on to the lines after them. -/
theorem ofLines_dataLines (hcatalog : catalog.Feedless) (hspecials : specials.Feedless)
    {cards : List Card} (hcards : ∀ card ∈ cards, card.Faithful catalog specials) {step : Nat}
    (hstep : 1 ≤ step) {line : Nat} (hlast : line + step * cards.length ≤ DataLine.maxLineNumber)
    (textLine : Nat) (rest : List Text) :
    ofLines catalog specials textLine (some line) (Listing.dataLines line step cards ++ rest) =
      let later := ofLines catalog specials (textLine + cards.length)
        (some (line + step * cards.length)) rest
      ⟨listed line step cards ++ later.cards, later.issues⟩ := by
  induction cards generalizing line textLine with
  | nil => rfl
  | cons card cards ih =>
    have hcard := hcards card List.mem_cons_self
    have htotal : line + step * (card :: cards).length = line + step + step * cards.length := by
      rw [List.length_cons]
      ring
    have hline : line + step ≤ DataLine.maxLineNumber := by
      rw [htotal] at hlast
      omega
    have hnumbered := DataLine.numbered_of_faithful hcatalog hspecials hcard (line + step)
      card.record.values
    have hread := readLine_toText
      (DataLine.legible_of_faithful hcatalog hspecials hcard hline card.record.values)
      hcard.record_ok hcard.remark_eq.symm textLine
    have hrest := ih (fun other hother ↦ hcards other (List.mem_cons_of_mem _ hother))
      (htotal ▸ hlast) (textLine + 1)
    have hcount : textLine + 1 + cards.length = textLine + (card :: cards).length := by
      rw [List.length_cons]
      omega
    rw [Listing.dataLines, List.cons_append, DataLine.dataLine_eq_toText, DataLine.ofCard,
      ofLines_of_numbered hnumbered hline, hread, hrest, orderIssue_of_lt (by omega), htotal,
      hcount, listed_cons]
    rfl

theorem line_of_mem_dataLines (hcatalog : catalog.Feedless) (hspecials : specials.Feedless)
    {cards : List Card} (hcards : ∀ card ∈ cards, card.Faithful catalog specials)
    (line step : Nat) : ∀ text ∈ Listing.dataLines line step cards, Text.Line text :=
  Listing.line_of_mem_dataLines
    (fun card hcard ↦ DataLine.oneLine_of_faithful hcatalog hspecials (hcards card hcard)) line step

/-- The lines of a listing that begins above the last line number before it are audited without an
issue, and its own last line number is carried on to the lines after it. -/
theorem ofLines_lines (hcatalog : catalog.Feedless) (hspecials : specials.Feedless)
    {options : ListingOptions} (htitle : '\n' ∉ options.title) {cards : List Card}
    (hcards : ∀ card ∈ cards, card.Faithful catalog specials) {listing : Listing}
    (hlisting : Listing.ofCards options cards = .ok listing) {previous : Option Nat}
    (hprevious : ∀ last ∈ previous, last < options.startLine) (textLine : Nat) (rest : List Text) :
    ofLines catalog specials textLine previous (listing.lines ++ rest) =
      let later := ofLines catalog specials (textLine + 1 + cards.length)
        (some listing.range.lastLine) rest
      ⟨listed options.startLine options.lineStep cards ++ later.cards, later.issues⟩ := by
  obtain ⟨⟨-, hstep⟩, hlast, rfl⟩ := Listing.ofCards_eq_ok_iff.mp hlisting
  have hmax := DataLine.maxLineNumber_le
  rw [Listing.inRange_iff] at hstep
  rw [Listing.lastLine] at hlast
  have hheading := Listing.heading_numbered options.startLine cards.length htitle
  have hdata := ofLines_dataLines hcatalog hspecials hcards hstep.1 (hlast.trans hmax)
    (textLine + 1) rest
  have horder : orderIssue previous (some options.startLine) = [] := by
    cases previous with
    | none => rfl
    | some last => exact orderIssue_of_lt (hprevious last rfl)
  rw [List.cons_append, ofLines_of_numbered hheading (by omega), readLine_heading _ _ _ htitle,
    hdata, horder]
  rfl

/-- The audit of a listing of faithful cards. -/
theorem ofText_text_of_faithful (hcatalog : catalog.Feedless) (hspecials : specials.Feedless)
    {options : ListingOptions} (htitle : '\n' ∉ options.title) {cards : List Card}
    (hcards : ∀ card ∈ cards, card.Faithful catalog specials) {listing : Listing}
    (hlisting : Listing.ofCards options cards = .ok listing) :
    ofText catalog specials listing.text = ⟨listed options.startLine options.lineStep cards, []⟩ := by
  have hlines := Listing.lines_text htitle
    (fun card hcard ↦ DataLine.oneLine_of_faithful hcatalog hspecials (hcards card hcard)) hlisting
  have hfirst : ∀ last ∈ (none : Option Nat), last < options.startLine := by simp
  have haudit := ofLines_lines hcatalog hspecials htitle hcards hlisting hfirst 1 []
  rw [List.append_nil] at haudit
  rw [ofText, hlines, haudit]
  simp [ofLines]

/-- The audit of the listing of a deck finds its cards in order, each with its line number, its
identifier, its record and its remark, and nothing to object to. -/
theorem ofText_text {rows : List (List Text)} {deck : Deck} {options : ListingOptions}
    {listing : Listing} (hcatalog : catalog.Feedless) (hspecials : specials.Feedless)
    (hdeck : Deck.ofRows catalog specials rows = .ok deck) (htitle : '\n' ∉ options.title)
    (hlisting : Listing.ofCards options deck.cards = .ok listing) :
    ofText catalog specials listing.text =
      ⟨deck.cards.mapIdx fun k card ↦
        ⟨options.startLine + (k + 1) * options.lineStep, card.id, card.record, card.remark⟩, []⟩ :=
  ofText_text_of_faithful hcatalog hspecials htitle
    (fun _ hcard ↦ (Deck.encoded_of_mem hdeck hcard).faithful) hlisting

/-- Identifiers that look like numbers, and a note that holds the marks of a data line. -/
theorem ofText_text_marks :
    ∃ deck listing,
      Deck.ofRows .standard (.insert .standard "+5".toList "pay: 2  : REM Card x".toList)
        [["No".toList, "CE".toList, "GR".toList], ["36".toList, "5".toList, "-2".toList],
          ["007".toList], ["+5".toList, "+0".toList, "9223372036854775807".toList]] = .ok deck ∧
      Listing.ofCards Listing.defaultOptions deck.cards = .ok listing ∧
      ofText .standard (.insert .standard "+5".toList "pay: 2  : REM Card x".toList) listing.text =
        ⟨deck.cards.mapIdx fun k card ↦
          ⟨8000 + (k + 1) * 10, card.id, card.record, card.remark⟩, []⟩ := by
  have hspecials : Specials.Feedless
      (.insert .standard "+5".toList "pay: 2  : REM Card x".toList) := by decide
  have htitle : '\n' ∉ Listing.defaultOptions.title := by decide
  refine ⟨?deck, ?listing, ?hdeck, ?hlisting,
    ofText_text Catalog.feedless_standard hspecials ?hdeck htitle ?hlisting⟩
  case hdeck => rfl
  case hlisting => rfl

end ChanceDeck.Audit
