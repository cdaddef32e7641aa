import ChanceDeck.Proofs.Listing.Audit

/-!
# Audits of what was changed

Putting other values into the line of a card never passes an audit: `issues_ne_nil_of_setValues`.
Without values the line is a `DATA` statement that cannot be read. Values that are no record of the
catalog give a bad record. A record of the catalog other than the one listed has another remark than
the one that was left in place, if no ticker holds a comma. What other lines hold does not matter,
since an audit keeps every issue of every line (`issues_ne_nil_of_mem`).
-/

set_option autoImplicit false
set_option relaxedAutoImplicit false

namespace ChanceDeck

namespace DataLine

/-- A line with other values between its keyword and its comment. -/
def replaceValues (values : List Int64) (line : Text) : Text :=
  match Text.cut? "DATA ".toList line with
  | none => line
  | some (before, rest) =>
    match Text.cut? Listing.separator rest with
    | none => line
    | some (_, after) =>
      before ++ "DATA ".toList ++ Record.spelling values ++ Listing.separator ++ after

/-- Replacing the values of parts that are written out replaces the values only. -/
theorem replaceValues_toText (values : List Int64) (parts : DataLine) :
    replaceValues values (toText parts) = toText { parts with values := values } := by
  have hdata : "DATA ".toList = 'D' :: "ATA ".toList := rfl
  have hseparator : Listing.separator = ' ' :: " : REM Card ".toList := rfl
  have hbefore : 'D' ∉ Decimal.natural parts.lineNumber ++ [' '] := by
    intro hmem
    rcases List.mem_append.mp hmem with hdigit | hspace
    · exact absurd (Decimal.isDigit_of_mem_natural hdigit) (by decide)
    · exact absurd hspace (by decide)
  have hspelling : ' ' ∉ Record.spelling parts.values :=
    Record.not_mem_spelling (by decide) (by decide)
  rw [replaceValues, toText_eq, toText_eq, List.append_cons, hdata, Text.cut?_append _ _ hbefore]
  simp only [hseparator, Text.cut?_append _ _ hspelling]
  simp only [List.append_assoc, List.cons_append, List.nil_append]

end DataLine

namespace Listing

/-- The listing with other values in the line of its `k`-th card. The heading comes before all. -/
def setValues (listing : Listing) (k : Nat) (values : List Int64) : Listing :=
  { listing with lines := listing.lines.modify (k + 1) (DataLine.replaceValues values) }

/-- The lines of a listing with other values in the line of one card. -/
theorem lines_setValues {options : ListingOptions} {cards : List Card} {listing : Listing}
    (hlisting : ofCards options cards = .ok listing) {k : Nat} {card : Card}
    (hcard : cards[k]? = some card) (values : List Int64) :
    ∃ before after,
      dataLines options.startLine options.lineStep cards = before ++
        dataLine (options.startLine + (k + 1) * options.lineStep) card :: after ∧
      (listing.setValues k values).lines =
        heading options.startLine options.title cards.length :: (before ++
          DataLine.toText ⟨options.startLine + (k + 1) * options.lineStep, values, card.id,
            card.remark⟩ :: after) := by
  obtain ⟨-, -, rfl⟩ := ofCards_eq_ok_iff.mp hlisting
  have hget : (dataLines options.startLine options.lineStep cards)[k]? =
      some (dataLine (options.startLine + (k + 1) * options.lineStep) card) := by
    rw [dataLines_eq_mapIdx, List.getElem?_mapIdx, hcard, Option.map_some]
  obtain ⟨before, line, after, hsplit, hlength, hmodify⟩ := List.exists_of_modify
    (DataLine.replaceValues values) (List.getElem?_eq_some_iff.mp hget).1
  have hline : line = dataLine (options.startLine + (k + 1) * options.lineStep) card := by
    rw [hsplit, List.getElem?_append_right hlength.le, hlength, Nat.sub_self] at hget
    exact Option.some.inj hget
  refine ⟨before, after, hline ▸ hsplit, ?_⟩
  rw [setValues, List.modify_succ_cons, hmodify, hline, DataLine.dataLine_eq_toText,
    DataLine.replaceValues_toText, DataLine.ofCard]

end Listing

namespace Audit

variable {catalog : Catalog} {specials : Specials}

/-! ### The changed line -/

theorem isDataStatement_toText (parts : DataLine) : isDataStatement parts.toText = true := by
  rw [isDataStatement, DataLine.toText_eq, Listing.dropWhile_isDigit_natural]
  rfl

/-- The line of a card with the values of another record has an issue. -/
theorem readLine_issues_ne_nil (hcommaless : catalog.Commaless) (hfeedless : catalog.Feedless)
    (hspecials : specials.Feedless) {card : Card} (hcard : card.Faithful catalog specials)
    {line : Nat} (hline : line ≤ DataLine.maxLineNumber) {values : List Int64}
    (hvalues : values ≠ card.record.values) (textLine : Nat) :
    (readLine catalog specials textLine
      (DataLine.toText ⟨line, values, card.id, card.remark⟩)).2 ≠ [] := by
  have hlegible := DataLine.legible_of_faithful hfeedless hspecials hcard hline values
  rw [readLine, DataLine.ofText?_toText hlegible]
  by_cases hnil : values = []
  · simp only [hnil, if_true, isDataStatement_toText]
    exact List.cons_ne_nil _ _
  · simp only [hnil, if_false]
    cases hrecord : Record.ofValues catalog values with
    | error e => exact List.cons_ne_nil _ _
    | ok record =>
      have hremark : Remark.ofRecord catalog specials card.id record ≠ card.remark := by
        intro hsame
        rw [hcard.remark_eq] at hsame
        have hrecords := Remark.ofRecord_injective hcommaless hrecord hcard.record_ok hsame
        apply hvalues
        rw [← Record.values_of_ofValues hrecord, hrecords]
      simp only [hremark, if_false]
      exact List.cons_ne_nil _ _

/-! ### The changed listing -/

/-- The issues of a line are among those of the lines it stands in, wherever it stands. -/
theorem issues_ne_nil_of_mem {line : Text} (htrim : Text.trim line = line) (hline : line ≠ [])
    (hissues : ∀ textLine, (readLine catalog specials textLine line).2 ≠ []) {lines : List Text}
    (hmem : line ∈ lines) (textLine : Nat) (previous : Option Nat) :
    (ofLines catalog specials textLine previous lines).issues ≠ [] := by
  induction lines generalizing textLine previous with
  | nil => exact absurd hmem List.not_mem_nil
  | cons raw rest ih =>
    rw [ofLines]
    rcases List.mem_cons.mp hmem with rfl | hrest
    · rw [htrim, if_neg hline]
      refine List.append_ne_nil_of_left_ne_nil ?_ _
      exact List.append_ne_nil_of_right_ne_nil _ (hissues textLine)
    · by_cases hblank : Text.trim raw = []
      · rw [if_pos hblank]
        exact ih hrest _ _
      · rw [if_neg hblank]
        exact List.append_ne_nil_of_right_ne_nil _ (ih hrest _ _)

/-- An audit objects to other values in the line of a card, however many they are. The catalog may
be any without a comma or a line feed in its tickers, such as the standard one. -/
theorem issues_ne_nil_of_setValues (hcommaless : catalog.Commaless) (hfeedless : catalog.Feedless)
    (hspecials : specials.Feedless) {options : ListingOptions} (htitle : '\n' ∉ options.title)
    {cards : List Card} (hcards : ∀ card ∈ cards, card.Encoded catalog specials)
    {listing : Listing} (hlisting : Listing.ofCards options cards = .ok listing) {k : Nat}
    {card : Card} (hcard : cards[k]? = some card) {values : List Int64}
    (hvalues : values ≠ card.record.values) :
    (ofText catalog specials (listing.setValues k values).text).issues ≠ [] := by
  have hfaithful : ∀ c ∈ cards, c.Faithful catalog specials := fun c hc ↦ (hcards c hc).faithful
  have hchanged := hfaithful card (List.mem_of_getElem? hcard)
  have hline := (Listing.lineNumber_le hlisting hcard).trans DataLine.maxLineNumber_le
  have hnumbered := DataLine.numbered_of_faithful hfeedless hspecials hchanged
    (options.startLine + (k + 1) * options.lineStep) values
  obtain ⟨before, after, hdata, hlines⟩ := Listing.lines_setValues hlisting hcard values
  have hothers := line_of_mem_dataLines hfeedless hspecials hfaithful options.startLine
    options.lineStep
  have hfeed : ∀ text ∈ (listing.setValues k values).lines, Text.Line text := by
    intro text htext
    rw [hlines] at htext
    rcases List.mem_cons.mp htext with rfl | htext
    · exact (Listing.heading_numbered _ _ htitle).line
    · rw [hdata] at hothers
      rcases List.mem_append.mp htext with hbefore | hrest
      · exact hothers text (List.mem_append_left _ hbefore)
      · rcases List.mem_cons.mp hrest with rfl | hafter
        · exact hnumbered.line
        · exact hothers text (List.mem_append_right _ (List.mem_cons_of_mem _ hafter))
  rw [ofText, Listing.text, Text.lines_unlines hfeed]
  refine issues_ne_nil_of_mem hnumbered.trim_eq_self hnumbered.ne_nil
    (readLine_issues_ne_nil hcommaless hfeedless hspecials hchanged hline hvalues) ?_ _ _
  rw [hlines]
  exact List.mem_cons_of_mem _ (List.mem_append_right _ List.mem_cons_self)

/-- The second effect taken out of a card, which leaves a record of the catalog. -/
theorem issues_ne_nil_of_setValues_shorter :
    ∃ deck listing card,
      Deck.ofRows .standard .standard [["No".toList, "CE".toList, "GR".toList],
        ["36".toList, "5".toList, "-2".toList], ["7".toList]] = .ok deck ∧
      Listing.ofCards Listing.defaultOptions deck.cards = .ok listing ∧
      deck.cards[0]? = some card ∧ [1, 5, 0, 0, 0, 0, 0, 0] ≠ card.record.values ∧
      (ofText .standard .standard
        (listing.setValues 0 [1, 5, 0, 0, 0, 0, 0, 0]).text).issues ≠ [] := by
  have hspecials : Specials.standard.Feedless := by decide
  have htitle : '\n' ∉ Listing.defaultOptions.title := by decide
  refine ⟨?deck, ?listing, ?card, ?hdeck, ?hlisting, ?hcard, ?hvalues,
    issues_ne_nil_of_setValues Catalog.commaless_standard Catalog.feedless_standard hspecials
      htitle (fun _ hcard ↦ Deck.encoded_of_mem ?hdeck hcard) ?hlisting ?hcard ?hvalues⟩
  case hdeck => rfl
  case hlisting => rfl
  case hcard => rfl
  case hvalues => decide

end Audit

end ChanceDeck
