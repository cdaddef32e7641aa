import ChanceDeck.Proofs.Listing.Audit
import ChanceDeck.Proofs.Run.Step
import ChanceDeck.Proofs.Text.Utf8
import ChanceDeck.Run.Conversion

/-!
# What a conversion saves

A conversion works out a deck and its listing from the settings and the sheet (`Derived`), saves the
listing, and then saves a report if one is asked for (`exists_derived_of_run`). The output holds the
listing afterwards exactly when the report did not go to the same place (`exists_read_output_iff`):
a report is never a listing, since a listing begins with a digit and a report with a brace.
-/

set_option autoImplicit false
set_option relaxedAutoImplicit false

namespace ChanceDeck

/-! ### Listings and reports -/

theorem Listing.exists_text_eq_cons {options : ListingOptions} {cards : List Card}
    {listing : Listing} (h : Listing.ofCards options cards = .ok listing) :
    ∃ c rest, listing.text = c :: rest ∧ c.isDigit = true := by
  obtain ⟨-, -, rfl⟩ := Listing.ofCards_eq_ok_iff.mp h
  obtain ⟨c, rest, hcons, hdigit⟩ := Decimal.exists_natural_eq_cons options.startLine
  rw [Listing.text, Text.unlines, List.flatMap_cons, Listing.heading_eq, hcons]
  exact ⟨c, _, rfl, hdigit⟩

theorem ConversionReport.exists_text_eq_cons {report : ConversionReport} {text : Text}
    (h : report.text = .ok text) : ∃ rest, text = '\x7b' :: rest := by
  rw [ConversionReport.text] at h
  split at h
  · exact ⟨_, (Except.ok.inj h).symm⟩
  · simp at h

theorem ConversionReport.text_ne {options : ListingOptions} {cards : List Card}
    {listing : Listing} (h : Listing.ofCards options cards = .ok listing)
    {report : ConversionReport} {text : Text} (htext : report.text = .ok text) :
    text ≠ listing.text := by
  obtain ⟨c, listingRest, hlisting, hdigit⟩ := Listing.exists_text_eq_cons h
  obtain ⟨reportRest, hreport⟩ := ConversionReport.exists_text_eq_cons htext
  intro heq
  rw [hlisting, hreport] at heq
  obtain rfl := (List.cons.inj heq).1
  exact absurd hdigit (by decide)

namespace Conversion

open FileTree Step

variable {machine after : Machine} {filter : LogFilter} {settings : Settings}
  {flags : ConvertFlags} {chosen : ConvertSettings RawText} {deck : Deck} {listing : Listing}

/-- What a conversion works out: the settings it goes by, the deck of its sheet and the listing of
the deck. -/
structure Derived (settings : Settings) (flags : ConvertFlags) (files : FileTree)
    (chosen : ConvertSettings RawText) (deck : Deck) (listing : Listing) : Prop where
  resolved : flags.resolve settings = .ok chosen
  encoded : ∃ rows, Sheet.ofFile chosen.input (files.read chosen.input) = .ok rows ∧
    Deck.ofRows .standard .standard rows = .ok deck
  listed : Listing.ofCards (options chosen) deck.cards = .ok listing

/-- A report is saved if one is asked for, and otherwise the files stay as they are. -/
theorem exists_saved_of_saveReport {report : ConversionReport} {value : Unit}
    (h : Gives (saveReport report) machine value after) :
    (report.settings.report = none → after.files = machine.files) ∧
      ∀ path ∈ report.settings.report, ∃ text location, report.text = .ok text ∧
        Saved path location (Utf8.encode text) machine.files after.files := by
  rw [saveReport] at h
  cases hreport : report.settings.report with
  | none =>
    rw [hreport, gives_pure] at h
    exact ⟨fun _ ↦ h.2 ▸ rfl, by simp⟩
  | some path =>
    simp only [hreport, gives_bind, gives_require, gives_print] at h
    obtain ⟨_, made, hfolder, text, _, ⟨htext, rfl⟩, _, written, hwrite, rfl⟩ := h
    refine ⟨by simp, fun other hother ↦ ?_⟩
    obtain rfl := Option.mem_some_iff.mp hother
    obtain ⟨location, hsaved⟩ :=
      exists_saved_of_write (grown_of_makeFolder hfolder) (write_of_gives hwrite)
    exact ⟨text, location, htext, hsaved⟩

/-- A conversion that does not fail saves the listing of the deck of its sheet, and a report after
that if one is asked for. -/
theorem exists_derived_of_run {value : Unit}
    (h : Gives (run filter settings flags) machine value after) :
    ∃ chosen deck listing, Derived settings flags machine.files chosen deck listing ∧
      ∃ files location,
        Saved chosen.output location (Utf8.encode listing.text) machine.files files ∧
        (chosen.report = none → after.files = files) ∧
        ∀ path ∈ chosen.report, ∃ text place,
          ConversionReport.text ⟨settings.digest, chosen, deck, listing.range⟩ = .ok text ∧
          Saved path place (Utf8.encode text) files after.files := by
  simp only [run, gives_bind, gives_require, gives_readFile, gives_print] at h
  obtain ⟨chosen, _, ⟨hresolved, rfl⟩, contents, _, ⟨rfl, rfl⟩, rows, _, ⟨hrows, rfl⟩, deck, _,
    ⟨hdeck, rfl⟩, _, _, rfl, _, _, hoverflow, _, _, rfl, listing, _, ⟨hlisting, rfl⟩, _, saved,
    hsave, _, _, hsaved, _, _, rfl, _, reported, hreport, hlast⟩ := h
  -- Between the reading of the sheet and the end, only the two savings change files.
  obtain ⟨_, rfl⟩ := exists_reports_of_log hoverflow
  obtain ⟨_, rfl⟩ := exists_reports_of_log hsaved
  obtain ⟨_, rfl⟩ := exists_reports_of_log hlast
  obtain ⟨location, hlocation⟩ := exists_saved_of_save hsave
  obtain ⟨hnone, hsome⟩ := exists_saved_of_saveReport hreport
  exact ⟨chosen, deck, listing, ⟨hresolved, ⟨rows, hrows, hdeck⟩, hlisting⟩, saved.files, location,
    hlocation, hnone, hsome⟩

/-- After a conversion that does not fail, its output holds the listing unless a report went to the
same place. -/
theorem exists_read_output_iff {value : Unit}
    (h : Gives (run filter settings flags) machine value after) :
    ∃ chosen deck listing, Derived settings flags machine.files chosen deck listing ∧
      (after.files.read chosen.output = .ok (Utf8.encode listing.text) ↔
        ∀ path ∈ chosen.report, after.files.find path ≠ after.files.find chosen.output) := by
  obtain ⟨chosen, deck, listing, hderived, files, location, houtput, hnone, hsome⟩ :=
    exists_derived_of_run h
  refine ⟨chosen, deck, listing, hderived, ?_⟩
  cases hreport : chosen.report with
  | none =>
    rw [hnone hreport]
    exact iff_of_true houtput.read (by simp)
  | some path =>
    obtain ⟨text, place, htext, hplace⟩ := hsome path hreport
    have hfind : after.files.find chosen.output = .ok location :=
      find_of_keepsFolders hplace.folders houtput.find
    simp only [Option.mem_some_iff, forall_eq', hplace.find, hfind, ne_eq, Except.ok.injEq]
    constructor
    · rintro hread rfl
      rw [houtput.read_of_eq hplace, Except.ok.injEq] at hread
      exact ConversionReport.text_ne hderived.listed htext (Utf8.encode_injective hread)
    · exact fun hne ↦ houtput.read_of_ne hplace fun heq ↦ hne heq.symm

end Conversion

end ChanceDeck
