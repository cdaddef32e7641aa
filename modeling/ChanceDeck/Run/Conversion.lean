import ChanceDeck.Deck
import ChanceDeck.Run.Arguments
import ChanceDeck.Run.Step

/-!
# Conversion

A run that converts a sheet to a listing. What is given with the command takes the place of what
the settings say. The listing is saved only after everything that can be wrong with the sheet has
been looked at, and a report on the conversion is saved if one is asked for.
-/

set_option autoImplicit false
set_option relaxedAutoImplicit false

namespace ChanceDeck

namespace ConvertFlags

/-- Settings with the given values in their place. -/
def applyTo {P : Type} (flags : ConvertFlags P) (settings : ConvertSettings P) :
    ConvertSettings P where
  input := flags.input.getD settings.input
  output := flags.output.getD settings.output
  startLine := flags.startLine.getD settings.startLine
  lineStep := flags.lineStep.getD settings.lineStep
  report := flags.report.or settings.report

/-- The settings of a conversion. Those without flags must be right, and so must those with them. -/
def resolve (flags : ConvertFlags) (settings : Settings) :
    Except SettingsError (ConvertSettings RawText) :=
  match settings.convert with
  | .error e => .error e
  | .ok found => (flags.applyTo (found.map .ofText)).validate

end ConvertFlags

/-- The rows of a sheet from the contents of its file. -/
def Sheet.ofFile (path : RawText) : Except FileError Bytes → Except SheetError (List (List Text))
  | .ok bytes => Sheet.ofBytes bytes
  | .error .missing => .error (.notFound path.shown)
  | .error .notFolder => .error (.notFound path.shown)
  | .error .zeroByte => .error (.notFound path.shown)
  | .error e => .error (.unreadable e.message)

/-- What a report tells about a conversion. -/
structure ConversionReport where
  digest : Text
  settings : ConvertSettings RawText
  deck : Deck
  range : LineRange

namespace ConversionReport

/-- A report as a document, its entries in the order in which they are read; it has the texts of the
paths of the sheet and the listing. -/
def document (report : ConversionReport) (input output : Text) : Document :=
  let natural (key : String) (n : Nat) : Text × Document := (key.toList, .integer n)
  let stats := report.deck.stats
  .object
    [("config_hash".toList, .text report.digest),
      ("input".toList, .text input),
      ("output".toList, .text output),
      ("tickers".toList, .list (report.deck.header.tickersBySheet.map .text)),
      ("stats".toList, .object
        [natural "rows_read" stats.rowsRead, natural "rows_skipped" stats.rowsSkipped,
          natural "cards_encoded" stats.cardsEncoded,
          natural "cards_overflowed" stats.cardsOverflowed]),
      ("lines".toList, .object
        [natural "first_line" report.range.firstLine, natural "last_line" report.range.lastLine,
          natural "next_free_line" report.range.nextFreeLine]),
      ("overflowed_cards".toList, .list (report.deck.overflowed.map fun card ↦ .text card.id))]

/-- The contents of the file of a report. There are none if a path that it names is no text. -/
def text (report : ConversionReport) : Except RunError Text :=
  match report.settings.input.text?, report.settings.output.text? with
  | some input, some output => .ok ((report.document input output).indented 0)
  | _, _ => .error .unserialized

end ConversionReport

namespace Conversion

/-- The part of the program that reports on conversions. -/
def origin : Text :=
  "ccd::commands::convert".toList

/-- What is told about the columns of a sheet. -/
def headerLine (header : Header) : Text :=
  "Found ".toList ++ Decimal.natural header.size ++ " stock columns: ".toList ++
    Text.join ", ".toList header.tickersBySheet

/-- A warning for each card that had too many effects. -/
def overflowEntries (deck : Deck) : List LogEntry :=
  deck.cards.filterMap fun card ↦ card.overflow.map fun overflow ↦
    { level := .warn
      origin := origin
      message := "card affects more than ".toList ++ Decimal.natural Record.capacity ++
        " stocks; extra effects left out of its record".toList
      fields := [("card".toList, card.id),
        ("effects".toList, Decimal.natural overflow.effectCount),
        ("dropped".toList, Decimal.natural overflow.dropped)] }

/-- What is told about the number of cards. -/
def deckLine (deck : Deck) : Text :=
  "Encoded ".toList ++ Decimal.natural deck.cards.length ++ " cards".toList

/-- How the listing is numbered and titled. -/
def options (settings : ConvertSettings RawText) : ListingOptions :=
  ⟨settings.startLine, settings.lineStep, Listing.defaultOptions.title⟩

/-- The entry on a listing that was saved. -/
def savedEntry (path : RawText) (listing : Listing) : LogEntry where
  level := .debug
  origin := "ccd_emit".toList
  message := "program written".toList
  fields := [("path".toList, path.shown), ("lines".toList, Decimal.natural listing.lines.length)]

/-- What is told about a listing that was saved. -/
def savedLines (path : RawText) (range : LineRange) : List Text :=
  ["Wrote BASIC DATA statements to ".toList ++ path.shown,
    "Lines ".toList ++ Decimal.natural range.firstLine ++ " to ".toList ++
      Decimal.natural range.lastLine,
    [],
    "Next available line number: ".toList ++ Decimal.natural range.nextFreeLine]

/-- The entry at the end. -/
def lastEntry (stats : DeckStats) : LogEntry where
  level := .info
  origin := origin
  message := "conversion complete".toList
  fields := [("rows_read".toList, Decimal.natural stats.rowsRead),
    ("rows_skipped".toList, Decimal.natural stats.rowsSkipped),
    ("cards".toList, Decimal.natural stats.cardsEncoded),
    ("overflowed".toList, Decimal.natural stats.cardsOverflowed)]

variable {m : Type → Type} [Monad m] [Host m]

/-- Saves a report, if one is asked for. Its folder is made before its contents are. -/
def saveReport (report : ConversionReport) : Step m Unit :=
  match report.settings.report with
  | none => pure ()
  | some path => do
    Step.makeFolder .report path
    let text ← Step.require id report.text
    Step.write .report path (Utf8.encode text)
    Step.print ["report_path=".toList ++ path.shown]

/-- Converts a sheet. -/
def run (filter : LogFilter) (settings : Settings) (flags : ConvertFlags) :
    Step m Unit := do
  let chosen ← Step.require .badSettings (flags.resolve settings)
  let contents ← Step.readFile chosen.input
  let rows ← Step.require .badSheet (Sheet.ofFile chosen.input contents)
  let deck ← Step.require (.badHeader chosen.input) (Deck.ofRows .standard .standard rows)
  Step.print [headerLine deck.header]
  Step.log filter (overflowEntries deck)
  Step.print [deckLine deck]
  let listing ← Step.require .unlisted (Listing.ofCards (options chosen) deck.cards)
  Step.save .listing chosen.output (Utf8.encode listing.text)
  Step.log filter [savedEntry chosen.output listing]
  Step.print (savedLines chosen.output listing.range)
  saveReport ⟨settings.digest, chosen, deck, listing.range⟩
  Step.log filter [lastEntry deck.stats]

end Conversion

end ChanceDeck
