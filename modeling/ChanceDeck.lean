import ChanceDeck.Main
import ChanceDeck.Proofs.Catalog
import ChanceDeck.Proofs.Record
import ChanceDeck.Proofs.Sheet.Header
import ChanceDeck.Proofs.Text.Cut
import ChanceDeck.Proofs.Text.Decimal
import ChanceDeck.Proofs.Text.Lines
import ChanceDeck.Proofs.Card
import ChanceDeck.Proofs.Deck
import ChanceDeck.Proofs.Remark
import ChanceDeck.Proofs.Listing.DataLine
import ChanceDeck.Proofs.Listing.Audit
import ChanceDeck.Proofs.Listing.Tampering
import ChanceDeck.Proofs.Basic.Crunch
import ChanceDeck.Proofs.Basic.Image
import ChanceDeck.Proofs.Listing.Image
import ChanceDeck.Proofs.Record.Decoding
import ChanceDeck.Proofs.Card.Order
import ChanceDeck.Proofs.Listing.Order
import ChanceDeck.Proofs.Listing.Chain
import ChanceDeck.Proofs.Basic.Delimited
import ChanceDeck.Proofs.Text.Utf8
import ChanceDeck.Proofs.Run.Files
import ChanceDeck.Proofs.Run.Step
import ChanceDeck.Proofs.Run.Conversion
import ChanceDeck.Proofs.Run.Session
import ChanceDeck.Proofs.Settings.Document
import ChanceDeck.Proofs.Settings.Merge
import ChanceDeck.Proofs.Settings.Pointer
import ChanceDeck.Proofs.Settings.Unused
import ChanceDeck.Proofs.Settings.Overlay
import ChanceDeck.Proofs.Settings.Layers
import ChanceDeck.Proofs.Settings.Replacement
import ChanceDeck.Proofs.Record.Codec
import ChanceDeck.Proofs.Run.Flags
import ChanceDeck.Proofs.Settings.Canonical
import ChanceDeck.Proofs.Settings.KeyOrder
import ChanceDeck.Proofs.Run.Failure
import ChanceDeck.Proofs.Listing.Numbering
import ChanceDeck.Proofs.Basic.Keyword
import ChanceDeck.Proofs.Basic.Lexeme
import ChanceDeck.Proofs.Basic.Expansion
import ChanceDeck.Proofs.Basic.LongestMatch
import ChanceDeck.Proofs.Basic.LetterCase
import ChanceDeck.Proofs.Basic.Linking
import ChanceDeck.Proofs.Basic.Outcome
import ChanceDeck.Proofs.Basic.Composition
import ChanceDeck.Proofs.Sheet.Resolution
import ChanceDeck.Proofs.Deck.Rows
import ChanceDeck.Proofs.Catalog.Admission
import ChanceDeck.Proofs.Settings.Repetition
import ChanceDeck.Proofs.Sheet.Spelling
