import ChanceDeck.Card
import ChanceDeck.Text.Lines

/-!
# Listings

A listing is a numbered BASIC program: a heading, then one `DATA` statement for each card. The
heading takes the first line number and every later line is a fixed step further. No line number
may pass the highest that the interpreter takes, which is checked before any line is written. The
line range tells where the next listing may start.
-/

set_option autoImplicit false
set_option relaxedAutoImplicit false

namespace ChanceDeck

/-- How a listing is numbered and titled. -/
structure ListingOptions where
  startLine : Nat
  lineStep : Nat
  title : Text
  deriving DecidableEq, Repr

/-- The line numbers that a listing takes, and the first that it leaves free. -/
structure LineRange where
  firstLine : Nat
  lastLine : Nat
  nextFreeLine : Nat
  deriving DecidableEq, Repr

/-- A numbered program. -/
structure Listing where
  lines : List Text
  range : LineRange
  deriving DecidableEq, Repr

/-- Why cards cannot be listed. -/
inductive ListingError where
  | invalidStartLine (line : Nat)
  | invalidLineStep (step : Nat)
  | lineNumberOverflow (lastLine : Nat)
  deriving DecidableEq, Repr

/-- The wording of a listing error. -/
def ListingError.message : ListingError → Text
  | .invalidStartLine line =>
    "start line ".toList ++ Decimal.natural line ++
      " is outside the BASIC line range 1..=65529".toList
  | .invalidLineStep step =>
    "line step ".toList ++ Decimal.natural step ++ " must be between 1 and 65529".toList
  | .lineNumberOverflow lastLine =>
    "program would end at line ".toList ++ Decimal.natural lastLine ++
      ", past the BASIC limit 65529".toList

namespace Listing

/-- The highest line number that the interpreter takes. -/
def maxLineNumber : Nat := 65529

/-- The numbering and title of a listing for which nothing else is asked. -/
def defaultOptions : ListingOptions :=
  ⟨8000, 10, "CHANCE CARDS DATA".toList⟩

/-- Whether a number may be a start line or a line step. -/
def inRange (n : Nat) : Bool :=
  n ≠ 0 && n ≤ maxLineNumber

/-- Checks a start line and a line step. -/
def checkNumbering (startLine lineStep : Nat) : Except ListingError Unit :=
  if !inRange startLine then .error (.invalidStartLine startLine)
  else if !inRange lineStep then .error (.invalidLineStep lineStep)
  else .ok ()

/-- What stands between the values and the identifier of a card. -/
def separator : Text :=
  "  : REM Card ".toList

/-- The heading of a listing. -/
def heading (line : Nat) (title : Text) (cards : Nat) : Text :=
  Decimal.natural line ++ " REM --- ".toList ++ title ++ " (".toList ++ Decimal.natural cards ++
    " CARDS) ---".toList

/-- The line of a card. -/
def dataLine (line : Nat) (card : Card) : Text :=
  Decimal.natural line ++ " DATA ".toList ++ Record.spelling card.record.values ++ separator ++
    card.id ++ ": ".toList ++ card.remark

/-- The lines of cards, each a step after the line before. -/
def dataLines (line step : Nat) : List Card → List Text
  | [] => []
  | card :: rest => dataLine (line + step) card :: dataLines (line + step) step rest

/-- The last line number of a listing of so many cards. -/
def lastLine (options : ListingOptions) (cards : Nat) : Nat :=
  options.startLine + options.lineStep * cards

/-- The listing of cards. -/
def ofCards (options : ListingOptions) (cards : List Card) : Except ListingError Listing :=
  match checkNumbering options.startLine options.lineStep with
  | .error e => .error e
  | .ok () =>
    let last := lastLine options cards.length
    if maxLineNumber < last then .error (.lineNumberOverflow last)
    else
      .ok ⟨heading options.startLine options.title cards.length ::
          dataLines options.startLine options.lineStep cards,
        ⟨options.startLine, last, last + options.lineStep⟩⟩

/-- The contents of the file of a listing. -/
def text (listing : Listing) : Text :=
  Text.unlines listing.lines

end Listing

end ChanceDeck
