import ChanceDeck.Listing.DataLine

/-!
# Audits

An audit reads a listing and checks every card in it: the record must keep the rules of the
catalog, the remark must be the one that the record gives, and line numbers must grow. Lines that
are no `DATA` statements are passed over except for their numbers.
-/

set_option autoImplicit false
set_option relaxedAutoImplicit false

namespace ChanceDeck

/-- A card found in a listing, with the remark that its record gives. -/
structure AuditedCard where
  lineNumber : Nat
  card : Text
  record : Record
  decoded : Text
  deriving DecidableEq, Repr

/-- What an audit objects to. -/
inductive AuditIssue where
  | malformed (textLine : Nat)
  | badRecord (lineNumber : Nat) (error : RecordError)
  | remarkMismatch (lineNumber : Nat) (written decoded : Text)
  | lineNumberNotIncreasing (previous found : Nat)
  deriving DecidableEq, Repr

/-- The wording of an issue. -/
def AuditIssue.message : AuditIssue → Text
  | .malformed textLine =>
    "text line ".toList ++ Decimal.natural textLine ++ ": malformed DATA statement".toList
  | .badRecord lineNumber error =>
    "line ".toList ++ Decimal.natural lineNumber ++ ": ".toList ++ error.message
  | .remarkMismatch lineNumber written decoded =>
    "line ".toList ++ Decimal.natural lineNumber ++ ": comment says '".toList ++ written ++
      "' but record decodes to '".toList ++ decoded ++ "'".toList
  | .lineNumberNotIncreasing previous found =>
    "line ".toList ++ Decimal.natural found ++ " does not follow line ".toList ++
      Decimal.natural previous

/-- The cards and the issues of a listing, in the order of its lines. -/
structure AuditReport where
  cards : List AuditedCard
  issues : List AuditIssue
  deriving DecidableEq, Repr

namespace Audit

/-- Whether a line is a `DATA` statement, well formed or not. -/
def isDataStatement (line : Text) : Bool :=
  (Text.strip? "DATA".toList (Text.trimStart (line.dropWhile Char.isDigit))).isSome

/-- The number at the start of a line. -/
def lineNumber? (line : Text) : Option Nat :=
  Decimal.natural? DataLine.maxLineNumber (line.takeWhile Char.isDigit)

/-- The issue of a line number that does not follow the one before it. -/
def orderIssue (previous found : Option Nat) : List AuditIssue :=
  match previous, found with
  | some previous, some found =>
    if found ≤ previous then [.lineNumberNotIncreasing previous found] else []
  | _, _ => []

/-- What a line holds apart from its number, blanks removed from its ends. -/
def readLine (catalog : Catalog) (specials : Specials) (textLine : Nat) (line : Text) :
    List AuditedCard × List AuditIssue :=
  match DataLine.ofText? line with
  | none => ([], if isDataStatement line then [.malformed textLine] else [])
  | some parts =>
    match Record.ofValues catalog parts.values with
    | .error e => ([], [.badRecord parts.lineNumber e])
    | .ok record =>
      let decoded := Remark.ofRecord catalog specials parts.card record
      ([⟨parts.lineNumber, parts.card, record, decoded⟩],
        if decoded = parts.remark then []
        else [.remarkMismatch parts.lineNumber parts.remark decoded])

/-- The audit of lines; `textLine` counts the first of them and `previous` is the last line number
before it. -/
def ofLines (catalog : Catalog) (specials : Specials) (textLine : Nat)
    (previous : Option Nat) : List Text → AuditReport
  | [] => ⟨[], []⟩
  | raw :: rest =>
    let line := Text.trim raw
    if line = [] then ofLines catalog specials (textLine + 1) previous rest
    else
      let number := lineNumber? line
      let (cards, issues) := readLine catalog specials textLine line
      let later := ofLines catalog specials (textLine + 1) (number.or previous) rest
      ⟨cards ++ later.cards, orderIssue previous number ++ issues ++ later.issues⟩

/-- The audit of a listing. -/
def ofText (catalog : Catalog) (specials : Specials) (text : Text) : AuditReport :=
  ofLines catalog specials 1 none (Text.lines text)

end Audit

/-- Whether an audit found nothing to object to. -/
def AuditReport.isClean (report : AuditReport) : Bool :=
  report.issues.isEmpty

end ChanceDeck
