import ChanceDeck.Listing.Audit
import ChanceDeck.Run.Step

/-!
# Inspection

A run that reads a listing back and audits it: the cards are shown, the issues are reported, and
the run fails if there are any.
-/

set_option autoImplicit false
set_option relaxedAutoImplicit false

namespace ChanceDeck.Inspection

/-- The listing to inspect: the one given, or else the output of conversions. -/
def path (settings : Settings) : Option RawText → Except SettingsError RawText
  | some given => .ok given
  | none => settings.convert.map fun found ↦ .ofText found.output

/-- What is shown of a card. -/
def cardLine (card : AuditedCard) : Text :=
  Decimal.natural card.lineNumber ++ " Card ".toList ++ card.card ++ ": ".toList ++ card.decoded

/-- The entry on an issue. -/
def issueEntry (path : RawText) (issue : AuditIssue) : LogEntry :=
  ⟨.error, "ccd::commands::decode".toList, issue.message, [("path".toList, path.shown)]⟩

/-- What is told about an audit. -/
def summaryLine (report : AuditReport) : Text :=
  "audit records=".toList ++ Decimal.natural report.cards.length ++ " issues=".toList ++
    Decimal.natural report.issues.length

/-- Fails if there are issues. -/
def verdict (path : RawText) (report : AuditReport) : Except RunError Unit :=
  if report.isClean then .ok () else .error (.failedAudit path report.issues.length)

variable {m : Type → Type} [Monad m] [Host m]

/-- Inspects a listing. -/
def run (filter : LogFilter) (settings : Settings) (input : Option RawText) :
    Step m Unit := do
  let path ← Step.require .badSettings (path settings input)
  let text ← Step.readText .listing path
  let report := Audit.ofText .standard .standard text
  Step.print (report.cards.map cardLine)
  Step.log filter (report.issues.map (issueEntry path))
  Step.print [summaryLine report]
  Step.require id (verdict path report)

end ChanceDeck.Inspection
