import ChanceDeck.Run.Log
import ChanceDeck.Run.LogPattern
import ChanceDeck.Text.Alphanumeric
import ChanceDeck.Text.Blank

/-!
# Log filters

A filter is a list of rules, written with commas between them. A rule is a level, or says how the
names of the parts of the program begin that it is about, perhaps with a span or the field that an
entry must have in brackets, and then a level after an equals sign; without one it lets everything
through. A value that the field must have is a number or a pattern. Of the rules about an entry the
most specific counts, and of equally specific ones the last. An entry is shown if its level is at
least as severe as that rule's.
-/

set_option autoImplicit false
set_option relaxedAutoImplicit false

namespace ChanceDeck

/-- A rule of a filter: how the origins of its entries begin, the field that they must have unless
it is empty, and its threshold. -/
structure LogRule where
  origin : Text
  field : Text
  threshold : LogLevel.Threshold
  deriving DecidableEq, Repr

namespace LogRule

/-- Whether a rule is about an entry; every entry has its message as a field. -/
def concerns (rule : LogRule) (entry : LogEntry) : Bool :=
  (Text.strip? rule.origin entry.origin).isSome &&
    (rule.field = [] || rule.field = "message".toList || entry.fields.any (·.1 = rule.field))

/-- Whether a rule is at least as specific as another: by the length of the origin, then by the
field. -/
def precedes (a b : LogRule) : Bool :=
  if a.origin.length = b.origin.length then !decide (a.field < b.field)
  else b.origin.length < a.origin.length

/-- A rule of which a part is read: the origin, whether only spans can keep the rule, and the
field. -/
structure Draft where
  origin : Text
  spansOnly : Bool
  field : Text

/-- Where the reader of a rule stands; `piece` is what it has read of the part at hand, last
character first. -/
inductive Stage where
  | start
  | name (piece : Text)
  | span (piece : Text)
  | field (piece : Text)
  | fieldEnd
  | spanEnd
  | level (piece : Text)

/-- Whether a name may begin with a character. -/
def beginsName (c : Char) : Bool :=
  Text.isAlphanumeric c || c = '-' || c = ':' || c = '_'

/-- The rule of a draft; there is none if only spans can keep it. -/
def finish (draft : Draft) (threshold : LogLevel.Threshold) : List LogRule :=
  if draft.spansOnly then [] else [⟨draft.origin, draft.field, threshold⟩]

/-- The rule when all characters that guide the reader are read and `rest` follows. -/
def atEnd (draft : Draft) (rest : Text) : Stage → Option (List LogRule)
  | .name piece =>
    let text := piece.reverse ++ rest
    match LogLevel.threshold? text with
    | some threshold => some (finish draft threshold)
    | none => some (finish { draft with origin := text } (some .trace))
  | .level piece =>
    let text := piece.reverse ++ rest
    if text = [] then some (finish draft (some .trace))
    else (LogLevel.threshold? text).map (finish draft)
  | .spanEnd => some (finish draft (some .trace))
  | _ => none

/-- The value that a field must have; a second equals sign ends it. -/
def value? (field : Text) : Option Text :=
  (field.splitOn '=')[1]?

/-- Draft and stage after one more character: `c` guides the reader, and `r` is what it keeps. -/
def next? (draft : Draft) (stage : Stage) (c r : Char) : Option (Draft × Stage) :=
  match stage with
  | .start =>
    if c = '[' then some (draft, .span [])
    else if beginsName c then some (draft, .name [r])
    else none
  | .name piece =>
    if c = '=' then some ({ draft with origin := piece.reverse }, .level [])
    else if c = '[' then some ({ draft with origin := piece.reverse }, .span [])
    else some (draft, .name (r :: piece))
  | .span piece =>
    if c = ']' then some ({ draft with spansOnly := true }, .spanEnd)
    else if c = '\x7b' then some ({ draft with spansOnly := piece ≠ [] }, .field [])
    else some (draft, .span (r :: piece))
  | .field piece =>
    if c = '\x7d' then
      let field := piece.reverse
      if field = [] || !(value? field).all LogPattern.isValue then none
      else
        let spansOnly := draft.spansOnly || (value? field).isSome
        some ({ draft with spansOnly := spansOnly, field := field }, .fieldEnd)
    else some (draft, .field (r :: piece))
  | .fieldEnd => if c = ']' then some (draft, .spanEnd) else none
  | .spanEnd => if c = '=' then some (draft, .level []) else none
  | .level piece => some (draft, .level (r :: piece))

/-- Reads on. The reader is guided by the characters of the rule without the blanks at its ends,
but what it keeps is taken from the rule as it is written. -/
def scan (draft : Draft) (stage : Stage) : Text → Text → Option (List LogRule)
  | c :: guide, r :: written => do
    let (draft, stage) ← next? draft stage c r
    scan draft stage guide written
  | _, written => atEnd draft written stage

/-- The rule that a text spells; none inside if only spans can keep it, and none if it is no
rule. -/
def ofText? (text : Text) : Option (List LogRule) :=
  scan ⟨[], false, []⟩ .start (Text.trim text) text

end LogRule

/-- The rules by which entries are shown. -/
structure LogFilter where
  rules : List LogRule
  deriving DecidableEq, Repr

namespace LogFilter

/-- Shows what is at least as severe as a level. -/
def ofLevel (level : LogLevel) : LogFilter :=
  ⟨[⟨[], [], some level⟩]⟩

/-- The filter that a text spells; empty rules say nothing. -/
def ofText? (text : Text) : Option LogFilter :=
  (((text.splitOn ',').filter (· ≠ [])).mapM LogRule.ofText?).map fun rules ↦ ⟨rules.flatten⟩

/-- The most specific rule about an entry, the last of equally specific ones. -/
def rule? (filter : LogFilter) (entry : LogEntry) : Option LogRule :=
  (filter.rules.reverse.mergeSort LogRule.precedes).find? (·.concerns entry)

/-- Whether an entry is shown. -/
def shows (filter : LogFilter) (entry : LogEntry) : Bool :=
  ((filter.rule? entry).bind LogRule.threshold).any fun level ↦ entry.level.rank ≤ level.rank

end LogFilter

end ChanceDeck
