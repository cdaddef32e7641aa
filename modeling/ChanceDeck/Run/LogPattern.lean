import ChanceDeck.Text.Blank
import ChanceDeck.Text.Alphanumeric
import ChanceDeck.Text.Decimal

/-!
# Patterns of field values

A log rule may ask that a field has a value, written as a number or as a regular expression. A
regular expression is read one character at a time, with the next one in view; the reader keeps
the modes outside of the open groups, the number of open sets and the names of groups.

Patterns know no tables of characters. So classes of characters, word boundaries and matching
without regard to case are only for patterns that ask for ASCII by the flag `-u`, and those must
not match a part of a character: no dots and no complements. A repetition written in braces would
have to hold the brace that ends the field, so there is none.
-/

set_option autoImplicit false
set_option relaxedAutoImplicit false

namespace ChanceDeck.LogPattern

/-- How a part of a pattern is read: whether case counts for nothing, whether characters are those
of Unicode, and whether blanks and comments are left out. -/
structure Mode where
  ignoresCase : Bool
  unicode : Bool
  spaced : Bool
  deriving DecidableEq, Repr

/-- The mode in which a pattern begins. -/
def Mode.initial : Mode :=
  ⟨false, true, false⟩

/-- The mode after a flag is set or cleared; the flags on lines and greed change nothing here. -/
def Mode.update? (mode : Mode) (flag : Char) (on : Bool) : Option Mode :=
  if flag = 'i' then some { mode with ignoresCase := on }
  else if flag = 'u' then some { mode with unicode := on }
  else if flag = 'x' then some { mode with spaced := on }
  else if "msUR".toList.contains flag then some mode
  else none

/-- Whether the other case of characters would have to be looked up. -/
def Mode.folds (mode : Mode) : Bool :=
  mode.ignoresCase && mode.unicode

/-- Where a character or an escape stands: outside of sets, as an item of a set, or as the upper
end of a range. The lower end is none if it is a class. -/
inductive Position where
  | outside
  | item
  | bound (low : Option Char)
  deriving DecidableEq, Repr

/-- Where the reader of a pattern stands. Pieces and flags that it has read come last first. -/
inductive Stage where
  /-- outside of sets; whether there is something to repeat -/
  | outside (repeatable : Bool)
  /-- after a backslash -/
  | escape (position : Position)
  /-- in the number of a character, of a byte if it has two digits -/
  | number (position : Position) (isByte : Bool) (left value : Nat)
  /-- after an opening parenthesis -/
  | opened
  /-- after an opening parenthesis and a question mark -/
  | marked
  /-- before the angle bracket of a name -/
  | named
  | name (piece : Text)
  | flags (seen : Text) (mode : Mode)
  /-- after the bracket that opens a set -/
  | setStart
  /-- where a closing bracket stands for itself -/
  | setHead
  /-- after hyphens at the start of a set -/
  | setHyphens
  /-- between the items of a set -/
  | items
  /-- after an item that may begin a range -/
  | item (low : Option Char)
  /-- after the hyphen of a range -/
  | range (low : Option Char)
  /-- in the middle of an operator between sets -/
  | operator
  /-- in a comment, and where it is -/
  | comment (within : Stage)
  deriving DecidableEq, Repr

/-- Whether blanks and comments may stand at a stage. -/
def Stage.isSpaced : Stage → Bool
  | .escape _ | .marked | .named | .name _ | .flags _ _ | .operator | .comment _ => false
  | _ => true

/-- What is read of a pattern: the mode, the modes outside of the open groups from the innermost,
the number of open sets, the names of groups, and the stage. -/
structure State where
  mode : Mode
  outer : List Mode
  depth : Nat
  names : List Text
  stage : Stage
  deriving DecidableEq, Repr

/-- The stage after a character that stands for itself. -/
def literal? (mode : Mode) (position : Position) (c : Char) : Option Stage :=
  let inSet := mode.unicode || c.toNat < 128
  if mode.folds then none
  else match position with
    | .outside => some (.outside true)
    | .item => if inSet then some (.item (some c)) else none
    | .bound low => if inSet && low.any (· ≤ c) then some .items else none

/-- The stage after a class of characters, which no range ends with. -/
def charClass? : Position → Option Stage
  | .outside => some (.outside true)
  | .item => some (.item none)
  | .bound _ => none

/-- The stage after an anchor, which sets do not hold. -/
def anchor? : Position → Option Stage
  | .outside => some (.outside true)
  | _ => none

/-- The control character that a letter after a backslash stands for. -/
def control? (c : Char) : Option Char :=
  [('a', '\x07'), ('t', '\t'), ('n', '\n'), ('v', '\x0b'), ('f', '\x0c'), ('r', '\r')].lookup c

/-- The stage after a backslash and a character. -/
def escape? (mode : Mode) (position : Position) (c : Char) : Option Stage :=
  if c = 'x' then some (.number position true 2 0)
  else if c = 'u' then some (.number position false 4 0)
  else if c = 'U' then some (.number position false 8 0)
  else if "dsw".toList.contains c then if mode.unicode then none else charClass? position
  else if "bB<>".toList.contains c then if mode.unicode then none else anchor? position
  else if c = 'A' || c = 'z' then anchor? position
  else match control? c with
    | some control => literal? mode position control
    | none => if c.toNat < 128 && !c.isAlphanum then literal? mode position c else none

/-- The stage after a digit of the number of a character. -/
def number? (mode : Mode) (position : Position) (isByte : Bool) (left value : Nat) (c : Char) :
    Option Stage := do
  let value := 16 * value + (← Decimal.digit? 16 c)
  if 1 < left then some (.number position isByte (left - 1) value)
  else if !value.isValidChar || (isByte && !mode.unicode && 128 ≤ value) then none
  else literal? mode position (Char.ofNat value)

/-- The state inside a group that opens with a mode. -/
def State.enter (state : State) (mode : Mode) : State :=
  { state with mode := mode, outer := state.mode :: state.outer, stage := .outside false }

/-- The state after the innermost group, unless none is open. -/
def State.leave? (state : State) : Option State :=
  match state.outer with
  | [] => none
  | mode :: outer => some { state with mode := mode, outer := outer, stage := .outside true }

/-- Reads a character outside of sets. -/
def State.outside? (state : State) (repeatable : Bool) (c : Char) : Option State :=
  if c = '(' then some { state with stage := .opened }
  else if c = ')' then state.leave?
  else if c = '[' then some { state with depth := 1, stage := .setStart }
  else if c = '|' then some { state with stage := .outside false }
  else if "*+?".toList.contains c then
    if repeatable then some { state with stage := .outside true } else none
  else if c = '\x7b' then none
  else if c = '\\' then some { state with stage := .escape .outside }
  else if c = '^' || c = '$' then some { state with stage := .outside true }
  else if c = '.' then
    if state.mode.unicode then some { state with stage := .outside true } else none
  else (literal? state.mode .outside c).map fun stage ↦ { state with stage := stage }

/-- Reads one of the flags of a group or what ends them. A flag stands once, and something must
follow the hyphen; a parenthesis ends flags for the rest of the group around it. -/
def State.flag? (state : State) (seen : Text) (mode : Mode) (c : Char) : Option State :=
  if c = ')' then
    if seen = [] || seen.head? = some '-' then none
    else some { state with mode := mode, stage := .outside false }
  else if c = ':' then if seen.head? = some '-' then none else some (state.enter mode)
  else if seen.contains c then none
  else if c = '-' then some { state with stage := .flags (c :: seen) mode }
  else (mode.update? c (!seen.contains '-')).map fun mode ↦
    { state with stage := .flags (c :: seen) mode }

/-- Whether a character may stand in the name of a group, perhaps as its first. -/
def isOfName (isFirst : Bool) (c : Char) : Bool :=
  c = '_' || if isFirst then Text.isAlphanumeric c && !c.isDigit
    else Text.isAlphanumeric c || c = '.' || c = '[' || c = ']'

/-- Reads a character of the name of a group; names differ. -/
def State.name? (state : State) (piece : Text) (c : Char) : Option State :=
  if c = '>' then
    if piece = [] || state.names.contains piece then none
    else some ({ state with names := piece :: state.names }.enter state.mode)
  else if isOfName (piece = []) c then some { state with stage := .name (c :: piece) }
  else none

/-- The names of classes of ASCII characters. -/
def classNames : List Text :=
  ["alnum".toList, "alpha".toList, "ascii".toList, "blank".toList, "cntrl".toList, "digit".toList,
    "graph".toList, "lower".toList, "print".toList, "punct".toList, "space".toList,
    "upper".toList, "word".toList, "xdigit".toList]

/-- Whether a text goes on with the complement of a class of ASCII characters, after its opening
bracket. A class that is no complement may be taken for the set of the characters of its name. -/
def isComplement (text : Text) : Bool :=
  classNames.any fun name ↦ (Text.strip? (":^".toList ++ name ++ ":]".toList) text).isSome

/-- Reads the first character of an item of a set, the start of a set within it, an operator, or
the end of the set. -/
def State.item? (state : State) (c : Char) (rest : Text) : Option State :=
  if c = '[' then
    if !state.mode.unicode && isComplement rest then none
    else some { state with depth := state.depth + 1, stage := .setStart }
  else if c = ']' then
    let stage := if state.depth = 1 then Stage.outside true else .items
    some { state with depth := state.depth - 1, stage := stage }
  else if "&-~".toList.contains c && rest.head? = some c then some { state with stage := .operator }
  else if c = '\\' then some { state with stage := .escape .item }
  else (literal? state.mode .item c).map fun stage ↦ { state with stage := stage }

/-- Reads a character at the head of a set, where brackets that close stand for themselves. -/
def State.head? (state : State) (c : Char) (rest : Text) : Option State :=
  if c = ']' || c = '-' then
    let stage := if c = '-' then Stage.setHyphens else .items
    (literal? state.mode .item c).map fun _ ↦ { state with stage := stage }
  else state.item? c rest

/-- Whether a hyphen after an item, before the rest of the pattern, begins a range. -/
def beginsRange (mode : Mode) (rest : Text) : Bool :=
  let next := if mode.spaced then (Text.trimStart rest).head? else rest.head?
  next ≠ some ']' && next ≠ some '-'

/-- The state after a character that is no layout, with the rest of the pattern in view. -/
def State.read? (state : State) (c : Char) (rest : Text) : Option State :=
  let withStage (stage : Stage) : State := { state with stage := stage }
  match state.stage with
  | .outside repeatable => state.outside? repeatable c
  | .escape position => (escape? state.mode position c).map withStage
  | .number position isByte left value =>
    (number? state.mode position isByte left value c).map withStage
  | .opened =>
    if c = '?' then some (withStage .marked) else (state.enter state.mode).outside? false c
  | .marked =>
    if c = 'P' && rest.head? = some '<' then some (withStage .named)
    else if c = '<' then some (withStage (.name []))
    else state.flag? [] state.mode c
  | .named => some (withStage (.name []))
  | .name piece => state.name? piece c
  | .flags seen mode => state.flag? seen mode c
  | .setStart =>
    if c = '^' then if state.mode.unicode then some (withStage .setHead) else none
    else state.head? c rest
  | .setHead => state.head? c rest
  | .setHyphens => if c = '-' then some state else state.item? c rest
  | .items => state.item? c rest
  | .item low =>
    if c = '-' && beginsRange state.mode rest then some (withStage (.range low))
    else state.item? c rest
  | .range low =>
    if c = '\\' then some (withStage (.escape (.bound low)))
    else (literal? state.mode (.bound low) c).map withStage
  | .operator => some (withStage .items)
  | .comment within => some (if c = '\n' then withStage within else state)

/-- The state after any character, with the rest of the pattern in view. -/
def State.next? (state : State) (c : Char) (rest : Text) : Option State :=
  let spaced := state.mode.spaced && state.stage.isSpaced
  if spaced && Text.isBlank c then some state
  else if spaced && c = '#' then some { state with stage := .comment state.stage }
  else state.read? c rest

/-- Reads a pattern to its end. -/
def scan? (state : State) : Text → Option State
  | [] => some state
  | c :: rest => do scan? (← state.next? c rest) rest

/-- Whether a pattern may end: all groups and sets are closed, and nothing is begun. -/
def State.isFinal (state : State) : Bool :=
  state.outer = [] && match state.stage with
    | .outside _ | .comment (.outside _) => true
    | _ => false

/-- Whether a text is a pattern. -/
def isPattern (text : Text) : Bool :=
  (scan? ⟨.initial, [], 0, [], .outside false⟩ text).any State.isFinal

/-- A text without a sign before it. -/
def unsigned : Text → Text
  | '+' :: text | '-' :: text => text
  | text => text

/-- Whether a text is that of an exponent, or empty. -/
def isExponent : Text → Bool
  | [] => true
  | e :: text =>
    let digits := unsigned text
    (e = 'e' || e = 'E') && digits ≠ [] && digits.all Char.isDigit

/-- Whether a text is a number: infinite, no number, or digits with perhaps a point and an
exponent. -/
def isNumber (text : Text) : Bool :=
  let text := unsigned text
  let whole := text.takeWhile Char.isDigit
  let rest := text.dropWhile Char.isDigit
  ["inf", "infinity", "nan"].any (·.toList = text.map Char.toLower) ||
    match rest with
    | '.' :: rest =>
      (whole ≠ [] || rest.takeWhile Char.isDigit ≠ []) && isExponent (rest.dropWhile Char.isDigit)
    | _ => whole ≠ [] && isExponent rest

/-- Whether a text may stand for the value of a field. -/
def isValue (text : Text) : Bool :=
  isNumber text || isPattern text

end ChanceDeck.LogPattern
