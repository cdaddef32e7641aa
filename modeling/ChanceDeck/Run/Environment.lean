import ChanceDeck.Run.LogFilter
import ChanceDeck.Text.Alphanumeric
import ChanceDeck.Text.Blank
import ChanceDeck.Text.Utf8

/-!
# Local environment

A file can set variables, of which the log filter is used. An assignment is
a name, an equals sign and a value, perhaps after the word `export`; a number sign begins a comment.
A value may be quoted, in part or as a whole, and may refer to variables set before it. An
assignment takes one line, or several if a quotation goes on over line ends. The first that cannot
be read ends the reading, and the first value of a variable counts.
-/

set_option autoImplicit false
set_option relaxedAutoImplicit false

namespace ChanceDeck.Environment

/-- The name of the file. -/
def file : Text :=
  ".env.local".toList

/-- The variable that holds the log filter. -/
def logVariable : Text :=
  "RUST_LOG".toList

/-- The text that can be read: everything, or the whole lines before the first bytes that are no
text. A byte order mark at its start is passed over. -/
def readable (bytes : Bytes) : Text :=
  let (text, left) := Utf8.decodeValid bytes
  let whole := if left = [] then text else (text.reverse.dropWhile (· ≠ '\n')).reverse
  match whole with
  | '\uFEFF' :: rest => rest
  | whole => whole

/-- Where the search for the end of an assignment stands. -/
inductive Scan where
  | plain
  | blank
  | escape
  | single
  | singleEscape
  | double
  | doubleEscape
  | comment
  deriving DecidableEq, Repr

/-- Where the search stands after one more character. -/
def Scan.next : Scan → Char → Scan
  | .comment, _ => .comment
  | .escape, _ => .plain
  | .single, c => if c = '\\' then .singleEscape else if c = '\x27' then .plain else .single
  | .singleEscape, _ => .single
  | .double, c => if c = '\\' then .doubleEscape else if c = '\x22' then .plain else .double
  | .doubleEscape, _ => .double
  | scan, c =>
    if c = '#' ∧ scan = .blank then .comment
    else if c = '\\' then .escape
    else if c = '\x22' then .double
    else if c = '\x27' then .single
    else if scan = .plain ∧ c ≠ '\r' ∧ Text.isBlank c then .blank
    else .plain

/-- Whether a line end is the end of an assignment. -/
def Scan.endsAtLine (scan : Scan) : Bool :=
  scan = .plain || scan = .blank || scan = .escape || scan = .comment

/-- The assignments of a text; `found` holds what is read of the one at hand, last first. The last
is missing if it does not come to an end. -/
def assignments (scan : Scan) (found : Text) : Text → List (Option Text)
  | [] =>
    if found = [] then []
    else if scan = .plain ∨ scan = .comment then [some found.reverse] else [none]
  | c :: rest =>
    if c = '\n' ∧ scan.endsAtLine then some found.reverse :: assignments .plain [] rest
    else
      let next := if c = '#' ∧ found.all Text.isBlank then .comment else scan.next c
      assignments next (if next = .comment then found else c :: found) rest

/-- Variables that are set, with their values. -/
abbrev Variables := List (Text × Text)

/-- The value of a variable; one that is not set has none. -/
def value (known : Variables) (name : Text) : Text :=
  ((known.find? (·.1 = name)).map Prod.snd).getD []

/-- Where the reader of a value stands. Outside single quotation marks `quoted` tells whether it is
inside double ones, and `name` is what it has read of a reference, last character first. -/
inductive Stage where
  | plain (quoted : Bool)
  | escape (quoted : Bool)
  | reference (quoted : Bool) (name : Text)
  | braced (quoted : Bool) (name : Text)
  | single
  | ended

/-- The character that one after a backslash stands for. -/
def escaped? (c : Char) : Option Char :=
  if c = 'n' then some '\n'
  else if c = '\\' || c = '\x27' || c = '\x22' || c = '$' || c = ' ' then some c
  else none

/-- The rest of a value from a stage on. A dollar sign and a name after it, or a name in braces,
stand for the value of a variable. Whatever ends a name stands for itself unless it begins another
reference, a quotation mark too. -/
def valueFrom (known : Variables) : Stage → Text → Option Text
  | .plain quoted, [] => if quoted then none else some []
  | .escape quoted, [] => if quoted then none else some []
  | .reference quoted name, [] => if quoted then none else some (value known name.reverse)
  | .braced _ _, [] => none
  | .single, [] => none
  | .ended, [] => some []
  | .ended, c :: rest =>
    if c = '#' then some []
    else if c = ' ' || c = '\t' then valueFrom known .ended rest
    else none
  | .single, c :: rest =>
    if c = '\x27' then valueFrom known (.plain false) rest
    else (valueFrom known .single rest).map (c :: ·)
  | .escape quoted, c :: rest => do
    let meant ← escaped? c
    let later ← valueFrom known (.plain quoted) rest
    return meant :: later
  | .reference quoted name, c :: rest =>
    if Text.isAlphanumeric c then valueFrom known (.reference quoted (c :: name)) rest
    else if c = '\x7b' && name.isEmpty then valueFrom known (.braced quoted []) rest
    else if c = '$' then
      (valueFrom known (.reference quoted []) rest).map (value known name.reverse ++ ·)
    else
      (valueFrom known (.plain quoted) rest).map (value known name.reverse ++ c :: ·)
  | .braced quoted name, c :: rest =>
    if c = '\x7d' then
      (valueFrom known (.plain quoted) rest).map (value known name.reverse ++ ·)
    else valueFrom known (.braced quoted (c :: name)) rest
  | .plain quoted, c :: rest =>
    if c = '$' then valueFrom known (.reference quoted []) rest
    else if c = '\\' then valueFrom known (.escape quoted) rest
    else if c = '\x22' then valueFrom known (.plain !quoted) rest
    else if quoted then (valueFrom known (.plain true) rest).map (c :: ·)
    else if c = '\x27' then valueFrom known .single rest
    else if c = ' ' || c = '\t' then valueFrom known .ended rest
    else (valueFrom known (.plain false) rest).map (c :: ·)

/-- A character of a name. -/
def isNameChar (c : Char) : Bool :=
  c.isAlphanum || c = '_' || c = '.'

/-- A name and what follows it. -/
def name? (text : Text) : Option (Text × Text) :=
  if text.head?.any fun c ↦ c.isAlpha || c = '_' then
    some (text.takeWhile isNameChar, Text.trimStart (text.dropWhile isNameChar))
  else none

/-- The value after an equals sign. -/
def assigned? (known : Variables) (text : Text) : Option Text :=
  match text with
  | '=' :: rest =>
    let value := Text.trimStart rest
    if value.head? = some '#' then some [] else valueFrom known (.plain false) value
  | _ => none

/-- What an assignment sets; none inside for one that sets nothing, and none for one that cannot be
read. -/
def assignment? (known : Variables) (raw : Text) : Option (Option (Text × Text)) :=
  let text := Text.trim raw
  if text = [] ∨ text.head? = some '#' then some none
  else do
    let (name, rest) ← name? text
    if name = "export".toList ∧ rest.head? ≠ some '=' then
      let (name, rest) ← name? rest
      let value ← assigned? known rest
      return some (name, value)
    else
      let value ← assigned? known rest
      return some (name, value)

/-- The variables after assignments; one that is set keeps its value. -/
def run (known : Variables) : List (Option Text) → Variables
  | [] => known
  | none :: _ => known
  | some text :: rest =>
    match assignment? known text with
    | none => known
    | some none => run known rest
    | some (some (name, value)) =>
      if known.any (·.1 = name) then run known rest
      else run (known ++ [(name, value)]) rest

/-- The variables that the contents of the file set. -/
def ofBytes (bytes : Bytes) : Variables :=
  run [] (assignments .plain [] (readable bytes))

/-- What is shown unless the file says otherwise. -/
def defaultFilter : LogFilter :=
  .ofLevel .info

/-- The log filter that the contents of the file set. -/
def logFilter (contents : Option Bytes) : LogFilter :=
  let value := contents.bind fun bytes ↦
    ((ofBytes bytes).find? (·.1 = logVariable)).map Prod.snd
  (value.bind LogFilter.ofText?).getD defaultFilter

end ChanceDeck.Environment
