import ChanceDeck.Text.Decimal
import ChanceDeck.Text.Utf8
import ChanceDeck.Yaml.Cursor
import ChanceDeck.Yaml.Token

/-!
# Tags, anchors and directives

The tokens that name things: anchors and aliases, tags, and the directives that give the version
of the language and the meaning of tag handles. What a tag or a handle stands for is a sequence of
bytes, since escapes can spell bytes that are no text; a zero byte ends it.
-/

set_option autoImplicit false
set_option relaxedAutoImplicit false

namespace ChanceDeck.Yaml

namespace Tag

/-- A character of a tag; commas and brackets only where they cannot be indicators. -/
def isTagChar (wide : Bool) (c : Char) : Bool :=
  isWord c || ";/?:@&=+$.%!~*\x27()".toList.contains c || (wide && ",[]".toList.contains c)

/-- The number of bytes that a byte announces when it begins a character, itself included. -/
def width? (b : UInt8) : Option Nat :=
  if b < 0x80 then some 1
  else if 0xC0 ≤ b && b < 0xE0 then some 2
  else if 0xE0 ≤ b && b < 0xF0 then some 3
  else if 0xF0 ≤ b && b < 0xF8 then some 4
  else none

/-- The bytes that a run of tag characters stands for: a percent sign and two hexadecimal digits
give one byte, and any other character gives its own. A byte that announces others must have
`pending` of them after it, which is all that is asked of escaped bytes. -/
def bytes? (pending : Nat) : Text → Option Bytes
  | [] => if pending = 0 then some [] else none
  | '%' :: a :: b :: rest => do
    let byte := UInt8.ofNat (← Decimal.magnitude? 16 255 [a, b])
    if pending = 0 then
      let width ← width? byte
      let later ← bytes? (width - 1) rest
      return byte :: later
    else if Utf8.isTail byte then
      let later ← bytes? (pending - 1) rest
      return byte :: later
    else none
  | '%' :: _ => none
  | c :: rest =>
    if pending = 0 then (bytes? 0 rest).map (Utf8.encode [c] ++ ·) else none

/-- The bytes before the first that is zero. -/
def untilZero (bytes : Bytes) : Bytes :=
  bytes.takeWhile (· ≠ 0)

/-- Reads a run of tag characters, which may be empty only if something stands before it. -/
def run? (wide mayBeEmpty : Bool) (cursor : Cursor) : Option (Bytes × Cursor) := do
  let (run, after) := cursor.span (isTagChar wide)
  if run = [] ∧ !mayBeEmpty then none
  let bytes ← bytes? 0 run
  return (untilZero bytes, after)

/-- Reads a handle: an exclamation mark, perhaps a name, and perhaps a second mark. -/
def handle? (cursor : Cursor) : Option (Text × Cursor) :=
  match cursor.rest with
  | '!' :: _ =>
    let (name, after) := (cursor.drop 1).span isWord
    if after.rest.head? = some '!' then some ('!' :: name ++ ['!'], after.drop 1)
    else some ('!' :: name, after)
  | _ => none

/-- An exclamation mark. -/
def mark : Bytes :=
  [0x21]

/-- Whether a handle has a second exclamation mark. -/
def isFullHandle (handle : Text) : Bool :=
  1 < handle.length && handle.getLast? = some '!'

/-- Reads the handle and the rest of a tag. -/
def parts? (cursor : Cursor) : Option (Text × Bytes × Cursor) :=
  if cursor.rest.take 2 = ['!', '<'] then do
    let (name, after) ← run? true false (cursor.drop 2)
    if after.rest.head? = some '>' then some ([], name, after.drop 1) else none
  else do
    let (handle, after) ← handle? cursor
    if isFullHandle handle then
      let (rest, after) ← run? false false after
      return (handle, rest, after)
    else
      let (rest, after) ← run? false true after
      let rest := Utf8.encode (handle.drop 1) ++ rest
      return if rest = [] then ([], mark, after) else (['!'], rest, after)

/-- Reads a tag; a gap must follow, or a comma inside brackets. -/
def read (inFlow : Bool) (cursor : Cursor) : Option (Token × Cursor) := do
  let (handle, rest, after) ← parts? cursor
  if atGap after.rest || (inFlow && after.rest.head? = some ',') then
    some (.tag handle rest, after)
  else none

end Tag

namespace Anchor

/-- Whether the name of an anchor may end where a text begins. -/
def endsAt : Text → Bool
  | [] => true
  | c :: rest => atGap (c :: rest) || "?:,]\x7d%@`".toList.contains c

/-- Reads the name of an anchor or of an alias after its indicator. -/
def name? (cursor : Cursor) : Option (Text × Cursor) :=
  let (name, after) := (cursor.drop 1).span isWord
  if name ≠ [] ∧ endsAt after.rest then some (name, after) else none

end Anchor

namespace Directive

/-- Reads a version number of at most nine digits. -/
def number? (cursor : Cursor) : Option (Nat × Cursor) := do
  let (digits, after) := cursor.span Char.isDigit
  let number ← Decimal.magnitude? 10 999999999 digits
  if 9 < digits.length then none else some (number, after)

/-- Reads the two numbers of a version. -/
def version? (cursor : Cursor) : Option (Token × Cursor) := do
  let (major, after) ← number? cursor.dropBlanks
  if after.rest.head? ≠ some '.' then none
  let (minor, after) ← number? (after.drop 1)
  return (.versionDirective major minor, after)

/-- Reads a handle and what it stands for. -/
def tag? (cursor : Cursor) : Option (Token × Cursor) := do
  let (handle, after) ← Tag.handle? cursor.dropBlanks
  if handle ≠ ['!'] ∧ !Tag.isFullHandle handle then none
  if !after.rest.head?.any isBlank then none
  let (expansion, after) ← Tag.run? true false after.dropBlanks
  if atGap after.rest then some (.tagDirective handle expansion, after) else none

/-- Reads a directive and the end of its line. -/
def read (cursor : Cursor) : Option (Token × Cursor) := do
  let (name, after) := (cursor.drop 1).span isWord
  if !atGap after.rest then none
  let (token, after) ←
    if name = "YAML".toList then version? after
    else if name = "TAG".toList then tag? after
    else none
  let after ← after.endLine?
  return (token, after)

end Directive

end ChanceDeck.Yaml
