import ChanceDeck.Number.Shortest
import ChanceDeck.Settings.Document
import ChanceDeck.Text.Hexadecimal

/-!
# Written documents

The canonical form of a document has no blanks, so that documents with equal entries in equal
order have one form. The indented form puts each value on a line of its own.
-/

set_option autoImplicit false
set_option relaxedAutoImplicit false

namespace ChanceDeck.Document

/-- A character as it stands in a written text. -/
def spelling (c : Char) : Text :=
  match c with
  | '\x22' => ['\\', '\x22']
  | '\\' => ['\\', '\\']
  | '\x08' => ['\\', 'b']
  | '\t' => ['\\', 't']
  | '\n' => ['\\', 'n']
  | '\x0C' => ['\\', 'f']
  | '\r' => ['\\', 'r']
  | c =>
    if c.toNat < 0x20 then '\\' :: 'u' :: Hexadecimal.padded 4 (Hexadecimal.lower c.toNat)
    else [c]

/-- A text in quotation marks. -/
def quoted (text : Text) : Text :=
  '\x22' :: text.flatMap spelling ++ ['\x22']

/-- A value that is neither a list nor an object. -/
def scalar : Document → Text
  | .boolean true => "true".toList
  | .boolean false => "false".toList
  | .integer value => Decimal.integer value
  | .float value => value.text
  | .text value => quoted value
  | _ => "null".toList

mutual

/-- The canonical form of a document. -/
def canonical : Document → Text
  | .list items => '[' :: canonicalItems items ++ [']']
  | .object entries => '\x7b' :: canonicalEntries entries ++ ['\x7d']
  | document => scalar document

/-- The canonical forms of items, separated by commas. -/
def canonicalItems : List Document → Text
  | [] => []
  | [item] => canonical item
  | item :: rest => canonical item ++ ',' :: canonicalItems rest

/-- The canonical forms of entries, separated by commas. -/
def canonicalEntries : List (Text × Document) → Text
  | [] => []
  | [(key, value)] => quoted key ++ ':' :: canonical value
  | (key, value) :: rest => quoted key ++ ':' :: canonical value ++ ',' :: canonicalEntries rest

end

/-- A new line with two spaces for each level. -/
def newLine (level : Nat) : Text :=
  '\n' :: List.replicate (2 * level) ' '

mutual

/-- The indented form of a document that stands at a level. -/
def indented (level : Nat) : Document → Text
  | .list (item :: rest) =>
    '[' :: newLine (level + 1) ++ indented (level + 1) item ++ indentedItems (level + 1) rest ++
      newLine level ++ [']']
  | .object ((key, value) :: rest) =>
    '\x7b' :: newLine (level + 1) ++ quoted key ++ ": ".toList ++ indented (level + 1) value ++
      indentedEntries (level + 1) rest ++ newLine level ++ ['\x7d']
  | .list [] => "[]".toList
  | .object [] => "\x7b\x7d".toList
  | document => scalar document

/-- The indented forms of items after the first. -/
def indentedItems (level : Nat) : List Document → Text
  | [] => []
  | item :: rest => ',' :: newLine level ++ indented level item ++ indentedItems level rest

/-- The indented forms of entries after the first. -/
def indentedEntries (level : Nat) : List (Text × Document) → Text
  | [] => []
  | (key, value) :: rest =>
    ',' :: newLine level ++ quoted key ++ ": ".toList ++ indented level value ++
      indentedEntries level rest

end

end ChanceDeck.Document
