import ChanceDeck.Text.Basic

/-!
# Reading positions

A cursor is a place in a text together with the characters after it. Places count bytes and lines
from zero, and columns from zero in each line, a column being one character wide. A line ends at a
line feed, a carriage return, both together, a next-line character, or one of the two Unicode
separators; the separators stand for themselves and the others for a line feed.
-/

set_option autoImplicit false
set_option relaxedAutoImplicit false

namespace ChanceDeck.Yaml

/-- The characters that a document may contain. -/
def isAllowed (c : Char) : Bool :=
  let n := c.toNat
  n == 9 || n == 10 || n == 13 || (0x20 ≤ n && n ≤ 0x7E) || n == 0x85 ||
    (0xA0 ≤ n && n ≤ 0xFFFD) || 0x10000 ≤ n

/-- A space or a tabulator. -/
def isBlank (c : Char) : Bool :=
  c = ' ' || c = '\t'

/-- A character that ends a line. -/
def isBreak (c : Char) : Bool :=
  c = '\n' || c = '\r' || c = '\u0085' || c = '\u2028' || c = '\u2029'

/-- What a line end stands for. -/
def breakText (c : Char) : Char :=
  if c = '\u2028' ∨ c = '\u2029' then c else '\n'

/-- A character of names: an ASCII letter or digit, a hyphen or an underscore. -/
def isWord (c : Char) : Bool :=
  c.isAlphanum || c = '-' || c = '_'

/-- Whether a text is at its end or begins with a blank or a line end. -/
def atGap : Text → Bool
  | [] => true
  | c :: _ => isBlank c || isBreak c

/-- Whether a text begins with a mark of three hyphens or three points that stands alone. -/
def atDocumentMark : Text → Bool
  | a :: b :: c :: rest => (a = '-' || a = '.') && a = b && b = c && atGap rest
  | _ => false

/-- A place in a text. -/
structure Place where
  index : Nat
  line : Nat
  column : Nat
  deriving DecidableEq, Repr

/-- The place a number of ASCII characters further in the same line. -/
def Place.skip (place : Place) (count : Nat) : Place :=
  ⟨place.index + count, place.line, place.column + count⟩

/-- The place after a character that ends no line. -/
def Place.after (place : Place) (c : Char) : Place :=
  ⟨place.index + c.utf8Size, place.line, place.column + 1⟩

/-- The start of the next line, after a line end of so many bytes. -/
def Place.newLine (place : Place) (count : Nat) : Place :=
  ⟨place.index + count, place.line + 1, 0⟩

/-- A place in a text and the characters after it. -/
structure Cursor where
  place : Place
  rest : Text
  deriving DecidableEq, Repr

namespace Cursor

/-- The start of a text. -/
def start (text : Text) : Cursor :=
  ⟨⟨0, 0, 0⟩, text⟩

/-- Passes over a number of characters, none of which ends a line. -/
def drop (cursor : Cursor) (count : Nat) : Cursor :=
  ⟨(cursor.rest.take count).foldl Place.after cursor.place, cursor.rest.drop count⟩

/-- The longest run of characters of a class, and the cursor after it. No character of the class
ends a line. -/
def span (cursor : Cursor) (p : Char → Bool) : Text × Cursor :=
  let run := cursor.rest.takeWhile p
  (run, cursor.drop run.length)

/-- Passes over blanks. -/
def dropBlanks (cursor : Cursor) : Cursor :=
  (cursor.span isBlank).2

/-- Passes over the rest of a line that may hold blanks and a comment; other characters are
refused. The line end itself is passed over too. -/
def endLine? (cursor : Cursor) : Option Cursor :=
  let cursor := cursor.dropBlanks
  let cursor :=
    if cursor.rest.head? = some '#' then (cursor.span fun c ↦ !isBreak c).2 else cursor
  match cursor.rest with
  | [] => some cursor
  | '\r' :: '\n' :: rest => some ⟨cursor.place.newLine 2, rest⟩
  | c :: rest => if isBreak c then some ⟨cursor.place.newLine c.utf8Size, rest⟩ else none

end Cursor

end ChanceDeck.Yaml
