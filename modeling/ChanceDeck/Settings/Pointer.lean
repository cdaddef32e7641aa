import ChanceDeck.Settings.Document
import ChanceDeck.Text.Decimal

/-!
# Pointers into documents

A pointer names a place in a document by the keys and positions on the way to it, each after a
slash. A slash or a tilde inside a key is escaped, so that pointers to different places differ;
the document as a whole is written as a lone slash. `Path.ofPointer?` reads the keys back, and
`Document.follow?` goes the way that they tell.
-/

set_option autoImplicit false
set_option relaxedAutoImplicit false

namespace ChanceDeck

/-- The keys and positions on the way to a place in a document. -/
abbrev Path := List Text

namespace Path

/-- A character of a key as it stands in a pointer. -/
def escapeChar (c : Char) : Text :=
  if c = '~' then ['~', '0'] else if c = '/' then ['~', '1'] else [c]

/-- A key as it stands in a pointer. -/
def escape (key : Text) : Text :=
  key.flatMap escapeChar

/-- The pointer of a path. -/
def pointer (path : Path) : Text :=
  if path = [] then ['/'] else path.flatMap fun key ↦ '/' :: escape key

/-- A key from what stands for it in a pointer. -/
def unescape : Text → Text
  | '~' :: '0' :: rest => '~' :: unescape rest
  | '~' :: '1' :: rest => '/' :: unescape rest
  | c :: rest => c :: unescape rest
  | [] => []

/-- The path that a pointer spells. Nothing at all spells the way to the whole document. -/
def ofPointer? : Text → Option Path
  | [] => some []
  | '/' :: rest => some ((rest.splitOn '/').map unescape)
  | _ => none

end Path

/-- A pointer at or below another. -/
def Pointer.covers (above pointer : Text) : Bool :=
  match Text.strip? above pointer with
  | none => false
  | some [] => true
  | some (c :: _) => c = '/'

namespace Document

/-- The item whose position is spelled by a key, among items counted from a position on. -/
def item? (key : Text) (position : Nat) : List Document → Option Document
  | [] => none
  | item :: rest =>
    if key = Decimal.natural position then some item else item? key (position + 1) rest

/-- The value at the end of a path. -/
def follow? : Path → Document → Option Document
  | [], document => some document
  | key :: rest, .object entries => (get? key entries).bind (follow? rest)
  | key :: rest, .list items => (item? key 0 items).bind (follow? rest)
  | _ :: _, _ => none

/-- Whether a document sets nothing by itself: it is null, or a list or an object with nothing
in it. -/
def setsNothing : Document → Bool
  | .null => true
  | .list [] => true
  | .object [] => true
  | _ => false

mutual

/-- The leaves of a document with their paths: values that hold no others. -/
def leaves (path : Path) : Document → List (Path × Document)
  | .list (item :: rest) =>
    leaves (path ++ [Decimal.natural 0]) item ++ itemLeaves path 1 rest
  | .object ((key, value) :: rest) => leaves (path ++ [key]) value ++ entryLeaves path rest
  | document => [(path, document)]

/-- The leaves of items from a position on. -/
def itemLeaves (path : Path) (position : Nat) : List Document → List (Path × Document)
  | [] => []
  | item :: rest =>
    leaves (path ++ [Decimal.natural position]) item ++ itemLeaves path (position + 1) rest

/-- The leaves of entries. -/
def entryLeaves (path : Path) : List (Text × Document) → List (Path × Document)
  | [] => []
  | (key, value) :: rest => leaves (path ++ [key]) value ++ entryLeaves path rest

end

end Document

end ChanceDeck
