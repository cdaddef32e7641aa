import ChanceDeck.Yaml.Cursor

/-!
# Gaps inside scalars

Blanks and line ends between two words of a scalar. Blanks within one line stand for themselves.
A single line end stands for a space, and of several the first stands for nothing.
-/

set_option autoImplicit false
set_option relaxedAutoImplicit false

namespace ChanceDeck.Yaml

/-- What has been read since the last word: nothing, blanks (last first), or a line end with the
line ends after it (last first); the first is missing if it was escaped. -/
inductive Gap where
  | closed
  | blanks (spaces : Text)
  | broken (first : Option Char) (later : Text)
  deriving DecidableEq, Repr

namespace Gap

/-- Adds a blank; blanks after a line end are dropped. -/
def blank (gap : Gap) (c : Char) : Gap :=
  match gap with
  | closed => blanks [c]
  | blanks spaces => blanks (c :: spaces)
  | broken first later => broken first later

/-- Adds a line end; blanks before it are dropped. -/
def lineEnd (gap : Gap) (c : Char) : Gap :=
  match gap with
  | closed => broken (some (breakText c)) []
  | blanks _ => broken (some (breakText c)) []
  | broken first later => broken first (breakText c :: later)

/-- Whether nothing has been read. -/
def isClosed : Gap → Bool
  | closed => true
  | _ => false

/-- Whether a line end has been read. -/
def isBroken : Gap → Bool
  | broken _ _ => true
  | _ => false

/-- What a gap stands for. -/
def text : Gap → Text
  | closed => []
  | blanks spaces => spaces.reverse
  | broken (some '\n') [] => [' ']
  | broken (some '\n') later => later.reverse
  | broken first later => first.toList ++ later.reverse

end Gap

end ChanceDeck.Yaml
