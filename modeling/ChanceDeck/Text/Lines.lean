import ChanceDeck.Text.Basic

/-!
# Lines

A line ends at a line feed, and a carriage return right before the line feed belongs to the
ending. A text that ends in a line feed has no further empty line after it.
-/

set_option autoImplicit false
set_option relaxedAutoImplicit false

namespace ChanceDeck.Text

/-- The lines of a text, without their endings. -/
def lines : Text → List Text
  | [] => []
  | '\r' :: '\n' :: rest => [] :: lines rest
  | '\n' :: rest => [] :: lines rest
  | c :: rest =>
    match lines rest with
    | [] => [[c]]
    | line :: others => (c :: line) :: others

/-- Lines written one after another, each with a line feed after it. -/
def unlines (lines : List Text) : Text :=
  lines.flatMap (· ++ ['\n'])

end ChanceDeck.Text
