import ChanceDeck.Text.Basic

/-!
# Explanations

What is told about a failure: what went wrong, and why if there is more to say. It is written on
one line with a colon between the two, or as a report of several lines.
-/

set_option autoImplicit false
set_option relaxedAutoImplicit false

namespace ChanceDeck

/-- What went wrong, and why if there is more to say. -/
structure Explanation where
  message : Text
  cause : Option Text
  deriving DecidableEq, Repr

namespace Explanation

/-- An explanation without a cause. -/
def plain (message : Text) : Explanation :=
  ⟨message, none⟩

/-- An explanation on one line. -/
def line (explanation : Explanation) : Text :=
  match explanation.cause with
  | none => explanation.message
  | some cause => explanation.message ++ ": ".toList ++ cause

/-- The lines of a report. -/
def report (explanation : Explanation) : List Text :=
  match explanation.cause with
  | none => ["Error: ".toList ++ explanation.message]
  | some cause =>
    ["Error: ".toList ++ explanation.message, [], "Caused by:".toList, "    ".toList ++ cause]

end Explanation

end ChanceDeck
