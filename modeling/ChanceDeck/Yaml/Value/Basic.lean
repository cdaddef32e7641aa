import ChanceDeck.Number.Binary64

/-!
# Values

What a document means. The entries of a mapping stand in the order in which they are written, and
no two of its keys are the same value; keys may be values of any kind.
-/

set_option autoImplicit false
set_option relaxedAutoImplicit false

namespace ChanceDeck.Yaml

/-- A number that may be infinite or no number at all. -/
inductive FloatValue where
  | finite (value : Binary64)
  | infinity (negative : Bool)
  | notANumber
  deriving DecidableEq, Repr

/-- A value of a document. -/
inductive Value where
  | null
  | boolean (value : Bool)
  | integer (value : Int)
  | float (value : FloatValue)
  | text (value : Text)
  | sequence (items : List Value)
  | mapping (entries : List (Value × Value))
  | tagged (tag : Text) (value : Value)
  deriving Repr, Inhabited

/-- Whether two floats are the same value: the two zeros are, and so is what is no number. -/
def FloatValue.same : FloatValue → FloatValue → Bool
  | .finite a, .finite b => a.sameValue b
  | a, b => a = b

namespace Value

mutual

/-- Whether two values are the same; the order of the entries of a mapping does not count. -/
def same : Value → Value → Bool
  | .null, .null => true
  | .boolean a, .boolean b => a = b
  | .integer a, .integer b => a = b
  | .float a, .float b => a.same b
  | .text a, .text b => a = b
  | .sequence a, .sequence b => sameItems a b
  | .mapping a, .mapping b => a.length = b.length && isWithin a b
  | .tagged s a, .tagged t b => s = t && same a b
  | _, _ => false

/-- Whether two lists have the same values. -/
def sameItems : List Value → List Value → Bool
  | [], [] => true
  | a :: as, b :: bs => same a b && sameItems as bs
  | _, _ => false

/-- Whether all entries of one list are among the entries of another. -/
def isWithin : List (Value × Value) → List (Value × Value) → Bool
  | [], _ => true
  | (key, value) :: rest, entries =>
    entries.any (fun entry ↦ same key entry.1 && same value entry.2) && isWithin rest entries

end

end Value

end ChanceDeck.Yaml
