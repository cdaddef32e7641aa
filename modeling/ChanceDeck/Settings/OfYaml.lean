import ChanceDeck.Settings.Document
import ChanceDeck.Text.Decimal
import ChanceDeck.Number.Shortest
import ChanceDeck.Yaml.Value.Basic

/-!
# Documents from values

A document keeps what a value says as far as it can. Numbers that are not finite become null,
and a tagged value becomes an object with the tag as its key. Keys become texts, of equal ones
the last counting; null, lists, objects, tagged values and infinite numbers cannot be keys.
-/

set_option autoImplicit false
set_option relaxedAutoImplicit false

namespace ChanceDeck.Document

/-- Why a value cannot be a key. -/
inductive KeyError where
  | notText
  | notFinite
  deriving DecidableEq, Repr

/-- The wording of a key error. -/
def KeyError.message : KeyError → Text
  | .notText => "key must be a string".toList
  | .notFinite => "float key must be finite (got NaN or +/-inf)".toList

/-- The text of a key. -/
def keyText : Yaml.Value → Except KeyError Text
  | .boolean true => .ok "true".toList
  | .boolean false => .ok "false".toList
  | .integer value => .ok (Decimal.integer value)
  | .float (.finite value) => .ok value.text
  | .float _ => .error .notFinite
  | .text value => .ok value
  | _ => .error .notText

/-- A tag as a key: its name after an exclamation mark. -/
def tagKey (tag : Text) : Text :=
  '!' :: tag

mutual

/-- The document of a value. -/
def ofValue : Yaml.Value → Except KeyError Document
  | .null => .ok .null
  | .boolean value => .ok (.boolean value)
  | .integer value => .ok (.integer value)
  | .float (.finite value) => .ok (.float value)
  | .float _ => .ok .null
  | .text value => .ok (.text value)
  | .sequence items => (ofItems items).map .list
  | .mapping entries => (ofEntries entries []).map .object
  | .tagged tag value => (ofValue value).map fun document ↦ .object [(tagKey tag, document)]

/-- The documents of values. -/
def ofItems : List Yaml.Value → Except KeyError (List Document)
  | [] => .ok []
  | item :: rest => do
    let document ← ofValue item
    let documents ← ofItems rest
    return document :: documents

/-- Entries with the entries of a mapping put among them. -/
def ofEntries : List (Yaml.Value × Yaml.Value) → List (Text × Document) →
    Except KeyError (List (Text × Document))
  | [], found => .ok found
  | (key, value) :: rest, found => do
    let text ← keyText key
    let document ← ofValue value
    ofEntries rest (put text document found)

end

end ChanceDeck.Document
