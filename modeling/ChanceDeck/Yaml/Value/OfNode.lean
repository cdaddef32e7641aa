import ChanceDeck.Yaml.Grammar
import ChanceDeck.Yaml.Value.Plain

/-!
# From nodes to values

Aliases are replaced by what they stand for, scalars get their meaning, and a tag of one's own is
kept with the value. Two equal keys in a mapping are refused, and so are collections that nest too
deeply and aliases that multiply too much.
-/

set_option autoImplicit false
set_option relaxedAutoImplicit false

namespace ChanceDeck.Yaml

namespace Value

/-- How deep collections may nest. -/
def maxDepth : Nat := 128

/-- How many aliases may be followed for each part of a document. -/
def aliasesPerPart : Nat := 100

/-- Whether a tag is one's own: it begins with an exclamation mark. -/
def isOwn (tag : Bytes) : Bool :=
  tag.head? = some 0x21

/-- The name of a tag of one's own, if its bytes are a text. Of two exclamation marks before a name
the second says nothing; marks alone are a name too. -/
def ownName? (tag : Bytes) : Option Text :=
  match tag with
  | 0x21 :: name =>
    (Utf8.decode? name).map fun
      | [] => ['!']
      | '!' :: c :: name => c :: name
      | name => name
  | _ => none

/-- A value under a tag of one's own; other tags, and one without a name, leave it as it is. -/
def underTag (tag : Option Bytes) (value : Value) : Value :=
  match tag.bind ownName? with
  | none => value
  | some name => .tagged name value

/-- The tag of a standard type. -/
def standardTag (name : String) : Bytes :=
  Utf8.encode ("tag:yaml.org,2002:".toList ++ name.toList)

/-- The meaning of a scalar without its tag. -/
def ofUntagged? (text : Text) (plain : Bool) : Option Value :=
  if plain then Plain.value? text else some (.text text)

/-- The meaning of a scalar. A standard tag asks for a value of its type. -/
def ofScalar? (tag : Option Bytes) (text : Text) (plain : Bool) : Option Value :=
  if tag.all isOwn then (ofUntagged? text plain).map (underTag tag)
  else if tag = some (standardTag "bool") then (Plain.boolean? text).map .boolean
  else if tag = some (standardTag "int") then (Plain.integerOf? 64 text).map .integer
  else if tag = some (standardTag "float") then (Plain.float? text).map .float
  else if tag = some (standardTag "null") then if Plain.isNull text then some .null else none
  else some (.text text)

/-- What turns a node into a value; it takes and gives back the number of aliases that may still
be followed. -/
abbrev Reader := Node → Nat → Option (Value × Nat)

/-- The values of items. -/
def readItems (read : Reader) : List Node → Nat → Option (List Value × Nat)
  | [], budget => some ([], budget)
  | item :: rest, budget => do
    let (value, budget) ← read item budget
    let (values, budget) ← readItems read rest budget
    return (value :: values, budget)

/-- The entries of a mapping after those in `found`. -/
def readEntries (read : Reader) (found : List (Value × Value)) :
    List (Node × Node) → Nat → Option (List (Value × Value) × Nat)
  | [], budget => some (found, budget)
  | (keyNode, valueNode) :: rest, budget => do
    let (key, budget) ← read keyNode budget
    if found.any (same key ·.1) then none
    let (value, budget) ← read valueNode budget
    readEntries read (found ++ [(key, value)]) rest budget

/-- The value of a node that is no alias; `read` reads the nodes inside it, if collections may
still nest. -/
def ofContent (read : Option Reader) : Reader := fun node budget ↦
  match node with
  | .alias _ => none
  | .scalar properties content plain =>
    (ofScalar? properties.tag content plain).map fun value ↦ (value, budget)
  | .sequence properties items => do
    let (values, budget) ← readItems (← read) items budget
    return (underTag properties.tag (.sequence values), budget)
  | .mapping properties entries => do
    let (values, budget) ← readEntries (← read) [] entries budget
    return (underTag properties.tag (.mapping values), budget)

/-- The value of a node in a document with anchors, the one that begins last coming first. -/
def read (anchored : List (Nat × Node)) : Nat → Reader := fun depth node budget ↦
  let inner : Option Reader :=
    match depth with
    | 0 => none
    | depth + 1 => some (read anchored depth)
  match node, budget with
  | .alias _, 0 => none
  | .alias anchor, budget + 1 => do
    let entry ← anchored.find? (·.1 = anchor)
    ofContent inner entry.2 budget
  | node, budget => ofContent inner node budget

/-- The value of a document. -/
def ofNode? (root : Node) : Option Value :=
  (read root.anchored.reverse maxDepth root (aliasesPerPart * root.size)).map Prod.fst

/-- The value of a text that holds one document, or null if it holds none. -/
def ofText? (text : Text) : Option Value :=
  (Node.ofText? text).bind ofNode?

end Value

end ChanceDeck.Yaml
