import ChanceDeck.Yaml.Layout

/-!
# Nodes

The tree of a document before its scalars get their meaning. Anchors are numbered: an anchor gets
the number of different names that were anchored before it, and an alias the number of the latest
anchor of its name. So two anchors can have one number if a name is anchored again; an alias then
stands for the one that begins last.
-/

set_option autoImplicit false
set_option relaxedAutoImplicit false

namespace ChanceDeck.Yaml

/-- The number of a node's anchor, and the bytes of its tag in full. -/
structure Properties where
  anchor : Option Nat
  tag : Option Bytes
  deriving DecidableEq, Repr

/-- A part of a document. -/
inductive Node where
  | alias (anchor : Nat)
  | scalar (properties : Properties) (text : Text) (plain : Bool)
  | sequence (properties : Properties) (items : List Node)
  | mapping (properties : Properties) (entries : List (Node × Node))
  deriving Repr

namespace Node

/-- A node that is not written. -/
def missing : Node :=
  .scalar ⟨none, none⟩ [] true

mutual

/-- The number of scalars, of aliases, and of starts and ends of collections in a node. -/
def size : Node → Nat
  | .alias _ => 1
  | .scalar _ _ _ => 1
  | .sequence _ items => sizeOfItems items + 2
  | .mapping _ entries => sizeOfEntries entries + 2

/-- The size of items. -/
def sizeOfItems : List Node → Nat
  | [] => 0
  | item :: rest => size item + sizeOfItems rest

/-- The size of entries. -/
def sizeOfEntries : List (Node × Node) → Nat
  | [] => 0
  | (key, value) :: rest => size key + size value + sizeOfEntries rest

end

/-- A node with the number of its anchor, if it has one. -/
def numbered (properties : Properties) (node : Node) : List (Nat × Node) :=
  match properties.anchor with
  | none => []
  | some anchor => [(anchor, node)]

mutual

/-- The anchored nodes of a node in the order in which they begin. -/
def anchored : Node → List (Nat × Node)
  | .alias _ => []
  | .scalar properties text plain => numbered properties (.scalar properties text plain)
  | .sequence properties items =>
    numbered properties (.sequence properties items) ++ anchoredItems items
  | .mapping properties entries =>
    numbered properties (.mapping properties entries) ++ anchoredEntries entries

/-- The anchored nodes of items. -/
def anchoredItems : List Node → List (Nat × Node)
  | [] => []
  | item :: rest => anchored item ++ anchoredItems rest

/-- The anchored nodes of entries. -/
def anchoredEntries : List (Node × Node) → List (Nat × Node)
  | [] => []
  | (key, value) :: rest => anchored key ++ anchored value ++ anchoredEntries rest

end

end Node

end ChanceDeck.Yaml
