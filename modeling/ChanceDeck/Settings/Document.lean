import ChanceDeck.Number.Binary64

/-!
# Settings documents

A document is a tree of the values that settings can have. The entries of an object stand in the
order of their keys and no key occurs twice (`Document.Sorted`); `Document.put` keeps that order,
and `Document.get?` reads an entry back.
-/

set_option autoImplicit false
set_option relaxedAutoImplicit false

namespace ChanceDeck

/-- A value of a settings document. -/
inductive Document where
  | null
  | boolean (value : Bool)
  | integer (value : Int)
  | float (value : Binary64)
  | text (value : Text)
  | list (items : List Document)
  | object (entries : List (Text × Document))
  deriving Repr, Inhabited

namespace Document

/-- The document that sets nothing. -/
def empty : Document :=
  .object []

/-- Whether a document is null. -/
def isNull : Document → Bool
  | .null => true
  | _ => false

variable {α : Type}

/-- The value of a key. -/
def get? (key : Text) : List (Text × α) → Option α
  | [] => none
  | entry :: rest => if key = entry.1 then some entry.2 else get? key rest

/-- Sets the value of a key among entries in the order of their keys. -/
def put (key : Text) (value : α) : List (Text × α) → List (Text × α)
  | [] => [(key, value)]
  | entry :: rest =>
    if key < entry.1 then (key, value) :: entry :: rest
    else if key = entry.1 then (key, value) :: rest
    else entry :: put key value rest

/-- The value under a key, if the document is an object that has it. -/
def field? (key : Text) : Document → Option Document
  | .object entries => get? key entries
  | _ => none

/-- Whether entries stand in the order of their keys and no key occurs twice. -/
def KeysSorted (entries : List (Text × α)) : Prop :=
  entries.Pairwise fun a b ↦ a.1 < b.1

/-- Whether all objects of a document have their entries in order. -/
inductive Sorted : Document → Prop where
  | null : Sorted .null
  | boolean (value : Bool) : Sorted (.boolean value)
  | integer (value : Int) : Sorted (.integer value)
  | float (value : Binary64) : Sorted (.float value)
  | text (value : Text) : Sorted (.text value)
  | list {items : List Document} : (∀ item ∈ items, Sorted item) → Sorted (.list items)
  | object {entries : List (Text × Document)} : KeysSorted entries →
      (∀ entry ∈ entries, Sorted entry.2) → Sorted (.object entries)

@[simp] theorem get?_put_self (key : Text) (value : α) (entries : List (Text × α)) :
    get? key (put key value entries) = some value := by
  induction entries with
  | nil => simp [put, get?]
  | cons entry rest ih =>
    simp only [put]
    split
    · simp [get?]
    · split
      · simp [get?]
      · rename_i h
        simp [get?, h, ih]

theorem get?_put_of_ne {key other : Text} (h : other ≠ key) (value : α)
    (entries : List (Text × α)) :
    get? other (put key value entries) = get? other entries := by
  induction entries with
  | nil => simp [put, get?, h]
  | cons entry rest ih =>
    simp only [put]
    split
    · simp [get?, h]
    · split
      · rename_i he
        have hne : other ≠ entry.1 := he ▸ h
        simp [get?, h, hne]
      · simp only [get?, ih]

end Document

end ChanceDeck
