import ChanceDeck.Text.Blank

/-!
# Special cards

Cards whose effect no record can hold. The table maps the identifier of such a card to a note
for its remark; identifiers are compared without the blanks around them, and a later note for the
same card replaces an earlier one.
-/

set_option autoImplicit false
set_option relaxedAutoImplicit false

namespace ChanceDeck

/-- Notes by card identifier. -/
structure Specials where
  notes : List (Text × Text)
  deriving DecidableEq, Repr

namespace Specials

/-- No special cards. -/
def empty : Specials :=
  ⟨[]⟩

/-- Sets the note of a card. -/
def insert (specials : Specials) (card note : Text) : Specials :=
  ⟨(Text.trim card, note) :: specials.notes.filter (·.1 ≠ Text.trim card)⟩

/-- The note of a card. -/
def note? (specials : Specials) (card : Text) : Option Text :=
  (specials.notes.find? (·.1 = Text.trim card)).map Prod.snd

/-- The number of special cards. -/
def size (specials : Specials) : Nat :=
  specials.notes.length

/-- Card 36 pays a dividend besides. -/
def standard : Specials :=
  empty.insert "36".toList "special: also pays $2/share dividend".toList

@[simp] theorem note?_empty (card : Text) : empty.note? card = none :=
  rfl

theorem note?_insert_self (specials : Specials) {card other : Text} (note : Text)
    (h : Text.trim other = Text.trim card) :
    (specials.insert card note).note? other = some note := by
  simp [note?, insert, h]

theorem note?_insert_of_ne (specials : Specials) {card other : Text} (note : Text)
    (h : Text.trim other ≠ Text.trim card) :
    (specials.insert card note).note? other = specials.note? other := by
  have hne : Text.trim card ≠ Text.trim other := fun e ↦ h e.symm
  simp only [note?, insert, List.find?_cons, hne, decide_false]
  congr 1
  rw [List.find?_filter]
  congr 1
  funext entry
  by_cases he : entry.1 = Text.trim other
  · simp [he, h]
  · simp [he]

end Specials

end ChanceDeck
