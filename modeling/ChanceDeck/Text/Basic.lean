/-!
# Texts

A text is the list of its characters, so that every reader and writer of this library is a
recursion on a list. `Text.strip?` removes a given beginning, and `Text.cut?` parts a text at the
first occurrence of a mark.
-/

set_option autoImplicit false
set_option relaxedAutoImplicit false

namespace ChanceDeck

/-- A text is the list of its characters. -/
abbrev Text := List Char

namespace Text

/-- The rest of a text after a given beginning, if the text begins that way. -/
def strip? : Text → Text → Option Text
  | [], text => some text
  | _ :: _, [] => none
  | m :: mark, c :: text => if m = c then strip? mark text else none

/-- The parts of a text before and after the first occurrence of a mark. -/
def cut? (mark : Text) : Text → Option (Text × Text)
  | [] => if mark = [] then some ([], []) else none
  | c :: text =>
    match strip? mark (c :: text) with
    | some rest => some ([], rest)
    | none => (cut? mark text).map fun parts ↦ (c :: parts.1, parts.2)

/-- Texts written one after another with a separator between neighbours. -/
def join (separator : Text) (parts : List Text) : Text :=
  separator.intercalate parts

theorem strip?_append (mark rest : Text) : strip? mark (mark ++ rest) = some rest := by
  induction mark with
  | nil => simp [strip?]
  | cons m mark ih => simpa [strip?] using ih

theorem eq_append_of_strip? {mark text rest : Text} (h : strip? mark text = some rest) :
    text = mark ++ rest := by
  induction mark generalizing text with
  | nil => simpa [strip?] using h
  | cons m mark ih =>
    cases text with
    | nil => simp [strip?] at h
    | cons c text =>
      by_cases hc : m = c
      · subst hc
        simpa using ih (by simpa [strip?] using h)
      · simp [strip?, hc] at h

theorem eq_append_of_cut? {mark text before rest : Text}
    (h : cut? mark text = some (before, rest)) : text = before ++ mark ++ rest := by
  induction text generalizing before with
  | nil =>
    by_cases hm : mark = [] <;> simp_all [cut?]
  | cons c text ih =>
    rw [cut?] at h
    split at h
    · rename_i tail htail
      obtain ⟨rfl, rfl⟩ := Prod.mk.inj (Option.some.inj h)
      simpa using eq_append_of_strip? htail
    · obtain ⟨parts, hparts, heq⟩ := Option.map_eq_some_iff.mp h
      obtain ⟨rfl, rfl⟩ := Prod.mk.inj heq
      simpa using ih hparts

end Text

end ChanceDeck
