import ChanceDeck.Text.Blank
import Mathlib.Data.List.Basic

/-!
# Texts cut at a mark and joined by one

A text is cut where its author put the mark if the mark does not occur before that place. It
suffices that the first character of the mark is missing before it (`cut?_append`); for a mark of
two different characters it suffices that the mark itself is missing (`cut?_append_pair`), so that
a colon may stand right before a mark that begins with one.

`Closed` texts end in a character that is no blank. They are what a line must end in so that
trimming and the reading of line endings leave it as it is.
-/

set_option autoImplicit false
set_option relaxedAutoImplicit false

namespace ChanceDeck.Text

/-! ### Cutting -/

/-- The first occurrence of a mark is the one given if no earlier character begins the mark. -/
theorem cut?_append {m : Char} {before : Text} (mark rest : Text) (h : m ∉ before) :
    cut? (m :: mark) (before ++ (m :: mark ++ rest)) = some (before, rest) := by
  induction before with
  | nil =>
    have hstrip := strip?_append (m :: mark) rest
    rw [List.cons_append] at hstrip
    rw [List.nil_append, List.cons_append, cut?, hstrip]
  | cons c before ih =>
    have hc : m ≠ c := fun e ↦ h (e ▸ List.mem_cons_self)
    have hbefore : m ∉ before := fun hm ↦ h (List.mem_cons_of_mem _ hm)
    rw [List.cons_append, cut?, strip?, if_neg hc, ih hbefore]
    rfl

/-- The first occurrence of a mark of two different characters is the one given if the mark does
not occur in the text before it. -/
theorem cut?_append_pair {a b : Char} {before : Text} (rest : Text) (hab : a ≠ b)
    (h : ¬[a, b] <:+: before) : cut? [a, b] (before ++ ([a, b] ++ rest)) = some (before, rest) := by
  induction before with
  | nil => simp [cut?, strip?]
  | cons c before ih =>
    have hbefore : ¬[a, b] <:+: before := fun hm ↦ h (List.infix_cons hm)
    -- The mark could begin at `c` only if its second character came next.
    have hstrip : strip? [a, b] (c :: (before ++ ([a, b] ++ rest))) = none := by
      by_cases hc : a = c
      · subst hc
        cases before with
        | nil => simp [strip?, hab.symm]
        | cons d before =>
          have hd : b ≠ d := by
            rintro rfl
            exact h ⟨[], before, rfl⟩
          simp [strip?, hd]
      · simp [strip?, hc]
    rw [List.cons_append, cut?, hstrip, ih hbefore]
    rfl

/-- The last occurrence of a character splits a text in one way only. -/
theorem append_cons_inj_of_not_mem {c : Char} {before₁ before₂ after₁ after₂ : Text}
    (h₁ : c ∉ after₁) (h₂ : c ∉ after₂) (h : before₁ ++ c :: after₁ = before₂ ++ c :: after₂) :
    before₁ = before₂ ∧ after₁ = after₂ := by
  -- Read from the end, the first occurrence is the one given.
  have hcut₁ := cut?_append [] before₁.reverse (mt List.mem_reverse.mp h₁)
  have hcut₂ := cut?_append [] before₂.reverse (mt List.mem_reverse.mp h₂)
  have hreverse := congrArg List.reverse h
  simp only [List.reverse_append, List.reverse_cons, List.append_assoc] at hreverse
  rw [hreverse, hcut₂, Option.some.injEq, Prod.mk.injEq] at hcut₁
  exact ⟨List.reverse_injective hcut₁.2.symm, List.reverse_injective hcut₁.1.symm⟩

/-! ### Joining -/

theorem join_cons_cons (separator part next : Text) (rest : List Text) :
    join separator (part :: next :: rest) = part ++ separator ++ join separator (next :: rest) :=
  List.intercalate_cons_cons

@[simp] theorem join_singleton (separator part : Text) : join separator [part] = part :=
  List.intercalate_singleton

theorem mem_join {separator : Text} {parts : List Text} {c : Char} (h : c ∈ join separator parts) :
    c ∈ separator ∨ ∃ part ∈ parts, c ∈ part := by
  induction parts with
  | nil => simp [join] at h
  | cons part rest ih =>
    cases rest with
    | nil => exact Or.inr ⟨part, List.mem_cons_self, by simpa using h⟩
    | cons next rest =>
      rw [join_cons_cons, List.mem_append, List.mem_append] at h
      rcases h with (h | h) | h
      · exact Or.inr ⟨part, List.mem_cons_self, h⟩
      · exact Or.inl h
      · rcases ih h with hs | ⟨p, hp, hc⟩
        · exact Or.inl hs
        · exact Or.inr ⟨p, List.mem_cons_of_mem _ hp, hc⟩

/-- Parts without commas, joined by commas with a space after each, are recovered by splitting at
the commas; every part but the first keeps the space. -/
theorem splitOn_join_comma (part : Text) (rest : List Text) (h : ∀ p ∈ part :: rest, ',' ∉ p) :
    (join ", ".toList (part :: rest)).splitOn ',' = part :: rest.map (' ' :: ·) := by
  induction rest generalizing part with
  | nil =>
    rw [join_singleton, List.splitOn_eq_singleton (h part List.mem_cons_self)]
    rfl
  | cons next rest ih =>
    have hseparator : ", ".toList = [',', ' '] := rfl
    have hnext : ∀ p ∈ (' ' :: next) :: rest, ',' ∉ p := by
      intro p hp
      rcases List.mem_cons.mp hp with rfl | hp
      · have hplain := h next (by simp)
        simpa using hplain
      · exact h p (by simp [hp])
    have hjoin : join ", ".toList (part :: next :: rest) =
        part ++ ',' :: join ", ".toList ((' ' :: next) :: rest) := by
      rw [join_cons_cons, hseparator]
      cases rest with
      | nil => simp
      | cons p rest => simp [join_cons_cons]
    rw [hjoin, List.splitOn_append_cons_self_of_not_mem (h part List.mem_cons_self), ih _ hnext,
      List.map_cons]

/-! ### Closed texts -/

/-- A text whose last character is no blank. -/
def Closed (text : Text) : Prop :=
  ∃ last ∈ text.getLast?, isBlank last = false

theorem Closed.append {text : Text} (h : Closed text) (before : Text) :
    Closed (before ++ text) := by
  obtain ⟨last, hlast, hblank⟩ := h
  refine ⟨last, ?_, hblank⟩
  rw [Option.mem_def] at hlast ⊢
  rw [List.getLast?_append, hlast]
  rfl

theorem closed_concat (before : Text) {last : Char} (h : isBlank last = false) :
    Closed (before ++ [last]) :=
  Closed.append ⟨last, rfl, h⟩ before

theorem Closed.getLast?_ne {text : Text} (h : Closed text) {c : Char} (hc : isBlank c = true) :
    text.getLast? ≠ some c := by
  obtain ⟨last, hlast, hblank⟩ := h
  rintro heq
  rw [Option.mem_def, heq, Option.some.injEq] at hlast
  rw [hlast, hblank] at hc
  exact Bool.false_ne_true hc

/-- A closed text with no blank at its start is its own trimmed form. -/
theorem Closed.trim_eq_self {text : Text} (h : Closed text)
    (hhead : ∀ c ∈ text.head?, isBlank c = false) : trim text = text := by
  refine Text.trim_eq_self hhead fun c hc ↦ ?_
  obtain ⟨last, hlast, hblank⟩ := h
  exact Option.mem_unique hlast hc ▸ hblank

theorem closed_join {separator : Text} {parts : List Text} (hne : parts ≠ [])
    (h : ∀ part ∈ parts, Closed part) : Closed (join separator parts) := by
  induction parts with
  | nil => exact absurd rfl hne
  | cons part rest ih =>
    cases rest with
    | nil => simpa using h part List.mem_cons_self
    | cons next rest =>
      rw [join_cons_cons]
      exact (ih (List.cons_ne_nil _ _) fun p hp ↦ h p (List.mem_cons_of_mem _ hp)).append _

end ChanceDeck.Text
