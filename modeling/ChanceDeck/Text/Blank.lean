import ChanceDeck.Text.Basic

/-!
# Blank characters

The characters with the Unicode property White_Space, and texts freed of them at their ends.
Trimming removes blanks only, leaves none at either end, and changes nothing the second time.
-/

set_option autoImplicit false
set_option relaxedAutoImplicit false

namespace ChanceDeck.Text

/-- The characters with the Unicode property White_Space. -/
def isBlank (c : Char) : Bool :=
  let n := c.toNat
  (9 ≤ n && n ≤ 13) || n == 0x20 || n == 0x85 || n == 0xA0 || n == 0x1680 ||
    (0x2000 ≤ n && n ≤ 0x200A) || n == 0x2028 || n == 0x2029 || n == 0x202F || n == 0x205F ||
    n == 0x3000

/-- A text without the blanks at its start. -/
def trimStart (text : Text) : Text :=
  text.dropWhile isBlank

/-- A text without the blanks at its end. -/
def trimEnd (text : Text) : Text :=
  (text.reverse.dropWhile isBlank).reverse

/-- A text without the blanks at its two ends. -/
def trim (text : Text) : Text :=
  trimEnd (trimStart text)

private theorem dropWhile_eq_self {text : Text}
    (h : ∀ c ∈ text.head?, isBlank c = false) : text.dropWhile isBlank = text := by
  cases text with
  | nil => rfl
  | cons c text => simp [h c (by simp)]

private theorem head?_dropWhile (text : Text) :
    ∀ c ∈ (text.dropWhile isBlank).head?, isBlank c = false := by
  induction text with
  | nil => simp
  | cons c text ih =>
    by_cases hc : isBlank c
    · simpa [hc] using ih
    · simp [hc]

/-- A text with no blank at its start is its own start-trimmed form. -/
theorem trimStart_eq_self {text : Text} (h : ∀ c ∈ text.head?, isBlank c = false) :
    trimStart text = text :=
  dropWhile_eq_self h

/-- A text with no blank at its end is its own end-trimmed form. -/
theorem trimEnd_eq_self {text : Text} (h : ∀ c ∈ text.getLast?, isBlank c = false) :
    trimEnd text = text := by
  rw [trimEnd, dropWhile_eq_self (by simpa [List.head?_reverse] using h), List.reverse_reverse]

theorem head?_trimStart (text : Text) : ∀ c ∈ (trimStart text).head?, isBlank c = false :=
  head?_dropWhile text

theorem getLast?_trimEnd (text : Text) : ∀ c ∈ (trimEnd text).getLast?, isBlank c = false := by
  simpa [trimEnd, List.getLast?_reverse] using head?_dropWhile text.reverse

/-- Trimming at the end keeps the start of what it leaves. -/
theorem trimEnd_append_blanks (text : Text) :
    ∃ blanks : Text, (∀ c ∈ blanks, isBlank c = true) ∧ text = trimEnd text ++ blanks := by
  refine ⟨(text.reverse.takeWhile isBlank).reverse, ?_, ?_⟩
  · intro c hc
    exact List.all_eq_true.mp List.all_takeWhile c (List.mem_reverse.mp hc)
  · rw [trimEnd, ← List.reverse_append, List.takeWhile_append_dropWhile, List.reverse_reverse]

theorem head?_trim (text : Text) : ∀ c ∈ (trim text).head?, isBlank c = false := by
  intro c hc
  obtain ⟨blanks, -, h⟩ := trimEnd_append_blanks (trimStart text)
  refine head?_trimStart text c ?_
  rw [h]
  cases hs : trimEnd (trimStart text) with
  | nil => simp [trim, hs] at hc
  | cons d rest => simpa [trim, hs] using hc

theorem getLast?_trim (text : Text) : ∀ c ∈ (trim text).getLast?, isBlank c = false :=
  getLast?_trimEnd _

/-- A text with no blank at either end is its own trimmed form. -/
theorem trim_eq_self {text : Text} (hhead : ∀ c ∈ text.head?, isBlank c = false)
    (hlast : ∀ c ∈ text.getLast?, isBlank c = false) : trim text = text := by
  rw [trim, trimStart_eq_self hhead, trimEnd_eq_self hlast]

@[simp] theorem trim_trim (text : Text) : trim (trim text) = trim text :=
  trim_eq_self (head?_trim text) (getLast?_trim text)

end ChanceDeck.Text
