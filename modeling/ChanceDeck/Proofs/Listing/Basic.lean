import ChanceDeck.Listing.Basic
import ChanceDeck.Proofs.Text.Decimal
import ChanceDeck.Proofs.Text.Lines
import Mathlib.Tactic.Ring

/-!
# The lines of a listing

Every line of a listing is `Numbered`: it begins with its number and a space, stands on one line
and ends in a character that is no blank. Trimming leaves such a line alone, its leading digits are
its number, and the lines of the file are the lines that were written.

`ofCards_eq_ok_iff` says when cards can be listed and what the listing is.
-/

set_option autoImplicit false
set_option relaxedAutoImplicit false

namespace ChanceDeck.Listing

/-- A line that begins with a number and a space and closes on the same line. -/
structure Numbered (number : Nat) (line : Text) : Prop where
  begins : ∃ rest, line = Decimal.natural number ++ ' ' :: rest
  line : Text.Line line

/-! ### Numbers before a space -/

theorem space_not_mem_natural (n : Nat) : ' ' ∉ Decimal.natural n := fun h ↦
  absurd (Decimal.isDigit_of_mem_natural h) (by decide)

theorem feed_not_mem_natural (n : Nat) : '\n' ∉ Decimal.natural n := fun h ↦
  absurd (Decimal.isDigit_of_mem_natural h) (by decide)

theorem takeWhile_isDigit_natural (n : Nat) (rest : Text) :
    (Decimal.natural n ++ ' ' :: rest).takeWhile Char.isDigit = Decimal.natural n :=
  Decimal.takeWhile_isDigit_of_stops n (.cons (by decide) rest)

theorem dropWhile_isDigit_natural (n : Nat) (rest : Text) :
    (Decimal.natural n ++ ' ' :: rest).dropWhile Char.isDigit = ' ' :: rest := by
  rw [List.dropWhile_append_of_pos fun c hc ↦ Decimal.isDigit_of_mem_natural hc,
    List.dropWhile_cons_of_neg (by decide)]

theorem cut?_natural (n : Nat) (rest : Text) :
    Text.cut? [' '] (Decimal.natural n ++ ' ' :: rest) = some (Decimal.natural n, rest) :=
  Text.cut?_append [] rest (space_not_mem_natural n)

/-- A closed text that begins with a number has no blanks to trim. -/
theorem trim_natural_append {n : Nat} {rest : Text}
    (hclosed : Text.Closed (Decimal.natural n ++ rest)) :
    Text.trim (Decimal.natural n ++ rest) = Decimal.natural n ++ rest := by
  obtain ⟨c, tail, hcons, hdigit⟩ := Decimal.exists_natural_eq_cons n
  refine hclosed.trim_eq_self fun d hd ↦ ?_
  rw [hcons, List.cons_append, List.head?_cons, Option.mem_some_iff] at hd
  exact hd ▸ Decimal.isBlank_eq_false_of_isNumeric (Decimal.isNumeric_of_isDigit hdigit)

theorem Numbered.trim_eq_self {number : Nat} {line : Text} (h : Numbered number line) :
    Text.trim line = line := by
  have hclosed := h.line.closed
  obtain ⟨rest, rfl⟩ := h.begins
  exact trim_natural_append hclosed

theorem Numbered.ne_nil {number : Nat} {line : Text} (h : Numbered number line) : line ≠ [] := by
  obtain ⟨rest, rfl⟩ := h.begins
  exact List.append_ne_nil_of_right_ne_nil _ (List.cons_ne_nil _ _)

/-! ### The heading -/

/-- The heading as its first space parts it. -/
theorem heading_eq (line : Nat) (title : Text) (cards : Nat) :
    heading line title cards = Decimal.natural line ++ ' ' :: ("REM --- ".toList ++ (title ++
      (" (".toList ++ (Decimal.natural cards ++ " CARDS) ---".toList)))) := by
  have hrem : " REM --- ".toList = ' ' :: "REM --- ".toList := rfl
  rw [heading, hrem]
  simp only [List.append_assoc, List.cons_append]

theorem heading_numbered (line : Nat) {title : Text} (cards : Nat) (htitle : '\n' ∉ title) :
    Numbered line (heading line title cards) := by
  refine ⟨⟨_, heading_eq line title cards⟩, ?_, ?_⟩
  · have hline := feed_not_mem_natural line
    have hcards := feed_not_mem_natural cards
    have hrem : '\n' ∉ " REM --- ".toList := by decide
    have hopen : '\n' ∉ " (".toList := by decide
    have hclose : '\n' ∉ " CARDS) ---".toList := by decide
    simp only [heading, List.mem_append, not_or]
    exact ⟨⟨⟨⟨⟨hline, hrem⟩, htitle⟩, hopen⟩, hcards⟩, hclose⟩
  · have hclose : Text.Closed " CARDS) ---".toList := ⟨'-', by decide, by decide⟩
    exact hclose.append _

/-! ### Listings of cards -/

/-- The lines of cards, each with its number in one step. -/
theorem dataLines_eq_mapIdx (line step : Nat) (cards : List Card) :
    dataLines line step cards = cards.mapIdx fun k card ↦ dataLine (line + (k + 1) * step) card := by
  induction cards generalizing line with
  | nil => rfl
  | cons card cards ih =>
    have hnumber (k : Nat) : line + step + (k + 1) * step = line + (k + 1 + 1) * step := by ring
    rw [dataLines, ih, List.mapIdx_cons]
    simp only [hnumber, Nat.zero_add, Nat.one_mul]

theorem inRange_iff {n : Nat} : inRange n = true ↔ 1 ≤ n ∧ n ≤ maxLineNumber := by
  rw [inRange, Bool.and_eq_true, decide_eq_true_iff, decide_eq_true_iff, Nat.one_le_iff_ne_zero]

theorem checkNumbering_eq_ok_iff {startLine lineStep : Nat} :
    checkNumbering startLine lineStep = .ok () ↔
      inRange startLine = true ∧ inRange lineStep = true := by
  rw [checkNumbering]
  cases inRange startLine <;> cases inRange lineStep <;> simp

/-- Cards can be listed if start line and step are in range and the last line is too. -/
theorem ofCards_eq_ok_iff {options : ListingOptions} {cards : List Card} {listing : Listing} :
    ofCards options cards = .ok listing ↔
      (inRange options.startLine = true ∧ inRange options.lineStep = true) ∧
        lastLine options cards.length ≤ maxLineNumber ∧
        listing = ⟨heading options.startLine options.title cards.length ::
            dataLines options.startLine options.lineStep cards,
          ⟨options.startLine, lastLine options cards.length,
            lastLine options cards.length + options.lineStep⟩⟩ := by
  rw [← checkNumbering_eq_ok_iff, ofCards]
  cases hcheck : checkNumbering options.startLine options.lineStep with
  | error e => simp
  | ok _ =>
    by_cases hlast : maxLineNumber < lastLine options cards.length
    · simp [hlast, Nat.not_le.mpr hlast]
    · simp only [hlast, if_false, Nat.not_lt.mp hlast, true_and, Except.ok.injEq]
      exact eq_comm

/-- The line numbers of listed cards are in range. -/
theorem lineNumber_le {options : ListingOptions} {cards : List Card} {listing : Listing}
    (hlisting : ofCards options cards = .ok listing) {k : Nat} {card : Card}
    (hcard : cards[k]? = some card) :
    options.startLine + (k + 1) * options.lineStep ≤ maxLineNumber := by
  obtain ⟨-, hlast, -⟩ := ofCards_eq_ok_iff.mp hlisting
  have hk : k + 1 ≤ cards.length := (List.getElem?_eq_some_iff.mp hcard).1
  calc
    options.startLine + (k + 1) * options.lineStep
        ≤ options.startLine + cards.length * options.lineStep := by gcongr
    _ = lastLine options cards.length := by rw [lastLine, Nat.mul_comm]
    _ ≤ maxLineNumber := hlast

end ChanceDeck.Listing
