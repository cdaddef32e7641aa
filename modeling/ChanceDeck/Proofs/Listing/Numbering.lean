import ChanceDeck.Proofs.Listing.Basic

/-!
# Numbering in machine words

A listing may be numbered in machine words: the last line is told beforehand from the number of
cards in words of 64 bits, and the lines are counted up one after another in words of 32 bits.
`ofCards?` does so and gives up, with `none`, as soon as a sum or a product does not fit in its
word.

It never gives up on fewer than 2 ^ 48 cards (`ofCards?_eq`). The start line and the step are at most
65529 when they are multiplied and added, so that the last line fits in 64 bits; and lines are
counted only below the limit that this last line keeps, so that even the line left free, one step
further, fits in 32 bits. `ofCards_numbering` adds when cards can be listed, which numbers the lines
get, and which error comes first.
-/

set_option autoImplicit false
set_option relaxedAutoImplicit false

namespace ChanceDeck.Listing

/-! ### Sums and products that fit -/

/-- The sum of two words of 32 bits, if it fits. -/
def add32? (a b : UInt32) : Option UInt32 :=
  if a.toNat + b.toNat < 2 ^ 32 then some (a + b) else none

/-- The sum of two words of 64 bits, if it fits. -/
def add64? (a b : UInt64) : Option UInt64 :=
  if a.toNat + b.toNat < 2 ^ 64 then some (a + b) else none

/-- The product of two words of 64 bits, if it fits. -/
def mul64? (a b : UInt64) : Option UInt64 :=
  if a.toNat * b.toNat < 2 ^ 64 then some (a * b) else none

theorem exists_add32? {a b : UInt32} (h : a.toNat + b.toNat < 2 ^ 32) :
    ∃ sum, add32? a b = some sum ∧ sum.toNat = a.toNat + b.toNat := by
  refine ⟨a + b, if_pos h, ?_⟩
  rw [UInt32.toNat_add]
  exact Nat.mod_eq_of_lt h

theorem exists_add64? {a b : UInt64} (h : a.toNat + b.toNat < 2 ^ 64) :
    ∃ sum, add64? a b = some sum ∧ sum.toNat = a.toNat + b.toNat := by
  refine ⟨a + b, if_pos h, ?_⟩
  rw [UInt64.toNat_add]
  exact Nat.mod_eq_of_lt h

theorem exists_mul64? {a b : UInt64} (h : a.toNat * b.toNat < 2 ^ 64) :
    ∃ product, mul64? a b = some product ∧ product.toNat = a.toNat * b.toNat := by
  refine ⟨a * b, if_pos h, ?_⟩
  rw [UInt64.toNat_mul]
  exact Nat.mod_eq_of_lt h

/-! ### Listings counted in words -/

/-- The lines of cards, each a step after the line before, and the number of the last of them. -/
def dataLines? (line step : UInt32) : List Card → Option (List Text × UInt32)
  | [] => some ([], line)
  | card :: rest => do
    let next ← add32? line step
    let (lines, last) ← dataLines? next step rest
    return (dataLine next.toNat card :: lines, last)

/-- The last line number of a listing of so many cards. -/
def lastLine? (startLine lineStep : UInt32) (cards : Nat) : Option UInt64 := do
  let advance ← mul64? lineStep.toUInt64 (UInt64.ofNat cards)
  add64? startLine.toUInt64 advance

/-- The listing of cards, if no number leaves its word. -/
def ofCards? (startLine lineStep : UInt32) (title : Text) (cards : List Card) :
    Option (Except ListingError Listing) :=
  match checkNumbering startLine.toNat lineStep.toNat with
  | .error e => some (.error e)
  | .ok () => do
    let last ← lastLine? startLine lineStep cards.length
    if maxLineNumber < last.toNat then return .error (.lineNumberOverflow last.toNat)
    let (lines, reached) ← dataLines? startLine lineStep cards
    let nextFree ← add32? reached lineStep
    return .ok ⟨heading startLine.toNat title cards.length :: lines,
      ⟨startLine.toNat, reached.toNat, nextFree.toNat⟩⟩

variable {startLine lineStep : UInt32} {title : Text} {cards : List Card}

/-- The last line fits in 64 bits if the step is in range and there are fewer than 2 ^ 48 cards. -/
theorem exists_lastLine? (startLine : UInt32) (hstep : lineStep.toNat ≤ maxLineNumber)
    {count : Nat} (hcount : count < 2 ^ 48) :
    ∃ last, lastLine? startLine lineStep count = some last ∧
      last.toNat = startLine.toNat + lineStep.toNat * count := by
  have hstart := startLine.toNat_lt
  have hword : (UInt64.ofNat count).toNat = count := by
    rw [UInt64.toNat_ofNat']
    exact Nat.mod_eq_of_lt (hcount.trans (by decide))
  have hproduct : lineStep.toNat * count ≤ 65529 * 2 ^ 48 :=
    Nat.mul_le_mul hstep hcount.le
  obtain ⟨advance, hadvance, hvalue⟩ :=
    exists_mul64? (a := lineStep.toUInt64) (b := UInt64.ofNat count) (by
      rw [UInt32.toNat_toUInt64, hword]
      omega)
  rw [UInt32.toNat_toUInt64, hword] at hvalue
  obtain ⟨last, hlast, hsum⟩ := exists_add64? (a := startLine.toUInt64) (b := advance) (by
    rw [UInt32.toNat_toUInt64, hvalue]
    omega)
  rw [UInt32.toNat_toUInt64, hvalue] at hsum
  refine ⟨last, ?_, hsum⟩
  rw [lastLine?, hadvance]
  exact hlast

/-- Counting up reaches the last line that the product tells, whatever line it begins at, if that
line fits. -/
theorem exists_dataLines? (line : UInt32) (cards : List Card)
    (hfits : line.toNat + lineStep.toNat * cards.length < 2 ^ 32) :
    ∃ reached, dataLines? line lineStep cards =
        some (dataLines line.toNat lineStep.toNat cards, reached) ∧
      reached.toNat = line.toNat + lineStep.toNat * cards.length := by
  induction cards generalizing line with
  | nil => exact ⟨line, rfl, rfl⟩
  | cons card rest ih =>
    have htotal : line.toNat + lineStep.toNat * (card :: rest).length =
        line.toNat + lineStep.toNat + lineStep.toNat * rest.length := by
      rw [List.length_cons]
      ring
    rw [htotal] at hfits ⊢
    obtain ⟨next, hnext, hvalue⟩ := exists_add32? (a := line) (b := lineStep) (by omega)
    obtain ⟨reached, hrest, hreached⟩ := ih next (hvalue ▸ hfits)
    refine ⟨reached, ?_, hvalue ▸ hreached⟩
    rw [dataLines?, hnext, dataLines, ← hvalue]
    simp [hrest]

/-- In words as in natural numbers: no number leaves its word. -/
theorem ofCards?_eq (hcount : cards.length < 2 ^ 48) :
    ofCards? startLine lineStep title cards =
      some (ofCards ⟨startLine.toNat, lineStep.toNat, title⟩ cards) := by
  rw [ofCards?, ofCards]
  cases hcheck : checkNumbering startLine.toNat lineStep.toNat with
  | error e => rfl
  | ok _ =>
    obtain ⟨-, hstep⟩ := checkNumbering_eq_ok_iff.mp hcheck
    rw [inRange_iff] at hstep
    obtain ⟨last, hlast, hvalue⟩ := exists_lastLine? startLine hstep.2 hcount
    have htotal : lastLine ⟨startLine.toNat, lineStep.toNat, title⟩ cards.length = last.toNat :=
      hvalue.symm
    simp only [hlast, htotal, Option.bind_eq_bind, Option.bind_some]
    by_cases hover : maxLineNumber < last.toNat
    · simp [hover]
    · have hmax : maxLineNumber = 65529 := rfl
      have hfits : startLine.toNat + lineStep.toNat * cards.length < 2 ^ 32 := by omega
      obtain ⟨reached, hlines, hreached⟩ := exists_dataLines? startLine cards hfits
      obtain ⟨nextFree, hfree, hnext⟩ := exists_add32? (a := reached) (b := lineStep) (by omega)
      rw [← hvalue] at hreached
      simp only [hover, if_false, hlines, Option.bind_some, hfree, hnext, hreached]
      rfl

/-! ### When cards can be listed -/

/-- The first of the three faults of a numbering, in the order in which they are looked for. -/
theorem ofCards_eq_error_iff {options : ListingOptions} {e : ListingError} :
    ofCards options cards = .error e ↔
      (inRange options.startLine = false ∧ e = .invalidStartLine options.startLine) ∨
      (inRange options.startLine = true ∧ inRange options.lineStep = false ∧
        e = .invalidLineStep options.lineStep) ∨
      (inRange options.startLine = true ∧ inRange options.lineStep = true ∧
        maxLineNumber < lastLine options cards.length ∧
        e = .lineNumberOverflow (lastLine options cards.length)) := by
  rw [ofCards, checkNumbering]
  cases inRange options.startLine <;> cases inRange options.lineStep <;>
    by_cases hlast : maxLineNumber < lastLine options cards.length <;>
    simp [hlast, @eq_comm _ e]

/-- Each line begins with its number and a space: the heading with the start line, and every card a
step after the line before. -/
theorem getElem?_lines {options : ListingOptions} {listing : Listing}
    (hlisting : ofCards options cards = .ok listing) {i : Nat} {line : Text}
    (hline : listing.lines[i]? = some line) :
    ∃ rest, line = Decimal.natural (options.startLine + i * options.lineStep) ++ ' ' :: rest := by
  obtain ⟨-, -, rfl⟩ := ofCards_eq_ok_iff.mp hlisting
  cases i with
  | zero =>
    rw [List.getElem?_cons_zero, Option.some.injEq] at hline
    rw [Nat.zero_mul, Nat.add_zero, ← hline, heading_eq]
    exact ⟨_, rfl⟩
  | succ k =>
    rw [List.getElem?_cons_succ, dataLines_eq_mapIdx, List.getElem?_mapIdx,
      Option.map_eq_some_iff] at hline
    obtain ⟨card, -, rfl⟩ := hline
    have hdata : " DATA ".toList = ' ' :: "DATA ".toList := rfl
    rw [dataLine, hdata]
    simp only [List.append_assoc, List.cons_append]
    exact ⟨_, rfl⟩

/-- Numbering in words of 32 and 64 bits never leaves a word, and gives the listing that whole
numbers give. Cards can be listed exactly if start line and step are in range and the last line is
too; then there is one line more than cards, each begins with its number, and the range tells the
first line, the last and the one left free. Otherwise the error names the start line, or else the
step, or else the last line that there would be. -/
theorem ofCards_numbering (startLine lineStep : UInt32) (title : Text) (cards : List Card)
    (hcount : cards.length < 2 ^ 48) :
    let options : ListingOptions := ⟨startLine.toNat, lineStep.toNat, title⟩
    let last := startLine.toNat + lineStep.toNat * cards.length
    ofCards? startLine lineStep title cards = some (ofCards options cards) ∧
      ((∃ listing, ofCards options cards = .ok listing) ↔
        (1 ≤ startLine.toNat ∧ startLine.toNat ≤ 65529) ∧
          (1 ≤ lineStep.toNat ∧ lineStep.toNat ≤ 65529) ∧ last ≤ 65529) ∧
      (∀ listing, ofCards options cards = .ok listing →
        listing.lines.length = 1 + cards.length ∧
          (∀ i line, listing.lines[i]? = some line →
            ∃ rest, line =
              Decimal.natural (startLine.toNat + i * lineStep.toNat) ++ ' ' :: rest) ∧
          listing.range = ⟨startLine.toNat, last, last + lineStep.toNat⟩) ∧
      ∀ e, ofCards options cards = .error e ↔
        (¬(1 ≤ startLine.toNat ∧ startLine.toNat ≤ 65529) ∧
          e = .invalidStartLine startLine.toNat) ∨
        ((1 ≤ startLine.toNat ∧ startLine.toNat ≤ 65529) ∧
          ¬(1 ≤ lineStep.toNat ∧ lineStep.toNat ≤ 65529) ∧
          e = .invalidLineStep lineStep.toNat) ∨
        ((1 ≤ startLine.toNat ∧ startLine.toNat ≤ 65529) ∧
          (1 ≤ lineStep.toNat ∧ lineStep.toNat ≤ 65529) ∧
          65529 < last ∧ e = .lineNumberOverflow last) := by
  intro options last
  have hrange (n : Nat) : inRange n = true ↔ 1 ≤ n ∧ n ≤ 65529 := inRange_iff
  have houtside (n : Nat) : inRange n = false ↔ ¬(1 ≤ n ∧ n ≤ 65529) := by
    rw [← hrange, Bool.not_eq_true]
  have hlast : lastLine options cards.length = last := rfl
  refine ⟨ofCards?_eq hcount, ?_, fun listing hlisting ↦ ⟨?_, ?_, ?_⟩, fun e ↦ ?_⟩
  · rw [← hrange, ← hrange, ← and_assoc]
    constructor
    · rintro ⟨listing, hlisting⟩
      obtain ⟨hnumbering, hbelow, -⟩ := ofCards_eq_ok_iff.mp hlisting
      exact ⟨hnumbering, hbelow⟩
    · rintro ⟨hnumbering, hbelow⟩
      exact ⟨_, ofCards_eq_ok_iff.mpr ⟨hnumbering, hbelow, rfl⟩⟩
  · obtain ⟨-, -, rfl⟩ := ofCards_eq_ok_iff.mp hlisting
    rw [List.length_cons, dataLines_eq_mapIdx, List.length_mapIdx, Nat.add_comm]
  · exact fun i line ↦ getElem?_lines hlisting
  · obtain ⟨-, -, rfl⟩ := ofCards_eq_ok_iff.mp hlisting
    rfl
  · rw [ofCards_eq_error_iff, houtside, houtside, hrange, hrange, hlast]
    rfl

/-- A listing that ends at the highest line number leaves a line free above it; begun one line later
it would end past it. -/
theorem ofCards_numbering_highest :
    let card : Card := ⟨"5".toList, ⟨[1, -7, 0, 0, 0, 0, 0, 0], rfl⟩, "CE -7".toList, none⟩
    [card].length < 2 ^ 48 ∧
      ofCards? 65519 10 "A".toList [card] = some (ofCards ⟨65519, 10, "A".toList⟩ [card]) ∧
      (∃ listing, ofCards ⟨65519, 10, "A".toList⟩ [card] = .ok listing ∧
        listing.range = ⟨65519, 65529, 65539⟩) ∧
      ofCards ⟨65520, 10, "A".toList⟩ [card] = .error (.lineNumberOverflow 65530) := by
  intro card
  have hcount : [card].length < 2 ^ 48 := by decide
  obtain ⟨hwords, hlistable, hlisting, -⟩ := ofCards_numbering 65519 10 "A".toList [card] hcount
  obtain ⟨-, -, -, herror⟩ := ofCards_numbering 65520 10 "A".toList [card] hcount
  obtain ⟨listing, hok⟩ := hlistable.mpr (by decide)
  exact ⟨hcount, hwords, ⟨listing, hok, (hlisting listing hok).2.2⟩, (herror _).mpr (by decide)⟩

end ChanceDeck.Listing
