import ChanceDeck.Proofs.Basic.Image
import ChanceDeck.Proofs.Text.Decimal

/-!
# What becomes of a listing

A line is numbered if it begins with a digit, blanks aside, and its number is too high if the digits
are worth more than 65535. A listing with such a line has no image, whatever else is wrong with it,
and the first such line is reported (`SourceLine.ofLines_of_isTooHigh`). Otherwise the numbered
lines are all there is (`SourceLine.ofLines_eq_ok_iff`), and the listing has an image exactly if the
address after them, in a word of 32 bits, fits in sixteen. `ofText_outcome` puts this together where
that word holds the whole address.

Lines without a number are passed over. Errors apart, which count them, they can be put in, left out
and changed without a difference (`SourceLine.mapError_ofLines`).
-/

set_option autoImplicit false
set_option relaxedAutoImplicit false

namespace ChanceDeck

/-- An error as it would be reported for another line of the text. -/
def ImageError.atLine (textLine : Nat) : ImageError → ImageError
  | .lineNumberOutOfRange _ digits => .lineNumberOutOfRange textLine digits
  | .programTooLarge endAddress => .programTooLarge endAddress

namespace SourceLine

/-! ### One line -/

/-- The digits with which a line begins, blanks before them aside. -/
def digits (line : Text) : Text :=
  (Text.trim line).takeWhile Char.isDigit

/-- Whether a line begins with a digit. -/
def IsNumbered (line : Text) : Prop :=
  digits line ≠ []

/-- What the digits at the start of a line are worth. -/
def value (line : Text) : Nat :=
  Nat.ofDigitChars 10 (digits line) 0

/-- Whether the number of a line does not fit in sixteen bits. -/
def IsTooHigh (line : Text) : Prop :=
  65535 < value line

instance : DecidablePred IsNumbered := fun line ↦
  inferInstanceAs (Decidable (digits line ≠ []))

instance : DecidablePred IsTooHigh := fun line ↦
  inferInstanceAs (Decidable (65535 < value line))

/-- The number of a line and what follows its digits. -/
def ofNumbered (line : Text) : SourceLine :=
  ⟨UInt16.ofNat (value line), Text.trimStart ((Text.trim line).dropWhile Char.isDigit)⟩

theorem isDigit_of_mem_digits {line : Text} : ∀ c ∈ digits line, c.isDigit = true :=
  fun c hc ↦ List.all_eq_true.mp List.all_takeWhile c hc

theorem IsTooHigh.isNumbered {line : Text} (h : IsTooHigh line) : IsNumbered line := by
  intro hnone
  unfold IsTooHigh value at h
  rw [hnone] at h
  exact absurd h (by decide)

/-- A line is passed over, refused or read as its digits tell. -/
theorem ofText_eq (textLine : Nat) (line : Text) :
    ofText textLine line =
      if IsTooHigh line then .error (.lineNumberOutOfRange textLine (digits line))
      else .ok (if IsNumbered line then some (ofNumbered line) else none) := by
  have hdigits : (Text.trim line).takeWhile Char.isDigit = digits line := rfl
  have hvalue : Nat.ofDigitChars 10 (digits line) 0 = value line := rfl
  unfold ofText
  simp only [hdigits]
  by_cases hnumbered : IsNumbered line
  · rw [if_neg hnumbered, if_pos hnumbered,
      Decimal.natural?_of_isDigit hnumbered isDigit_of_mem_digits, hvalue]
    by_cases hhigh : 65535 < value line
    · rw [if_pos hhigh, if_pos (show IsTooHigh line from hhigh)]
    · rw [if_neg hhigh, if_neg (show ¬IsTooHigh line from hhigh)]
      rfl
  · rw [if_pos (not_not.mp hnumbered), if_neg (mt IsTooHigh.isNumbered hnumbered),
      if_neg hnumbered]

/-! ### The lines of a text -/

variable {lines before after : List Text} {line : Text} {textLine : Nat}

theorem ofLines_cons (textLine : Nat) (line : Text) (rest : List Text) :
    ofLines textLine (line :: rest) =
      if IsTooHigh line then .error (.lineNumberOutOfRange textLine (digits line))
      else (ofLines (textLine + 1) rest).map fun sources ↦
        if IsNumbered line then ofNumbered line :: sources else sources := by
  rw [ofLines, ofText_eq]
  by_cases hhigh : IsTooHigh line
  · rw [if_pos hhigh, if_pos hhigh]
  · rw [if_neg hhigh, if_neg hhigh]
    by_cases hnumbered : IsNumbered line
    · simp only [hnumbered, if_true]
      cases ofLines (textLine + 1) rest <;> rfl
    · simp only [hnumbered, if_false]
      cases ofLines (textLine + 1) rest <;> rfl

/-- If no number is too high, the numbered lines are read, and no others. -/
theorem ofLines_eq_ok (h : ∀ line ∈ lines, ¬IsTooHigh line) (textLine : Nat) :
    ofLines textLine lines = .ok ((lines.filter IsNumbered).map ofNumbered) := by
  induction lines generalizing textLine with
  | nil => rfl
  | cons line rest ih =>
    obtain ⟨hline, hrest⟩ := List.forall_mem_cons.mp h
    rw [ofLines_cons, if_neg hline, ih hrest, List.filter_cons]
    by_cases hnumbered : IsNumbered line
    · simp only [hnumbered, decide_true, if_true, List.map_cons, Except.map]
    · simp only [hnumbered, decide_false, Bool.false_eq_true, if_false, Except.map]

/-- The first line whose number is too high is the one reported, whatever follows it. -/
theorem ofLines_of_isTooHigh (hbefore : ∀ earlier ∈ before, ¬IsTooHigh earlier)
    (hline : IsTooHigh line) (textLine : Nat) :
    ofLines textLine (before ++ line :: after) =
      .error (.lineNumberOutOfRange (textLine + before.length) (digits line)) := by
  induction before generalizing textLine with
  | nil => rw [List.nil_append, ofLines_cons, if_pos hline, List.length_nil, Nat.add_zero]
  | cons first before ih =>
    obtain ⟨hfirst, hrest⟩ := List.forall_mem_cons.mp hbefore
    rw [List.cons_append, ofLines_cons, if_neg hfirst, ih hrest, List.length_cons,
      Nat.add_right_comm, Nat.add_assoc]
    rfl

/-- A line whose number is too high is preceded by none, or by a first one. -/
theorem exists_first_isTooHigh (h : ∃ line ∈ lines, IsTooHigh line) :
    ∃ before line after, lines = before ++ line :: after ∧
      (∀ earlier ∈ before, ¬IsTooHigh earlier) ∧ IsTooHigh line := by
  obtain ⟨line, hmem, hline⟩ := h
  have hsome : (lines.find? fun line ↦ IsTooHigh line).isSome :=
    List.find?_isSome.mpr ⟨line, hmem, decide_eq_true hline⟩
  obtain ⟨first, hfirst⟩ := Option.isSome_iff_exists.mp hsome
  obtain ⟨hhigh, before, after, hparts, hbefore⟩ := List.find?_eq_some_iff_append.mp hfirst
  exact ⟨before, first, after, hparts, fun earlier hearlier ↦ by simpa using hbefore earlier hearlier,
    of_decide_eq_true hhigh⟩

/-- Lines are read exactly if no number is too high. -/
theorem ofLines_eq_ok_iff {sources : List SourceLine} :
    ofLines textLine lines = .ok sources ↔
      (∀ line ∈ lines, ¬IsTooHigh line) ∧ sources = (lines.filter IsNumbered).map ofNumbered := by
  by_cases h : ∀ line ∈ lines, ¬IsTooHigh line
  · rw [ofLines_eq_ok h, Except.ok.injEq, eq_comm]
    exact (and_iff_right h).symm
  · have hhigh : ∃ line ∈ lines, IsTooHigh line := by simpa using h
    obtain ⟨before, line, after, rfl, hbefore, hline⟩ := exists_first_isTooHigh hhigh
    rw [ofLines_of_isTooHigh hbefore hline]
    exact iff_of_false (by simp) fun hboth ↦ h hboth.1

/-- Lines that are not numbered have a part in nothing but the count of lines in errors. -/
theorem mapError_ofLines (lines : List Text) (first other : Nat) :
    (ofLines first lines).mapError (ImageError.atLine 0) =
      (ofLines other (lines.filter IsNumbered)).mapError (ImageError.atLine 0) := by
  have hmap {α β : Type} (f : α → β) (result : Except ImageError α) :
      (result.map f).mapError (ImageError.atLine 0) =
        (result.mapError (ImageError.atLine 0)).map f := by
    cases result <;> rfl
  induction lines generalizing first other with
  | nil => rfl
  | cons line rest ih =>
    rw [ofLines_cons, List.filter_cons]
    by_cases hnumbered : IsNumbered line
    · simp only [hnumbered, decide_true, if_true]
      rw [ofLines_cons]
      by_cases hhigh : IsTooHigh line
      · rw [if_pos hhigh, if_pos hhigh]
        rfl
      · simp only [hhigh, hnumbered, if_false, if_true]
        rw [hmap, hmap, ih (first + 1) (other + 1)]
    · simp only [hnumbered, decide_false, Bool.false_eq_true, if_false]
      rw [if_neg (mt IsTooHigh.isNumbered hnumbered), hmap, ih (first + 1) other]
      cases (ofLines other (rest.filter IsNumbered)).mapError (ImageError.atLine 0) <;> rfl

theorem numbered_eq {text : Text} (h : ∀ line ∈ Text.lines text, ¬IsTooHigh line) :
    numbered text = ((Text.lines text).filter IsNumbered).map ofNumbered :=
  (eq_filterMap_of_ofLines (ofLines_eq_ok h 1)).symm

end SourceLine

namespace Image

open SourceLine (IsTooHigh IsNumbered)

variable {text : Text} {base : UInt16}

/-- The bytes that the numbered lines of a text take: five for each line and those of its code. -/
def textSize (text : Text) : Nat :=
  ((SourceLine.numbered text).map fun source ↦ 5 + (crunch source.code).length).sum

theorem size_numbered (text : Text) :
    size ((SourceLine.numbered text).map crunchLine) = textSize text := by
  rw [size, List.map_map, textSize]
  exact congrArg List.sum (List.map_congr_left fun source _ ↦ Nat.add_comm _ 5)

theorem ofText_of_not_isTooHigh (h : ∀ line ∈ Text.lines text, ¬IsTooHigh line) (base : UInt16) :
    ofText text base =
      if 65535 < (base.toNat + textSize text) % 2 ^ 32 then
        .error (.programTooLarge (UInt32.ofNat (base.toNat + textSize text)))
      else .ok (layout base.toNat ((SourceLine.numbered text).map crunchLine)) := by
  rw [ofText_of_ofLines base (SourceLine.ofLines_eq_ok h 1), ← SourceLine.numbered_eq h,
    size_numbered]

/-- A listing has an image exactly if no number is too high and the address after its lines, in a
word of 32 bits, fits in sixteen. -/
theorem ofText_eq_ok_iff {image : Bytes} :
    ofText text base = .ok image ↔
      (∀ line ∈ Text.lines text, ¬IsTooHigh line) ∧
        (base.toNat + textSize text) % 2 ^ 32 ≤ 65535 ∧
        image = layout base.toNat ((SourceLine.numbered text).map crunchLine) := by
  by_cases h : ∀ line ∈ Text.lines text, ¬IsTooHigh line
  · rw [ofText_of_not_isTooHigh h, and_iff_right h]
    by_cases hlarge : 65535 < (base.toNat + textSize text) % 2 ^ 32
    · rw [if_pos hlarge]
      exact iff_of_false (by simp) fun hfits ↦ absurd hfits.1 (Nat.not_le.mpr hlarge)
    · rw [if_neg hlarge, Except.ok.injEq, eq_comm]
      exact (and_iff_right (Nat.not_lt.mp hlarge)).symm
  · refine iff_of_false (fun hok ↦ ?_) fun hall ↦ h hall.1
    cases hlines : SourceLine.ofLines 1 (Text.lines text) with
    | error e => simp [ofText, hlines] at hok
    | ok sources => exact h (SourceLine.ofLines_eq_ok_iff.mp hlines).1

/-- Below 2 ^ 32 the address itself has to fit. -/
theorem ofText_eq_ok_iff_of_lt {image : Bytes} (hword : base.toNat + textSize text < 2 ^ 32) :
    ofText text base = .ok image ↔
      (∀ line ∈ Text.lines text, ¬IsTooHigh line) ∧ base.toNat + textSize text ≤ 65535 ∧
        image = layout base.toNat ((SourceLine.numbered text).map crunchLine) := by
  rw [ofText_eq_ok_iff, Nat.mod_eq_of_lt hword]

/-- Lines that are not numbered have a part in nothing but the count of lines in errors. -/
theorem mapError_ofText {other : Text}
    (h : (Text.lines other).filter IsNumbered = (Text.lines text).filter IsNumbered)
    (base : UInt16) :
    (ofText other base).mapError (ImageError.atLine 0) =
      (ofText text base).mapError (ImageError.atLine 0) := by
  -- What follows the reading of the lines reports no line.
  have hread (text : Text) : (ofText text base).mapError (ImageError.atLine 0) =
      ((SourceLine.ofLines 1 (Text.lines text)).mapError (ImageError.atLine 0)).bind fun sources ↦
        let lines := sources.map crunchLine
        let found := addresses base.toUInt32 lines
        if 65535 < found.2 then .error (.programTooLarge found.2)
        else .ok (link found.1 found.2 lines) := by
    unfold ofText
    cases SourceLine.ofLines 1 (Text.lines text) with
    | error e => rfl
    | ok sources =>
      by_cases hlarge : 65535 < (addresses base.toUInt32 (sources.map crunchLine)).2
      · simp only [if_pos hlarge, Except.mapError, Except.bind, ImageError.atLine]
      · simp only [if_neg hlarge, Except.mapError, Except.bind]
  rw [hread, hread, SourceLine.mapError_ofLines (Text.lines other) 1 1, h,
    ← SourceLine.mapError_ofLines (Text.lines text) 1 1]

/-- What becomes of a listing whose image would end below 2 ^ 32. No address on the way begins again
at zero. If a line number is too high, the first such line is reported with its digits as they are written.
Otherwise the numbered lines are read with the values of their digits, and the image is refused with
its end address if this does not fit in sixteen bits, and else ends there. Two texts with the same
numbered lines have the same image or the same error, errors being reported for the line at which
they stand. -/
theorem ofText_outcome (hword : base.toNat + textSize text < 2 ^ 32) :
    let endAddress := base.toNat + textSize text
    Unwrapped base ((SourceLine.numbered text).map crunchLine) ∧
      ((∃ line ∈ Text.lines text, IsTooHigh line) →
        ∃ before line after, Text.lines text = before ++ line :: after ∧
          (∀ earlier ∈ before, ¬IsTooHigh earlier) ∧ IsTooHigh line ∧
          ofText text base =
            .error (.lineNumberOutOfRange (before.length + 1) (SourceLine.digits line))) ∧
      ((∀ line ∈ Text.lines text, ¬IsTooHigh line) →
        SourceLine.numbered text =
            ((Text.lines text).filter IsNumbered).map SourceLine.ofNumbered ∧
          (65535 < endAddress →
            ofText text base = .error (.programTooLarge (UInt32.ofNat endAddress))) ∧
          (endAddress ≤ 65535 → ∃ image, ofText text base = .ok image ∧
            image.length = endAddress - base.toNat)) ∧
      ∀ other, (Text.lines other).filter IsNumbered = (Text.lines text).filter IsNumbered →
        (ofText other base).mapError (ImageError.atLine 0) =
          (ofText text base).mapError (ImageError.atLine 0) := by
  intro endAddress
  have hcut : endAddress % 2 ^ 32 = endAddress := Nat.mod_eq_of_lt hword
  refine ⟨unwrapped (by rwa [size_numbered]), fun hhigh ↦ ?_, fun hnone ↦ ⟨?_, ?_, ?_⟩,
    fun other hother ↦ mapError_ofText hother base⟩
  · obtain ⟨before, line, after, hparts, hbefore, hline⟩ :=
      SourceLine.exists_first_isTooHigh hhigh
    refine ⟨before, line, after, hparts, hbefore, hline, ?_⟩
    rw [ofText, hparts, SourceLine.ofLines_of_isTooHigh hbefore hline, Nat.add_comm]
  · exact SourceLine.numbered_eq hnone
  · intro hlarge
    rw [ofText_of_not_isTooHigh hnone, if_pos (hcut ▸ hlarge)]
  · intro hfits
    refine ⟨layout base.toNat ((SourceLine.numbered text).map crunchLine), ?_, ?_⟩
    · rw [ofText_of_not_isTooHigh hnone, if_neg (Nat.not_lt.mpr (hcut ▸ hfits))]
    · rw [length_layout, size_numbered]
      exact (Nat.add_sub_cancel_left _ _).symm

/-- A listing that ends at the highest address and would end past it one address later, and one with
two numbers that are too high, of which the first has leading zeros. -/
theorem ofText_outcome_highest :
    let short := "20 END\n\nnote".toList
    let high := "10 END\n 0070000 X\n99999 Y".toList
    (0xFFFA : UInt16).toNat + textSize short < 2 ^ 32 ∧
      (∃ image, ofText short 0xFFF9 = .ok image ∧ image.length = 6) ∧
      ofText short 0xFFFA = .error (.programTooLarge 65536) ∧
      Unwrapped 0xFFFA ((SourceLine.numbered short).map crunchLine) ∧
      (ofText "20 END".toList 0xFFFA).mapError (ImageError.atLine 0) =
        (ofText short 0xFFFA).mapError (ImageError.atLine 0) ∧
      ∃ before line after, Text.lines high = before ++ line :: after ∧
        (∀ earlier ∈ before, ¬IsTooHigh earlier) ∧ IsTooHigh line ∧
        ofText high 0 = .error (.lineNumberOutOfRange (before.length + 1) (SourceLine.digits line)) := by
  intro short high
  have hshort : textSize short = 6 := by decide +kernel
  have hhigh : textSize high = 6 := by decide +kernel
  have hnone : ∀ line ∈ Text.lines short, ¬IsTooHigh line := by decide +kernel
  have hlow : (0xFFF9 : UInt16).toNat + textSize short < 2 ^ 32 := by rw [hshort]; decide
  have hnext : (0xFFFA : UInt16).toNat + textSize short < 2 ^ 32 := by rw [hshort]; decide
  have hzero : (0 : UInt16).toNat + textSize high < 2 ^ 32 := by rw [hhigh]; decide
  obtain ⟨-, -, hfits, -⟩ := ofText_outcome hlow
  obtain ⟨hunwrapped, -, hlarge, hother⟩ := ofText_outcome hnext
  obtain ⟨-, hfirst, -⟩ := ofText_outcome hzero
  rw [hshort] at hfits hlarge
  obtain ⟨image, himage, hlength⟩ := (hfits hnone).2.2 (by decide)
  refine ⟨hnext, ⟨image, himage, hlength⟩, (hlarge hnone).2.1 (by decide), hunwrapped,
    hother _ (by decide +kernel), hfirst ?_⟩
  exact ⟨"99999 Y".toList, by decide +kernel, by decide +kernel⟩

end Image

end ChanceDeck
