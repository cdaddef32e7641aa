import ChanceDeck.Proofs.Basic.Outcome
import ChanceDeck.Proofs.Text.Lines

/-!
# Images one after another

Where a new line begins between two texts, the image of both is the image of the first with the
image of the second after it, laid out from the address that the first leaves free
(`ofText_append`). The numbered lines of both texts are those of the first and those of the second
(`SourceLine.numbered_append`), and lines are laid out one after another (`layout_append`). The
pointer of a last line is the address after it (`exists_walk_last`), which is where the first line of
the second image begins.
-/

set_option autoImplicit false
set_option relaxedAutoImplicit false

namespace ChanceDeck

namespace SourceLine

/-- The numbered lines of a text are the lines that begin with a digit, those whose number is too
high left out. -/
theorem numbered_eq_filter (text : Text) :
    numbered text =
      ((Text.lines text).filter fun line ↦ IsNumbered line ∧ ¬IsTooHigh line).map ofNumbered := by
  have hread (entry : Text × Nat) : (ofText entry.2 entry.1).toOption.join =
      if IsNumbered entry.1 ∧ ¬IsTooHigh entry.1 then some (ofNumbered entry.1) else none := by
    rw [ofText_eq]
    by_cases hhigh : IsTooHigh entry.1
    · rw [if_pos hhigh, if_neg fun h ↦ h.2 hhigh]
      rfl
    · rw [if_neg hhigh]
      by_cases hnumbered : IsNumbered entry.1
      · rw [if_pos hnumbered, if_pos ⟨hnumbered, hhigh⟩]
        rfl
      · rw [if_neg hnumbered, if_neg fun h ↦ hnumbered h.1]
        rfl
  have hindexed (lines : List Text) (k : Nat) :
      (lines.zipIdx k).filterMap (fun entry ↦ (ofText entry.2 entry.1).toOption.join) =
        (lines.filter fun line ↦ IsNumbered line ∧ ¬IsTooHigh line).map ofNumbered := by
    induction lines generalizing k with
    | nil => rfl
    | cons line rest ih =>
      rw [List.zipIdx_cons, List.filterMap_cons, hread, ih, List.filter_cons]
      by_cases hline : IsNumbered line ∧ ¬IsTooHigh line
      · simp only [hline, not_false_eq_true, and_self, if_true, decide_true, List.map_cons]
      · simp only [hline, if_false, decide_false, Bool.false_eq_true]
  exact hindexed (Text.lines text) 1

/-- The numbered lines of two texts are those of the first and those of the second. -/
theorem numbered_append {before : Text} (h : Text.Ended before) (after : Text) :
    numbered (before ++ after) = numbered before ++ numbered after := by
  simp only [numbered_eq_filter, Text.lines_append_lines h, List.filter_append, List.map_append]

end SourceLine

namespace Image

open SourceLine (IsTooHigh)

theorem layout_append (address : Nat) (lines others : List ImageLine) :
    layout address (lines ++ others) =
      layout address lines ++ layout (address + size lines) others := by
  induction lines generalizing address with
  | nil => rfl
  | cons line rest ih =>
    rw [List.cons_append, layout_cons, layout_cons, ih, size_cons, List.append_assoc, Nat.add_assoc]

/-- The last line of an image points to the address after the image. -/
theorem next_of_mem_getLast?_visits {base : UInt16} {offset : Nat} {lines : List ImageLine}
    {visit : Visit} (h : visit ∈ (visits base offset lines).getLast?) :
    visit.next = UInt16.ofNat (base.toNat + (offset + size lines)) := by
  induction lines generalizing offset with
  | nil => exact absurd h (Option.not_mem_none _)
  | cons line rest ih =>
    have hplace : offset + size (line :: rest) = offset + width line + size rest := by
      rw [size_cons, Nat.add_assoc]
    rw [hplace]
    cases rest with
    | nil =>
      obtain rfl : _ = visit := Option.some.inj h
      rfl
    | cons next rest => exact ih h

theorem textSize_append {before : Text} (h : Text.Ended before) (after : Text) :
    textSize (before ++ after) = textSize before + textSize after := by
  rw [textSize, SourceLine.numbered_append h, List.map_append, List.sum_append]
  rfl

variable {before : Text} {base : UInt16} {image : Bytes}

theorem length_of_ofText {text : Text} (h : ofText text base = .ok image) :
    image.length = textSize text := by
  obtain ⟨-, -, rfl⟩ := ofText_eq_ok_iff.mp h
  rw [length_layout, size_numbered]

/-- The address after an image is one of sixteen bits. -/
theorem toNat_add_length {text : Text} (hword : base.toNat + textSize text < 2 ^ 32)
    (h : ofText text base = .ok image) :
    (base + UInt16.ofNat image.length).toNat = base.toNat + image.length := by
  have hfits := ((ofText_eq_ok_iff_of_lt hword).mp h).2.1
  rw [← length_of_ofText h] at hfits
  rw [UInt16.toNat_add, UInt16.toNat_ofNat', Nat.mod_eq_of_lt (by omega),
    Nat.mod_eq_of_lt (by omega)]

/-- A walk of an image meets the numbered lines of its text, and the last of them points to the
address after the image. -/
theorem exists_walk_last {text : Text} (hword : base.toNat + textSize text < 2 ^ 32)
    (h : ofText text base = .ok image) :
    ∃ met, walk image base 0 = some met ∧
      met.map Visit.line = (SourceLine.numbered text).map crunchLine ∧
      ∀ last ∈ met.getLast?, last.next = base + UInt16.ofNat image.length := by
  have hlength := length_of_ofText h
  refine ⟨visits base 0 _, (walk_eq_some_iff h _).mpr ⟨by rwa [hlength], rfl⟩,
    map_line_visits _ _ _, fun last hlast ↦ ?_⟩
  rw [next_of_mem_getLast?_visits hlast, Nat.zero_add, size_numbered, hlength, UInt16.ofNat_add,
    UInt16.ofNat_toNat]

/-- Two texts have an image together exactly if the first has one and the second has one at the
address after it. -/
theorem ofText_append_eq_ok_iff (hbefore : Text.Ended before) {after : Text}
    (hsize : textSize (before ++ after) < 2 ^ 32 - 65536) :
    ofText (before ++ after) base = .ok image ↔
      ∃ first second, ofText before base = .ok first ∧
        ofText after (base + UInt16.ofNat first.length) = .ok second ∧
        image = first ++ second := by
  rw [textSize_append hbefore] at hsize
  have hword (start : UInt16) : start.toNat + textSize before < 2 ^ 32 ∧
      start.toNat + textSize after < 2 ^ 32 ∧
      start.toNat + (textSize before + textSize after) < 2 ^ 32 := by
    have hstart := start.toNat_lt
    omega
  rw [ofText_eq_ok_iff, Text.lines_append_lines hbefore, List.forall_mem_append,
    textSize_append hbefore, Nat.mod_eq_of_lt (hword base).2.2, SourceLine.numbered_append hbefore,
    List.map_append, layout_append, size_numbered]
  constructor
  · rintro ⟨⟨hnone, hnone'⟩, hfits, rfl⟩
    have hfirst : ofText before base =
        .ok (layout base.toNat ((SourceLine.numbered before).map crunchLine)) :=
      (ofText_eq_ok_iff_of_lt (hword base).1).mpr ⟨hnone, by omega, rfl⟩
    have hnext := toNat_add_length (hword base).1 hfirst
    rw [length_of_ofText hfirst] at hnext
    refine ⟨_, _, hfirst, (ofText_eq_ok_iff_of_lt (hword _).2.1).mpr ⟨hnone', ?_, ?_⟩, rfl⟩
    · rw [length_of_ofText hfirst, hnext]
      omega
    · rw [length_of_ofText hfirst, hnext]
  · rintro ⟨first, second, hfirst, hsecond, rfl⟩
    have hnext := toNat_add_length (hword base).1 hfirst
    rw [length_of_ofText hfirst] at hnext
    obtain ⟨hnone, -, rfl⟩ := (ofText_eq_ok_iff_of_lt (hword base).1).mp hfirst
    obtain ⟨hnone', hfits, rfl⟩ := (ofText_eq_ok_iff_of_lt (hword _).2.1).mp hsecond
    rw [length_of_ofText hfirst, hnext] at hfits
    refine ⟨⟨hnone, hnone'⟩, by omega, ?_⟩
    rw [length_of_ofText hfirst, hnext]

/-- The image of two texts, between which a new line begins, is the image of the first followed by
the image of the second at the address after it, and there is one exactly if there are both. -/
theorem ofText_append {before : Text} (hbefore : Text.Ended before) (after : Text)
    (hsize : textSize (before ++ after) < 2 ^ 32 - 65536) (base : UInt16) :
    (∀ text ∈ [before ++ after, before, after], ∀ start,
      Unwrapped start ((SourceLine.numbered text).map crunchLine)) ∧
    (∀ image, ofText (before ++ after) base = .ok image ↔
      ∃ first second, ofText before base = .ok first ∧
        ofText after (base + UInt16.ofNat first.length) = .ok second ∧ image = first ++ second) ∧
    ∀ first, ofText before base = .ok first →
      (base + UInt16.ofNat first.length).toNat = base.toNat + first.length ∧
        ∃ met, walk first base 0 = some met ∧
          met.map Visit.line = (SourceLine.numbered before).map crunchLine ∧
          ∀ last ∈ met.getLast?, last.next = base + UInt16.ofNat first.length := by
  have hpart : ∀ text ∈ [before ++ after, before, after], ∀ start : UInt16,
      start.toNat + textSize text < 2 ^ 32 := by
    intro text htext start
    have hstart := start.toNat_lt
    have hsum := textSize_append hbefore after
    rcases (by simpa using htext : text = before ++ after ∨ text = before ∨ text = after) with
      rfl | rfl | rfl <;> omega
  have hfirstPart := hpart before (by simp) base
  refine ⟨fun text htext start ↦ unwrapped ?_, fun image ↦ ofText_append_eq_ok_iff hbefore hsize,
    fun first hfirst ↦
      ⟨toNat_add_length hfirstPart hfirst, exists_walk_last hfirstPart hfirst⟩⟩
  rw [size_numbered]
  exact hpart text htext start

/-- A line and a blank line before another line. -/
theorem ofText_append_blank :
    let before := "10 PRINT\n\n".toList
    let after := "20 END".toList
    Text.Ended before ∧ textSize (before ++ after) < 2 ^ 32 - 65536 ∧
      ∃ first second, ofText before 0x8001 = .ok first ∧
        ofText after (0x8001 + UInt16.ofNat first.length) = .ok second ∧
        first ++ second =
          [0x07, 0x80, 0x0A, 0x00, 0xA3, 0x00, 0x0D, 0x80, 0x14, 0x00, 0x80, 0x00] ∧
        ∃ met, walk first 0x8001 0 = some met ∧
          ∀ last ∈ met.getLast?, last.next = 0x8001 + UInt16.ofNat first.length := by
  intro before after
  have hended : Text.Ended before := by decide
  have hsize : textSize (before ++ after) = 12 := by decide +kernel
  have hbelow : textSize (before ++ after) < 2 ^ 32 - 65536 := by
    rw [hsize]
    decide
  have himage : ofText (before ++ after) 0x8001 =
      .ok [0x07, 0x80, 0x0A, 0x00, 0xA3, 0x00, 0x0D, 0x80, 0x14, 0x00, 0x80, 0x00] := by
    decide +kernel
  obtain ⟨-, hboth, hlast⟩ := ofText_append hended after hbelow 0x8001
  obtain ⟨first, second, hfirst, hsecond, hparts⟩ := (hboth _).mp himage
  obtain ⟨-, met, hwalk, -, hpointer⟩ := hlast first hfirst
  exact ⟨hended, hbelow, first, second, hfirst, hsecond, hparts.symm, met, hwalk, hpointer⟩

end Image

end ChanceDeck
