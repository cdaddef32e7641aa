import ChanceDeck.Listing.Audit
import ChanceDeck.Proofs.Text.Decimal

/-!
# The order of audited lines

An audit that objects to nothing has seen line numbers that strictly increase (`pairwise_numbers`):
each number that stands at the start of a line is compared with the last such number before it.

A card takes its line number from another reading, the one of data lines, which allows a plus sign
before the digits. Without the sign both readings give the same number (`lineNumber?_of_ofText?`),
so that the cards of a clean audit are in order as far as no data line begins with a plus sign
(`pairwise_lineNumber_of_isClean`). A line number with a sign is not compared with anything.
-/

set_option autoImplicit false
set_option relaxedAutoImplicit false

namespace ChanceDeck

/-- A number without a sign is spelled with digits only. -/
theorem Decimal.isDigit_of_natural? {limit n : Nat} {text : Text}
    (hread : natural? limit text = some n) (hunsigned : text.head? ≠ some '+') :
    ∀ c ∈ text, c.isDigit = true := by
  cases text with
  | nil => simp
  | cons c rest =>
    have hplus : c ≠ '+' := by simpa using hunsigned
    have hdigits : natural? limit (c :: rest) = (readDigits 10 limit 0 (c :: rest)).toOption := by
      simp [natural?, naturalIn, hplus]
    rw [hdigits] at hread
    cases hvalue : readDigits 10 limit 0 (c :: rest) with
    | error e => simp [hvalue, Except.toOption] at hread
    | ok m => exact isDigit_of_readDigits hvalue

namespace Audit

/-! ### The two readings of a line number -/

/-- A data line without a sign has the number that stands at its start. -/
theorem lineNumber?_of_ofText? {line : Text} {parts : DataLine}
    (hparts : DataLine.ofText? line = some parts) (hunsigned : (Text.trim line).head? ≠ some '+') :
    lineNumber? (Text.trim line) = some parts.lineNumber := by
  obtain ⟨⟨number, rest⟩, hcut, hrest⟩ := Option.bind_eq_some_iff.mp hparts
  obtain ⟨lineNumber, hnumber, hrest⟩ := Option.bind_eq_some_iff.mp hrest
  obtain ⟨_, -, hrest⟩ := Option.bind_eq_some_iff.mp hrest
  obtain ⟨_, -, hrest⟩ := Option.bind_eq_some_iff.mp hrest
  obtain ⟨_, -, hrest⟩ := Option.bind_eq_some_iff.mp hrest
  obtain ⟨_, -, hwhole⟩ := Option.bind_eq_some_iff.mp hrest
  have hsame : lineNumber = parts.lineNumber :=
    congrArg DataLine.lineNumber (Option.some.inj hwhole)
  have hline := Text.eq_append_of_cut? hcut
  have hhead : number.head? ≠ some '+' := by
    intro hplus
    apply hunsigned
    rw [hline, List.append_assoc, List.head?_append, hplus]
    rfl
  have hdigits := Decimal.isDigit_of_natural? hnumber hhead
  rw [lineNumber?, hline, List.append_assoc, List.takeWhile_append_of_pos hdigits,
    List.singleton_append, List.takeWhile_cons_of_neg (by decide), List.append_nil, hnumber, hsame]

/-! ### The order of the lines -/

variable {catalog : Catalog} {specials : Specials}

/-- The numbers at the start of lines, of the lines that have one. -/
def numbers (lines : List Text) : List Nat :=
  lines.filterMap fun line ↦ lineNumber? (Text.trim line)

theorem numbers_cons (line : Text) (rest : List Text) :
    numbers (line :: rest) = (lineNumber? (Text.trim line)).toList ++ numbers rest := by
  unfold numbers
  rw [List.filterMap_cons]
  cases lineNumber? (Text.trim line) <;> rfl

theorem lt_of_orderIssue {previous found : Nat}
    (h : orderIssue (some previous) (some found) = []) : previous < found := by
  simp only [orderIssue] at h
  split_ifs at h with hle
  exact Nat.not_le.mp hle

/-- The numbers of lines without an issue strictly increase, from the last one before them on. -/
theorem pairwise_numbers {lines : List Text} {textLine : Nat} {previous : Option Nat}
    (hclean : (ofLines catalog specials textLine previous lines).issues = []) :
    (previous.toList ++ numbers lines).Pairwise (· < ·) := by
  induction lines generalizing textLine previous with
  | nil => cases previous <;> simp [numbers]
  | cons raw rest ih =>
    rw [ofLines] at hclean
    split_ifs at hclean with hblank
    · have hnone : lineNumber? (Text.trim raw) = none := by
        rw [hblank]
        rfl
      rw [numbers_cons, hnone]
      exact ih hclean
    · obtain ⟨hhere, hlater⟩ := List.append_eq_nil_iff.mp hclean
      obtain ⟨horder, -⟩ := List.append_eq_nil_iff.mp hhere
      have hrest := ih hlater
      rw [numbers_cons]
      cases hfound : lineNumber? (Text.trim raw) with
      | none => simpa [hfound] using hrest
      | some found =>
        rw [hfound, Option.some_or] at hrest
        cases previous with
        | none => exact hrest
        | some last =>
          rw [hfound] at horder
          have hlt := lt_of_orderIssue horder
          refine List.pairwise_cons.mpr ⟨fun n hn ↦ ?_, hrest⟩
          rcases List.mem_cons.mp hn with rfl | hn
          · exact hlt
          · exact Nat.lt_trans hlt ((List.pairwise_cons.mp hrest).1 n hn)

/-- A line holds at most one card, which has the number of its data line. -/
theorem sublist_lineNumber_readLine (textLine : Nat) (line : Text) :
    ((readLine catalog specials textLine line).1.map AuditedCard.lineNumber).Sublist
      ((DataLine.ofText? line).map DataLine.lineNumber).toList := by
  rw [readLine]
  cases DataLine.ofText? line with
  | none => exact List.nil_sublist _
  | some parts =>
    cases hrecord : Record.ofValues catalog parts.values with
    | error e => simp [hrecord]
    | ok record => simp [hrecord]

theorem ofText?_trim (line : Text) : DataLine.ofText? (Text.trim line) = DataLine.ofText? line := by
  rw [DataLine.ofText?, DataLine.ofText?, Text.trim_trim]

/-- The numbers of cards are found at the start of their lines if no data line begins with a plus
sign. -/
theorem sublist_numbers {lines : List Text}
    (hunsigned : ∀ line ∈ lines, (Text.trim line).head? = some '+' → DataLine.ofText? line = none)
    (textLine : Nat) (previous : Option Nat) :
    ((ofLines catalog specials textLine previous lines).cards.map AuditedCard.lineNumber).Sublist
      (numbers lines) := by
  induction lines generalizing textLine previous with
  | nil => exact List.Sublist.refl _
  | cons raw rest ih =>
    have hrest := ih fun line hline ↦ hunsigned line (List.mem_cons_of_mem _ hline)
    have hline : ((DataLine.ofText? (Text.trim raw)).map DataLine.lineNumber).toList.Sublist
        (lineNumber? (Text.trim raw)).toList := by
      cases hparts : DataLine.ofText? (Text.trim raw) with
      | none => exact List.nil_sublist _
      | some parts =>
        have hhead : (Text.trim raw).head? ≠ some '+' := by
          intro hplus
          rw [ofText?_trim, hunsigned raw List.mem_cons_self hplus] at hparts
          exact absurd hparts (by simp)
        have hnumber := lineNumber?_of_ofText? hparts (by rwa [Text.trim_trim])
        rw [Text.trim_trim] at hnumber
        rw [hnumber]
        exact List.Sublist.refl _
    rw [numbers_cons, ofLines]
    split_ifs with hblank
    · exact (hrest _ _).trans (List.sublist_append_right _ _)
    · rw [List.map_append]
      exact ((sublist_lineNumber_readLine _ _).trans hline).append (hrest _ _)

/-- The cards of a clean audit stand in the order of their line numbers, if no data line begins with
a plus sign. -/
theorem pairwise_lineNumber_of_isClean {text : Text}
    (hclean : (ofText catalog specials text).isClean = true)
    (hunsigned : ∀ line ∈ Text.lines text,
      (Text.trim line).head? = some '+' → DataLine.ofText? line = none) :
    ((ofText catalog specials text).cards.map AuditedCard.lineNumber).Pairwise (· < ·) := by
  have hissues : (ofLines catalog specials 1 none (Text.lines text)).issues = [] :=
    List.isEmpty_iff.mp hclean
  exact (pairwise_numbers hissues).sublist (sublist_numbers hunsigned 1 none)

/-- Leading zeros, a line without a number, and a line that begins with a sign but holds no card. -/
theorem pairwise_lineNumber_of_isClean_zeros :
    (ofText .standard .standard ("0020 DATA 1,5,0,0,0,0,0,0  : REM Card 7: CE +5\n\n+9 PRINT\n" ++
      " 30 REM\n 031 DATA 0,0,0,0,0,0,0,0  : REM Card 8: no changes").toList).isClean = true ∧
    ((ofText .standard .standard ("0020 DATA 1,5,0,0,0,0,0,0  : REM Card 7: CE +5\n\n+9 PRINT\n" ++
      " 30 REM\n 031 DATA 0,0,0,0,0,0,0,0  : REM Card 8: no changes").toList).cards.map
        AuditedCard.lineNumber).Pairwise (· < ·) := by
  have hclean : (ofText .standard .standard
      ("0020 DATA 1,5,0,0,0,0,0,0  : REM Card 7: CE +5\n\n+9 PRINT\n" ++
        " 30 REM\n 031 DATA 0,0,0,0,0,0,0,0  : REM Card 8: no changes").toList).isClean = true := by
    decide +kernel
  exact ⟨hclean, pairwise_lineNumber_of_isClean hclean (by decide +kernel)⟩

/-- A plus sign keeps a line number from being compared: the audit is clean though the second card
has the smaller number. -/
theorem isClean_of_plus :
    (ofText .standard .standard ("20 DATA 0,0,0,0,0,0,0,0  : REM Card 1: no changes\n" ++
      "+10 DATA 0,0,0,0,0,0,0,0  : REM Card 2: no changes\n").toList).isClean = true ∧
    (ofText .standard .standard ("20 DATA 0,0,0,0,0,0,0,0  : REM Card 1: no changes\n" ++
      "+10 DATA 0,0,0,0,0,0,0,0  : REM Card 2: no changes\n").toList).cards.map
        AuditedCard.lineNumber = [20, 10] := by
  decide +kernel

end Audit

end ChanceDeck
