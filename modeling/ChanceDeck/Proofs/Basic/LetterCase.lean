import ChanceDeck.Proofs.Basic.Lexeme

/-!
# Letter case

The case of the letters `A` to `Z` has no part in how a line is crunched. Lowering them in the line
lowers their bytes in the crunched line and changes nothing else there (`crunch_map_toLower`): the
scanner takes the same lexemes, only spelled in lower case (`Scanned.lower`, one case for each
rule), since the upper-case images in which it looks for keywords are the same; and lexemes spelled
in lower case give lowered bytes (`encode_map_lower`), a keyword because its byte is none of a
letter, and the colon before `ELSE` because a colon has no case.

Hence two lines that differ in letter case only have crunched lines of one length, which agree in
every byte of the upper half and up to letter case in the others (`crunch_congr_toLower`).
-/

set_option autoImplicit false
set_option relaxedAutoImplicit false

namespace ChanceDeck

/-! ### Characters -/

namespace Text

theorem toNat_toLower (c : Char) :
    c.toLower.toNat = if 65 ≤ c.toNat ∧ c.toNat ≤ 90 then c.toNat + 32 else c.toNat := by
  have hrange : (c.val ≥ 'A'.val ∧ c.val ≤ 'Z'.val) ↔ 65 ≤ c.toNat ∧ c.toNat ≤ 90 := Iff.rfl
  unfold Char.toLower
  by_cases h : 65 ≤ c.toNat ∧ c.toNat ≤ 90
  · rw [dif_pos (hrange.mpr h), if_pos h]
    show (c.val + 32).toNat = c.val.toNat + 32
    have hle : c.val.toNat ≤ 90 := h.2
    rw [UInt32.toNat_add]
    exact Nat.mod_eq_of_lt (Nat.lt_of_le_of_lt (Nat.add_le_add_right hle 32) (by decide))
  · rw [dif_neg (mt hrange.mp h), if_neg h]

/-- A mark that is no letter is the image of itself only. -/
theorem toLower_eq_iff {c mark : Char}
    (hmark : ¬(65 ≤ mark.toNat ∧ mark.toNat ≤ 90) ∧ ¬(97 ≤ mark.toNat ∧ mark.toNat ≤ 122)) :
    c.toLower = mark ↔ c = mark := by
  rw [← Char.toNat_inj, ← Char.toNat_inj, toNat_toLower]
  split_ifs with h <;> omega

end Text

/-! ### Keywords -/

namespace Keyword

theorem upperChar_toLower (c : Char) : upperChar c.toLower = upperChar c := by
  by_cases hascii : c.toNat < 0x80
  · have hall : ∀ n < 0x80, upperChar (Char.ofNat n).toLower = upperChar (Char.ofNat n) := by
      decide +kernel
    rw [← Char.ofNat_toNat c]
    exact hall c.toNat hascii
  · have hsame : c.toLower = c := by
      rw [← Char.toNat_inj, Text.toNat_toLower, if_neg (by omega)]
    rw [hsame]

theorem upper_map_toLower (text : Text) : upper (text.map Char.toLower) = upper text := by
  simp only [upper, List.flatMap_map, upperChar_toLower]

/-- The search for a keyword does not look at letter case. -/
theorem longest?_map_toLower (text : Text) : longest? (text.map Char.toLower) = longest? text := by
  rw [longest?_eq, longest?_eq]
  refine longestUpTo_congr fun length _ ↦ ?_
  rw [tokenAt?, tokenAt?, List.length_map, ← List.map_take, upper_map_toLower]

theorem Heads.map_toLower {token : UInt8} {spelling rest : Text} (h : Heads token spelling rest) :
    Heads token (spelling.map Char.toLower) (rest.map Char.toLower) := by
  constructor
  · rw [← List.map_append, longest?_map_toLower, List.length_map]
    exact h.longest
  · obtain ⟨c, more, rfl, hc⟩ := h.exists_cons
    intro hhead
    exact hc ((Text.toLower_eq_iff (by decide)).mp (Option.some.inj hhead))

end Keyword

namespace Lexeme

/-! ### Lexemes -/

/-- A lexeme spelled in lower case. -/
def lower : Lexeme → Lexeme
  | quote => quote
  | literal c => literal c.toLower
  | keyword token spelling => keyword token (spelling.map Char.toLower)
  | plain c => plain c.toLower
  | tail text => tail (text.map Char.toLower)
  | apostrophe text => apostrophe (text.map Char.toLower)

variable {previous : Option Char} {inString : Bool} {text : Text} {lexemes : List Lexeme}

/-- Whether a quotation mark opens or closes a string literal does not depend on letter case. -/
theorem quotes_toLower {c : Char} :
    c.toLower = '\x22' ∧ previous.map Char.toLower ≠ some '\\' ↔
      c = '\x22' ∧ previous ≠ some '\\' := by
  have hbackslash : previous.map Char.toLower = some '\\' ↔ previous = some '\\' := by
    cases previous with
    | none => exact Iff.rfl
    | some d =>
      rw [Option.map_some, Option.some.injEq, Option.some.injEq]
      exact Text.toLower_eq_iff (by decide)
  rw [Text.toLower_eq_iff (by decide), Ne, hbackslash]

/-- A line in lower case is scanned as the line is. -/
theorem Scanned.lower (h : Scanned previous inString text lexemes) :
    Scanned (previous.map Char.toLower) inString (text.map Char.toLower)
      (lexemes.map Lexeme.lower) := by
  induction h with
  | nil => exact .nil
  | quote hfree _ ih => exact .quote (quotes_toLower.mpr ⟨rfl, hfree⟩).2 ih
  | literal hquote _ ih => exact .literal (mt quotes_toLower.mp hquote) ih
  | apostrophe => exact .apostrophe
  | plain hquote hapostrophe hnone _ ih =>
    refine .plain (mt quotes_toLower.mp hquote) ?_ ?_ ih
    · exact mt (Text.toLower_eq_iff (by decide)).mp hapostrophe
    · exact (Keyword.longest?_map_toLower _).trans hnone
  | keyword hheads hgoesOn _ ih =>
    rw [← List.getLast?_map] at ih
    rw [List.map_append]
    exact .keyword hheads.map_toLower hgoesOn ih
  | keeping hheads hkeeps =>
    rw [List.map_append]
    exact .keeping hheads.map_toLower hkeeps

theorem ofText_map_toLower (code : Text) :
    ofText (code.map Char.toLower) = (ofText code).map Lexeme.lower :=
  (scanned_ofText code).lower.scan_eq

/-! ### Bytes -/

/-- The byte of a letter in lower case; any other byte stands for itself. -/
def lowerByte (b : UInt8) : UInt8 :=
  if 0x41 ≤ b ∧ b ≤ 0x5A then b + 0x20 else b

theorem toNat_lowerByte (b : UInt8) :
    (lowerByte b).toNat = if 65 ≤ b.toNat ∧ b.toNat ≤ 90 then b.toNat + 32 else b.toNat := by
  have hrange : (0x41 ≤ b ∧ b ≤ 0x5A) ↔ 65 ≤ b.toNat ∧ b.toNat ≤ 90 := by
    rw [UInt8.le_iff_toNat_le, UInt8.le_iff_toNat_le]
    exact Iff.rfl
  unfold lowerByte
  by_cases h : 65 ≤ b.toNat ∧ b.toNat ≤ 90
  · rw [if_pos (hrange.mpr h), if_pos h, UInt8.toNat_add]
    exact Nat.mod_eq_of_lt (Nat.lt_of_le_of_lt (Nat.add_le_add_right h.2 32) (by decide))
  · rw [if_neg (mt hrange.mp h), if_neg h]

theorem lowerByte_of_le {b : UInt8} (h : 0x80 ≤ b) : lowerByte b = b := by
  have hhigh : 128 ≤ b.toNat := UInt8.le_iff_toNat_le.mp h
  rw [← UInt8.toNat_inj, toNat_lowerByte, if_neg (by omega)]

/-- Bytes that are the same up to letter case are the same if one is of the upper half. -/
theorem eq_of_lowerByte_eq {b other : UInt8} (h : lowerByte b = lowerByte other)
    (hhigh : 0x80 ≤ b ∨ 0x80 ≤ other) : b = other := by
  rw [← UInt8.toNat_inj, toNat_lowerByte, toNat_lowerByte] at h
  rw [UInt8.le_iff_toNat_le, UInt8.le_iff_toNat_le] at hhigh
  have hbound : (0x80 : UInt8).toNat = 128 := rfl
  rw [← UInt8.toNat_inj]
  split_ifs at h <;> omega

theorem charByte_toLower (c : Char) : charByte c.toLower = lowerByte (charByte c) := by
  have hbyte (d : Char) :
      (charByte d).toNat = if d.toNat ≤ 255 then d.toNat else 63 := by
    unfold charByte
    by_cases hlatin : d.toNat ≤ 255
    · rw [if_pos hlatin, if_pos hlatin, UInt8.toNat_ofNat', Nat.mod_eq_of_lt (by omega)]
    · rw [if_neg hlatin, if_neg hlatin]
      rfl
  rw [← UInt8.toNat_inj, toNat_lowerByte, hbyte, hbyte, Text.toNat_toLower]
  split_ifs <;> omega

theorem map_charByte_toLower (text : Text) :
    (text.map Char.toLower).map charByte = (text.map charByte).map lowerByte := by
  simp only [List.map_map, Function.comp_def, charByte_toLower]

/-- A colon before a lexeme is one in either case. -/
theorem map_lowerByte_eq_colon {before : Option UInt8} :
    before.map lowerByte = some colon ↔ before = some colon := by
  cases before with
  | none => exact Iff.rfl
  | some b =>
    rw [Option.map_some, Option.some.injEq, Option.some.injEq, ← UInt8.toNat_inj,
      ← UInt8.toNat_inj, toNat_lowerByte]
    have hcolon : colon.toNat = 58 := rfl
    split_ifs <;> omega

/-- A lexeme in lower case gives its bytes in lower case; the byte of a keyword has no case. -/
theorem bytes_lower {lexeme : Lexeme}
    (htoken : ∀ token spelling, lexeme = keyword token spelling → 0x80 ≤ token)
    (before : Option UInt8) :
    lexeme.lower.bytes (before.map lowerByte) = (lexeme.bytes before).map lowerByte := by
  cases lexeme with
  | quote => rfl
  | literal c | plain c => exact map_charByte_toLower [c]
  | keyword token spelling =>
    have hsame : lowerByte token = token := lowerByte_of_le (htoken token spelling rfl)
    have hnone : before.map lowerByte = none ↔ before = none := Option.map_eq_none_iff
    have hcolon : lowerByte colon = colon := rfl
    simp only [lower, bytes, Ne, hnone, map_lowerByte_eq_colon]
    split_ifs
    · rw [List.map_cons, List.map_singleton, hsame, hcolon]
    · rw [List.map_singleton, hsame]
  | tail text => exact map_charByte_toLower text
  | apostrophe text => rfl

theorem encode_map_lower (htoken : ∀ token spelling, keyword token spelling ∈ lexemes →
    0x80 ≤ token) (before : Option UInt8) :
    encode (before.map lowerByte) (lexemes.map lower) = (encode before lexemes).map lowerByte := by
  induction lexemes generalizing before with
  | nil => rfl
  | cons lexeme rest ih =>
    have hfirst : bytes (before.map lowerByte) (lower lexeme) =
        (bytes before lexeme).map lowerByte :=
      bytes_lower (fun token spelling h ↦ htoken token spelling (h ▸ List.mem_cons_self)) before
    have hrest := ih fun token spelling h ↦ htoken token spelling (List.mem_cons_of_mem _ h)
    rw [List.map_cons, encode, encode, hfirst, List.getLast?_map, ← Option.map_or, hrest,
      List.map_append]

end Lexeme

open Lexeme

/-- A line in lower case is crunched to the crunched line in lower case. -/
theorem crunch_map_toLower (code : Text) :
    crunch (code.map Char.toLower) = (crunch code).map lowerByte := by
  rw [crunch, ofText_map_toLower]
  refine encode_map_lower (fun token spelling hmem ↦ ?_) none
  exact Keyword.le_of_mem_table ((scanned_ofText code).mem_table hmem)

/-- Lines that differ in letter case only are crunched to bytes that differ in letter case only: as
many, those of the upper half the same, and the others the same up to the case of letters. -/
theorem crunch_congr_toLower {code other : Text}
    (h : code.map Char.toLower = other.map Char.toLower) :
    (crunch code).length = (crunch other).length ∧
      ∀ (position : Nat) (b b' : UInt8), (crunch code)[position]? = some b →
        (crunch other)[position]? = some b' →
          (0x80 ≤ b ∨ 0x80 ≤ b' → b = b') ∧ lowerByte b = lowerByte b' := by
  have hbytes : (crunch code).map lowerByte = (crunch other).map lowerByte := by
    rw [← crunch_map_toLower, ← crunch_map_toLower, h]
  constructor
  · rw [← List.length_map (f := lowerByte), hbytes, List.length_map]
  · intro position b b' hb hb'
    have hsame : some (lowerByte b) = some (lowerByte b') := by
      rw [← Option.map_some, ← Option.map_some, ← hb, ← hb', ← List.getElem?_map,
        ← List.getElem?_map, hbytes]
    have hlower := Option.some.inj hsame
    exact ⟨eq_of_lowerByte_eq hlower, hlower⟩

/-- An `ELSE` that gets a colon, a string literal, a ligature whose upper-case image is longer and
makes a keyword with the letters after it, and `REM` with a tail. -/
theorem crunch_congr_toLower_ligature :
    ∃ code other : Text, code = "If a Else \x22Hi\x22 \uFB01leS:Rem x".toList ∧
      other = "iF A eLSE \x22hI\x22 \uFB01LEs:rEM X".toList ∧
      code.map Char.toLower = other.map Char.toLower ∧
      crunch code = [0x8A, 0x20, 0x61, 0x20, 0x3A, 0x91, 0x20, 0x22, 0x48, 0x69, 0x22, 0x20, 0x9D,
        0x3A, 0x8E, 0x20, 0x78] ∧
      (crunch other).length = 17 ∧
      (∀ b', (crunch other)[12]? = some b' → b' = 0x9D) ∧
      ∀ b', (crunch other)[9]? = some b' → lowerByte b' = 0x69 := by
  have hcase : "If a Else \x22Hi\x22 \uFB01leS:Rem x".toList.map Char.toLower =
      "iF A eLSE \x22hI\x22 \uFB01LEs:rEM X".toList.map Char.toLower := by
    decide +kernel
  have hcrunch : crunch "If a Else \x22Hi\x22 \uFB01leS:Rem x".toList =
      [0x8A, 0x20, 0x61, 0x20, 0x3A, 0x91, 0x20, 0x22, 0x48, 0x69, 0x22, 0x20, 0x9D, 0x3A, 0x8E,
        0x20, 0x78] := by
    decide +kernel
  obtain ⟨hlength, hbytes⟩ := crunch_congr_toLower hcase
  rw [hcrunch] at hlength hbytes
  refine ⟨_, _, rfl, rfl, hcase, hcrunch, hlength.symm, fun b' hb' ↦ ?_, fun b' hb' ↦ ?_⟩
  · exact ((hbytes 12 0x9D b' rfl hb').1 (Or.inl (by decide))).symm
  · exact (hbytes 9 0x69 b' rfl hb').2.symm

end ChanceDeck
