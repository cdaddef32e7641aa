import ChanceDeck.Proofs.Basic.Lexeme
import Mathlib.Data.List.Forall2

/-!
# Crunched lines spelled out again

A crunched line of ASCII characters spells the line again when each byte of the upper half is
replaced by its keyword, but for the case of letters in keywords, for the colons put before `ELSE`,
and for what follows an apostrophe that ends the line (`crunch_expand`).

The colons are kept apart first: `withColons` puts them into bytes that have none, and the bytes of a
line are those of its lexemes one by one with the colons put in (`encode_eq_withColons`). Then each
of those bytes stands for a piece of the line, a character or a keyword (`restores_lexemes`).
-/

set_option autoImplicit false
set_option relaxedAutoImplicit false

namespace ChanceDeck

namespace Keyword

/-- The keywords stand in the table in the order of their bytes. -/
theorem getElem?_of_mem_table {entry : Text × UInt8} (h : entry ∈ table) :
    words[entry.2.toNat - 0x80]? = some entry.1 := by
  obtain ⟨⟨word, index⟩, hindexed, rfl⟩ := List.mem_map.mp h
  have hword : words[index]? = some word := List.mem_zipIdx_iff_getElem?.mp hindexed
  have hindex := index_lt_of_mem_zipIdx hindexed
  show words[(UInt8.ofNat (0x80 + index)).toNat - 0x80]? = some word
  rw [UInt8.toNat_ofNat', Nat.mod_eq_of_lt (by omega), Nat.add_sub_cancel_left, hword]

end Keyword

namespace Lexeme

/-! ### Colons put before `ELSE` -/

/-- Bytes with a colon put before each `ELSE` that neither stands first nor has one before it. -/
def withColons (previous : Option UInt8) : Bytes → Bytes
  | [] => []
  | b :: rest =>
    (if b = Keyword.elseToken ∧ previous ≠ none ∧ previous ≠ some colon then [colon, b] else [b]) ++
      withColons (some b) rest

theorem withColons_append (previous : Option UInt8) (bytes more : Bytes) :
    withColons previous (bytes ++ more) =
      withColons previous bytes ++ withColons (bytes.getLast?.or previous) more := by
  induction bytes generalizing previous with
  | nil => rfl
  | cons b bytes ih =>
    have hlast : (b :: bytes).getLast?.or previous = bytes.getLast?.or (some b) := by
      rw [List.getLast?_cons]
      cases bytes.getLast? <;> rfl
    rw [List.cons_append, withColons, withColons, ih, hlast, List.append_assoc]

theorem withColons_of_not_mem {bytes : Bytes} (h : Keyword.elseToken ∉ bytes)
    (previous : Option UInt8) : withColons previous bytes = bytes := by
  induction bytes generalizing previous with
  | nil => rfl
  | cons b bytes ih =>
    rw [List.mem_cons, not_or] at h
    rw [withColons, if_neg fun hb ↦ h.1 hb.1.symm, ih h.2]
    rfl

/-! ### What lexemes stand for -/

/-- What a lexeme of a line of ASCII characters is like: a keyword stands in the table as it is
spelled, but for the case of letters, and any other lexeme holds ASCII characters. -/
def Plainly : Lexeme → Prop
  | keyword token spelling => (spelling.map Char.toUpper, token) ∈ Keyword.table
  | lexeme => lexeme.spelling.Ascii

variable {previous : Option Char} {inString : Bool} {text : Text} {lexemes : List Lexeme}

theorem Scanned.plainly (h : Scanned previous inString text lexemes) (hascii : text.Ascii) :
    ∀ lexeme ∈ lexemes, lexeme.Plainly := by
  induction h with
  | nil => exact fun _ hmem ↦ absurd hmem List.not_mem_nil
  | quote _ _ ih | literal _ _ ih | plain _ _ _ _ ih =>
    obtain ⟨hc, hrest⟩ := Text.ascii_cons.mp hascii
    exact List.forall_mem_cons.mpr ⟨List.forall_mem_singleton.mpr hc, ih hrest⟩
  | apostrophe => exact List.forall_mem_singleton.mpr hascii
  | keyword hheads _ _ ih =>
    exact List.forall_mem_cons.mpr
      ⟨(hheads.isLongest hascii).mem, ih (Text.ascii_append.mp hascii).2⟩
  | keeping hheads _ =>
    exact List.forall_mem_cons.mpr ⟨(hheads.isLongest hascii).mem,
      List.forall_mem_singleton.mpr (Text.ascii_append.mp hascii).2⟩

theorem elseToken_not_mem_map_charByte (hascii : text.Ascii) :
    Keyword.elseToken ∉ text.map charByte := by
  intro hmem
  obtain ⟨c, hc, heq⟩ := List.mem_map.mp hmem
  have hnat := toNat_charByte (hascii c hc)
  rw [heq] at hnat
  have hlow := hascii c hc
  rw [← hnat] at hlow
  exact absurd hlow (by decide)

/-- Colons apart, what stands before a lexeme has no part in its bytes. -/
theorem Plainly.bytes_eq {lexeme : Lexeme} (h : lexeme.Plainly) (previous : Option UInt8) :
    lexeme.bytes previous = withColons previous (lexeme.bytes none) ∧
      (lexeme.bytes previous).getLast? = (lexeme.bytes none).getLast? := by
  cases lexeme with
  | keyword token spelling =>
    simp only [bytes, withColons, ne_eq, not_true_eq_false, false_and, and_false, if_false,
      List.append_nil, true_and]
    split_ifs <;> rfl
  | quote | literal c | plain c | tail text =>
    exact ⟨(withColons_of_not_mem (elseToken_not_mem_map_charByte h) previous).symm, rfl⟩
  | apostrophe text =>
    have hnone : Keyword.elseToken ∉ [colon, Keyword.remToken, Keyword.apostropheToken] := by decide
    exact ⟨(withColons_of_not_mem hnone previous).symm, rfl⟩

/-- The bytes of lexemes are the bytes of each with the colons put in. -/
theorem encode_eq_withColons (h : ∀ lexeme ∈ lexemes, lexeme.Plainly) (previous : Option UInt8) :
    encode previous lexemes = withColons previous (lexemes.flatMap (bytes none)) := by
  induction lexemes generalizing previous with
  | nil => rfl
  | cons lexeme rest ih =>
    obtain ⟨hfirst, hrest⟩ := List.forall_mem_cons.mp h
    obtain ⟨hbytes, hlast⟩ := hfirst.bytes_eq previous
    rw [List.flatMap_cons, withColons_append, ← hbytes, ← hlast, ← ih hrest]
    rfl

/-! ### Bytes spelled out -/

/-- What a byte is spelled as: a byte of the upper half as its keyword, any other as its
character. -/
def expandByte (b : UInt8) : Text :=
  if 0x80 ≤ b then Keyword.words.getD (b.toNat - 0x80) [] else [Char.ofNat b.toNat]

/-- Whether bytes spell a text piece by piece, where the letters of keywords may have any case. -/
def Restores (bytes : Bytes) (text : Text) : Prop :=
  ∃ pieces : List Text, text = pieces.flatten ∧ List.Forall₂ (fun b piece ↦
    if 0x80 ≤ b then expandByte b = piece.map Char.toUpper else expandByte b = piece) bytes pieces

theorem restores_nil : Restores [] [] :=
  ⟨[], rfl, .nil⟩

theorem Restores.append {bytes more : Bytes} {other : Text} (h : Restores bytes text)
    (hmore : Restores more other) : Restores (bytes ++ more) (text ++ other) := by
  obtain ⟨pieces, rfl, hpieces⟩ := h
  obtain ⟨others, rfl, hothers⟩ := hmore
  exact ⟨pieces ++ others, List.flatten_append.symm, List.rel_append hpieces hothers⟩

theorem restores_charByte {c : Char} (hc : c.toNat < 0x80) : Restores [charByte c] [c] := by
  have hlow : ¬0x80 ≤ charByte c := by
    rw [UInt8.le_iff_toNat_le, toNat_charByte hc]
    exact Nat.not_le.mpr hc
  refine ⟨[[c]], rfl, .cons ?_ .nil⟩
  rw [if_neg hlow, expandByte, if_neg hlow, toNat_charByte hc, Char.ofNat_toNat]

theorem restores_map_charByte (hascii : text.Ascii) : Restores (text.map charByte) text := by
  induction text with
  | nil => exact restores_nil
  | cons c rest ih =>
    obtain ⟨hc, hrest⟩ := Text.ascii_cons.mp hascii
    exact (restores_charByte hc).append (ih hrest)

theorem restores_keyword {token : UInt8} {spelling : Text}
    (h : (spelling.map Char.toUpper, token) ∈ Keyword.table) : Restores [token] spelling := by
  have hhigh : 0x80 ≤ token := Keyword.le_of_mem_table h
  refine ⟨[spelling], (List.append_nil _).symm, .cons ?_ .nil⟩
  rw [if_pos hhigh, expandByte, if_pos hhigh, List.getD_eq_getElem?_getD,
    Keyword.getElem?_of_mem_table h, Option.getD_some]

/-- Colons apart, the bytes of lexemes spell what the lexemes spell. -/
theorem restores_lexemes (h : ∀ lexeme ∈ lexemes, lexeme.Plainly)
    (hnone : ∀ rest, apostrophe rest ∉ lexemes) :
    Restores (lexemes.flatMap (bytes none)) (spell lexemes) := by
  induction lexemes with
  | nil => exact restores_nil
  | cons lexeme rest ih =>
    obtain ⟨hfirst, hrest⟩ := List.forall_mem_cons.mp h
    rw [spell_cons, List.flatMap_cons]
    refine Restores.append ?_ (ih hrest fun text hmem ↦ hnone text (List.mem_cons_of_mem _ hmem))
    cases lexeme with
    | keyword token spelling =>
      have hbytes : (keyword token spelling).bytes none = [token] :=
        if_neg fun hcolon ↦ hcolon.2.1 rfl
      rw [hbytes]
      exact restores_keyword hfirst
    | quote | literal c | plain c | tail text => exact restores_map_charByte hfirst
    | apostrophe text => exact absurd List.mem_cons_self (hnone text)

/-! ### Characters kept as they are -/

/-- In string literals and after `REM` or `DATA` each character gives one byte. -/
theorem bytes_of_kept {code : Text} {earlier later : List Lexeme} {lexeme : Lexeme}
    (h : ofText code = earlier ++ lexeme :: later)
    (hkept : leavesOpen none false (spell earlier) = true ∨ Verbatim earlier)
    (previous : Option UInt8) : lexeme.bytes previous = lexeme.spelling.map charByte := by
  have hscanned := scanned_ofText code
  rw [h] at hscanned
  rcases hscanned.split with ⟨-, -, rest, rfl⟩ | ⟨hfree, hrest⟩
  · rfl
  · have hopen := hkept.resolve_right hfree
    rw [hopen] at hrest
    generalize spell (lexeme :: later) = ending at hrest
    cases hrest <;> rfl

end Lexeme

open Lexeme

/-- A crunched line of ASCII characters spells the line again. Up to the first apostrophe outside
string literals and before any `REM` or `DATA`, or else up to its end, the line is crunched as it
would be alone, and an apostrophe adds three bytes. The bytes of that part are its characters and
keywords in order, with a colon put before each `ELSE` that neither stands first nor has one; and
string literals, and what follows `REM` or `DATA`, are stored character by character. -/
theorem crunch_expand {code : Text} (hascii : code.Ascii) :
    (∃ before,
      ((code = before ∧ ∀ earlier more, code = earlier ++ '\x27' :: more → ¬Outside earlier) ∨
        ∃ after, code = before ++ '\x27' :: after ∧ Outside before ∧
          (∀ earlier more, code = earlier ++ '\x27' :: more → Outside earlier →
            before.length ≤ earlier.length) ∧
          crunch code = crunch before ++ [0x3A, 0x8E, 0xFF]) ∧
      ∃ bytes, crunch before = withColons none bytes ∧ Restores bytes before) ∧
    ∀ earlier lexeme later, ofText code = earlier ++ lexeme :: later →
      leavesOpen none false (spell earlier) = true ∨ Verbatim earlier →
      code = spell earlier ++ lexeme.spelling ++ spell later ∧
        ∃ rest, crunch code = encode none earlier ++
          lexeme.spelling.map (fun c ↦ UInt8.ofNat c.toNat) ++ rest := by
  have hspelled {before : Text} (hbefore : before.Ascii)
      (hnone : ∀ rest, apostrophe rest ∉ ofText before) :
      ∃ bytes, crunch before = withColons none bytes ∧ Restores bytes before := by
    have hplainly := (scanned_ofText before).plainly hbefore
    have hrestores := restores_lexemes hplainly hnone
    rw [spell_ofText] at hrestores
    exact ⟨_, encode_eq_withColons hplainly none, hrestores⟩
  constructor
  · rcases ends_cases code with
      ⟨hnone, hinside⟩ | ⟨before, after, hcode, houtside, hfirst, hnone, hlexemes⟩
    · exact ⟨code, Or.inl ⟨rfl, hinside⟩, hspelled hascii hnone⟩
    · have hbefore : before.Ascii := (Text.ascii_append.mp (hcode ▸ hascii)).1
      refine ⟨before, Or.inr ⟨after, hcode, houtside, hfirst, ?_⟩, hspelled hbefore hnone⟩
      rw [crunch, hlexemes, encode_append]
      rfl
  · intro earlier lexeme later h hkept
    have hparts : code = spell earlier ++ lexeme.spelling ++ spell later := by
      rw [List.append_assoc, ← spell_cons]
      exact eq_spell_append h
    have hlexeme : lexeme.spelling.Ascii :=
      (Text.ascii_append.mp (Text.ascii_append.mp (hparts ▸ hascii)).1).2
    have hbytes : lexeme.spelling.map charByte =
        lexeme.spelling.map fun c ↦ UInt8.ofNat c.toNat :=
      List.map_congr_left fun c hc ↦ if_pos (Nat.le_of_lt (Nat.lt_trans (hlexeme c hc) (by decide)))
    refine ⟨hparts, ?_⟩
    rw [crunch, h, encode_append, encode, bytes_of_kept h hkept, hbytes, ← List.append_assoc]
    exact ⟨_, rfl⟩

/-- Both kinds of `ELSE`, an apostrophe in a string literal and one that ends the line. -/
theorem crunch_expand_else :
    ∃ code : Text, code = "\x22'\x22:else A else'x".toList ∧ code.Ascii ∧
      crunch code = [0x22, 0x27, 0x22, 0x3A, 0x91, 0x20, 0x41, 0x20, 0x3A, 0x91, 0x3A, 0x8E, 0xFF] ∧
      ∃ before after bytes, code = before ++ '\x27' :: after ∧
        crunch code = crunch before ++ [0x3A, 0x8E, 0xFF] ∧
        crunch before = withColons none bytes ∧ Restores bytes before := by
  have hascii : Text.Ascii "\x22'\x22:else A else'x".toList := by decide
  have houtside : Outside "\x22'\x22:else A else".toList :=
    ⟨by decide, by decide +kernel⟩
  refine ⟨_, rfl, hascii, by decide +kernel, ?_⟩
  obtain ⟨before, hends, bytes, hbytes, hrestores⟩ := (crunch_expand hascii).1
  rcases hends with ⟨-, hinside⟩ | ⟨after, hcode, -, -, hcrunch⟩
  · exact absurd houtside (hinside _ ['x'] rfl)
  · exact ⟨before, after, bytes, hcode, hcrunch, hbytes, hrestores⟩

end ChanceDeck
