import ChanceDeck.Proofs.Basic.Lexeme

/-!
# No keyword is missed

Where the scanner is outside string literals and has met no `REM` or `DATA`, it takes the longest
keyword with which the rest of the line begins and goes on right after it, or, if the rest begins
with none, stores one character as it is (`Scanned.copied_or_isLongest`, one case for each rule).
Hence characters stored one after another spell no keyword: it would begin at one of them
(`exists_begins_of_infix`), and none does (`not_begins_of_copied`). `longest_match` says both of all
places of a line.
-/

set_option autoImplicit false
set_option relaxedAutoImplicit false

namespace ChanceDeck.Lexeme

open Keyword (Begins IsLongest)

variable {previous : Option Char} {inString : Bool} {text : Text} {lexeme : Lexeme}
  {others : List Lexeme}

/-! ### One place -/

/-- Whether a lexeme is a single character stored as it is, outside string literals or around
one. -/
def Copied (lexeme : Lexeme) : Prop :=
  lexeme = quote ∨ ∃ c, lexeme = plain c

theorem Copied.exists_spelling (h : lexeme.Copied) : ∃ c, lexeme.spelling = [c] := by
  rcases h with rfl | ⟨c, rfl⟩
  · exact ⟨_, rfl⟩
  · exact ⟨c, rfl⟩

/-- The byte of a character stored as it is is the number of the character. -/
theorem Copied.bytes_eq (h : lexeme.Copied) (hascii : lexeme.spelling.Ascii)
    (before : Option UInt8) :
    ∃ c, lexeme.spelling = [c] ∧ lexeme.bytes before = [UInt8.ofNat c.toNat] := by
  rcases h with rfl | ⟨c, rfl⟩
  · exact ⟨'\x22', rfl, rfl⟩
  · have hc : c.toNat < 0x80 := (Text.ascii_cons.mp hascii).1
    have hbyte : charByte c = UInt8.ofNat c.toNat := if_pos (by omega)
    exact ⟨c, rfl, congrArg (fun b ↦ [b]) hbyte⟩

/-- A text that begins with a quotation mark begins with no keyword. -/
theorem not_begins_quote {entry : Text × UInt8} (hentry : entry ∈ Keyword.table) (rest : Text) :
    ¬Begins entry.1 ('\x22' :: rest) := by
  obtain ⟨word, token⟩ := entry
  intro hbegins
  have hword := Keyword.isWord_of_mem_table hentry
  cases word with
  | nil => exact hword.ne_nil rfl
  | cons c word =>
    have hc : c = Char.toUpper '\x22' := (List.cons_prefix_cons.mp hbegins).1
    exact hword.quoteless (hc ▸ List.mem_cons_self)

/-- No keyword begins at a character that is stored as it is. -/
theorem Scanned.not_begins (h : Scanned previous inString text (lexeme :: others))
    (hascii : text.Ascii) (hcopied : lexeme.Copied) :
    ∀ entry ∈ Keyword.table, ¬Begins entry.1 text := by
  rcases hcopied with rfl | ⟨c, rfl⟩
  · cases h with
    | quote => exact fun entry hentry ↦ not_begins_quote hentry _
  · cases h with
    | plain _ _ hnone _ => exact (Keyword.longest?_eq_none_iff hascii).mp hnone

/-- Outside string literals and but for an apostrophe, the first lexeme is the longest keyword with
which the text begins, or one character. -/
theorem Scanned.copied_or_isLongest (h : Scanned previous false text (lexeme :: others))
    (hascii : text.Ascii) (hapostrophe : text.head? ≠ some '\x27') :
    lexeme.Copied ∨ ∃ token spelling, lexeme = Lexeme.keyword token spelling ∧
      IsLongest (spelling.map Char.toUpper, token) text := by
  cases h with
  | quote => exact Or.inl (Or.inl rfl)
  | apostrophe => exact absurd rfl hapostrophe
  | plain => exact Or.inl (Or.inr ⟨_, rfl⟩)
  | keyword hheads | keeping hheads => exact Or.inr ⟨_, _, rfl, hheads.isLongest hascii⟩

/-- Wherever in a line a character is stored as it is, the rest of the line begins with no
keyword. -/
theorem not_begins_of_copied {code : Text} {earlier later : List Lexeme} (hascii : code.Ascii)
    (h : ofText code = earlier ++ lexeme :: later) (hcopied : lexeme.Copied) :
    ∀ entry ∈ Keyword.table, ¬Begins entry.1 (spell (lexeme :: later)) := by
  have hrest := (Text.ascii_append.mp (eq_spell_append h ▸ hascii)).2
  have hscanned := scanned_ofText code
  rw [h] at hscanned
  rcases hscanned.split with ⟨-, -, rest, rfl⟩ | ⟨-, hhere⟩
  · rcases hcopied with hquote | ⟨c, hplain⟩
    · exact absurd hquote (by simp)
    · exact absurd hplain (by simp)
  · exact hhere.not_begins hrest hcopied

/-! ### Characters stored one after another -/

/-- A word spelled somewhere in single characters begins at one of them. -/
theorem exists_begins_of_infix {word : Text} (hne : word ≠ []) {stretch : List Lexeme}
    (hcopied : ∀ lexeme ∈ stretch, lexeme.Copied)
    (h : word <:+: (spell stretch).map Char.toUpper) :
    ∃ before lexeme after, stretch = before ++ lexeme :: after ∧
      Begins word (spell (lexeme :: after)) := by
  induction stretch with
  | nil => exact absurd (List.infix_nil.mp h) hne
  | cons lexeme rest ih =>
    obtain ⟨hfirst, hrest⟩ := List.forall_mem_cons.mp hcopied
    obtain ⟨c, hspelling⟩ := hfirst.exists_spelling
    have hspell : spell (lexeme :: rest) = c :: spell rest := by
      rw [spell_cons, hspelling]
      rfl
    rw [hspell, List.map_cons, List.infix_cons_iff] at h
    rcases h with hhere | hlater
    · exact ⟨[], lexeme, rest, rfl, hspell ▸ hhere⟩
    · obtain ⟨before, found, after, rfl, hbegins⟩ := ih hrest hlater
      exact ⟨lexeme :: before, found, after, rfl, hbegins⟩

/-! ### All places of a line -/

/-- Before each lexeme outside string literals, the longest keyword with which the rest of the line
begins gives its byte there and the scan goes on after it; if the rest begins with no keyword, one
character gives one byte. So no keyword is spelled by characters stored one after another. -/
theorem longest_match {code : Text} (hascii : code.Ascii) :
    (∀ earlier lexeme later, ofText code = earlier ++ lexeme :: later →
      leavesOpen none false (spell earlier) = false → ¬Verbatim earlier →
      (spell (lexeme :: later)).head? ≠ some '\x27' →
      let rest := spell (lexeme :: later)
      let before := encode none earlier
      let here := lexeme.bytes before.getLast?
      code = spell earlier ++ rest ∧
        crunch code = before ++ here ++ encode (here.getLast?.or before.getLast?) later ∧
        ((∃ entry ∈ Keyword.table, Begins entry.1 rest) →
          ∃ entry, IsLongest entry rest ∧
            (here = [entry.2] ∨ entry.2 = Keyword.elseToken ∧ here = [colon, entry.2]) ∧
            spell later = rest.drop entry.1.length) ∧
        ((∀ entry ∈ Keyword.table, ¬Begins entry.1 rest) →
          ∃ c, rest = c :: spell later ∧ here = [UInt8.ofNat c.toNat])) ∧
    ∀ earlier stretch later, ofText code = earlier ++ stretch ++ later →
      (∀ lexeme ∈ stretch, lexeme.Copied) →
      ∀ entry ∈ Keyword.table, ¬entry.1 <:+: (spell stretch).map Char.toUpper := by
  constructor
  · intro earlier lexeme later h hclosed hfree hapostrophe rest before here
    have hcode := eq_spell_append h
    have hrest : rest.Ascii := (Text.ascii_append.mp (hcode ▸ hascii)).2
    have hsplit : rest = lexeme.spelling ++ spell later := spell_cons lexeme later
    have hscanned := scanned_ofText code
    rw [h] at hscanned
    obtain ⟨-, hhere⟩ := hscanned.split.resolve_left fun hkept ↦ hfree hkept.1
    rw [hclosed] at hhere
    refine ⟨hcode, ?_, ?_⟩
    · rw [crunch, h, encode_append, Option.or_none, encode, List.append_assoc]
    rcases hhere.copied_or_isLongest hrest hapostrophe with
      hcopied | ⟨token, spelling, rfl, hlongest⟩
    · have hnone := not_begins_of_copied hascii h hcopied
      constructor
      · rintro ⟨entry, hentry, hbegins⟩
        exact absurd hbegins (hnone entry hentry)
      · intro _
        obtain ⟨c, hspelling, hbyte⟩ :=
          hcopied.bytes_eq (Text.ascii_append.mp (hsplit ▸ hrest)).1 before.getLast?
        exact ⟨c, hsplit.trans (congrArg (· ++ spell later) hspelling), hbyte⟩
    · refine ⟨fun _ ↦ ⟨_, hlongest, bytes_keyword _ token spelling, ?_⟩,
        fun hnone ↦ absurd hlongest.begins (hnone _ hlongest.mem)⟩
      have hdrop : (spelling ++ spell later).drop spelling.length = spell later := List.drop_left
      rw [hsplit, List.length_map]
      exact hdrop.symm
  · intro earlier stretch later h hcopied entry hentry hinfix
    have hne := (Keyword.isWord_of_mem_table hentry).ne_nil
    obtain ⟨before, lexeme, after, rfl, hbegins⟩ := exists_begins_of_infix hne hcopied hinfix
    have hlexeme := hcopied lexeme (List.mem_append_right _ List.mem_cons_self)
    have hlexemes : ofText code = (earlier ++ before) ++ lexeme :: (after ++ later) := by
      rw [h]
      simp
    refine not_begins_of_copied hascii hlexemes hlexeme entry hentry ?_
    rw [← List.cons_append, spell_append, Begins, List.map_append]
    exact hbegins.trans (List.prefix_append _ _)

/-- `LPRINT` is not taken for `PRINT`, and the letter before it begins no keyword. -/
theorem longest_match_lprint :
    ∃ code : Text, code = "xlprint".toList ∧ code.Ascii ∧ crunch code = [0x78, 0xA0] ∧
      ofText code = [plain 'x', keyword 0xA0 "lprint".toList] ∧
      (∃ entry, IsLongest entry "lprint".toList ∧ entry.2 = 0xA0) ∧
      ∀ entry ∈ Keyword.table, ¬entry.1 <:+: ['X'] := by
  have hascii : Text.Ascii "xlprint".toList := by decide
  have hlexemes : ofText "xlprint".toList = [plain 'x', keyword 0xA0 "lprint".toList] := by
    decide +kernel
  have hcrunch : crunch "xlprint".toList = [0x78, 0xA0] := by
    rw [crunch, hlexemes]
    decide
  obtain ⟨hplaces, hstretches⟩ := longest_match hascii
  refine ⟨_, rfl, hascii, hcrunch, hlexemes, ?_, ?_⟩
  · have hplace := hplaces [plain 'x'] (keyword 0xA0 "lprint".toList) [] hlexemes
      (by decide) (by decide) (by decide)
    obtain ⟨entry, hlongest, hbyte, -⟩ :=
      hplace.2.2.1 ⟨("LPRINT".toList, 0xA0), by decide +kernel, by decide⟩
    refine ⟨entry, hlongest, ?_⟩
    rcases hbyte with honly | ⟨-, hcolon⟩
    · exact (List.cons.inj honly).1.symm
    · have hlength : 1 = 2 := congrArg List.length hcolon
      exact absurd hlength (by decide)
  · exact hstretches [] [plain 'x'] [keyword 0xA0 "lprint".toList] hlexemes
      fun lexeme hmem ↦ Or.inr ⟨'x', List.mem_singleton.mp hmem⟩

end ChanceDeck.Lexeme
