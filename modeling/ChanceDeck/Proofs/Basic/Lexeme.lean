import ChanceDeck.Basic.Crunch
import ChanceDeck.Proofs.Basic.Keyword

/-!
# How a line is scanned

`Scanned` tells by one rule for each kind of lexeme how a line is read from a place on, and
`scanned_iff` says that the scanner reads it that way and no other. Every fact about lexemes then
comes by induction on the rules: the lexemes spell the line (`Scanned.spell_eq`), and between any
two of them the scanner is again at the start of a line, but for the character before and for what
the quotation marks passed leave open (`Scanned.split`).

The last section says where an apostrophe ends a line. `Outside` says of the text before it that no
string literal is open after it and that it holds no `REM` or `DATA`. The scanner ends a line at the
first apostrophe after such a text, and reads what stands before it as it would be alone
(`ends_cases`).
-/

set_option autoImplicit false
set_option relaxedAutoImplicit false

namespace ChanceDeck

namespace Keyword

/-! ### The keyword at the start of a text -/

/-- Whether `token` is the byte of the longest keyword with which a text begins, `spelling` being
the keyword as the text spells it and `rest` what follows. -/
structure Heads (token : UInt8) (spelling rest : Text) : Prop where
  longest : longest? (spelling ++ rest) = some (token, spelling.length)
  not_apostrophe : spelling.head? ≠ some '\x27'

theorem pos_and_le_of_longest? {text : Text} {token : UInt8} {length : Nat}
    (h : longest? text = some (token, length)) : 0 < length ∧ length ≤ text.length := by
  rw [longest?_eq, longestUpTo_eq_some_iff] at h
  obtain ⟨hpos, -, htoken, -⟩ := h
  exact ⟨hpos, (mem_table_of_tokenAt? htoken).1⟩

theorem Heads.exists_cons {token : UInt8} {spelling rest : Text} (h : Heads token spelling rest) :
    ∃ c more, spelling = c :: more ∧ c ≠ '\x27' := by
  cases spelling with
  | nil => exact absurd (pos_and_le_of_longest? h.longest).1 (Nat.lt_irrefl 0)
  | cons c more => exact ⟨c, more, rfl, fun hc ↦ h.not_apostrophe (congrArg some hc)⟩

theorem Heads.getLast?_or {token : UInt8} {spelling rest : Text} (h : Heads token spelling rest)
    (previous : Option Char) : spelling.getLast?.or previous = spelling.getLast? := by
  obtain ⟨c, more, rfl, -⟩ := h.exists_cons
  rw [List.getLast?_cons, Option.some_or]

theorem Heads.mem_table {token : UInt8} {spelling rest : Text} (h : Heads token spelling rest) :
    (upper spelling, token) ∈ table := by
  have hlongest := h.longest
  rw [longest?_eq, longestUpTo_eq_some_iff] at hlongest
  obtain ⟨-, -, htoken, -⟩ := hlongest
  have hmem := (mem_table_of_tokenAt? htoken).2
  rwa [List.take_left] at hmem

/-- No keyword is spelled with a quotation mark. -/
theorem Heads.quote_not_mem {token : UInt8} {spelling rest : Text} (h : Heads token spelling rest) :
    '\x22' ∉ spelling :=
  fun hmem ↦ (isWord_of_mem_table h.mem_table).quoteless
    (List.mem_flatMap.mpr ⟨'\x22', hmem, by decide⟩)

/-- A text whose longest keyword is found begins with its spelling. -/
theorem heads_take {c : Char} {rest : Text} {token : UInt8} {length : Nat}
    (h : longest? (c :: rest) = some (token, length)) (hc : c ≠ '\x27') :
    Heads token ((c :: rest).take length) ((c :: rest).drop length) := by
  obtain ⟨hpos, hlength⟩ := pos_and_le_of_longest? h
  obtain ⟨less, rfl⟩ : ∃ less, length = less + 1 := ⟨length - 1, by omega⟩
  refine ⟨?_, fun hhead ↦ hc ?_⟩
  · rw [List.take_append_drop, List.length_take, Nat.min_eq_left hlength, h]
  · rwa [List.take_succ_cons, List.head?_cons, Option.some.injEq] at hhead

/-- The longest keyword at the start of a text of ASCII characters is the one that the text spells
there, but for the case of letters. -/
theorem Heads.isLongest {token : UInt8} {spelling rest : Text} (h : Heads token spelling rest)
    (hascii : Text.Ascii (spelling ++ rest)) :
    IsLongest (spelling.map Char.toUpper, token) (spelling ++ rest) := by
  obtain ⟨word, hlength, hlongest⟩ := exists_of_longest? hascii h.longest
  have hupper : word.length = (spelling.map Char.toUpper).length := by
    rw [List.length_map, hlength]
  have hword : word = spelling.map Char.toUpper := by
    have hbegins := hlongest.begins
    rwa [Begins, List.prefix_iff_eq_take, hupper, List.map_append, List.take_left] at hbegins
  exact hword ▸ hlongest

/-- An apostrophe after the rest of a text changes nothing at its start. -/
theorem heads_append_apostrophe {token : UInt8} {spelling rest : Text} (after : Text) :
    Heads token spelling (rest ++ '\x27' :: after) ↔ Heads token spelling rest := by
  by_cases hne : spelling ++ rest = []
  · obtain ⟨rfl, rfl⟩ := List.append_eq_nil_iff.mp hne
    refine iff_of_false (fun h ↦ ?_) fun h ↦ ?_ <;>
    · obtain ⟨c, more, hcons, -⟩ := h.exists_cons
      exact absurd hcons (List.cons_ne_nil c more).symm
  · have hlongest := longest?_append_apostrophe hne after
    rw [List.append_assoc] at hlongest
    constructor <;> rintro ⟨h, hhead⟩ <;> refine ⟨?_, hhead⟩
    · rwa [← hlongest]
    · rwa [hlongest]

end Keyword

namespace Lexeme

open Keyword (longest? Heads)

/-- The characters of the line that a lexeme takes. -/
def spelling : Lexeme → Text
  | quote => ['\x22']
  | literal c => [c]
  | keyword _ spelling => spelling
  | plain c => [c]
  | tail text => text
  | apostrophe text => '\x27' :: text

/-- The characters of the line that lexemes take together. -/
def spell (lexemes : List Lexeme) : Text :=
  lexemes.flatMap spelling

/-- Whether a lexeme is `REM` or `DATA`, after which the rest of the line is kept as it is. -/
def KeepsRest : Lexeme → Prop
  | keyword token _ => token = Keyword.remToken ∨ token = Keyword.dataToken
  | _ => False

instance : DecidablePred KeepsRest
  | keyword token _ =>
    inferInstanceAs (Decidable (token = Keyword.remToken ∨ token = Keyword.dataToken))
  | quote | literal _ | plain _ | tail _ | apostrophe _ => inferInstanceAs (Decidable False)

/-- Whether lexemes hold `REM` or `DATA`. -/
def Verbatim (lexemes : List Lexeme) : Prop :=
  ∃ lexeme ∈ lexemes, lexeme.KeepsRest

instance : DecidablePred Verbatim := fun lexemes ↦
  List.decidableBEx KeepsRest lexemes

/-- Whether a string literal is open after a text. Each quotation mark opens or closes one unless a
backslash stands before it. -/
def leavesOpen (previous : Option Char) (inString : Bool) : Text → Bool
  | [] => inString
  | c :: rest =>
    leavesOpen (some c) (if c = '\x22' ∧ previous ≠ some '\\' then !inString else inString) rest

/-- How a line is scanned from a place on, `previous` being the character before it. -/
inductive Scanned : Option Char → Bool → Text → List Lexeme → Prop
  | nil {previous : Option Char} {inString : Bool} : Scanned previous inString [] []
  | quote {previous : Option Char} {inString : Bool} {rest : Text} {lexemes : List Lexeme}
      (hfree : previous ≠ some '\\') (h : Scanned (some '\x22') (!inString) rest lexemes) :
      Scanned previous inString ('\x22' :: rest) (quote :: lexemes)
  | literal {previous : Option Char} {c : Char} {rest : Text} {lexemes : List Lexeme}
      (hquote : ¬(c = '\x22' ∧ previous ≠ some '\\')) (h : Scanned (some c) true rest lexemes) :
      Scanned previous true (c :: rest) (literal c :: lexemes)
  | apostrophe {previous : Option Char} {rest : Text} :
      Scanned previous false ('\x27' :: rest) [apostrophe rest]
  | plain {previous : Option Char} {c : Char} {rest : Text} {lexemes : List Lexeme}
      (hquote : ¬(c = '\x22' ∧ previous ≠ some '\\')) (hapostrophe : c ≠ '\x27')
      (hnone : longest? (c :: rest) = none) (h : Scanned (some c) false rest lexemes) :
      Scanned previous false (c :: rest) (plain c :: lexemes)
  | keyword {previous : Option Char} {token : UInt8} {spelling rest : Text}
      {lexemes : List Lexeme} (hheads : Heads token spelling rest)
      (hgoesOn : ¬KeepsRest (keyword token spelling))
      (h : Scanned spelling.getLast? false rest lexemes) :
      Scanned previous false (spelling ++ rest) (keyword token spelling :: lexemes)
  | keeping {previous : Option Char} {token : UInt8} {spelling rest : Text}
      (hheads : Heads token spelling rest) (hkeeps : KeepsRest (keyword token spelling)) :
      Scanned previous false (spelling ++ rest) [keyword token spelling, tail rest]

/-! ### The scanner keeps the rules -/

theorem getLast?_cons_or (c : Char) (text : Text) (previous : Option Char) :
    (c :: text).getLast?.or previous = text.getLast?.or (some c) := by
  rw [List.getLast?_cons]
  cases text.getLast? <;> rfl

/-- Characters of the keyword before are passed over. -/
theorem scan_append (passed rest : Text) (previous : Option Char) (inString : Bool) :
    scan passed.length previous inString (passed ++ rest) =
      scan 0 (passed.getLast?.or previous) inString rest := by
  induction passed generalizing previous with
  | nil => rfl
  | cons c passed ih =>
    rw [List.cons_append, List.length_cons, scan, if_pos (Nat.succ_pos _), Nat.add_sub_cancel, ih,
      getLast?_cons_or]

/-- What the scanner makes of a line keeps the rules, also where the first characters belong to the
keyword before. -/
theorem scanned_drop (text : Text) (pending : Nat) (previous : Option Char) (inString : Bool) :
    Scanned ((text.take pending).getLast?.or previous) inString (text.drop pending)
      (scan pending previous inString text) := by
  induction text generalizing pending previous inString with
  | nil =>
    rw [List.drop_nil, scan]
    exact .nil
  | cons c rest ih =>
    rw [scan]
    split_ifs with hpending hquote hstring happostrophe
    · obtain ⟨less, rfl⟩ : ∃ less, pending = less + 1 := ⟨pending - 1, by omega⟩
      rw [List.take_succ_cons, getLast?_cons_or, List.drop_succ_cons]
      exact ih less (some c) inString
    all_goals
      obtain rfl : pending = 0 := Nat.eq_zero_of_not_pos hpending
    · obtain ⟨rfl, hfree⟩ := hquote
      exact .quote hfree (ih 0 _ _)
    · rw [hstring]
      exact .literal hquote (ih 0 _ _)
    · rw [happostrophe, Bool.eq_false_iff.mpr hstring]
      exact .apostrophe
    · rw [Bool.eq_false_iff.mpr hstring]
      show Scanned previous false (c :: rest) _
      cases hlongest : longest? (c :: rest) with
      | none => exact .plain hquote happostrophe hlongest (ih 0 _ _)
      | some found =>
        obtain ⟨token, length⟩ := found
        have hheads := Keyword.heads_take hlongest happostrophe
        have hparts := List.take_append_drop length (c :: rest)
        simp only
        split_ifs with hkeeps
        · have hscanned : Scanned previous false _ _ := .keeping hheads hkeeps
          rwa [hparts] at hscanned
        · have hpos := (Keyword.pos_and_le_of_longest? hlongest).1
          obtain ⟨less, rfl⟩ : ∃ less, length = less + 1 := ⟨length - 1, by omega⟩
          have hrest := ih less (some c) false
          rw [← getLast?_cons_or c _ none, Option.or_none, ← List.take_succ_cons,
            ← List.drop_succ_cons] at hrest
          have hscanned : Scanned previous false _ _ := .keyword hheads hkeeps hrest
          rwa [hparts] at hscanned

variable {previous : Option Char} {inString : Bool} {text : Text} {lexemes : List Lexeme}

/-- Where a keyword begins, the scanner takes it and goes on after it, unless it keeps the rest. -/
theorem scan_of_heads {token : UInt8} {spelling rest : Text} (h : Heads token spelling rest)
    (previous : Option Char) :
    scan 0 previous false (spelling ++ rest) =
      if KeepsRest (keyword token spelling) then [keyword token spelling, tail rest]
      else keyword token spelling :: scan 0 spelling.getLast? false rest := by
  have hlongest := h.longest
  have hquote := h.quote_not_mem
  obtain ⟨c, more, rfl, hapostrophe⟩ := h.exists_cons
  have hc : c ≠ '\x22' := fun hc ↦ hquote (hc ▸ List.mem_cons_self)
  have hpassed := scan_append more rest (some c) false
  rw [← getLast?_cons_or c more none, Option.or_none] at hpassed
  rw [List.cons_append] at hlongest ⊢
  rw [scan, if_neg (Nat.lt_irrefl 0), if_neg fun h ↦ hc h.1, if_neg Bool.false_ne_true,
    if_neg hapostrophe, hlongest]
  simp only
  rw [← List.cons_append, List.take_left, List.drop_left, List.length_cons, Nat.add_sub_cancel,
    hpassed]
  rfl

theorem Scanned.scan_eq (h : Scanned previous inString text lexemes) :
    scan 0 previous inString text = lexemes := by
  induction h with
  | nil => rfl
  | quote hfree _ ih => rw [scan, if_neg (Nat.lt_irrefl 0), if_pos ⟨rfl, hfree⟩, ih]
  | literal hquote _ ih =>
    rw [scan, if_neg (Nat.lt_irrefl 0), if_neg hquote, if_pos rfl, ih]
  | apostrophe =>
    rw [scan, if_neg (Nat.lt_irrefl 0), if_neg fun h ↦ absurd h.1 (by decide),
      if_neg Bool.false_ne_true, if_pos rfl]
  | plain hquote hapostrophe hnone _ ih =>
    rw [scan, if_neg (Nat.lt_irrefl 0), if_neg hquote, if_neg Bool.false_ne_true,
      if_neg hapostrophe, hnone]
    exact congrArg _ ih
  | keyword hheads hgoesOn _ ih => rw [scan_of_heads hheads, if_neg hgoesOn, ih]
  | keeping hheads hkeeps => rw [scan_of_heads hheads, if_pos hkeeps]

/-- The scanner reads a line by the rules, and by the rules a line is read in one way only. -/
theorem scanned_iff :
    Scanned previous inString text lexemes ↔ scan 0 previous inString text = lexemes := by
  constructor
  · exact Scanned.scan_eq
  · rintro rfl
    exact scanned_drop text 0 previous inString

theorem scanned_ofText (code : Text) : Scanned none false code (ofText code) :=
  scanned_iff.mpr rfl

/-- Every keyword that is read stands in the table, in upper case, with its byte. -/
theorem Scanned.mem_table (h : Scanned previous inString text lexemes) {token : UInt8}
    {spelling : Text} (hmem : Lexeme.keyword token spelling ∈ lexemes) :
    (Keyword.upper spelling, token) ∈ Keyword.table := by
  induction h with
  | nil => exact absurd hmem List.not_mem_nil
  | quote _ _ ih | literal _ _ ih | plain _ _ _ _ ih =>
    exact ih (List.mem_of_ne_of_mem (by simp) hmem)
  | apostrophe => simp at hmem
  | keyword hheads _ _ ih =>
    rcases List.mem_cons.mp hmem with heq | hrest
    · obtain ⟨rfl, rfl⟩ := Lexeme.keyword.inj heq
      exact hheads.mem_table
    · exact ih hrest
  | keeping hheads _ =>
    rcases List.mem_cons.mp hmem with heq | hrest
    · obtain ⟨rfl, rfl⟩ := Lexeme.keyword.inj heq
      exact hheads.mem_table
    · simp at hrest

/-! ### What lexemes spell -/

theorem spell_cons (lexeme : Lexeme) (rest : List Lexeme) :
    spell (lexeme :: rest) = lexeme.spelling ++ spell rest :=
  List.flatMap_cons

theorem spell_append (earlier later : List Lexeme) :
    spell (earlier ++ later) = spell earlier ++ spell later :=
  List.flatMap_append

/-- The lexemes of a line spell the line. -/
theorem Scanned.spell_eq (h : Scanned previous inString text lexemes) : spell lexemes = text := by
  induction h with
  | nil => rfl
  | quote _ _ ih | literal _ _ ih | plain _ _ _ _ ih | keyword _ _ _ ih =>
    rw [spell_cons, ih]
    rfl
  | apostrophe => exact List.append_nil _
  | keeping => simp [spell, spelling]

theorem spell_ofText (code : Text) : spell (ofText code) = code :=
  (scanned_ofText code).spell_eq

theorem eq_spell_append {code : Text} {earlier later : List Lexeme}
    (h : ofText code = earlier ++ later) : code = spell earlier ++ spell later := by
  rw [← spell_append, ← h, spell_ofText]

/-! ### The bytes of lexemes -/

theorem encode_append (previous : Option UInt8) (earlier later : List Lexeme) :
    encode previous (earlier ++ later) =
      encode previous earlier ++ encode ((encode previous earlier).getLast?.or previous) later := by
  induction earlier generalizing previous with
  | nil => rfl
  | cons lexeme earlier ih =>
    simp only [List.cons_append, encode, ih, List.append_assoc, List.getLast?_append, Option.or_assoc]

theorem toNat_charByte {c : Char} (hc : c.toNat < 0x80) : (charByte c).toNat = c.toNat := by
  rw [charByte, if_pos (by omega), UInt8.toNat_ofNat', Nat.mod_eq_of_lt (by omega)]

/-- A keyword gives its byte, and `ELSE` may get a colon before it. -/
theorem bytes_keyword (previous : Option UInt8) (token : UInt8) (spelling : Text) :
    (keyword token spelling).bytes previous = [token] ∨
      token = Keyword.elseToken ∧ (keyword token spelling).bytes previous = [colon, token] := by
  rw [bytes]
  split_ifs with hcolon
  · exact Or.inr ⟨hcolon.1, rfl⟩
  · exact Or.inl rfl

/-! ### String literals -/

theorem leavesOpen_append (previous : Option Char) (inString : Bool) (text more : Text) :
    leavesOpen previous inString (text ++ more) =
      leavesOpen (text.getLast?.or previous) (leavesOpen previous inString text) more := by
  induction text generalizing previous inString with
  | nil => rfl
  | cons c rest ih => rw [List.cons_append, leavesOpen, ih, leavesOpen, getLast?_cons_or]

theorem leavesOpen_of_not_mem (hquote : '\x22' ∉ text) :
    leavesOpen previous inString text = inString := by
  induction text generalizing previous with
  | nil => rfl
  | cons c rest ih =>
    rw [List.mem_cons, not_or] at hquote
    rw [leavesOpen, if_neg fun h ↦ hquote.1 h.1.symm, ih hquote.2]

/-! ### Between two lexemes -/

theorem verbatim_cons {lexeme : Lexeme} {rest : List Lexeme} :
    Verbatim (lexeme :: rest) ↔ lexeme.KeepsRest ∨ Verbatim rest := by
  simp [Verbatim]

/-- After its first lexeme a line is scanned on as its own quotation marks tell, unless that lexeme
keeps the rest of the line. -/
theorem Scanned.next {first : Lexeme} {others : List Lexeme}
    (h : Scanned previous inString text (first :: others)) :
    (first.KeepsRest ∧ ∃ rest, others = [tail rest]) ∨
      ¬first.KeepsRest ∧ Scanned (first.spelling.getLast?.or previous)
        (leavesOpen previous inString first.spelling) (spell others) others := by
  cases h with
  | quote hfree h =>
    refine Or.inr ⟨id, ?_⟩
    rw [h.spell_eq, spelling, leavesOpen, if_pos ⟨rfl, hfree⟩]
    exact h
  | literal hquote h | plain hquote _ _ h =>
    refine Or.inr ⟨id, ?_⟩
    rw [h.spell_eq, spelling, leavesOpen, if_neg hquote]
    exact h
  | apostrophe => exact Or.inr ⟨id, .nil⟩
  | keyword hheads hgoesOn h =>
    refine Or.inr ⟨hgoesOn, ?_⟩
    rw [h.spell_eq, spelling, leavesOpen_of_not_mem hheads.quote_not_mem, hheads.getLast?_or]
    exact h
  | keeping _ hkeeps => exact Or.inl ⟨hkeeps, _, rfl⟩

/-- Before each lexeme a line is scanned on as the quotation marks before it tell, unless the lexeme
is what `REM` or `DATA` kept. -/
theorem Scanned.split {earlier later : List Lexeme} {lexeme : Lexeme}
    (h : Scanned previous inString text (earlier ++ lexeme :: later)) :
    (Verbatim earlier ∧ later = [] ∧ ∃ rest, lexeme = tail rest) ∨
      ¬Verbatim earlier ∧ Scanned ((spell earlier).getLast?.or previous)
        (leavesOpen previous inString (spell earlier)) (spell (lexeme :: later))
        (lexeme :: later) := by
  induction earlier generalizing previous inString text with
  | nil =>
    refine Or.inr ⟨fun ⟨_, hmem, _⟩ ↦ absurd hmem List.not_mem_nil, ?_⟩
    rw [List.nil_append] at h
    rwa [h.spell_eq]
  | cons first earlier ih =>
    rw [List.cons_append] at h
    rw [verbatim_cons, spell_cons, leavesOpen_append, List.getLast?_append, Option.or_assoc]
    rcases h.next with ⟨hkeeps, rest, hothers⟩ | ⟨hgoesOn, hothers⟩
    · -- Only one lexeme follows, so that it is the one split off.
      cases earlier with
      | nil =>
        obtain ⟨rfl, rfl⟩ := List.cons.inj hothers
        exact Or.inl ⟨Or.inl hkeeps, rfl, rest, rfl⟩
      | cons => exact absurd (List.cons.inj hothers).2 (by simp)
    · rcases ih hothers with ⟨hverbatim, hrest⟩ | ⟨hfree, hrest⟩
      · exact Or.inl ⟨Or.inr hverbatim, hrest⟩
      · exact Or.inr ⟨not_or.mpr ⟨hgoesOn, hfree⟩, hrest⟩

/-- Before an apostrophe that ends a line there is no `REM` or `DATA` and no string literal is open,
and no lexeme follows it. -/
theorem Scanned.split_apostrophe {earlier later : List Lexeme} {rest : Text}
    (h : Scanned previous inString text (earlier ++ Lexeme.apostrophe rest :: later)) :
    ¬Verbatim earlier ∧ leavesOpen previous inString (spell earlier) = false ∧ later = [] := by
  rcases h.split with ⟨-, -, kept, htail⟩ | ⟨hfree, hlast⟩
  · exact absurd htail (by simp)
  · generalize leavesOpen previous inString (spell earlier) = state at hlast ⊢
    generalize spell (Lexeme.apostrophe rest :: later) = ending at hlast
    cases hlast
    exact ⟨hfree, rfl, rfl⟩

/-! ### The apostrophe that ends a line -/

/-- Whether an apostrophe after a text stands outside string literals and before any `REM` or
`DATA`. -/
structure Outside (before : Text) : Prop where
  closed : leavesOpen none false before = false
  free : ¬Verbatim (ofText before)

/-- Whether a line is scanned on after a lexeme. -/
def GoesOn (lexeme : Lexeme) : Prop :=
  ¬lexeme.KeepsRest ∧ ∀ rest, lexeme ≠ apostrophe rest

theorem forall_goesOn_iff :
    (∀ lexeme ∈ lexemes, lexeme.GoesOn) ↔
      ¬Verbatim lexemes ∧ ∀ rest, apostrophe rest ∉ lexemes := by
  constructor
  · intro h
    refine ⟨?_, fun rest hmem ↦ (h _ hmem).2 rest rfl⟩
    rintro ⟨lexeme, hmem, hkeeps⟩
    exact (h lexeme hmem).1 hkeeps
  · rintro ⟨hfree, hnone⟩ lexeme hmem
    exact ⟨fun hkeeps ↦ hfree ⟨lexeme, hmem, hkeeps⟩, fun rest heq ↦ hnone rest (heq ▸ hmem)⟩

/-- Where a line that leaves no string literal open would be scanned on, an apostrophe is the last
lexeme, and what stands before it is scanned as it would be alone. -/
theorem Scanned.append_apostrophe (h : Scanned previous inString text lexemes)
    (hclosed : leavesOpen previous inString text = false)
    (hgoesOn : ∀ lexeme ∈ lexemes, lexeme.GoesOn) (after : Text) :
    Scanned previous inString (text ++ '\x27' :: after) (lexemes ++ [Lexeme.apostrophe after]) := by
  induction h with
  | nil =>
    rw [leavesOpen] at hclosed
    rw [hclosed]
    exact .apostrophe
  | quote hunescaped _ ih =>
    rw [leavesOpen, if_pos ⟨rfl, hunescaped⟩] at hclosed
    exact .quote hunescaped (ih hclosed (List.forall_mem_cons.mp hgoesOn).2)
  | literal hquote _ ih =>
    rw [leavesOpen, if_neg hquote] at hclosed
    exact .literal hquote (ih hclosed (List.forall_mem_cons.mp hgoesOn).2)
  | apostrophe => exact absurd rfl ((hgoesOn _ List.mem_cons_self).2 _)
  | plain hquote hapostrophe hlongest _ ih =>
    rw [leavesOpen, if_neg hquote] at hclosed
    refine .plain hquote hapostrophe ?_ (ih hclosed (List.forall_mem_cons.mp hgoesOn).2)
    exact (Keyword.longest?_append_apostrophe (List.cons_ne_nil _ _) after).trans hlongest
  | keyword hheads hkept _ ih =>
    rw [leavesOpen_append, leavesOpen_of_not_mem hheads.quote_not_mem,
      hheads.getLast?_or] at hclosed
    rw [List.append_assoc]
    exact .keyword ((Keyword.heads_append_apostrophe after).mpr hheads) hkept
      (ih hclosed (List.forall_mem_cons.mp hgoesOn).2)
  | keeping _ hkeeps => exact absurd hkeeps (hgoesOn _ List.mem_cons_self).1

/-- What stands before the apostrophe that ends a line is scanned as it would be alone. -/
theorem Scanned.of_append_apostrophe {after : Text}
    (h : Scanned previous inString text (lexemes ++ [Lexeme.apostrophe after])) :
    Scanned previous inString (spell lexemes) lexemes := by
  induction lexemes generalizing previous inString text with
  | nil => exact .nil
  | cons first lexemes ih =>
    rw [List.cons_append] at h
    generalize hothers : lexemes ++ [Lexeme.apostrophe after] = others at h
    have hspell {rest : Text} {state : Option Char} {open' : Bool}
        (h : Scanned state open' rest others) : rest = spell lexemes ++ '\x27' :: after := by
      rw [← h.spell_eq, ← hothers, spell_append]
      simp [spell, spelling]
    rw [spell_cons]
    cases h with
    | quote hfree h => exact .quote hfree (ih (hothers ▸ h))
    | literal hquote h => exact .literal hquote (ih (hothers ▸ h))
    | apostrophe => simp at hothers
    | plain hquote hapostrophe hnone h =>
      refine .plain hquote hapostrophe ?_ (ih (hothers ▸ h))
      rw [hspell h] at hnone
      exact (Keyword.longest?_append_apostrophe (List.cons_ne_nil _ _) after).symm.trans hnone
    | keyword hheads hgoesOn h =>
      refine .keyword ?_ hgoesOn (ih (hothers ▸ h))
      rw [hspell h] at hheads
      exact (Keyword.heads_append_apostrophe after).mp hheads
    | keeping =>
      have hlast := congrArg List.getLast? hothers
      simp at hlast

theorem exists_of_apostrophe_mem {code rest : Text} (h : apostrophe rest ∈ ofText code) :
    ∃ lexemes, ofText code = lexemes ++ [apostrophe rest] := by
  obtain ⟨earlier, later, hsplit⟩ := List.append_of_mem h
  have hscanned := scanned_ofText code
  rw [hsplit] at hscanned
  rw [hscanned.split_apostrophe.2.2] at hsplit
  exact ⟨earlier, hsplit⟩

/-- The lexemes before the apostrophe that ends a line: there is no other apostrophe among them, and
their text, which leaves no string literal open and holds no `REM` or `DATA`, is scanned as it would
be alone. -/
theorem of_ofText_eq_append {code after : Text}
    (h : ofText code = lexemes ++ [apostrophe after]) :
    code = spell lexemes ++ '\x27' :: after ∧ ofText (spell lexemes) = lexemes ∧
      Outside (spell lexemes) ∧ ∀ rest, apostrophe rest ∉ lexemes := by
  have hscanned := scanned_ofText code
  rw [h] at hscanned
  have halone : ofText (spell lexemes) = lexemes := hscanned.of_append_apostrophe.scan_eq
  obtain ⟨hfree, hclosed, -⟩ := hscanned.split_apostrophe
  refine ⟨?_, halone, ⟨hclosed, halone.symm ▸ hfree⟩, fun rest hmem ↦ ?_⟩
  · rw [eq_spell_append h]
    simp [spell, spelling]
  · obtain ⟨earlier, later, rfl⟩ := List.append_of_mem hmem
    rw [List.append_assoc, List.cons_append] at hscanned
    exact List.append_ne_nil_of_right_ne_nil later (List.cons_ne_nil _ _)
      hscanned.split_apostrophe.2.2

/-- An apostrophe outside is met by the scanner, unless an earlier one is. -/
theorem exists_of_outside {before : Text} (h : Outside before) (after : Text) :
    ∃ lexemes rest, ofText (before ++ '\x27' :: after) = lexemes ++ [apostrophe rest] ∧
      (spell lexemes).length ≤ before.length := by
  by_cases hnone : ∀ rest, apostrophe rest ∉ ofText before
  · have hscanned := (scanned_ofText before).append_apostrophe h.closed
      (forall_goesOn_iff.mpr ⟨h.free, hnone⟩) after
    exact ⟨ofText before, after, hscanned.scan_eq, (spell_ofText before).symm ▸ Nat.le_refl _⟩
  · -- The earlier apostrophe ends the longer text as well.
    push Not at hnone
    obtain ⟨rest, hmem⟩ := hnone
    obtain ⟨earlier, hsplit⟩ := exists_of_apostrophe_mem hmem
    obtain ⟨hbefore, halone, houtside, hfirst⟩ := of_ofText_eq_append hsplit
    have hscanned := (scanned_ofText (spell earlier)).append_apostrophe houtside.closed
      (forall_goesOn_iff.mpr ⟨houtside.free, halone.symm ▸ hfirst⟩) (rest ++ '\x27' :: after)
    rw [halone, ← List.cons_append, ← List.append_assoc, ← hbefore] at hscanned
    refine ⟨earlier, _, hscanned.scan_eq, ?_⟩
    rw [hbefore, List.length_append]
    exact Nat.le_add_right _ _

/-- A line ends at the first apostrophe outside, or else at none. -/
theorem ends_cases (code : Text) :
    ((∀ rest, apostrophe rest ∉ ofText code) ∧
      ∀ before after, code = before ++ '\x27' :: after → ¬Outside before) ∨
    ∃ before after, code = before ++ '\x27' :: after ∧ Outside before ∧
      (∀ earlier more, code = earlier ++ '\x27' :: more → Outside earlier →
        before.length ≤ earlier.length) ∧
      (∀ rest, apostrophe rest ∉ ofText before) ∧
      ofText code = ofText before ++ [apostrophe after] := by
  by_cases hnone : ∀ rest, apostrophe rest ∉ ofText code
  · refine Or.inl ⟨hnone, fun before after hcode houtside ↦ ?_⟩
    obtain ⟨lexemes, rest, hlexemes, -⟩ := exists_of_outside houtside after
    rw [← hcode] at hlexemes
    exact hnone rest (hlexemes ▸ List.mem_append_right _ List.mem_cons_self)
  · push Not at hnone
    obtain ⟨after, hmem⟩ := hnone
    obtain ⟨lexemes, hsplit⟩ := exists_of_apostrophe_mem hmem
    obtain ⟨hcode, halone, houtside, hfirst⟩ := of_ofText_eq_append hsplit
    refine Or.inr ⟨spell lexemes, after, hcode, houtside, fun earlier more hcode' houtside' ↦ ?_,
      halone.symm ▸ hfirst, halone.symm ▸ hsplit⟩
    obtain ⟨others, rest, hothers, hlength⟩ := exists_of_outside houtside' more
    rw [← hcode', hsplit] at hothers
    exact (List.append_inj_left' hothers rfl).symm ▸ hlength

end Lexeme

end ChanceDeck
