import ChanceDeck.Basic.Keyword
import Mathlib.Data.List.Basic

/-!
# The longest keyword

The search for a keyword goes down from the longest length, so that what it finds is the longest
keyword with which a text begins (`exists_of_longest?`), and it finds nothing exactly if the text
begins with no keyword (`longest?_eq_none_iff`). The length at which the search starts leaves no
keyword out. For texts of ASCII characters the upper-case mapping goes letter by letter, and
`Begins` says in those terms when a text begins with a word.

A character that is in no keyword, or is one itself, has no part in the keywords with which the text
before it begins (`longest?_append_cons`), as an apostrophe or a space.
-/

set_option autoImplicit false
set_option relaxedAutoImplicit false

namespace ChanceDeck

/-- Whether all characters of a text are ASCII characters. -/
def Text.Ascii (text : Text) : Prop :=
  ∀ c ∈ text, c.toNat < 0x80

namespace Text

instance (text : Text) : Decidable (Ascii text) :=
  List.decidableBAll (fun c : Char ↦ c.toNat < 0x80) text

theorem ascii_cons {c : Char} {text : Text} : Ascii (c :: text) ↔ c.toNat < 0x80 ∧ Ascii text :=
  List.forall_mem_cons

theorem ascii_append {text other : Text} : Ascii (text ++ other) ↔ Ascii text ∧ Ascii other :=
  List.forall_mem_append

end Text

namespace Keyword

/-! ### The table -/

theorem mem_words_of_mem_table {entry : Text × UInt8} (h : entry ∈ table) : entry.1 ∈ words := by
  obtain ⟨indexed, hindexed, rfl⟩ := List.mem_map.mp h
  exact List.fst_mem_of_mem_zipIdx hindexed

theorem index_lt_of_mem_zipIdx {indexed : Text × Nat} (h : indexed ∈ words.zipIdx) :
    indexed.2 < 128 := by
  have hlength : words.length = 128 := List.length_map _
  have hlt := (List.mem_zipIdx h).2.1
  omega

/-- The byte of a keyword is one of the upper half. -/
theorem le_of_mem_table {entry : Text × UInt8} (h : entry ∈ table) : 0x80 ≤ entry.2 := by
  obtain ⟨⟨word, index⟩, hindexed, rfl⟩ := List.mem_map.mp h
  have hindex := index_lt_of_mem_zipIdx hindexed
  rw [UInt8.le_iff_toNat_le]
  show 128 ≤ (UInt8.ofNat (0x80 + index)).toNat
  rw [UInt8.toNat_ofNat', Nat.mod_eq_of_lt (by omega)]
  exact Nat.le_add_right _ _

theorem mem_table_of_token? {word : Text} {token : UInt8} (h : token? word = some token) :
    (word, token) ∈ table := by
  obtain ⟨entry, hfind, rfl⟩ := Option.map_eq_some_iff.mp h
  have hword : entry.1 = word := by simpa using List.find?_some hfind
  exact hword ▸ List.mem_of_find?_eq_some hfind

theorem token?_ne_none {entry : Text × UInt8} (h : entry ∈ table) : token? entry.1 ≠ none := by
  rw [token?, Ne, Option.map_eq_none_iff, List.find?_eq_none]
  intro hnone
  exact hnone entry h (decide_eq_true rfl)

/-- What all keywords have in common: they are not empty, the search reaches their length, they
hold no space and no quotation mark, and no apostrophe unless they are one. -/
structure IsWord (word : Text) : Prop where
  ne_nil : word ≠ []
  length_le : word.length ≤ maxLength
  spaceless : ' ' ∉ word
  quoteless : '\x22' ∉ word
  eq_apostrophe : '\x27' ∈ word → word = ['\x27']

theorem isWord_of_mem_words {word : Text} (h : word ∈ words) : IsWord word := by
  -- One pass over the table is much faster than five.
  have hwords : ∀ word ∈ words, word ≠ [] ∧ word.length ≤ maxLength ∧ ' ' ∉ word ∧
      '\x22' ∉ word ∧ ('\x27' ∈ word → word = ['\x27']) := by decide +kernel
  obtain ⟨hne, hlength, hspace, hquote, happostrophe⟩ := hwords word h
  exact ⟨hne, hlength, hspace, hquote, happostrophe⟩

theorem isWord_of_mem_table {entry : Text × UInt8} (h : entry ∈ table) : IsWord entry.1 :=
  isWord_of_mem_words (mem_words_of_mem_table h)

/-! ### The search -/

/-- The byte of the keyword that a number of characters at the start of a text spell. -/
def tokenAt? (text : Text) (length : Nat) : Option UInt8 :=
  if text.length < length then none else token? (upper (text.take length))

theorem mem_table_of_tokenAt? {text : Text} {length : Nat} {token : UInt8}
    (h : tokenAt? text length = some token) :
    length ≤ text.length ∧ (upper (text.take length), token) ∈ table := by
  unfold tokenAt? at h
  split_ifs at h with hshort
  exact ⟨Nat.not_lt.mp hshort, mem_table_of_token? h⟩

theorem longestUpTo_succ (text : Text) (limit : Nat) :
    longestUpTo text (limit + 1) =
      match tokenAt? text (limit + 1) with
      | some token => some (token, limit + 1)
      | none => longestUpTo text limit := by
  rw [longestUpTo]
  by_cases hshort : text.length ≤ limit
  · rw [if_pos hshort, tokenAt?, if_pos (Nat.lt_succ_of_le hshort)]
  · have htoken : tokenAt? text (limit + 1) = token? (upper (text.take (limit + 1))) :=
      if_neg (mt Nat.le_of_lt_succ hshort)
    rw [htoken]
    exact if_neg hshort

/-- The search looks at nothing but the keywords at each length. -/
theorem longestUpTo_congr {text other : Text} {limit : Nat}
    (h : ∀ length ≤ limit, tokenAt? text length = tokenAt? other length) :
    longestUpTo text limit = longestUpTo other limit := by
  induction limit with
  | zero => rfl
  | succ limit ih =>
    rw [longestUpTo_succ, longestUpTo_succ, h _ (Nat.le_refl _),
      ih fun length hlength ↦ h length (Nat.le_succ_of_le hlength)]

theorem longest?_eq (text : Text) : longest? text = longestUpTo text maxLength := by
  refine longestUpTo_congr fun length hlength ↦ ?_
  have hshort : (text.take maxLength).length < length ↔ text.length < length := by
    rw [List.length_take]
    omega
  simp only [tokenAt?, hshort, List.take_take, Nat.min_eq_left hlength]

/-- Nothing is found exactly if no length spells a keyword. -/
theorem longestUpTo_eq_none_iff {text : Text} {limit : Nat} :
    longestUpTo text limit = none ↔
      ∀ length, 0 < length → length ≤ limit → tokenAt? text length = none := by
  induction limit with
  | zero => exact iff_of_true rfl fun length hpos hle ↦ absurd hpos (Nat.not_lt.mpr hle)
  | succ limit ih =>
    rw [longestUpTo_succ]
    cases htoken : tokenAt? text (limit + 1) with
    | some token =>
      refine iff_of_false (Option.some_ne_none _) fun h ↦ ?_
      rw [h _ limit.succ_pos (Nat.le_refl _)] at htoken
      exact Option.some_ne_none _ htoken.symm
    | none =>
      simp only [ih]
      constructor
      · intro h length hpos hle
        rcases Nat.lt_or_eq_of_le hle with hlt | rfl
        · exact h length hpos (Nat.le_of_lt_succ hlt)
        · exact htoken
      · exact fun h length hpos hle ↦ h length hpos (Nat.le_succ_of_le hle)

/-- What is found is the keyword at the greatest length that spells one. -/
theorem longestUpTo_eq_some_iff {text : Text} {limit length : Nat} {token : UInt8} :
    longestUpTo text limit = some (token, length) ↔
      0 < length ∧ length ≤ limit ∧ tokenAt? text length = some token ∧
        ∀ longer, length < longer → longer ≤ limit → tokenAt? text longer = none := by
  induction limit with
  | zero =>
    refine iff_of_false (Option.some_ne_none _).symm ?_
    rintro ⟨hpos, hle, -⟩
    omega
  | succ limit ih =>
    rw [longestUpTo_succ]
    cases hlast : tokenAt? text (limit + 1) with
    | some found =>
      simp only [Option.some.injEq, Prod.mk.injEq]
      constructor
      · rintro ⟨rfl, rfl⟩
        exact ⟨limit.succ_pos, Nat.le_refl _, hlast,
          fun longer hlt hle ↦ absurd hlt (Nat.not_lt.mpr hle)⟩
      · rintro ⟨-, hle, htoken, hlonger⟩
        rcases Nat.lt_or_eq_of_le hle with hbelow | rfl
        · rw [hlonger _ hbelow (Nat.le_refl _)] at hlast
          exact absurd hlast.symm (Option.some_ne_none _)
        · exact ⟨Option.some.inj (hlast.symm.trans htoken), rfl⟩
    | none =>
      simp only [ih]
      constructor
      · rintro ⟨hpos, hle, htoken, hlonger⟩
        refine ⟨hpos, Nat.le_succ_of_le hle, htoken, fun longer hlt hle' ↦ ?_⟩
        rcases Nat.lt_or_eq_of_le hle' with hbelow | rfl
        · exact hlonger longer hlt (Nat.le_of_lt_succ hbelow)
        · exact hlast
      · rintro ⟨hpos, hle, htoken, hlonger⟩
        refine ⟨hpos, ?_, htoken, fun longer hlt hle' ↦ hlonger longer hlt (Nat.le_succ_of_le hle')⟩
        rcases Nat.lt_or_eq_of_le hle with hbelow | rfl
        · exact Nat.le_of_lt_succ hbelow
        · rw [hlast] at htoken
          exact absurd htoken.symm (Option.some_ne_none _)

/-! ### Texts of ASCII characters -/

/-- Whether a text begins with a word in upper case, whatever the case of its own letters is. -/
def Begins (word text : Text) : Prop :=
  word <+: text.map Char.toUpper

instance (word text : Text) : Decidable (Begins word text) :=
  inferInstanceAs (Decidable (word <+: text.map Char.toUpper))

theorem upperChar_of_ascii {c : Char} (h : c.toNat < 0x80) : upperChar c = [c.toUpper] := by
  have hall : ∀ n < 0x80, upperChar (Char.ofNat n) = [(Char.ofNat n).toUpper] := by decide +kernel
  rw [← Char.ofNat_toNat c]
  exact hall c.toNat h

theorem upper_of_ascii {text : Text} (h : text.Ascii) : upper text = text.map Char.toUpper := by
  induction text with
  | nil => rfl
  | cons c rest ih =>
    obtain ⟨hc, hrest⟩ := Text.ascii_cons.mp h
    rw [upper, List.flatMap_cons, ← upper, ih hrest, upperChar_of_ascii hc]
    rfl

variable {text : Text} {token : UInt8} {length : Nat}

/-- The keyword at a length is one of that length with which the text begins. -/
theorem exists_of_tokenAt? (hascii : text.Ascii) (h : tokenAt? text length = some token) :
    ∃ word, (word, token) ∈ table ∧ word.length = length ∧ Begins word text := by
  have htake : Text.Ascii (text.take length) := fun c hc ↦ hascii c (List.mem_of_mem_take hc)
  obtain ⟨hlength, hmem⟩ := mem_table_of_tokenAt? h
  rw [upper_of_ascii htake, List.map_take] at hmem
  refine ⟨_, hmem, ?_, List.take_prefix _ _⟩
  rw [List.length_take, List.length_map, Nat.min_eq_left hlength]

/-- A keyword with which a text begins is met at its length. -/
theorem tokenAt?_ne_none (hascii : text.Ascii) {entry : Text × UInt8} (h : entry ∈ table)
    (hbegins : Begins entry.1 text) : tokenAt? text entry.1.length ≠ none := by
  have htake : Text.Ascii (text.take entry.1.length) :=
    fun c hc ↦ hascii c (List.mem_of_mem_take hc)
  have hlength := hbegins.length_le
  rw [List.length_map] at hlength
  rw [tokenAt?, if_neg (Nat.not_lt.mpr hlength), upper_of_ascii htake, List.map_take,
    ← List.prefix_iff_eq_take.mp hbegins]
  exact token?_ne_none h

/-- Whether an entry of the table is the longest keyword with which a text begins. -/
structure IsLongest (entry : Text × UInt8) (text : Text) : Prop where
  mem : entry ∈ table
  begins : Begins entry.1 text
  length_le : ∀ other ∈ table, Begins other.1 text → other.1.length ≤ entry.1.length

/-- What is found is the longest keyword with which the text begins. -/
theorem exists_of_longest? (hascii : text.Ascii) (h : longest? text = some (token, length)) :
    ∃ word, word.length = length ∧ IsLongest (word, token) text := by
  rw [longest?_eq] at h
  obtain ⟨-, -, htoken, hlonger⟩ := longestUpTo_eq_some_iff.mp h
  obtain ⟨word, hmem, rfl, hbegins⟩ := exists_of_tokenAt? hascii htoken
  refine ⟨word, rfl, hmem, hbegins, fun other hother hbegins' ↦ ?_⟩
  by_contra hlt
  exact tokenAt?_ne_none hascii hother hbegins'
    (hlonger other.1.length (Nat.not_le.mp hlt) (isWord_of_mem_table hother).length_le)

/-- Nothing is found exactly if the text begins with no keyword. -/
theorem longest?_eq_none_iff (hascii : text.Ascii) :
    longest? text = none ↔ ∀ entry ∈ table, ¬Begins entry.1 text := by
  rw [longest?_eq, longestUpTo_eq_none_iff]
  constructor
  · intro h entry hentry hbegins
    have hword := isWord_of_mem_table hentry
    exact tokenAt?_ne_none hascii hentry hbegins
      (h entry.1.length (List.length_pos_of_ne_nil hword.ne_nil) hword.length_le)
  · intro h length _ _
    by_contra hsome
    obtain ⟨token, htoken⟩ := Option.ne_none_iff_exists'.mp hsome
    obtain ⟨word, hmem, -, hbegins⟩ := exists_of_tokenAt? hascii htoken
    exact h _ hmem hbegins

/-! ### Characters at which keywords end -/

theorem length_le_upper (text : Text) : text.length ≤ (upper text).length := by
  have hone (c : Char) : 1 ≤ (upperChar c).length := by
    unfold upperChar
    split_ifs
    · exact Nat.le_refl _
    · split <;> exact Nat.succ_pos _
  induction text with
  | nil => exact Nat.zero_le _
  | cons c rest ih =>
    have hc := hone c
    rw [upper, List.flatMap_cons, ← upper, List.length_append, List.length_cons]
    omega

/-- A character that no keyword of more than one character holds has no part in the keywords with
which the text before it begins. -/
theorem longest?_append_cons {c : Char} (hupper : c ∈ upperChar c)
    (hends : ∀ word, IsWord word → c ∈ word → word = [c]) (hne : text ≠ []) (rest : Text) :
    longest? (text ++ c :: rest) = longest? text := by
  rw [longest?_eq, longest?_eq]
  refine longestUpTo_congr fun length _ ↦ ?_
  by_cases hinside : length ≤ text.length
  · have hboth : ¬(text ++ c :: rest).length < length := by
      rw [List.length_append]
      omega
    rw [tokenAt?, tokenAt?, if_neg hboth, if_neg (Nat.not_lt.mpr hinside),
      List.take_append_of_le_length hinside]
  · -- A keyword of this length would hold the character and be longer than it.
    have hshort : text.length < length := Nat.not_le.mp hinside
    have hpos : 0 < text.length := List.length_pos_of_ne_nil hne
    rw [tokenAt?.eq_def text, if_pos hshort]
    by_contra hsome
    obtain ⟨token, htoken⟩ := Option.ne_none_iff_exists'.mp hsome
    obtain ⟨hlength, hmem⟩ := mem_table_of_tokenAt? htoken
    obtain ⟨more, rfl⟩ : ∃ more, length = text.length + (more + 1) :=
      ⟨length - text.length - 1, by omega⟩
    have hheld : c ∈ (text ++ c :: rest).take (text.length + (more + 1)) := by
      rw [List.take_length_add_append, List.take_succ_cons]
      exact List.mem_append_right _ List.mem_cons_self
    have hword : upper _ = [c] :=
      hends _ (isWord_of_mem_table hmem) (List.mem_flatMap.mpr ⟨c, hheld, hupper⟩)
    have hlonger := length_le_upper ((text ++ c :: rest).take (text.length + (more + 1)))
    rw [hword, List.length_singleton, List.length_take] at hlonger
    omega

/-- An apostrophe after a text has no part in the keywords with which the text begins. -/
theorem longest?_append_apostrophe (hne : text ≠ []) (rest : Text) :
    longest? (text ++ '\x27' :: rest) = longest? text :=
  longest?_append_cons (by decide) (fun _ hword ↦ hword.eq_apostrophe) hne rest

/-- A keyword with a space after it is the longest with which a text begins. -/
theorem longest?_append_space {word : Text} (htoken : token? (upper word) = some token)
    (hlength : word.length ≤ maxLength) (rest : Text) :
    longest? (word ++ ' ' :: rest) = some (token, word.length) := by
  have hne : word ≠ [] := by
    rintro rfl
    exact (isWord_of_mem_table (mem_table_of_token? htoken)).ne_nil rfl
  rw [longest?_append_cons (by decide) (fun _ hword hmem ↦ absurd hmem hword.spaceless) hne,
    longest?_eq, longestUpTo_eq_some_iff]
  refine ⟨List.length_pos_of_ne_nil hne, hlength, ?_, fun longer hlonger _ ↦ if_pos hlonger⟩
  rw [tokenAt?, if_neg (Nat.lt_irrefl _), List.take_length, htoken]

end Keyword

end ChanceDeck
