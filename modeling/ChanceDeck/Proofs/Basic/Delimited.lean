import ChanceDeck.Proofs.Basic.Lexeme
import ChanceDeck.Proofs.Listing.Image

/-!
# Images split at zero bytes

Each line of an image ends in a zero byte, and an interpreter may look for that byte instead of
following the pointers. `split` does so: it reads a head, takes what stands before the next zero
byte, and goes on after it.

Both ways meet the same lines exactly if no line holds a zero byte in its code. Keywords, the colon
before `ELSE` and the bytes of an apostrophe are no zero bytes, so that only a character that is
stored as it is can give one, and of these only U+0000 does (`zero_mem_crunch_iff`). `split_ofText`
puts both together: the image of a text is split where its pointers lead exactly if no such
character is stored.
-/

set_option autoImplicit false
set_option relaxedAutoImplicit false

namespace ChanceDeck

/-! ### Zero bytes in crunched lines -/

namespace Lexeme

/-- The characters of a lexeme that are stored as they are. -/
def kept : Lexeme → Text
  | quote => ['\x22']
  | literal c => [c]
  | keyword _ _ => []
  | plain c => [c]
  | tail text => text
  | apostrophe _ => []

/-- Whether the byte of a keyword is no zero byte; other lexemes have no such byte. -/
def TokenNonzero : Lexeme → Prop
  | keyword token _ => token ≠ 0
  | _ => True

theorem charByte_eq_zero_iff {c : Char} : charByte c = 0 ↔ c = '\x00' := by
  constructor
  · intro hzero
    unfold charByte at hzero
    split_ifs at hzero with hlatin
    · have hnat : c.toNat % 256 = 0 := congrArg UInt8.toNat hzero
      rw [← Char.ofNat_toNat c, show c.toNat = 0 by omega]
    · exact absurd hzero (by decide)
  · rintro rfl
    rfl

theorem zero_mem_map_charByte_iff {text : Text} : 0 ∈ text.map charByte ↔ '\x00' ∈ text := by
  simp only [List.mem_map, charByte_eq_zero_iff, exists_eq_right]

theorem zero_mem_bytes_iff {lexeme : Lexeme} (htoken : lexeme.TokenNonzero)
    (previous : Option UInt8) : 0 ∈ lexeme.bytes previous ↔ '\x00' ∈ lexeme.kept := by
  cases lexeme with
  | quote =>
    show 0 ∈ [0x22] ↔ '\x00' ∈ ['\x22']
    decide
  | literal c =>
    show 0 ∈ [c].map charByte ↔ '\x00' ∈ [c]
    exact zero_mem_map_charByte_iff
  | keyword token spelling =>
    have hcolon : (0 : UInt8) ≠ colon := by decide
    have htoken' : 0 ≠ token := Ne.symm htoken
    simp only [bytes, kept]
    split_ifs <;> simp [hcolon, htoken']
  | plain c =>
    show 0 ∈ [c].map charByte ↔ '\x00' ∈ [c]
    exact zero_mem_map_charByte_iff
  | tail text => exact zero_mem_map_charByte_iff
  | apostrophe text =>
    show 0 ∈ [colon, Keyword.remToken, Keyword.apostropheToken] ↔ '\x00' ∈ []
    decide

theorem zero_mem_encode_iff {lexemes : List Lexeme}
    (htokens : ∀ lexeme ∈ lexemes, lexeme.TokenNonzero) (previous : Option UInt8) :
    0 ∈ encode previous lexemes ↔ '\x00' ∈ lexemes.flatMap kept := by
  induction lexemes generalizing previous with
  | nil => simp [encode]
  | cons lexeme rest ih =>
    obtain ⟨hfirst, hrest⟩ := List.forall_mem_cons.mp htokens
    simp only [encode, List.mem_append, List.flatMap_cons, zero_mem_bytes_iff hfirst, ih hrest]

theorem Scanned.tokenNonzero {previous : Option Char} {inString : Bool} {text : Text}
    {lexemes : List Lexeme} (h : Scanned previous inString text lexemes) :
    ∀ lexeme ∈ lexemes, lexeme.TokenNonzero := by
  intro lexeme hmem
  cases lexeme with
  | keyword token spelling =>
    rintro rfl
    have hupperHalf : (0x80 : UInt8) ≤ 0 := Keyword.le_of_mem_table (h.mem_table hmem)
    exact absurd hupperHalf (by decide)
  | quote | literal _ | plain _ | tail _ | apostrophe _ => trivial

/-- What is stored as it is stands in the line. -/
theorem kept_subset_spelling (lexeme : Lexeme) : lexeme.kept ⊆ lexeme.spelling := by
  cases lexeme with
  | quote | literal _ | plain _ | tail _ => exact List.Subset.refl _
  | keyword _ _ | apostrophe _ => exact List.nil_subset _

end Lexeme

/-- The characters of a line of code that are stored as they are: all but its keywords, and what
follows an apostrophe outside string literals. -/
def kept (code : Text) : Text :=
  (Lexeme.ofText code).flatMap Lexeme.kept

/-- A crunched line holds a zero byte exactly if a character U+0000 is stored in it. -/
theorem zero_mem_crunch_iff {code : Text} : 0 ∈ crunch code ↔ '\x00' ∈ kept code :=
  Lexeme.zero_mem_encode_iff (Lexeme.scanned_ofText code).tokenNonzero none

theorem mem_of_mem_kept {code : Text} {c : Char} (h : c ∈ kept code) : c ∈ code := by
  obtain ⟨lexeme, hlexeme, hc⟩ := List.mem_flatMap.mp h
  rw [← Lexeme.spell_ofText code]
  exact List.mem_flatMap.mpr ⟨lexeme, hlexeme, lexeme.kept_subset_spelling hc⟩

/-! ### Lines that hold a character -/

theorem Text.mem_of_mem_trim {text : Text} {c : Char} (h : c ∈ trim text) : c ∈ text := by
  have htrimStart : c ∈ trimStart text := by
    obtain ⟨blanks, -, hparts⟩ := trimEnd_append_blanks (trimStart text)
    rw [hparts]
    exact List.mem_append_left _ h
  exact (List.dropWhile_sublist _).subset htrimStart

theorem Text.mem_of_mem_lines {text line : Text} {c : Char} (hline : line ∈ lines text)
    (h : c ∈ line) : c ∈ text := by
  induction text using lines.induct generalizing line with
  | case1 => simp [lines] at hline
  | case2 rest ih =>
    rw [lines] at hline
    rcases List.mem_cons.mp hline with rfl | hrest
    · exact absurd h List.not_mem_nil
    · exact List.mem_cons_of_mem _ (List.mem_cons_of_mem _ (ih hrest h))
  | case3 rest ih =>
    rw [lines] at hline
    rcases List.mem_cons.mp hline with rfl | hrest
    · exact absurd h List.not_mem_nil
    · exact List.mem_cons_of_mem _ (ih hrest h)
  | case4 d rest hreturn hfeed hnil ih =>
    rw [lines.eq_4 d rest hreturn hfeed, hnil] at hline
    rw [List.mem_singleton.mp hline] at h
    exact List.mem_singleton.mp h ▸ List.mem_cons_self
  | case5 d rest hreturn hfeed first others hcons ih =>
    rw [lines.eq_4 d rest hreturn hfeed, hcons] at hline
    rcases List.mem_cons.mp hline with rfl | hothers
    · rcases List.mem_cons.mp h with rfl | hfirst
      · exact List.mem_cons_self
      · exact List.mem_cons_of_mem _ (ih (hcons ▸ List.mem_cons_self) hfirst)
    · exact List.mem_cons_of_mem _ (ih (hcons ▸ List.mem_cons_of_mem _ hothers) h)

namespace SourceLine

theorem mem_of_mem_code {textLine : Nat} {line : Text} {source : SourceLine}
    (hsource : ofText textLine line = .ok (some source)) {c : Char} (h : c ∈ source.code) :
    c ∈ line := by
  unfold ofText at hsource
  simp only at hsource
  split_ifs at hsource with hdigits
  · simp at hsource
  · split at hsource
    · simp at hsource
    · rw [← Option.some.inj (Except.ok.inj hsource)] at h
      exact Text.mem_of_mem_trim
        ((List.dropWhile_sublist _).subset ((List.dropWhile_sublist _).subset h))

/-- A character of a numbered line stands in the text. -/
theorem mem_of_mem_numbered {text : Text} {source : SourceLine} (hsource : source ∈ numbered text)
    {c : Char} (h : c ∈ source.code) : c ∈ text := by
  obtain ⟨entry, hentry, hread⟩ := List.mem_filterMap.mp hsource
  have hline : entry.1 ∈ Text.lines text := List.fst_mem_of_mem_zipIdx hentry
  cases hofText : ofText entry.2 entry.1 with
  | error e => simp [hofText, Except.toOption] at hread
  | ok found =>
    rw [hofText] at hread
    have hfound : found = some source := by simpa [Except.toOption] using hread
    exact Text.mem_of_mem_lines hline (mem_of_mem_code (hofText.trans (congrArg _ hfound)) h)

end SourceLine

namespace Image

/-! ### Splitting at zero bytes -/

/-- The lines of an image if each ends at the first zero byte after its head. -/
def split : Bytes → Option (List ImageLine)
  | [] => some []
  | _ :: _ :: low :: high :: rest =>
    match hafter : rest.dropWhile (· ≠ 0) with
    | [] => none
    | _ :: after =>
      (split after).map
        (⟨UInt16.ofNat (low.toNat + 256 * high.toNat), rest.takeWhile (· ≠ 0)⟩ :: ·)
  | _ => none
termination_by image => image.length
decreasing_by
  have hlength : (rest.dropWhile (· ≠ 0)).length ≤ rest.length :=
    (List.dropWhile_sublist _).length_le
  rw [hafter] at hlength
  simp only [List.length_cons] at hlength ⊢
  omega

/-- The place of the first zero byte from an offset on, or the end of the image. -/
def firstZero (image : Bytes) (offset : Nat) : Nat :=
  offset + ((image.drop offset).takeWhile (· ≠ 0)).length

section ZeroByte

variable {code : Bytes} (rest : Bytes)

theorem takeWhile_append_zero (hcode : 0 ∉ code) :
    (code ++ 0 :: rest).takeWhile (· ≠ 0) = code := by
  have hall : ∀ b ∈ code, decide (b ≠ 0) = true :=
    fun b hb ↦ decide_eq_true fun h ↦ hcode (h ▸ hb)
  rw [List.takeWhile_append_of_pos hall, List.takeWhile_cons_of_neg (by decide), List.append_nil]

theorem dropWhile_append_zero (hcode : 0 ∉ code) :
    (code ++ 0 :: rest).dropWhile (· ≠ 0) = 0 :: rest := by
  have hall : ∀ b ∈ code, decide (b ≠ 0) = true :=
    fun b hb ↦ decide_eq_true fun h ↦ hcode (h ▸ hb)
  rw [List.dropWhile_append_of_pos hall, List.dropWhile_cons_of_neg (by decide)]

/-- The first zero byte is the one after the code exactly if the code holds none. -/
theorem length_takeWhile_append_zero :
    ((code ++ 0 :: rest).takeWhile (· ≠ 0)).length = code.length ↔ 0 ∉ code := by
  constructor
  · intro hlength hzero
    have hprefix := List.takeWhile_prefix (fun b : UInt8 ↦ decide (b ≠ 0)) (l := code ++ 0 :: rest)
    rw [List.prefix_iff_eq_take, hlength, List.take_left] at hprefix
    rw [← hprefix] at hzero
    exact absurd (List.all_eq_true.mp List.all_takeWhile 0 hzero) (by decide)
  · intro hzero
    rw [takeWhile_append_zero rest hzero]

end ZeroByte

/-- A line without a zero byte in its code is split off as it is. -/
theorem split_stored {line : ImageLine} (hcode : 0 ∉ line.code) (next : UInt16) (rest : Bytes) :
    split (stored next line ++ rest) = (split rest).map (line :: ·) := by
  have hbytes : stored next line ++ rest =
      next.toUInt8 :: (next >>> 8).toUInt8 :: line.number.toUInt8 ::
        (line.number >>> 8).toUInt8 :: (line.code ++ 0 :: rest) := by
    simp [stored, littleEndian]
  rw [hbytes, split]
  split
  · rename_i hnil
    rw [dropWhile_append_zero rest hcode] at hnil
    simp at hnil
  · rename_i zero after hafter
    rw [dropWhile_append_zero rest hcode] at hafter
    rw [← (List.cons.inj hafter).2, takeWhile_append_zero rest hcode, low_add_high]

theorem split_layout {lines : List ImageLine} (hlines : ∀ line ∈ lines, 0 ∉ line.code)
    (address : Nat) : split (layout address lines) = some lines := by
  induction lines generalizing address with
  | nil =>
    rw [layout, split]
  | cons line rest ih =>
    obtain ⟨hline, hrest⟩ := List.forall_mem_cons.mp hlines
    rw [layout_cons, split_stored hline, ih hrest, Option.map_some]

/-- What is split off holds no zero byte, whatever the bytes are. -/
theorem zero_not_mem_of_split {image : Bytes} {lines : List ImageLine}
    (h : split image = some lines) : ∀ line ∈ lines, 0 ∉ line.code := by
  induction image using split.induct generalizing lines with
  | case1 =>
    rw [split] at h
    simp [← Option.some.inj h]
  | case2 _ _ low high rest hnil =>
    rw [split] at h
    split at h
    · simp at h
    · rename_i hcons
      rw [hnil] at hcons
      simp at hcons
  | case3 _ _ low high rest zero after hafter ih =>
    rw [split] at h
    split at h
    · simp at h
    · rename_i other hother
      rw [hafter] at hother
      rw [← (List.cons.inj hother).2] at h
      obtain ⟨others, hothers, rfl⟩ := Option.map_eq_some_iff.mp h
      refine List.forall_mem_cons.mpr ⟨fun hzero ↦ ?_, ih hothers⟩
      exact absurd (List.all_eq_true.mp List.all_takeWhile 0 hzero) (by decide)
  | case4 image hempty hshort =>
    rw [split.eq_3 image hempty hshort] at h
    simp at h

/-! ### Splitting compared with the walk -/

/-- Each visit finds its code after its head, with a zero byte after the code and the next line
after that. -/
theorem drop_of_mem_visits (base : UInt16) (before : Bytes) (lines : List ImageLine)
    (hfits : base.toNat + before.length + size lines < 65536) :
    ∀ visit ∈ visits base before.length lines,
      visit.next.toNat - base.toNat = visit.offset + width visit.line ∧
        ∃ rest, (before ++ layout (base.toNat + before.length) lines).drop (visit.offset + 4) =
          visit.line.code ++ 0 :: rest := by
  induction lines generalizing before with
  | nil => simp [visits]
  | cons line rest ih =>
    intro visit hvisit
    rw [size_cons] at hfits
    rw [layout_cons]
    rcases List.mem_cons.mp hvisit with rfl | hlater
    · refine ⟨?_, _, drop_stored before _ line _⟩
      show (UInt16.ofNat (base.toNat + (before.length + width line))).toNat - base.toNat =
        before.length + width line
      rw [UInt16.toNat_ofNat', Nat.mod_eq_of_lt (by omega), Nat.add_sub_cancel_left]
    · have hrest := ih
        (before ++ stored (UInt16.ofNat (base.toNat + before.length + width line)) line)
        (by rw [length_append_stored]; omega) visit
        ((length_append_stored before _ line).symm ▸ hlater)
      rw [length_append_stored, ← Nat.add_assoc, List.append_assoc] at hrest
      exact hrest

/-- The first zero byte after each head stands right before the next line exactly if no code holds a
zero byte. -/
theorem firstZero_visits_iff {base : UInt16} {lines : List ImageLine}
    (hfits : base.toNat + size lines < 65536) :
    (∀ visit ∈ visits base 0 lines,
        firstZero (layout base.toNat lines) (visit.offset + 4) + 1 =
          visit.next.toNat - base.toNat) ↔
      ∀ line ∈ lines, 0 ∉ line.code := by
  have hvisits := map_line_visits base 0 lines
  have hone : ∀ visit ∈ visits base 0 lines,
      (firstZero (layout base.toNat lines) (visit.offset + 4) + 1 =
          visit.next.toNat - base.toNat ↔ 0 ∉ visit.line.code) := by
    intro visit hvisit
    obtain ⟨hnext, rest, hdrop⟩ := drop_of_mem_visits base [] lines hfits visit hvisit
    have hrest : (layout base.toNat lines).drop (visit.offset + 4) = visit.line.code ++ 0 :: rest :=
      hdrop
    rw [hnext, firstZero, hrest, ← length_takeWhile_append_zero rest, width]
    omega
  constructor
  · intro h line hline
    rw [← hvisits] at hline
    obtain ⟨visit, hvisit, rfl⟩ := List.mem_map.mp hline
    exact (hone visit hvisit).mp (h visit hvisit)
  · intro h visit hvisit
    exact (hone visit hvisit).mpr (h visit.line (hvisits ▸ List.mem_map_of_mem hvisit))

/-- The image of a text is split where its pointers lead exactly if it ends below 2 ^ 32 and no
character U+0000 is stored in a line: then each line of the image ends at the first zero byte after
its head, and the lines split off are those of the walk. In a text without U+0000 none is stored. -/
theorem split_ofText {text : Text} {base : UInt16} {image : Bytes}
    (himage : ofText text base = .ok image) :
    ((∃ met, walk image base 0 = some met ∧ ∀ visit ∈ met,
        firstZero image (visit.offset + 4) + 1 = visit.next.toNat - base.toNat) ↔
      base.toNat + image.length < 2 ^ 32 ∧
        ∀ source ∈ SourceLine.numbered text, '\x00' ∉ kept source.code) ∧
    ((∃ met, walk image base 0 = some met ∧ split image = some (met.map Visit.line)) ↔
      base.toNat + image.length < 2 ^ 32 ∧
        ∀ source ∈ SourceLine.numbered text, '\x00' ∉ kept source.code) ∧
    (∀ met, walk image base 0 = some met →
      met.map Visit.line = (SourceLine.numbered text).map crunchLine) ∧
    ('\x00' ∉ text → ∀ source ∈ SourceLine.numbered text, '\x00' ∉ kept source.code) := by
  have hcodes : (∀ source ∈ SourceLine.numbered text, '\x00' ∉ kept source.code) ↔
      ∀ line ∈ (SourceLine.numbered text).map crunchLine, 0 ∉ line.code := by
    simp only [List.forall_mem_map, crunchLine, zero_mem_crunch_iff]
  -- What is said of the walk is said of the lines laid out, if there is a walk.
  have hwalk (P : List Visit → Prop) : (∃ met, walk image base 0 = some met ∧ P met) ↔
      base.toNat + image.length < 2 ^ 32 ∧
        P (visits base 0 ((SourceLine.numbered text).map crunchLine)) := by
    simp only [walk_eq_some_iff himage, and_assoc, exists_and_left, exists_eq_left]
  refine ⟨?_, ?_, fun met hmet ↦ ?_, fun htext source hsource hzero ↦ ?_⟩
  · rw [hwalk, hcodes]
    refine and_congr_right fun hbelow ↦ ?_
    obtain ⟨hend, hlayout⟩ := ofText_eq_ok himage
    rw [Nat.mod_eq_of_lt hbelow, hlayout, length_layout] at hend
    rw [hlayout]
    exact firstZero_visits_iff hend
  · rw [hwalk, hcodes, map_line_visits, (ofText_eq_ok himage).2]
    exact and_congr_right fun _ ↦ ⟨zero_not_mem_of_split, fun h ↦ split_layout h _⟩
  · rw [((walk_eq_some_iff himage met).mp hmet).2, map_line_visits]
  · exact htext (SourceLine.mem_of_mem_numbered hsource (mem_of_mem_kept hzero))

/-- `ELSE` with the colon put before it, a string literal that is not closed, a character above
U+00FF, and a character U+0000 after an apostrophe, where nothing is stored. -/
theorem split_ofText_apostrophe :
    ∃ image, ofText "10 IF A ELSE \x22€\n20 END ' \x00".toList 0x8001 = .ok image ∧
      split image = some [⟨10, [0x8A, 0x20, 0x41, 0x20, 0x3A, 0x91, 0x20, 0x22, 0x3F]⟩,
        ⟨20, [0x80, 0x20, 0x3A, 0x8E, 0xFF]⟩] := by
  have himage : ofText "10 IF A ELSE \x22€\n20 END ' \x00".toList 0x8001 =
      .ok [0x0F, 0x80, 0x0A, 0x00, 0x8A, 0x20, 0x41, 0x20, 0x3A, 0x91, 0x20, 0x22, 0x3F, 0x00,
        0x19, 0x80, 0x14, 0x00, 0x80, 0x20, 0x3A, 0x8E, 0xFF, 0x00] := by
    decide +kernel
  obtain ⟨-, hsplit, hlines, -⟩ := split_ofText himage
  obtain ⟨met, hwalk, hboth⟩ := hsplit.mpr ⟨by decide, by decide +kernel⟩
  refine ⟨_, himage, hboth.trans (congrArg some ((hlines met hwalk).trans ?_))⟩
  decide +kernel

/-- A line of nothing but one letter after `REM`, as often as it may be. -/
theorem ofText_rem (base : UInt16) (n : Nat) :
    ofText (Text.unlines ["10 REM ".toList ++ List.replicate (n + 1) 'A']) base =
      if 65535 < (base.toNat + (n + 8)) % 2 ^ 32 then
        .error (.programTooLarge (UInt32.ofNat (base.toNat + (n + 8))))
      else .ok (layout base.toNat [⟨10, 0x8E :: 0x20 :: List.replicate (n + 1) 0x41⟩]) := by
  have htext : "10 REM ".toList ++ List.replicate (n + 1) 'A' =
      Decimal.natural 10 ++ ' ' :: ("REM".toList ++ ' ' :: List.replicate (n + 1) 'A') := rfl
  have hfeed : '\n' ∉ List.replicate (n + 1) 'A' := fun h ↦
    absurd (List.eq_of_mem_replicate h) (by decide)
  have hclosed : Text.Closed (List.replicate (n + 1) 'A') :=
    ⟨'A', by simp [List.getLast?_replicate], by decide⟩
  have hline : Listing.Numbered 10 ("10 REM ".toList ++ List.replicate (n + 1) 'A') :=
    ⟨⟨_, htext⟩, by simp [hfeed], hclosed.append _⟩
  have hsource (textLine : Nat) :
      SourceLine.ofText textLine ("10 REM ".toList ++ List.replicate (n + 1) 'A') =
        .ok (some ⟨10, "REM".toList ++ ' ' :: List.replicate (n + 1) 'A'⟩) := by
    rw [htext] at hline ⊢
    exact SourceLine.ofText_of_numbered hline (by decide) (by simp [Text.isBlank]) textLine
  have hlines : SourceLine.ofLines 1 (Text.lines
      (Text.unlines ["10 REM ".toList ++ List.replicate (n + 1) 'A'])) =
      .ok [⟨10, "REM".toList ++ ' ' :: List.replicate (n + 1) 'A'⟩] := by
    rw [Text.lines_unlines (List.forall_mem_singleton.mpr hline.line)]
    exact SourceLine.ofLines_of_forall₂ (.cons hsource .nil) 1
  have hcode : crunch ("REM".toList ++ ' ' :: List.replicate (n + 1) 'A') =
      0x8E :: 0x20 :: List.replicate (n + 1) 0x41 := by
    rw [crunch_rem, List.map_cons, List.map_replicate]
    rfl
  have hsize : size [⟨10, 0x8E :: 0x20 :: List.replicate (n + 1) 0x41⟩] = n + 8 := by
    simp [size, width]
  rw [ofText_of_ofLines base hlines, List.map_singleton, crunchLine, hcode, hsize]

/-- A character U+0000 after `REM`: the first zero byte after the first head is not the one before
the next line, and splitting gives other lines than the walk. Without U+0000, a line so long that its
size begins again at zero: splitting gives this line, and the walk does not come to its end. -/
theorem split_ne_walk_of_zero :
    (∃ image met, ofText "10 REM \x00\n20 END".toList 0x8001 = .ok image ∧
      walk image 0x8001 0 = some met ∧
      (∃ visit ∈ met,
        firstZero image (visit.offset + 4) + 1 ≠ visit.next.toNat - (0x8001 : UInt16).toNat) ∧
      split image ≠ some (met.map Visit.line)) ∧
    ∃ image line,
      ofText (Text.unlines ["10 REM ".toList ++ List.replicate (2 ^ 32 - 7) 'A']) 0x8001 =
        .ok image ∧
      split image = some [line] ∧ walk image 0x8001 0 = none := by
  constructor
  · have himage : ofText "10 REM \x00\n20 END".toList 0x8001 =
        .ok (layout 0x8001 [⟨10, [0x8E, 0x20, 0x00]⟩, ⟨20, [0x80]⟩]) := by
      decide +kernel
    have hwalk := walk_layout 0x8001 [] [⟨10, [0x8E, 0x20, 0x00]⟩, ⟨20, [0x80]⟩] (by decide)
    refine ⟨_, _, himage, hwalk, ⟨_, List.mem_cons_self, by decide⟩, fun hsplit ↦ ?_⟩
    exact absurd (zero_not_mem_of_split hsplit ⟨10, [0x8E, 0x20, 0x00]⟩ (by decide)) (by decide)
  · -- The number of letters stands for itself, so that nothing writes the line out.
    obtain ⟨n, hn⟩ : ∃ n, n + 8 = 2 ^ 32 := ⟨2 ^ 32 - 8, by norm_num⟩
    have himage := ofText_rem 0x8001 n
    rw [hn, if_neg (by decide)] at himage
    rw [show 2 ^ 32 - 7 = n + 1 by omega]
    refine ⟨_, _, himage, split_layout (fun line hline ↦ ?_) _, ?_⟩
    · rw [List.mem_singleton.mp hline]
      simp [List.mem_replicate]
    · refine Option.eq_none_iff_forall_ne_some.mpr fun found hfound ↦ ?_
      have hbelow := ((walk_eq_some_iff himage found).mp hfound).1
      rw [length_layout] at hbelow
      simp only [size, width, List.map_singleton, List.sum_singleton, List.length_cons,
        List.length_replicate] at hbelow
      omega

end Image

end ChanceDeck
