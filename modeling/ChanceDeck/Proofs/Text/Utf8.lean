import ChanceDeck.Text.Raw
import Mathlib.Tactic.SplitIfs

/-!
# Texts read back from their bytes

The bytes of a text are well formed and give the text again: `decode?_encode`. Reading takes one
character at a time, and the first bytes of a character tell how many follow it, so that the lemma
on one character (`decodeValid_encodeChar`) has a case for each of the four lengths and any bytes
after it. That no character is a surrogate is what keeps the forms of three bytes well formed.

Where bytes are a text, U+FFFD is written for none of them (`lossy_of_decode?`), so that a text is
shown as it is.
-/

set_option autoImplicit false
set_option relaxedAutoImplicit false

namespace ChanceDeck.Utf8

/-! ### Reading one character -/

section Forms

variable {a b c d : UInt8} (rest : Bytes)

theorem decodeValid_one (ha : a.toNat < 0x80) :
    decodeValid (a :: rest) =
      (Char.ofNat a.toNat :: (decodeValid rest).1, (decodeValid rest).2) := by
  have hfirst : a < 0x80 := UInt8.lt_iff_toNat_lt.mpr ha
  rw [decodeValid.eq_def]
  simp only [hfirst, if_true]

theorem decodeValid_two (ha : 0xC2 ≤ a.toNat ∧ a.toNat ≤ 0xDF) (hb : isTail b = true) :
    decodeValid (a :: b :: rest) =
      (Char.ofNat (a.toNat % 32 * 64 + tailBits b) :: (decodeValid rest).1,
        (decodeValid rest).2) := by
  have hlow : 0xC2 ≤ a := UInt8.le_iff_toNat_le.mpr ha.1
  have hhigh : a ≤ 0xDF := UInt8.le_iff_toNat_le.mpr ha.2
  have hfirst : ¬a < 0x80 := by
    rw [UInt8.lt_iff_toNat_lt]
    show ¬a.toNat < 128
    omega
  rw [decodeValid.eq_def]
  simp only [hfirst, if_false, hlow, hhigh, hb, decide_true, Bool.and_self, if_true]

theorem decodeValid_three (hab : beginsThree a b = true) (hc : isTail c = true) :
    decodeValid (a :: b :: c :: rest) =
      (Char.ofNat ((a.toNat % 16 * 64 + tailBits b) * 64 + tailBits c) :: (decodeValid rest).1,
        (decodeValid rest).2) := by
  have ha : 0xE0 ≤ a.toNat := by
    simp only [beginsThree, Bool.and_eq_true, decide_eq_true_eq] at hab
    exact UInt8.le_iff_toNat_le.mp hab.1.1.1.1
  have hfirst : ¬a < 0x80 := by
    rw [UInt8.lt_iff_toNat_lt]
    show ¬a.toNat < 128
    omega
  have hhigh : ¬a ≤ 0xDF := by
    rw [UInt8.le_iff_toNat_le]
    show ¬a.toNat ≤ 223
    omega
  rw [decodeValid.eq_def]
  simp only [hfirst, if_false, hhigh, decide_false, Bool.and_false, Bool.false_and,
    Bool.false_eq_true, hab, hc, Bool.and_self, if_true]

theorem decodeValid_four (hab : beginsFour a b = true) (hc : isTail c = true)
    (hd : isTail d = true) :
    decodeValid (a :: b :: c :: d :: rest) =
      (Char.ofNat (((a.toNat % 8 * 64 + tailBits b) * 64 + tailBits c) * 64 + tailBits d) ::
        (decodeValid rest).1, (decodeValid rest).2) := by
  have ha : 0xF0 ≤ a.toNat := by
    simp only [beginsFour, Bool.and_eq_true, decide_eq_true_eq] at hab
    exact UInt8.le_iff_toNat_le.mp hab.1.1.1.1
  have hfirst : ¬a < 0x80 := by
    rw [UInt8.lt_iff_toNat_lt]
    show ¬a.toNat < 128
    omega
  have hhigh : ¬a ≤ 0xDF := by
    rw [UInt8.le_iff_toNat_le]
    show ¬a.toNat ≤ 223
    omega
  have hthree : beginsThree a b = false := by
    have hlarge : ¬a ≤ 0xEF := by
      rw [UInt8.le_iff_toNat_le]
      show ¬a.toNat ≤ 239
      omega
    simp only [beginsThree, hlarge, decide_false, Bool.and_false, Bool.false_and]
  rw [decodeValid.eq_def]
  simp only [hfirst, if_false, hhigh, decide_false, Bool.and_false, Bool.false_and,
    Bool.false_eq_true, hthree, hab, hc, hd, Bool.and_self, if_true]

end Forms

/-! ### The bytes of a character -/

theorem isTail_ofNat (n : Nat) : isTail (UInt8.ofNat (n % 64 + 128)) = true := by
  have hlow : (0x80 : UInt8).toNat = 128 := rfl
  have hhigh : (0xBF : UInt8).toNat = 191 := rfl
  simp only [isTail, Bool.and_eq_true, decide_eq_true_eq, UInt8.le_iff_toNat_le,
    UInt8.toNat_ofNat']
  omega

theorem tailBits_ofNat (n : Nat) : tailBits (UInt8.ofNat (n % 64 + 128)) = n % 64 := by
  rw [tailBits, UInt8.toNat_ofNat']
  omega

theorem beginsThree_ofNat {v : Nat} (hlow : 0x7FF < v) (hhigh : v ≤ 0xFFFF)
    (hvalid : v < 0xD800 ∨ 0xDFFF < v) :
    beginsThree (UInt8.ofNat (v / 4096 % 16 + 224)) (UInt8.ofNat (v / 64 % 64 + 128)) = true := by
  have hE0 : (0xE0 : UInt8).toNat = 224 := rfl
  have hEF : (0xEF : UInt8).toNat = 239 := rfl
  have hED : (0xED : UInt8).toNat = 237 := rfl
  have hA0 : (0xA0 : UInt8).toNat = 160 := rfl
  have h9F : (0x9F : UInt8).toNat = 159 := rfl
  simp only [beginsThree, isTail_ofNat, Bool.and_true, Bool.and_eq_true, Bool.or_eq_true,
    decide_eq_true_eq, bne_iff_ne, ne_eq, ← UInt8.toNat_inj, UInt8.le_iff_toNat_le,
    UInt8.toNat_ofNat', hE0, hEF, hED, hA0, h9F]
  omega

theorem beginsFour_ofNat {v : Nat} (hlow : 0xFFFF < v) (hhigh : v < 0x110000) :
    beginsFour (UInt8.ofNat (v / 262144 % 8 + 240)) (UInt8.ofNat (v / 4096 % 64 + 128)) = true := by
  have hF0 : (0xF0 : UInt8).toNat = 240 := rfl
  have hF4 : (0xF4 : UInt8).toNat = 244 := rfl
  have h90 : (0x90 : UInt8).toNat = 144 := rfl
  have h8F : (0x8F : UInt8).toNat = 143 := rfl
  simp only [beginsFour, isTail_ofNat, Bool.and_true, Bool.and_eq_true, Bool.or_eq_true,
    decide_eq_true_eq, bne_iff_ne, ne_eq, ← UInt8.toNat_inj, UInt8.le_iff_toNat_le,
    UInt8.toNat_ofNat', hF0, hF4, h90, h8F]
  omega

/-- A character of seven bits is its only byte, and all bytes of any other have the eighth bit. -/
theorem encodeChar_cases (c : Char) :
    (c.toNat < 128 ∧ String.utf8EncodeChar c = [UInt8.ofNat c.toNat]) ∨
      128 ≤ c.toNat ∧ ∀ b ∈ String.utf8EncodeChar c, 128 ≤ b.toNat := by
  have hvalid : c.toNat < 0xD800 ∨ 0xDFFF < c.toNat ∧ c.toNat < 0x110000 := c.valid
  have hvalue : c.val.toNat = c.toNat := rfl
  unfold String.utf8EncodeChar
  rw [hvalue]
  generalize c.toNat = v at hvalid
  simp only
  split_ifs with hone htwo hthree
  · exact Or.inl ⟨by omega, rfl⟩
  all_goals
    refine Or.inr ⟨by omega, ?_⟩
    simp only [List.forall_mem_cons, List.not_mem_nil, false_implies, implies_true, and_true,
      UInt8.toNat_ofNat']
    omega

/-! ### The round trip -/

/-- A character is read back from its bytes, whatever bytes come after them. -/
theorem decodeValid_encodeChar (c : Char) (rest : Bytes) :
    decodeValid (String.utf8EncodeChar c ++ rest) =
      (c :: (decodeValid rest).1, (decodeValid rest).2) := by
  have hvalid : c.val.toNat < 0xD800 ∨ 0xDFFF < c.val.toNat ∧ c.val.toNat < 0x110000 := c.valid
  have hchar : Char.ofNat c.val.toNat = c := Char.ofNat_toNat c
  unfold String.utf8EncodeChar
  generalize c.val.toNat = v at hvalid hchar
  simp only
  split_ifs with hone htwo hthree
  · have hvalue : (UInt8.ofNat v).toNat = v := by
      rw [UInt8.toNat_ofNat']
      omega
    rw [List.singleton_append, decodeValid_one rest (by omega), hvalue, hchar]
  · have hfirst : (UInt8.ofNat (v / 64 % 32 + 192)).toNat = v / 64 % 32 + 192 := by
      rw [UInt8.toNat_ofNat']
      omega
    have hvalue : (v / 64 % 32 + 192) % 32 * 64 + v % 64 = v := by omega
    rw [List.cons_append, List.singleton_append, decodeValid_two rest (by omega) (isTail_ofNat _),
      tailBits_ofNat, hfirst, hvalue, hchar]
  · have hfirst : (UInt8.ofNat (v / 4096 % 16 + 224)).toNat = v / 4096 % 16 + 224 := by
      rw [UInt8.toNat_ofNat']
      omega
    have hvalue : ((v / 4096 % 16 + 224) % 16 * 64 + v / 64 % 64) * 64 + v % 64 = v := by omega
    rw [List.cons_append, List.cons_append, List.singleton_append,
      decodeValid_three rest (beginsThree_ofNat (by omega) hthree (by omega)) (isTail_ofNat _),
      tailBits_ofNat, tailBits_ofNat, hfirst, hvalue, hchar]
  · have hfirst : (UInt8.ofNat (v / 262144 % 8 + 240)).toNat = v / 262144 % 8 + 240 := by
      rw [UInt8.toNat_ofNat']
      omega
    have hvalue : (((v / 262144 % 8 + 240) % 8 * 64 + v / 4096 % 64) * 64 + v / 64 % 64) * 64 +
        v % 64 = v := by omega
    rw [List.cons_append, List.cons_append, List.cons_append, List.singleton_append,
      decodeValid_four rest (beginsFour_ofNat (by omega) (by omega)) (isTail_ofNat _)
        (isTail_ofNat _), tailBits_ofNat, tailBits_ofNat, tailBits_ofNat, hfirst, hvalue, hchar]

/-- A text is read back from its bytes. -/
theorem decode?_encode (text : Text) : decode? (encode text) = some text := by
  have hwhole : decodeValid (encode text) = (text, []) := by
    induction text with
    | nil => rfl
    | cons c rest ih =>
      have hcons : encode (c :: rest) = String.utf8EncodeChar c ++ encode rest := rfl
      rw [hcons, decodeValid_encodeChar, ih]
  rw [decode?, hwhole]

/-- Different texts have different bytes. -/
theorem encode_injective : Function.Injective encode := by
  intro first second h
  have hdecode := decode?_encode first
  rw [h, decode?_encode] at hdecode
  exact (Option.some.inj hdecode).symm

/-! ### Bytes that are no text -/

theorem lossyAfter_of_decodeValid {bytes : Bytes} (h : (decodeValid bytes).2 = []) :
    lossyAfter 0 bytes = (decodeValid bytes).1 := by
  fun_induction decodeValid bytes with
  | case1 => rfl
  | case2 a rest hone text left hrest ih =>
    simp only [hrest] at h ih
    simp only [lossyAfter, first, hone, if_true, ih h]
  | case4 a hone b rest htwo text left hrest ih =>
    simp only [hrest] at h ih
    simp only [lossyAfter, first, hone, htwo, if_true, if_false, ih h]
  | case6 a hone b htwo c rest hthree text left hrest ih =>
    simp only [hrest] at h ih
    obtain ⟨hbegins, hc⟩ := Bool.and_eq_true_iff.mp hthree
    simp only [lossyAfter, first, hone, htwo, hbegins, hc, if_true, if_false, Bool.not_true,
      Bool.false_and, Bool.and_self, Bool.false_eq_true, ih h]
  | case8 a hone b htwo c hthree d rest hfour text left hrest ih =>
    simp only [hrest] at h ih
    obtain ⟨hboth, hd⟩ := Bool.and_eq_true_iff.mp hfour
    obtain ⟨hbegins, hc⟩ := Bool.and_eq_true_iff.mp hboth
    have hshort : beginsThree a b = false := by simpa [hc] using hthree
    simp only [lossyAfter, first, hone, htwo, hshort, hbegins, hc, hd, if_true, if_false,
      Bool.not_true, Bool.and_false, Bool.or_false, Bool.false_and, Bool.false_eq_true, ih h]
  | case3 | case5 | case7 | case9 => simp at h

/-- A text is shown as it is. -/
theorem lossy_of_decode? {bytes : Bytes} {text : Text} (h : decode? bytes = some text) :
    lossy bytes = text := by
  rw [decode?] at h
  split at h
  · rename_i found hvalid
    obtain rfl := Option.some.inj h
    have hread : (decodeValid bytes).2 = [] := by rw [hvalid]
    rw [lossy, lossyAfter_of_decodeValid hread, hvalid]
  · simp at h

end ChanceDeck.Utf8

namespace ChanceDeck.RawText

@[simp] theorem text?_ofText (text : Text) : (ofText text).text? = some text :=
  Utf8.decode?_encode text

@[simp] theorem shown_ofText (text : Text) : (ofText text).shown = text :=
  Utf8.lossy_of_decode? (text?_ofText text)

end ChanceDeck.RawText
