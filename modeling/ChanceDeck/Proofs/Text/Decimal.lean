import ChanceDeck.Proofs.Text.Cut
import ChanceDeck.Text.Decimal

/-!
# Numbers read back from their digits

Reading undoes writing: `natural?_natural` for natural numbers up to a limit and
`integer?_integer` for integers of 64 bits. Reading is wider than writing, since it takes signs
and leading zeros, but a text that reads as an integer still holds digits and signs only
(`isNumeric_of_integer?`). Such a text has no blank, no comma and no colon in it, which is what
keeps identifiers and values apart from what stands around them in a line.

Before a text that begins with no digit (`Decimal.Stops`) a number also tells where it ends
(`integer_append_inj`).
-/

set_option autoImplicit false
set_option relaxedAutoImplicit false

namespace ChanceDeck.Decimal

/-! ### Digits -/

theorem digit?_ten {c : Char} (h : c.isDigit = true) :
    digit? 10 c = some (c.toNat - '0'.toNat) := by
  have hc : 48 ≤ c.val ∧ c.val ≤ 57 := by simpa [Char.isDigit] using h
  have hrange : '0' ≤ c ∧ c ≤ '9' := hc
  have hlt : c.toNat ≤ 57 := hc.2
  simp only [digit?, hrange, and_self, if_true, Option.filter_some]
  rw [if_pos]
  have h0 : '0'.toNat = 48 := rfl
  simp only [decide_eq_true_eq]
  omega

theorem isDigit_of_digit?_ten {c : Char} {d : Nat} (h : digit? 10 c = some d) :
    c.isDigit = true := by
  by_cases hrange : '0' ≤ c ∧ c ≤ '9'
  · have hc : 48 ≤ c.val ∧ c.val ≤ 57 := hrange
    simpa [Char.isDigit] using hc
  · -- A letter stands for ten or more.
    exfalso
    simp only [digit?, hrange, if_false] at h
    obtain ⟨hvalue, hsmall⟩ := Option.filter_eq_some_iff.mp h
    have hd : d < 10 := of_decide_eq_true hsmall
    split_ifs at hvalue
    · have hlower := Option.some.inj hvalue
      omega
    · have hupper := Option.some.inj hvalue
      omega

theorem le_ofDigitChars (text : Text) (value : Nat) :
    value ≤ Nat.ofDigitChars 10 text value := by
  induction text generalizing value with
  | nil => simp
  | cons c text ih =>
    rw [Nat.ofDigitChars_cons]
    exact Nat.le_trans (by omega) (ih _)

/-- Digits are read to their value as long as the whole value keeps the limit. -/
theorem readDigits_ten {limit value : Nat} {text : Text} (hdigits : ∀ c ∈ text, c.isDigit = true)
    (hlimit : Nat.ofDigitChars 10 text value ≤ limit) :
    readDigits 10 limit value text = .ok (Nat.ofDigitChars 10 text value) := by
  induction text generalizing value with
  | nil => simp [readDigits]
  | cons c text ih =>
    rw [Nat.ofDigitChars_cons, Nat.mul_comm] at hlimit ⊢
    have hbound : ¬limit < value * 10 + (c.toNat - '0'.toNat) :=
      Nat.not_lt.mpr (Nat.le_trans (le_ofDigitChars _ _) hlimit)
    simp only [readDigits, digit?_ten (hdigits c (by simp)), hbound, if_false]
    exact ih (fun d hd ↦ hdigits d (by simp [hd])) hlimit

/-- Digits whose whole value passes the limit are refused. -/
theorem readDigits_ten_of_lt {limit value : Nat} {text : Text}
    (hdigits : ∀ c ∈ text, c.isDigit = true) (hvalue : value ≤ limit)
    (hlimit : limit < Nat.ofDigitChars 10 text value) :
    readDigits 10 limit value text = .error .tooLarge := by
  induction text generalizing value with
  | nil =>
    rw [Nat.ofDigitChars_nil] at hlimit
    exact absurd hlimit (Nat.not_lt.mpr hvalue)
  | cons c text ih =>
    rw [Nat.ofDigitChars_cons, Nat.mul_comm] at hlimit
    rw [readDigits, digit?_ten (hdigits c List.mem_cons_self)]
    simp only
    by_cases hover : limit < value * 10 + (c.toNat - '0'.toNat)
    · rw [if_pos hover]
    · rw [if_neg hover]
      exact ih (fun d hd ↦ hdigits d (List.mem_cons_of_mem _ hd)) (Nat.not_lt.mp hover) hlimit

theorem isDigit_of_readDigits {limit value n : Nat} {text : Text}
    (h : readDigits 10 limit value text = .ok n) : ∀ c ∈ text, c.isDigit = true := by
  induction text generalizing value with
  | nil => simp
  | cons c text ih =>
    rw [readDigits] at h
    split at h
    · simp at h
    · rename_i d hd
      split_ifs at h
      intro e he
      rcases List.mem_cons.mp he with rfl | he
      · exact isDigit_of_digit?_ten hd
      · exact ih h e he

/-! ### Natural numbers -/

theorem isDigit_of_mem_natural {n : Nat} {c : Char} (h : c ∈ natural n) : c.isDigit = true :=
  Nat.isDigit_of_mem_toDigits (by decide) (by decide) h

theorem natural_ne_nil (n : Nat) : natural n ≠ [] :=
  Nat.toDigits_ne_nil

theorem exists_natural_eq_cons (n : Nat) :
    ∃ c rest, natural n = c :: rest ∧ c.isDigit = true := by
  obtain ⟨c, rest, h⟩ := List.exists_cons_of_ne_nil (natural_ne_nil n)
  exact ⟨c, rest, h, isDigit_of_mem_natural (h ▸ List.mem_cons_self)⟩

theorem readDigits_natural {limit n : Nat} (h : n ≤ limit) :
    readDigits 10 limit 0 (natural n) = .ok n := by
  have hvalue : Nat.ofDigitChars 10 (natural n) 0 = n := Nat.ofDigitChars_ten_toDigits
  rw [readDigits_ten (fun c hc ↦ isDigit_of_mem_natural hc) (hvalue.symm ▸ h), hvalue]

/-- Digits are read to their value if it keeps the limit. -/
theorem natural?_of_isDigit {limit : Nat} {digits : Text} (hne : digits ≠ [])
    (hdigits : ∀ c ∈ digits, c.isDigit = true) :
    natural? limit digits =
      if limit < Nat.ofDigitChars 10 digits 0 then none
      else some (Nat.ofDigitChars 10 digits 0) := by
  obtain ⟨c, rest, rfl⟩ := List.exists_cons_of_ne_nil hne
  have hplus : c ≠ '+' := by
    rintro rfl
    exact absurd (hdigits '+' List.mem_cons_self) (by decide)
  have hread : naturalIn 10 limit (c :: rest) = readDigits 10 limit 0 (c :: rest) := by
    simp [naturalIn, hplus]
  rw [natural?, hread]
  by_cases hover : limit < Nat.ofDigitChars 10 (c :: rest) 0
  · rw [if_pos hover, readDigits_ten_of_lt hdigits (Nat.zero_le _) hover]
    rfl
  · rw [if_neg hover, readDigits_ten hdigits (Nat.not_lt.mp hover)]
    rfl

/-- A natural number within the limit is read back from its digits. -/
theorem natural?_natural {limit n : Nat} (h : n ≤ limit) : natural? limit (natural n) = some n := by
  have hvalue : Nat.ofDigitChars 10 (natural n) 0 = n := Nat.ofDigitChars_ten_toDigits
  rw [natural?_of_isDigit (natural_ne_nil n) fun c hc ↦ isDigit_of_mem_natural hc, hvalue,
    if_neg (Nat.not_lt.mpr h)]

theorem natural_injective {m n : Nat} (h : natural m = natural n) : m = n := by
  have hm := natural?_natural (Nat.le_max_left m n)
  rw [h, natural?_natural (Nat.le_max_right m n)] at hm
  exact (Option.some.inj hm).symm

/-- A text with a character that is no digit does not spell a natural number. -/
theorem natural_ne_of_mem {text : Text} {c : Char} (hmem : c ∈ text) (hdigit : c.isDigit = false)
    (n : Nat) : natural n ≠ text := by
  rintro rfl
  rw [isDigit_of_mem_natural hmem] at hdigit
  exact absurd hdigit (by decide)

/-! ### Integers -/

/-- The characters that spell integers. -/
def isNumeric (c : Char) : Bool :=
  c.isDigit || c == '+' || c == '-'

theorem isNumeric_of_isDigit {c : Char} (h : c.isDigit = true) : isNumeric c = true := by
  simp [isNumeric, h]

theorem isNumeric_of_mem_integer {n : Int} {c : Char} (h : c ∈ integer n) :
    isNumeric c = true := by
  rw [integer] at h
  split_ifs at h
  · rcases List.mem_cons.mp h with rfl | h
    · rfl
    · exact isNumeric_of_isDigit (isDigit_of_mem_natural h)
  · exact isNumeric_of_isDigit (isDigit_of_mem_natural h)

theorem integer_ne_nil (n : Int) : integer n ≠ [] := by
  rw [integer]
  split_ifs
  · exact List.cons_ne_nil _ _
  · exact natural_ne_nil _

theorem magnitude?_natural {limit n : Nat} (h : n ≤ limit) :
    magnitude? 10 limit (natural n) = some n := by
  simp [magnitude?, natural_ne_nil, readDigits_natural h, Except.toOption]

/-- Without a sign before it, a number is read as one that is not negative. -/
theorem integer?_of_isDigit {c : Char} (rest : Text) (h : c.isDigit = true) :
    integer? (c :: rest) =
      (magnitude? 10 0x7FFFFFFFFFFFFFFF (c :: rest)).map fun n ↦ Int64.ofInt n := by
  have hminus : c ≠ '-' := by
    rintro rfl
    exact absurd h (by decide)
  have hplus : c ≠ '+' := by
    rintro rfl
    exact absurd h (by decide)
  simp [integer?, hminus, hplus]

theorem integer?_natural {n : Nat} (h : n ≤ 0x7FFFFFFFFFFFFFFF) :
    integer? (natural n) = some (Int64.ofInt n) := by
  obtain ⟨c, rest, hcons, hc⟩ := exists_natural_eq_cons n
  rw [hcons, integer?_of_isDigit rest hc, ← hcons, magnitude?_natural h]
  rfl

/-- An integer of 64 bits is read back from its digits. -/
theorem integer?_integer (value : Int64) : integer? (integer value.toInt) = some value := by
  have hmin := Int64.le_toInt value
  have hmax := Int64.toInt_lt value
  rw [integer]
  split_ifs with hneg
  · have hmagnitude :
        magnitude? 10 0x8000000000000000 (natural value.toInt.natAbs) = some value.toInt.natAbs :=
      magnitude?_natural (by omega)
    have habs : -(value.toInt.natAbs : Int) = value.toInt := by omega
    rw [integer?, hmagnitude]
    change some (Int64.ofInt (-(value.toInt.natAbs : Int))) = some value
    rw [habs, Int64.ofInt_toInt]
  · have habs : (value.toInt.natAbs : Int) = value.toInt := by omega
    rw [integer?_natural (by omega), habs, Int64.ofInt_toInt]

theorem isDigit_of_magnitude? {limit n : Nat} {digits : Text}
    (h : magnitude? 10 limit digits = some n) : ∀ c ∈ digits, c.isDigit = true := by
  rw [magnitude?] at h
  split_ifs at h
  cases hread : readDigits 10 limit 0 digits with
  | error e => simp [hread, Except.toOption] at h
  | ok m => exact isDigit_of_readDigits hread

/-- A text that reads as an integer holds digits and signs only. -/
theorem isNumeric_of_integer? {text : Text} {value : Int64} (h : integer? text = some value) :
    ∀ c ∈ text, isNumeric c = true := by
  rw [integer?.eq_def] at h
  split at h <;>
    obtain ⟨_, hread, -⟩ := Option.map_eq_some_iff.mp h <;>
    obtain ⟨n, hn, -⟩ := Option.bind_eq_some_iff.mp hread <;>
    intro c hc
  · rcases List.mem_cons.mp hc with rfl | hc
    · rfl
    · exact isNumeric_of_isDigit (isDigit_of_magnitude? hn c hc)
  · rcases List.mem_cons.mp hc with rfl | hc
    · rfl
    · exact isNumeric_of_isDigit (isDigit_of_magnitude? hn c hc)
  · exact isNumeric_of_isDigit (isDigit_of_magnitude? hn c hc)

@[simp] theorem integer?_nil : integer? [] = none :=
  rfl

theorem exists_integer_eq_cons (n : Int) :
    ∃ c rest, integer n = c :: rest ∧ (c = '-' ∨ c.isDigit = true) := by
  rw [integer]
  split_ifs with h
  · exact ⟨'-', _, rfl, Or.inl rfl⟩
  · obtain ⟨c, rest, hcons, hdigit⟩ := exists_natural_eq_cons n.natAbs
    exact ⟨c, rest, hcons, Or.inr hdigit⟩

/-! ### Numbers before other text -/

/-- Whether a text does not begin with a digit. -/
def Stops (rest : Text) : Prop :=
  ∀ c ∈ rest.head?, c.isDigit = false

theorem Stops.cons {c : Char} (h : c.isDigit = false) (rest : Text) : Stops (c :: rest) := by
  intro d hd
  obtain rfl : c = d := Option.some.inj hd
  exact h

theorem Stops.nil : Stops [] :=
  fun _ h ↦ absurd h (Option.not_mem_none _)

variable {rest others : Text}

theorem takeWhile_isDigit_of_stops (n : Nat) (h : Stops rest) :
    (natural n ++ rest).takeWhile Char.isDigit = natural n := by
  rw [List.takeWhile_append_of_pos fun c hc ↦ isDigit_of_mem_natural hc]
  cases rest with
  | nil => rw [List.takeWhile_nil, List.append_nil]
  | cons c rest =>
    have hc := h c rfl
    rw [List.takeWhile_cons_of_neg (Bool.eq_false_iff.mp hc), List.append_nil]

theorem natural_append_inj {m n : Nat} (hrest : Stops rest) (hothers : Stops others)
    (h : natural m ++ rest = natural n ++ others) : m = n ∧ rest = others := by
  have hdigits := congrArg (List.takeWhile Char.isDigit) h
  rw [takeWhile_isDigit_of_stops m hrest, takeWhile_isDigit_of_stops n hothers] at hdigits
  obtain rfl := natural_injective hdigits
  exact ⟨rfl, List.append_cancel_left h⟩

/-- A number without a sign does not begin with one. -/
theorem natural_append_ne_minus (n : Nat) (rest others : Text) :
    natural n ++ rest ≠ '-' :: others := by
  intro h
  obtain ⟨c, digits, hcons, hdigit⟩ := exists_natural_eq_cons n
  rw [hcons, List.cons_append] at h
  obtain ⟨rfl, -⟩ := List.cons.inj h
  exact absurd hdigit (by decide)

theorem integer_append_inj {m n : Int} (hrest : Stops rest) (hothers : Stops others)
    (h : integer m ++ rest = integer n ++ others) : m = n ∧ rest = others := by
  rw [integer, integer] at h
  split_ifs at h with hm hn hn
  · obtain ⟨habs, hsame⟩ := natural_append_inj hrest hothers (List.cons.inj h).2
    exact ⟨by omega, hsame⟩
  · exact absurd h.symm (natural_append_ne_minus _ _ _)
  · exact absurd h (natural_append_ne_minus _ _ _)
  · obtain ⟨habs, hsame⟩ := natural_append_inj hrest hothers h
    exact ⟨by omega, hsame⟩

/-! ### Blanks -/

theorem isBlank_eq_false_of_isNumeric {c : Char} (h : isNumeric c = true) :
    Text.isBlank c = false := by
  have hc : (48 ≤ c.toNat ∧ c.toNat ≤ 57) ∨ c.toNat = 43 ∨ c.toNat = 45 := by
    simp only [isNumeric, Bool.or_eq_true, beq_iff_eq] at h
    rcases h with (h | rfl) | rfl
    · have hdigit : 48 ≤ c.val ∧ c.val ≤ 57 := by simpa [Char.isDigit] using h
      exact Or.inl hdigit
    · exact Or.inr (Or.inl rfl)
    · exact Or.inr (Or.inr rfl)
  simp only [Text.isBlank, Bool.or_eq_false_iff, Bool.and_eq_false_iff, decide_eq_false_iff_not,
    beq_eq_false_iff_ne]
  omega

/-- A text of digits and signs has no blank to trim. -/
theorem trim_eq_self_of_isNumeric {text : Text} (h : ∀ c ∈ text, isNumeric c = true) :
    Text.trim text = text :=
  Text.trim_eq_self
    (fun c hc ↦ isBlank_eq_false_of_isNumeric (h c (List.mem_of_mem_head? hc)))
    (fun c hc ↦ isBlank_eq_false_of_isNumeric (h c (List.mem_of_getLast? hc)))

theorem closed_of_isNumeric {text : Text} (hne : text ≠ []) (h : ∀ c ∈ text, isNumeric c = true) :
    Text.Closed text :=
  ⟨text.getLast hne, List.getLast?_eq_some_getLast hne,
    isBlank_eq_false_of_isNumeric (h _ (List.getLast_mem hne))⟩

end ChanceDeck.Decimal
