import ChanceDeck.Proofs.Catalog
import ChanceDeck.Record
import Mathlib.Data.List.TakeWhile

/-!
# What records hold

An effect is lawful in a catalog if its index is given away there and its price does change.
Packing effects writes their values followed by zeros (`values_ofEffects`), and the effects of
what was packed are the first four, up to the first whose index is zero (`effects_ofEffects`).

`ofValues_eq_ok_iff` says which integers are records: those that packing at most four lawful
effects gives, and no others. The check goes from left to right and stops looking at pairs once it
has met index zero; `exists_lawful_of_check` recovers the effects from its verdict.
-/

set_option autoImplicit false
set_option relaxedAutoImplicit false

namespace ChanceDeck

/-- What the record rules of a catalog ask of each effect. -/
structure Effect.Lawful (catalog : Catalog) (effect : Effect) : Prop where
  known : effect.index ∈ catalog.instruments.map Instrument.index
  delta_ne_zero : effect.delta ≠ 0

namespace Effect.Lawful

variable {catalog : Catalog} {effect : Effect}

theorem exists_mem (h : effect.Lawful catalog) :
    ∃ i ∈ catalog.instruments, i.index = effect.index := by
  simpa using h.known

theorem index_ne_zero (h : effect.Lawful catalog) : effect.index ≠ 0 := by
  obtain ⟨i, hi, hindex⟩ := h.exists_mem
  rw [← hindex]
  exact catalog.admissible.unreserved i hi

end Effect.Lawful

namespace Record

/-- Records of the same values are the same. -/
theorem eq_of_values_eq {first second : Record} (h : first.values = second.values) :
    first = second := by
  cases first
  cases second
  simpa using h

/-! ### Indices as values -/

theorem toInt_indexValue (index : UInt8) : (indexValue index).toInt = index.toNat := by
  have h := index.toNat_lt
  exact Int64.toInt_ofInt_of_le (by omega) (by omega)

@[simp] theorem byte?_indexValue (index : UInt8) : byte? (indexValue index) = some index := by
  have h := index.toNat_lt
  rw [byte?, toInt_indexValue, if_pos (by omega), Int.toNat_natCast, UInt8.ofNat_toNat]

theorem indexValue_of_byte? {value : Int64} {index : UInt8} (h : byte? value = some index) :
    indexValue index = value := by
  rw [byte?] at h
  split_ifs at h with hrange
  have hindex : index.toNat = value.toInt.toNat := by
    rw [← Option.some.inj h, UInt8.toNat_ofNat']
    omega
  apply Int64.toInt.inj
  rw [toInt_indexValue, hindex]
  omega

@[simp] theorem indexValue_eq_zero_iff {index : UInt8} : indexValue index = 0 ↔ index = 0 := by
  constructor
  · intro h
    have hbyte := byte?_indexValue index
    rw [h] at hbyte
    exact (Option.some.inj hbyte).symm
  · rintro rfl
    rfl

theorem ticker?_indexValue (catalog : Catalog) (index : UInt8) :
    ticker? catalog (indexValue index) = catalog.tickerOf? index := by
  rw [ticker?, byte?_indexValue]
  rfl

/-! ### Packing -/

theorem isSome_overflow?_iff {effects : List Effect} :
    (overflow? effects).isSome = true ↔ capacity < effects.length := by
  rw [overflow?]
  split_ifs with h <;> simp [h]

theorem length_flatMap_pair (effects : List Effect) :
    (effects.flatMap pair).length = 2 * effects.length := by
  induction effects with
  | nil => rfl
  | cons effect rest ih =>
    rw [List.flatMap_cons, List.length_append, ih, List.length_cons]
    simp only [pair, List.length_cons, List.length_nil]
    omega

theorem take_flatMap_pair (effects : List Effect) (n : Nat) :
    (effects.flatMap pair).take (2 * n) = (effects.take n).flatMap pair := by
  induction effects generalizing n with
  | nil => simp
  | cons effect rest ih =>
    cases n with
    | zero => simp
    | succ n =>
      have hdouble : 2 * (n + 1) = 2 * n + 1 + 1 := by omega
      rw [hdouble, List.take_succ_cons, List.flatMap_cons, List.flatMap_cons, ← ih n]
      rfl

/-- A packed record holds the pairs of its effects and zeros after them. -/
theorem values_ofEffects (effects : List Effect) :
    (ofEffects effects).values = (effects.take capacity).flatMap pair ++
      List.replicate (width - 2 * (effects.take capacity).length) 0 := by
  have hwidth : width = 2 * capacity := rfl
  change (effects.flatMap pair ++ List.replicate width 0).take width = _
  rw [List.take_append, List.take_replicate, length_flatMap_pair, hwidth, take_flatMap_pair,
    List.length_take]
  congr 2
  omega

theorem ofEffects_take (effects : List Effect) :
    ofEffects (effects.take capacity) = ofEffects effects := by
  apply eq_of_values_eq
  rw [values_ofEffects, values_ofEffects, List.take_take, Nat.min_self]

/-- What stands after the pairs of a packed record is zero. -/
theorem getElem?_ofEffects {effects : List Effect} {position : Nat} {value : Int64}
    (hposition : 2 * min capacity effects.length ≤ position)
    (hvalue : (ofEffects effects).values[position]? = some value) : value = 0 := by
  rw [values_ofEffects, List.getElem?_append_right, List.getElem?_replicate] at hvalue
  · split_ifs at hvalue
    exact (Option.some.inj hvalue).symm
  · rw [length_flatMap_pair, List.length_take]
    exact hposition

/-! ### Reading effects back -/

theorem pairs_flatMap_pair (effects : List Effect) (rest : List Int64) :
    pairs (effects.flatMap pair ++ rest) =
      effects.map (fun effect ↦ (indexValue effect.index, effect.delta)) ++ pairs rest := by
  induction effects with
  | nil => rfl
  | cons effect effects ih =>
    rw [List.flatMap_cons, List.append_assoc, List.map_cons, List.cons_append, ← ih]
    rfl

theorem takeWhile_pairs_replicate (n : Nat) :
    (pairs (List.replicate n 0)).takeWhile (·.1 ≠ 0) = [] := by
  match n with
  | 0 => rfl
  | 1 => rfl
  | n + 2 => rw [List.replicate_succ, List.replicate_succ, pairs, List.takeWhile_cons]; rfl

theorem effect?_comp_pair :
    (effect? ∘ fun effect : Effect ↦ (indexValue effect.index, effect.delta)) = some := by
  funext effect
  simp [effect?]

/-- The effects of packed ones are the first four, up to the first with index zero. -/
theorem effects_ofEffects (effects : List Effect) :
    (ofEffects effects).effects = (effects.take capacity).takeWhile (·.index ≠ 0) := by
  rw [Record.effects, values_ofEffects, pairs_flatMap_pair]
  have hstop (first : List (Int64 × Int64)) (n : Nat) :
      (first ++ pairs (List.replicate n 0)).takeWhile (·.1 ≠ 0) = first.takeWhile (·.1 ≠ 0) := by
    rw [List.takeWhile_append, takeWhile_pairs_replicate, List.append_nil]
    split_ifs with hlength
    · exact ((List.takeWhile_prefix _).eq_of_length hlength).symm
    · rfl
  rw [hstop, List.takeWhile_map, List.filterMap_map, effect?_comp_pair, List.filterMap_some]
  congr 1
  funext effect
  simp

/-- Up to four effects, none of them with index zero, are read back as they were packed. -/
theorem effects_ofEffects_of_lawful {catalog : Catalog} {effects : List Effect}
    (hlength : effects.length ≤ capacity) (hlawful : ∀ effect ∈ effects, effect.Lawful catalog) :
    (ofEffects effects).effects = effects := by
  rw [effects_ofEffects, List.take_of_length_le hlength, List.takeWhile_eq_self_iff]
  intro effect heffect
  simpa using (hlawful effect heffect).index_ne_zero

/-! ### The record rules -/

theorem checkZeros_eq_ok_iff {position : Nat} {values : List Int64} :
    checkZeros position values = .ok () ↔ ∀ value ∈ values, value = 0 := by
  induction values generalizing position with
  | nil => simp [checkZeros]
  | cons value rest ih =>
    by_cases hvalue : value = 0
    · simp [checkZeros, hvalue, ih]
    · simp [checkZeros, hvalue]

theorem check_replicate (catalog : Catalog) (position n : Nat) :
    check catalog position (List.replicate n 0) = .ok () := by
  match n with
  | 0 => rfl
  | 1 => rfl
  | n + 2 =>
    rw [List.replicate_succ, List.replicate_succ, check, if_pos rfl, checkZeros_eq_ok_iff]
    intro value hvalue
    rw [← List.replicate_succ] at hvalue
    exact List.eq_of_mem_replicate hvalue

theorem check_flatMap_pair {catalog : Catalog} {effects : List Effect}
    (hlawful : ∀ effect ∈ effects, effect.Lawful catalog) (position n : Nat) :
    check catalog position (effects.flatMap pair ++ List.replicate n 0) = .ok () := by
  induction effects generalizing position with
  | nil => exact check_replicate catalog position n
  | cons effect rest ih =>
    have heffect := hlawful effect List.mem_cons_self
    obtain ⟨i, hi, hindex⟩ := heffect.exists_mem
    have hticker : ticker? catalog (indexValue effect.index) = some i.ticker := by
      rw [ticker?_indexValue, ← hindex, Catalog.tickerOf?_of_mem hi]
    have hzero : indexValue effect.index ≠ 0 := by
      simpa using heffect.index_ne_zero
    rw [List.flatMap_cons, List.append_assoc, pair, List.cons_append, List.cons_append,
      List.nil_append, check, if_neg hzero, hticker]
    simpa [heffect.delta_ne_zero] using
      ih (fun e he ↦ hlawful e (List.mem_cons_of_mem _ he)) (position + 2)

/-- Integers that pass the check are the pairs of lawful effects and zeros after them. -/
theorem exists_lawful_of_check {catalog : Catalog} {position : Nat} {values : List Int64}
    (heven : values.length % 2 = 0) (h : check catalog position values = .ok ()) :
    ∃ effects : List Effect, (∀ effect ∈ effects, effect.Lawful catalog) ∧
      ∃ n, values = effects.flatMap pair ++ List.replicate n 0 := by
  fun_induction check catalog position values with
  | case1 position delta rest =>
    refine ⟨[], by simp, (0 :: delta :: rest).length, ?_⟩
    have hzeros := checkZeros_eq_ok_iff.mp h
    refine List.eq_replicate_iff.mpr ⟨rfl, fun value hvalue ↦ ?_⟩
    rcases List.mem_cons.mp hvalue with rfl | hvalue
    · rfl
    · exact hzeros value hvalue
  | case2 => simp at h
  | case3 => simp at h
  | case4 position index delta rest hindex hknown hdelta ih =>
    obtain ⟨effects, hlawful, n, hrest⟩ := ih (by simp at heven; omega) h
    obtain ⟨ticker, hticker⟩ := Option.ne_none_iff_exists'.mp (by simpa using hknown)
    obtain ⟨byte, hbyte, hmem⟩ := Option.bind_eq_some_iff.mp hticker
    refine ⟨⟨byte, delta⟩ :: effects, ?_, n, ?_⟩
    · rintro effect heffect
      rcases List.mem_cons.mp heffect with rfl | heffect
      · exact ⟨List.mem_map.mpr ⟨_, Catalog.tickerOf?_eq_some_iff.mp hmem, rfl⟩, hdelta⟩
      · exact hlawful effect heffect
    · rw [List.flatMap_cons, List.append_assoc, ← hrest, pair, indexValue_of_byte? hbyte]
      rfl
  | case5 values position hshort =>
    match values, hshort with
    | [], _ => exact ⟨[], by simp, 0, rfl⟩
    | [value], _ => simp at heven
    | index :: delta :: rest, hshort => exact (hshort index delta rest rfl).elim

theorem ofValues_ofEffects {catalog : Catalog} {effects : List Effect}
    (hlawful : ∀ effect ∈ effects.take capacity, effect.Lawful catalog) :
    ofValues catalog (ofEffects effects).values = .ok (ofEffects effects) := by
  rw [ofValues, dif_pos (ofEffects effects).length_values]
  have hcheck : check catalog 0 (ofEffects effects).values = .ok () := by
    rw [values_ofEffects]
    exact check_flatMap_pair hlawful 0 _
  rw [hcheck]

theorem values_of_ofValues {catalog : Catalog} {values : List Int64} {record : Record}
    (h : ofValues catalog values = .ok record) : record.values = values := by
  rw [ofValues] at h
  split_ifs at h
  split at h
  · simp at h
  · rw [← Except.ok.inj h]

theorem exists_lawful_of_ofValues {catalog : Catalog} {values : List Int64} {record : Record}
    (h : ofValues catalog values = .ok record) :
    ∃ effects : List Effect, effects.length ≤ capacity ∧
      (∀ effect ∈ effects, effect.Lawful catalog) ∧ ofEffects effects = record := by
  have hvalues := values_of_ofValues h
  rw [ofValues] at h
  split_ifs at h with hlength
  have hcheck : check catalog 0 values = .ok () := by
    split at h
    · simp at h
    · assumption
  have hwidth : width = 8 := rfl
  have hcapacity : capacity = 4 := rfl
  obtain ⟨effects, hlawful, n, heq⟩ := exists_lawful_of_check (by omega) hcheck
  have htotal : 2 * effects.length + n = width := by
    rw [← hlength, heq, List.length_append, length_flatMap_pair, List.length_replicate]
  have hcount : effects.length ≤ capacity := by omega
  refine ⟨effects, hcount, hlawful, eq_of_values_eq ?_⟩
  rw [values_ofEffects, List.take_of_length_le hcount, hvalues, heq]
  congr 2
  omega

/-- The records of a catalog are what packing at most four lawful effects gives. -/
theorem ofValues_eq_ok_iff {catalog : Catalog} {values : List Int64} {record : Record} :
    ofValues catalog values = .ok record ↔
      record.values = values ∧ ∃ effects : List Effect, effects.length ≤ capacity ∧
        (∀ effect ∈ effects, effect.Lawful catalog) ∧ ofEffects effects = record := by
  constructor
  · intro h
    exact ⟨values_of_ofValues h, exists_lawful_of_ofValues h⟩
  · rintro ⟨rfl, effects, hlength, hlawful, rfl⟩
    exact ofValues_ofEffects fun effect heffect ↦ hlawful effect (List.mem_of_mem_take heffect)

/-! ### Naming instruments -/

/-- Price changes of instruments of the catalog are named by their tickers. -/
theorem nameEffects_map {catalog : Catalog} {changes : List (Instrument × Int64)}
    (h : ∀ change ∈ changes, change.1 ∈ catalog.instruments) (position : Nat) :
    nameEffects catalog position (changes.map fun change ↦ ⟨change.1.index, change.2⟩) =
      .ok (changes.map fun change ↦ (change.1.ticker, change.2)) := by
  induction changes generalizing position with
  | nil => rfl
  | cons change rest ih =>
    have hticker := Catalog.tickerOf?_of_mem (h change List.mem_cons_self)
    have hrest := ih (fun c hc ↦ h c (List.mem_cons_of_mem _ hc)) (position + 2)
    simp only [List.map_cons, nameEffects, hticker, hrest]

end Record

end ChanceDeck
