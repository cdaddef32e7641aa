import ChanceDeck.Proofs.Record

/-!
# Records and their values

The values of a record have one reading. Integers are a record exactly when they are what packing at
most four lawful effects writes, and then these effects are the only such ones and the effects of
the record. Of any other eight integers the check names the first that breaks the wire format
(`check_eq_error_iff`): `Violation` says what breaks it at a position, without a scan, by what
stands there and by whether an index zero has ended the record before. `ofValues_iff_packs` puts
these together.
-/

set_option autoImplicit false
set_option relaxedAutoImplicit false

namespace ChanceDeck.Record

variable {catalog : Catalog} {values rest : List Int64} {value : Int64} {position start : Nat}
  {error other : RecordError}

/-! ### Violations of the wire format -/

/-- Whether an index zero stands before a position. Indices stand at even positions. -/
def Ended (values : List Int64) (position : Nat) : Prop :=
  ∃ earlier < position, earlier % 2 = 0 ∧ values[earlier]? = some 0

/-- What breaks the wire format at a position: before the end of the record an index that no
instrument has or a price change of zero, and after it any value but zero. -/
inductive Violation (catalog : Catalog) (values : List Int64) (position : Nat) :
    RecordError → Prop where
  | unknownIndex {index : Int64} : ¬Ended values position → position % 2 = 0 →
      values[position]? = some index → index ≠ 0 →
      (∀ i ∈ catalog.instruments, indexValue i.index ≠ index) →
      Violation catalog values position (.unknownIndex position index)
  | zeroDelta : ¬Ended values position → position % 2 = 1 → values[position]? = some 0 →
      Violation catalog values position (.zeroDelta position)
  | trailingValue {value : Int64} : Ended values position → values[position]? = some value →
      value ≠ 0 → Violation catalog values position (.trailingValue position value)

theorem not_ended_zero : ¬Ended values 0 := by
  rintro ⟨earlier, hearlier, -⟩
  exact absurd hearlier (Nat.not_lt_zero earlier)

theorem ended_succ_iff : Ended values (position + 1) ↔
    Ended values position ∨ position % 2 = 0 ∧ values[position]? = some 0 := by
  constructor
  · rintro ⟨earlier, hearlier, hzero⟩
    by_cases hlast : earlier = position
    · subst hlast
      exact Or.inr hzero
    · exact Or.inl ⟨earlier, by omega, hzero⟩
  · rintro (⟨earlier, hearlier, hzero⟩ | hzero)
    · exact ⟨earlier, by omega, hzero⟩
    · exact ⟨position, by omega, hzero⟩

/-- A record goes on past a position at which no index zero stands. -/
theorem not_ended_succ (hopen : ¬Ended values position)
    (hvalue : position % 2 = 0 → values[position]? ≠ some 0) : ¬Ended values (position + 1) := by
  rw [ended_succ_iff]
  rintro (hended | ⟨heven, hzero⟩)
  · exact hopen hended
  · exact hvalue heven hzero

/-- At a position the wire format is broken in one way at most. -/
theorem Violation.eq (hfirst : Violation catalog values position error)
    (hsecond : Violation catalog values position other) : error = other := by
  cases hfirst with
  | unknownIndex hopen heven hget _ _ =>
    cases hsecond with
    | unknownIndex _ _ hget' _ _ =>
      rw [Option.some.inj (hget.symm.trans hget')]
    | zeroDelta _ hodd _ => omega
    | trailingValue hended _ _ => exact absurd hended hopen
  | zeroDelta hopen hodd _ =>
    cases hsecond with
    | unknownIndex _ heven _ _ _ => omega
    | zeroDelta _ _ _ => rfl
    | trailingValue hended _ _ => exact absurd hended hopen
  | trailingValue hended hget _ =>
    cases hsecond with
    | unknownIndex hopen _ _ _ _ => exact absurd hended hopen
    | zeroDelta hopen _ _ => exact absurd hended hopen
    | trailingValue _ hget' _ => rw [Option.some.inj (hget.symm.trans hget')]

theorem Violation.lt_length (h : Violation catalog values position error) :
    position < values.length := by
  by_contra hlength
  have hnone : values[position]? = none := List.getElem?_eq_none (Nat.le_of_not_lt hlength)
  cases h <;> simp_all

/-- What the first violation from a position on is. -/
def FirstFrom (catalog : Catalog) (values : List Int64) (start : Nat) (error : RecordError) :
    Prop :=
  ∃ position, start ≤ position ∧ Violation catalog values position error ∧
    ∀ earlier, start ≤ earlier → earlier < position →
      ∀ other, ¬Violation catalog values earlier other

theorem firstFrom_of_violation (h : Violation catalog values start error) :
    FirstFrom catalog values start other ↔ error = other := by
  constructor
  · rintro ⟨position, hstart, hviolation, hearlier⟩
    by_cases hposition : position = start
    · subst hposition
      exact h.eq hviolation
    · exact absurd h (hearlier start (Nat.le_refl start) (by omega) error)
  · rintro rfl
    exact ⟨start, Nat.le_refl start, h, fun earlier hstart hlt ↦ by omega⟩

theorem firstFrom_of_not_violation (h : ∀ other, ¬Violation catalog values start other) :
    FirstFrom catalog values start error ↔ FirstFrom catalog values (start + 1) error := by
  constructor
  · rintro ⟨position, hstart, hviolation, hearlier⟩
    have hne : start ≠ position := by
      rintro rfl
      exact h error hviolation
    exact ⟨position, by omega, hviolation, fun earlier hlt ↦ hearlier earlier (by omega)⟩
  · rintro ⟨position, hstart, hviolation, hearlier⟩
    refine ⟨position, by omega, hviolation, fun earlier hle hlt ↦ ?_⟩
    by_cases hfirst : earlier = start
    · exact hfirst ▸ h
    · exact hearlier earlier (by omega) hlt

theorem not_firstFrom_of_length_le (h : values.length ≤ start) :
    ¬FirstFrom catalog values start error := by
  rintro ⟨position, hstart, hviolation, -⟩
  have hlength := hviolation.lt_length
  omega

/-! ### What the check reports -/

/-- An index value has no ticker exactly if no instrument has that index. -/
theorem ticker?_eq_none_iff :
    ticker? catalog value = none ↔ ∀ i ∈ catalog.instruments, indexValue i.index ≠ value := by
  constructor
  · intro hnone i hi heq
    rw [← heq, ticker?_indexValue, Catalog.tickerOf?_of_mem hi] at hnone
    exact absurd hnone (Option.some_ne_none i.ticker)
  · intro hunknown
    rw [ticker?, Option.bind_eq_none_iff]
    intro index hindex
    rw [Option.eq_none_iff_forall_ne_some]
    intro ticker hticker
    exact hunknown _ (Catalog.tickerOf?_eq_some_iff.mp hticker) (indexValue_of_byte? hindex)

theorem getElem?_of_drop (h : values.drop position = value :: rest) :
    values[position]? = some value := by
  rw [← List.head?_drop, h, List.head?_cons]

theorem drop_succ_of_drop (h : values.drop position = value :: rest) :
    values.drop (position + 1) = rest := by
  rw [← List.tail_drop, h, List.tail_cons]

/-- After the end of a record the first value other than zero is the first violation. -/
theorem checkZeros_eq_error_iff (hended : Ended values position)
    (hrest : values.drop position = rest) :
    checkZeros position rest = .error error ↔ FirstFrom catalog values position error := by
  induction rest generalizing position with
  | nil =>
    refine iff_of_false (fun h ↦ ?_) (not_firstFrom_of_length_le (List.drop_eq_nil_iff.mp hrest))
    exact absurd h (by simp [checkZeros])
  | cons value rest ih =>
    have hget := getElem?_of_drop hrest
    rw [checkZeros]
    by_cases hvalue : value = 0
    · have hquiet : ∀ other, ¬Violation catalog values position other := by
        intro other hviolation
        cases hviolation with
        | unknownIndex hopen _ _ _ _ => exact hopen hended
        | zeroDelta hopen _ _ => exact hopen hended
        | trailingValue _ hget' hne => exact hne (Option.some.inj (hget'.symm.trans hget) ▸ hvalue)
      rw [if_pos hvalue, firstFrom_of_not_violation hquiet]
      exact ih (ended_succ_iff.mpr (Or.inl hended)) (drop_succ_of_drop hrest)
    · rw [if_neg hvalue, firstFrom_of_violation (.trailingValue hended hget hvalue),
        Except.error.injEq]

/-- An index zero breaks nothing by itself. -/
theorem not_violation_of_zero_index (hopen : ¬Ended values position) (heven : position % 2 = 0)
    (hget : values[position]? = some 0) (other : RecordError) :
    ¬Violation catalog values position other := by
  intro hviolation
  cases hviolation with
  | unknownIndex _ _ hget' hne _ => exact hne (Option.some.inj (hget'.symm.trans hget))
  | zeroDelta _ hodd _ => omega
  | trailingValue hended _ _ => exact hopen hended

theorem not_violation_of_known_index (hopen : ¬Ended values position) (heven : position % 2 = 0)
    (hget : values[position]? = some value) (hknown : ticker? catalog value ≠ none)
    (other : RecordError) : ¬Violation catalog values position other := by
  intro hviolation
  cases hviolation with
  | unknownIndex _ _ hget' _ hunknown =>
    obtain rfl := Option.some.inj (hget'.symm.trans hget)
    exact hknown (ticker?_eq_none_iff.mpr hunknown)
  | zeroDelta _ hodd _ => omega
  | trailingValue hended _ _ => exact hopen hended

theorem not_violation_of_delta (hopen : ¬Ended values position) (hodd : position % 2 = 1)
    (hget : values[position]? = some value) (hdelta : value ≠ 0) (other : RecordError) :
    ¬Violation catalog values position other := by
  intro hviolation
  cases hviolation with
  | unknownIndex _ heven _ _ _ => omega
  | zeroDelta _ _ hget' => exact hdelta (Option.some.inj (hget.symm.trans hget'))
  | trailingValue hended _ _ => exact hopen hended

/-- The check reports the first violation. It goes on pair by pair as long as the record has not
ended. -/
theorem check_eq_error_iff (hopen : ¬Ended values position) (heven : position % 2 = 0)
    (hrest : values.drop position = rest) (hlength : rest.length % 2 = 0) :
    check catalog position rest = .error error ↔ FirstFrom catalog values position error := by
  fun_induction check catalog position rest with
  | case1 position delta rest =>
    have hget := getElem?_of_drop hrest
    rw [firstFrom_of_not_violation (not_violation_of_zero_index hopen heven hget)]
    exact checkZeros_eq_error_iff (ended_succ_iff.mpr (Or.inr ⟨heven, hget⟩))
      (drop_succ_of_drop hrest)
  | case2 position index delta rest hindex hunknown =>
    have hviolation : Violation catalog values position (.unknownIndex position index) :=
      .unknownIndex hopen heven (getElem?_of_drop hrest) hindex
        (ticker?_eq_none_iff.mp (Option.isNone_iff_eq_none.mp hunknown))
    rw [firstFrom_of_violation hviolation, Except.error.injEq]
  | case3 position index rest hindex hknown =>
    have hget := getElem?_of_drop hrest
    have hticker : ticker? catalog index ≠ none := by simpa using hknown
    have hopen' : ¬Ended values (position + 1) :=
      not_ended_succ hopen fun _ ↦ by simpa [hget] using hindex
    have hviolation : Violation catalog values (position + 1) (.zeroDelta (position + 1)) :=
      .zeroDelta hopen' (by omega) (getElem?_of_drop (drop_succ_of_drop hrest))
    rw [firstFrom_of_not_violation (not_violation_of_known_index hopen heven hget hticker),
      firstFrom_of_violation hviolation, Except.error.injEq]
  | case4 position index delta rest hindex hknown hdelta ih =>
    have hget := getElem?_of_drop hrest
    have hticker : ticker? catalog index ≠ none := by simpa using hknown
    have hnext := drop_succ_of_drop hrest
    have hopen' : ¬Ended values (position + 1) :=
      not_ended_succ hopen fun _ ↦ by simpa [hget] using hindex
    have hopen'' : ¬Ended values (position + 2) := not_ended_succ hopen' fun hparity ↦ by omega
    rw [firstFrom_of_not_violation (not_violation_of_known_index hopen heven hget hticker),
      firstFrom_of_not_violation
        (not_violation_of_delta hopen' (by omega) (getElem?_of_drop hnext) hdelta)]
    exact ih hopen'' (by omega) (drop_succ_of_drop hnext) (by simp at hlength; omega)
  | case5 rest position hshort =>
    rcases rest with _ | ⟨index, _ | ⟨delta, rest⟩⟩
    · refine iff_of_false (fun h ↦ ?_) (not_firstFrom_of_length_le (List.drop_eq_nil_iff.mp hrest))
      exact absurd h (by simp)
    · simp at hlength
    · exact (hshort index delta rest rfl).elim

theorem ofValues_eq_error_iff (hlength : values.length = width) :
    ofValues catalog values = .error error ↔ FirstFrom catalog values 0 error := by
  have heven : values.length % 2 = 0 := by
    rw [hlength]
    rfl
  rw [← check_eq_error_iff not_ended_zero (Nat.zero_mod 2) List.drop_zero heven, ofValues,
    dif_pos hlength]
  cases check catalog 0 values <;> simp

/-! ### The codec -/

/-- Whether integers are what packing effects writes that a record of the catalog can hold. -/
structure Packs (catalog : Catalog) (values : List Int64) (effects : List Effect) : Prop where
  length_le : effects.length ≤ 4
  lawful : ∀ effect ∈ effects, effect.Lawful catalog
  values_eq : (ofEffects effects).values = values

theorem exists_packs_of_ofValues {record : Record} (h : ofValues catalog values = .ok record) :
    ∃ effects, Packs catalog values effects := by
  obtain ⟨hvalues, effects, hlength, hlawful, hpacked⟩ := ofValues_eq_ok_iff.mp h
  exact ⟨effects, hlength, hlawful, hpacked ▸ hvalues⟩

theorem Packs.ofValues_eq {effects : List Effect} (h : Packs catalog values effects) :
    ofValues catalog values = .ok (ofEffects effects) :=
  ofValues_eq_ok_iff.mpr ⟨h.values_eq, effects, h.length_le, h.lawful, rfl⟩

/-- Integers of a record are packed from its effects and from no others. -/
theorem packs_iff_of_ofValues {record : Record} {effects : List Effect}
    (h : ofValues catalog values = .ok record) :
    Packs catalog values effects ↔ effects = record.effects := by
  have hself : ∀ effects, Packs catalog values effects → effects = record.effects := by
    intro effects hpacks
    have hrecord : record = ofEffects effects :=
      Except.ok.inj (h.symm.trans hpacks.ofValues_eq)
    rw [hrecord, effects_ofEffects_of_lawful hpacks.length_le hpacks.lawful]
  constructor
  · exact hself effects
  · rintro rfl
    obtain ⟨effects, hpacks⟩ := exists_packs_of_ofValues h
    exact hself effects hpacks ▸ hpacks

/-- Integers are a record exactly if they are packed from at most four lawful effects, and then from
no others: the record holds these values and has these effects. Eight integers that are none are
refused for what breaks the wire format at the lowest position, and any other number of them for
their number. The effects of packed ones are those among the first four that precede the first index
zero, and packing tells how many there were if there were more than four. -/
theorem ofValues_iff_packs (catalog : Catalog) (values : List Int64) :
    ((∃ record, ofValues catalog values = .ok record) ↔
      ∃ effects, Packs catalog values effects) ∧
    (∀ record, ofValues catalog values = .ok record → record.values = values ∧
      ∀ effects, Packs catalog values effects ↔ effects = record.effects) ∧
    (values.length ≠ 8 → ofValues catalog values = .error (.wrongWidth values.length)) ∧
    (values.length = 8 → ∀ error, ofValues catalog values = .error error ↔
      ∃ position, Violation catalog values position error ∧
        ∀ earlier < position, ∀ other, ¬Violation catalog values earlier other) ∧
    ∀ effects : List Effect,
      (ofEffects effects).effects = (effects.take 4).takeWhile (·.index ≠ 0) ∧
      ∀ overflow, overflow? effects = some overflow ↔
        4 < effects.length ∧ overflow.effectCount = effects.length := by
  refine ⟨⟨?_, ?_⟩, fun record hrecord ↦ ?_, fun hlength ↦ ?_, fun hlength error ↦ ?_,
    fun effects ↦ ⟨effects_ofEffects effects, fun overflow ↦ ?_⟩⟩
  · rintro ⟨record, hrecord⟩
    exact exists_packs_of_ofValues hrecord
  · rintro ⟨effects, hpacks⟩
    exact ⟨ofEffects effects, hpacks.ofValues_eq⟩
  · exact ⟨values_of_ofValues hrecord, fun effects ↦ packs_iff_of_ofValues hrecord⟩
  · have hwidth : values.length ≠ width := hlength
    rw [ofValues, dif_neg hwidth]
  · rw [ofValues_eq_error_iff hlength]
    simp only [FirstFrom, Nat.zero_le, true_and, forall_true_left]
  · unfold overflow? capacity
    cases overflow
    split_ifs with hcount
    · simp [hcount, eq_comm]
    · simp [hcount]

/-- An unknown index, its zero delta and a value behind the end of the record: the lowest position
counts. -/
example : ofValues .standard [11, 0, 0, 0, 2, 3, 0, 0] = .error (.unknownIndex 0 11) := by decide

end ChanceDeck.Record
