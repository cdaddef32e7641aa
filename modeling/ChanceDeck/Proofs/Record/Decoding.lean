import ChanceDeck.Proofs.Record

/-!
# Decoding compared with checking

Decoding names the instruments of a record and asks nothing else of it, so it succeeds when all
effects up to the first index zero have known instruments (`exists_decode_iff`). Checking the values
asks also that these effects change their prices and that only zeros follow
(`exists_ofValues_iff`). Whatever passes the check decodes, and `decode_agrees_iff` says for which
packed effects the two come to the same verdict: not for an effect that changes nothing, and not for
effects after an index zero.
-/

set_option autoImplicit false
set_option relaxedAutoImplicit false

namespace ChanceDeck.Record

variable {catalog : Catalog}

/-! ### What decodes -/

theorem exists_nameEffects_iff {effects : List Effect} (position : Nat) :
    (∃ named, nameEffects catalog position effects = .ok named) ↔
      ∀ effect ∈ effects, effect.index ∈ catalog.instruments.map Instrument.index := by
  induction effects generalizing position with
  | nil => simp [nameEffects]
  | cons effect rest ih =>
    rw [nameEffects, List.forall_mem_cons, ← ih (position + 2), ← Catalog.exists_tickerOf?_iff]
    cases catalog.tickerOf? effect.index with
    | none => simp
    | some ticker => cases nameEffects catalog (position + 2) rest <;> simp

/-- A record decodes exactly if the instruments of its effects are known. -/
theorem exists_decode_iff {record : Record} :
    (∃ named, decode catalog record = .ok named) ↔
      ∀ effect ∈ record.effects, effect.index ∈ catalog.instruments.map Instrument.index :=
  exists_nameEffects_iff 0

/-! ### What passes the check -/

theorem forall_mem_flatMap_pair_iff {effects : List Effect} :
    (∀ value ∈ effects.flatMap pair, value = 0) ↔ ∀ effect ∈ effects, effect = ⟨0, 0⟩ := by
  induction effects with
  | nil => simp
  | cons effect rest ih =>
    cases effect
    simp only [List.flatMap_cons, List.forall_mem_append, List.forall_mem_cons, ih, pair,
      Effect.mk.injEq, indexValue_eq_zero_iff]
    simp

/-- The values of packed effects, parted at the first index zero. -/
theorem values_eq_append (effects : List Effect) :
    (ofEffects effects).values = (ofEffects effects).effects.flatMap pair ++
      (((effects.take capacity).dropWhile (·.index ≠ 0)).flatMap pair ++
        List.replicate (width - 2 * (effects.take capacity).length) 0) := by
  rw [effects_ofEffects, ← List.append_assoc, ← List.flatMap_append,
    List.takeWhile_append_dropWhile]
  exact values_ofEffects effects

/-- Packed effects pass the check exactly if those up to the first index zero are lawful and only
zeros follow. -/
theorem exists_ofValues_iff {effects : List Effect} :
    (∃ record, ofValues catalog (ofEffects effects).values = .ok record) ↔
      (∀ effect ∈ (ofEffects effects).effects, effect.Lawful catalog) ∧
        ∀ effect ∈ (effects.take capacity).dropWhile (·.index ≠ 0), effect = ⟨0, 0⟩ := by
  have hvalues := values_eq_append effects
  constructor
  · rintro ⟨record, hrecord⟩
    obtain ⟨lawful, hlength, hlawful, hpacked⟩ := exists_lawful_of_ofValues hrecord
    have hsame : ofEffects lawful = ofEffects effects :=
      hpacked.trans (eq_of_values_eq (values_of_ofValues hrecord))
    have heffects : (ofEffects effects).effects = lawful := by
      rw [← hsame, effects_ofEffects_of_lawful hlength hlawful]
    refine ⟨heffects ▸ hlawful, forall_mem_flatMap_pair_iff.mp fun value hvalue ↦ ?_⟩
    -- Behind the lawful effects the same record holds zeros only.
    rw [heffects, ← hsame, values_ofEffects, List.take_of_length_le hlength] at hvalues
    have hzeros := List.append_cancel_left hvalues
    exact List.eq_of_mem_replicate (hzeros ▸ List.mem_append_left _ hvalue)
  · rintro ⟨hlawful, hrest⟩
    have hzeros : ∃ n, ((effects.take capacity).dropWhile (·.index ≠ 0)).flatMap pair ++
        List.replicate (width - 2 * (effects.take capacity).length) 0 = List.replicate n 0 := by
      refine ⟨_, List.eq_replicate_iff.mpr ⟨rfl, fun value hvalue ↦ ?_⟩⟩
      rcases List.mem_append.mp hvalue with hpair | hpadding
      · exact forall_mem_flatMap_pair_iff.mpr hrest value hpair
      · exact List.eq_of_mem_replicate hpadding
    obtain ⟨n, hn⟩ := hzeros
    have hcheck := check_flatMap_pair hlawful 0 n
    rw [← hn, ← hvalues] at hcheck
    refine ⟨ofEffects effects, ?_⟩
    rw [ofValues, dif_pos (ofEffects effects).length_values, hcheck]

/-! ### The two verdicts -/

/-- Packed effects get the same verdict from both exactly if an instrument is unknown, or if all
effects up to the first index zero change their prices and only zeros follow. -/
theorem decode_agrees_iff (catalog : Catalog) (effects : List Effect) :
    ((∃ named, decode catalog (ofEffects effects) = .ok named) ↔
        ∃ record, ofValues catalog (ofEffects effects).values = .ok record) ↔
      (∃ effect ∈ (effects.take 4).takeWhile (·.index ≠ 0),
          effect.index ∉ catalog.instruments.map Instrument.index) ∨
        (∀ effect ∈ (effects.take 4).takeWhile (·.index ≠ 0), effect.delta ≠ 0) ∧
          ∀ effect ∈ (effects.take 4).dropWhile (·.index ≠ 0), effect = ⟨0, 0⟩ := by
  rw [exists_decode_iff, exists_ofValues_iff, effects_ofEffects]
  unfold capacity
  by_cases hknown : ∀ effect ∈ (effects.take 4).takeWhile (·.index ≠ 0),
      effect.index ∈ catalog.instruments.map Instrument.index
  · have hunknown : ¬∃ effect ∈ (effects.take 4).takeWhile (·.index ≠ 0),
        effect.index ∉ catalog.instruments.map Instrument.index := by
      rintro ⟨effect, heffect, hindex⟩
      exact hindex (hknown effect heffect)
    have hlawful : (∀ effect ∈ (effects.take 4).takeWhile (·.index ≠ 0), effect.Lawful catalog) ↔
        ∀ effect ∈ (effects.take 4).takeWhile (·.index ≠ 0), effect.delta ≠ 0 :=
      ⟨fun h effect heffect ↦ (h effect heffect).delta_ne_zero,
        fun h effect heffect ↦ ⟨hknown effect heffect, h effect heffect⟩⟩
    rw [hlawful, or_iff_right hunknown, iff_true_left hknown]
  · have hunlawful : ¬∀ effect ∈ (effects.take 4).takeWhile (·.index ≠ 0),
        effect.Lawful catalog := fun h ↦ hknown fun effect heffect ↦ (h effect heffect).known
    have hunknown : ∃ effect ∈ (effects.take 4).takeWhile (·.index ≠ 0),
        effect.index ∉ catalog.instruments.map Instrument.index := by
      simpa only [not_forall, exists_prop] using hknown
    exact iff_of_true ⟨fun h ↦ absurd h hknown, fun h ↦ absurd h.1 hunlawful⟩ (Or.inl hunknown)

/-- An effect that changes nothing decodes and does not pass the check. -/
theorem decode_agrees_zeroDelta :
    ¬((∃ named, decode .standard (ofEffects [⟨1, 0⟩]) = .ok named) ↔
      ∃ record, ofValues .standard (ofEffects [⟨1, 0⟩]).values = .ok record) := by
  intro hagree
  obtain ⟨record, hrecord⟩ := hagree.mp ⟨[("CE".toList, 0)], by decide⟩
  have hrefused : ofValues .standard (ofEffects [⟨1, 0⟩]).values = .error (.zeroDelta 1) := by
    decide
  rw [hrefused] at hrecord
  simp at hrecord

end ChanceDeck.Record
