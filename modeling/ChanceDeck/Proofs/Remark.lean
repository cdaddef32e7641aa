import ChanceDeck.Proofs.Record
import ChanceDeck.Proofs.Text.Decimal
import ChanceDeck.Proofs.Text.Lines
import ChanceDeck.Remark

/-!
# What remarks tell

A remark stands on one line and ends in a character that is no blank, whatever the record, if no
ticker and no note holds a line feed (`line_ofRecord`).

A remark tells its record apart from all others if no ticker holds a comma: `ofRecord_injective`.
Commas part the phrases, the last space of a phrase parts the name from the price change, a signed
price change reads back as the number it came from, and a name belongs to one index only. The words
for a record without effects are no phrase, since what follows their space is no number.
-/

set_option autoImplicit false
set_option relaxedAutoImplicit false

namespace ChanceDeck

/-- No ticker of the catalog holds a line feed. -/
def Catalog.Feedless (catalog : Catalog) : Prop :=
  ∀ i ∈ catalog.instruments, '\n' ∉ i.ticker

/-- No ticker of the catalog holds a comma. -/
def Catalog.Commaless (catalog : Catalog) : Prop :=
  ∀ i ∈ catalog.instruments, ',' ∉ i.ticker

/-- No note holds a line feed. -/
def Specials.Feedless (specials : Specials) : Prop :=
  ∀ entry ∈ specials.notes, '\n' ∉ entry.2

instance (catalog : Catalog) : Decidable catalog.Feedless :=
  inferInstanceAs (Decidable (∀ i ∈ catalog.instruments, _))

instance (catalog : Catalog) : Decidable catalog.Commaless :=
  inferInstanceAs (Decidable (∀ i ∈ catalog.instruments, _))

instance (specials : Specials) : Decidable specials.Feedless :=
  inferInstanceAs (Decidable (∀ entry ∈ specials.notes, _))

theorem Catalog.feedless_standard : Catalog.standard.Feedless := by
  decide

theorem Catalog.commaless_standard : Catalog.standard.Commaless := by
  decide

theorem Specials.Feedless.note {specials : Specials} (h : specials.Feedless) {card text : Text}
    (hnote : specials.note? card = some text) : '\n' ∉ text := by
  obtain ⟨entry, hentry, rfl⟩ := Option.map_eq_some_iff.mp hnote
  exact h entry (List.mem_of_find?_eq_some hentry)

namespace Remark

variable {catalog : Catalog} {specials : Specials}

/-! ### Price changes in words -/

theorem isNumeric_of_mem_signed {delta : Int64} {c : Char} (h : c ∈ signed delta) :
    Decimal.isNumeric c = true := by
  rw [signed] at h
  split_ifs at h
  · rcases List.mem_cons.mp h with rfl | h
    · rfl
    · exact Decimal.isNumeric_of_mem_integer h
  · exact Decimal.isNumeric_of_mem_integer h

theorem signed_ne_nil (delta : Int64) : signed delta ≠ [] := by
  rw [signed]
  split_ifs
  · exact List.cons_ne_nil _ _
  · exact Decimal.integer_ne_nil _

/-- A signed price change reads back as the number it came from. -/
theorem integer?_signed (delta : Int64) : Decimal.integer? (signed delta) = some delta := by
  have hmax := Int64.toInt_lt delta
  rw [signed]
  split_ifs with hpositive
  · have habs : (delta.toInt.natAbs : Int) = delta.toInt := by omega
    have hdigits : Decimal.integer delta.toInt = Decimal.natural delta.toInt.natAbs := by
      rw [Decimal.integer, if_neg (by omega)]
    have hmagnitude : Decimal.magnitude? 10 0x7FFFFFFFFFFFFFFF (Decimal.natural delta.toInt.natAbs) =
        some delta.toInt.natAbs :=
      Decimal.magnitude?_natural (by omega)
    rw [hdigits, Decimal.integer?, hmagnitude]
    change some (Int64.ofInt (delta.toInt.natAbs : Int)) = some delta
    rw [habs, Int64.ofInt_toInt]
  · exact Decimal.integer?_integer delta

/-! ### Remarks as parts of a line -/

theorem ofEffects_nil (catalog : Catalog) : ofEffects catalog [] = "no changes".toList :=
  rfl

theorem ofEffects_cons (catalog : Catalog) (effect : Effect) (rest : List Effect) :
    ofEffects catalog (effect :: rest) =
      Text.join ", ".toList ((effect :: rest).map (phrase catalog)) :=
  rfl

theorem feedless_name (h : catalog.Feedless) (index : UInt8) : '\n' ∉ name catalog index := by
  rw [name]
  cases hticker : catalog.tickerOf? index with
  | none =>
    intro hmem
    rcases List.mem_cons.mp hmem with hhash | hdigit
    · exact absurd hhash (by decide)
    · exact absurd (Decimal.isDigit_of_mem_natural hdigit) (by decide)
  | some ticker => exact h _ (Catalog.tickerOf?_eq_some_iff.mp hticker)

theorem line_phrase (h : catalog.Feedless) (effect : Effect) :
    Text.Line (phrase catalog effect) := by
  constructor
  · intro hmem
    rcases List.mem_append.mp hmem with hname | hrest
    · exact feedless_name h effect.index hname
    · rcases List.mem_cons.mp hrest with hspace | hsigned
      · exact absurd hspace (by decide)
      · exact absurd (isNumeric_of_mem_signed hsigned) (by decide)
  · have hsigned : Text.Closed (signed effect.delta) :=
      Decimal.closed_of_isNumeric (signed_ne_nil _) fun c hc ↦ isNumeric_of_mem_signed hc
    have happend := hsigned.append (name catalog effect.index ++ [' '])
    simpa [phrase] using happend

theorem line_ofEffects (h : catalog.Feedless) (effects : List Effect) :
    Text.Line (ofEffects catalog effects) := by
  cases effects with
  | nil =>
    rw [ofEffects_nil]
    exact ⟨by decide, 's', by decide, by decide⟩
  | cons effect rest =>
    have hphrases : ∀ part ∈ (effect :: rest).map (phrase catalog), Text.Line part := by
      intro part hpart
      obtain ⟨e, -, rfl⟩ := List.mem_map.mp hpart
      exact line_phrase h e
    rw [ofEffects_cons]
    constructor
    · intro hmem
      rcases Text.mem_join hmem with hseparator | ⟨part, hpart, hfeed⟩
      · exact absurd hseparator (by decide)
      · exact (hphrases part hpart).feedless hfeed
    · exact Text.closed_join (List.cons_ne_nil _ _) fun part hpart ↦ (hphrases part hpart).closed

/-- A remark stands on one line and ends in a character that is no blank. -/
theorem line_ofRecord (hcatalog : catalog.Feedless) (hspecials : specials.Feedless) (card : Text)
    (record : Record) : Text.Line (ofRecord catalog specials card record) := by
  have heffects := line_ofEffects hcatalog record.effects
  rw [ofRecord]
  cases hnote : specials.note? card with
  | none => simpa [note] using heffects
  | some text =>
    constructor
    · intro hmem
      rcases List.mem_append.mp hmem with hmem | hmem
      · exact heffects.feedless hmem
      · have htext := hspecials.note hnote
        simp [note, htext] at hmem
    · have hclosed : Text.Closed (ofEffects catalog record.effects ++ (" (".toList ++ text) ++
          [')']) :=
        Text.closed_concat _ (by decide)
      simpa [note] using hclosed

/-! ### Remarks told apart -/

theorem name_of_lawful {effect : Effect} (h : effect.Lawful catalog) :
    ∃ i ∈ catalog.instruments, i.index = effect.index ∧ name catalog effect.index = i.ticker := by
  obtain ⟨i, hi, hindex⟩ := h.exists_mem
  refine ⟨i, hi, hindex, ?_⟩
  rw [name, ← hindex, Catalog.tickerOf?_of_mem hi]
  rfl

theorem comma_not_mem_phrase (hcatalog : catalog.Commaless) {effect : Effect}
    (h : effect.Lawful catalog) : ',' ∉ phrase catalog effect := by
  obtain ⟨i, hi, -, hname⟩ := name_of_lawful h
  rw [phrase, hname]
  intro hmem
  rcases List.mem_append.mp hmem with hticker | hrest
  · exact hcatalog i hi hticker
  · rcases List.mem_cons.mp hrest with hspace | hsigned
    · exact absurd hspace (by decide)
    · exact absurd (isNumeric_of_mem_signed hsigned) (by decide)

theorem space_not_mem_signed (delta : Int64) : ' ' ∉ signed delta := fun h ↦
  absurd (isNumeric_of_mem_signed h) (by decide)

/-- A phrase tells the instrument and the price change of its effect. -/
theorem phrase_injective {effect₁ effect₂ : Effect} (h₁ : effect₁.Lawful catalog)
    (h₂ : effect₂.Lawful catalog) (h : phrase catalog effect₁ = phrase catalog effect₂) :
    effect₁ = effect₂ := by
  obtain ⟨i₁, hi₁, hindex₁, hname₁⟩ := name_of_lawful h₁
  obtain ⟨i₂, hi₂, hindex₂, hname₂⟩ := name_of_lawful h₂
  obtain ⟨hname, hsigned⟩ := Text.append_cons_inj_of_not_mem
    (space_not_mem_signed effect₁.delta) (space_not_mem_signed effect₂.delta) h
  have hinstrument : i₁ = i₂ :=
    List.inj_on_of_nodup_map catalog.admissible.tickers_nodup hi₁ hi₂
      (by rw [← hname₁, ← hname₂, hname])
  have hdelta : effect₁.delta = effect₂.delta := by
    have hread := integer?_signed effect₁.delta
    rw [hsigned, integer?_signed] at hread
    exact (Option.some.inj hread).symm
  have hindex : effect₁.index = effect₂.index := by rw [← hindex₁, ← hindex₂, hinstrument]
  cases effect₁
  cases effect₂
  simp only [Effect.mk.injEq]
  exact ⟨hindex, hdelta⟩

theorem map_phrase_injective {effects₁ effects₂ : List Effect}
    (h₁ : ∀ e ∈ effects₁, e.Lawful catalog) (h₂ : ∀ e ∈ effects₂, e.Lawful catalog)
    (h : effects₁.map (phrase catalog) = effects₂.map (phrase catalog)) : effects₁ = effects₂ := by
  induction effects₁ generalizing effects₂ with
  | nil => exact (List.map_eq_nil_iff.mp h.symm).symm
  | cons effect₁ rest₁ ih =>
    cases effects₂ with
    | nil => exact absurd h (List.cons_ne_nil _ _)
    | cons effect₂ rest₂ =>
      rw [List.map_cons, List.map_cons] at h
      obtain ⟨hfirst, hrest⟩ := List.cons.inj h
      rw [phrase_injective (h₁ _ List.mem_cons_self) (h₂ _ List.mem_cons_self) hfirst,
        ih (fun e he ↦ h₁ e (List.mem_cons_of_mem _ he))
          (fun e he ↦ h₂ e (List.mem_cons_of_mem _ he)) hrest]

/-- The words for a record without effects are no phrase. -/
theorem phrase_ne_noChanges (effect : Effect) : phrase catalog effect ≠ "no changes".toList := by
  intro h
  have hsplit : "no changes".toList = "no".toList ++ ' ' :: "changes".toList := rfl
  rw [hsplit] at h
  obtain ⟨-, hsigned⟩ := Text.append_cons_inj_of_not_mem
    (space_not_mem_signed effect.delta) (by decide) h
  have hread := integer?_signed effect.delta
  have hwords : Decimal.integer? "changes".toList = none := by decide
  rw [hsigned, hwords] at hread
  exact absurd hread (by simp)

/-- The phrases of a remark are what stands between its commas. -/
theorem splitOn_ofEffects (hcatalog : catalog.Commaless) {effect : Effect} {rest : List Effect}
    (hlawful : ∀ e ∈ effect :: rest, e.Lawful catalog) :
    (ofEffects catalog (effect :: rest)).splitOn ',' =
      phrase catalog effect :: (rest.map (phrase catalog)).map (' ' :: ·) := by
  have hcomma : ∀ part ∈ (effect :: rest).map (phrase catalog), ',' ∉ part := by
    intro part hpart
    obtain ⟨e, he, rfl⟩ := List.mem_map.mp hpart
    exact comma_not_mem_phrase hcatalog (hlawful e he)
  rw [ofEffects_cons]
  exact Text.splitOn_join_comma _ _ hcomma

theorem ofEffects_cons_ne_noChanges (hcatalog : catalog.Commaless) {effect : Effect}
    {rest : List Effect} (hlawful : ∀ e ∈ effect :: rest, e.Lawful catalog) :
    ofEffects catalog (effect :: rest) ≠ "no changes".toList := by
  intro h
  have hsplit := splitOn_ofEffects hcatalog hlawful
  have hwords : "no changes".toList.splitOn ',' = ["no changes".toList] :=
    List.splitOn_eq_singleton (by decide)
  rw [h, hwords] at hsplit
  exact phrase_ne_noChanges effect (List.cons.inj hsplit).1.symm

/-- Effects are told apart by their words. -/
theorem ofEffects_injective (hcatalog : catalog.Commaless) {effects₁ effects₂ : List Effect}
    (h₁ : ∀ e ∈ effects₁, e.Lawful catalog) (h₂ : ∀ e ∈ effects₂, e.Lawful catalog)
    (h : ofEffects catalog effects₁ = ofEffects catalog effects₂) : effects₁ = effects₂ := by
  cases effects₁ with
  | nil =>
    cases effects₂ with
    | nil => rfl
    | cons effect₂ rest₂ => exact absurd h.symm (ofEffects_cons_ne_noChanges hcatalog h₂)
  | cons effect₁ rest₁ =>
    cases effects₂ with
    | nil => exact absurd h (ofEffects_cons_ne_noChanges hcatalog h₁)
    | cons effect₂ rest₂ =>
      have hphrases := splitOn_ofEffects hcatalog h₁
      rw [h, splitOn_ofEffects hcatalog h₂] at hphrases
      obtain ⟨hfirst, hrest⟩ := List.cons.inj hphrases
      have hmap : rest₂.map (phrase catalog) = rest₁.map (phrase catalog) :=
        List.map_injective_iff.mpr (fun _ _ hc ↦ (List.cons.inj hc).2) hrest
      refine map_phrase_injective h₁ h₂ ?_
      rw [List.map_cons, List.map_cons, hfirst, hmap]

/-- Records of the catalog are told apart by their remarks on the same card. -/
theorem ofRecord_injective (hcatalog : catalog.Commaless) {card : Text}
    {values₁ values₂ : List Int64} {record₁ record₂ : Record}
    (h₁ : Record.ofValues catalog values₁ = .ok record₁)
    (h₂ : Record.ofValues catalog values₂ = .ok record₂)
    (h : ofRecord catalog specials card record₁ = ofRecord catalog specials card record₂) :
    record₁ = record₂ := by
  obtain ⟨effects₁, hlength₁, hlawful₁, rfl⟩ := Record.exists_lawful_of_ofValues h₁
  obtain ⟨effects₂, hlength₂, hlawful₂, rfl⟩ := Record.exists_lawful_of_ofValues h₂
  have hwords := List.append_cancel_right h
  rw [Record.effects_ofEffects_of_lawful hlength₁ hlawful₁,
    Record.effects_ofEffects_of_lawful hlength₂ hlawful₂] at hwords
  rw [ofEffects_injective hcatalog hlawful₁ hlawful₂ hwords]

end Remark

end ChanceDeck
