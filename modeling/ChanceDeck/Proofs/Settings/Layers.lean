import ChanceDeck.Proofs.Settings.Overlay

/-!
# Layers that set nothing

A layer is read into a document in order (`Settings.sorted_of_layer`), so that merged layers are in
order too. A layer inserted among others changes nothing, whatever layers follow, if it spares both
sections; and a layer whose leaves all set nothing leaves the settings of the layers before it as
they were only if it spares both (`Settings.ofLayers_insert`). A section that is left blank does
not spare what earlier layers have set there: it takes the settings back to their defaults
(`Settings.ofLayers_blankSection`).
-/

set_option autoImplicit false
set_option relaxedAutoImplicit false

namespace ChanceDeck

namespace Document

/-! ### Documents of layers are in order -/

theorem ofItems_cons_eq_ok_iff {item : Yaml.Value} {rest : List Yaml.Value}
    {documents : List Document} : ofItems (item :: rest) = .ok documents ↔
      ∃ first others, ofValue item = .ok first ∧ ofItems rest = .ok others ∧
        first :: others = documents := by
  rw [ofItems]
  cases ofValue item with
  | error e => simp [bind, Except.bind]
  | ok first => cases ofItems rest <;> simp [bind, Except.bind, pure, Except.pure]

theorem ofEntries_cons_eq_ok_iff {key value : Yaml.Value} {rest : List (Yaml.Value × Yaml.Value)}
    {found members : List (Text × Document)} :
    ofEntries ((key, value) :: rest) found = .ok members ↔
      ∃ text document, keyText key = .ok text ∧ ofValue value = .ok document ∧
        ofEntries rest (put text document found) = .ok members := by
  rw [ofEntries]
  cases keyText key with
  | error e => simp [bind, Except.bind]
  | ok text => cases ofValue value <;> simp [bind, Except.bind]

mutual

theorem sorted_ofValue : (value : Yaml.Value) → ∀ document, ofValue value = .ok document →
    document.Sorted
  | .null, _, h => Except.ok.inj h ▸ .null
  | .boolean _, _, h => Except.ok.inj h ▸ .boolean _
  | .integer _, _, h => Except.ok.inj h ▸ .integer _
  | .float (.finite _), _, h => Except.ok.inj h ▸ .float _
  | .float (.infinity _), _, h => Except.ok.inj h ▸ .null
  | .float .notANumber, _, h => Except.ok.inj h ▸ .null
  | .text _, _, h => Except.ok.inj h ▸ .text _
  | .sequence items, _, h => by
    obtain ⟨documents, hitems, rfl⟩ := Section.map_eq_ok_iff.mp h
    exact .list (sorted_ofItems items documents hitems)
  | .mapping entries, _, h => by
    obtain ⟨members, hentries, rfl⟩ := Section.map_eq_ok_iff.mp h
    exact sorted_ofEntries entries [] members
      (.object List.Pairwise.nil (List.forall_mem_nil _)) hentries
  | .tagged tag value, _, h => by
    obtain ⟨found, hvalue, rfl⟩ := Section.map_eq_ok_iff.mp h
    exact .object (List.pairwise_singleton _ _)
      (List.forall_mem_singleton.mpr (sorted_ofValue value found hvalue))

theorem sorted_ofItems : (items : List Yaml.Value) → ∀ documents, ofItems items = .ok documents →
    ∀ document ∈ documents, document.Sorted
  | [], _, h => Except.ok.inj h ▸ List.forall_mem_nil _
  | item :: rest, _, h => by
    obtain ⟨first, others, hitem, hrest, rfl⟩ := ofItems_cons_eq_ok_iff.mp h
    exact List.forall_mem_cons.mpr
      ⟨sorted_ofValue item first hitem, sorted_ofItems rest others hrest⟩

theorem sorted_ofEntries : (entries : List (Yaml.Value × Yaml.Value)) → ∀ found members,
    Sorted (.object found) → ofEntries entries found = .ok members → Sorted (.object members)
  | [], _, _, hfound, h => Except.ok.inj h ▸ hfound
  | (_, value) :: rest, found, members, hfound, h => by
    obtain ⟨text, document, -, hvalue, hrest⟩ := ofEntries_cons_eq_ok_iff.mp h
    exact sorted_ofEntries rest (put text document found) members
      (hfound.put (sorted_ofValue value document hvalue)) hrest

end

theorem sorted_mergeAll {documents : List Document}
    (hdocuments : ∀ document ∈ documents, document.Sorted) : (mergeAll documents).Sorted :=
  sorted_foldl_overlay (.object List.Pairwise.nil (List.forall_mem_nil _)) hdocuments

end Document

namespace Settings

open Document

variable {before after : List Text} {extra text : Text} {documents laters : List Document}
  {document : Document}

theorem sorted_of_layer (h : layer text = .ok document) : document.Sorted := by
  rw [layer] at h
  cases hvalue : Yaml.Value.ofText? text with
  | none => simp [hvalue] at h
  | some value =>
    rw [hvalue] at h
    exact sorted_ofValue value document (Section.mapError_eq_ok_iff.mp h)

theorem layers_cons_eq_ok_iff : layers (text :: after) = .ok documents ↔
    ∃ document laters, layer text = .ok document ∧ layers after = .ok laters ∧
      documents = document :: laters := by
  rw [layers]
  cases layer text with
  | error e => simp
  | ok document =>
    cases layers after with
    | error e => simp
    | ok laters => simp [eq_comm]

theorem sorted_of_layers (h : layers before = .ok documents) :
    ∀ document ∈ documents, document.Sorted := by
  induction before generalizing documents with
  | nil => exact Except.ok.inj h ▸ List.forall_mem_nil _
  | cons text rest ih =>
    obtain ⟨document, laters, htext, hrest, rfl⟩ := layers_cons_eq_ok_iff.mp h
    exact List.forall_mem_cons.mpr ⟨sorted_of_layer htext, ih hrest⟩

theorem ofLayers_of_layers (h : layers before = .ok documents) :
    ofLayers before = .ok ⟨mergeAll documents⟩ :=
  Section.map_eq_ok_iff.mpr ⟨documents, h, rfl⟩

/-- The document of loaded settings is in order. -/
theorem sorted_of_ofLayers {settings : Settings} (h : ofLayers before = .ok settings) :
    settings.document.Sorted := by
  obtain ⟨documents, hdocuments, rfl⟩ := Section.map_eq_ok_iff.mp h
  exact sorted_mergeAll (sorted_of_layers hdocuments)

/-! ### Layers after layers -/

theorem layers_append (h : layers before = .ok documents) :
    layers (before ++ after) = (layers after).map (documents ++ ·) := by
  induction before generalizing documents with
  | nil =>
    obtain rfl : [] = documents := Except.ok.inj h
    rw [List.nil_append]
    cases layers after <;> rfl
  | cons text rest ih =>
    obtain ⟨document, laters, htext, hrest, rfl⟩ := layers_cons_eq_ok_iff.mp h
    rw [List.cons_append, layers, htext]
    simp only [ih hrest]
    cases layers after <;> rfl

/-- Later layers override what the layers before them give, one after another. -/
theorem ofLayers_append (h : layers before = .ok documents) : ofLayers (before ++ after) =
    (layers after).map fun laters ↦ ⟨laters.foldl overlay (mergeAll documents)⟩ := by
  rw [ofLayers, layers_append h]
  cases layers after with
  | error e => rfl
  | ok laters =>
    simp only [Except.map, mergeAll, List.foldl_append]
    rfl

theorem ofLayers_append_cons (h : layers before = .ok documents)
    (hextra : layer extra = .ok document) :
    ofLayers (before ++ extra :: after) = (layers after).map fun laters ↦
      ⟨laters.foldl overlay (overlay (mergeAll documents) document)⟩ := by
  have hboth : layers (before ++ [extra]) = .ok (documents ++ [document]) := by
    rw [layers_append h, layers, hextra]
    rfl
  have hmerged : mergeAll (documents ++ [document]) = overlay (mergeAll documents) document :=
    List.foldl_append
  rw [← hmerged, ← ofLayers_append hboth, List.append_assoc, List.singleton_append]

/-! ### Settings that are read -/

theorem readAt_of_convert {settings : Settings} {found : ConvertSettings}
    (h : settings.convert = .ok found) :
    Section.readAt "convert".toList ConvertSettings.fields .convertSection ConvertSettings.defaults
      settings.document = .ok found := by
  rw [convert, ConvertSettings.ofDocument] at h
  split at h
  · simp at h
  · rename_i read hread
    rw [ConvertSettings.validate] at h
    split at h
    · simp at h
    · exact hread.trans (congrArg Except.ok (Except.ok.inj h))

theorem readAt_of_tokenize {settings : Settings} {found : TokenizeSettings}
    (h : settings.tokenize = .ok found) :
    Section.readAt "tokenize".toList TokenizeSettings.fields .tokenizeSection
      TokenizeSettings.defaults settings.document = .ok found :=
  Section.mapError_eq_ok_iff.mp h

/-! ### Inserted layers -/

/-- Whether a layer moves nothing that is set in either section. -/
def Spares (merged layer : Document) : Prop :=
  Section.Spares "convert".toList ConvertSettings.fields .convertSection ConvertSettings.defaults
      merged layer ∧
    Section.Spares "tokenize".toList TokenizeSettings.fields .tokenizeSection
      TokenizeSettings.defaults merged layer

/-- A layer that spares both sections changes nothing, whatever layers follow it. A layer whose
leaves all set nothing has to spare both sections to leave the settings of the layers before it as
they were. -/
theorem ofLayers_insert (hbefore : layers before = .ok documents)
    (hextra : layer extra = .ok document) (hblank : document.IsBlank) :
    (Spares (mergeAll documents) document → ∀ after,
      (ofLayers (before ++ extra :: after)).map convert = (ofLayers (before ++ after)).map convert ∧
      (ofLayers (before ++ extra :: after)).map tokenize =
        (ofLayers (before ++ after)).map tokenize) ∧
    ∀ converting tokenizing, (ofLayers before).map convert = .ok (.ok converting) →
      (ofLayers before).map tokenize = .ok (.ok tokenizing) →
      (ofLayers (before ++ [extra])).map convert = .ok (.ok converting) →
      (ofLayers (before ++ [extra])).map tokenize = .ok (.ok tokenizing) →
      Spares (mergeAll documents) document := by
  have hmerged := sorted_mergeAll (sorted_of_layers hbefore)
  have hdocument := sorted_of_layer hextra
  constructor
  · rintro ⟨hconvert, htokenize⟩ after
    rw [ofLayers_append_cons hbefore hextra, ofLayers_append hbefore]
    cases hafter : layers after with
    | error e => exact ⟨rfl, rfl⟩
    | ok laters =>
      have hlaters := sorted_of_layers hafter
      refine ⟨congrArg Except.ok ?_, congrArg Except.ok ?_⟩
      · rw [convert, convert, ConvertSettings.ofDocument, ConvertSettings.ofDocument,
          Section.readAt_foldl_overlay_of_spares ConvertSettings.lawful hmerged hdocument hlaters
            hconvert]
      · rw [tokenize, tokenize, TokenizeSettings.ofDocument, TokenizeSettings.ofDocument,
          Section.readAt_foldl_overlay_of_spares TokenizeSettings.lawful hmerged hdocument hlaters
            htokenize]
  · intro converting tokenizing hconvert htokenize hconvert' htokenize'
    rw [ofLayers_of_layers hbefore] at hconvert htokenize
    rw [ofLayers_append_cons hbefore hextra] at hconvert' htokenize'
    exact ⟨Section.spares_of_readAt_eq ConvertSettings.lawful hmerged hdocument hblank
        (readAt_of_convert (Except.ok.inj hconvert)) (readAt_of_convert (Except.ok.inj hconvert')),
      Section.spares_of_readAt_eq TokenizeSettings.lawful hmerged hdocument hblank
        (readAt_of_tokenize (Except.ok.inj htokenize))
        (readAt_of_tokenize (Except.ok.inj htokenize'))⟩

/-- An empty section and a blank one change nothing where a layer before them sets a field of the
first section only. -/
theorem ofLayers_insert_emptySection :
    (∃ document, layer "convert: \x7b\x7d\ntokenize:\n".toList = .ok document ∧ document.IsBlank) ∧
    ∀ after,
      (ofLayers ("convert:\n  start_line: 100\n".toList ::
          "convert: \x7b\x7d\ntokenize:\n".toList :: after)).map convert =
        (ofLayers ("convert:\n  start_line: 100\n".toList :: after)).map convert := by
  have hbefore : layers ["convert:\n  start_line: 100\n".toList] =
      .ok [object [("convert".toList, object [("start_line".toList, .integer 100)])]] := by
    decide +kernel
  have hextra : layer "convert: \x7b\x7d\ntokenize:\n".toList =
      .ok (object [("convert".toList, object []), ("tokenize".toList, .null)]) := by
    decide +kernel
  have hblank : (object [("convert".toList, object []), ("tokenize".toList, .null)]).IsBlank := by
    decide
  have hspares : Spares (mergeAll [object [("convert".toList,
        object [("start_line".toList, .integer 100)])]])
      (object [("convert".toList, object []), ("tokenize".toList, .null)]) := by
    exact ⟨Or.inr ⟨rfl, Or.inr ⟨_, [], rfl, rfl, fun _ _ h ↦ absurd rfl h⟩⟩,
      Or.inr ⟨rfl, Or.inl rfl⟩⟩
  exact ⟨⟨_, hextra, hblank⟩,
    fun after ↦ ((ofLayers_insert hbefore hextra hblank).1 hspares after).1⟩

/-- A section that is left blank takes what is set there back to its default, though all leaves of
its layer set nothing. -/
theorem ofLayers_blankSection :
    (∃ document, layer "convert:\n".toList = .ok document ∧ document.IsBlank) ∧
    (ofLayers ["convert:\n  start_line: 100\n".toList]).toOption.bind (·.convert.toOption) =
      some { ConvertSettings.defaults with startLine := 100 } ∧
    (ofLayers ["convert:\n  start_line: 100\n".toList, "convert:\n".toList]).toOption.bind
      (·.convert.toOption) = some ConvertSettings.defaults := by
  refine ⟨⟨object [("convert".toList, .null)], ?_, ?_⟩, ?_, ?_⟩
  · decide +kernel
  · decide
  · decide +kernel
  · decide +kernel

end Settings

end ChanceDeck
