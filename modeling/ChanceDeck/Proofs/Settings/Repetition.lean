import ChanceDeck.Proofs.Settings.Layers

/-!
# Layers given twice

A document that is merged again where it has just been merged finds all it says in place
(`Document.merge_merge_self`). Merging is neither associative nor commutative, so this is shown
entry by entry: two objects in order are equal if each key has the same value in both
(`Document.eq_of_field?_eq`), and what a merged object has under a key is a merge of values again
(`Document.field?_merge`). A layer that stands twice in a row therefore counts once
(`Settings.ofLayers_repeated`), whether or not the layers can be loaded.
-/

set_option autoImplicit false
set_option relaxedAutoImplicit false

namespace ChanceDeck

namespace Document

variable {earlier later document other : Document}

/-- Objects in order are equal if each key has the same value in both. -/
theorem eq_of_field?_eq (hdocument : document.Sorted) (hother : other.Sorted)
    (hobject : document.IsObject) (hobject' : other.IsObject)
    (h : ∀ key, document.field? key = other.field? key) : document = other := by
  obtain ⟨members, rfl⟩ := hobject
  obtain ⟨others, rfl⟩ := hobject'
  exact congrArg object (eq_of_get?_eq (sorted_object_iff.mp hdocument).1
    (sorted_object_iff.mp hother).1 h)

/-- A document merged again changes nothing. -/
theorem merge_merge_self (hearlier : earlier.Sorted) (hlater : later.Sorted) :
    merge (merge earlier later) later = merge earlier later := by
  induction hlater generalizing earlier with
  | @object members hkeys hvalues ih =>
    have hmembers : Sorted (.object members) := .object hkeys hvalues
    have honce := sorted_merge hearlier hmembers
    refine eq_of_field?_eq (sorted_merge honce hmembers) honce isObject_merge isObject_merge
      fun key ↦ ?_
    rw [field?_merge hkeys, field?_merge hkeys]
    cases hvalue : get? key members with
    | none => rfl
    | some value =>
      have hfound : ((earlier.field? key).getD .null).Sorted := by
        cases hfield : earlier.field? key with
        | none => exact .null
        | some found => exact hearlier.field? hfield
      exact congrArg some (ih _ (mem_of_get? hvalue) hfound)
  | null => rfl
  | boolean => rfl
  | integer => rfl
  | float => rfl
  | text => rfl
  | list => rfl

/-- Merging a document into null gives the document, so it is also its own merge. -/
theorem merge_self (h : document.Sorted) : merge document document = document := by
  have hnull : merge .null document = document := merge_of_not_isObject not_isObject_null
  calc merge document document
    _ = merge (merge .null document) document := by rw [hnull]
    _ = merge .null document := merge_merge_self .null h
    _ = document := hnull

theorem overlay_overlay_self (hearlier : earlier.Sorted) (hlater : later.Sorted) :
    overlay (overlay earlier later) later = overlay earlier later := by
  unfold overlay
  split_ifs
  · rfl
  · exact merge_merge_self hearlier hlater

end Document

namespace Settings

open Document

variable {before after : List Text} {text : Text} {e : LayerError}

theorem layers_append_of_eq_error (h : layers before = .error e) (after : List Text) :
    layers (before ++ after) = .error e := by
  induction before with
  | nil => simp [layers] at h
  | cons text rest ih =>
    rw [layers] at h
    rw [List.cons_append, layers]
    cases htext : layer text with
    | error e' => simpa [htext] using h
    | ok document =>
      cases hrest : layers rest with
      | error e' =>
        simp only [htext, hrest] at h ih ⊢
        rw [ih h]
      | ok documents => simp [htext, hrest] at h

/-- A layer that follows itself changes nothing, whatever layers stand before and after it. -/
theorem ofLayers_append_twice (before : List Text) (text : Text) (after : List Text) :
    ofLayers (before ++ text :: text :: after) = ofLayers (before ++ text :: after) := by
  cases hbefore : layers before with
  | error e => rw [ofLayers, ofLayers, layers_append_of_eq_error hbefore,
      layers_append_of_eq_error hbefore]
  | ok documents =>
    cases htext : layer text with
    | error e =>
      rw [ofLayers_append hbefore, ofLayers_append hbefore, layers, layers, htext]
    | ok document =>
      have hmerged := sorted_mergeAll (sorted_of_layers hbefore)
      have htwice : ofLayers (before ++ text :: text :: after) = _ :=
        ofLayers_append_cons hbefore htext
      rw [htwice, ofLayers_append_cons hbefore htext, layers, htext]
      cases layers after with
      | error e => rfl
      | ok laters =>
        have hsame := overlay_overlay_self hmerged (sorted_of_layer htext)
        simp only [Except.map, List.foldl_cons, hsame]

/-- A document merged twice counts once, and a document merged into itself stays as it is. So a layer
that stands twice in a row gives what it gives once: the same document, the same canonical form and
the same digest. -/
theorem ofLayers_repeated :
    (∀ earlier later : Document, earlier.Sorted → later.Sorted →
      merge (merge earlier later) later = merge earlier later ∧ merge later later = later) ∧
    ∀ before text after,
      ofLayers (before ++ text :: text :: after) = ofLayers (before ++ text :: after) ∧
      (ofLayers (before ++ text :: text :: after)).map canonical =
        (ofLayers (before ++ text :: after)).map canonical ∧
      (ofLayers (before ++ text :: text :: after)).map digest =
        (ofLayers (before ++ text :: after)).map digest := by
  refine ⟨fun earlier later hearlier hlater ↦
    ⟨merge_merge_self hearlier hlater, merge_self hlater⟩, fun before text after ↦ ?_⟩
  rw [ofLayers_append_twice]
  exact ⟨rfl, rfl, rfl⟩

/-- Objects, lists and null, in the place of one another. -/
theorem ofLayers_repeated_mixed :
    (object [("convert".toList, object [("start_line".toList, .integer 100)]),
      ("tokenize".toList, .list [.null])]).Sorted ∧
    (object [("convert".toList, object [("input".toList, .text "a.csv".toList),
      ("report".toList, .null)]), ("tokenize".toList, object [])]).Sorted ∧
    merge (merge (object [("convert".toList, object [("start_line".toList, .integer 100)]),
        ("tokenize".toList, .list [.null])])
      (object [("convert".toList, object [("input".toList, .text "a.csv".toList),
        ("report".toList, .null)]), ("tokenize".toList, object [])]))
      (object [("convert".toList, object [("input".toList, .text "a.csv".toList),
        ("report".toList, .null)]), ("tokenize".toList, object [])]) =
      object [("convert".toList, object [("input".toList, .text "a.csv".toList),
        ("report".toList, .null), ("start_line".toList, .integer 100)]),
        ("tokenize".toList, object [])] := by
  have hearlier : (object [("convert".toList, object [("start_line".toList, .integer 100)]),
      ("tokenize".toList, .list [.null])]).Sorted := by
    decide
  have hlater : (object [("convert".toList, object [("input".toList, .text "a.csv".toList),
      ("report".toList, .null)]), ("tokenize".toList, object [])]).Sorted := by
    decide
  exact ⟨hearlier, hlater, (ofLayers_repeated.1 _ _ hearlier hlater).1.trans (by decide)⟩

end Settings

end ChanceDeck
