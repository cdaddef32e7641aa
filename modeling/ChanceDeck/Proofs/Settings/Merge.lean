import ChanceDeck.Proofs.Settings.Document
import ChanceDeck.Settings.Layers

/-!
# Merging, path by path

A path of keys leads through objects only (`Document.under?`). Where the later document has a value
at the end of a path, the merged document has there the merge of what both have
(`under?_merge_of_eq_some`); where the later has none, the earlier document shows through, unless a
value that is no object stands in the way (`under?_merge_of_eq_none`, `under?_merge_of_blocked`).
`merge_leafwise` puts these together and says that layers are merged in this way one after another.

Merging keeps entries in order (`sorted_merge`).
-/

set_option autoImplicit false
set_option relaxedAutoImplicit false

namespace ChanceDeck

namespace Document

variable {key : Text} {path : Path} {earlier later value : Document}
  {entries members : List (Text × Document)}

/-- The value at the end of a path of keys. -/
def under? : Path → Document → Option Document
  | [], document => some document
  | key :: rest, document => (document.field? key).bind (under? rest)

theorem under?_append (front rest : Path) (document : Document) :
    document.under? (front ++ rest) = (document.under? front).bind (under? rest) := by
  induction front generalizing document with
  | nil => rfl
  | cons key front ih =>
    rw [List.cons_append, under?, under?]
    cases document.field? key with
    | none => rfl
    | some found => exact ih found

/-- Nothing is under a value that is no object. -/
theorem under?_of_not_isObject (h : ¬value.IsObject) (hpath : path ≠ []) :
    value.under? path = none := by
  cases path with
  | nil => exact absurd rfl hpath
  | cons key rest => rw [under?, field?_of_not_isObject h, Option.bind_none]

/-! ### One entry of merged documents -/

/-- Where one of two documents is no object, the later one stays. -/
theorem merge_eq_later (h : earlier.IsObject → ¬later.IsObject) : merge earlier later = later := by
  cases later with
  | object members =>
    cases earlier with
    | object entries => exact absurd (isObject_object members) (h (isObject_object entries))
    | _ => rfl
  | _ => rfl

theorem merge_of_not_isObject (h : ¬earlier.IsObject) : merge earlier later = later :=
  merge_eq_later fun hearlier ↦ absurd hearlier h

theorem merge_of_later_not_isObject (h : ¬later.IsObject) : merge earlier later = later :=
  merge_eq_later fun _ ↦ h

theorem isObject_merge : (merge earlier (.object members)).IsObject := by
  by_cases hearlier : earlier.IsObject
  · obtain ⟨entries, rfl⟩ := hearlier
    exact isObject_object _
  · rw [merge_of_not_isObject hearlier]
    exact isObject_object members

theorem get?_mergeEntries (hmembers : KeysSorted members) :
    get? key (mergeEntries entries members) =
      ((get? key members).map (merge ((get? key entries).getD .null))).or (get? key entries) := by
  induction members generalizing entries with
  | nil => rfl
  | cons entry rest ih =>
    obtain ⟨other, later⟩ := entry
    obtain ⟨hfirst, hrest⟩ := keysSorted_cons_iff.mp hmembers
    rw [mergeEntries, ih hrest, get?]
    by_cases hkey : key = other
    · subst hkey
      have hlater : get? key rest = none := get?_eq_none_of_lt hfirst
      rw [hlater, get?_put_self, if_pos rfl]
      rfl
    · rw [get?_put_of_ne hkey, if_neg hkey]

/-- An entry of a document merged with a later object. -/
theorem field?_merge (hmembers : KeysSorted members) :
    (merge earlier (.object members)).field? key =
      ((get? key members).map (merge ((earlier.field? key).getD .null))).or
        (earlier.field? key) := by
  by_cases hearlier : earlier.IsObject
  · obtain ⟨entries, rfl⟩ := hearlier
    exact get?_mergeEntries hmembers
  · rw [merge_of_not_isObject hearlier, field?_of_not_isObject hearlier, Option.or_none]
    have hsame : merge null = id := funext fun _ ↦ merge_of_not_isObject not_isObject_null
    rw [Option.getD_none, hsame, Option.map_id]
    rfl

/-! ### The end of a path in merged documents -/

theorem getD_null_bind_under? (found : Option Document) :
    ((found.getD .null).under? path).getD .null = (found.bind (under? path)).getD .null := by
  cases found with
  | some value => rfl
  | none =>
    cases path with
    | nil => rfl
    | cons key rest => rfl

/-- A value of the later document is merged into what the earlier has in its place. -/
theorem under?_merge_of_eq_some (hlater : later.Sorted) (hvalue : later.under? path = some value) :
    (merge earlier later).under? path =
      some (merge ((earlier.under? path).getD .null) value) := by
  induction path generalizing earlier later with
  | nil =>
    obtain rfl : later = value := Option.some.inj hvalue
    rfl
  | cons key rest ih =>
    obtain ⟨found, hfound, hrest⟩ := Option.bind_eq_some_iff.mp hvalue
    obtain ⟨members, rfl⟩ := isObject_of_field? hfound
    have hget : get? key members = some found := hfound
    rw [under?, field?_merge (sorted_object_iff.mp hlater).1, hget, Option.map_some, Option.some_or,
      Option.bind_some, ih (hlater.get? hget) hrest, getD_null_bind_under?, under?]

/-- Nothing is left below a value of the later document that is no object. -/
theorem under?_merge_of_blocked {front : Path} (hlater : later.Sorted) (hfront : front <+: path)
    (hproper : front ≠ path) (hvalue : later.under? front = some value)
    (hblocks : ¬value.IsObject) :
    (merge earlier later).under? path = none := by
  obtain ⟨rest, rfl⟩ := hfront
  have hrest : rest ≠ [] := by
    rintro rfl
    exact hproper (List.append_nil front).symm
  rw [under?_append, under?_merge_of_eq_some hlater hvalue, merge_of_later_not_isObject hblocks,
    Option.bind_some, under?_of_not_isObject hblocks hrest]

/-- Where the later document has nothing and nothing in the way, the earlier one shows through. -/
theorem under?_merge_of_eq_none (hlater : later.Sorted) (hnone : later.under? path = none)
    (hopen : ∀ front value, front <+: path → later.under? front = some value → value.IsObject) :
    (merge earlier later).under? path = earlier.under? path := by
  induction path generalizing earlier later with
  | nil => exact absurd hnone (Option.some_ne_none later)
  | cons key rest ih =>
    obtain ⟨members, rfl⟩ := hopen [] later List.nil_prefix rfl
    rw [under?, field?_merge (sorted_object_iff.mp hlater).1, under?]
    rw [under?, field?] at hnone
    cases hget : get? key members with
    | none => rfl
    | some found =>
      rw [hget, Option.bind_some] at hnone
      have hbelow : ∀ front value, front <+: rest → found.under? front = some value →
          value.IsObject := by
        intro front value hfront hvalue
        refine hopen (key :: front) value ((List.prefix_cons_inj key).mpr hfront) ?_
        rw [under?, field?, hget, Option.bind_some, hvalue]
      have hrest : rest ≠ [] := by
        rintro rfl
        exact absurd hnone (Option.some_ne_none found)
      rw [Option.map_some, Option.some_or, Option.bind_some, ih (hlater.get? hget) hnone hbelow]
      cases earlier.field? key with
      | none => exact under?_of_not_isObject not_isObject_null hrest
      | some value => rfl

/-! ### Order -/

theorem sorted_mergeEntries (hentries : Sorted (.object entries))
    (hmerge : ∀ entry ∈ members, ∀ earlier : Document, earlier.Sorted →
      (merge earlier entry.2).Sorted) :
    Sorted (.object (mergeEntries entries members)) := by
  induction members generalizing entries with
  | nil => exact hentries
  | cons entry rest ih =>
    obtain ⟨hfirst, hrest⟩ := List.forall_mem_cons.mp hmerge
    have hearlier : ((get? entry.1 entries).getD .null).Sorted := by
      cases hget : get? entry.1 entries with
      | none => exact .null
      | some value => exact hentries.get? hget
    exact ih (hentries.put (hfirst _ hearlier)) hrest

theorem sorted_merge (hearlier : earlier.Sorted) (hlater : later.Sorted) :
    (merge earlier later).Sorted := by
  induction hlater generalizing earlier with
  | object hkeys hvalues ih =>
    cases earlier with
    | object entries =>
      exact sorted_mergeEntries hearlier fun entry hentry _ hsorted ↦ ih entry hentry hsorted
    | _ => exact .object hkeys hvalues
  | null => exact .null
  | boolean value => exact .boolean value
  | integer value => exact .integer value
  | float value => exact .float value
  | text value => exact .text value
  | list hitems => exact .list hitems

end Document

/-! ### Layers -/

theorem Settings.layers_eq_mapM (texts : List Text) :
    Settings.layers texts = texts.mapM Settings.layer := by
  induction texts with
  | nil => rfl
  | cons text rest ih =>
    rw [Settings.layers, List.mapM_cons, ih]
    cases Settings.layer text with
    | error e => rfl
    | ok document => cases rest.mapM Settings.layer <;> rfl

namespace Document

/-- Documents merged in order are those that are not null, merged one after another. -/
theorem mergeAll_eq_foldl_filter (documents : List Document) :
    mergeAll documents =
      (documents.filter fun document ↦ !document.isNull).foldl merge empty := by
  rw [mergeAll, List.foldl_filter]
  congr 1
  funext merged later
  cases later.isNull <;> rfl

/-- Later documents override earlier ones leaf by leaf, and layers are merged in this way one after
another, from the document that sets nothing on. A layer that is null is left out. -/
theorem merge_leafwise (earlier : Document) {later : Document} (hlater : later.Sorted)
    (path : Path) (texts : List Text) :
    (∀ value, later.under? path = some value → ¬value.IsObject →
      (merge earlier later).under? path = some value) ∧
    ((∃ front value, front <+: path ∧ front ≠ path ∧ later.under? front = some value ∧
        ¬value.IsObject) →
      (merge earlier later).under? path = none) ∧
    (∀ below above, earlier.under? path = some below → later.under? path = some above →
      below.IsObject → above.IsObject →
      (merge earlier later).under? path = some (merge below above)) ∧
    (∀ above, later.under? path = some above → above.IsObject →
      (∀ below, earlier.under? path = some below → ¬below.IsObject) →
      (merge earlier later).under? path = some above) ∧
    (later.under? path = none →
      (∀ front value, front <+: path → later.under? front = some value → value.IsObject) →
      (merge earlier later).under? path = earlier.under? path) ∧
    Settings.ofLayers texts = (texts.mapM Settings.layer).map fun documents ↦
      ⟨(documents.filter fun document ↦ !document.isNull).foldl merge empty⟩ := by
  refine ⟨fun value hvalue hleaf ↦ ?_, ?_, fun below above hbelow habove _ _ ↦ ?_,
    fun above habove _ hbelow ↦ ?_, under?_merge_of_eq_none hlater, ?_⟩
  · rw [under?_merge_of_eq_some hlater hvalue, merge_of_later_not_isObject hleaf]
  · rintro ⟨front, value, hfront, hproper, hvalue, hblocks⟩
    exact under?_merge_of_blocked hlater hfront hproper hvalue hblocks
  · rw [under?_merge_of_eq_some hlater habove, hbelow, Option.getD_some]
  · rw [under?_merge_of_eq_some hlater habove]
    cases hfound : earlier.under? path with
    | none => rw [Option.getD_none, merge_of_not_isObject not_isObject_null]
    | some below => rw [Option.getD_some, merge_of_not_isObject (hbelow below hfound)]
  · rw [Settings.ofLayers, Settings.layers_eq_mapM]
    congr 1
    funext documents
    rw [mergeAll_eq_foldl_filter]

/-- A blank section leaves nothing of the section before it, and the section beside it shows
through. -/
theorem merge_leafwise_blankSection :
    (object [("convert".toList, .null)]).Sorted ∧
    (merge (object [("convert".toList, object [("input".toList, .text "a.csv".toList)]),
      ("tokenize".toList, object [("output".toList, .text "b".toList)])])
      (object [("convert".toList, .null)])).under? ["convert".toList, "input".toList] = none ∧
    (merge (object [("convert".toList, object [("input".toList, .text "a.csv".toList)]),
      ("tokenize".toList, object [("output".toList, .text "b".toList)])])
      (object [("convert".toList, .null)])).under? ["tokenize".toList, "output".toList] =
        some (.text "b".toList) := by
  have hsorted : (object [("convert".toList, .null)]).Sorted :=
    sorted_object_iff.mpr ⟨List.pairwise_singleton _ _, List.forall_mem_singleton.mpr .null⟩
  refine ⟨hsorted, (merge_leafwise _ hsorted _ []).2.1 ?_,
    ((merge_leafwise _ hsorted _ []).2.2.2.2.1 rfl ?_).trans rfl⟩
  · exact ⟨["convert".toList], .null, ⟨["input".toList], rfl⟩, by decide, rfl, not_isObject_null⟩
  · rintro front value ⟨rest, hrest⟩ hvalue
    -- Only the whole document lies on the way.
    cases front with
    | nil => exact ⟨_, (Option.some.inj hvalue).symm⟩
    | cons key front =>
      obtain rfl : key = "tokenize".toList := (List.cons.inj hrest).1
      exact absurd hvalue (Option.some_ne_none value).symm

end Document

end ChanceDeck
