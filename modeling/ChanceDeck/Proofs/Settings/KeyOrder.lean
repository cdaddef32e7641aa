import ChanceDeck.Proofs.Settings.Canonical
import ChanceDeck.Proofs.Settings.Layers

/-!
# The order of keys

Two documents in order are equal if they say the same, objects being finite maps from their keys
(`Document.equivalent_iff`). The canonical form tells a document, so that canonical forms are equal
exactly if documents say the same (`Settings.canonical_eq_iff_equivalent`).

What a mapping gives under a key is the last of its entries with that key
(`Document.get?_of_ofEntries`), so that layers whose keys are written in another order give the same
settings (`Settings.ofLayers_of_sameButForOrder`).
-/

set_option autoImplicit false
set_option relaxedAutoImplicit false

namespace ChanceDeck

namespace Document

variable {v w : Document}

/-! ### Documents that say the same -/

/-- Whether two documents are the same value: objects are finite maps from keys to values, and lists
have the same values in the same places. -/
inductive Equivalent : Document → Document → Prop where
  | null : Equivalent .null .null
  | boolean (value : Bool) : Equivalent (.boolean value) (.boolean value)
  | integer (value : Int) : Equivalent (.integer value) (.integer value)
  | float (value : Binary64) : Equivalent (.float value) (.float value)
  | text (value : Text) : Equivalent (.text value) (.text value)
  | list {items others : List Document} : items.length = others.length →
      (∀ (k : Nat) item other, items[k]? = some item → others[k]? = some other →
        Equivalent item other) →
      Equivalent (.list items) (.list others)
  | object {entries others : List (Text × Document)} :
      (∀ key, (get? key entries).isSome = (get? key others).isSome) →
      (∀ key value other, get? key entries = some value → get? key others = some other →
        Equivalent value other) →
      Equivalent (.object entries) (.object others)

theorem Equivalent.refl {v : Document} (h : v.Sorted) : v.Equivalent v := by
  induction h with
  | null => exact .null
  | boolean value => exact .boolean value
  | integer value => exact .integer value
  | float value => exact .float value
  | text value => exact .text value
  | list _ ih =>
    refine .list rfl fun k item other hitem hother ↦ ?_
    obtain rfl := Option.some.inj (hitem.symm.trans hother)
    exact ih item (List.mem_of_getElem? hitem)
  | object _ _ ih =>
    refine .object (fun _ ↦ rfl) fun key value other hvalue hother ↦ ?_
    obtain rfl := Option.some.inj (hvalue.symm.trans hother)
    exact ih (key, value) (mem_of_get? hvalue)

theorem Equivalent.eq (h : v.Equivalent w) (hv : v.Sorted) (hw : w.Sorted) : v = w := by
  induction h with
  | null => rfl
  | boolean value => rfl
  | integer value => rfl
  | float value => rfl
  | text value => rfl
  | @list items others hlength _ ih =>
    have hitems := sorted_list_iff.mp hv
    have hothers := sorted_list_iff.mp hw
    refine congrArg _ (List.ext_getElem hlength fun k hk hk' ↦ ?_)
    exact ih k _ _ (List.getElem?_eq_getElem hk) (List.getElem?_eq_getElem hk')
      (hitems _ (List.getElem_mem hk)) (hothers _ (List.getElem_mem hk'))
  | @object entries others hkeys _ ih =>
    refine congrArg _ (eq_of_get?_eq (sorted_object_iff.mp hv).1 (sorted_object_iff.mp hw).1
      fun key ↦ ?_)
    have hsome := hkeys key
    cases hvalue : get? key entries with
    | none =>
      rw [hvalue] at hsome
      exact (Option.isNone_iff_eq_none.mp (Option.isSome_eq_false_iff.mp hsome.symm)).symm
    | some value =>
      rw [hvalue] at hsome
      obtain ⟨other, hother⟩ := Option.isSome_iff_exists.mp hsome.symm
      rw [hother, ih key value other hvalue hother (hv.get? hvalue) (hw.get? hother)]

/-- Documents in order say the same only if they are equal. -/
theorem equivalent_iff (hv : v.Sorted) (hw : w.Sorted) : v.Equivalent w ↔ v = w := by
  constructor
  · intro h
    exact h.eq hv hw
  · rintro rfl
    exact .refl hv

/-! ### The entries of a mapping -/

variable {entries others : List (Yaml.Value × Yaml.Value)} {found members : List (Text × Document)}
  {text : Text}

/-- The entries whose keys have a given text. -/
def keyed (text : Text) (entries : List (Yaml.Value × Yaml.Value)) :
    List (Yaml.Value × Yaml.Value) :=
  entries.filter fun entry ↦ keyText entry.1 = .ok text

/-- The entries of a mapping can be put among others if each of them has a key and a value. -/
theorem exists_ofEntries_iff : (∃ members, ofEntries entries found = .ok members) ↔
    ∀ entry ∈ entries, (∃ text, keyText entry.1 = .ok text) ∧
      ∃ document, ofValue entry.2 = .ok document := by
  induction entries generalizing found with
  | nil => exact iff_of_true ⟨found, rfl⟩ (List.forall_mem_nil _)
  | cons entry rest ih =>
    obtain ⟨key, value⟩ := entry
    rw [List.forall_mem_cons]
    constructor
    · rintro ⟨members, h⟩
      obtain ⟨text, document, hkey, hvalue, hrest⟩ := ofEntries_cons_eq_ok_iff.mp h
      exact ⟨⟨⟨text, hkey⟩, ⟨document, hvalue⟩⟩, ih.mp ⟨members, hrest⟩⟩
    · rintro ⟨⟨⟨text, hkey⟩, ⟨document, hvalue⟩⟩, hrest⟩
      obtain ⟨members, hmembers⟩ := ih.mpr hrest
      exact ⟨members, ofEntries_cons_eq_ok_iff.mpr ⟨text, document, hkey, hvalue, hmembers⟩⟩

/-- Of the entries with one key the last counts. -/
theorem get?_of_ofEntries (h : ofEntries entries found = .ok members) : get? text members =
    match (keyed text entries).getLast? with
    | none => get? text found
    | some entry => (ofValue entry.2).toOption := by
  induction entries generalizing found with
  | nil =>
    obtain rfl : found = members := Except.ok.inj h
    rfl
  | cons entry rest ih =>
    obtain ⟨key, value⟩ := entry
    obtain ⟨spelled, document, hkey, hvalue, hrest⟩ := ofEntries_cons_eq_ok_iff.mp h
    rw [ih hrest]
    by_cases htext : spelled = text
    · subst htext
      have hcons : keyed spelled ((key, value) :: rest) = (key, value) :: keyed spelled rest :=
        List.filter_cons_of_pos (decide_eq_true hkey)
      rw [hcons, List.getLast?_cons]
      cases (keyed spelled rest).getLast? with
      | none =>
        rw [get?_put_self, Option.getD_none]
        exact (congrArg Except.toOption hvalue).symm
      | some last => rfl
    · have hother : ¬keyText key = .ok text := by
        rw [hkey]
        exact fun hsame ↦ htext (Except.ok.inj hsame)
      have hcons : keyed text ((key, value) :: rest) = keyed text rest :=
        List.filter_cons_of_neg (by simpa using hother)
      rw [hcons]
      cases (keyed text rest).getLast? with
      | none => exact get?_put_of_ne (Ne.symm htext) document found
      | some last => rfl

/-- Entries in another order give the same, as long as those with one key keep theirs. -/
theorem ofEntries_of_perm (hperm : entries.Perm others)
    (hkeys : ∀ text, keyed text entries = keyed text others)
    (h : ofEntries entries [] = .ok members) : ofEntries others [] = .ok members := by
  have hall := exists_ofEntries_iff.mp ⟨members, h⟩
  obtain ⟨found, hfound⟩ : ∃ found, ofEntries others [] = .ok found :=
    exists_ofEntries_iff.mpr fun entry hentry ↦ hall entry (hperm.mem_iff.mpr hentry)
  have hempty : Sorted (.object []) := .object List.Pairwise.nil (List.forall_mem_nil _)
  have hmembers := (sorted_object_iff.mp (sorted_ofEntries entries [] members hempty h)).1
  have hsorted := (sorted_object_iff.mp (sorted_ofEntries others [] found hempty hfound)).1
  rw [hfound, eq_of_get?_eq hsorted hmembers fun text ↦ ?_]
  rw [get?_of_ofEntries h, get?_of_ofEntries hfound, hkeys]

end Document

open Document

/-! ### Equal values -/

namespace Yaml.Value

mutual

/-- Whether two values are equal, the order of entries included. -/
def equal : Value → Value → Bool
  | .null, .null => true
  | .boolean a, .boolean b => a = b
  | .integer a, .integer b => a = b
  | .float a, .float b => a = b
  | .text a, .text b => a = b
  | .sequence a, .sequence b => equalItems a b
  | .mapping a, .mapping b => equalEntries a b
  | .tagged s a, .tagged t b => s = t && equal a b
  | _, _ => false

/-- Whether two lists have equal items. -/
def equalItems : List Value → List Value → Bool
  | [], [] => true
  | a :: as, b :: bs => equal a b && equalItems as bs
  | _, _ => false

/-- Whether two lists have equal entries. -/
def equalEntries : List (Value × Value) → List (Value × Value) → Bool
  | [], [] => true
  | (key, a) :: as, (other, b) :: bs => equal key other && equal a b && equalEntries as bs
  | _, _ => false

end

mutual

theorem equal_iff : (a b : Value) → (equal a b = true ↔ a = b)
  | .null, b => by cases b <;> simp [equal]
  | .boolean _, b => by cases b <;> simp [equal]
  | .integer _, b => by cases b <;> simp [equal]
  | .float _, b => by cases b <;> simp [equal]
  | .text _, b => by cases b <;> simp [equal]
  | .sequence items, b => by cases b <;> simp [equal, equalItems_iff items]
  | .mapping entries, b => by cases b <;> simp [equal, equalEntries_iff entries]
  | .tagged _ value, b => by cases b <;> simp [equal, equal_iff value]

theorem equalItems_iff : (a b : List Value) → (equalItems a b = true ↔ a = b)
  | [], b => by cases b <;> simp [equalItems]
  | item :: rest, b => by cases b <;> simp [equalItems, equal_iff item, equalItems_iff rest]

theorem equalEntries_iff : (a b : List (Value × Value)) → (equalEntries a b = true ↔ a = b)
  | [], b => by cases b <;> simp [equalEntries]
  | (_, _) :: _, [] => by simp [equalEntries]
  | (key, value) :: rest, (other, found) :: others => by
    simp [equalEntries, equal_iff key other, equal_iff value found, equalEntries_iff rest others]

end

instance : DecidableEq Value :=
  fun a b ↦ decidable_of_iff _ (equal_iff a b)

end Yaml.Value

/-! ### Values with keys in another order -/

/-- Whether two values differ only in the order in which keys are written. Entries whose keys have
the same text write one key several times, of which the last counts; these keep their order. -/
inductive Yaml.Value.Reordered : Yaml.Value → Yaml.Value → Prop where
  | refl (value : Yaml.Value) : Reordered value value
  | trans {first second third : Yaml.Value} : Reordered first second → Reordered second third →
      Reordered first third
  | mapping {entries others : List (Yaml.Value × Yaml.Value)} : entries.Perm others →
      (∀ text, keyed text entries = keyed text others) →
      Reordered (.mapping entries) (.mapping others)
  | entry {value other : Yaml.Value} (before : List (Yaml.Value × Yaml.Value)) (key : Yaml.Value)
      (after : List (Yaml.Value × Yaml.Value)) : Reordered value other →
      Reordered (.mapping (before ++ (key, value) :: after))
        (.mapping (before ++ (key, other) :: after))
  | item {value other : Yaml.Value} (before after : List Yaml.Value) : Reordered value other →
      Reordered (.sequence (before ++ value :: after)) (.sequence (before ++ other :: after))
  | tagged {value other : Yaml.Value} (tag : Text) : Reordered value other →
      Reordered (.tagged tag value) (.tagged tag other)

/-- Keys with different texts may be written in any order. -/
theorem Yaml.Value.Reordered.of_perm {entries others : List (Yaml.Value × Yaml.Value)}
    (hperm : entries.Perm others)
    (hkeys : entries.Pairwise fun a b ↦ keyText a.1 ≠ keyText b.1) :
    (Yaml.Value.mapping entries).Reordered (.mapping others) := by
  refine .mapping hperm fun text ↦ ?_
  have hfiltered : (keyed text entries).Perm (keyed text others) := hperm.filter _
  have hdistinct : (keyed text entries).Pairwise fun a b ↦ keyText a.1 ≠ keyText b.1 :=
    hkeys.filter _
  have htext : ∀ entry ∈ keyed text entries, keyText entry.1 = .ok text :=
    fun entry hentry ↦ of_decide_eq_true (List.mem_filter.mp hentry).2
  -- At most one entry has the key, so there is no order among them.
  rcases hlist : keyed text entries with _ | ⟨first, _ | ⟨second, rest⟩⟩
  · rw [hlist] at hfiltered
    exact hfiltered.nil_eq
  · rw [hlist] at hfiltered
    exact hfiltered.singleton_eq
  · rw [hlist] at hdistinct htext
    refine absurd ?_ ((List.pairwise_cons.mp hdistinct).1 second List.mem_cons_self)
    rw [htext first List.mem_cons_self, htext second (List.mem_cons_of_mem _ List.mem_cons_self)]

namespace Document

section Contexts

variable {value other : Yaml.Value}
  (h : ∀ document, ofValue value = .ok document → ofValue other = .ok document)

include h

theorem ofItems_of_item (before after : List Yaml.Value) {documents : List Document}
    (hitems : ofItems (before ++ value :: after) = .ok documents) :
    ofItems (before ++ other :: after) = .ok documents := by
  induction before generalizing documents with
  | nil =>
    obtain ⟨first, rest, hvalue, hrest, rfl⟩ := ofItems_cons_eq_ok_iff.mp hitems
    exact ofItems_cons_eq_ok_iff.mpr ⟨first, rest, h first hvalue, hrest, rfl⟩
  | cons item before ih =>
    obtain ⟨first, rest, hitem, hrest, rfl⟩ := ofItems_cons_eq_ok_iff.mp hitems
    exact ofItems_cons_eq_ok_iff.mpr ⟨first, rest, hitem, ih hrest, rfl⟩

theorem ofEntries_of_entry (before : List (Yaml.Value × Yaml.Value)) (key : Yaml.Value)
    (after : List (Yaml.Value × Yaml.Value)) {found members : List (Text × Document)}
    (hentries : ofEntries (before ++ (key, value) :: after) found = .ok members) :
    ofEntries (before ++ (key, other) :: after) found = .ok members := by
  induction before generalizing found with
  | nil =>
    obtain ⟨text, document, hkey, hvalue, hrest⟩ := ofEntries_cons_eq_ok_iff.mp hentries
    exact ofEntries_cons_eq_ok_iff.mpr ⟨text, document, hkey, h document hvalue, hrest⟩
  | cons entry before ih =>
    obtain ⟨text, document, hkey, hvalue, hrest⟩ := ofEntries_cons_eq_ok_iff.mp hentries
    exact ofEntries_cons_eq_ok_iff.mpr ⟨text, document, hkey, hvalue, ih hrest⟩

end Contexts

/-- The order of keys does not count in the document of a value. -/
theorem ofValue_of_reordered {value other : Yaml.Value} (h : value.Reordered other) :
    ∀ document, ofValue value = .ok document → ofValue other = .ok document := by
  induction h with
  | refl value => exact fun _ hvalue ↦ hvalue
  | trans _ _ ih ih' => exact fun document hvalue ↦ ih' document (ih document hvalue)
  | mapping hperm hkeys =>
    intro document hvalue
    obtain ⟨members, hmembers, rfl⟩ := Section.map_eq_ok_iff.mp hvalue
    exact Section.map_eq_ok_iff.mpr ⟨members, ofEntries_of_perm hperm hkeys hmembers, rfl⟩
  | entry before key after _ ih =>
    intro document hvalue
    obtain ⟨members, hmembers, rfl⟩ := Section.map_eq_ok_iff.mp hvalue
    exact Section.map_eq_ok_iff.mpr ⟨members, ofEntries_of_entry ih before key after hmembers, rfl⟩
  | item before after _ ih =>
    intro document hvalue
    obtain ⟨documents, hdocuments, rfl⟩ := Section.map_eq_ok_iff.mp hvalue
    exact Section.map_eq_ok_iff.mpr ⟨documents, ofItems_of_item ih before after hdocuments, rfl⟩
  | tagged tag _ ih =>
    intro document hvalue
    obtain ⟨found, hfound, rfl⟩ := Section.map_eq_ok_iff.mp hvalue
    exact Section.map_eq_ok_iff.mpr ⟨found, ih found hfound, rfl⟩

end Document

/-! ### Layers with keys in another order -/

namespace Settings

variable {text other : Text} {texts others : List Text} {document : Document}
  {documents : List Document} {first second : Settings}

/-- Whether two texts of layers differ, in what they mean, only in the order of keys. -/
def SameButForOrder (text other : Text) : Prop :=
  ∃ value found, Yaml.Value.ofText? text = some value ∧ Yaml.Value.ofText? other = some found ∧
    value.Reordered found

theorem layer_of_sameButForOrder (h : SameButForOrder text other)
    (hlayer : layer text = .ok document) : layer other = .ok document := by
  obtain ⟨value, found, hvalue, hfound, hreordered⟩ := h
  rw [layer, hvalue] at hlayer
  rw [layer, hfound]
  exact Section.mapError_eq_ok_iff.mpr
    (ofValue_of_reordered hreordered document (Section.mapError_eq_ok_iff.mp hlayer))

theorem layers_of_sameButForOrder (h : List.Forall₂ SameButForOrder texts others)
    (hlayers : layers texts = .ok documents) : layers others = .ok documents := by
  induction h generalizing documents with
  | nil => exact hlayers
  | cons hfirst _ ih =>
    obtain ⟨document, laters, htext, hrest, rfl⟩ := layers_cons_eq_ok_iff.mp hlayers
    exact layers_cons_eq_ok_iff.mpr
      ⟨document, laters, layer_of_sameButForOrder hfirst htext, ih hrest, rfl⟩

/-- Layers that differ only in the order of keys give the same settings. -/
theorem ofLayers_of_sameButForOrder (h : List.Forall₂ SameButForOrder texts others)
    (hloaded : ofLayers texts = .ok first) : ofLayers others = .ok first := by
  obtain ⟨documents, hdocuments, rfl⟩ := Section.map_eq_ok_iff.mp hloaded
  exact ofLayers_of_layers (layers_of_sameButForOrder h hdocuments)

/-- The canonical forms of settings without floats are equal exactly if their documents say the
same, and then a conversion and a tokenization have the same settings. Documents that say the same
have one digest, and so have layers in which keys are written in another order. -/
theorem canonical_eq_iff_equivalent (hfirst : ofLayers texts = .ok first)
    (hsecond : ofLayers others = .ok second) :
    (first.document.FloatFree → second.document.FloatFree →
      (first.canonical = second.canonical ↔ first.document.Equivalent second.document) ∧
      (first.canonical = second.canonical →
        first.convert = second.convert ∧ first.tokenize = second.tokenize)) ∧
    (first.document.Equivalent second.document → first.digest = second.digest) ∧
    ∀ reordered, List.Forall₂ SameButForOrder texts reordered →
      ∃ third, ofLayers reordered = .ok third ∧ third.canonical = first.canonical ∧
        third.digest = first.digest := by
  have hsame := equivalent_iff (sorted_of_ofLayers hfirst) (sorted_of_ofLayers hsecond)
  refine ⟨fun hfree hfree' ↦ ?_, fun hequivalent ↦ ?_, fun reordered hreordered ↦ ?_⟩
  · have htell := hfree.canonical_inj hfree'
    refine ⟨htell.trans hsame.symm, fun hcanonical ↦ ?_⟩
    have hdocument := htell.mp hcanonical
    rw [convert, tokenize, hdocument]
    exact ⟨rfl, rfl⟩
  · rw [digest, canonical, hsame.mp hequivalent]
    rfl
  · exact ⟨first, ofLayers_of_sameButForOrder hreordered hfirst, rfl, rfl⟩

/-- Two keys of a section in either order. -/
theorem canonical_eq_iff_equivalent_swapped :
    ∃ text other first second,
      text = "convert:\n  start_line: 100\n  output: a.txt\n".toList ∧
      other = "convert:\n  output: a.txt\n  start_line: 100\n".toList ∧
      ofLayers [text] = .ok first ∧ ofLayers [other] = .ok second ∧
      first.document.FloatFree ∧ second.document.FloatFree ∧
      first.document.Equivalent second.document ∧ first.canonical = second.canonical ∧
      first.convert = second.convert ∧ first.tokenize = second.tokenize ∧
      first.digest = second.digest ∧ List.Forall₂ SameButForOrder [text] [other] ∧
      ∃ third, ofLayers [other] = .ok third ∧ third.canonical = first.canonical ∧
        third.digest = first.digest := by
  let text := "convert:\n  start_line: 100\n  output: a.txt\n".toList
  let other := "convert:\n  output: a.txt\n  start_line: 100\n".toList
  let startLine : Yaml.Value × Yaml.Value := (.text "start_line".toList, .integer 100)
  let output : Yaml.Value × Yaml.Value := (.text "output".toList, .text "a.txt".toList)
  let document := object [("convert".toList,
    object [("output".toList, .text "a.txt".toList), ("start_line".toList, .integer 100)])]
  have htext : layers [text] = .ok [document] := by decide +kernel
  have hother : layers [other] = .ok [document] := by decide +kernel
  have hfirst : ofLayers [text] = .ok ⟨document⟩ := ofLayers_of_layers htext
  have hsecond : ofLayers [other] = .ok ⟨document⟩ := ofLayers_of_layers hother
  have hfree : document.FloatFree := by
    refine .object (List.forall_mem_singleton.mpr (.object ?_))
    exact List.forall_mem_cons.mpr ⟨.text _, List.forall_mem_singleton.mpr (.integer _)⟩
  have hequivalent : document.Equivalent document := .refl (sorted_of_ofLayers hfirst)
  have hswapped :
      (Yaml.Value.mapping [startLine, output]).Reordered (.mapping [output, startLine]) :=
    .of_perm (.swap _ _ _) (by decide)
  have hreordered : SameButForOrder text other :=
    ⟨.mapping [(.text "convert".toList, .mapping [startLine, output])],
      .mapping [(.text "convert".toList, .mapping [output, startLine])], by decide +kernel,
      by decide +kernel, .entry [] (.text "convert".toList) [] hswapped⟩
  obtain ⟨htell, hdigest, horder⟩ := canonical_eq_iff_equivalent hfirst hsecond
  obtain ⟨hcanonical, hsettings⟩ := htell hfree hfree
  obtain ⟨hconvert, htokenize⟩ := hsettings (hcanonical.mpr hequivalent)
  exact ⟨text, other, _, _, rfl, rfl, hfirst, hsecond, hfree, hfree, hequivalent,
    hcanonical.mpr hequivalent, hconvert, htokenize, hdigest hequivalent, .cons hreordered .nil,
    horder _ (.cons hreordered .nil)⟩

end Settings

end ChanceDeck
