import ChanceDeck.Settings.Document
import Mathlib.Data.Char
import Mathlib.Data.List.Lex
import Mathlib.Data.List.Sort

/-!
# Documents and entries in order

Where keys strictly increase, looking a key up finds exactly the entry that is there
(`get?_eq_some_iff`). Setting a key keeps the order (`keysSorted_put`), and a document stays in
order when a value in order is set (`Sorted.put`). Whether a document is in order can be decided,
and so can whether two documents are the same (`same_iff`).
-/

set_option autoImplicit false
set_option relaxedAutoImplicit false

namespace ChanceDeck.Document

variable {α : Type} {key : Text} {value : α} {entry : Text × α} {entries : List (Text × α)}

/-! ### Looking keys up -/

theorem mem_of_get? (h : get? key entries = some value) : (key, value) ∈ entries := by
  induction entries with
  | nil => simp [get?] at h
  | cons entry rest ih =>
    rw [get?] at h
    split at h
    · rename_i hkey
      rw [hkey, ← Option.some.inj h]
      exact List.mem_cons_self
    · exact List.mem_cons_of_mem _ (ih h)

theorem get?_eq_none_iff : get? key entries = none ↔ ∀ entry ∈ entries, entry.1 ≠ key := by
  induction entries with
  | nil => simp [get?]
  | cons entry rest ih =>
    rw [get?, List.forall_mem_cons, ← ih]
    split
    · rename_i hkey
      simp [hkey]
    · rename_i hkey
      exact (and_iff_right fun h ↦ hkey h.symm).symm

theorem keysSorted_cons_iff :
    KeysSorted (entry :: entries) ↔ (∀ other ∈ entries, entry.1 < other.1) ∧ KeysSorted entries :=
  List.pairwise_cons

/-- A key before all keys is not among them. -/
theorem get?_eq_none_of_lt (h : ∀ entry ∈ entries, key < entry.1) : get? key entries = none :=
  get?_eq_none_iff.mpr fun entry hentry ↦ ne_of_gt (h entry hentry)

theorem get?_eq_some_iff (hsorted : KeysSorted entries) :
    get? key entries = some value ↔ (key, value) ∈ entries := by
  refine ⟨mem_of_get?, fun hmem ↦ ?_⟩
  induction entries with
  | nil => simp at hmem
  | cons entry rest ih =>
    obtain ⟨hfirst, hrest⟩ := keysSorted_cons_iff.mp hsorted
    rw [get?]
    rcases List.mem_cons.mp hmem with rfl | hmem
    · rw [if_pos rfl]
    · rw [if_neg (ne_of_gt (hfirst _ hmem)), ih hrest hmem]

/-- Entries in order are told by which they are. -/
theorem eq_of_mem_iff {others : List (Text × α)} (hentries : KeysSorted entries)
    (hothers : KeysSorted others) (h : ∀ entry, entry ∈ entries ↔ entry ∈ others) :
    entries = others := by
  have hirrefl : Std.Irrefl fun a b : Text × α ↦ a.1 < b.1 := ⟨fun a ↦ lt_irrefl a.1⟩
  have hantisymm : Std.Antisymm fun a b : Text × α ↦ a.1 < b.1 :=
    ⟨fun a b hab hba ↦ absurd hba (lt_asymm hab)⟩
  exact List.Pairwise.eq_of_mem_iff hentries hothers h

/-- Entries in order are told by what is found under each key. -/
theorem eq_of_get?_eq {others : List (Text × α)} (hentries : KeysSorted entries)
    (hothers : KeysSorted others) (h : ∀ key, get? key entries = get? key others) :
    entries = others := by
  refine eq_of_mem_iff hentries hothers fun entry ↦ ?_
  rw [← get?_eq_some_iff hentries, h, get?_eq_some_iff hothers]

/-! ### Setting keys -/

theorem mem_put {other : Text × α} (h : other ∈ put key value entries) :
    other = (key, value) ∨ other ∈ entries := by
  induction entries with
  | nil => simpa [put] using h
  | cons entry rest ih =>
    rw [put] at h
    split_ifs at h with hlt heq
    · exact List.mem_cons.mp h
    · exact (List.mem_cons.mp h).imp_right (List.mem_cons_of_mem _)
    · rcases List.mem_cons.mp h with rfl | h
      · exact Or.inr List.mem_cons_self
      · exact (ih h).imp_right (List.mem_cons_of_mem _)

theorem keysSorted_put (hsorted : KeysSorted entries) : KeysSorted (put key value entries) := by
  induction entries with
  | nil => simp [put, KeysSorted]
  | cons entry rest ih =>
    obtain ⟨hfirst, hrest⟩ := keysSorted_cons_iff.mp hsorted
    rw [put]
    split_ifs with hlt heq
    · refine keysSorted_cons_iff.mpr ⟨fun other hother ↦ ?_, hsorted⟩
      rcases List.mem_cons.mp hother with rfl | hother
      · exact hlt
      · exact lt_trans hlt (hfirst other hother)
    · exact keysSorted_cons_iff.mpr ⟨heq ▸ hfirst, hrest⟩
    · have hgt : entry.1 < key := (lt_trichotomy key entry.1).resolve_left hlt |>.resolve_left heq
      refine keysSorted_cons_iff.mpr ⟨fun other hother ↦ ?_, ih hrest⟩
      rcases mem_put hother with rfl | hother
      · exact hgt
      · exact hfirst other hother

/-! ### Kinds of documents -/

/-- Whether a document is an object. -/
def IsObject (document : Document) : Prop :=
  ∃ entries, document = .object entries

/-- Whether a document is neither null nor a list nor an object. -/
def isScalar : Document → Bool
  | .boolean _ => true
  | .integer _ => true
  | .float _ => true
  | .text _ => true
  | _ => false

/-- Whether a document is null or a scalar, so that it holds no other documents. -/
def IsPlain (document : Document) : Prop :=
  document = .null ∨ document.isScalar = true

@[simp] theorem isObject_object (entries : List (Text × Document)) : (object entries).IsObject :=
  ⟨entries, rfl⟩

theorem not_isObject_null : ¬null.IsObject := by
  rintro ⟨entries, h⟩
  exact Document.noConfusion h

theorem IsPlain.not_isObject {value : Document} (h : value.IsPlain) : ¬value.IsObject := by
  rintro ⟨entries, rfl⟩
  rcases h with h | h
  · exact Document.noConfusion h
  · exact absurd h Bool.false_ne_true

theorem isObject_of_field? {root found : Document} (h : root.field? key = some found) :
    root.IsObject := by
  cases root with
  | object entries => exact isObject_object entries
  | _ => simp [field?] at h

theorem field?_of_not_isObject {root : Document} (h : ¬root.IsObject) : root.field? key = none := by
  rw [Option.eq_none_iff_forall_ne_some]
  exact fun found hfound ↦ h (isObject_of_field? hfound)

/-! ### Documents in order -/

variable {document : Document} {members : List (Text × Document)} {items : List Document}

theorem sorted_object_iff :
    Sorted (.object members) ↔ KeysSorted members ∧ ∀ entry ∈ members, entry.2.Sorted := by
  constructor
  · rintro (_ | _ | _ | _ | _ | _ | ⟨hkeys, hvalues⟩)
    exact ⟨hkeys, hvalues⟩
  · rintro ⟨hkeys, hvalues⟩
    exact .object hkeys hvalues

theorem sorted_list_iff : Sorted (.list items) ↔ ∀ item ∈ items, item.Sorted := by
  constructor
  · rintro (_ | _ | _ | _ | _ | hitems | _)
    exact hitems
  · exact .list

instance (members : List (Text × Document)) : Decidable (KeysSorted members) :=
  inferInstanceAs (Decidable (members.Pairwise fun a b ↦ a.1 < b.1))

mutual

/-- Whether a document is in order, decided value by value. -/
def decideSorted : (document : Document) → Decidable document.Sorted
  | .null => isTrue .null
  | .boolean value => isTrue (.boolean value)
  | .integer value => isTrue (.integer value)
  | .float value => isTrue (.float value)
  | .text value => isTrue (.text value)
  | .list items =>
    have := decideItems items
    decidable_of_iff _ sorted_list_iff.symm
  | .object members =>
    have := decideEntries members
    decidable_of_iff _ sorted_object_iff.symm

/-- Whether all items are in order. -/
def decideItems : (items : List Document) → Decidable (∀ item ∈ items, item.Sorted)
  | [] => isTrue fun _ h ↦ absurd h List.not_mem_nil
  | item :: rest =>
    have := decideSorted item
    have := decideItems rest
    decidable_of_iff _ List.forall_mem_cons.symm

/-- Whether all values of entries are in order. -/
def decideEntries : (members : List (Text × Document)) →
    Decidable (∀ entry ∈ members, entry.2.Sorted)
  | [] => isTrue fun _ h ↦ absurd h List.not_mem_nil
  | (_, value) :: rest =>
    have := decideSorted value
    have := decideEntries rest
    decidable_of_iff _ List.forall_mem_cons.symm

end

instance : DecidablePred Sorted :=
  decideSorted

/-! ### Documents that are the same -/

mutual

/-- Whether two documents are the same. -/
def same : Document → Document → Bool
  | .null, .null => true
  | .boolean a, .boolean b => a = b
  | .integer a, .integer b => a = b
  | .float a, .float b => a = b
  | .text a, .text b => a = b
  | .list a, .list b => sameItems a b
  | .object a, .object b => sameEntries a b
  | _, _ => false

/-- Whether two lists have the same items. -/
def sameItems : List Document → List Document → Bool
  | [], [] => true
  | a :: as, b :: bs => same a b && sameItems as bs
  | _, _ => false

/-- Whether two lists have the same entries. -/
def sameEntries : List (Text × Document) → List (Text × Document) → Bool
  | [], [] => true
  | (key, a) :: as, (other, b) :: bs => key = other && same a b && sameEntries as bs
  | _, _ => false

end

mutual

theorem same_iff : (a b : Document) → (same a b = true ↔ a = b)
  | .null, b => by cases b <;> simp [same]
  | .boolean _, b => by cases b <;> simp [same]
  | .integer _, b => by cases b <;> simp [same]
  | .float _, b => by cases b <;> simp [same]
  | .text _, b => by cases b <;> simp [same]
  | .list items, b => by cases b <;> simp [same, sameItems_iff items]
  | .object members, b => by cases b <;> simp [same, sameEntries_iff members]

theorem sameItems_iff : (a b : List Document) → (sameItems a b = true ↔ a = b)
  | [], b => by cases b <;> simp [sameItems]
  | item :: rest, b => by cases b <;> simp [sameItems, same_iff item, sameItems_iff rest]

theorem sameEntries_iff : (a b : List (Text × Document)) → (sameEntries a b = true ↔ a = b)
  | [], b => by cases b <;> simp [sameEntries]
  | (_, _) :: _, [] => by simp [sameEntries]
  | (_, value) :: rest, (_, found) :: others => by
    simp [sameEntries, same_iff value found, sameEntries_iff rest others]

end

instance : DecidableEq Document :=
  fun a b ↦ decidable_of_iff _ (same_iff a b)

/-! ### Parts of documents in order -/

theorem Sorted.get? (hsorted : Sorted (.object members))
    (hget : Document.get? key members = some document) : document.Sorted :=
  (sorted_object_iff.mp hsorted).2 _ (mem_of_get? hget)

theorem Sorted.field? {root : Document} (hsorted : root.Sorted)
    (hfield : root.field? key = some document) : document.Sorted := by
  cases root with
  | object members => exact hsorted.get? hfield
  | _ => simp [Document.field?] at hfield

theorem Sorted.put (hsorted : Sorted (.object members)) (hdocument : document.Sorted) :
    Sorted (.object (Document.put key document members)) := by
  obtain ⟨hkeys, hvalues⟩ := sorted_object_iff.mp hsorted
  refine sorted_object_iff.mpr ⟨keysSorted_put hkeys, fun entry hentry ↦ ?_⟩
  rcases mem_put hentry with rfl | hentry
  · exact hdocument
  · exact hvalues entry hentry

end ChanceDeck.Document
