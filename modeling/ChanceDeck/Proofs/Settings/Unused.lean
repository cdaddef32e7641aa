import ChanceDeck.Proofs.Settings.Pointer
import ChanceDeck.Settings.Section
import ChanceDeck.Settings.Unused

/-!
# The report of unused keys

A pointer counts as read exactly if the path of a consumed pointer is the beginning of its own
(`isRead_pointer_iff`), and the consumed pointers are those of the fields of the two sections
(`mem_consumed_iff`). The report names the leaves that are not read and are scalars, in order and
each once (`report_eq`). It names one more: a lone slash is the pointer of the whole document and of
a key without characters, so that a leaf under that key is reported even if it is null or empty
(`report_blankKey`).
-/

set_option autoImplicit false
set_option relaxedAutoImplicit false

namespace ChanceDeck.Unused

open Document

variable {root value : Document} {path : Path} {pointer text other : Text} {texts : List Text}

/-! ### Texts in order -/

theorem mem_insertOnce : other ∈ insertOnce text texts ↔ other = text ∨ other ∈ texts := by
  induction texts with
  | nil => simp [insertOnce]
  | cons first rest ih =>
    rw [insertOnce]
    split_ifs with hlt heq
    · exact List.mem_cons
    · rw [heq, List.mem_cons, or_iff_right_of_imp Or.inl]
    · rw [List.mem_cons, ih, List.mem_cons, or_left_comm]

theorem pairwise_insertOnce (h : texts.Pairwise (· < ·)) :
    (insertOnce text texts).Pairwise (· < ·) := by
  induction texts with
  | nil => exact List.pairwise_singleton _ _
  | cons first rest ih =>
    obtain ⟨hfirst, hrest⟩ := List.pairwise_cons.mp h
    rw [insertOnce]
    split_ifs with hlt heq
    · refine List.pairwise_cons.mpr ⟨fun other hother ↦ ?_, h⟩
      rcases List.mem_cons.mp hother with rfl | hother
      · exact hlt
      · exact lt_trans hlt (hfirst other hother)
    · exact h
    · have hgt : first < text := ((lt_trichotomy text first).resolve_left hlt).resolve_left heq
      refine List.pairwise_cons.mpr ⟨fun other hother ↦ ?_, ih hrest⟩
      rcases mem_insertOnce.mp hother with rfl | hother
      · exact hgt
      · exact hfirst other hother

theorem mem_foldl_insertOnce (found : List Text) : other ∈
    texts.foldl (fun found text ↦ insertOnce text found) found ↔ other ∈ texts ∨ other ∈ found := by
  induction texts generalizing found with
  | nil => simp
  | cons text rest ih =>
    rw [List.foldl_cons, ih, mem_insertOnce, List.mem_cons, or_left_comm, or_assoc]

theorem pairwise_foldl_insertOnce {found : List Text} (h : found.Pairwise (· < ·)) :
    (texts.foldl (fun found text ↦ insertOnce text found) found).Pairwise (· < ·) := by
  induction texts generalizing found with
  | nil => exact h
  | cons text rest ih => exact ih (pairwise_insertOnce h)

/-! ### What is read -/

/-- The paths of the fields of the sections. -/
def places : List Path :=
  ConvertSettings.fields.map (fun field ↦ ["convert".toList, field.key]) ++
    TokenizeSettings.fields.map fun field ↦ ["tokenize".toList, field.key]

theorem mem_consumed_iff : pointer ∈ consumed ↔ ∃ place ∈ places, place.pointer = pointer := by
  have hperm : consumed.Perm (places.map Path.pointer) := by decide
  rw [hperm.mem_iff, List.mem_map]

theorem pointer_mem_consumed_iff : path.pointer ∈ consumed ↔ path ∈ places := by
  rw [mem_consumed_iff]
  constructor
  · rintro ⟨place, hplace, hpointer⟩
    have hne : place ≠ [] := by
      rintro rfl
      exact absurd hplace (by decide)
    have hpath : path ≠ [] := by
      rintro rfl
      exact absurd (mem_consumed_iff.mpr ⟨place, hplace, hpointer⟩) (by decide)
    exact Path.pointer_injective hne hpath hpointer ▸ hplace
  · exact fun h ↦ ⟨path, h, rfl⟩

/-- A pointer is read exactly if a consumed pointer names the same place or one above it. -/
theorem isRead_pointer_iff :
    isRead path.pointer = true ↔ ∃ place : Path, place.pointer ∈ consumed ∧ place <+: path := by
  rw [isRead, List.any_eq_true]
  by_cases hpath : path = []
  · subst hpath
    refine iff_of_false (by decide) ?_
    rintro ⟨place, hplace, hprefix⟩
    rw [List.prefix_nil.mp hprefix] at hplace
    exact absurd hplace (by decide)
  · constructor
    · rintro ⟨pointer, hpointer, hcovers⟩
      obtain ⟨place, hplace, rfl⟩ := mem_consumed_iff.mp hpointer
      have hne : place ≠ [] := by
        rintro rfl
        exact absurd hplace (by decide)
      exact ⟨place, hpointer, (Path.covers_pointer_iff hne hpath).mp hcovers⟩
    · rintro ⟨place, hplace, hprefix⟩
      have hne : place ≠ [] := by
        rintro rfl
        exact absurd hplace (by decide)
      exact ⟨place.pointer, hplace, (Path.covers_pointer_iff hne hpath).mpr hprefix⟩

/-! ### What counts -/

/-- The pointer of a leaf counts if the leaf is a scalar, and always right under a key without
characters. -/
theorem counts_pointer_iff (hsorted : root.Sorted) (hleaf : HasLeaf root path value) :
    counts root path.pointer = true ↔ value.isScalar = true ∨ path = [[]] := by
  rw [counts, named?]
  by_cases hslash : path.pointer = ['/']
  · rw [if_pos hslash]
    rcases Path.pointer_eq_slash_iff.mp hslash with rfl | rfl
    · obtain ⟨rfl, hends⟩ := hasLeaf_nil_iff.mp hleaf
      simp [hends.setsNothing_eq]
    · simp [hleaf.setsNothing_eq_false]
  · have hne : path ≠ [] := fun h ↦ hslash (Path.pointer_eq_slash_iff.mpr (Or.inl h))
    have hne' : path ≠ [[]] := fun h ↦ hslash (Path.pointer_eq_slash_iff.mpr (Or.inr h))
    rw [if_neg hslash, Path.ofPointer?_pointer hne, Option.bind_some, hleaf.follow? hsorted]
    simp [hleaf.isLeaf.setsNothing_eq, hne']

/-! ### The report -/

theorem mem_pointers : pointer ∈ pointers root ↔
    (∃ leaf ∈ root.leaves [], leaf.1.pointer = pointer) ∧ isRead pointer = false ∧
      counts root pointer = true := by
  rw [pointers, mem_foldl_insertOnce, or_iff_left List.not_mem_nil, List.mem_filter, List.mem_map,
    Bool.and_eq_true_iff, Bool.not_eq_true']

/-- The pointer of a leaf is reported if no consumed place is at or above the leaf and the leaf is a
scalar or stands right under a key without characters. -/
theorem pointer_mem_pointers_iff (hsorted : root.Sorted) (hleaf : HasLeaf root path value) :
    path.pointer ∈ pointers root ↔
      (∀ place : Path, place.pointer ∈ consumed → ¬place <+: path) ∧
        (value.isScalar = true ∨ path = [[]]) := by
  rw [mem_pointers, and_iff_right ⟨(path, value), hleaf.mem_leaves, rfl⟩, Bool.eq_false_iff, ne_eq,
    isRead_pointer_iff, counts_pointer_iff hsorted hleaf]
  simp only [not_exists, not_and]

theorem mem_pointers_iff (hsorted : root.Sorted) :
    pointer ∈ pointers root ↔ ∃ leaf ∈ root.leaves [], leaf.1.pointer = pointer ∧
      (∀ place : Path, place.pointer ∈ consumed → ¬place <+: leaf.1) ∧
      (leaf.2.isScalar = true ∨ leaf.1 = [[]]) := by
  constructor
  · intro h
    obtain ⟨⟨leaf, hleaf, rfl⟩, -⟩ := mem_pointers.mp h
    exact ⟨leaf, hleaf, rfl, (pointer_mem_pointers_iff hsorted (mem_leaves_iff.mp hleaf)).mp h⟩
  · rintro ⟨leaf, hleaf, rfl, hcounts⟩
    exact (pointer_mem_pointers_iff hsorted (mem_leaves_iff.mp hleaf)).mpr hcounts

/-- The report lists, in order and each once, the pointers of the leaves that are scalars and
neither at nor below a consumed place, and of what stands right under a key without characters. The
strict check gives the same report if the list is empty, and refuses the document otherwise. -/
theorem report_eq (hsorted : root.Sorted) :
    ∃ unused, report .warn root = .ok ⟨consumed, unused⟩ ∧ unused.Pairwise (· < ·) ∧
      (∀ pointer, pointer ∈ unused ↔ ∃ leaf ∈ root.leaves [], leaf.1.pointer = pointer ∧
        (∀ place : Path, place.pointer ∈ consumed → ¬place <+: leaf.1) ∧
        (leaf.2.isScalar = true ∨ leaf.1 = [[]])) ∧
      report .fail root = if unused = [] then .ok ⟨consumed, unused⟩ else .error ⟨unused⟩ := by
  refine ⟨pointers root, rfl, pairwise_foldl_insertOnce List.Pairwise.nil,
    fun pointer ↦ mem_pointers_iff hsorted, ?_⟩
  by_cases hunused : pointers root = []
  · simp [report, hunused]
  · simp [report, hunused]

/-- A scalar below an escaped key and a list is reported, an empty list beside it is not, and the
strict check refuses the document. -/
theorem report_eq_escaped :
    (object [("a/b".toList, .list [.list [], .integer 2]),
      ("convert".toList, object [("input".toList, .null)])]).Sorted ∧
    ∃ unused, report .warn (object [("a/b".toList, .list [.list [], .integer 2]),
        ("convert".toList, object [("input".toList, .null)])]) = .ok ⟨consumed, unused⟩ ∧
      "/a~1b/1".toList ∈ unused ∧ "/a~1b/0".toList ∉ unused ∧
      report .fail (object [("a/b".toList, .list [.list [], .integer 2]),
        ("convert".toList, object [("input".toList, .null)])]) = .error ⟨unused⟩ := by
  have hsorted : (object [("a/b".toList, .list [.list [], .integer 2]),
      ("convert".toList, object [("input".toList, .null)])]).Sorted := by decide
  obtain ⟨unused, hwarn, -, hmem, hfail⟩ := report_eq hsorted
  have hreported : "/a~1b/1".toList ∈ unused := by
    refine (hmem _).mpr ⟨(["a/b".toList, "1".toList], .integer 2), ?_, by decide, ?_, Or.inl rfl⟩
    · exact List.mem_cons_of_mem _ List.mem_cons_self
    · intro place hplace
      have hplaces : ∀ place ∈ places, ¬place <+: ["a/b".toList, "1".toList] := by decide
      exact hplaces place (pointer_mem_consumed_iff.mp hplace)
  refine ⟨hsorted, unused, hwarn, hreported, fun hempty ↦ ?_, ?_⟩
  · obtain ⟨leaf, hleaf, hpointer, -, hcounts⟩ := (hmem _).mp hempty
    have hquiet : ∀ leaf ∈ (object [("a/b".toList, .list [.list [], .integer 2]),
        ("convert".toList, object [("input".toList, .null)])]).leaves [],
        leaf.1.pointer = "/a~1b/0".toList → ¬(leaf.2.isScalar = true ∨ leaf.1 = [[]]) := by decide
    exact hquiet leaf hleaf hpointer hcounts
  · rw [hfail, if_neg (List.ne_nil_of_mem hreported)]

/-- A leaf right under a key without characters is reported though it is null. -/
theorem report_blankKey :
    report .warn (object [([], .null)]) = .ok ⟨consumed, [['/']]⟩ ∧
    ¬∃ leaf ∈ (object [([], .null)]).leaves [],
      leaf.1.pointer = ['/'] ∧ leaf.2.isScalar = true := by
  decide

end ChanceDeck.Unused
