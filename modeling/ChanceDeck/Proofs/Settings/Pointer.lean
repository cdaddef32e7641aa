import ChanceDeck.Proofs.Settings.Document
import ChanceDeck.Proofs.Text.Decimal
import ChanceDeck.Settings.Pointer

/-!
# Pointers and the leaves they name

Escaping a key is undone by unescaping (`unescape_escape`), and an escaped key holds no slash, so
the pointer of a path spells that path alone (`ofPointer?_pointer`). One pointer covers another
exactly if its path is the beginning of the other's (`covers_pointer_iff`).

The leaves of a document are the ends of the paths through its keys and positions
(`mem_leaves_iff`), and in a document in order such a path leads to its leaf alone
(`HasLeaf.follow?`).
-/

set_option autoImplicit false
set_option relaxedAutoImplicit false

namespace ChanceDeck

namespace Path

/-! ### Escaped keys -/

theorem unescape_cons {c : Char} (h : c ≠ '~') (rest : Text) :
    unescape (c :: rest) = c :: unescape rest := by
  rw [unescape]
  · rintro _ rfl
    exact absurd rfl h
  · rintro _ rfl
    exact absurd rfl h

theorem unescape_escape (key : Text) : unescape (escape key) = key := by
  induction key with
  | nil => rfl
  | cons c rest ih =>
    unfold escape at ih ⊢
    rw [List.flatMap_cons, escapeChar]
    split_ifs with htilde hslash
    · rw [htilde]
      exact congrArg ('~' :: ·) ih
    · rw [hslash]
      exact congrArg ('/' :: ·) ih
    · rw [List.singleton_append, unescape_cons htilde, ih]

theorem slash_not_mem_escape (key : Text) : '/' ∉ escape key := by
  intro hmem
  obtain ⟨c, -, hc⟩ := List.mem_flatMap.mp hmem
  rw [escapeChar] at hc
  split_ifs at hc with htilde hslash
  · simp at hc
  · simp at hc
  · exact hslash (List.mem_singleton.mp hc).symm

/-! ### The path of a pointer -/

variable {key : Text} {path above below : Path}

/-- The keys of a path, each after a slash. -/
def spelled (path : Path) : Text :=
  path.flatMap fun key ↦ '/' :: escape key

theorem pointer_eq_spelled (h : path ≠ []) : path.pointer = spelled path :=
  if_neg h

theorem spelled_cons (key : Text) (rest : Path) :
    spelled (key :: rest) = '/' :: (escape key ++ spelled rest) :=
  rfl

theorem spelled_append (above below : Path) :
    spelled (above ++ below) = spelled above ++ spelled below :=
  List.flatMap_append

theorem splitOn_spelled (key : Text) (rest : Path) :
    (escape key ++ spelled rest).splitOn '/' = (key :: rest).map escape := by
  induction rest generalizing key with
  | nil =>
    rw [spelled, List.flatMap_nil, List.append_nil,
      List.splitOn_eq_singleton (slash_not_mem_escape key)]
    rfl
  | cons next rest ih =>
    rw [spelled_cons, List.splitOn_append_cons_self_of_not_mem (slash_not_mem_escape key), ih]
    rfl

theorem map_unescape_map_escape (path : Path) : (path.map escape).map unescape = path := by
  rw [List.map_map]
  exact List.map_id'' unescape_escape path

/-- The path of keys after slashes, whatever follows them behind one more slash. -/
theorem ofPointer?_spelled_append (key : Text) (rest : Path) (text : Text) :
    ofPointer? (spelled (key :: rest) ++ '/' :: text) =
      some (key :: rest ++ (text.splitOn '/').map unescape) := by
  rw [spelled_cons, List.cons_append, ofPointer?, List.splitOn_append_cons_self, splitOn_spelled,
    List.map_append, map_unescape_map_escape]

theorem ofPointer?_pointer (h : path ≠ []) : ofPointer? path.pointer = some path := by
  cases path with
  | nil => exact absurd rfl h
  | cons key rest =>
    rw [pointer_eq_spelled h, spelled_cons, ofPointer?, splitOn_spelled, map_unescape_map_escape]

theorem pointer_injective (habove : above ≠ []) (hbelow : below ≠ [])
    (h : above.pointer = below.pointer) : above = below := by
  have habove := ofPointer?_pointer habove
  rw [h, ofPointer?_pointer hbelow] at habove
  exact (Option.some.inj habove).symm

/-- A lone slash stands for the whole document and for a key without characters. -/
theorem pointer_eq_slash_iff : path.pointer = ['/'] ↔ path = [] ∨ path = [[]] := by
  constructor
  · intro h
    by_cases hpath : path = []
    · exact Or.inl hpath
    · exact Or.inr (pointer_injective hpath (List.cons_ne_nil _ _) h)
  · rintro (rfl | rfl) <;> rfl

/-! ### Pointers above pointers -/

theorem covers_iff {pointer text : Text} : Pointer.covers pointer text = true ↔
    text = pointer ∨ ∃ rest, text = pointer ++ '/' :: rest := by
  rw [Pointer.covers]
  constructor
  · intro h
    split at h
    · exact absurd h Bool.false_ne_true
    · rename_i hstrip
      rw [Text.eq_append_of_strip? hstrip, List.append_nil]
      exact Or.inl rfl
    · rename_i c rest hstrip
      obtain rfl : c = '/' := of_decide_eq_true h
      exact Or.inr ⟨rest, Text.eq_append_of_strip? hstrip⟩
  · rintro (rfl | ⟨rest, rfl⟩)
    · have hstrip := Text.strip?_append text []
      rw [List.append_nil] at hstrip
      rw [hstrip]
    · rw [Text.strip?_append]
      exact decide_eq_true rfl

theorem covers_pointer_iff (habove : above ≠ []) (hbelow : below ≠ []) :
    Pointer.covers above.pointer below.pointer = true ↔ above <+: below := by
  rw [covers_iff]
  constructor
  · rintro (hsame | ⟨rest, hrest⟩)
    · exact (pointer_injective hbelow habove hsame).symm ▸ List.prefix_rfl
    · obtain ⟨key, above, rfl⟩ := List.exists_cons_of_ne_nil habove
      have hread := ofPointer?_pointer hbelow
      rw [hrest, pointer_eq_spelled habove, ofPointer?_spelled_append] at hread
      exact ⟨_, Option.some.inj hread⟩
  · rintro ⟨rest, rfl⟩
    rw [pointer_eq_spelled hbelow, pointer_eq_spelled habove, spelled_append]
    cases rest with
    | nil => exact Or.inl (List.append_nil _)
    | cons key rest => exact Or.inr ⟨_, rfl⟩

end Path

namespace Document

/-! ### Leaves -/

variable {key : Text} {path front : Path} {document value : Document}
  {entries : List (Text × Document)} {items : List Document}

/-- A leaf seen from further above. -/
def beneath (front : Path) (leaf : Path × Document) : Path × Document :=
  (front ++ leaf.1, leaf.2)

theorem map_beneath_beneath (front rest : Path) (found : List (Path × Document)) :
    (found.map (beneath rest)).map (beneath front) = found.map (beneath (front ++ rest)) := by
  rw [List.map_map]
  refine List.map_congr_left fun leaf _ ↦ ?_
  simp [beneath]

mutual

/-- The leaves of a document at the end of a path are its own leaves, seen from further above. -/
theorem leaves_eq_map (front : Path) : (document : Document) →
    leaves front document = (leaves [] document).map (beneath front)
  | .list (item :: rest) => by
    rw [leaves, leaves, List.map_append, leaves_eq_map _ item, leaves_eq_map ([] ++ _) item,
      itemLeaves_eq_map front, map_beneath_beneath, List.nil_append]
  | .object ((key, value) :: rest) => by
    rw [leaves, leaves, List.map_append, leaves_eq_map _ value, leaves_eq_map ([] ++ _) value,
      entryLeaves_eq_map front, map_beneath_beneath, List.nil_append]
  | .null => by simp [leaves, beneath]
  | .boolean _ => by simp [leaves, beneath]
  | .integer _ => by simp [leaves, beneath]
  | .float _ => by simp [leaves, beneath]
  | .text _ => by simp [leaves, beneath]
  | .list [] => by simp [leaves, beneath]
  | .object [] => by simp [leaves, beneath]

theorem itemLeaves_eq_map (front : Path) (position : Nat) : (items : List Document) →
    itemLeaves front position items = (itemLeaves [] position items).map (beneath front)
  | [] => rfl
  | item :: rest => by
    rw [itemLeaves, itemLeaves, List.map_append, leaves_eq_map _ item, leaves_eq_map ([] ++ _) item,
      itemLeaves_eq_map front, map_beneath_beneath, List.nil_append]

theorem entryLeaves_eq_map (front : Path) : (entries : List (Text × Document)) →
    entryLeaves front entries = (entryLeaves [] entries).map (beneath front)
  | [] => rfl
  | (key, value) :: rest => by
    rw [entryLeaves, entryLeaves, List.map_append, leaves_eq_map _ value,
      leaves_eq_map ([] ++ _) value, entryLeaves_eq_map front, map_beneath_beneath, List.nil_append]

end

theorem mem_entryLeaves_iff {leaf : Path × Document} : leaf ∈ entryLeaves [] entries ↔
    ∃ entry ∈ entries, ∃ below ∈ leaves [] entry.2, beneath [entry.1] below = leaf := by
  induction entries with
  | nil => simp [entryLeaves]
  | cons entry rest ih =>
    obtain ⟨key, value⟩ := entry
    rw [entryLeaves, leaves_eq_map ([] ++ [key]), List.mem_append, ih, List.mem_map,
      List.nil_append, List.exists_mem_cons_iff]

theorem mem_itemLeaves_iff {leaf : Path × Document} {position : Nat} :
    leaf ∈ itemLeaves [] position items ↔ ∃ i item, items[i]? = some item ∧
      ∃ below ∈ leaves [] item, beneath [Decimal.natural (position + i)] below = leaf := by
  induction items generalizing position with
  | nil => simp [itemLeaves]
  | cons item rest ih =>
    rw [itemLeaves, leaves_eq_map ([] ++ _), List.mem_append, ih, List.mem_map, List.nil_append]
    constructor
    · rintro (⟨below, hbelow, rfl⟩ | ⟨i, found, hfound, below, hbelow, rfl⟩)
      · exact ⟨0, item, rfl, below, hbelow, rfl⟩
      · exact ⟨i + 1, found, hfound, below, hbelow, by rw [Nat.add_right_comm, Nat.add_assoc]⟩
    · rintro ⟨i, found, hfound, below, hbelow, rfl⟩
      cases i with
      | zero =>
        obtain rfl : item = found := Option.some.inj hfound
        exact Or.inl ⟨below, hbelow, rfl⟩
      | succ i =>
        exact Or.inr ⟨i, found, hfound, below, hbelow, by rw [Nat.add_right_comm, Nat.add_assoc]⟩

/-- Whether a document holds no others. -/
def IsLeaf (document : Document) : Prop :=
  document.isScalar = true ∨ document.setsNothing = true

/-- A path leads through keys and positions to a value that holds no others. -/
inductive HasLeaf : Document → Path → Document → Prop where
  | here {document : Document} : document.IsLeaf → HasLeaf document [] document
  | key {entries : List (Text × Document)} {key : Text} {found value : Document} {rest : Path} :
      (key, found) ∈ entries → HasLeaf found rest value →
      HasLeaf (.object entries) (key :: rest) value
  | position {items : List Document} {i : Nat} {found value : Document} {rest : Path} :
      items[i]? = some found → HasLeaf found rest value →
      HasLeaf (.list items) (Decimal.natural i :: rest) value

/-- What a document holds, one level down. -/
theorem mem_leaves_cases : (document : Document) → ∀ leaf ∈ leaves [] document,
    (leaf = ([], document) ∧ document.IsLeaf) ∨
    (∃ entries, document = .object entries ∧
      ∃ entry ∈ entries, ∃ below ∈ leaves [] entry.2, beneath [entry.1] below = leaf) ∨
    ∃ items, document = .list items ∧ ∃ i item, items[i]? = some item ∧
      ∃ below ∈ leaves [] item, beneath [Decimal.natural i] below = leaf
  | .null, _, h => Or.inl ⟨List.mem_singleton.mp h, Or.inr rfl⟩
  | .boolean _, _, h => Or.inl ⟨List.mem_singleton.mp h, Or.inl rfl⟩
  | .integer _, _, h => Or.inl ⟨List.mem_singleton.mp h, Or.inl rfl⟩
  | .float _, _, h => Or.inl ⟨List.mem_singleton.mp h, Or.inl rfl⟩
  | .text _, _, h => Or.inl ⟨List.mem_singleton.mp h, Or.inl rfl⟩
  | .list [], _, h => Or.inl ⟨List.mem_singleton.mp h, Or.inr rfl⟩
  | .object [], _, h => Or.inl ⟨List.mem_singleton.mp h, Or.inr rfl⟩
  | .object (_ :: _), _, h => Or.inr (Or.inl ⟨_, rfl, mem_entryLeaves_iff.mp h⟩)
  | .list (_ :: _), _, h => by
    have hitems := mem_itemLeaves_iff.mp (show _ ∈ itemLeaves [] 0 (_ :: _) from h)
    simp only [Nat.zero_add] at hitems
    exact Or.inr (Or.inr ⟨_, rfl, hitems⟩)

theorem leaves_of_isLeaf : (document : Document) → document.IsLeaf →
    leaves [] document = [([], document)]
  | .null, _ => rfl
  | .boolean _, _ => rfl
  | .integer _, _ => rfl
  | .float _, _ => rfl
  | .text _, _ => rfl
  | .list [], _ => rfl
  | .object [], _ => rfl
  | .list (_ :: _), h => absurd h (by simp [IsLeaf, isScalar, setsNothing])
  | .object (_ :: _), h => absurd h (by simp [IsLeaf, isScalar, setsNothing])

theorem hasLeaf_of_mem_leaves (h : (path, value) ∈ leaves [] document) :
    HasLeaf document path value := by
  induction path generalizing document with
  | nil =>
    rcases mem_leaves_cases document _ h with ⟨hleaf, hends⟩ |
      ⟨entries, -, entry, -, below, -, hleaf⟩ | ⟨items, -, i, item, -, below, -, hleaf⟩
    · obtain rfl : value = document := congrArg Prod.snd hleaf
      exact .here hends
    · exact absurd (congrArg Prod.fst hleaf) (List.cons_ne_nil _ _)
    · exact absurd (congrArg Prod.fst hleaf) (List.cons_ne_nil _ _)
  | cons key rest ih =>
    rcases mem_leaves_cases document _ h with ⟨hleaf, -⟩ |
      ⟨entries, rfl, ⟨other, found⟩, hentry, ⟨below, last⟩, hbelow, hleaf⟩ |
      ⟨items, rfl, i, item, hitem, ⟨below, last⟩, hbelow, hleaf⟩
    · exact absurd (congrArg Prod.fst hleaf) (List.cons_ne_nil _ _)
    · obtain ⟨⟨rfl, rfl⟩, rfl⟩ : (other = key ∧ below = rest) ∧ last = value := by
        simpa [beneath] using hleaf
      exact .key hentry (ih hbelow)
    · obtain ⟨⟨rfl, rfl⟩, rfl⟩ : (Decimal.natural i = key ∧ below = rest) ∧ last = value := by
        simpa [beneath] using hleaf
      exact .position hitem (ih hbelow)

theorem HasLeaf.mem_leaves (h : HasLeaf document path value) :
    (path, value) ∈ leaves [] document := by
  induction h with
  | here hends => rw [leaves_of_isLeaf _ hends, List.mem_singleton]
  | @key entries key found value rest hentry _ ih =>
    have hmem := mem_entryLeaves_iff.mpr ⟨_, hentry, _, ih, rfl⟩
    cases entries with
    | nil => exact absurd hentry List.not_mem_nil
    | cons => exact hmem
  | @position items i found value rest hitem _ ih =>
    have hmem : (Decimal.natural (0 + i) :: rest, value) ∈ itemLeaves [] 0 items :=
      mem_itemLeaves_iff.mpr ⟨i, _, hitem, _, ih, rfl⟩
    rw [Nat.zero_add] at hmem
    cases items with
    | nil => simp at hitem
    | cons => exact hmem

/-- The leaves of a document are the ends of its paths. -/
theorem mem_leaves_iff : (path, value) ∈ leaves [] document ↔ HasLeaf document path value :=
  ⟨hasLeaf_of_mem_leaves, HasLeaf.mem_leaves⟩

/-! ### Following the path of a leaf -/

theorem item?_natural (position i : Nat) :
    item? (Decimal.natural (position + i)) position items = items[i]? := by
  induction items generalizing position i with
  | nil => rfl
  | cons item rest ih =>
    rw [item?]
    cases i with
    | zero => rw [Nat.add_zero, if_pos rfl, List.getElem?_cons_zero]
    | succ i =>
      have hne : Decimal.natural (position + (i + 1)) ≠ Decimal.natural position := by
        intro h
        have := Decimal.natural_injective h
        omega
      rw [if_neg hne, List.getElem?_cons_succ, ← ih (position + 1) i, Nat.add_right_comm,
        Nat.add_assoc]

/-- In a document in order the path of a leaf leads to that leaf. -/
theorem HasLeaf.follow? (hsorted : document.Sorted) (h : HasLeaf document path value) :
    Document.follow? path document = some value := by
  induction h with
  | here => rfl
  | key hentry _ ih =>
    obtain ⟨hkeys, hvalues⟩ := sorted_object_iff.mp hsorted
    rw [Document.follow?, (get?_eq_some_iff hkeys).mpr hentry, Option.bind_some,
      ih (hvalues _ hentry)]
  | @position items i found value rest hitem _ ih =>
    have hfound : item? (Decimal.natural (0 + i)) 0 items = items[i]? := item?_natural 0 i
    rw [Nat.zero_add] at hfound
    rw [Document.follow?, hfound, hitem, Option.bind_some,
      ih (sorted_list_iff.mp hsorted _ (List.mem_of_getElem? hitem))]

theorem hasLeaf_nil_iff : HasLeaf document [] value ↔
    document = value ∧ document.IsLeaf := by
  constructor
  · intro h
    generalize hpath : ([] : Path) = path at h
    cases h with
    | here hends => exact ⟨rfl, hends⟩
    | key => simp at hpath
    | position => simp at hpath
  · rintro ⟨rfl, hends⟩
    exact .here hends

theorem hasLeaf_cons_iff : HasLeaf document (key :: path) value ↔
    (∃ entries found, document = .object entries ∧ (key, found) ∈ entries ∧
      HasLeaf found path value) ∨
    ∃ items i found, document = .list items ∧ items[i]? = some found ∧ Decimal.natural i = key ∧
      HasLeaf found path value := by
  constructor
  · intro h
    generalize hwhole : key :: path = whole at h
    cases h with
    | here => simp at hwhole
    | key hentry hbelow =>
      obtain ⟨rfl, rfl⟩ := List.cons.inj hwhole
      exact Or.inl ⟨_, _, rfl, hentry, hbelow⟩
    | position hitem hbelow =>
      obtain ⟨rfl, rfl⟩ := List.cons.inj hwhole
      exact Or.inr ⟨_, _, _, rfl, hitem, rfl, hbelow⟩
  · rintro (⟨entries, found, rfl, hentry, hbelow⟩ | ⟨items, i, found, rfl, hitem, rfl, hbelow⟩)
    · exact .key hentry hbelow
    · exact .position hitem hbelow

/-- A path that begins with a key that spells no position begins with an entry. -/
theorem HasLeaf.exists_field? (hsorted : document.Sorted) (hkey : ∀ i, Decimal.natural i ≠ key)
    (h : HasLeaf document (key :: path) value) :
    ∃ found, document.field? key = some found ∧ HasLeaf found path value := by
  rcases hasLeaf_cons_iff.mp h with ⟨entries, found, rfl, hentry, hbelow⟩ |
    ⟨_, i, _, -, -, hposition, -⟩
  · exact ⟨found, (get?_eq_some_iff (sorted_object_iff.mp hsorted).1).mpr hentry, hbelow⟩
  · exact absurd hposition (hkey i)

theorem HasLeaf.exists_getElem? {i : Nat}
    (h : HasLeaf (.list items) (Decimal.natural i :: path) value) :
    ∃ item, items[i]? = some item ∧ HasLeaf item path value := by
  rcases hasLeaf_cons_iff.mp h with ⟨_, _, hkind, -⟩ | ⟨others, j, item, hlist, hitem, hj, hbelow⟩
  · exact Document.noConfusion hkind
  · obtain rfl := list.inj hlist
    obtain rfl := Decimal.natural_injective hj
    exact ⟨item, hitem, hbelow⟩

/-- A document with something below it is not empty. -/
theorem HasLeaf.setsNothing_eq_false (h : HasLeaf document (key :: path) value) :
    document.setsNothing = false := by
  rcases hasLeaf_cons_iff.mp h with ⟨entries, found, rfl, hentry, -⟩ |
    ⟨items, i, found, rfl, hitem, -, -⟩
  · cases entries with
    | nil => exact absurd hentry List.not_mem_nil
    | cons => rfl
  · cases items with
    | nil => simp at hitem
    | cons => rfl

theorem IsLeaf.setsNothing_eq (h : document.IsLeaf) :
    document.setsNothing = !document.isScalar := by
  cases document <;> simp_all [IsLeaf, isScalar, setsNothing]

/-- A leaf is a scalar or sets nothing. -/
theorem HasLeaf.isLeaf (h : HasLeaf document path value) : value.IsLeaf := by
  induction h with
  | here hends => exact hends
  | key _ _ ih => exact ih
  | position _ _ ih => exact ih

end Document

end ChanceDeck
