import ChanceDeck.Proofs.Basic.Linking

/-!
# Walks along the pointers of an image

The head of each line in an image holds the address of the next line. `walk` goes along these
addresses as an interpreter does: it reads a head, takes what stands between the head and the zero
byte before the next line, and jumps. It fails if a head lies past the end of the image, if an
address leads backwards or out of the image, or if no zero byte stands before the line it leads to.

An image is made of the numbered lines of its text, all of them and in order, each with a pointer to
the line after it, and at another address it differs in the pointers only. `walk_ofText` says so of
every image, and that the walk meets these lines exactly if the image ends below 2 ^ 32. The induction
is over the lines (`walk_layout`) and carries the bytes that were laid out before them, whose number
is both the offset in the image and the distance from the base address.

An image that ends at 2 ^ 32 or later is not refused if the end address begins again at zero. Its last
line then points to an address that lies before it. No walk ends past the highest address of sixteen
bits (`lt_of_walk`).
-/

set_option autoImplicit false
set_option relaxedAutoImplicit false

namespace ChanceDeck

namespace SourceLine

/-- The lines of a text that are read as numbered lines. -/
def numbered (text : Text) : List SourceLine :=
  ((Text.lines text).zipIdx 1).filterMap fun entry ↦ (ofText entry.2 entry.1).toOption.join

theorem eq_filterMap_of_ofLines {lines : List Text} {textLine : Nat} {sources : List SourceLine}
    (h : ofLines textLine lines = .ok sources) :
    sources =
      (lines.zipIdx textLine).filterMap fun entry ↦ (ofText entry.2 entry.1).toOption.join := by
  induction lines generalizing textLine sources with
  | nil => exact (Except.ok.inj h).symm
  | cons line rest ih =>
    unfold ofLines at h
    split at h
    · simp at h
    · rename_i source hsource
      split at h
      · simp at h
      · rename_i others hothers
        rw [← Except.ok.inj h, List.zipIdx_cons, List.filterMap_cons, hsource, ← ih hothers]
        cases source <;> rfl

end SourceLine

/-- A line met on a walk: the offset of its head in the image, the address in its head, and its
number and code. -/
structure Visit where
  offset : Nat
  next : UInt16
  line : ImageLine
  deriving DecidableEq, Repr

/-- The bytes of a line that was met. -/
def Visit.bytes (visit : Visit) : Bytes :=
  Image.stored visit.next visit.line

/-- The visit of the same line in the image at a base address that is so much higher. -/
def Visit.shift (visit : Visit) (distance : UInt16) : Visit :=
  { visit with next := visit.next + distance }

namespace Image

/-- The number of sixteen bits at an offset, low byte first. -/
def word? (image : Bytes) (offset : Nat) : Option UInt16 := do
  let low ← image[offset]?
  let high ← image[offset + 1]?
  return UInt16.ofNat (low.toNat + 256 * high.toNat)

/-- The lines met on a walk from an offset to the end of an image at a base address. -/
def walk (image : Bytes) (base : UInt16) (offset : Nat) : Option (List Visit) :=
  if offset = image.length then some []
  else
    match word? image offset, word? image (offset + 2) with
    | some next, some number =>
      -- an address below the base address leads to offset zero, which is never past a head
      let target := next.toNat - base.toNat
      if offset + 5 ≤ target ∧ target ≤ image.length ∧ image[target - 1]? = some 0 then
        let code := (image.drop (offset + 4)).take (target - 1 - (offset + 4))
        (walk image base target).map (⟨offset, next, ⟨number, code⟩⟩ :: ·)
      else none
    | _, _ => none
termination_by image.length - offset

/-- The visits of lines that are laid out one after another from an offset on. -/
def visits (base : UInt16) (offset : Nat) : List ImageLine → List Visit
  | [] => []
  | line :: rest =>
    let next := offset + width line
    ⟨offset, UInt16.ofNat (base.toNat + next), line⟩ :: visits base next rest

/-! ### Bytes of lines -/

/-- After the pointer, the bytes of a line are the same whatever the pointer is. -/
theorem getElem?_stored (next other : UInt16) (line : ImageLine) {position : Nat}
    (h : 2 ≤ position) : (stored next line)[position]? = (stored other line)[position]? := by
  have hrest (pointer : UInt16) : (stored pointer line)[position]? =
      (littleEndian line.number ++ (line.code ++ [0]))[position - 2]? := by
    rw [stored, List.append_assoc, List.append_assoc]
    exact List.getElem?_append_right h
  rw [hrest, hrest]

/-- A number of sixteen bits is put together again from its two bytes. -/
theorem low_add_high (n : UInt16) :
    UInt16.ofNat (n.toUInt8.toNat + 256 * (n >>> 8).toUInt8.toNat) = n := by
  have hlow : n.toUInt8.toNat = n.toNat % 256 := UInt16.toNat_toUInt8 n
  have hhigh : (n >>> 8).toUInt8.toNat = n.toNat / 256 % 256 := by
    rw [UInt16.toNat_toUInt8, UInt16.toNat_shiftRight, Nat.shiftRight_eq_div_pow]
    rfl
  have hn := n.toNat_lt
  rw [hlow, hhigh, show n.toNat % 256 + 256 * (n.toNat / 256 % 256) = n.toNat by omega,
    UInt16.ofNat_toNat]

/-- A number of sixteen bits is read back from its bytes, wherever they stand. -/
theorem word?_append (before rest : Bytes) (n : UInt16) :
    word? (before ++ (littleEndian n ++ rest)) before.length = some n := by
  have hlow : (before ++ (littleEndian n ++ rest))[before.length]? = some n.toUInt8 := by
    rw [List.getElem?_append_right (Nat.le_refl _), Nat.sub_self]
    rfl
  have hhigh : (before ++ (littleEndian n ++ rest))[before.length + 1]? =
      some (n >>> 8).toUInt8 := by
    rw [List.getElem?_append_right (Nat.le_add_right _ _), Nat.add_sub_cancel_left]
    rfl
  unfold word?
  rw [hlow, hhigh]
  show some (UInt16.ofNat _) = _
  rw [low_add_high]

/-! ### The walk along lines laid out -/

section Stored

variable (before rest : Bytes) (line : ImageLine)

theorem word?_stored (next : UInt16) :
    word? (before ++ (stored next line ++ rest)) before.length = some next := by
  unfold stored
  simp only [List.append_assoc]
  exact word?_append before _ next

theorem word?_stored_number (next : UInt16) :
    word? (before ++ (stored next line ++ rest)) (before.length + 2) = some line.number := by
  have hword := word?_append (before ++ littleEndian next) (line.code ++ [0] ++ rest) line.number
  rw [List.length_append, length_littleEndian] at hword
  simpa [stored] using hword

/-- After the head of a stored line stand its code and the zero byte. -/
theorem drop_stored (next : UInt16) :
    (before ++ (stored next line ++ rest)).drop (before.length + 4) = line.code ++ 0 :: rest := by
  have hhead : (before ++ littleEndian next ++ littleEndian line.number).length =
      before.length + 4 := by
    simp
  have hparts : before ++ (stored next line ++ rest) =
      before ++ littleEndian next ++ littleEndian line.number ++ (line.code ++ 0 :: rest) := by
    simp [stored]
  rw [hparts, ← hhead, List.drop_left]

/-- One jump: the head of a stored line leads past its code and its zero byte. -/
theorem walk_stored {base next : UInt16}
    (hnext : next.toNat = base.toNat + before.length + width line) :
    walk (before ++ (stored next line ++ rest)) base before.length =
      (walk (before ++ (stored next line ++ rest)) base (before.length + width line)).map
        (⟨before.length, next, line⟩ :: ·) := by
  have hlength : (before ++ (stored next line ++ rest)).length =
      before.length + width line + rest.length := by
    rw [List.length_append, List.length_append, length_stored, Nat.add_assoc]
  have hsize : width line = line.code.length + 5 := rfl
  have htarget : next.toNat - base.toNat = before.length + width line := by omega
  have hzero : (before ++ (stored next line ++ rest))[before.length + width line - 1]? =
      some 0 := by
    have hplace : before.length + width line - 1 = before.length + 4 + line.code.length := by
      omega
    rw [hplace, ← List.getElem?_drop, drop_stored, List.getElem?_append_right (Nat.le_refl _),
      Nat.sub_self]
    rfl
  have hcode : ((before ++ (stored next line ++ rest)).drop (before.length + 4)).take
      (before.length + width line - 1 - (before.length + 4)) = line.code := by
    have hwidth : before.length + width line - 1 - (before.length + 4) = line.code.length := by
      omega
    rw [drop_stored, hwidth, List.take_left]
  rw [walk, if_neg (by omega), word?_stored, word?_stored_number]
  simp only [htarget]
  rw [if_pos ⟨by omega, by omega, hzero⟩, hcode]

end Stored

/-- The walk meets the lines that are laid out, whatever stands before them. -/
theorem walk_layout (base : UInt16) (before : Bytes) (lines : List ImageLine)
    (h : base.toNat + before.length + size lines < 65536) :
    walk (before ++ layout (base.toNat + before.length) lines) base before.length =
      some (visits base before.length lines) := by
  induction lines generalizing before with
  | nil =>
    rw [layout, List.append_nil, walk, if_pos rfl]
    rfl
  | cons line rest ih =>
    rw [size_cons] at h
    have hnext : (UInt16.ofNat (base.toNat + before.length + width line)).toNat =
        base.toNat + before.length + width line := by
      rw [UInt16.toNat_ofNat', Nat.mod_eq_of_lt (by omega)]
    have hrest := ih
      (before ++ stored (UInt16.ofNat (base.toNat + before.length + width line)) line)
      (by rw [length_append_stored]; omega)
    rw [length_append_stored, List.append_assoc, ← Nat.add_assoc] at hrest
    rw [layout_cons, walk_stored before _ line hnext, hrest]
    simp only [visits, Option.map_some, Nat.add_assoc]

/-- A walk that goes on ends at an address of sixteen bits, which is the end of the image. -/
theorem lt_of_walk {image : Bytes} {base : UInt16} {offset : Nat} {met : List Visit}
    (h : walk image base offset = some met) :
    offset = image.length ∨ base.toNat + image.length < 65536 := by
  fun_induction walk image base offset generalizing met with
  | case1 => exact Or.inl rfl
  | case2 offset hgoes next number hnumber hnext target hjump =>
    rename_i ih
    obtain ⟨later, hlater, -⟩ := Option.map_eq_some_iff.mp h
    rcases ih hlater with hend | hlow
    · have hword := next.toNat_lt
      have hplace : next.toNat - base.toNat = image.length := hend
      omega
    · exact Or.inr hlow
  | case3 => simp at h
  | case4 => simp at h

/-! ### Images of a text -/

theorem map_line_visits (base : UInt16) (offset : Nat) (lines : List ImageLine) :
    (visits base offset lines).map Visit.line = lines := by
  induction lines generalizing offset with
  | nil => rfl
  | cons line rest ih => rw [visits, List.map_cons, ih]

/-- At another base address the same offsets are met, and all pointers move by the distance. -/
theorem visits_shift (base other : UInt16) (offset : Nat) (lines : List ImageLine) :
    visits other offset lines = (visits base offset lines).map (Visit.shift · (other - base)) := by
  induction lines generalizing offset with
  | nil => rfl
  | cons line rest ih =>
    have hpointer (n : Nat) : UInt16.ofNat (other.toNat + n) =
        UInt16.ofNat (base.toNat + n) + (other - base) := by
      rw [UInt16.ofNat_add, UInt16.ofNat_add, UInt16.ofNat_toNat, UInt16.ofNat_toNat]
      grind
    rw [visits, visits, List.map_cons, ih, hpointer]
    rfl

/-- Lines laid out one after another are their visits, each in its bytes. -/
theorem flatMap_bytes_visits (base : UInt16) (offset : Nat) (lines : List ImageLine) :
    (visits base offset lines).flatMap Visit.bytes = layout (base.toNat + offset) lines := by
  induction lines generalizing offset with
  | nil => rfl
  | cons line rest ih =>
    rw [visits, List.flatMap_cons, ih, layout_cons, Nat.add_assoc]
    rfl

/-- The bytes of lines at two addresses differ in the pointers only. -/
theorem getElem?_layout (base : UInt16) {lines : List ImageLine} (address other offset : Nat)
    {position : Nat} (h : ∀ visit ∈ visits base offset lines,
      offset + position ≠ visit.offset ∧ offset + position ≠ visit.offset + 1) :
    (layout address lines)[position]? = (layout other lines)[position]? := by
  induction lines generalizing address other offset position with
  | nil => rfl
  | cons line rest ih =>
    have hhead := h _ List.mem_cons_self
    rw [layout_cons, layout_cons]
    by_cases hinside : position < width line
    · have hpast : 2 ≤ position := by
        simp only [ne_eq] at hhead
        omega
      rw [List.getElem?_append_left (by simpa using hinside),
        List.getElem?_append_left (by simpa using hinside), getElem?_stored _ _ _ hpast]
    · have houtside : width line ≤ position := Nat.not_lt.mp hinside
      rw [List.getElem?_append_right (by simpa using houtside),
        List.getElem?_append_right (by simpa using houtside), length_stored, length_stored]
      refine ih _ _ (offset + width line) fun visit hvisit ↦ ?_
      have hplace : offset + width line + (position - width line) = offset + position := by
        omega
      rw [hplace]
      exact h visit (List.mem_cons_of_mem _ hvisit)

theorem ofText_of_ofLines {text : Text} {sources : List SourceLine} (base : UInt16)
    (h : SourceLine.ofLines 1 (Text.lines text) = .ok sources) :
    ofText text base =
      if 65535 < (base.toNat + size (sources.map crunchLine)) % 2 ^ 32 then
        .error (.programTooLarge (UInt32.ofNat (base.toNat + size (sources.map crunchLine))))
      else .ok (layout base.toNat (sources.map crunchLine)) := by
  have hlarge (n : Nat) : 65535 < UInt32.ofNat n ↔ 65535 < n % 2 ^ 32 := by
    rw [UInt32.lt_iff_toNat_lt, UInt32.toNat_ofNat']
    rfl
  rw [ofText, h]
  simp only [toUInt32_eq, link_addresses]
  simp only [addresses_snd, hlarge]

theorem ofText_eq_ok {text : Text} {base : UInt16} {image : Bytes}
    (h : ofText text base = .ok image) :
    (base.toNat + image.length) % 2 ^ 32 < 65536 ∧
      image = layout base.toNat ((SourceLine.numbered text).map crunchLine) := by
  cases hlines : SourceLine.ofLines 1 (Text.lines text) with
  | error e => simp [ofText, hlines] at h
  | ok sources =>
    have hsources : sources = SourceLine.numbered text :=
      SourceLine.eq_filterMap_of_ofLines hlines
    rw [ofText_of_ofLines base hlines, hsources] at h
    split_ifs at h with hlarge
    rw [← Except.ok.inj h, length_layout]
    exact ⟨by omega, rfl⟩

/-- The walk of an image meets its lines if the image ends below 2 ^ 32, and fails otherwise. -/
theorem walk_eq_some_iff {text : Text} {base : UInt16} {image : Bytes}
    (himage : ofText text base = .ok image) (found : List Visit) :
    walk image base 0 = some found ↔ base.toNat + image.length < 2 ^ 32 ∧
      found = visits base 0 ((SourceLine.numbered text).map crunchLine) := by
  obtain ⟨hend, hlayout⟩ := ofText_eq_ok himage
  have hsize := congrArg List.length hlayout
  rw [length_layout] at hsize
  have hbase := base.toNat_lt
  by_cases hfits : base.toNat + image.length < 2 ^ 32
  · rw [Nat.mod_eq_of_lt hfits, hsize] at hend
    have hwalk : walk image base 0 =
        some (visits base 0 ((SourceLine.numbered text).map crunchLine)) := by
      rw [hlayout]
      exact walk_layout base [] _ hend
    rw [and_iff_right hfits, hwalk, Option.some_inj, eq_comm]
  · refine iff_of_false (fun hwalk ↦ ?_) fun h ↦ hfits h.1
    rcases lt_of_walk hwalk with hempty | hlow <;> omega

end Image

end ChanceDeck
