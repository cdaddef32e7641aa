import ChanceDeck.Basic.Image
import Mathlib.Algebra.BigOperators.Group.List.Basic
import Mathlib.Algebra.GroupWithZero.Nat
import Mathlib.Data.List.Basic

/-!
# Linking in words and in natural numbers

The first pass over the lines of an image counts in words of 32 bits. `layout` lays out the same
lines in one pass and counts in natural numbers: a line of the image points to the line after it,
and the last line to the end.

The pointers of both are the same whatever the lines are (`link_addresses`): a pointer holds the last
sixteen bits of an address, and these do not change when a sum of 32 bits begins again at zero. One
induction carries both passes, since what the first pass finds for the lines that follow begins with
the address to which the line before them points. The end address differs from the natural sum as
soon as that has more than 32 bits (`addresses_snd`). Below 2 ^ 32 no sum begins again
(`unwrapped`).
-/

set_option autoImplicit false
set_option relaxedAutoImplicit false

namespace ChanceDeck.Image

/-- The number of bytes of a line: its head of four, its code and the zero at its end. -/
def width (line : ImageLine) : Nat :=
  line.code.length + 5

/-- The number of bytes of lines together. -/
def size (lines : List ImageLine) : Nat :=
  (lines.map width).sum

/-- The bytes of lines from an address on, one after another. -/
def layout (address : Nat) : List ImageLine → Bytes
  | [] => []
  | line :: rest =>
    stored (UInt16.ofNat (address + width line)) line ++ layout (address + width line) rest

/-- Whether the first pass finds the natural sum wherever it stops. -/
def Unwrapped (base : UInt16) (lines : List ImageLine) : Prop :=
  ∀ before, before <+: lines →
    (addresses base.toUInt32 before).2.toNat = base.toNat + size before

/-! ### Sizes and bytes of lines -/

theorem size_cons (line : ImageLine) (rest : List ImageLine) :
    size (line :: rest) = width line + size rest :=
  List.sum_cons

theorem size_append (lines others : List ImageLine) :
    size (lines ++ others) = size lines + size others := by
  rw [size, List.map_append, List.sum_append]
  rfl

theorem layout_cons (address : Nat) (line : ImageLine) (rest : List ImageLine) :
    layout address (line :: rest) =
      stored (UInt16.ofNat (address + width line)) line ++ layout (address + width line) rest :=
  rfl

@[simp] theorem length_littleEndian (n : UInt16) : (littleEndian n).length = 2 :=
  rfl

@[simp] theorem length_stored (next : UInt16) (line : ImageLine) :
    (stored next line).length = width line := by
  simp only [stored, width, List.length_append, length_littleEndian, List.length_singleton]
  omega

theorem length_append_stored (before : Bytes) (next : UInt16) (line : ImageLine) :
    (before ++ stored next line).length = before.length + width line := by
  rw [List.length_append, length_stored]

theorem length_layout (address : Nat) (lines : List ImageLine) :
    (layout address lines).length = size lines := by
  induction lines generalizing address with
  | nil => rfl
  | cons line rest ih => rw [layout_cons, List.length_append, length_stored, ih, size_cons]

/-! ### The first pass -/

theorem add_lineSize (address : Nat) (line : ImageLine) :
    UInt32.ofNat address + lineSize line = UInt32.ofNat (address + width line) := by
  rw [lineSize, width, UInt32.ofNat_add, UInt32.ofNat_add]
  grind

theorem addresses_cons (address : UInt32) (line : ImageLine) (rest : List ImageLine) :
    addresses address (line :: rest) =
      (address :: (addresses (address + lineSize line) rest).1,
        (addresses (address + lineSize line) rest).2) :=
  rfl

/-- The first pass ends at the natural sum, cut to 32 bits. -/
theorem addresses_snd (address : Nat) (lines : List ImageLine) :
    (addresses (UInt32.ofNat address) lines).2 = UInt32.ofNat (address + size lines) := by
  induction lines generalizing address with
  | nil => rfl
  | cons line rest ih => rw [addresses_cons, add_lineSize, ih, size_cons, Nat.add_assoc]

/-- The first address that is found is that of the first line, or of the end if there is none. -/
theorem head?_addresses (address : UInt32) (lines : List ImageLine) :
    (addresses address lines).1.head?.getD (addresses address lines).2 = address := by
  cases lines <;> rfl

theorem toUInt32_eq (base : UInt16) : base.toUInt32 = UInt32.ofNat base.toNat := by
  have hbase := base.toNat_lt
  rw [← UInt32.toNat_inj, UInt16.toNat_toUInt32, UInt32.toNat_ofNat',
    Nat.mod_eq_of_lt (by omega)]

theorem toNat_addresses_snd (base : UInt16) (lines : List ImageLine) :
    (addresses base.toUInt32 lines).2.toNat = (base.toNat + size lines) % 2 ^ 32 := by
  rw [toUInt32_eq, addresses_snd, UInt32.toNat_ofNat']

/-- Where the lines end below 2 ^ 32, no sum of the first pass begins again at zero. -/
theorem unwrapped {base : UInt16} {lines : List ImageLine}
    (h : base.toNat + size lines < 2 ^ 32) : Unwrapped base lines := by
  rintro before ⟨after, rfl⟩
  rw [size_append] at h
  rw [toNat_addresses_snd]
  exact Nat.mod_eq_of_lt (by omega)

/-! ### Both passes -/

/-- The first line points to the first address after its own, or to the end if there is none. -/
theorem link_cons (address : UInt32) (later : List UInt32) (last : UInt32) (line : ImageLine)
    (rest : List ImageLine) :
    link (address :: later) last (line :: rest) =
      stored (later.head?.getD last).toUInt16 line ++ link later last rest := by
  have hrest : (rest.zipIdx 1).flatMap (fun entry ↦
      stored ((address :: later)[entry.2 + 1]?.getD last).toUInt16 entry.1) =
      link later last rest := by
    rw [List.zipIdx_succ, List.flatMap_map]
    rfl
  rw [link, List.zipIdx_cons, List.flatMap_cons, hrest, List.head?_eq_getElem?]
  rfl

/-- In words as in natural numbers: what the second pass writes is laid out in one pass. -/
theorem link_addresses (address : Nat) (lines : List ImageLine) :
    link (addresses (UInt32.ofNat address) lines).1 (addresses (UInt32.ofNat address) lines).2
      lines = layout address lines := by
  induction lines generalizing address with
  | nil => rfl
  | cons line rest ih =>
    have hpointer (n : Nat) : (UInt32.ofNat n).toUInt16 = UInt16.ofNat n := by
      rw [← UInt16.toNat_inj, UInt32.toNat_toUInt16, UInt32.toNat_ofNat', UInt16.toNat_ofNat']
      omega
    rw [addresses_cons, link_cons, head?_addresses, add_lineSize, ih, hpointer, layout_cons]

end ChanceDeck.Image
