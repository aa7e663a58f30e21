import Mathlib.Algebra.Order.Ring.Nat
import Mathlib.Tactic.Common
import Mathlib.Tactic.Ring

/-!
# Big-endian fields

Numbers of a fixed number of bytes, most significant byte first, and fields
of such numbers at an offset in a sequence of bytes.  Writing reduces a number
to its width, and reading a field back gives the reduced number.
-/

namespace Fptn.BigEndian

/-- The last `width` bytes of a number. -/
def bytesOf : Nat → Nat → List UInt8
  | 0, _ => []
  | width + 1, value =>
      UInt8.ofNat (value / 256 ^ width) :: bytesOf width value

def valueOf : List UInt8 → Nat
  | [] => 0
  | byte :: rest => byte.toNat * 256 ^ rest.length + valueOf rest

/-- The number in `width` bytes at an offset. -/
def field (offset width : Nat) (bytes : List UInt8) : Nat :=
  valueOf ((bytes.drop offset).take width)

@[simp]
theorem bytesOf_length (width value : Nat) :
    (bytesOf width value).length = width := by
  induction width with
  | zero => rfl
  | succ width ih => rw [bytesOf, List.length_cons, ih]

theorem valueOf_bytesOf (width value : Nat) :
    valueOf (bytesOf width value) = value % 256 ^ width := by
  induction width with
  | zero => simp [bytesOf, valueOf, Nat.mod_one]
  | succ width ih =>
      have head :
          (UInt8.ofNat (value / 256 ^ width)).toNat =
            value / 256 ^ width % 256 := UInt8.toNat_ofNat'
      rw [bytesOf, valueOf, ih, bytesOf_length, head, Nat.pow_succ,
        Nat.mod_mul]
      ring

/-- Only the remainder is written. -/
theorem bytesOf_add_mul (width value more : Nat) :
    bytesOf width (more * 256 ^ width + value) = bytesOf width value := by
  induction width generalizing more with
  | zero => rfl
  | succ width ih =>
      have carried :
          more * 256 ^ (width + 1) + value =
            more * 256 * 256 ^ width + value := by
        rw [Nat.pow_succ]
        ring
      have high :
          (more * 256 * 256 ^ width + value) / 256 ^ width =
            value / 256 ^ width + more * 256 := by
        rw [Nat.add_comm, Nat.add_mul_div_right _ _ (Nat.pow_pos (by decide))]
      have byte :
          UInt8.ofNat (value / 256 ^ width + more * 256) =
            UInt8.ofNat (value / 256 ^ width) := by
        rw [← UInt8.toNat_inj, UInt8.toNat_ofNat', UInt8.toNat_ofNat']
        omega
      rw [carried, bytesOf, bytesOf, high, byte, ih]

/-- Reading back what has been written at an offset. -/
theorem field_append {offset width : Nat} {front back : List UInt8}
    (value : Nat) (there : front.length = offset) :
    field offset width (front ++ (bytesOf width value ++ back)) =
      value % 256 ^ width := by
  rw [field, List.drop_left' there,
    List.take_left' (bytesOf_length width value), valueOf_bytesOf]

/-- A field of the front. -/
theorem field_append_left {offset width : Nat} {front : List UInt8}
    (back : List UInt8) (inside : offset + width ≤ front.length) :
    field offset width (front ++ back) = field offset width front := by
  rw [field, field, List.drop_append_of_le_length (by omega),
    List.take_append_of_le_length]
  rw [List.length_drop]
  omega

/-- The last byte of a number is its remainder. -/
theorem exists_mem_of_valueOf {bytes : List UInt8} (nonempty : bytes ≠ []) :
    ∃ byte ∈ bytes, byte.toNat = valueOf bytes % 256 := by
  induction bytes with
  | nil => exact absurd rfl nonempty
  | cons byte rest ih =>
      cases rest with
      | nil =>
          refine ⟨byte, List.mem_cons_self, ?_⟩
          rw [valueOf, valueOf, List.length_nil, Nat.pow_zero, Nat.mul_one,
            Nat.add_zero, Nat.mod_eq_of_lt byte.toNat_lt]
      | cons next later =>
          obtain ⟨last, member, same⟩ := ih (List.cons_ne_nil next later)
          refine ⟨last, List.mem_cons_of_mem _ member, ?_⟩
          have shifted :
              valueOf (byte :: next :: later) =
                byte.toNat * 256 ^ later.length * 256 +
                  valueOf (next :: later) := by
            rw [valueOf, List.length_cons, Nat.pow_succ, Nat.mul_assoc]
          rw [same, shifted, Nat.mul_add_mod_self_right]

theorem exists_mem_of_field {offset width : Nat} {bytes : List UInt8}
    (positive : 0 < width) (inside : offset + width ≤ bytes.length) :
    ∃ byte ∈ bytes, byte.toNat = field offset width bytes % 256 := by
  have nonempty : (bytes.drop offset).take width ≠ [] := by
    rw [← List.length_pos_iff, List.length_take, List.length_drop]
    omega
  obtain ⟨byte, member, same⟩ := exists_mem_of_valueOf nonempty
  exact ⟨byte, List.mem_of_mem_drop (List.mem_of_mem_take member), same⟩

theorem valueOf_lt (bytes : List UInt8) :
    valueOf bytes < 256 ^ bytes.length := by
  induction bytes with
  | nil => simp [valueOf]
  | cons byte rest ih =>
      have small := byte.toNat_lt
      have carry :
          (byte.toNat + 1) * 256 ^ rest.length ≤ 256 * 256 ^ rest.length :=
        Nat.mul_le_mul_right _ small
      rw [valueOf, List.length_cons, Nat.pow_succ]
      rw [Nat.add_mul] at carry
      omega

/-- Bytes make a word of their size. -/
theorem toNat_ofNat_valueOf {bytes : List UInt8} {count : Nat}
    (length : bytes.length = count) :
    (BitVec.ofNat (8 * count) (valueOf bytes)).toNat = valueOf bytes := by
  have small := valueOf_lt bytes
  have power : 256 ^ count = 2 ^ (8 * count) := by
    rw [Nat.pow_mul]
  rw [length] at small
  rw [BitVec.toNat_ofNat, Nat.mod_eq_of_lt (power ▸ small)]

/-- Writing the number which bytes stand for gives the bytes. -/
theorem bytesOf_valueOf (bytes : List UInt8) :
    bytesOf bytes.length (valueOf bytes) = bytes := by
  induction bytes with
  | nil => rfl
  | cons byte rest ih =>
      have high :
          (byte.toNat * 256 ^ rest.length + valueOf rest) /
              256 ^ rest.length = byte.toNat := by
        rw [Nat.add_comm, Nat.add_mul_div_right _ _ (Nat.pow_pos (by decide)),
          Nat.div_eq_of_lt (valueOf_lt rest), Nat.zero_add]
      rw [List.length_cons, valueOf, bytesOf, high, bytesOf_add_mul, ih,
        UInt8.ofNat_toNat]

theorem valueOf_append (front back : List UInt8) :
    valueOf (front ++ back) =
      valueOf front * 256 ^ back.length + valueOf back := by
  induction front with
  | nil => simp [valueOf]
  | cons byte rest ih =>
      rw [List.cons_append, valueOf, valueOf, ih, List.length_append,
        Nat.pow_add]
      ring

/-- A field is made up of two shorter ones. -/
theorem field_add {offset first second : Nat} {bytes : List UInt8}
    (inside : offset + (first + second) ≤ bytes.length) :
    field offset (first + second) bytes =
      field offset first bytes * 256 ^ second +
        field (offset + first) second bytes := by
  have rest :
      (((bytes.drop offset).drop first).take second).length = second := by
    rw [List.length_take, List.length_drop, List.length_drop]
    omega
  rw [field, List.take_add, valueOf_append, rest, List.drop_drop]
  rfl

/-! ## Packed layouts -/

/-- Fields of given widths and values, one after the other. -/
def layout (fields : List (Nat × Nat)) : List UInt8 :=
  fields.flatMap fun entry => bytesOf entry.1 entry.2

def sizeOf (fields : List (Nat × Nat)) : Nat :=
  (fields.map Prod.fst).sum

theorem layout_length (fields : List (Nat × Nat)) :
    (layout fields).length = sizeOf fields := by
  simp [layout, sizeOf, List.length_flatMap]

/-- A field of a layout lies behind the fields in front of it. -/
theorem field_layout (front back : List (Nat × Nat)) (width value : Nat)
    (tail : List UInt8) :
    field (sizeOf front) width
        (layout (front ++ (width, value) :: back) ++ tail) =
      value % 256 ^ width := by
  have split :
      layout (front ++ (width, value) :: back) ++ tail =
        layout front ++ (bytesOf width value ++ (layout back ++ tail)) := by
    simp [layout]
  rw [split]
  exact field_append value (layout_length front)

end Fptn.BigEndian
