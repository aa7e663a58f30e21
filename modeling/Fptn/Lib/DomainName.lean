import Mathlib.Data.List.Basic
import Mathlib.Tactic.Common

/-!
# Domain names on the wire

A name is written label by label, each one behind its length, and ends with
the root or with a pointer.  A length has two bits to spare, which are set in
a pointer.  The target of a pointer is counted from the first byte of the
message.

The second half is about names in a memory: where the labels and pointers at
an offset lead to, and which name they spell if this is the root.
-/

namespace Fptn.DomainName

/-! ## Bytes in a memory -/

/-- The memory has these bytes at an offset. -/
def StoredAt (memory : Nat → UInt8) : Nat → List UInt8 → Prop
  | _, [] => True
  | offset, byte :: rest =>
      memory offset = byte ∧ StoredAt memory (offset + 1) rest

instance decidableStoredAt (memory : Nat → UInt8) :
    (offset : Nat) → (bytes : List UInt8) →
      Decidable (StoredAt memory offset bytes)
  | _, [] => isTrue trivial
  | offset, _ :: rest =>
      @instDecidableAnd _ _ _ (decidableStoredAt memory (offset + 1) rest)

section StoredAt

variable {memory : Nat → UInt8} {offset : Nat} {front back : List UInt8}

theorem storedAt_append :
    StoredAt memory offset (front ++ back) ↔
      StoredAt memory offset front ∧
        StoredAt memory (offset + front.length) back := by
  induction front generalizing offset with
  | nil => simp [StoredAt]
  | cons byte rest ih =>
      have behind : offset + 1 + rest.length =
          offset + (byte :: rest).length := by
        rw [List.length_cons]
        omega
      rw [List.cons_append, StoredAt, StoredAt, ih, behind, and_assoc]

theorem StoredAt.left (stored : StoredAt memory offset (front ++ back)) :
    StoredAt memory offset front :=
  (storedAt_append.mp stored).1

theorem StoredAt.right (stored : StoredAt memory offset (front ++ back)) :
    StoredAt memory (offset + front.length) back :=
  (storedAt_append.mp stored).2

end StoredAt

/-! ## Names -/

structure Label where
  bytes : List UInt8
  nonempty : bytes ≠ []
  short : bytes.length < 64

def Label.encode (label : Label) : List UInt8 :=
  UInt8.ofNat label.bytes.length :: label.bytes

structure Pointer where
  target : Nat
  small : target < 0x4000

def Pointer.encode (pointer : Pointer) : List UInt8 :=
  [UInt8.ofNat (0xC0 + pointer.target / 256),
    UInt8.ofNat (pointer.target % 256)]

/-- The root, or a pointer. -/
def encodeEnding : Option Pointer → List UInt8
  | none => [0]
  | some pointer => pointer.encode

def encodeLabels (labels : List Label) (ending : Option Pointer) :
    List UInt8 :=
  labels.flatMap Label.encode ++ encodeEnding ending

/-- A name as it is written, of which a pointer may be the end.  A name has
255 bytes at most, of which the root is one. -/
structure Name where
  labels : List Label
  ending : Option Pointer
  short : (labels.flatMap Label.encode).length ≤ 254

def Name.encode (name : Name) : List UInt8 :=
  encodeLabels name.labels name.ending

theorem Label.length_encode (label : Label) :
    label.encode.length = label.bytes.length + 1 :=
  rfl

/-- A length is no root and has neither of the two bits set. -/
theorem Label.length_byte (label : Label) :
    UInt8.ofNat label.bytes.length ≠ 0 ∧
      UInt8.ofNat label.bytes.length &&& 0xC0 = 0 ∧
      (UInt8.ofNat label.bytes.length).toNat = label.bytes.length := by
  have all : ∀ length < 64, 0 < length →
      UInt8.ofNat length ≠ 0 ∧ UInt8.ofNat length &&& 0xC0 = 0 ∧
        (UInt8.ofNat length).toNat = length := by
    decide
  exact all _ label.short (List.length_pos_iff.mpr label.nonempty)

theorem Pointer.first_byte (pointer : Pointer) :
    UInt8.ofNat (0xC0 + pointer.target / 256) ≠ 0 ∧
      UInt8.ofNat (0xC0 + pointer.target / 256) &&& 0xC0 = 0xC0 ∧
      (UInt8.ofNat (0xC0 + pointer.target / 256) &&& 0x3F).toNat =
        pointer.target / 256 := by
  have all : ∀ high < 64,
      UInt8.ofNat (0xC0 + high) ≠ 0 ∧
        UInt8.ofNat (0xC0 + high) &&& 0xC0 = 0xC0 ∧
        (UInt8.ofNat (0xC0 + high) &&& 0x3F).toNat = high := by
    decide
  have small := pointer.small
  exact all _ (by omega)

/-- Every byte with the two bits set begins a pointer. -/
theorem exists_pointer {first : UInt8} (bits : first &&& 0xC0 = 0xC0)
    (second : UInt8) :
    ∃ pointer : Pointer, pointer.encode = [first, second] ∧
      pointer.target = (first &&& 0x3F).toNat * 256 + second.toNat := by
  have all : ∀ value < 256, UInt8.ofNat value &&& 0xC0 = 0xC0 →
      UInt8.ofNat (0xC0 + (UInt8.ofNat value &&& 0x3F).toNat) =
          UInt8.ofNat value ∧
        (UInt8.ofNat value &&& 0x3F).toNat < 64 := by
    decide +kernel
  have cases := all first.toNat first.toNat_lt
  rw [UInt8.ofNat_toNat] at cases
  obtain ⟨same, high⟩ := cases bits
  have low := second.toNat_lt
  refine ⟨⟨(first &&& 0x3F).toNat * 256 + second.toNat, by omega⟩, ?_, rfl⟩
  have quotient :
      ((first &&& 0x3F).toNat * 256 + second.toNat) / 256 =
        (first &&& 0x3F).toNat := by
    omega
  have remainder :
      ((first &&& 0x3F).toNat * 256 + second.toNat) % 256 =
        second.toNat := by
    omega
  rw [Pointer.encode, quotient, remainder, same, UInt8.ofNat_toNat]

/-- Each label takes two bytes at least. -/
theorem length_labels_le (labels : List Label) :
    2 * labels.length ≤ (labels.flatMap Label.encode).length := by
  induction labels with
  | nil => exact Nat.le_refl 0
  | cons label rest ih =>
      have positive := List.length_pos_iff.mpr label.nonempty
      rw [List.flatMap_cons, List.length_append, Label.length_encode,
        List.length_cons]
      omega

theorem Name.length_labels (name : Name) : name.labels.length < 128 := by
  have least := length_labels_le name.labels
  have short := name.short
  omega

/-! ## Names in a memory -/

section Memory

variable (memory : Nat → UInt8) (size base : Nat)

/-- As many labels and pointers as there are steps lead from an offset to
another one.  All of them are inside the first `size` bytes; a pointer counts
from `base`. -/
inductive Leads : Nat → Nat → List Label → Nat → Prop
  | here (offset : Nat) : Leads 0 offset [] offset
  | label {steps offset last : Nat} {labels : List Label} (label : Label)
      (stored : StoredAt memory offset label.encode)
      (inside : offset + label.encode.length ≤ size)
      (rest : Leads steps (offset + label.encode.length) labels last) :
      Leads (steps + 1) offset (label :: labels) last
  | pointer {steps offset last : Nat} {labels : List Label}
      (pointer : Pointer)
      (stored : StoredAt memory offset pointer.encode)
      (inside : offset + 2 ≤ size)
      (rest : Leads steps (base + pointer.target) labels last) :
      Leads (steps + 1) offset labels last

/-- The name at an offset has these labels: it ends at the root. -/
def Decodes (offset : Nat) (labels : List Label) : Prop :=
  ∃ steps last, Leads memory size base steps offset labels last ∧
    last < size ∧ memory last = 0

end Memory

/-- The text of a name: its labels, joined by dots. -/
def joined (labels : List Label) : List UInt8 :=
  [0x2E].intercalate (labels.map Label.bytes)

theorem joined_cons (label : Label) (rest : List Label) :
    joined (label :: rest) =
      label.bytes ++ rest.flatMap fun other => 0x2E :: other.bytes := by
  induction rest generalizing label with
  | nil => simp [joined]
  | cons next rest ih =>
      have tail := ih next
      rw [joined, List.map_cons, List.map_cons, List.intercalate_cons_cons]
      rw [joined, List.map_cons] at tail
      rw [tail, List.flatMap_cons]
      simp

/-- A name which goes on has a longer text. -/
theorem eq_nil_of_joined_append {front back : List Label}
    (nonempty : front ≠ [])
    (same : joined (front ++ back) = joined front) : back = [] := by
  obtain ⟨label, rest, rfl⟩ := List.exists_cons_of_ne_nil nonempty
  rw [List.cons_append, joined_cons, joined_cons, List.flatMap_append,
    List.append_cancel_left_eq, List.append_right_eq_self] at same
  cases back with
  | nil => rfl
  | cons other later => simp at same

namespace Leads

variable {memory : Nat → UInt8} {size base : Nat}
  {steps more offset middle last : Nat} {labels later : List Label}

theorem trans (front : Leads memory size base steps offset labels middle)
    (back : Leads memory size base more middle later last) :
    Leads memory size base (steps + more) offset (labels ++ later) last := by
  induction front with
  | here => simpa using back
  | label label stored inside _ ih =>
      rw [Nat.add_right_comm]
      exact .label label stored inside (ih back)
  | pointer pointer stored inside _ ih =>
      rw [Nat.add_right_comm]
      exact .pointer pointer stored inside (ih back)

/-- What leads somewhere in many steps leads to a place on the way in fewer
of them. -/
theorem split
    (long : Leads memory size base (steps + more) offset labels last) :
    ∃ front back middle, labels = front ++ back ∧
      Leads memory size base steps offset front middle ∧
      Leads memory size base more middle back last := by
  induction steps generalizing offset labels with
  | zero =>
      rw [Nat.zero_add] at long
      exact ⟨[], labels, offset, rfl, .here offset, long⟩
  | succ steps ih =>
      rw [Nat.add_right_comm] at long
      cases long with
      | label label stored inside rest =>
          obtain ⟨front, back, middle, same, first, second⟩ := ih rest
          exact
            ⟨label :: front, back, middle, by rw [same]; rfl,
              .label label stored inside first, second⟩
      | pointer pointer stored inside rest =>
          obtain ⟨front, back, middle, same, first, second⟩ := ih rest
          exact
            ⟨front, back, middle, same,
              .pointer pointer stored inside first, second⟩

/-- What is no pointer leads nowhere else, or behind the label there. -/
theorem behind (notPointer : memory offset &&& 0xC0 ≠ 0xC0)
    (leads : Leads memory size base steps offset labels last) :
    last = offset ∨
      offset + 1 + (memory offset).toNat ≤ size ∧
        ∃ fewer rest, Leads memory size base fewer
          (offset + 1 + (memory offset).toNat) rest last := by
  cases leads with
  | here => exact Or.inl rfl
  | label label stored inside rest =>
      have first : memory offset = _ := stored.1
      have length : (memory offset).toNat = label.bytes.length := by
        rw [first]
        exact label.length_byte.2.2
      rw [Label.length_encode] at inside rest
      rw [length, Nat.add_assoc, Nat.add_comm 1]
      exact Or.inr ⟨inside, _, _, rest⟩
  | pointer pointer stored inside rest =>
      have first : memory offset = _ := stored.1
      rw [first] at notPointer
      exact absurd pointer.first_byte.2.1 notPointer

end Leads

end Fptn.DomainName
