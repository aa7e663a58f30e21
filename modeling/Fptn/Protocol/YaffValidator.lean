import Fptn.Lib.EventLog
import Mathlib.Data.UInt

/-!
# The validator of yaff batches

`YaffBatchValidator` follows the offsets of a flat yaff message, from the root
to the packets and into each of them.  It is modelled with its reads and its
32-bit arithmetic as events, each of which may be out of bounds.

The offsets of the fields are generated from `protocol.proto` and are a
parameter.
-/

namespace Fptn.Protocol.YaffValidator

open Fptn.EventLog

/-! ## Memory -/

/-- Some bytes, in a memory which goes on around them. -/
structure Buffer where
  memory : Nat → UInt8
  data : Nat
  size : UInt32

inductive Event where
  /-- A read, of bytes which are counted from the start of a buffer. -/
  | read (buffer : Buffer) (offset length : Nat)
  /-- What 32-bit arithmetic would give without a bound. -/
  | computed (value : Int)

namespace Buffer

variable (buffer : Buffer)

/-- The number in some bytes, the least significant one first. -/
def valueAt (offset : Nat) : Nat → Nat
  | 0 => 0
  | length + 1 =>
      (buffer.memory (buffer.data + offset)).toNat +
        256 * valueAt (offset + 1) length

def u16At (offset : Nat) : UInt16 :=
  UInt16.ofNat (buffer.valueAt offset 2)

def u32At (offset : Nat) : UInt32 :=
  UInt32.ofNat (buffer.valueAt offset 4)

def bytesAt (offset length : Nat) : List UInt8 :=
  (List.range length).map fun index =>
    buffer.memory (buffer.data + offset + index)

/-- A part of it. -/
def part (offset : Nat) (length : UInt32) : Buffer :=
  { buffer with data := buffer.data + offset, size := length }

/-- It is a part of another one. -/
def Inside (whole : Buffer) : Prop :=
  whole.data ≤ buffer.data ∧
    buffer.data + buffer.size.toNat ≤ whole.data + whole.size.toNat

instance (whole : Buffer) : Decidable (buffer.Inside whole) :=
  inferInstanceAs (Decidable (_ ∧ _))

end Buffer

/-- A read stays in its buffer, which is a part of the whole message, and
arithmetic does not wrap around. -/
def Safe (whole : Buffer) : Event → Prop
  | .read buffer offset length =>
      buffer.Inside whole ∧ offset + length ≤ buffer.size.toNat
  | .computed value => 0 ≤ value ∧ value < 2 ^ 32

instance (whole : Buffer) (event : Event) : Decidable (Safe whole event) :=
  match event with
  | .read _ _ _ | .computed _ => inferInstanceAs (Decidable (_ ∧ _))

def add (first second : UInt32) : Logged Event UInt32 := do
  record (.computed (first.toNat + second.toNat))
  return first + second

def sub (first second : UInt32) : Logged Event UInt32 := do
  record (.computed (first.toNat - second.toNat))
  return first - second

def mul (first second : UInt32) : Logged Event UInt32 := do
  record (.computed (first.toNat * second.toNat))
  return first * second

/-! ## Generated classes -/

abbrev FieldId := UInt16

abbrev FieldOffset := UInt16

/-- `FLAT_OFFSETS[id - 1]` of each class, and the size of a message type. -/
structure Layout where
  message : FieldId → FieldOffset
  ipPacket : FieldId → FieldOffset
  ipAssignment : FieldId → FieldOffset
  batchIPPacket : FieldId → FieldOffset
  msgTypeSize : Nat

def Message.ID_MSG_TYPE : FieldId := 2

def Message.ID_PACKET : FieldId := 4

def Message.ID_IP_ADDRESSES : FieldId := 5

def Message.ID_BATCH : FieldId := 6

def IPPacket.ID_PAYLOAD : FieldId := 1

def IPAssignment.ID_ADDRESS_IPV4 : FieldId := 1

def IPAssignment.ID_ADDRESS_IPV6 : FieldId := 2

def BatchIPPacket.ID_PACKETS : FieldId := 1

/-! ## YaffBatchValidator -/

def kHeaderSize : UInt32 := 2

def kOffsetSize : UInt32 := 4

def kFlatLayoutBit : UInt16 := 0x8000

def flatTypedLimit (id : FieldId) : UInt16 := (id <<< 2) ||| 0x8003

section Validator

variable (layout : Layout) (buffer : Buffer)

def hasValidYaffRootOffset : Logged Event Bool := do
  if buffer.size < kOffsetSize then
    return false
  else
    record (.read buffer 0 4)
    return buffer.u32At 0 < buffer.size

def inBounds (pos len : UInt32) : Logged Event Bool := do
  if pos ≤ buffer.size then
    let rest ← sub buffer.size pos
    return len ≤ rest
  else
    return false

def readU16 (offset : UInt32) : Logged Event UInt16 := do
  record (.read buffer offset.toNat 2)
  return buffer.u16At offset.toNat

def readU32 (offset : UInt32) : Logged Event UInt32 := do
  record (.read buffer offset.toNat 4)
  return buffer.u32At offset.toNat

/-- What a reference refers to; zero if the field is not set. -/
def resolvePointer (message : UInt32) (fieldOffset : FieldOffset) :
    Logged Event (Option UInt32) := do
  let header ← add message kHeaderSize
  let pointerOffset ← add header fieldOffset.toUInt32
  if ← inBounds buffer pointerOffset kOffsetSize then
    let pointer ← readU32 buffer pointerOffset
    if pointer = 0 then
      return some 0
    else
      let rest ← sub buffer.size message
      if pointer > rest then
        return none
      else
        let target ← add message pointer
        return some target
  else
    return none

/-- `none` for a malformed frame. -/
def resolveField (message : UInt32) (fieldId : FieldId)
    (fieldOffset : FieldOffset) : Logged Event (Option UInt32) := do
  if ← inBounds buffer message kHeaderSize then
    let typedLimit ← readU16 buffer message
    if typedLimit &&& kFlatLayoutBit = 0 then
      return none
    else if flatTypedLimit fieldId ≥ typedLimit then
      return some 0
    else
      resolvePointer buffer message fieldOffset
  else
    return none

/-- Where the bytes of a string start, and their number. -/
def resolveString (offset : UInt32) :
    Logged Event (Option (UInt32 × UInt32)) := do
  if ← inBounds buffer offset kOffsetSize then
    let length ← readU32 buffer offset
    let dataOffset ← add offset kOffsetSize
    if ← inBounds buffer dataOffset length then
      return some (dataOffset, length)
    else
      return none
  else
    return none

/-- The payload of a packet which is there. -/
def validatePayload (packet : UInt32) : Logged Event Bool := do
  match ← resolveField buffer packet IPPacket.ID_PAYLOAD
      (layout.ipPacket IPPacket.ID_PAYLOAD) with
  | none => return false
  | some payload =>
      if payload = 0 then
        return true
      else
        let resolved ← resolveString buffer payload
        return resolved.isSome

def validateInner : Logged Event Bool := do
  if ← inBounds buffer 0 kOffsetSize then
    let root ← readU32 buffer 0
    match ← resolveField buffer root Message.ID_PACKET
        (layout.message Message.ID_PACKET) with
    | none => return false
    | some packet =>
        if packet = 0 then
          return true
        else
          validatePayload layout buffer packet
  else
    return false

/-- An element which is not null. -/
def validateBlob (table element : UInt32) : Logged Event Bool := do
  let rest ← sub buffer.size table
  if element > rest then
    return false
  else
    let string ← add table element
    match ← resolveString buffer string with
    | none => return false
    | some (blobOffset, blobLength) =>
        validateInner layout (buffer.part blobOffset.toNat blobLength)

def validateElement (table element : UInt32) : Logged Event Bool := do
  if element = 0 then
    return true
  else
    validateBlob layout buffer table element

/-- The loop, when some elements are left. -/
def validateElements (table : UInt32) :
    Nat → UInt32 → Logged Event Bool
  | 0, _ => return true
  | remaining + 1, i => do
      let skipped ← mul i kOffsetSize
      let position ← add table skipped
      let element ← readU32 buffer position
      let valid ← validateElement layout buffer table element
      if valid then
        let next ← add i 1
        validateElements table remaining next
      else
        return false

/-- The elements, once there is room for their number. -/
def validateTable (table count : UInt32) : Logged Event Bool := do
  if count > buffer.size / kOffsetSize then
    return false
  else
    let length ← mul count kOffsetSize
    if ← inBounds buffer table length then
      validateElements layout buffer table count.toNat 0
    else
      return false

def validatePacketArray (array : UInt32) : Logged Event Bool := do
  if ← inBounds buffer array kOffsetSize then
    let count ← readU32 buffer array
    let table ← add array kOffsetSize
    validateTable layout buffer table count
  else
    return false

/-- The packets of a batch which is there. -/
def validatePackets (batch : UInt32) : Logged Event Bool := do
  match ← resolveField buffer batch BatchIPPacket.ID_PACKETS
      (layout.batchIPPacket BatchIPPacket.ID_PACKETS) with
  | none => return false
  | some array =>
      if array = 0 then
        return true
      else
        validatePacketArray layout buffer array

def validateBatch : Logged Event Bool := do
  if ← inBounds buffer 0 kOffsetSize then
    let root ← readU32 buffer 0
    match ← resolveField buffer root Message.ID_BATCH
        (layout.message Message.ID_BATCH) with
    | none => return false
    | some batch =>
        if batch = 0 then
          return true
        else
          validatePackets layout buffer batch
  else
    return false

def validate : Logged Event Bool := validateBatch layout buffer

end Validator

/-! ## What is valid -/

section Valid

variable (layout : Layout) (buffer : Buffer)

/-- The field is within the typed limit of a message. -/
def Present (message : Nat) (fieldId : FieldId) : Prop :=
  flatTypedLimit fieldId < buffer.u16At message

instance (message : Nat) (fieldId : FieldId) :
    Decidable (Present buffer message fieldId) :=
  inferInstanceAs (Decidable (_ < _))

/-- A field of a message, and its header, lie in the buffer. -/
structure FieldCovered (message : Nat) (fieldId : FieldId)
    (fieldOffset : FieldOffset) (length : Nat) : Prop where
  header : message + 2 ≤ buffer.size.toNat
  field : Present buffer message fieldId →
    message + 2 + fieldOffset.toNat + length ≤ buffer.size.toNat

/-- What a field refers to. -/
def referenceAt (message : Nat) (fieldId : FieldId)
    (fieldOffset : FieldOffset) : Option Nat :=
  if Present buffer message fieldId then
    let pointer := buffer.u32At (message + 2 + fieldOffset.toNat)
    if pointer = 0 then none else some (message + pointer.toNat)
  else
    none

structure StringCovered (string : Nat) : Prop where
  header : string + 4 ≤ buffer.size.toNat
  bytes : string + 4 + (buffer.u32At string).toNat ≤ buffer.size.toNat

/-- The bytes of a string. -/
def stringAt (string : Nat) : Buffer :=
  buffer.part (string + 4) (buffer.u32At string)

def rootAt : Nat := (buffer.u32At 0).toNat

/-- A message with a packet. -/
structure InnerValid : Prop where
  root : 4 ≤ buffer.size.toNat
  packet : FieldCovered buffer (rootAt buffer) Message.ID_PACKET
    (layout.message Message.ID_PACKET) 4
  payload : ∀ packet,
    referenceAt buffer (rootAt buffer) Message.ID_PACKET
        (layout.message Message.ID_PACKET) = some packet →
      FieldCovered buffer packet IPPacket.ID_PAYLOAD
          (layout.ipPacket IPPacket.ID_PAYLOAD) 4 ∧
        ∀ payload,
          referenceAt buffer packet IPPacket.ID_PAYLOAD
              (layout.ipPacket IPPacket.ID_PAYLOAD) = some payload →
            StringCovered buffer payload

/-- The element of a table; zero is a null element. -/
def elementAt (table i : Nat) : UInt32 := buffer.u32At (table + i * 4)

structure ElementValid (string : Nat) : Prop where
  covered : StringCovered buffer string
  inner : InnerValid layout (stringAt buffer string)

structure ArrayValid (array : Nat) : Prop where
  header : array + 4 ≤ buffer.size.toNat
  table : array + 4 + (buffer.u32At array).toNat * 4 ≤ buffer.size.toNat
  elements : ∀ i < (buffer.u32At array).toNat,
    elementAt buffer (array + 4) i ≠ 0 →
      ElementValid layout buffer
        (array + 4 + (elementAt buffer (array + 4) i).toNat)

/-- A message with a batch of packets. -/
structure BatchValid : Prop where
  root : 4 ≤ buffer.size.toNat
  batch : FieldCovered buffer (rootAt buffer) Message.ID_BATCH
    (layout.message Message.ID_BATCH) 4
  packets : ∀ batch,
    referenceAt buffer (rootAt buffer) Message.ID_BATCH
        (layout.message Message.ID_BATCH) = some batch →
      FieldCovered buffer batch BatchIPPacket.ID_PACKETS
          (layout.batchIPPacket BatchIPPacket.ID_PACKETS) 4 ∧
        ∀ array,
          referenceAt buffer batch BatchIPPacket.ID_PACKETS
              (layout.batchIPPacket BatchIPPacket.ID_PACKETS) =
                some array →
            ArrayValid layout buffer array

end Valid

/-! ## Arithmetic and bounds -/

section Bounds

variable {whole buffer : Buffer} {α : Type}

theorem toNat_add {first second : UInt32}
    (fits : first.toNat + second.toNat < 2 ^ 32) :
    (first + second).toNat = first.toNat + second.toNat := by
  rw [UInt32.toNat_add, Nat.mod_eq_of_lt fits]

theorem add_safe {first second : UInt32}
    (fits : first.toNat + second.toNat < 2 ^ 32) :
    Every (Safe whole) (add first second) := by
  simp only [add, every_bind, every_record, every_pure, and_true, Safe]
  omega

theorem sub_safe {first second : UInt32}
    (less : second.toNat ≤ first.toNat) :
    Every (Safe whole) (sub first second) := by
  have small := first.toNat_lt
  simp only [sub, every_bind, every_record, every_pure, and_true, Safe]
  omega

theorem mul_safe {first second : UInt32}
    (fits : first.toNat * second.toNat < 2 ^ 32) :
    Every (Safe whole) (mul first second) := by
  simp only [mul, every_bind, every_record, every_pure, and_true, Safe]
  rw [← Int.natCast_mul]
  exact ⟨Int.natCast_nonneg _, by exact_mod_cast fits⟩

@[simp]
theorem value_add {first second : UInt32} :
    value (add first second) = first + second :=
  rfl

@[simp]
theorem value_sub {first second : UInt32} :
    value (sub first second) = first - second :=
  rfl

@[simp]
theorem value_mul {first second : UInt32} :
    value (mul first second) = first * second :=
  rfl

@[simp]
theorem value_readU32 {offset : UInt32} :
    value (readU32 buffer offset) = buffer.u32At offset.toNat :=
  rfl

@[simp]
theorem value_readU16 {offset : UInt32} :
    value (readU16 buffer offset) = buffer.u16At offset.toNat :=
  rfl

theorem readU32_safe {offset : UInt32} (inside : buffer.Inside whole)
    (covered : offset.toNat + 4 ≤ buffer.size.toNat) :
    Every (Safe whole) (readU32 buffer offset) := by
  simp only [readU32, every_bind, every_record, every_pure, and_true]
  exact ⟨inside, covered⟩

theorem readU16_safe {offset : UInt32} (inside : buffer.Inside whole)
    (covered : offset.toNat + 2 ≤ buffer.size.toNat) :
    Every (Safe whole) (readU16 buffer offset) := by
  simp only [readU16, every_bind, every_record, every_pure, and_true]
  exact ⟨inside, covered⟩

theorem inBounds_safe {pos len : UInt32} :
    Every (Safe whole) (inBounds buffer pos len) := by
  unfold inBounds
  split
  case isTrue less =>
    rw [every_bind]
    exact ⟨sub_safe (UInt32.le_iff_toNat_le.mp less), by simp⟩
  case isFalse => simp

theorem value_inBounds {pos len : UInt32} :
    value (inBounds buffer pos len) =
      decide (pos.toNat + len.toNat ≤ buffer.size.toNat) := by
  unfold inBounds
  split
  case isTrue less =>
    have rest := UInt32.toNat_sub_of_le _ _ less
    have known := UInt32.le_iff_toNat_le.mp less
    simp only [value_bind, value_sub, value_pure, decide_eq_decide,
      UInt32.le_iff_toNat_le, rest]
    omega
  case isFalse more =>
    rw [UInt32.le_iff_toNat_le] at more
    simp only [value_pure]
    exact (decide_eq_false (by omega)).symm

/-- A branch is only taken within the bounds. -/
theorem inBounds_bind_safe {pos len : UInt32}
    {inside outside : Logged Event α}
    (insideSafe : pos.toNat + len.toNat ≤ buffer.size.toNat →
      Every (Safe whole) inside)
    (outsideSafe : Every (Safe whole) outside) :
    Every (Safe whole) (do
      if ← inBounds buffer pos len then inside else outside) := by
  rw [every_bind]
  refine ⟨inBounds_safe, ?_⟩
  rw [value_inBounds]
  split
  case isTrue within => exact insideSafe (of_decide_eq_true within)
  case isFalse => exact outsideSafe

theorem value_inBounds_bind {pos len : UInt32}
    {inside outside : Logged Event α} :
    value (do
        if ← inBounds buffer pos len then inside else outside) =
      if pos.toNat + len.toNat ≤ buffer.size.toNat then
        value inside
      else
        value outside := by
  rw [value_bind, value_inBounds]
  by_cases within : pos.toNat + len.toNat ≤ buffer.size.toNat
  · simp [within]
  · simp [within]

end Bounds

/-! ## References and strings -/

section References

variable {whole buffer : Buffer} {message : UInt32} {fieldId : FieldId}
  {fieldOffset : FieldOffset}

@[simp]
theorem kHeaderSize_toNat : kHeaderSize.toNat = 2 := rfl

@[simp]
theorem kOffsetSize_toNat : kOffsetSize.toNat = 4 := rfl

/-- A pointer is where the comments of the validator say. -/
theorem pointerOffset_toNat (sized : buffer.size.toNat < 2 ^ 31)
    (header : message.toNat + 2 ≤ buffer.size.toNat) :
    (message + kHeaderSize).toNat = message.toNat + 2 ∧
      (message + kHeaderSize + fieldOffset.toUInt32).toNat =
        message.toNat + 2 + fieldOffset.toNat := by
  have small := fieldOffset.toNat_lt
  have headerSum : (message + kHeaderSize).toNat = message.toNat + 2 :=
    toNat_add (by rw [kHeaderSize_toNat]; omega)
  refine ⟨headerSum, ?_⟩
  rw [toNat_add (by rw [headerSum, UInt16.toNat_toUInt32]; omega),
    headerSum, UInt16.toNat_toUInt32]

theorem resolvePointer_safe (inside : buffer.Inside whole)
    (sized : buffer.size.toNat < 2 ^ 31)
    (header : message.toNat + 2 ≤ buffer.size.toNat) :
    Every (Safe whole) (resolvePointer buffer message fieldOffset) := by
  have small := fieldOffset.toNat_lt
  obtain ⟨headerSum, pointerSum⟩ :=
    @pointerOffset_toNat _ _ fieldOffset sized header
  unfold resolvePointer
  rw [every_bind, every_bind]
  refine ⟨add_safe (by rw [kHeaderSize_toNat]; omega), add_safe ?_, ?_⟩
  · rw [value_add, headerSum, UInt16.toNat_toUInt32]
    omega
  simp only [value_add]
  refine inBounds_bind_safe (fun within => ?_) (by simp)
  rw [every_bind]
  refine ⟨readU32_safe inside within, ?_⟩
  split
  case isTrue => simp
  case isFalse =>
    rw [every_bind]
    refine ⟨sub_safe (by omega), ?_⟩
    split
    case isTrue => simp
    case isFalse short =>
      have rest :=
        UInt32.toNat_sub_of_le buffer.size message
          (UInt32.le_iff_toNat_le.mpr (by omega))
      simp only [value_sub, value_readU32, gt_iff_lt,
        UInt32.lt_iff_toNat_lt, rest] at short
      rw [every_bind]
      refine ⟨add_safe ?_, by simp⟩
      simp only [value_readU32]
      omega

theorem resolveField_safe (inside : buffer.Inside whole)
    (sized : buffer.size.toNat < 2 ^ 31) :
    Every (Safe whole)
      (resolveField buffer message fieldId fieldOffset) := by
  unfold resolveField
  refine inBounds_bind_safe (fun header => ?_) (by simp)
  rw [every_bind]
  refine ⟨readU16_safe inside header, ?_⟩
  split
  case isTrue => simp
  case isFalse =>
    split
    case isTrue => simp
    case isFalse => exact resolvePointer_safe inside sized header

theorem add_ne_zero {first second : UInt32} (nonzero : second ≠ 0)
    (sum : (first + second).toNat = first.toNat + second.toNat) :
    first + second ≠ 0 := by
  rw [Ne, ← UInt32.toNat_inj, UInt32.toNat_zero] at nonzero ⊢
  omega

/-- What a resolved pointer refers to is not beyond the buffer. -/
theorem resolvePointer_spec {target : UInt32}
    (sized : buffer.size.toNat < 2 ^ 31)
    (header : message.toNat + 2 ≤ buffer.size.toNat)
    (resolved :
      value (resolvePointer buffer message fieldOffset) = some target) :
    message.toNat + 2 + fieldOffset.toNat + 4 ≤ buffer.size.toNat ∧
      (let pointer :=
          buffer.u32At (message.toNat + 2 + fieldOffset.toNat)
        if pointer = 0 then none else some (message.toNat + pointer.toNat)) =
        if target = 0 then none else some target.toNat := by
  obtain ⟨headerSum, pointerSum⟩ :=
    @pointerOffset_toNat _ _ fieldOffset sized header
  unfold resolvePointer at resolved
  rw [value_bind, value_bind, value_inBounds_bind] at resolved
  simp only [value_add, pointerSum, kOffsetSize_toNat] at resolved
  split at resolved
  case isFalse => cases resolved
  case isTrue within =>
    refine ⟨within, ?_⟩
    rw [value_bind, value_readU32, pointerSum] at resolved
    split at resolved
    case isTrue zero =>
      obtain rfl := Option.some.inj resolved
      simp [zero]
    case isFalse nonzero =>
      rw [value_bind, value_sub] at resolved
      split at resolved
      case isTrue => cases resolved
      case isFalse short =>
        have rest :=
          UInt32.toNat_sub_of_le buffer.size message
            (UInt32.le_iff_toNat_le.mpr (by omega))
        simp only [gt_iff_lt, UInt32.lt_iff_toNat_lt, rest] at short
        obtain rfl := Option.some.inj resolved
        have sum := toNat_add (show message.toNat +
          (buffer.u32At (message.toNat + 2 + fieldOffset.toNat)).toNat <
            2 ^ 32 by omega)
        dsimp only
        rw [if_neg nonzero, if_neg (add_ne_zero nonzero sum), sum]

/-- What a resolved field refers to is what yaff refers to. -/
theorem resolveField_spec {target : UInt32}
    (sized : buffer.size.toNat < 2 ^ 31)
    (resolved :
      value (resolveField buffer message fieldId fieldOffset) =
        some target) :
    FieldCovered buffer message.toNat fieldId fieldOffset 4 ∧
      referenceAt buffer message.toNat fieldId fieldOffset =
        if target = 0 then none else some target.toNat := by
  unfold resolveField at resolved
  rw [value_inBounds_bind] at resolved
  split at resolved
  case isFalse => cases resolved
  case isTrue header =>
    rw [value_bind, value_readU16] at resolved
    split at resolved
    case isTrue => cases resolved
    case isFalse =>
      split at resolved
      case isTrue absent =>
        obtain rfl := Option.some.inj resolved
        have notPresent : ¬Present buffer message.toNat fieldId :=
          UInt16.not_lt.mpr absent
        refine ⟨⟨header, fun present => absurd present notPresent⟩, ?_⟩
        rw [referenceAt, if_neg notPresent]
        rfl
      case isFalse within =>
        have present : Present buffer message.toNat fieldId :=
          UInt16.not_le.mp within
        obtain ⟨covered, reference⟩ :=
          resolvePointer_spec sized header resolved
        refine ⟨⟨header, fun _ => covered⟩, ?_⟩
        rw [referenceAt, if_pos present]
        exact reference

theorem resolveString_safe {offset : UInt32} (inside : buffer.Inside whole)
    (sized : buffer.size.toNat < 2 ^ 31) :
    Every (Safe whole) (resolveString buffer offset) := by
  unfold resolveString
  refine inBounds_bind_safe (fun header => ?_) (by simp)
  rw [kOffsetSize_toNat] at header
  rw [every_bind, every_bind]
  refine
    ⟨readU32_safe inside header,
      add_safe (by rw [kOffsetSize_toNat]; omega), ?_⟩
  exact inBounds_bind_safe (fun _ => by simp) (by simp)

theorem resolveString_spec {offset dataOffset length : UInt32}
    (sized : buffer.size.toNat < 2 ^ 31)
    (resolved : value (resolveString buffer offset) =
      some (dataOffset, length)) :
    StringCovered buffer offset.toNat ∧
      buffer.part dataOffset.toNat length =
        stringAt buffer offset.toNat := by
  unfold resolveString at resolved
  rw [value_inBounds_bind] at resolved
  split at resolved
  case isFalse => cases resolved
  case isTrue header =>
    rw [kOffsetSize_toNat] at header
    have sum : (offset + kOffsetSize).toNat = offset.toNat + 4 :=
      toNat_add (by rw [kOffsetSize_toNat]; omega)
    rw [value_bind, value_bind, value_inBounds_bind] at resolved
    simp only [value_add, value_readU32, sum] at resolved
    split at resolved
    case isFalse => cases resolved
    case isTrue bytes =>
      obtain ⟨rfl, rfl⟩ := Prod.mk.inj (Option.some.inj resolved)
      refine ⟨⟨header, bytes⟩, ?_⟩
      rw [sum]
      rfl

/-- What is done with a reference which is there. -/
theorem resolveField_bind_safe {next : UInt32 → Logged Event Bool}
    (inside : buffer.Inside whole) (sized : buffer.size.toNat < 2 ^ 31)
    (nextSafe : ∀ target, Every (Safe whole) (next target)) :
    Every (Safe whole) (do
      match ← resolveField buffer message fieldId fieldOffset with
      | none => return false
      | some target => if target = 0 then return true else next target) := by
  rw [every_bind]
  refine ⟨resolveField_safe inside sized, ?_⟩
  split
  case h_1 => simp
  case h_2 target _ =>
    split
    case isTrue => simp
    case isFalse => exact nextSafe target

theorem resolveField_bind_spec {next : UInt32 → Logged Event Bool}
    (sized : buffer.size.toNat < 2 ^ 31)
    (valid : value (do
      match ← resolveField buffer message fieldId fieldOffset with
      | none => return false
      | some target =>
          if target = 0 then return true else next target) = true) :
    FieldCovered buffer message.toNat fieldId fieldOffset 4 ∧
      ∀ reference,
        referenceAt buffer message.toNat fieldId fieldOffset =
            some reference →
          ∃ target, target.toNat = reference ∧ value (next target) = true := by
  rw [value_bind] at valid
  split at valid
  case h_1 => cases valid
  case h_2 target resolved =>
    obtain ⟨covered, same⟩ := resolveField_spec sized resolved
    refine ⟨covered, fun reference found => ?_⟩
    rw [same] at found
    split at found
    case isTrue => cases found
    case isFalse nonzero =>
      rw [if_neg nonzero] at valid
      exact ⟨target, Option.some.inj found, valid⟩

end References

/-! ## The validator is right -/

section Right

variable {layout : Layout} {whole buffer : Buffer}

theorem zero_covered
    (within : (0 : UInt32).toNat + kOffsetSize.toNat ≤ buffer.size.toNat) :
    4 ≤ buffer.size.toNat := by
  simpa using within

theorem validateInner_safe (inside : buffer.Inside whole)
    (sized : buffer.size.toNat < 2 ^ 31) :
    Every (Safe whole) (validateInner layout buffer) := by
  unfold validateInner
  refine inBounds_bind_safe (fun within => ?_) (by simp)
  rw [every_bind]
  refine ⟨readU32_safe inside within, ?_⟩
  refine resolveField_bind_safe inside sized fun packet => ?_
  refine resolveField_bind_safe inside sized fun payload => ?_
  rw [every_bind]
  exact ⟨resolveString_safe inside sized, by simp⟩

theorem validateInner_valid (sized : buffer.size.toNat < 2 ^ 31)
    (valid : value (validateInner layout buffer) = true) :
    InnerValid layout buffer := by
  unfold validateInner at valid
  rw [value_inBounds_bind] at valid
  split at valid
  case isFalse => cases valid
  case isTrue within =>
    rw [value_bind] at valid
    obtain ⟨packetCovered, packets⟩ := resolveField_bind_spec sized valid
    refine ⟨zero_covered within, packetCovered, fun packet found => ?_⟩
    obtain ⟨target, rfl, payloadValid⟩ := packets packet found
    obtain ⟨payloadCovered, payloads⟩ :=
      resolveField_bind_spec sized payloadValid
    refine ⟨payloadCovered, fun payload found => ?_⟩
    obtain ⟨string, rfl, resolves⟩ := payloads payload found
    rw [value_bind, value_pure] at resolves
    obtain ⟨⟨dataOffset, length⟩, resolved⟩ :=
      Option.isSome_iff_exists.mp resolves
    exact (resolveString_spec sized resolved).1

theorem stringAt_inside {string : Nat} (inside : buffer.Inside whole)
    (covered : StringCovered buffer string) :
    (stringAt buffer string).Inside whole ∧
      (stringAt buffer string).size.toNat ≤ buffer.size.toNat := by
  have bytes := covered.bytes
  unfold Buffer.Inside at inside
  simp only [Buffer.Inside, stringAt, Buffer.part]
  omega

variable {table element : UInt32}

/-- Where a packet is. -/
theorem element_toNat (sized : buffer.size.toNat < 2 ^ 31)
    (room : table.toNat ≤ buffer.size.toNat)
    (near : ¬buffer.size - table < element) :
    table.toNat + element.toNat ≤ buffer.size.toNat ∧
      (table + element).toNat = table.toNat + element.toNat := by
  have rest :=
    UInt32.toNat_sub_of_le buffer.size table
      (UInt32.le_iff_toNat_le.mpr room)
  rw [UInt32.lt_iff_toNat_lt, rest] at near
  exact ⟨by omega, toNat_add (by omega)⟩

theorem validateBlob_safe (inside : buffer.Inside whole)
    (sized : buffer.size.toNat < 2 ^ 31)
    (room : table.toNat ≤ buffer.size.toNat) :
    Every (Safe whole) (validateBlob layout buffer table element) := by
  unfold validateBlob
  rw [every_bind]
  refine ⟨sub_safe room, ?_⟩
  split
  case isTrue => simp
  case isFalse near =>
    obtain ⟨near, -⟩ := element_toNat sized room near
    rw [every_bind, every_bind]
    refine
      ⟨add_safe (by omega), resolveString_safe inside sized, ?_⟩
    split
    case h_1 => simp
    case h_2 dataOffset length resolved =>
      obtain ⟨covered, same⟩ := resolveString_spec sized resolved
      obtain ⟨blobInside, blobSized⟩ := stringAt_inside inside covered
      simp only [same]
      exact validateInner_safe blobInside (by omega)

theorem validateBlob_valid (sized : buffer.size.toNat < 2 ^ 31)
    (room : table.toNat ≤ buffer.size.toNat)
    (valid : value (validateBlob layout buffer table element) = true) :
    ElementValid layout buffer (table.toNat + element.toNat) := by
  unfold validateBlob at valid
  rw [value_bind] at valid
  split at valid
  case isTrue => cases valid
  case isFalse near =>
    obtain ⟨-, sum⟩ := element_toNat sized room near
    rw [value_bind, value_bind] at valid
    split at valid
    case h_1 => cases valid
    case h_2 dataOffset length resolved =>
      obtain ⟨covered, same⟩ := resolveString_spec sized resolved
      rw [same] at valid
      rw [value_add, sum] at covered same valid
      have inside : buffer.Inside buffer := ⟨Nat.le_refl _, Nat.le_refl _⟩
      have blobSized := (stringAt_inside inside covered).2
      exact ⟨covered, validateInner_valid (by omega) valid⟩

theorem validateElement_safe (inside : buffer.Inside whole)
    (sized : buffer.size.toNat < 2 ^ 31)
    (room : table.toNat ≤ buffer.size.toNat) :
    Every (Safe whole) (validateElement layout buffer table element) := by
  unfold validateElement
  split
  case isTrue => simp
  case isFalse => exact validateBlob_safe inside sized room

/-- Where an element of the table is. -/
theorem position_toNat {i : UInt32} {remaining : Nat}
    (sized : buffer.size.toNat < 2 ^ 31)
    (room : table.toNat + (i.toNat + (remaining + 1)) * 4 ≤
      buffer.size.toNat) :
    (i * kOffsetSize).toNat = i.toNat * 4 ∧
      (table + i * kOffsetSize).toNat = table.toNat + i.toNat * 4 ∧
      (i + 1).toNat = i.toNat + 1 := by
  have product : (i * kOffsetSize).toNat = i.toNat * 4 := by
    rw [UInt32.toNat_mul, kOffsetSize_toNat]
    exact Nat.mod_eq_of_lt (by omega)
  refine ⟨product, ?_, toNat_add (by rw [UInt32.toNat_one]; omega)⟩
  rw [toNat_add (by omega), product]

theorem validateElements_safe {i : UInt32} {remaining : Nat}
    (inside : buffer.Inside whole) (sized : buffer.size.toNat < 2 ^ 31)
    (room : table.toNat + (i.toNat + remaining) * 4 ≤
      buffer.size.toNat) :
    Every (Safe whole)
      (validateElements layout buffer table remaining i) := by
  induction remaining generalizing i with
  | zero => exact (every_pure true).mpr trivial
  | succ remaining ih =>
      obtain ⟨product, position, next⟩ := position_toNat sized room
      unfold validateElements
      rw [every_bind, every_bind, every_bind, every_bind]
      refine
        ⟨mul_safe (by rw [kOffsetSize_toNat]; omega),
          add_safe (by rw [value_mul]; omega),
          readU32_safe inside (by rw [value_mul, value_add]; omega),
          validateElement_safe inside sized (by omega), ?_⟩
      split
      case isTrue =>
        rw [every_bind]
        refine ⟨add_safe (by rw [UInt32.toNat_one]; omega), ?_⟩
        exact ih (by rw [value_add, next]; omega)
      case isFalse => simp

theorem validateElements_valid {i : UInt32} {remaining : Nat}
    (sized : buffer.size.toNat < 2 ^ 31)
    (room : table.toNat + (i.toNat + remaining) * 4 ≤ buffer.size.toNat)
    (valid :
      value (validateElements layout buffer table remaining i) = true)
    {j : Nat} (from_ : i.toNat ≤ j) (below : j < i.toNat + remaining)
    (there : elementAt buffer table.toNat j ≠ 0) :
    ElementValid layout buffer
      (table.toNat + (elementAt buffer table.toNat j).toNat) := by
  induction remaining generalizing i with
  | zero => omega
  | succ remaining ih =>
      obtain ⟨product, position, next⟩ := position_toNat sized room
      unfold validateElements at valid
      rw [value_bind, value_bind, value_bind, value_bind] at valid
      simp only [value_mul, value_add, value_readU32, position] at valid
      split at valid
      case isFalse => cases valid
      case isTrue here =>
        rcases Nat.eq_or_lt_of_le from_ with same | later
        · subst same
          rw [validateElement, ← elementAt, if_neg there] at here
          exact validateBlob_valid sized (by omega) here
        · rw [value_bind, value_add] at valid
          exact
            ih (by rw [next]; omega) valid (by omega) (by omega)

/-- The length of a table. -/
theorem length_toNat {count : UInt32}
    (sized : buffer.size.toNat < 2 ^ 31)
    (notMore : ¬buffer.size / kOffsetSize < count) :
    count.toNat * 4 ≤ buffer.size.toNat ∧
      (count * kOffsetSize).toNat = count.toNat * 4 := by
  have few := UInt32.le_iff_toNat_le.mp (UInt32.not_lt.mp notMore)
  rw [UInt32.toNat_div, kOffsetSize_toNat] at few
  refine ⟨by omega, ?_⟩
  rw [UInt32.toNat_mul, kOffsetSize_toNat]
  exact Nat.mod_eq_of_lt (by omega)

theorem validateTable_safe {count : UInt32} (inside : buffer.Inside whole)
    (sized : buffer.size.toNat < 2 ^ 31) :
    Every (Safe whole) (validateTable layout buffer table count) := by
  unfold validateTable
  split
  case isTrue => simp
  case isFalse notMore =>
    obtain ⟨few, product⟩ := length_toNat sized notMore
    rw [every_bind]
    refine ⟨mul_safe (by rw [kOffsetSize_toNat]; omega), ?_⟩
    refine inBounds_bind_safe (fun room => ?_) (by simp)
    rw [value_mul, product] at room
    exact
      validateElements_safe inside sized
        (by rw [UInt32.toNat_zero]; omega)

theorem validateTable_valid {count : UInt32}
    (sized : buffer.size.toNat < 2 ^ 31)
    (valid : value (validateTable layout buffer table count) = true) :
    table.toNat + count.toNat * 4 ≤ buffer.size.toNat ∧
      ∀ i < count.toNat, elementAt buffer table.toNat i ≠ 0 →
        ElementValid layout buffer
          (table.toNat + (elementAt buffer table.toNat i).toNat) := by
  unfold validateTable at valid
  split at valid
  case isTrue => cases valid
  case isFalse notMore =>
    obtain ⟨few, product⟩ := length_toNat sized notMore
    rw [value_bind, value_inBounds_bind, value_mul, product] at valid
    split at valid
    case isFalse => cases valid
    case isTrue room =>
      refine ⟨room, fun i below there => ?_⟩
      exact
        validateElements_valid sized (by rw [UInt32.toNat_zero]; omega)
          valid (by rw [UInt32.toNat_zero]; omega)
          (by rw [UInt32.toNat_zero]; omega) there

theorem validatePacketArray_safe {array : UInt32}
    (inside : buffer.Inside whole) (sized : buffer.size.toNat < 2 ^ 31) :
    Every (Safe whole) (validatePacketArray layout buffer array) := by
  unfold validatePacketArray
  refine inBounds_bind_safe (fun header => ?_) (by simp)
  rw [kOffsetSize_toNat] at header
  rw [every_bind, every_bind]
  exact
    ⟨readU32_safe inside header,
      add_safe (by rw [kOffsetSize_toNat]; omega),
      validateTable_safe inside sized⟩

theorem validatePacketArray_valid {array : UInt32}
    (sized : buffer.size.toNat < 2 ^ 31)
    (valid : value (validatePacketArray layout buffer array) = true) :
    ArrayValid layout buffer array.toNat := by
  unfold validatePacketArray at valid
  rw [value_inBounds_bind] at valid
  split at valid
  case isFalse => cases valid
  case isTrue header =>
    rw [kOffsetSize_toNat] at header
    have sum : (array + kOffsetSize).toNat = array.toNat + 4 :=
      toNat_add (by rw [kOffsetSize_toNat]; omega)
    rw [value_bind, value_bind] at valid
    obtain ⟨room, elements⟩ := validateTable_valid sized valid
    rw [value_add, sum, value_readU32] at room elements
    exact ⟨header, room, elements⟩

/-- The validator reads inside the message, and does not wrap around. -/
theorem validate_safe (sized : buffer.size.toNat < 2 ^ 31) :
    Every (Safe buffer) (validate layout buffer) := by
  have inside : buffer.Inside buffer := ⟨Nat.le_refl _, Nat.le_refl _⟩
  unfold validate validateBatch
  refine inBounds_bind_safe (fun within => ?_) (by simp)
  rw [every_bind]
  refine ⟨readU32_safe inside within, ?_⟩
  refine resolveField_bind_safe inside sized fun batch => ?_
  refine resolveField_bind_safe inside sized fun array => ?_
  exact validatePacketArray_safe inside sized

theorem validate_valid (sized : buffer.size.toNat < 2 ^ 31)
    (valid : value (validate layout buffer) = true) :
    BatchValid layout buffer := by
  unfold validate validateBatch at valid
  rw [value_inBounds_bind] at valid
  split at valid
  case isFalse => cases valid
  case isTrue within =>
    rw [value_bind] at valid
    obtain ⟨batchCovered, batches⟩ := resolveField_bind_spec sized valid
    refine ⟨zero_covered within, batchCovered, fun batch found => ?_⟩
    obtain ⟨target, rfl, packetsValid⟩ := batches batch found
    obtain ⟨packetsCovered, arrays⟩ :=
      resolveField_bind_spec sized packetsValid
    refine ⟨packetsCovered, fun array found => ?_⟩
    obtain ⟨start, rfl, arrayValid⟩ := arrays array found
    exact validatePacketArray_valid sized arrayValid

end Right

end Fptn.Protocol.YaffValidator
