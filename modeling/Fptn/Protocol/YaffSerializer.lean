import Fptn.Protocol.YaffValidator

/-!
# Reading yaff messages

`DeserializeBatchIPPacket` reads a message which has been validated, and
`DeserializeIPAssignmentMessage` one of which only the root offset has been
looked at.  The accessors of yaff are those which the comments of the validator
assume: a field is read if it is within the typed limit, and a reference which
is zero is not followed.

The validator does not look at the message types, which both functions read
first.
-/

namespace Fptn.Protocol.YaffSerializer

open Fptn.EventLog
open Fptn.Protocol.YaffValidator

/-! ## Accessors -/

def MSG_IP_PACKET : Nat := 1

def MSG_IP_ASSIGNMENT : Nat := 2

def MSG_BATCH_IP_PACKET : Nat := 3

section Accessors

variable (layout : Layout) (buffer : Buffer)

/-- Where the message is. -/
def readMessage : Logged Event Nat := do
  record (.read buffer 0 4)
  return rootAt buffer

def has (message : Nat) (fieldId : FieldId) : Logged Event Bool := do
  record (.read buffer message 2)
  return decide (Present buffer message fieldId)

/-- The type in a message; an absent one is zero. -/
def msgTypeAt (message : Nat) : Nat :=
  if Present buffer message Message.ID_MSG_TYPE then
    buffer.valueAt
      (message + 2 + (layout.message Message.ID_MSG_TYPE).toNat)
      layout.msgTypeSize
  else
    0

def msgType (message : Nat) : Logged Event Nat := do
  if ← has buffer message Message.ID_MSG_TYPE then
    record
      (.read buffer
        (message + 2 + (layout.message Message.ID_MSG_TYPE).toNat)
        layout.msgTypeSize)
    return msgTypeAt layout buffer message
  else
    return 0

/-- What a field refers to; nothing, if a default is used. -/
def reference (message : Nat) (fieldId : FieldId)
    (fieldOffset : FieldOffset) : Logged Event (Option Nat) := do
  if ← has buffer message fieldId then
    record (.read buffer (message + 2 + fieldOffset.toNat) 4)
    return referenceAt buffer message fieldId fieldOffset
  else
    return none

/-- `AsStringView`. -/
def asStringView (string : Nat) : Logged Event Buffer := do
  record (.read buffer string 4)
  return stringAt buffer string

/-- The copy which is made of a string in a field. -/
def stringField (message : Nat) (fieldId : FieldId)
    (fieldOffset : FieldOffset) : Logged Event (List UInt8) := do
  match ← reference buffer message fieldId fieldOffset with
  | none => return []
  | some string =>
      let view ← asStringView buffer string
      record (.read buffer (string + 4) view.size.toNat)
      return buffer.bytesAt (string + 4) view.size.toNat

end Accessors

/-! ## Deserializing -/

section Deserialize

variable (layout : Layout) (buffer : Buffer)

def readPayload (message : Nat) : Logged Event (List UInt8) := do
  match ← reference buffer message Message.ID_PACKET
      (layout.message Message.ID_PACKET) with
  | none => return []
  | some packet =>
      stringField buffer packet IPPacket.ID_PAYLOAD
        (layout.ipPacket IPPacket.ID_PAYLOAD)

/-- The body of the loop; `none` is `continue`. -/
def readPacket (raw : Buffer) : Logged Event (Option (List UInt8)) := do
  if ← hasValidYaffRootOffset raw then
    let inner ← readMessage raw
    let type ← msgType layout raw inner
    if type = MSG_IP_PACKET then
      let payload ← readPayload layout raw inner
      return if payload.isEmpty then none else some payload
    else
      return none
  else
    return none

/-- A null element is an empty string. -/
def readElement (table i : Nat) :
    Logged Event (Option (List UInt8)) := do
  record (.read buffer (table + i * 4) 4)
  if elementAt buffer table i = 0 then
    readPacket layout (buffer.part 0 0)
  else
    let raw ←
      asStringView buffer (table + (elementAt buffer table i).toNat)
    readPacket layout raw

def readElements (table : Nat) :
    Nat → Nat → Logged Event (List (List UInt8))
  | 0, _ => return []
  | remaining + 1, i => do
      let packet ← readElement layout buffer table i
      let rest ← readElements table remaining (i + 1)
      return packet.toList ++ rest

/-- The array is read once here; it is read in the same way for
`reserve`. -/
def readPackets (batch : Nat) : Logged Event (List (List UInt8)) := do
  match ← reference buffer batch BatchIPPacket.ID_PACKETS
      (layout.batchIPPacket BatchIPPacket.ID_PACKETS) with
  | none => return []
  | some array =>
      record (.read buffer array 4)
      readElements layout buffer (array + 4)
        (buffer.u32At array).toNat 0

/-- What follows the validation. -/
def readBatch : Logged Event (List (List UInt8)) := do
  let message ← readMessage buffer
  let type ← msgType layout buffer message
  if type = MSG_BATCH_IP_PACKET then
    match ← reference buffer message Message.ID_BATCH
        (layout.message Message.ID_BATCH) with
    | none => return []
    | some batch => readPackets layout buffer batch
  else
    return []

def deserializeBatchIPPacket : Logged Event (List (List UInt8)) := do
  if buffer.size = 0 then
    return []
  else if ← hasValidYaffRootOffset buffer then
    if ← validate layout buffer then
      readBatch layout buffer
    else
      return []
  else
    return []

/-- The addresses; a default assignment has none. -/
def readAddresses (message : Nat) :
    Logged Event (List UInt8 × List UInt8) := do
  match ← reference buffer message Message.ID_IP_ADDRESSES
      (layout.message Message.ID_IP_ADDRESSES) with
  | none => return ([], [])
  | some assignment =>
      let ipv4 ←
        stringField buffer assignment IPAssignment.ID_ADDRESS_IPV4
          (layout.ipAssignment IPAssignment.ID_ADDRESS_IPV4)
      let ipv6 ←
        stringField buffer assignment IPAssignment.ID_ADDRESS_IPV6
          (layout.ipAssignment IPAssignment.ID_ADDRESS_IPV6)
      return (ipv4, ipv6)

def deserializeIPAssignmentMessage :
    Logged Event (Option (List UInt8 × List UInt8)) := do
  if ← hasValidYaffRootOffset buffer then
    let message ← readMessage buffer
    let type ← msgType layout buffer message
    if type = MSG_IP_ASSIGNMENT then
      let (ipv4, ipv6) ← readAddresses layout buffer message
      return if ipv4.isEmpty || ipv6.isEmpty then none
        else some (ipv4, ipv6)
    else
      return none
  else
    return none

end Deserialize

/-! ## What is covered -/

section Covered

variable (layout : Layout) (buffer : Buffer)

/-- The type of the message lies in the buffer. -/
def TypeCovered : Prop :=
  FieldCovered buffer (rootAt buffer) Message.ID_MSG_TYPE
    (layout.message Message.ID_MSG_TYPE) layout.msgTypeSize

/-- The blob of a packet. -/
def IsBlob (blob : Buffer) : Prop :=
  ∃ batch array i,
    referenceAt buffer (rootAt buffer) Message.ID_BATCH
        (layout.message Message.ID_BATCH) = some batch ∧
      referenceAt buffer batch BatchIPPacket.ID_PACKETS
          (layout.batchIPPacket BatchIPPacket.ID_PACKETS) = some array ∧
        i < (buffer.u32At array).toNat ∧
          elementAt buffer (array + 4) i ≠ 0 ∧
            blob = stringAt buffer
              (array + 4 + (elementAt buffer (array + 4) i).toNat)

/-- The types of the message and of its packets lie in the buffers. -/
structure TypesCovered : Prop where
  outer : TypeCovered layout buffer
  inner : msgTypeAt layout buffer (rootAt buffer) = MSG_BATCH_IP_PACKET →
    ∀ blob, IsBlob layout buffer blob → TypeCovered layout blob

/-- A field and its string lie in the buffer. -/
def StringFieldCovered (message : Nat) (fieldId : FieldId)
    (fieldOffset : FieldOffset) : Prop :=
  FieldCovered buffer message fieldId fieldOffset 4 ∧
    ∀ string, referenceAt buffer message fieldId fieldOffset = some string →
      StringCovered buffer string

/-- What a validator would have to look at. -/
structure AssignmentCovered : Prop where
  type : TypeCovered layout buffer
  addresses : msgTypeAt layout buffer (rootAt buffer) = MSG_IP_ASSIGNMENT →
    FieldCovered buffer (rootAt buffer) Message.ID_IP_ADDRESSES
        (layout.message Message.ID_IP_ADDRESSES) 4 ∧
      ∀ assignment,
        referenceAt buffer (rootAt buffer) Message.ID_IP_ADDRESSES
            (layout.message Message.ID_IP_ADDRESSES) = some assignment →
          StringFieldCovered buffer assignment IPAssignment.ID_ADDRESS_IPV4
              (layout.ipAssignment IPAssignment.ID_ADDRESS_IPV4) ∧
            StringFieldCovered buffer assignment
              IPAssignment.ID_ADDRESS_IPV6
              (layout.ipAssignment IPAssignment.ID_ADDRESS_IPV6)

end Covered

/-! ## What the accessors read -/

section Reads

variable {layout : Layout} {whole buffer : Buffer} {message : Nat}
  {fieldId : FieldId} {fieldOffset : FieldOffset}

theorem hasValidYaffRootOffset_safe (inside : buffer.Inside whole) :
    Every (Safe whole) (hasValidYaffRootOffset buffer) := by
  unfold hasValidYaffRootOffset
  split
  case isTrue => simp
  case isFalse long =>
    have sized := UInt32.le_iff_toNat_le.mp (UInt32.not_lt.mp long)
    rw [kOffsetSize_toNat] at sized
    simp only [every_bind, every_record, every_pure, and_true]
    exact ⟨inside, by omega⟩

theorem value_hasValidYaffRootOffset :
    value (hasValidYaffRootOffset buffer) = true ↔
      4 ≤ buffer.size.toNat ∧ rootAt buffer < buffer.size.toNat := by
  unfold hasValidYaffRootOffset
  split
  case isTrue short =>
    rw [UInt32.lt_iff_toNat_lt, kOffsetSize_toNat] at short
    simp only [value_pure, Bool.false_eq_true, false_iff]
    omega
  case isFalse long =>
    have sized := UInt32.le_iff_toNat_le.mp (UInt32.not_lt.mp long)
    rw [kOffsetSize_toNat] at sized
    simp only [value_bind, value_pure, decide_eq_true_eq,
      UInt32.lt_iff_toNat_lt, rootAt]
    exact ⟨fun below => ⟨sized, below⟩, And.right⟩

@[simp]
theorem value_readMessage : value (readMessage buffer) = rootAt buffer :=
  rfl

theorem readMessage_safe (inside : buffer.Inside whole)
    (root : 4 ≤ buffer.size.toNat) :
    Every (Safe whole) (readMessage buffer) := by
  simp only [readMessage, every_bind, every_record, every_pure, and_true]
  exact ⟨inside, by omega⟩

@[simp]
theorem value_msgType :
    value (msgType layout buffer message) =
      msgTypeAt layout buffer message := by
  unfold msgType
  simp only [has, value_bind, value_pure]
  by_cases present : Present buffer message Message.ID_MSG_TYPE
  · simp [present]
  · simp [present, msgTypeAt]

@[simp]
theorem value_reference :
    value (reference buffer message fieldId fieldOffset) =
      referenceAt buffer message fieldId fieldOffset := by
  unfold reference
  simp only [has, value_bind, value_pure]
  by_cases present : Present buffer message fieldId
  · simp [present]
  · simp [present, referenceAt]

/-- A field is read with its header. -/
theorem has_bind_safe_iff {α : Type} {length : Nat} {result other : α}
    (inside : buffer.Inside whole) :
    Every (Safe whole) (do
        if ← has buffer message fieldId then
          record (.read buffer (message + 2 + fieldOffset.toNat) length)
          return result
        else
          return other) ↔
      FieldCovered buffer message fieldId fieldOffset length := by
  have found : value (has buffer message fieldId) =
      decide (Present buffer message fieldId) :=
    rfl
  have header : Every (Safe whole) (has buffer message fieldId) ↔
      message + 2 ≤ buffer.size.toNat := by
    simp only [has, every_bind, every_record, every_pure, and_true]
    exact and_iff_right inside
  rw [every_bind, header]
  constructor
  · rintro ⟨header, field⟩
    refine ⟨header, fun present => ?_⟩
    rw [if_pos (found.trans (decide_eq_true present))] at field
    simp only [every_bind, every_record, every_pure, and_true] at field
    exact field.2
  · rintro ⟨header, field⟩
    refine ⟨header, ?_⟩
    split
    case isTrue present =>
      simp only [every_bind, every_record, every_pure, and_true]
      exact ⟨inside, field (of_decide_eq_true (found ▸ present))⟩
    case isFalse => simp

theorem msgType_safe_iff (inside : buffer.Inside whole) :
    Every (Safe whole) (msgType layout buffer message) ↔
      FieldCovered buffer message Message.ID_MSG_TYPE
        (layout.message Message.ID_MSG_TYPE) layout.msgTypeSize :=
  has_bind_safe_iff inside

theorem reference_safe_iff (inside : buffer.Inside whole) :
    Every (Safe whole) (reference buffer message fieldId fieldOffset) ↔
      FieldCovered buffer message fieldId fieldOffset 4 :=
  has_bind_safe_iff inside

theorem stringField_safe_iff (inside : buffer.Inside whole) :
    Every (Safe whole) (stringField buffer message fieldId fieldOffset) ↔
      StringFieldCovered buffer message fieldId fieldOffset := by
  unfold stringField StringFieldCovered
  rw [every_bind, reference_safe_iff inside, value_reference]
  refine and_congr_right fun _ => ?_
  cases referenceAt buffer message fieldId fieldOffset with
  | none => simp
  | some string =>
      simp only [asStringView, every_bind, every_record, every_pure,
        and_true, value_bind, value_pure, Safe,
        Option.some.injEq, forall_eq']
      constructor
      · rintro ⟨⟨-, header⟩, -, bytes⟩
        exact ⟨header, bytes⟩
      · rintro ⟨header, bytes⟩
        exact ⟨⟨inside, header⟩, inside, bytes⟩

end Reads

/-! ## Batches -/

section Batches

variable {layout : Layout} {whole buffer raw : Buffer} {table i : Nat}

theorem readPayload_safe (inside : raw.Inside whole)
    (valid : InnerValid layout raw) :
    Every (Safe whole) (readPayload layout raw (rootAt raw)) := by
  unfold readPayload
  rw [every_bind, reference_safe_iff inside, value_reference]
  refine ⟨valid.packet, ?_⟩
  cases found : referenceAt raw (rootAt raw) Message.ID_PACKET
      (layout.message Message.ID_PACKET) with
  | none => simp
  | some packet =>
      exact (stringField_safe_iff inside).mpr (valid.payload packet found)

/-- Of a valid packet, the type only can be out of bounds. -/
theorem readPacket_safe_iff (inside : raw.Inside whole)
    (valid : InnerValid layout raw) :
    Every (Safe whole) (readPacket layout raw) ↔
      TypeCovered layout raw := by
  have root : value (hasValidYaffRootOffset raw) = true := by
    have header := valid.packet.header
    exact value_hasValidYaffRootOffset.mpr ⟨valid.root, by omega⟩
  unfold readPacket
  rw [every_bind, and_iff_right (hasValidYaffRootOffset_safe inside),
    if_pos root, every_bind,
    and_iff_right (readMessage_safe inside valid.root), every_bind,
    msgType_safe_iff inside, value_readMessage]
  refine and_iff_left ?_
  split
  case isTrue =>
    rw [every_bind]
    exact ⟨readPayload_safe inside valid, by simp⟩
  case isFalse => simp

theorem readPacket_empty :
    Every (Safe whole) (readPacket layout (buffer.part 0 0)) := by
  have short : hasValidYaffRootOffset (buffer.part 0 0) = pure false :=
    if_pos (by decide : (0 : UInt32) < kOffsetSize)
  unfold readPacket
  rw [short]
  simp [every_bind]

theorem readElement_safe_iff (inside : buffer.Inside whole)
    (position : table + i * 4 + 4 ≤ buffer.size.toNat)
    (valid : elementAt buffer table i ≠ 0 →
      ElementValid layout buffer
        (table + (elementAt buffer table i).toNat)) :
    Every (Safe whole) (readElement layout buffer table i) ↔
      (elementAt buffer table i ≠ 0 →
        TypeCovered layout
          (stringAt buffer
            (table + (elementAt buffer table i).toNat))) := by
  have read : Safe whole (.read buffer (table + i * 4) 4) :=
    ⟨inside, position⟩
  unfold readElement
  rw [every_bind, every_record, and_iff_right read]
  split
  case isTrue null =>
    exact
      ⟨fun _ there => absurd null there, fun _ => readPacket_empty⟩
  case isFalse there =>
    have element := valid there
    have blobInside := (stringAt_inside inside element.covered).1
    simp only [asStringView, every_bind, every_record, every_pure, and_true,
      value_bind, value_pure, readPacket_safe_iff blobInside element.inner,
      Safe]
    rw [and_iff_right ⟨inside, element.covered.header⟩]
    exact ⟨fun covered _ => covered, fun covered => covered there⟩

theorem readElements_safe_iff {remaining : Nat}
    (inside : buffer.Inside whole)
    (room : table + (i + remaining) * 4 ≤ buffer.size.toNat)
    (valid : ∀ j < i + remaining, elementAt buffer table j ≠ 0 →
      ElementValid layout buffer
        (table + (elementAt buffer table j).toNat)) :
    Every (Safe whole) (readElements layout buffer table remaining i) ↔
      ∀ j, i ≤ j → j < i + remaining → elementAt buffer table j ≠ 0 →
        TypeCovered layout
          (stringAt buffer
            (table + (elementAt buffer table j).toNat)) := by
  induction remaining generalizing i with
  | zero =>
      constructor
      · intro _ j from_ below
        omega
      · exact fun _ => (every_pure _).mpr trivial
  | succ remaining ih =>
      unfold readElements
      rw [every_bind, every_bind, every_pure, and_true,
        readElement_safe_iff inside (by omega) (valid i (by omega)),
        ih (by omega) fun j below => valid j (by omega)]
      constructor
      · rintro ⟨first, rest⟩ j from_ below
        rcases Nat.eq_or_lt_of_le from_ with same | later
        · subst same
          exact first
        · exact rest j later (by omega)
      · intro all
        exact
          ⟨all i (Nat.le_refl i) (by omega), fun j from_ below =>
            all j (by omega) (by omega)⟩

theorem readPackets_safe_iff {batch : Nat} (inside : buffer.Inside whole)
    (valid : BatchValid layout buffer)
    (batchFound : referenceAt buffer (rootAt buffer) Message.ID_BATCH
      (layout.message Message.ID_BATCH) = some batch) :
    Every (Safe whole) (readPackets layout buffer batch) ↔
      ∀ blob, IsBlob layout buffer blob → TypeCovered layout blob := by
  obtain ⟨covered, arrays⟩ := valid.packets batch batchFound
  unfold readPackets
  rw [every_bind, reference_safe_iff inside, and_iff_right covered,
    value_reference]
  cases arrayFound : referenceAt buffer batch BatchIPPacket.ID_PACKETS
      (layout.batchIPPacket BatchIPPacket.ID_PACKETS) with
  | none =>
      refine ⟨?_, fun _ => (every_pure _).mpr trivial⟩
      rintro - blob ⟨other, array, i, otherFound, otherArray, -⟩
      obtain rfl := Option.some.inj (batchFound.symm.trans otherFound)
      rw [arrayFound] at otherArray
      cases otherArray
  | some array =>
      have arrayValid := arrays array arrayFound
      have read : Safe whole (.read buffer array 4) :=
        ⟨inside, arrayValid.header⟩
      rw [every_bind, every_record, and_iff_right read,
        readElements_safe_iff inside
          (by rw [Nat.zero_add]; exact arrayValid.table)
          (by rw [Nat.zero_add]; exact arrayValid.elements),
        Nat.zero_add]
      constructor
      · rintro all blob ⟨other, start, i, otherFound, otherArray, below,
          there, rfl⟩
        obtain rfl := Option.some.inj (batchFound.symm.trans otherFound)
        obtain rfl := Option.some.inj (arrayFound.symm.trans otherArray)
        exact all i (Nat.zero_le i) below there
      · intro all j _ below there
        exact
          all _
            ⟨batch, array, j, batchFound, arrayFound, below, there, rfl⟩

/-- Of a valid batch, the types only can be out of bounds. -/
theorem readBatch_safe_iff (inside : buffer.Inside whole)
    (valid : BatchValid layout buffer) :
    Every (Safe whole) (readBatch layout buffer) ↔
      TypesCovered layout buffer := by
  have root :=
    readMessage_safe inside valid.root
  unfold readBatch
  rw [every_bind, and_iff_right root, every_bind, msgType_safe_iff inside,
    value_readMessage, value_msgType]
  constructor
  · rintro ⟨outer, rest⟩
    refine ⟨outer, fun isBatch blob isBlob => ?_⟩
    rw [if_pos isBatch, every_bind, value_reference] at rest
    obtain ⟨batch, array, i, batchFound, -⟩ := id isBlob
    have packets := rest.2
    rw [batchFound] at packets
    exact (readPackets_safe_iff inside valid batchFound).mp packets blob
      isBlob
  · rintro ⟨outer, inner⟩
    refine ⟨outer, ?_⟩
    split
    case isTrue isBatch =>
      rw [every_bind, reference_safe_iff inside, value_reference]
      refine ⟨valid.batch, ?_⟩
      cases batchFound : referenceAt buffer (rootAt buffer)
          Message.ID_BATCH (layout.message Message.ID_BATCH) with
      | none => exact (every_pure _).mpr trivial
      | some batch =>
          exact
            (readPackets_safe_iff inside valid batchFound).mpr
              (inner isBatch)
    case isFalse => exact (every_pure _).mpr trivial

theorem deserializeBatchIPPacket_safe_iff
    (sized : buffer.size.toNat < 2 ^ 31) :
    Every (Safe buffer) (deserializeBatchIPPacket layout buffer) ↔
      (value (hasValidYaffRootOffset buffer) = true →
        value (validate layout buffer) = true →
          TypesCovered layout buffer) := by
  have inside : buffer.Inside buffer := ⟨Nat.le_refl _, Nat.le_refl _⟩
  have rootSafe := hasValidYaffRootOffset_safe inside
  unfold deserializeBatchIPPacket
  split
  case isTrue empty =>
    refine ⟨fun _ root => ?_, fun _ => (every_pure _).mpr trivial⟩
    have long := (value_hasValidYaffRootOffset.mp root).1
    rw [empty, UInt32.toNat_zero] at long
    omega
  case isFalse =>
    rw [every_bind, and_iff_right rootSafe]
    split
    case isFalse bad =>
      exact
        ⟨fun _ root => absurd root bad, fun _ => (every_pure _).mpr trivial⟩
    case isTrue root =>
      rw [every_bind, and_iff_right (validate_safe sized)]
      split
      case isFalse bad =>
        exact
          ⟨fun _ _ valid => absurd valid bad,
            fun _ => (every_pure _).mpr trivial⟩
      case isTrue valid =>
        rw [readBatch_safe_iff inside (validate_valid sized valid)]
        exact
          ⟨fun covered _ _ => covered, fun covered => covered root valid⟩

end Batches

/-! ## Assignments -/

section Assignments

variable {layout : Layout} {whole buffer : Buffer}

theorem readAddresses_safe_iff {message : Nat}
    (inside : buffer.Inside whole) :
    Every (Safe whole) (readAddresses layout buffer message) ↔
      FieldCovered buffer message Message.ID_IP_ADDRESSES
          (layout.message Message.ID_IP_ADDRESSES) 4 ∧
        ∀ assignment,
          referenceAt buffer message Message.ID_IP_ADDRESSES
              (layout.message Message.ID_IP_ADDRESSES) = some assignment →
            StringFieldCovered buffer assignment
                IPAssignment.ID_ADDRESS_IPV4
                (layout.ipAssignment IPAssignment.ID_ADDRESS_IPV4) ∧
              StringFieldCovered buffer assignment
                IPAssignment.ID_ADDRESS_IPV6
                (layout.ipAssignment IPAssignment.ID_ADDRESS_IPV6) := by
  unfold readAddresses
  rw [every_bind, reference_safe_iff inside, value_reference]
  refine and_congr_right fun _ => ?_
  cases referenceAt buffer message Message.ID_IP_ADDRESSES
      (layout.message Message.ID_IP_ADDRESSES) with
  | none => simp
  | some assignment =>
      simp only [every_bind, every_pure, and_true,
        stringField_safe_iff inside, Option.some.injEq, forall_eq']

theorem deserializeIPAssignmentMessage_safe_iff :
    Every (Safe buffer) (deserializeIPAssignmentMessage layout buffer) ↔
      (value (hasValidYaffRootOffset buffer) = true →
        AssignmentCovered layout buffer) := by
  have inside : buffer.Inside buffer := ⟨Nat.le_refl _, Nat.le_refl _⟩
  have rootSafe := hasValidYaffRootOffset_safe inside
  unfold deserializeIPAssignmentMessage
  rw [every_bind, and_iff_right rootSafe]
  split
  case isFalse bad =>
    exact
      ⟨fun _ root => absurd root bad, fun _ => (every_pure _).mpr trivial⟩
  case isTrue root =>
    have long := (value_hasValidYaffRootOffset.mp root).1
    rw [every_bind, and_iff_right (readMessage_safe inside long),
      every_bind, msgType_safe_iff inside, value_readMessage,
      value_msgType]
    constructor
    · rintro ⟨type, rest⟩ -
      refine ⟨type, fun isAssignment => ?_⟩
      rw [if_pos isAssignment, every_bind,
        readAddresses_safe_iff inside] at rest
      exact rest.1
    · intro covered
      refine ⟨(covered root).type, ?_⟩
      split
      case isTrue isAssignment =>
        rw [every_bind, readAddresses_safe_iff inside]
        exact ⟨(covered root).addresses isAssignment, by simp⟩
      case isFalse => exact (every_pure _).mpr trivial

end Assignments

/-! ## All reads -/

/-- The validator is safe; a validated batch is read inside the message, and
inside each packet, exactly if the types are covered; and an assignment
exactly if everything is covered which a validator would have to look at. -/
theorem deserialize_safe_iff (layout : Layout) (buffer : Buffer)
    (sized : buffer.size.toNat < 2 ^ 31) :
    Every (Safe buffer) (hasValidYaffRootOffset buffer) ∧
      Every (Safe buffer) (validate layout buffer) ∧
        (Every (Safe buffer) (deserializeBatchIPPacket layout buffer) ↔
          (value (hasValidYaffRootOffset buffer) = true →
            value (validate layout buffer) = true →
              TypesCovered layout buffer)) ∧
          (Every (Safe buffer)
              (deserializeIPAssignmentMessage layout buffer) ↔
            (value (hasValidYaffRootOffset buffer) = true →
              AssignmentCovered layout buffer)) :=
  ⟨hasValidYaffRootOffset_safe ⟨Nat.le_refl _, Nat.le_refl _⟩,
    validate_safe sized, deserializeBatchIPPacket_safe_iff sized,
    deserializeIPAssignmentMessage_safe_iff⟩

/-! ## A batch and two short messages -/

/-- The fields in order, with four bytes each. -/
def sequential : Layout where
  message id := 4 * (id - 1)
  ipPacket id := 4 * (id - 1)
  ipAssignment id := 4 * (id - 1)
  batchIPPacket id := 4 * (id - 1)
  msgTypeSize := 4

/-- A received message. -/
def received (bytes : List UInt8) : Buffer where
  memory address := bytes.getD address 0
  data := 0
  size := UInt32.ofNat bytes.length

/-- A packet of a single byte. -/
def oneByteBatch : Buffer :=
  received
    ([4, 0, 0, 0,
      0x1F, 0x80, 1, 0, 0, 0, 3, 0, 0, 0, 0, 0, 0, 0, 0, 0, 0, 0,
      0, 0, 0, 0, 26, 0, 0, 0,
      0x0B, 0x80, 6, 0, 0, 0,
      1, 0, 0, 0, 4, 0, 0, 0,
      33, 0, 0, 0] ++
      [4, 0, 0, 0,
        0x17, 0x80, 1, 0, 0, 0, 1, 0, 0, 0, 0, 0, 0, 0, 18, 0, 0, 0,
        0x0B, 0x80, 6, 0, 0, 0,
        1, 0, 0, 0, 0x45])

/-- It is read inside the message. -/
theorem oneByteBatch_covered :
    value (deserializeBatchIPPacket sequential oneByteBatch) = [[0x45]] ∧
      Every (Safe oneByteBatch) (validate sequential oneByteBatch) ∧
        TypesCovered sequential oneByteBatch := by
  have safe :=
    deserialize_safe_iff sequential oneByteBatch (by decide +kernel)
  have read : Every (Safe oneByteBatch)
      (deserializeBatchIPPacket sequential oneByteBatch) := by
    unfold Every
    decide +kernel
  exact
    ⟨by decide +kernel, safe.2.1,
      safe.2.2.1.mp read (by decide +kernel) (by decide +kernel)⟩

/-- A header which announces a type and no batch, at the end. -/
def typeMissing : Buffer := received [4, 0, 0, 0, 0x0F, 0x80]

/-- A root offset which leaves no room for a header. -/
def headerMissing : Buffer := received [3, 0, 0, 0]

/-- The first one is validated, and its type is read beyond the end; the
header of the second one is read beyond the end. -/
theorem short_messages_unsafe :
    (¬∀ (layout : Layout) (buffer : Buffer),
      buffer.size.toNat < 2 ^ 31 →
        value (hasValidYaffRootOffset buffer) = true →
          value (validate layout buffer) = true →
            Every (Safe buffer) (deserializeBatchIPPacket layout buffer)) ∧
      ¬∀ (layout : Layout) (buffer : Buffer),
        buffer.size.toNat < 2 ^ 31 →
          Every (Safe buffer)
            (deserializeIPAssignmentMessage layout buffer) := by
  constructor
  · intro safe
    have read :=
      safe sequential typeMissing (by decide +kernel) (by decide +kernel)
        (by decide +kernel)
    unfold Every at read
    exact absurd read (by decide +kernel)
  · intro safe
    have read := safe sequential headerMissing (by decide +kernel)
    unfold Every at read
    exact absurd read (by decide +kernel)

end Fptn.Protocol.YaffSerializer
