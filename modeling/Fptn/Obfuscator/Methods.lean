import Fptn.Lib.BigEndian
import Fptn.Lib.RecordScan

/-!
# The obfuscation methods

`TlsObfuscator` and `TlsObfuscator2` wrap each write in a record which looks
like TLS application data: a packed header, the payload combined with a key,
and random padding.  They differ in the header, in how they recognise it, and
in what they do with bytes they do not recognise.  What they share is written
once, for a structure with the parts in which they differ.
-/

namespace Fptn.Obfuscator.Methods

open Fptn.BigEndian
open Fptn.RecordScan

/-- The random choices behind one record. -/
structure Draw where
  /-- The eight bytes in the order in which the host stores them. -/
  randomData : UInt64
  xorKey : UInt8
  padding : List UInt8

/-- What an obfuscation method consists of. -/
structure IObfuscator where
  kMaxBufferSize : Nat
  headerSize : Nat
  minPadding : Nat
  maxPadding : Nat
  /-- The header of a record, from its payload's length and the time. -/
  header : Draw → UInt32 → Nat → List UInt8
  /-- What a window of the input buffer is taken for; each iteration of the
  search reads the clock anew. -/
  inspect : (Nat → UInt32) → Nat → List UInt8 → Verdict

def applyXorTransform (key : UInt8) (data : List UInt8) : List UInt8 :=
  data.map fun byte => byte ^^^ key

namespace IObfuscator

variable (obfuscator : IObfuscator)

/-- `AddData`: the new input buffer, and whether anything was added. -/
def addData (buffer data : List UInt8) : List UInt8 × Bool :=
  if data.isEmpty then
    (buffer, false)
  else if buffer.length + data.length > obfuscator.kMaxBufferSize then
    let availableSpace := obfuscator.kMaxBufferSize - buffer.length
    if availableSpace > 0 then
      (buffer ++ data.take availableSpace, true)
    else
      (buffer, false)
  else
    (buffer ++ data, true)

def hasPendingData (buffer : List UInt8) : Bool := !buffer.isEmpty

def obfuscate (draw : Draw) (now : UInt32) (data : List UInt8) :
    List UInt8 :=
  obfuscator.header draw now data.length ++
    (applyXorTransform draw.xorKey data ++ draw.padding)

/-- The extracted payload, if any, and the new input buffer. -/
def deobfuscate (now : Nat → UInt32) (buffer : List UInt8) :
    Option (List UInt8) × List UInt8 :=
  decode obfuscator.headerSize (obfuscator.inspect now) buffer

/-- Bytes are added as far as there is room. -/
theorem addData_eq_take {buffer data : List UInt8}
    (within : buffer.length ≤ obfuscator.kMaxBufferSize) :
    (obfuscator.addData buffer data).1 =
      (buffer ++ data).take obfuscator.kMaxBufferSize := by
  rw [addData]
  split
  · rename_i empty
    obtain rfl : data = [] := by simpa using empty
    rw [List.append_nil, List.take_of_length_le within]
  · split
    · rw [List.take_append, List.take_of_length_le within]
      dsimp only
      split
      · rfl
      · rename_i full
        have none_ : obfuscator.kMaxBufferSize - buffer.length = 0 := by
          omega
        rw [none_, List.take_zero, List.append_nil]
    · rename_i fits
      rw [List.take_of_length_le]
      rw [List.length_append]
      exact Nat.not_lt.mp fits

end IObfuscator

/-! ## TlsObfuscator -/

namespace TlsObfuscator

def kFptnTlsApplicationMagicFlag : Nat := 0x9763

def header (draw : Draw) (_ : UInt32) (size : Nat) : List UInt8 :=
  layout
    [(1, 0x17), (1, 0x03), (1, 0x03),
      (2, 8 + 2 + 1 + 1 + 2 + 1 + size + draw.padding.length),
      (8, draw.randomData.toNat),
      (2, kFptnTlsApplicationMagicFlag), (1, 0x01),
      (1, draw.xorKey.toNat), (2, size), (1, draw.padding.length)]

def isFptnProtocol (window : List UInt8) : Bool :=
  field 13 2 window == kFptnTlsApplicationMagicFlag &&
    field 15 1 window == 0x01 && field 1 1 window == 0x03 &&
    field 2 1 window == 0x03

def inspect (_ : Nat → UInt32) (_ : Nat) (window : List UInt8) :
    Verdict :=
  let payloadLength := field 17 2 window
  let paddingLength := field 19 1 window
  let fullRecordSize := 20 + payloadLength + paddingLength
  if !isFptnProtocol window then
    .pass
  else if field 3 2 window < 11 + 1 + 2 + 1 then
    .skip
  else if window.length < fullRecordSize then
    .wait
  else
    .record
      (applyXorTransform (UInt8.ofNat (field 16 1 window))
        ((window.drop 20).take payloadLength))
      fullRecordSize

end TlsObfuscator

def tlsObfuscator : IObfuscator where
  kMaxBufferSize := 65536
  headerSize := 20
  minPadding := 64
  maxPadding := 255
  header := TlsObfuscator.header
  inspect := TlsObfuscator.inspect

/-! ## TlsObfuscator2 -/

namespace TlsObfuscator2

def kTimeShiftSeconds : UInt32 := 10

def isValidTimestamp (now timestamp : UInt32) : Bool :=
  decide (timestamp ≤ now + kTimeShiftSeconds) &&
    decide (timestamp + kTimeShiftSeconds ≥ now)

def header (draw : Draw) (now : UInt32) (size : Nat) : List UInt8 :=
  layout
    [(1, 0x17), (1, 0x03), (1, 0x03),
      (2, 8 + 4 + 1 + 2 + 2 + size + draw.padding.length),
      (8, draw.randomData.toNat), (4, now.toNat),
      (1, draw.xorKey.toNat), (2, size), (2, draw.padding.length)]

def isFptnProtocol (now : UInt32) (window : List UInt8) : Bool :=
  isValidTimestamp now (UInt32.ofNat (field 13 4 window)) &&
    field 1 1 window == 0x03 && field 2 1 window == 0x03

def inspect (now : Nat → UInt32) (offset : Nat) (window : List UInt8) :
    Verdict :=
  let payloadLength := field 18 2 window
  let paddingLength := field 20 2 window
  let fullRecordSize := 22 + payloadLength + paddingLength
  if !isFptnProtocol (now offset) window then
    .skip
  else if
      field 3 2 window <
        8 + 4 + 1 + 2 + 2 + payloadLength + paddingLength then
    .skip
  else if window.length < fullRecordSize then
    .wait
  else
    .record
      (applyXorTransform (UInt8.ofNat (field 17 1 window))
        ((window.drop 22).take payloadLength))
      fullRecordSize

end TlsObfuscator2

def tlsObfuscator2 : IObfuscator where
  kMaxBufferSize := 1024 * 256
  headerSize := 22
  minPadding := 4095
  maxPadding := 8192
  header := TlsObfuscator2.header
  inspect := TlsObfuscator2.inspect

/-! ## Round trips -/

/-- The longest write, which is the size of the TLS engine's buffer. -/
def kMaxWrite : Nat := 17408

@[simp]
theorem applyXorTransform_length (key : UInt8) (data : List UInt8) :
    (applyXorTransform key data).length = data.length :=
  List.length_map _

@[simp]
theorem applyXorTransform_twice (key : UInt8) (data : List UInt8) :
    applyXorTransform key (applyXorTransform key data) = data := by
  have twice : ∀ byte : UInt8, byte ^^^ key ^^^ key = byte := fun byte => by
    rw [UInt8.xor_assoc, UInt8.xor_self, UInt8.xor_zero]
  simp [applyXorTransform, Function.comp_def, twice]

/-- A method recognises its own headers, at the times it should. -/
structure Recognises (obfuscator : IObfuscator)
    (timely : UInt32 → UInt32 → Prop) : Prop where
  positive : 0 < obfuscator.headerSize
  headerLength : ∀ draw stamp size,
    (obfuscator.header draw stamp size).length = obfuscator.headerSize
  header : ∀ (draw : Draw) (stamp : UInt32) (size : Nat)
    (now : Nat → UInt32) (tail : List UInt8),
    draw.padding.length ≤ obfuscator.maxPadding → size ≤ kMaxWrite →
    timely stamp (now 0) →
    obfuscator.inspect now 0
        (obfuscator.header draw stamp size ++ tail) =
      if tail.length < size + draw.padding.length then
        .wait
      else
        .record (applyXorTransform draw.xorKey (tail.take size))
          (obfuscator.headerSize + size + draw.padding.length)

namespace Recognises

variable {obfuscator : IObfuscator} {timely : UInt32 → UInt32 → Prop}
  {draw : Draw} {stamp : UInt32} {data : List UInt8}
  {now : Nat → UInt32}

theorem obfuscate_length (recognises : Recognises obfuscator timely) :
    (obfuscator.obfuscate draw stamp data).length =
      obfuscator.headerSize + data.length + draw.padding.length := by
  simp [IObfuscator.obfuscate, recognises.headerLength, Nat.add_assoc]

/-- A whole record at the front is decoded. -/
theorem deobfuscate_record (recognises : Recognises obfuscator timely)
    (padded : draw.padding.length ≤ obfuscator.maxPadding)
    (nonempty : data ≠ []) (small : data.length ≤ kMaxWrite)
    (inTime : timely stamp (now 0)) (rest : List UInt8) :
    obfuscator.deobfuscate now
        (obfuscator.obfuscate draw stamp data ++ rest) =
      (some data, rest) := by
  have shape :
      obfuscator.obfuscate draw stamp data ++ rest =
        obfuscator.header draw stamp data.length ++
          (applyXorTransform draw.xorKey data ++
            (draw.padding ++ rest)) := by
    simp [IObfuscator.obfuscate]
  have long :
      ¬ (applyXorTransform draw.xorKey data ++
          (draw.padding ++ rest)).length <
        data.length + draw.padding.length := by
    simp only [List.length_append, applyXorTransform_length]
    omega
  have payload :
      (applyXorTransform draw.xorKey data ++
          (draw.padding ++ rest)).take data.length =
        applyXorTransform draw.xorKey data :=
    List.take_left' (applyXorTransform_length _ _)
  have found :
      obfuscator.inspect now 0
          (obfuscator.obfuscate draw stamp data ++ rest) =
        .record data (obfuscator.obfuscate draw stamp data).length := by
    rw [recognises.obfuscate_length, shape,
      recognises.header draw stamp _ now _ padded small inTime,
      if_neg long, payload, applyXorTransform_twice]
  have headed :
      obfuscator.headerSize ≤
        (obfuscator.obfuscate draw stamp data ++ rest).length := by
    rw [List.length_append, recognises.obfuscate_length]
    omega
  rw [IObfuscator.deobfuscate,
    decode_of_record recognises.positive headed found nonempty,
    List.drop_left]

/-- The beginning of a record is kept until the rest arrives. -/
theorem deobfuscate_partial (recognises : Recognises obfuscator timely)
    (padded : draw.padding.length ≤ obfuscator.maxPadding)
    (small : data.length ≤ kMaxWrite)
    (inTime : timely stamp (now 0)) {buffer : List UInt8}
    (beginning : buffer <+: obfuscator.obfuscate draw stamp data)
    (shorter :
      buffer.length < (obfuscator.obfuscate draw stamp data).length) :
    obfuscator.deobfuscate now buffer = (none, buffer) := by
  by_cases short : buffer.length < obfuscator.headerSize
  · exact decode_of_short short
  · have long := Nat.not_lt.mp short
    have headed :
        obfuscator.header draw stamp data.length <+: buffer := by
      refine List.prefix_of_prefix_length_le ?_ beginning ?_
      · exact List.prefix_append _ _
      · rw [recognises.headerLength]
        exact long
    obtain ⟨tail, rfl⟩ := headed
    rw [recognises.obfuscate_length, List.length_append,
      recognises.headerLength] at shorter
    refine decode_of_wait recognises.positive long ?_
    rw [recognises.header draw stamp _ now tail padded small inTime,
      if_pos (by omega)]

end Recognises

/-- Reading back the key of a record. -/
theorem xorKey_of_field {key : UInt8} {value : Nat}
    (read : value = key.toNat % 256 ^ 1) : UInt8.ofNat value = key := by
  rw [read, Nat.pow_one, Nat.mod_eq_of_lt key.toNat_lt, UInt8.ofNat_toNat]

/-- What has been written into a header, whatever follows it.  Numbers are
cut to the size of their fields. -/
structure TlsObfuscator.Written (draw : Draw) (size : Nat)
    (window : List UInt8) : Prop where
  headerType : field 0 1 window = 0x17
  major : field 1 1 window = 0x03
  minor : field 2 1 window = 0x03
  contentLength :
    field 3 2 window =
      (8 + 2 + 1 + 1 + 2 + 1 + size + draw.padding.length) % 256 ^ 2
  magicFlag : field 13 2 window = kFptnTlsApplicationMagicFlag
  protocolVersion : field 15 1 window = 0x01
  xorKey : field 16 1 window = draw.xorKey.toNat % 256 ^ 1
  payloadLength : field 17 2 window = size % 256 ^ 2
  paddingLength : field 19 1 window = draw.padding.length % 256 ^ 1

theorem TlsObfuscator.header_written (draw : Draw) (stamp : UInt32)
    (size : Nat) (tail : List UInt8) :
    Written draw size (header draw stamp size ++ tail) := by
  let content := 8 + 2 + 1 + 1 + 2 + 1 + size + draw.padding.length
  let random := draw.randomData.toNat
  let key := draw.xorKey.toNat
  constructor
  · exact field_layout [] _ 1 0x17 tail
  · exact field_layout [(1, 0x17)] _ 1 0x03 tail
  · exact field_layout [(1, 0x17), (1, 0x03)] _ 1 0x03 tail
  · exact
      field_layout [(1, 0x17), (1, 0x03), (1, 0x03)] _ 2 content tail
  · exact
      field_layout
        [(1, 0x17), (1, 0x03), (1, 0x03), (2, content), (8, random)] _ 2
        0x9763 tail
  · exact
      field_layout
        [(1, 0x17), (1, 0x03), (1, 0x03), (2, content), (8, random),
          (2, 0x9763)] _ 1 0x01 tail
  · exact
      field_layout
        [(1, 0x17), (1, 0x03), (1, 0x03), (2, content), (8, random),
          (2, 0x9763), (1, 0x01)] _ 1 key tail
  · exact
      field_layout
        [(1, 0x17), (1, 0x03), (1, 0x03), (2, content), (8, random),
          (2, 0x9763), (1, 0x01), (1, key)] _ 2 size tail
  · exact
      field_layout
        [(1, 0x17), (1, 0x03), (1, 0x03), (2, content), (8, random),
          (2, 0x9763), (1, 0x01), (1, key), (2, size)] _ 1
        draw.padding.length tail

theorem TlsObfuscator.isFptnProtocol_header (draw : Draw) (stamp : UInt32)
    (size : Nat) (tail : List UInt8) :
    isFptnProtocol (header draw stamp size ++ tail) = true := by
  have written := header_written draw stamp size tail
  rw [isFptnProtocol, written.magicFlag, written.protocolVersion,
    written.major, written.minor]
  rfl

/-- What the fields of a header say, whatever follows it. -/
structure TlsObfuscator.Fields (draw : Draw) (size : Nat)
    (window : List UInt8) : Prop where
  headerType : field 0 1 window = 0x17
  major : field 1 1 window = 0x03
  minor : field 2 1 window = 0x03
  contentLength :
    field 3 2 window = 8 + 2 + 1 + 1 + 2 + 1 + size + draw.padding.length
  magicFlag : field 13 2 window = kFptnTlsApplicationMagicFlag
  protocolVersion : field 15 1 window = 0x01
  xorKey : field 16 1 window = draw.xorKey.toNat % 256 ^ 1
  payloadLength : field 17 2 window = size
  paddingLength : field 19 1 window = draw.padding.length

theorem TlsObfuscator.header_fields {draw : Draw} {size : Nat}
    (padded : draw.padding.length ≤ 255) (small : size ≤ kMaxWrite)
    (stamp : UInt32) (tail : List UInt8) :
    Fields draw size (header draw stamp size ++ tail) := by
  have written := header_written draw stamp size tail
  have few : size ≤ 17408 := small
  constructor
  · exact written.headerType
  · exact written.major
  · exact written.minor
  · exact written.contentLength.trans (Nat.mod_eq_of_lt (by omega))
  · exact written.magicFlag
  · exact written.protocolVersion
  · exact written.xorKey
  · exact written.payloadLength.trans (Nat.mod_eq_of_lt (by omega))
  · exact written.paddingLength.trans (Nat.mod_eq_of_lt (by omega))

theorem TlsObfuscator.header_length (draw : Draw) (stamp : UInt32)
    (size : Nat) : (header draw stamp size).length = 20 :=
  layout_length _

/-- What a decoder makes of a header which says enough of the content. -/
theorem TlsObfuscator.inspect_header {draw : Draw} {size : Nat}
    (padded : draw.padding.length ≤ 255)
    (content :
      15 ≤ (8 + 2 + 1 + 1 + 2 + 1 + size + draw.padding.length) % 256 ^ 2)
    (stamp : UInt32) (now : Nat → UInt32) (tail : List UInt8) :
    inspect now 0 (header draw stamp size ++ tail) =
      if tail.length < size % 256 ^ 2 + draw.padding.length then
        .wait
      else
        .record
          (applyXorTransform draw.xorKey (tail.take (size % 256 ^ 2)))
          (20 + size % 256 ^ 2 + draw.padding.length) := by
  have written := header_written draw stamp size tail
  have padding : draw.padding.length % 256 ^ 1 = draw.padding.length :=
    Nat.mod_eq_of_lt (by omega)
  have behind : (header draw stamp size ++ tail).drop 20 = tail :=
    List.drop_left' (header_length draw stamp size)
  have whole : (header draw stamp size ++ tail).length =
      20 + tail.length := by
    rw [List.length_append, header_length]
  simp only [inspect]
  rw [isFptnProtocol_header, written.payloadLength, written.paddingLength,
    padding, written.contentLength, behind, whole,
    xorKey_of_field written.xorKey, if_neg (by simp), if_neg (by omega)]
  refine if_congr ?_ rfl rfl
  omega

theorem tlsObfuscator_recognises :
    Recognises tlsObfuscator fun _ _ => True := by
  constructor
  · decide
  · exact TlsObfuscator.header_length
  · intro draw stamp size now tail padded small _
    have few : size ≤ 17408 := small
    have paddedFew : draw.padding.length ≤ 255 := padded
    have uncut : size % 256 ^ 2 = size := Nat.mod_eq_of_lt (by omega)
    have read := @TlsObfuscator.inspect_header draw size padded (by omega)
      stamp now tail
    rw [uncut] at read
    simp only [tlsObfuscator]
    exact read

/-- The clocks of both sides are close and not about to wrap around. -/
def Timely (stamp now : UInt32) : Prop :=
  stamp.toNat ≤ now.toNat + 10 ∧ now.toNat ≤ stamp.toNat + 10 ∧
    stamp.toNat < 2 ^ 32 - 10 ∧ now.toNat < 2 ^ 32 - 10

theorem isValidTimestamp_iff {stamp now : UInt32} :
    TlsObfuscator2.isValidTimestamp now stamp = true ↔
      Timely stamp now := by
  have sum : ∀ clock : UInt32,
      (clock + TlsObfuscator2.kTimeShiftSeconds).toNat =
        (clock.toNat + 10) % 2 ^ 32 := fun clock => UInt32.toNat_add clock _
  have stampSmall := stamp.toNat_lt
  have nowSmall := now.toNat_lt
  rw [TlsObfuscator2.isValidTimestamp, Bool.and_eq_true,
    decide_eq_true_eq, decide_eq_true_eq, ge_iff_le,
    UInt32.le_iff_toNat_le, UInt32.le_iff_toNat_le, sum now, sum stamp,
    Timely]
  omega

/-- What has been written into a header, whatever follows it.  Numbers are
cut to the size of their fields. -/
structure TlsObfuscator2.Written (draw : Draw) (stamp : UInt32)
    (size : Nat) (window : List UInt8) : Prop where
  headerType : field 0 1 window = 0x17
  major : field 1 1 window = 0x03
  minor : field 2 1 window = 0x03
  contentLength :
    field 3 2 window =
      (8 + 4 + 1 + 2 + 2 + size + draw.padding.length) % 256 ^ 2
  timestamp : field 13 4 window = stamp.toNat
  xorKey : field 17 1 window = draw.xorKey.toNat % 256 ^ 1
  payloadLength : field 18 2 window = size % 256 ^ 2
  paddingLength : field 20 2 window = draw.padding.length % 256 ^ 2

theorem TlsObfuscator2.header_written (draw : Draw) (stamp : UInt32)
    (size : Nat) (tail : List UInt8) :
    Written draw stamp size (header draw stamp size ++ tail) := by
  let content := 8 + 4 + 1 + 2 + 2 + size + draw.padding.length
  let random := draw.randomData.toNat
  let key := draw.xorKey.toNat
  have stampFits : stamp.toNat % 256 ^ 4 = stamp.toNat :=
    Nat.mod_eq_of_lt stamp.toNat_lt
  constructor
  · exact field_layout [] _ 1 0x17 tail
  · exact field_layout [(1, 0x17)] _ 1 0x03 tail
  · exact field_layout [(1, 0x17), (1, 0x03)] _ 1 0x03 tail
  · exact
      field_layout [(1, 0x17), (1, 0x03), (1, 0x03)] _ 2 content tail
  · exact
      (field_layout
        [(1, 0x17), (1, 0x03), (1, 0x03), (2, content), (8, random)] _ 4
        stamp.toNat tail).trans stampFits
  · exact
      field_layout
        [(1, 0x17), (1, 0x03), (1, 0x03), (2, content), (8, random),
          (4, stamp.toNat)] _ 1 key tail
  · exact
      field_layout
        [(1, 0x17), (1, 0x03), (1, 0x03), (2, content), (8, random),
          (4, stamp.toNat), (1, key)] _ 2 size tail
  · exact
      field_layout
        [(1, 0x17), (1, 0x03), (1, 0x03), (2, content), (8, random),
          (4, stamp.toNat), (1, key), (2, size)] _ 2
        draw.padding.length tail

/-- Only the time stamp decides. -/
theorem TlsObfuscator2.isFptnProtocol_header (draw : Draw)
    (stamp now : UInt32) (size : Nat) (tail : List UInt8) :
    isFptnProtocol now (header draw stamp size ++ tail) =
      isValidTimestamp now stamp := by
  have written := header_written draw stamp size tail
  rw [isFptnProtocol, written.timestamp, written.major, written.minor,
    UInt32.ofNat_toNat]
  exact (Bool.and_true _).trans (Bool.and_true _)

/-- What the fields of a header say, whatever follows it. -/
structure TlsObfuscator2.Fields (draw : Draw) (stamp : UInt32)
    (size : Nat) (window : List UInt8) : Prop where
  headerType : field 0 1 window = 0x17
  major : field 1 1 window = 0x03
  minor : field 2 1 window = 0x03
  contentLength :
    field 3 2 window = 8 + 4 + 1 + 2 + 2 + size + draw.padding.length
  timestamp : field 13 4 window = stamp.toNat
  xorKey : field 17 1 window = draw.xorKey.toNat % 256 ^ 1
  payloadLength : field 18 2 window = size
  paddingLength : field 20 2 window = draw.padding.length

theorem TlsObfuscator2.header_fields {draw : Draw} {size : Nat}
    (padded : draw.padding.length ≤ 8192) (small : size ≤ kMaxWrite)
    (stamp : UInt32) (tail : List UInt8) :
    Fields draw stamp size (header draw stamp size ++ tail) := by
  have written := header_written draw stamp size tail
  have few : size ≤ 17408 := small
  constructor
  · exact written.headerType
  · exact written.major
  · exact written.minor
  · exact written.contentLength.trans (Nat.mod_eq_of_lt (by omega))
  · exact written.timestamp
  · exact written.xorKey
  · exact written.payloadLength.trans (Nat.mod_eq_of_lt (by omega))
  · exact written.paddingLength.trans (Nat.mod_eq_of_lt (by omega))

theorem TlsObfuscator2.header_length (draw : Draw) (stamp : UInt32)
    (size : Nat) : (header draw stamp size).length = 22 :=
  layout_length _

/-- What a decoder makes of a header in time which says enough of the
content. -/
theorem TlsObfuscator2.inspect_header {draw : Draw} {stamp : UInt32}
    {size : Nat} {now : Nat → UInt32}
    (padded : draw.padding.length ≤ 8192) (inTime : Timely stamp (now 0))
    (content :
      17 + size % 256 ^ 2 + draw.padding.length ≤
        (8 + 4 + 1 + 2 + 2 + size + draw.padding.length) % 256 ^ 2)
    (tail : List UInt8) :
    inspect now 0 (header draw stamp size ++ tail) =
      if tail.length < size % 256 ^ 2 + draw.padding.length then
        .wait
      else
        .record
          (applyXorTransform draw.xorKey (tail.take (size % 256 ^ 2)))
          (22 + size % 256 ^ 2 + draw.padding.length) := by
  have written := header_written draw stamp size tail
  have padding : draw.padding.length % 256 ^ 2 = draw.padding.length :=
    Nat.mod_eq_of_lt (by omega)
  have behind : (header draw stamp size ++ tail).drop 22 = tail :=
    List.drop_left' (header_length draw stamp size)
  have whole : (header draw stamp size ++ tail).length =
      22 + tail.length := by
    rw [List.length_append, header_length]
  simp only [inspect]
  rw [isFptnProtocol_header, isValidTimestamp_iff.mpr inTime,
    written.payloadLength, written.paddingLength, padding,
    written.contentLength, behind, whole, xorKey_of_field written.xorKey,
    if_neg (by simp), if_neg (Nat.not_lt.mpr content)]
  refine if_congr ?_ rfl rfl
  omega

theorem tlsObfuscator2_recognises :
    Recognises tlsObfuscator2 Timely := by
  constructor
  · decide
  · exact TlsObfuscator2.header_length
  · intro draw stamp size now tail padded small inTime
    have few : size ≤ 17408 := small
    have paddedFew : draw.padding.length ≤ 8192 := padded
    have uncut : size % 256 ^ 2 = size := Nat.mod_eq_of_lt (by omega)
    have read := @TlsObfuscator2.inspect_header draw stamp size now padded
      inTime (by omega) tail
    rw [uncut] at read
    simp only [tlsObfuscator2]
    exact read

/-! ## Both methods -/

inductive Method where
  | tls
  | tls2

namespace Method

def obfuscator : Method → IObfuscator
  | .tls => tlsObfuscator
  | .tls2 => tlsObfuscator2

/-- When a record with this time stamp is recognised. -/
def InTime : Method → UInt32 → UInt32 → Prop
  | .tls, _, _ => True
  | .tls2, stamp, now => Timely stamp now

/-- Bytes which the method hands on as they are. -/
def PassesThrough : Method → List UInt8 → Prop
  | .tls, buffer =>
      20 ≤ buffer.length ∧ TlsObfuscator.isFptnProtocol buffer = false
  | .tls2, _ => False

theorem recognises (method : Method) :
    Recognises method.obfuscator method.InTime := by
  cases method with
  | tls => exact tlsObfuscator_recognises
  | tls2 => exact tlsObfuscator2_recognises

theorem deobfuscate_of_passesThrough {method : Method}
    {buffer : List UInt8} (passes : method.PassesThrough buffer)
    (now : Nat → UInt32) :
    method.obfuscator.deobfuscate now buffer = (some buffer, []) := by
  cases method with
  | tls =>
      obtain ⟨long, foreign⟩ := passes
      refine decode_of_pass (by decide) long ?_
      change TlsObfuscator.inspect now 0 buffer = .pass
      rw [TlsObfuscator.inspect, foreign]
      rfl
  | tls2 => exact passes.elim

theorem PassesThrough.length_pos {method : Method} {buffer : List UInt8}
    (passes : method.PassesThrough buffer) : 0 < buffer.length := by
  cases method with
  | tls => exact Nat.lt_of_lt_of_le (by decide) passes.1
  | tls2 => exact passes.elim

/-- The longest record which a write can produce. -/
def maxRecord (method : Method) : Nat :=
  method.obfuscator.headerSize + kMaxWrite + method.obfuscator.maxPadding

end Method

end Fptn.Obfuscator.Methods
