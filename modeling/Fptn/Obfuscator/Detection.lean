import Fptn.Web.SessionRun

/-!
# The detection of an obfuscator

A server takes the kind of obfuscation from the first bytes of a connection.
The two headers lie over each other byte for byte: where one has a magic
number, a version and a key, the other has its time stamp.  They cannot be
confused as long as no clock shows a time which begins with the magic number.
-/

namespace Fptn.Obfuscator.Detection

open Fptn.BigEndian
open Fptn.RecordScan
open Fptn.Obfuscator.Methods
open Fptn.Web.SessionRun

/-- `CheckProtocol` of a method, at a reading of the clock. -/
def accepts : Method → UInt32 → List UInt8 → Bool
  | .tls, _, data => checkProtocol data
  | .tls2, now, data => checkProtocol2 now data

/-- The longest write whose record is still accepted with every padding. -/
def maxFirstWrite : Method → Nat
  | .tls => 16114
  | .tls2 => 8175

/-- The first time stamp which a header of the other method can show. -/
def firstAmbiguousTime : Nat := 0x97630100

/-- The clocks of both sides show the same time, up to the time shift. -/
structure ClocksAgree (stamp now : UInt32) : Prop where
  notEarly : stamp.toNat ≤ now.toNat + 10
  notLate : now.toNat ≤ stamp.toNat + 10
  unambiguous : now.toNat < firstAmbiguousTime - 10

/-- A record of the TLS handshake. -/
def IsHandshakeRecord (data : List UInt8) : Prop :=
  data.head? = some 0x16

/-! ## Records at the front of a buffer -/

/-- The size of the record which a header announces. -/
def recordSize : Method → List UInt8 → Nat
  | .tls, window => 20 + field 17 2 window + field 19 1 window
  | .tls2, window => 22 + field 18 2 window + field 20 2 window

/-- The payload of the record at the front of a window. -/
def payloadOf : Method → List UInt8 → List UInt8
  | .tls, window =>
      applyXorTransform (UInt8.ofNat (field 16 1 window))
        ((window.drop 20).take (field 17 2 window))
  | .tls2, window =>
      applyXorTransform (UInt8.ofNat (field 17 1 window))
        ((window.drop 22).take (field 18 2 window))

/-- `Deobfuscate` takes the front of the buffer for a header: it waits for
the record, or takes the whole record out and nothing else. -/
def DecodesFront (method : Method) (now : Nat → UInt32)
    (buffer : List UInt8) : Prop :=
  method.obfuscator.deobfuscate now buffer =
    if buffer.length < recordSize method buffer then
      (none, buffer)
    else
      (if (payloadOf method buffer).isEmpty then
          none
        else
          some (payloadOf method buffer),
        buffer.drop (recordSize method buffer))

theorem length_of_accepts {method : Method} {now : UInt32}
    {data : List UInt8} (accepted : accepts method now data = true) :
    method.obfuscator.headerSize ≤ data.length := by
  cases method with
  | tls =>
      simp only [accepts, checkProtocol, Bool.and_eq_true,
        decide_eq_true_eq] at accepted
      exact accepted.1.1.1.1.1.1.1.1
  | tls2 =>
      simp only [accepts, checkProtocol2, Bool.and_eq_true,
        decide_eq_true_eq] at accepted
      exact accepted.1.1.1.1.1.1

/-- What is accepted passes the tests of the decoder. -/
theorem inspect_of_accepts {method : Method} {now : Nat → UInt32}
    {data : List UInt8} (accepted : accepts method (now 0) data = true) :
    method.obfuscator.inspect now 0 data =
      if data.length < recordSize method data then
        .wait
      else
        .record (payloadOf method data) (recordSize method data) := by
  cases method with
  | tls =>
      simp only [accepts, checkProtocol, Bool.and_eq_true,
        decide_eq_true_eq, beq_iff_eq] at accepted
      obtain ⟨⟨⟨⟨⟨⟨⟨⟨_, _⟩, major⟩, minor⟩, version⟩, magic⟩, enough⟩,
        _⟩, _⟩ := accepted
      have ours : TlsObfuscator.isFptnProtocol data = true := by
        rw [TlsObfuscator.isFptnProtocol, magic, version, major, minor]
        rfl
      change TlsObfuscator.inspect now 0 data = _
      rw [TlsObfuscator.inspect, ours, if_neg (by simp),
        if_neg (Nat.not_lt.mpr enough)]
      rfl
  | tls2 =>
      simp only [accepts, checkProtocol2, Bool.and_eq_true,
        decide_eq_true_eq, beq_iff_eq] at accepted
      obtain ⟨⟨⟨⟨⟨⟨_, _⟩, major⟩, minor⟩, inTime⟩, enough⟩, _⟩ := accepted
      have ours : TlsObfuscator2.isFptnProtocol (now 0) data = true := by
        rw [TlsObfuscator2.isFptnProtocol, inTime, major, minor]
        rfl
      change TlsObfuscator2.inspect now 0 data = _
      rw [TlsObfuscator2.inspect, ours, if_neg (by simp),
        if_neg (Nat.not_lt.mpr enough)]
      rfl

theorem decodesFront_of_accepts {method : Method} {now : Nat → UInt32}
    {data : List UInt8} (accepted : accepts method (now 0) data = true) :
    DecodesFront method now data := by
  have positive : 0 < method.obfuscator.headerSize :=
    method.recognises.positive
  have long := length_of_accepts accepted
  have inspected := inspect_of_accepts accepted
  rw [DecodesFront, IObfuscator.deobfuscate]
  split
  · rename_i short
    rw [if_pos short] at inspected
    exact decode_of_wait positive long inspected
  · rename_i whole
    rw [if_neg whole] at inspected
    exact decode_of_front positive long inspected

/-! ## What is detected -/

theorem field_head (byte : UInt8) (rest : List UInt8) :
    field 0 1 (byte :: rest) = byte.toNat := by
  simp [field, valueOf]

/-- Neither method takes a record of the handshake for its own. -/
theorem detectObfuscator_of_handshake {data : List UInt8}
    (handshake : IsHandshakeRecord data) (now : UInt32) :
    detectObfuscator now data = none := by
  obtain ⟨rest, rfl⟩ := List.head?_eq_some_iff.mp handshake
  have foreign : (field 0 1 (0x16 :: rest) == 0x17) = false := by
    rw [field_head]
    rfl
  simp [detectObfuscator, checkProtocol, checkProtocol2, foreign]

/-- The magic number is a time too late for the receiver's clock. -/
theorem isValidTimestamp_of_late {now timestamp : UInt32}
    (early : now.toNat < firstAmbiguousTime - 10)
    (late : firstAmbiguousTime ≤ timestamp.toNat) :
    TlsObfuscator2.isValidTimestamp now timestamp = false := by
  have sum :
      (now + TlsObfuscator2.kTimeShiftSeconds).toNat = now.toNat + 10 := by
    rw [UInt32.toNat_add]
    change (now.toNat + 10) % 2 ^ 32 = now.toNat + 10
    have bound : firstAmbiguousTime = 0x97630100 := rfl
    exact Nat.mod_eq_of_lt (by omega)
  have notEarly :
      ¬ timestamp ≤ now + TlsObfuscator2.kTimeShiftSeconds := by
    rw [UInt32.le_iff_toNat_le, sum]
    omega
  rw [TlsObfuscator2.isValidTimestamp, decide_eq_false notEarly]
  rfl

theorem timely_of_clocksAgree {stamp now : UInt32}
    (agree : ClocksAgree stamp now) : Timely stamp now := by
  obtain ⟨notEarly, notLate, unambiguous⟩ := agree
  have bound : firstAmbiguousTime = 0x97630100 := rfl
  refine ⟨notEarly, notLate, ?_, ?_⟩
  · omega
  · omega

/-- Each method accepts its own header, whatever follows. -/
theorem accepts_header {method : Method} {draw : Draw}
    {stamp now : UInt32} {size : Nat} {tail : List UInt8}
    (padded : draw.padding.length ≤ method.obfuscator.maxPadding)
    (small : size ≤ maxFirstWrite method)
    (agree : ClocksAgree stamp now) :
    accepts method now
        (method.obfuscator.header draw stamp size ++ tail) = true := by
  cases method with
  | tls =>
      have few : draw.padding.length ≤ 255 := padded
      have fits : size ≤ 16114 := small
      have fields :=
        TlsObfuscator.header_fields few
          (Nat.le_trans fits (by decide)) stamp tail
      have long :
          20 ≤ (TlsObfuscator.header draw stamp size ++ tail).length := by
        rw [List.length_append, TlsObfuscator.header_length]
        omega
      change checkProtocol (TlsObfuscator.header draw stamp size ++ tail) = _
      simp only [checkProtocol, fields.headerType, fields.major,
        fields.minor, fields.protocolVersion, fields.magicFlag,
        fields.contentLength, fields.payloadLength, Bool.and_eq_true,
        decide_eq_true_eq, beq_self_eq_true, and_true]
      omega
  | tls2 =>
      have few : draw.padding.length ≤ 8192 := padded
      have fits : size ≤ 8175 := small
      have fields :=
        TlsObfuscator2.header_fields few
          (Nat.le_trans fits (by decide)) stamp tail
      have long :
          22 ≤ (TlsObfuscator2.header draw stamp size ++ tail).length := by
        rw [List.length_append, TlsObfuscator2.header_length]
        omega
      change
        checkProtocol2 now (TlsObfuscator2.header draw stamp size ++ tail) =
          _
      simp only [checkProtocol2, fields.headerType, fields.major,
        fields.minor, fields.timestamp, fields.contentLength,
        fields.payloadLength, fields.paddingLength, UInt32.ofNat_toNat,
        isValidTimestamp_iff.mpr (timely_of_clocksAgree agree),
        Bool.and_eq_true, decide_eq_true_eq, beq_self_eq_true, and_true]
      omega

/-- Where the second method has its time stamp, a header of the first one
has the magic number. -/
theorem timestamp_of_tlsHeader {draw : Draw} {size : Nat}
    (padded : draw.padding.length ≤ 255) (small : size ≤ kMaxWrite)
    (stamp : UInt32) (tail : List UInt8) :
    firstAmbiguousTime ≤
      (UInt32.ofNat
        (field 13 4
          (TlsObfuscator.header draw stamp size ++ tail))).toNat := by
  let window := TlsObfuscator.header draw stamp size ++ tail
  have fields : TlsObfuscator.Fields draw size window :=
    TlsObfuscator.header_fields padded small stamp tail
  have long : 20 ≤ window.length := by
    rw [List.length_append, TlsObfuscator.header_length]
    exact Nat.le_add_right 20 tail.length
  have inner :
      field 15 2 window = field 15 1 window * 256 ^ 1 + field 16 1 window :=
    @field_add 15 1 1 window (by omega)
  have outer :
      field 13 4 window = field 13 2 window * 256 ^ 2 + field 15 2 window :=
    @field_add 13 2 2 window (by omega)
  rw [fields.protocolVersion, fields.xorKey] at inner
  rw [fields.magicFlag, inner] at outer
  have bound : firstAmbiguousTime = 0x97630100 := rfl
  have magic : TlsObfuscator.kFptnTlsApplicationMagicFlag = 0x9763 := rfl
  have key := draw.xorKey.toNat_lt
  rw [outer, UInt32.toNat_ofNat', Nat.mod_eq_of_lt (by omega)]
  omega

theorem not_accepts_tls2_tlsHeader {draw : Draw} {size : Nat}
    (padded : draw.padding.length ≤ 255) (small : size ≤ kMaxWrite)
    {now : UInt32} (early : now.toNat < firstAmbiguousTime - 10)
    (stamp : UInt32) (tail : List UInt8) :
    checkProtocol2 now (TlsObfuscator.header draw stamp size ++ tail) =
      false := by
  have late := timestamp_of_tlsHeader padded small stamp tail
  simp [checkProtocol2, isValidTimestamp_of_late early late]

/-- A header is detected, whatever follows. -/
theorem detectObfuscator_header {method : Method} {draw : Draw}
    {stamp now : UInt32} {size : Nat}
    (padded : draw.padding.length ≤ method.obfuscator.maxPadding)
    (small : size ≤ maxFirstWrite method)
    (agree : ClocksAgree stamp now) (tail : List UInt8) :
    detectObfuscator now
        (method.obfuscator.header draw stamp size ++ tail) =
      some method := by
  have accepted :
      accepts method now
          (method.obfuscator.header draw stamp size ++ tail) = true :=
    accepts_header padded small agree
  cases method with
  | tls =>
      have fits : size ≤ 16114 := small
      have foreign := not_accepts_tls2_tlsHeader padded
        (Nat.le_trans fits (by decide)) agree.unambiguous stamp tail
      change
        checkProtocol (TlsObfuscator.header draw stamp size ++ tail) =
          true at accepted
      change
        detectObfuscator now
          (TlsObfuscator.header draw stamp size ++ tail) = _
      rw [detectObfuscator, foreign, accepted]
      rfl
  | tls2 =>
      change
        checkProtocol2 now (TlsObfuscator2.header draw stamp size ++ tail) =
          true at accepted
      change
        detectObfuscator now
          (TlsObfuscator2.header draw stamp size ++ tail) = _
      rw [detectObfuscator, accepted]
      rfl

/-- The beginning of a stream whose first record is complete or not. -/
structure Begins (method : Method) (draw : Draw) (stamp : UInt32)
    (data beginning : List UInt8) : Prop where
  padded : draw.padding.length ≤ method.obfuscator.maxPadding
  small : data.length ≤ maxFirstWrite method
  long : method.obfuscator.headerSize ≤ beginning.length
  stream : ∃ later,
    beginning <+: method.obfuscator.obfuscate draw stamp data ++ later

theorem Begins.exists_tail {method : Method} {draw : Draw}
    {stamp : UInt32} {data beginning : List UInt8}
    (begins : Begins method draw stamp data beginning) :
    ∃ tail,
      beginning =
        method.obfuscator.header draw stamp data.length ++ tail := by
  obtain ⟨later, stream⟩ := begins.stream
  have headed :
      method.obfuscator.header draw stamp data.length <+: beginning := by
    refine List.prefix_of_prefix_length_le ?_ stream ?_
    · rw [IObfuscator.obfuscate, List.append_assoc]
      exact List.prefix_append _ _
    · rw [method.recognises.headerLength]
      exact begins.long
  obtain ⟨tail, same⟩ := headed
  exact ⟨tail, same.symm⟩

/-- The kind of obfuscation is the sender's, a handshake is not taken for
obfuscated, and what is accepted is decoded from its first byte on. -/
theorem detection_agrees :
    (∀ (method : Method) (draw : Draw) (stamp now : UInt32)
        (data beginning : List UInt8),
      Begins method draw stamp data beginning → ClocksAgree stamp now →
      detectObfuscator now beginning = some method) ∧
    (∀ (now : UInt32) (data : List UInt8), IsHandshakeRecord data →
      detectObfuscator now data = none) ∧
    (∀ (method : Method) (now : Nat → UInt32) (data : List UInt8),
      accepts method (now 0) data = true →
      DecodesFront method now data) := by
  refine ⟨?_, ?_, ?_⟩
  · intro method draw stamp now data beginning begins agree
    obtain ⟨tail, rfl⟩ := begins.exists_tail
    exact detectObfuscator_header begins.padded begins.small agree tail
  · intro now data handshake
    exact detectObfuscator_of_handshake handshake now
  · intro method now data accepted
    exact decodesFront_of_accepts accepted

/-- A record of the second method whose padding has not arrived, a server
name in the clear, and a header of the first method without its padding. -/
theorem detection_agrees_examples :
    detectObfuscator 1000
        (tlsObfuscator2.header ⟨77, 5, List.replicate 4095 0⟩ 1007 8175) =
      some .tls2 ∧
    detectObfuscator 1000 [0x16, 0x03, 0x01, 0x00, 0x05] = none ∧
    DecodesFront .tls (fun _ => 1000)
      (tlsObfuscator.header ⟨77, 5, List.replicate 64 0⟩ 1007 0) := by
  obtain ⟨detects, handshakes, decodes⟩ := detection_agrees
  have data : (List.replicate 8175 (0 : UInt8)).length = 8175 :=
    List.length_replicate
  have begins :
      Begins .tls2 ⟨77, 5, List.replicate 4095 0⟩ 1007
        (List.replicate 8175 0)
        (tlsObfuscator2.header ⟨77, 5, List.replicate 4095 0⟩ 1007
          8175) := by
    constructor
    · change (List.replicate 4095 (0 : UInt8)).length ≤ 8192
      rw [List.length_replicate]
      decide
    · rw [data]
      exact Nat.le_refl 8175
    · exact Nat.le_of_eq (TlsObfuscator2.header_length _ _ _).symm
    · refine ⟨[], ?_⟩
      rw [IObfuscator.obfuscate, data, List.append_assoc]
      exact List.prefix_append _ _
  have agree : ClocksAgree 1007 1000 := by
    constructor <;> decide
  have padded : (List.replicate 64 (0 : UInt8)).length ≤ 255 := by decide
  have accepted :
      accepts .tls 1000
          (tlsObfuscator.header ⟨77, 5, List.replicate 64 0⟩ 1007 0 ++
            []) = true :=
    accepts_header padded (Nat.zero_le _) agree
  rw [List.append_nil] at accepted
  refine ⟨?_, ?_, ?_⟩
  · exact detects .tls2 _ 1007 1000 _ _ begins agree
  · exact handshakes 1000 _ rfl
  · exact decodes .tls (fun _ => 1000) _ accepted

end Fptn.Obfuscator.Detection
