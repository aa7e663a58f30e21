import Fptn.Network.ChecksumEffect
import Fptn.Network.Packet

/-!
# Packet accesses stay inside the buffer

Every method of a packet is bounded by the size of its buffer, with one
exception: the IPv4 header checksum sums `IHL * 4` bytes without comparing that
length with the buffer.  The last section states exactly when the whole packet
interface stays inside.
-/

namespace Fptn.Network.PacketBounds

open Fptn.TracedMemory
open Fptn.Network.IPUtils
open Fptn.Network.IPAddress
open Fptn.Network.ChecksumValue
open Fptn.Network.ChecksumEffect
open Fptn.Network.Packet

/-! ## Elementary routines -/

section Elementary

variable {bound : Nat} {store : Store}

theorem readU16Be_within {p : Nat} (inside : p + 1 < bound) :
    Within bound (readU16Be p) store :=
  (Within.load (by omega)).bind
    ((Within.load inside).bind (Within.pure _))

theorem writeU16Be_within {p v : Nat} (inside : p + 1 < bound) :
    Within bound (writeU16Be p v) store :=
  (Within.save _ (by omega)).bind (Within.save _ inside)

theorem copyBytes_within {source count : Nat}
    (inside : source + count ≤ bound) :
    Within bound (copyBytes source count) store := by
  induction count generalizing source store with
  | zero => exact Within.pure _
  | succ count ih =>
      exact
        (Within.load (by omega)).bind
          ((ih (by omega)).bind (Within.pure _))

theorem saveBytes_within {offset : Nat} {bytes : List UInt8}
    (inside : offset + bytes.length ≤ bound) :
    Within bound (saveBytes offset bytes) store := by
  induction bytes generalizing offset store with
  | nil => exact Within.pure _
  | cons head tail ih =>
      rw [List.length_cons] at inside
      exact (Within.save _ (by omega)).bind (ih (by omega))

theorem rfc1071Sum_within {data len sum : Nat}
    (inside : data + len ≤ bound) :
    Within bound (rfc1071Sum data len sum) store := by
  induction data, len, sum using rfc1071Sum.induct generalizing store with
  | case1 data sum => exact Within.pure _
  | case2 data sum =>
      exact (Within.load (by omega)).bind (Within.pure _)
  | case3 data len sum ih =>
      exact
        (Within.load (by omega)).bind
          ((Within.load (by omega)).bind (ih _ _ (by omega)))

theorem rfc1071_within {data len sum : Nat}
    (inside : data + len ≤ bound) :
    Within bound (rfc1071 data len sum) store :=
  (rfc1071Sum_within inside).bind (Within.pure _)

theorem checksumSegment_within {transport : Transport}
    {start len seed : Nat}
    (field : start + transport.field + 1 < bound)
    (segment : start + len ≤ bound) :
    Within bound (checksumSegment transport start len seed) store :=
  (writeU16Be_within field).bind
    ((rfc1071_within segment).bind (writeU16Be_within field))

theorem pseudoHeaderIpv4_within {protocol : UInt8} {len : Nat}
    (inside : 20 ≤ bound) :
    Within bound (pseudoHeaderIpv4 protocol len) store :=
  (copyBytes_within (by omega)).bind
    ((copyBytes_within (by omega)).bind (Within.pure _))

theorem pseudoHeaderIpv6_within {protocol : UInt8} {len : Nat}
    (inside : 40 ≤ bound) :
    Within bound (pseudoHeaderIpv6 protocol len) store :=
  (copyBytes_within (by omega)).bind
    ((copyBytes_within (by omega)).bind (Within.pure _))

/-- The cast to `int` never makes a size larger. -/
theorem toInt_le (size : Nat) : toInt size ≤ size := by
  unfold toInt
  rw [Int.bmod_def]
  split <;> omega

end Elementary

/-! ## Transport checksums -/

section Transports

variable {size : Nat} {store : Store}

/-- The guard of a transport routine covers the checksum field it writes. -/
def Guarded (transport : Transport) : Prop :=
  transport.field + 2 ≤ transport.minimum

theorem checksumSegmentIpv4_within {transport : Transport}
    {ihl : Nat} {len : Int}
    (guarded : Guarded transport)
    (sized : 20 ≤ size) (header : ihl + transport.minimum ≤ size)
    (segment : (ihl : Int) + len ≤ size) :
    Within size (checksumSegmentIpv4 transport ihl len) store := by
  unfold Guarded at guarded
  unfold checksumSegmentIpv4
  refine Within.ite (fun _ => Within.pure _) fun positive => ?_
  refine Within.ite (fun _ => ?_) fun _ => ?_
  · exact
      (pseudoHeaderIpv4_within sized).bind
        (checksumSegment_within (by omega) (by omega))
  · exact checksumSegment_within (by omega) (by omega)

theorem checksumIpv4_within {transport : Transport}
    (guarded : Guarded transport) (sized : 20 ≤ size) :
    Within size (checksumIpv4 transport size) store := by
  refine (Within.load (by omega)).bind ?_
  refine Within.ite (fun _ => Within.pure _) fun header => ?_
  refine (readU16Be_within (by omega)).bind ?_
  have cast := toInt_le size
  exact
    checksumSegmentIpv4_within guarded sized (by omega)
      (by unfold segmentLength; omega)

theorem checksumIpv6_within {transport : Transport}
    (guarded : Guarded transport) :
    Within size (checksumIpv6 transport size) store := by
  unfold Guarded at guarded
  refine Within.ite (fun _ => Within.pure _) fun header => ?_
  refine (readU16Be_within (by omega)).bind ?_
  refine Within.ite (fun _ => Within.pure _) fun positive => ?_
  have cast := toInt_le size
  exact
    (pseudoHeaderIpv6_within (by omega)).bind
      (checksumSegment_within (by omega) (by omega))

theorem tcp_guarded : Guarded tcp := Nat.le_refl _
theorem udp_guarded : Guarded udp := Nat.le_refl _
theorem icmp_guarded : Guarded icmp := Nat.le_refl _
theorem icmpv6_guarded : Guarded icmpv6 := Nat.le_refl _

theorem transportIpv4_within {protocol : UInt8} (sized : 20 ≤ size) :
    Within size (transportIpv4 protocol size) store := by
  refine Within.ite (fun _ => checksumIpv4_within tcp_guarded sized) ?_
  intro _
  refine Within.ite (fun _ => checksumIpv4_within udp_guarded sized) ?_
  intro _
  exact
    Within.ite (fun _ => checksumIpv4_within icmp_guarded sized)
      fun _ => Within.pure _

theorem transportIpv6_within {nextHeader : UInt8} :
    Within size (transportIpv6 nextHeader size) store := by
  refine Within.ite (fun _ => checksumIpv6_within tcp_guarded) ?_
  intro _
  refine Within.ite (fun _ => checksumIpv6_within udp_guarded) ?_
  intro _
  exact
    Within.ite (fun _ => checksumIpv6_within icmpv6_guarded)
      fun _ => Within.pure _

end Transports

/-! ## The header checksum -/

/--
The IPv4 header announced by the first byte ends inside the buffer.  Packets
of the other version have no announced header length.
-/
def HeaderInside (size : Nat) (memory : Nat → UInt8) : Prop :=
  version memory = 4 → headerLength (memory 0) ≤ size

instance (size : Nat) (memory : Nat → UInt8) :
    Decidable (HeaderInside size memory) :=
  inferInstanceAs (Decidable (_ → _))

section Header

variable {size : Nat} {store : Store}

theorem checksumIpv4Header_within (sized : 20 ≤ size)
    (inside : headerLength (store.memory 0) ≤ size) :
    Within size checksumIpv4Header store := by
  refine (Within.load (by omega)).bind ?_
  refine (writeU16Be_within (by omega)).bind ?_
  refine (rfc1071_within ?_).bind (writeU16Be_within (by omega))
  simpa using inside

theorem recalculateChecksums_within
    (inside : HeaderInside size store.memory) :
    Within size (recalculateChecksums size) store := by
  refine Within.ite (fun _ => Within.pure _) fun nonempty => ?_
  refine (Within.load (by omega)).bind ?_
  refine Within.ite (fun isV4 => ?_) fun _ => ?_
  · refine Within.ite (fun _ => Within.pure _) fun sized => ?_
    refine (Within.load (by omega)).bind ?_
    refine (transportIpv4_within (by omega)).bind ?_
    refine checksumIpv4Header_within (by omega) ?_
    rw [transportIpv4_memory, transportPlanIpv4_keeps (by decide)]
    exact inside isV4
  · refine Within.ite (fun _ => ?_) fun _ => Within.pure _
    refine Within.ite (fun _ => Within.pure _) fun sized => ?_
    exact (Within.load (by omega)).bind transportIpv6_within

theorem rfc1071Sum_extends (data len sum : Nat) :
    Extends (rfc1071Sum data len sum) := by
  induction data, len, sum using rfc1071Sum.induct with
  | case1 data sum => exact Extends.pure _
  | case2 data sum =>
      exact (Extends.load _).bind fun _ => Extends.pure _
  | case3 data len sum ih =>
      exact
        (Extends.load _).bind fun high =>
          (Extends.load _).bind fun low => ih high low

/-- The sum reads every offset of its segment. -/
theorem rfc1071Sum_touches {data len sum offset : Nat}
    (lower : data ≤ offset) (upper : offset < data + len) :
    offset ∈ (rfc1071Sum data len sum store).2.touched := by
  induction data, len, sum using rfc1071Sum.induct generalizing store with
  | case1 data sum => omega
  | case2 data sum =>
      have equal : offset = data := by omega
      simp [rfc1071Sum, equal]
  | case3 data len sum ih =>
      by_cases later : data + 2 ≤ offset
      · exact ih _ _ later (by omega)
      · have earlier :
            offset ∈ (load (data + 1) (load data store).2).2.touched := by
          simp only [load_touched, List.mem_cons]
          omega
        exact rfc1071Sum_extends (data + 2) len _ _ earlier

/-- The header checksum reads the whole announced header. -/
theorem checksumIpv4Header_touches {offset : Nat}
    (inside : offset < headerLength (store.memory 0)) :
    offset ∈ (checksumIpv4Header store).2.touched := by
  refine
    ((Extends.save 10 _).bind fun _ => Extends.save 11 _) _ ?_
  exact rfc1071Sum_touches (Nat.zero_le _) (by simpa using inside)

theorem recalculateChecksums_touches {offset : Nat}
    (sized : 20 ≤ size) (isV4 : version store.memory = 4)
    (inside : offset < headerLength (store.memory 0)) :
    offset ∈ (recalculateChecksums size store).2.touched := by
  unfold recalculateChecksums
  rw [if_neg (by omega), bind_apply]
  change
    offset ∈
      ((if version store.memory = 4 then _ else _ : Mem Unit)
        _).2.touched
  rw [if_pos isV4, if_neg (by omega), bind_apply, bind_apply]
  refine checksumIpv4Header_touches ?_
  rw [transportIpv4_memory, transportPlanIpv4_keeps (by decide)]
  exact inside

end Header

/-! ## Packet methods -/

section Methods

variable {size : Nat} {store : Store}

theorem isIPv4_within : Within size (isIPv4 size) store :=
  Within.ite (fun _ => Within.pure _) fun nonempty =>
    (Within.load (by omega)).bind (Within.pure _)

theorem isIPv6_within : Within size (isIPv6 size) store :=
  Within.ite (fun _ => Within.pure _) fun nonempty =>
    (Within.load (by omega)).bind (Within.pure _)

theorem isIPv4_memory :
    (isIPv4 size store).2.memory = store.memory := by
  unfold isIPv4
  split <;> rfl

theorem isIPv6_memory :
    (isIPv6 size store).2.memory = store.memory := by
  unfold isIPv6
  split <;> rfl

theorem saveBytes_frame {offset : Nat} {bytes : List UInt8} :
    Frame (· < offset) (saveBytes offset bytes) store := by
  induction bytes generalizing offset store with
  | nil => exact Frame.pure _
  | cons head tail ih =>
      refine (Frame.save head (by simp)).bind ?_
      intro other earlier
      exact ih other (Nat.lt_succ_of_lt earlier)

theorem headerInside_congr {left right : Nat → UInt8}
    (first : left 0 = right 0) :
    HeaderInside size left ↔ HeaderInside size right := by
  simp only [HeaderInside, version, first]

@[simp]
theorem length_networkBytes (count value : Nat) :
    (networkBytes count value).length = count := by
  simp [networkBytes]

theorem computeCalculateFields_within
    (inside : HeaderInside size store.memory) :
    Within size (computeCalculateFields size) store :=
  Within.ite (fun _ => Within.pure _) fun _ =>
    recalculateChecksums_within inside

theorem setIPv4Address_within {offset : Nat} {address : IPv4Address}
    (placed : 0 < offset) (fits : offset + 4 ≤ 20)
    (inside : HeaderInside size store.memory) :
    Within size (setIPv4Address size offset address) store := by
  refine isIPv4_within.bind ?_
  refine Within.ite (fun _ => Within.pure _) fun checked => ?_
  have sized : 20 ≤ size := by
    by_contra small
    exact checked (by simp [kMinIPv4, Nat.lt_of_not_le small])
  refine (Within.load (by omega)).bind ?_
  refine Within.ite (fun _ => Within.pure _) fun _ => ?_
  refine
    (saveBytes_within (by rw [length_networkBytes]; omega)).bind ?_
  refine recalculateChecksums_within ?_
  rw [headerInside_congr (saveBytes_frame 0 placed), load_memory,
    isIPv4_memory]
  exact inside

theorem setIPv6Address_within {text : AddressText} {offset : Nat}
    {address : IPv6Address}
    (placed : 0 < offset) (fits : offset + 16 ≤ 40)
    (inside : HeaderInside size store.memory) :
    Within size (setIPv6Address size text offset address) store := by
  refine isIPv6_within.bind ?_
  refine Within.ite (fun _ => Within.pure _) fun checked => ?_
  have sized : 40 ≤ size := by
    by_contra small
    exact checked (by simp [kMinIPv6, Nat.lt_of_not_le small])
  match text.inetPtonV6 address.ip with
  | none => exact Within.pure _
  | some value =>
      refine
        (saveBytes_within (by rw [length_networkBytes]; omega)).bind ?_
      refine recalculateChecksums_within ?_
      rw [headerInside_congr (saveBytes_frame 0 placed), isIPv6_memory]
      exact inside

theorem ipHeader_within : Within size (ipHeader size) store := by
  refine isIPv4_within.bind ?_
  refine Within.ite (fun isV4 => ?_) fun _ => Within.pure _
  refine (Within.load ?_).bind (Within.pure _)
  by_contra empty
  have zero : size = 0 := by omega
  simp [isIPv4, zero] at isV4

theorem getPort_within {offset : Nat} :
    Within size (getPort size offset) store :=
  ipHeader_within.bind
    (Within.ite (fun _ => Within.pure _) fun covered =>
      readU16Be_within (by omega))

theorem protocolByte_within (sized : 20 ≤ size) :
    Within size (protocolByte size) store :=
  isIPv4_within.bind
    (Within.ite (fun _ => Within.load (by omega)) fun _ =>
      Within.load (by omega))

theorem getTcpPayload_within (sized : 20 ≤ size) :
    Within size (getTcpPayload size) store := by
  refine (protocolByte_within sized).bind ?_
  refine Within.ite (fun _ => Within.pure _) fun _ => ?_
  refine ipHeader_within.bind ?_
  refine Within.ite (fun _ => Within.pure _) fun covered => ?_
  refine (Within.load (by omega)).bind ?_
  exact Within.ite (fun _ => Within.pure _) fun _ => Within.pure _

theorem getUdpPayload_within (sized : 20 ≤ size) :
    Within size (getUdpPayload size) store := by
  refine (protocolByte_within sized).bind ?_
  refine Within.ite (fun _ => Within.pure _) fun _ => ?_
  refine ipHeader_within.bind ?_
  exact Within.ite (fun _ => Within.pure _) fun _ => Within.pure _

theorem getTcpPayload_slice {start len : Nat}
    (found : (getTcpPayload size store).1 = some (start, len)) :
    start + len ≤ size := by
  simp only [getTcpPayload, bind_apply, ite_apply_store] at found
  split at found
  · simp at found
  · split at found
    · simp at found
    · split at found
      · simp at found
      · simp only [pure_apply, Option.some.injEq, Prod.mk.injEq] at found
        omega

theorem getUdpPayload_slice {start len : Nat}
    (found : (getUdpPayload size store).1 = some (start, len)) :
    start + len ≤ size := by
  simp only [getUdpPayload, bind_apply, ite_apply_store] at found
  split at found
  · simp at found
  · split at found
    · simp at found
    · simp only [pure_apply, Option.some.injEq, Prod.mk.injEq] at found
      omega

end Methods

/-! ## The whole interface -/

/-- Every access of a program on a packet's storage is inside its vector. -/
def Inside {α : Type} (program : Nat → Mem α) (data : IPPacketData) :
    Prop :=
  ∀ offset ∈ touchedBy (program data.size) data.memory,
    offset < data.size

/-- The slice returned by a payload getter is inside the vector. -/
def SliceInside
    (getter : Nat → Mem (Option (Nat × Nat))) (data : IPPacketData) :
    Prop :=
  ∀ start len,
    (getter data.size (Store.start data.memory)).1 = some (start, len) →
      start + len ≤ data.size

/-- Packet handling stays inside the buffer. -/
structure AccessesInside (data : IPPacketData) : Prop where
  recalculate : Inside recalculateChecksums data
  compute : Inside computeCalculateFields data
  setSrcIPv4 : ∀ address,
    Inside (setSrcIPv4Address · address) data
  setDstIPv4 : ∀ address,
    Inside (setDstIPv4Address · address) data
  setSrcIPv6 : ∀ text address,
    Inside (setSrcIPv6Address · text address) data
  setDstIPv6 : ∀ text address,
    Inside (setDstIPv6Address · text address) data
  tcpSrcPort : Inside getTcpSrcPort data
  tcpDstPort : Inside getTcpDstPort data
  udpSrcPort : Inside getUdpSrcPort data
  udpDstPort : Inside getUdpDstPort data
  tcpPayload : Inside getTcpPayload data
  udpPayload : Inside getUdpPayload data
  tcpSlice : SliceInside getTcpPayload data
  udpSlice : SliceInside getUdpPayload data

theorem accessesInside_of_headerInside {data : IPPacketData}
    (sized : 20 ≤ data.size)
    (inside : HeaderInside data.size data.memory) :
    AccessesInside data where
  recalculate :=
    Within.iff_touchedBy.mp (recalculateChecksums_within inside)
  compute :=
    Within.iff_touchedBy.mp (computeCalculateFields_within inside)
  setSrcIPv4 _ :=
    Within.iff_touchedBy.mp
      (setIPv4Address_within (by decide) (by decide) inside)
  setDstIPv4 _ :=
    Within.iff_touchedBy.mp
      (setIPv4Address_within (by decide) (by decide) inside)
  setSrcIPv6 _ _ :=
    Within.iff_touchedBy.mp
      (setIPv6Address_within (by decide) (by decide) inside)
  setDstIPv6 _ _ :=
    Within.iff_touchedBy.mp
      (setIPv6Address_within (by decide) (by decide) inside)
  tcpSrcPort := Within.iff_touchedBy.mp getPort_within
  tcpDstPort := Within.iff_touchedBy.mp getPort_within
  udpSrcPort := Within.iff_touchedBy.mp getPort_within
  udpDstPort := Within.iff_touchedBy.mp getPort_within
  tcpPayload := Within.iff_touchedBy.mp (getTcpPayload_within sized)
  udpPayload := Within.iff_touchedBy.mp (getUdpPayload_within sized)
  tcpSlice _ _ := getTcpPayload_slice
  udpSlice _ _ := getUdpPayload_slice

theorem headerInside_of_recalculate {data : IPPacketData}
    (sized : 20 ≤ data.size)
    (inside : Inside recalculateChecksums data) :
    HeaderInside data.size data.memory := by
  intro isV4
  by_contra longer
  have touched :
      data.size ∈
        touchedBy (recalculateChecksums data.size) data.memory :=
    recalculateChecksums_touches sized isV4 (Nat.lt_of_not_le longer)
  exact Nat.lt_irrefl _ (inside data.size touched)

/--
For an accepted packet, every access is inside the buffer exactly when the
announced IPv4 header is.
-/
theorem accessesInside_iff_headerInside
    {buffer : IPPacketData} {clientId : UInt64} {packet : IPPacket}
    (parsed : parse buffer clientId = some packet) :
    AccessesInside packet.data ↔
      HeaderInside packet.data.size packet.data.memory := by
  obtain ⟨⟨sized, _⟩, rfl⟩ := parse_eq_some_iff.mp parsed
  constructor
  · intro accesses
    exact headerInside_of_recalculate sized accesses.recalculate
  · exact accessesInside_of_headerInside sized

/-- A 20-byte buffer whose first byte is given and whose others are zero. -/
def shortHeader (first : UInt8) : IPPacketData where
  size := 20
  memory offset := if offset = 0 then first else 0

theorem accessesInside_minimal_header :
    AccessesInside (shortHeader 0x45) ↔
      HeaderInside (shortHeader 0x45).size (shortHeader 0x45).memory := by
  have parsed :
      parse (shortHeader 0x45) 0 = some ⟨shortHeader 0x45, 0⟩ := rfl
  exact accessesInside_iff_headerInside parsed

/-- An announced header of 24 bytes in a 20-byte packet is read to its end. -/
theorem header_overread :
    ¬ ∀ (buffer : IPPacketData) (clientId : UInt64) (packet : IPPacket),
      parse buffer clientId = some packet →
        AccessesInside packet.data := by
  intro always
  have accesses :=
    always (shortHeader 0x46) 0 ⟨shortHeader 0x46, 0⟩ rfl
  have inside :=
    headerInside_of_recalculate (by decide) accesses.recalculate
  revert inside
  decide

end Fptn.Network.PacketBounds
