import Fptn.Network.Dns
import Fptn.Network.SourceAddress

/-!
# Rewriting addresses

An address setter stores the address and recalculates the checksums.  The
checksums are computed from the other bytes of the packet only, so that of two
addresses set one after the other only the second one counts, and a packet
whose checksums were right comes back when its own address is set again.
-/

namespace Fptn.Network.AddressRewrite

open Fptn.BigEndian
open Fptn.TracedMemory
open Fptn.Network.IPAddress
open Fptn.Network.IPUtils
open Fptn.Network.Packet
open Fptn.Network.ChecksumValue
open Fptn.Network.ChecksumEffect
open Fptn.Network.ChecksumFrame
open Fptn.Network.PacketBounds
open Fptn.Network.SourceAddress

/-! ## The places of checksums -/

/-- Where the protocol of a packet has its checksum, whether the packet is
long enough or not. -/
def transportChecksumAt (data : IPPacketData) : Option Nat :=
  if version data.memory = 4 then
    (headerIpv4 (data.memory 9)).map fun header =>
      headerLength (data.memory 0) + header.checksum
  else if version data.memory = 6 then
    (headerIpv6 (data.memory 6)).map fun header => 40 + header.checksum
  else
    none

/-- The bytes of the checksum of the IPv4 header and of the one of the
transport. -/
def IsChecksum (data : IPPacketData) (offset : Nat) : Prop :=
  version data.memory = 4 ∧ (offset = 10 ∨ offset = 11) ∨
    ∃ place, transportChecksumAt data = some place ∧
      (offset = place ∨ offset = place + 1)

/-- The header of an IPv4 packet has its minimal length and is inside the
packet. -/
def Shaped (data : IPPacketData) : Prop :=
  version data.memory = 4 ∧ 20 ≤ headerLength (data.memory 0) ∧
      headerLength (data.memory 0) ≤ data.size ∨
    version data.memory = 6

instance (data : IPPacketData) : Decidable (Shaped data) :=
  inferInstanceAs (Decidable (_ ∨ _))

section Places

variable {data : IPPacketData} {offset : Nat}

/-- Where the checksum of the transport is written, if it is. -/
def writtenAt (data : IPPacketData) : Option Nat :=
  (packetPlan data).map Plan.field

/-- The bytes which are written. -/
def Written (data : IPPacketData) (offset : Nat) : Prop :=
  version data.memory = 4 ∧ (offset = 10 ∨ offset = 11) ∨
    ∃ place, writtenAt data = some place ∧
      (offset = place ∨ offset = place + 1)

theorem transportChecksumAt_of_writtenAt {place : Nat}
    (written : writtenAt data = some place) :
    transportChecksumAt data = some place := by
  obtain ⟨plan, planned, rfl⟩ := Option.map_eq_some_iff.mp written
  by_cases v4 : version data.memory = 4
  · rw [packetPlan_ipv4 v4] at planned
    have spec := transportPlanIpv4_spec planned
    obtain ⟨header, found, place⟩ := headerIpv4_of_planned spec
    rw [transportChecksumAt, if_pos v4, found, Option.map_some, place,
      Plan.field, spec.start]
  · by_cases v6 : version data.memory = 6
    · rw [packetPlan_ipv6 v6] at planned
      have spec := transportPlanIpv6_spec planned
      obtain ⟨header, found, place⟩ := headerIpv6_of_planned spec
      rw [transportChecksumAt, if_neg v4, if_pos v6, found, Option.map_some,
        place, Plan.field, spec.start]
    · simp [packetPlan, v4, v6] at planned

theorem Written.isChecksum (written : Written data offset) :
    IsChecksum data offset :=
  written.imp_right fun ⟨place, found, atPlace⟩ =>
    ⟨place, transportChecksumAt_of_writtenAt found, atPlace⟩

/-- Nothing else is changed by a recalculation. -/
theorem recalculated_of_not_written (accepted : Accepted data)
    (other : ¬Written data offset) :
    recalculated data offset = data.memory offset := by
  rw [Written, not_or] at other
  rw [recalculated_of_ne accepted fun v4 =>
    not_or.mp fun header => other.1 ⟨v4, header⟩]
  match planned : packetPlan data with
  | none => rfl
  | some plan =>
      have place : writtenAt data = some plan.field := by
        rw [writtenAt, planned, Option.map_some]
      refine putWord_of_ne ?_ ?_
      · rintro rfl
        exact other.2 ⟨plan.field, place, Or.inl rfl⟩
      · rintro rfl
        exact other.2 ⟨plan.field, place, Or.inr rfl⟩

/-- In the header of an IPv4 packet its own checksum is the only one. -/
theorem not_written_ipv4 (v4 : version data.memory = 4)
    (long : 20 ≤ headerLength (data.memory 0))
    (header : offset < 20) (notFirst : offset ≠ 10)
    (notSecond : offset ≠ 11) : ¬Written data offset := by
  rintro (⟨-, rfl | rfl⟩ | ⟨place, written, atPlace⟩)
  · exact notFirst rfl
  · exact notSecond rfl
  · have found := transportChecksumAt_of_writtenAt written
    rw [transportChecksumAt, if_pos v4] at found
    obtain ⟨entry, -, rfl⟩ := Option.map_eq_some_iff.mp found
    omega

theorem not_written_ipv6 (v6 : version data.memory = 6)
    (header : offset < 40) : ¬Written data offset := by
  have notFour : version data.memory ≠ 4 := by omega
  rintro (⟨v4, -⟩ | ⟨place, written, atPlace⟩)
  · exact notFour v4
  · have found := transportChecksumAt_of_writtenAt written
    rw [transportChecksumAt, if_neg notFour, if_pos v6] at found
    obtain ⟨entry, -, rfl⟩ := Option.map_eq_some_iff.mp found
    omega

end Places

/-! ## Packets which differ in their checksums -/

/-- Of two packets of one size all bytes but the checksums agree. -/
structure SameContent (left right : IPPacketData) : Prop where
  size : left.size = right.size
  same : ∀ offset, ¬Written right offset →
    left.memory offset = right.memory offset

section Content

variable {left right : IPPacketData} {plan : Plan}

theorem planIpv4_congr {transport : Transport} {size : Nat}
    {left right : Nat → UInt8} (first : left 0 = right 0)
    (length : word left 2 = word right 2)
    (addresses : ∀ offset, 12 ≤ offset → offset < 20 →
      left offset = right offset) :
    planIpv4 transport size left = planIpv4 transport size right := by
  have source : bytesAt left 12 4 = bytesAt right 12 4 :=
    bytesAt_congr fun offset lower upper =>
      addresses offset lower (by omega)
  have destination : bytesAt left 16 4 = bytesAt right 16 4 :=
    bytesAt_congr fun offset lower upper =>
      addresses offset (by omega) (by omega)
  simp only [planIpv4, segmentPlanIpv4, pseudoBytesIpv4, first, length,
    source, destination]

theorem planIpv6_congr {transport : Transport} {size : Nat}
    {left right : Nat → UInt8} (length : word left 4 = word right 4)
    (addresses : ∀ offset, 8 ≤ offset → offset < 40 →
      left offset = right offset) :
    planIpv6 transport size left = planIpv6 transport size right := by
  have source : bytesAt left 8 16 = bytesAt right 8 16 :=
    bytesAt_congr fun offset lower upper =>
      addresses offset lower (by omega)
  have destination : bytesAt left 24 16 = bytesAt right 24 16 :=
    bytesAt_congr fun offset lower upper =>
      addresses offset (by omega) (by omega)
  simp only [planIpv6, segmentPlanIpv6, pseudoBytesIpv6, length, source,
    destination]

/-- The write which is selected does not depend on checksums. -/
theorem packetPlan_congr (shaped : Shaped right)
    (content : SameContent left right) :
    packetPlan left = packetPlan right := by
  obtain ⟨size, same⟩ := content
  rcases shaped with ⟨v4, long, -⟩ | v6
  · have header (offset : Nat) (early : offset < 20) (notFirst : offset ≠ 10)
        (notSecond : offset ≠ 11) :
        left.memory offset = right.memory offset :=
      same offset (not_written_ipv4 v4 long early notFirst notSecond)
    have first := header 0 (by decide) (by decide) (by decide)
    have protocol := header 9 (by decide) (by decide) (by decide)
    have length : word left.memory 2 = word right.memory 2 :=
      word_congr (header 2 (by decide) (by decide) (by decide))
        (header 3 (by decide) (by decide) (by decide))
    have plans (transport : Transport) :=
      @planIpv4_congr transport right.size left.memory right.memory first
        length fun offset lower upper =>
          header offset upper (by omega) (by omega)
    have v4Left : version left.memory = 4 := (version_congr first).trans v4
    rw [packetPlan_ipv4 v4, packetPlan_ipv4 v4Left, size, protocol]
    simp only [transportPlanIpv4, plans]
  · have header (offset : Nat) (early : offset < 40) :
        left.memory offset = right.memory offset :=
      same offset (not_written_ipv6 v6 early)
    have first := header 0 (by decide)
    have nextHeader := header 6 (by decide)
    have length : word left.memory 4 = word right.memory 4 :=
      word_congr (header 4 (by decide)) (header 5 (by decide))
    have plans (transport : Transport) :=
      @planIpv6_congr transport right.size left.memory right.memory length
        fun offset lower upper => header offset upper
    have v6Left : version left.memory = 6 := (version_congr first).trans v6
    rw [packetPlan_ipv6 v6, packetPlan_ipv6 v6Left, size, nextHeader]
    simp only [transportPlanIpv6, plans]

theorem checksumOf_congr {left right : Nat → UInt8}
    {start len seed : Nat}
    (agree : ∀ offset, start ≤ offset → offset < start + len →
      left offset = right offset) :
    checksumOf left start len seed = checksumOf right start len seed := by
  rw [checksumOf, checksumOf, wordSum_congr agree]

/-- A checksum is computed as if its own place were zero. -/
theorem putWord_congr {left right : Nat → UInt8} {place value offset : Nat}
    (agree : offset ≠ place → offset ≠ place + 1 →
      left offset = right offset) :
    putWord left place value offset = putWord right place value offset := by
  by_cases first : offset = place
  · simp [putWord, first]
  · by_cases second : offset = place + 1
    · simp [putWord, second]
    · rw [putWord_of_ne first second, putWord_of_ne first second,
        agree first second]

theorem Plan.checksum_congr {left right : Nat → UInt8}
    (agree : ∀ offset, plan.start ≤ offset → offset ≠ plan.field →
      offset ≠ plan.field + 1 → left offset = right offset) :
    plan.checksum left = plan.checksum right := by
  have raw :
      checksumOf (putWord left plan.field 0) plan.start plan.len plan.seed =
        checksumOf (putWord right plan.field 0) plan.start plan.len
          plan.seed :=
    checksumOf_congr fun offset lower _ =>
      putWord_congr (agree offset lower)
  rw [Plan.checksum, Plan.checksum, raw]

theorem sealHeader_congr {left right : Nat → UInt8}
    (agree : ∀ offset, offset ≠ 10 → offset ≠ 11 →
      left offset = right offset) :
    sealHeader left = sealHeader right := by
  have first : left 0 = right 0 := agree 0 (by decide) (by decide)
  have checksum :
      checksumOf (putWord left 10 0) 0 (headerLength (left 0)) 0 =
        checksumOf (putWord right 10 0) 0 (headerLength (right 0)) 0 := by
    rw [first]
    exact checksumOf_congr fun offset _ _ => putWord_congr (agree offset)
  funext offset
  rw [sealHeader, sealHeader, checksum]
  exact putWord_congr (agree offset)

/-- A transport checksum is computed from bytes behind the IP header. -/
theorem planned_start (shaped : Shaped right)
    (planned : packetPlan right = some plan) : 20 ≤ plan.start := by
  rcases shaped with ⟨v4, long, -⟩ | v6
  · rw [packetPlan_ipv4 v4] at planned
    rw [(transportPlanIpv4_spec planned).start]
    exact long
  · rw [packetPlan_ipv6 v6] at planned
    rw [(transportPlanIpv6_spec planned).start]
    decide

/-- The transport checksum is a function of the other bytes. -/
theorem applyPlan_congr {offset : Nat} (shaped : Shaped right)
    (content : SameContent left right)
    (away : version right.memory = 4 → offset ≠ 10 ∧ offset ≠ 11) :
    applyPlan (packetPlan left) left.memory offset =
      applyPlan (packetPlan right) right.memory offset := by
  rw [packetPlan_congr shaped content]
  match planned : packetPlan right with
  | none =>
      refine content.same offset ?_
      rintro (⟨v4, header⟩ | ⟨place, written, -⟩)
      · exact not_or.mpr (away v4) header
      · rw [writtenAt, planned] at written
        cases written
  | some plan =>
      have start := planned_start shaped planned
      have agree (other : Nat)
          (away : version right.memory = 4 → other ≠ 10 ∧ other ≠ 11)
          (notFirst : other ≠ plan.field)
          (notSecond : other ≠ plan.field + 1) :
          left.memory other = right.memory other := by
        refine content.same other ?_
        rintro (⟨v4, header⟩ | ⟨place, written, atPlace⟩)
        · exact not_or.mpr (away v4) header
        · rw [writtenAt, planned, Option.map_some] at written
          obtain rfl := Option.some.inj written
          exact not_or.mpr ⟨notFirst, notSecond⟩ atPlace
      have checksum : plan.checksum left.memory =
          plan.checksum right.memory :=
        Plan.checksum_congr fun other lower notFirst notSecond =>
          agree other (fun _ => by omega) notFirst notSecond
      rw [applyPlan, applyPlan, Plan.apply, Plan.apply, checksum]
      exact putWord_congr (agree offset away)

/-- Checksums are a function of the other bytes. -/
theorem recalculated_congr (shaped : Shaped right)
    (accepted : Accepted right) (content : SameContent left right) :
    recalculated left = recalculated right := by
  have size := content.size
  rcases id shaped with ⟨v4, long, inside⟩ | v6
  · have first : left.memory 0 = right.memory 0 :=
      content.same 0
        (not_written_ipv4 v4 long (by decide) (by decide) (by decide))
    have v4Left : version left.memory = 4 := (version_congr first).trans v4
    rw [recalculated_ipv4 (size ▸ accepted.1) v4Left,
      recalculated_ipv4 accepted.1 v4]
    exact sealHeader_congr fun offset notFirst notSecond =>
      applyPlan_congr shaped content fun _ => ⟨notFirst, notSecond⟩
  · have first : left.memory 0 = right.memory 0 :=
      content.same 0 (not_written_ipv6 v6 (by decide))
    have v6Left : version left.memory = 6 := (version_congr first).trans v6
    have notFour : version right.memory ≠ 4 := by omega
    have sized : 40 ≤ right.size :=
      (accepted.2.resolve_left notFour).2
    rw [recalculated_ipv6 (size ▸ sized) v6Left,
      recalculated_ipv6 sized v6]
    funext offset
    exact applyPlan_congr shaped content fun v4 => absurd v4 notFour

end Content

/-! ## Addresses -/

section PutBytes

variable {memory : Nat → UInt8} {offset other : Nat} {bytes : List UInt8}

theorem putBytes_of_ge (behind : offset + bytes.length ≤ other) :
    putBytes memory offset bytes other = memory other := by
  induction bytes generalizing offset memory with
  | nil => rfl
  | cons head tail ih =>
      rw [List.length_cons] at behind
      rw [putBytes, ih (by omega), Function.update_of_ne (by omega)]

/-- What has been there does not matter. -/
theorem putBytes_inside {left right : Nat → UInt8} (lower : offset ≤ other)
    (upper : other < offset + bytes.length) :
    putBytes left offset bytes other = putBytes right offset bytes other := by
  induction bytes generalizing offset left right with
  | nil => exact absurd upper (Nat.not_lt.mpr lower)
  | cons head tail ih =>
      rw [List.length_cons] at upper
      by_cases here : other = offset
      · rw [putBytes, putBytes, here, putBytes_of_lt (Nat.lt_succ_self _),
          putBytes_of_lt (Nat.lt_succ_self _), Function.update_self,
          Function.update_self]
      · exact ih (by omega) (by omega)

theorem putBytes_bytesAt (memory : Nat → UInt8) (offset count : Nat) :
    putBytes memory offset (bytesAt memory offset count) = memory := by
  induction count generalizing offset with
  | zero => rfl
  | succ count ih =>
      rw [bytesAt, putBytes, Function.update_eq_self]
      exact ih (offset + 1)

end PutBytes

/-- A place among the addresses of a header. -/
def AddressPlace (data : IPPacketData) (offset count : Nat) : Prop :=
  version data.memory = 4 ∧ 12 ≤ offset ∧ offset + count ≤ 20 ∨
    version data.memory = 6 ∧ 8 ≤ offset ∧ offset + count ≤ 40

/-- Where a checksum is written depends on the header without its
addresses. -/
theorem writtenAt_congr {left right : IPPacketData}
    (size : left.size = right.size)
    (first : left.memory 0 = right.memory 0)
    (ipv4 : version right.memory = 4 →
      word left.memory 2 = word right.memory 2 ∧
        left.memory 9 = right.memory 9)
    (ipv6 : version right.memory = 6 →
      word left.memory 4 = word right.memory 4 ∧
        left.memory 6 = right.memory 6) :
    writtenAt left = writtenAt right := by
  have same := version_congr first
  by_cases v4 : version right.memory = 4
  · obtain ⟨length, protocol⟩ := ipv4 v4
    have plans (transport : Transport) :
        (planIpv4 transport right.size left.memory).map Plan.field =
          (planIpv4 transport right.size right.memory).map Plan.field := by
      simp only [planIpv4, segmentPlanIpv4, first, length,
        apply_ite (Option.map Plan.field), Option.map_some, Plan.field]
    rw [writtenAt, writtenAt, packetPlan_ipv4 v4,
      packetPlan_ipv4 (same.trans v4), size, protocol]
    simp only [transportPlanIpv4, apply_ite (Option.map Plan.field), plans]
  · by_cases v6 : version right.memory = 6
    · obtain ⟨length, nextHeader⟩ := ipv6 v6
      have plans (transport : Transport) :
          (planIpv6 transport right.size left.memory).map Plan.field =
            (planIpv6 transport right.size right.memory).map Plan.field := by
        simp only [planIpv6, segmentPlanIpv6, length,
          apply_ite (Option.map Plan.field), Option.map_some, Plan.field]
      rw [writtenAt, writtenAt, packetPlan_ipv6 v6,
        packetPlan_ipv6 (same.trans v6), size, nextHeader]
      simp only [transportPlanIpv6, apply_ite (Option.map Plan.field), plans]
    · simp [writtenAt, packetPlan, same, v4, v6]

section Rewriting

variable {data : IPPacketData} {offset other : Nat} {bytes : List UInt8}

/-- The packet with these bytes and its old checksums. -/
def stored (data : IPPacketData) (offset : Nat) (bytes : List UInt8) :
    IPPacketData :=
  ⟨data.size, putBytes data.memory offset bytes⟩

/-- The packet with these bytes and the checksums for them. -/
def rewritten (data : IPPacketData) (offset : Nat) (bytes : List UInt8) :
    IPPacketData :=
  ⟨data.size, recalculated (stored data offset bytes)⟩

theorem stored_outside (outside : other < offset ∨
      offset + bytes.length ≤ other) :
    (stored data offset bytes).memory other = data.memory other :=
  outside.elim putBytes_of_lt putBytes_of_ge

/-- The first eight bytes and the protocol of IPv4 are no addresses. -/
theorem AddressPlace.header
    (place : AddressPlace data offset bytes.length)
    (early : other < 8 ∨ version data.memory = 4 ∧ other < 12) :
    (stored data offset bytes).memory other = data.memory other := by
  refine stored_outside (Or.inl ?_)
  rcases place with ⟨v4, lower, -⟩ | ⟨v6, lower, -⟩ <;> omega

theorem written_stored (place : AddressPlace data offset bytes.length) :
    Written (stored data offset bytes) other ↔ Written data other := by
  have first := place.header (Or.inl (by decide : 0 < 8))
  have same : writtenAt (stored data offset bytes) = writtenAt data := by
    refine writtenAt_congr rfl first (fun v4 => ⟨?_, ?_⟩)
      fun v6 => ⟨?_, ?_⟩
    · exact word_congr (place.header (Or.inl (by decide)))
        (place.header (Or.inl (by decide)))
    · exact place.header (Or.inr ⟨v4, by decide⟩)
    · exact word_congr (place.header (Or.inl (by decide)))
        (place.header (Or.inl (by decide)))
    · exact place.header (Or.inl (by decide))
  rw [Written, Written, same, version_congr first]

theorem shaped_stored (place : AddressPlace data offset bytes.length)
    (shaped : Shaped data) : Shaped (stored data offset bytes) := by
  have first := place.header (Or.inl (by decide : 0 < 8))
  rw [Shaped, version_congr first, first]
  exact shaped

theorem accepted_stored (place : AddressPlace data offset bytes.length)
    (accepted : Accepted data) : Accepted (stored data offset bytes) :=
  accepted_congr accepted (place.header (Or.inl (by decide)))

/-- Only the address and checksums are changed. -/
theorem rewritten_outside (place : AddressPlace data offset bytes.length)
    (accepted : Accepted data)
    (outside : other < offset ∨ offset + bytes.length ≤ other)
    (notWritten : ¬Written data other) :
    (rewritten data offset bytes).memory other = data.memory other := by
  have notWrittenThen : ¬Written (stored data offset bytes) other :=
    mt (written_stored place).mp notWritten
  exact
    (recalculated_of_not_written (accepted_stored place accepted)
      notWrittenThen).trans (stored_outside outside)

/-- Of two addresses set one after the other the second one counts. -/
theorem rewritten_rewritten {later : List UInt8}
    (place : AddressPlace data offset bytes.length)
    (length : later.length = bytes.length) (shaped : Shaped data)
    (accepted : Accepted data) :
    rewritten (rewritten data offset bytes) offset later =
      rewritten data offset later := by
  have laterPlace : AddressPlace data offset later.length := by
    rw [length]
    exact place
  have content :
      SameContent (stored (rewritten data offset bytes) offset later)
        (stored data offset later) := by
    refine ⟨rfl, fun other notWritten => ?_⟩
    by_cases inside : offset ≤ other ∧ other < offset + later.length
    · exact putBytes_inside inside.1 inside.2
    · have outside : other < offset ∨ offset + later.length ≤ other := by
        omega
      rw [stored_outside outside, stored_outside outside]
      rw [length] at outside
      exact rewritten_outside place accepted outside
        (mt (written_stored laterPlace).mpr notWritten)
  exact congrArg (IPPacketData.mk data.size)
    (recalculated_congr (shaped_stored laterPlace shaped)
      (accepted_stored laterPlace accepted) content)

/-- Setting the address which is there changes nothing, if the checksums are
as they should be. -/
theorem rewritten_self (fixed : recalculated data = data.memory)
    (offset count : Nat) :
    rewritten data offset (bytesAt data.memory offset count) = data := by
  rw [rewritten, stored, putBytes_bytesAt]
  exact congrArg (IPPacketData.mk data.size) fixed

end Rewriting

/-! ## The setters -/

section Getters

variable (data : IPPacketData) (text : AddressText)

def getDstIPv4Address : IPv4Address :=
  if !Dns.hasVersion data 4 ∨ data.size < kMinIPv4 then
    default
  else
    IPv4Address.ofValue text
      (BitVec.ofNat 32 (valueOf (bytesAt data.memory 16 4)))

def getDstIPv6Address : IPv6Address :=
  if !Dns.hasVersion data 6 ∨ data.size < kMinIPv6 then
    default
  else
    IPv6Address.ofValue text
      (BitVec.ofNat 128 (valueOf (bytesAt data.memory 24 16)))

end Getters

/-- One call of a setter changes at most the bytes of the address and of
checksums, and a second call brings the packet back. -/
structure Reversible (data : IPPacketData) (setter restore : Nat → Mem Unit)
    (place count : Nat) : Prop where
  changed : ∀ offset,
    memoryAfter (setter data.size) data.memory offset ≠
        data.memory offset →
      place ≤ offset ∧ offset < place + count ∨ IsChecksum data offset
  restored :
    memoryAfter (restore data.size)
        (memoryAfter (setter data.size) data.memory) =
      data.memory

section Setters

variable {data : IPPacketData} {text : AddressText} {store : Store}
  {size offset count : Nat} {setter restore : Nat → Mem Unit}

theorem networkBytes_eq (count value : Nat) :
    networkBytes count value = bytesOf count value := by
  induction count with
  | zero => rfl
  | succ count ih =>
      have head : value >>> (8 * (count + 1 - 1 - 0)) =
          value / 256 ^ count := by
        rw [Nat.shiftRight_eq_div_pow, Nat.sub_zero, Nat.add_sub_cancel,
          Nat.pow_mul]
      rw [bytesOf, ← ih, networkBytes, List.range_succ_eq_map,
        List.map_cons, head, List.map_map, networkBytes]
      congr 1
      refine List.map_congr_left fun index _ => ?_
      have shift : count + 1 - 1 - (index + 1) = count - 1 - index := by
        omega
      simp only [Function.comp_apply, Nat.succ_eq_add_one, shift]

/-- The bytes of the address which is read. -/
theorem networkBytes_valueOf {bytes : List UInt8}
    (length : bytes.length = count) :
    networkBytes count (BitVec.ofNat (8 * count) (valueOf bytes)).toNat =
      bytes := by
  rw [toNat_ofNat_valueOf length, networkBytes_eq, ← length,
    bytesOf_valueOf]

theorem setIPv4Address_skips {address : IPv4Address}
    (skips : version store.memory ≠ 4 ∨ store.memory 8 = 0) :
    (setIPv4Address size offset address store).2.memory =
      store.memory := by
  rw [setIPv4Address, bind_apply, ite_apply_store]
  split
  · exact isIPv4_memory
  case isFalse goesOn =>
    rw [bind_apply, ite_apply_store]
    split
    · exact isIPv4_memory
    case isFalse alive =>
      exfalso
      rw [load_value, isIPv4_memory] at alive
      rw [Bool.or_eq_true, not_or, Bool.not_eq_true', Bool.not_eq_false]
        at goesOn
      have nonempty : size ≠ 0 := by
        rintro rfl
        simp [isIPv4] at goesOn
      rw [isIPv4_value nonempty, beq_iff_eq] at goesOn
      exact skips.elim (absurd goesOn.1) alive

theorem setIPv6Address_skips {address : IPv6Address}
    (skips : version store.memory ≠ 6 ∨ size < kMinIPv6 ∨
      text.inetPtonV6 address.ip = none) :
    (setIPv6Address size text offset address store).2.memory =
      store.memory := by
  rw [setIPv6Address, bind_apply, ite_apply_store]
  split
  · exact isIPv6_memory
  case isFalse goesOn =>
    rw [Bool.or_eq_true, not_or, Bool.not_eq_true', Bool.not_eq_false,
      decide_eq_true_eq] at goesOn
    have nonempty : size ≠ 0 := by
      rintro rfl
      simp [isIPv6] at goesOn
    rw [isIPv6_value nonempty, beq_iff_eq] at goesOn
    rw [(skips.resolve_left (not_not.mpr goesOn.1)).resolve_left goesOn.2]
    exact isIPv6_memory

/-- A setter which does nothing is undone by nothing. -/
theorem reversible_of_skips
    (sets : memoryAfter (setter data.size) data.memory = data.memory)
    (restores : memoryAfter (restore data.size) data.memory =
      data.memory) :
    Reversible data setter restore offset count where
  changed other different := absurd (congrFun sets other) different
  restored := by rw [sets, restores]

/-- A setter which rewrites an address is undone by the one which rewrites
it with the packet's own. -/
theorem reversible_of_rewritten {bytes : List UInt8}
    (place : AddressPlace data offset bytes.length) (shaped : Shaped data)
    (accepted : Accepted data) (fixed : recalculated data = data.memory)
    (sets : memoryAfter (setter data.size) data.memory =
      (rewritten data offset bytes).memory)
    (restores :
      memoryAfter (restore data.size) (rewritten data offset bytes).memory =
        (rewritten (rewritten data offset bytes) offset
          (bytesAt data.memory offset bytes.length)).memory) :
    Reversible data setter restore offset bytes.length where
  changed other different := by
    by_contra kept
    rw [not_or] at kept
    refine different ?_
    rw [sets]
    exact
      rewritten_outside place accepted (by omega)
        (mt Written.isChecksum kept.2)
  restored := by
    rw [sets, restores,
      rewritten_rewritten place (length_bytesAt _ _ _) shaped accepted,
      rewritten_self fixed]

theorem setIPv4Address_reversible {address original : IPv4Address}
    (lower : 12 ≤ offset) (upper : offset + 4 ≤ 20) (shaped : Shaped data)
    (fixed : recalculated data = data.memory)
    (own : version data.memory = 4 →
      networkBytes 4 original.toInt.toNat =
        bytesAt data.memory offset 4) :
    Reversible data (setIPv4Address · offset address)
      (setIPv4Address · offset original) offset 4 := by
  by_cases skips : version data.memory ≠ 4 ∨ data.memory 8 = 0
  · exact
      reversible_of_skips (setIPv4Address_skips skips)
        (setIPv4Address_skips skips)
  rw [not_or, not_not] at skips
  obtain ⟨v4, ttl⟩ := skips
  have long : 20 ≤ headerLength (data.memory 0) ∧
      headerLength (data.memory 0) ≤ data.size := by
    rcases shaped with ⟨-, long⟩ | v6
    · exact long
    · cases v4.symm.trans v6
  have accepted : Accepted data :=
    ⟨Nat.le_trans long.1 long.2, Or.inl v4⟩
  have length := length_networkBytes 4 address.toInt.toNat
  have place : AddressPlace data offset
      (networkBytes 4 address.toInt.toNat).length := by
    rw [length]
    exact Or.inl ⟨v4, lower, upper⟩
  have kept (other : Nat) (early : other < 10) :
      (rewritten data offset
        (networkBytes 4 address.toInt.toNat)).memory other =
          data.memory other :=
    rewritten_outside place accepted (Or.inl (by omega))
      (not_written_ipv4 v4 long.1 (by omega) (by omega) (by omega))
  have reversible := @reversible_of_rewritten data offset
    (setIPv4Address · offset address) (setIPv4Address · offset original)
    _ place shaped accepted fixed
    (setIPv4Address_memory accepted v4 ttl (by omega))
  rw [length, ← own v4] at reversible
  refine reversible (setIPv4Address_memory ?_ ?_ ?_ (by omega))
  · exact accepted_congr accepted (kept 0 (by decide))
  · exact (version_congr (kept 0 (by decide))).trans v4
  · exact fun zero => ttl ((kept 8 (by decide)).symm.trans zero)

theorem setIPv6Address_reversible {address original : IPv6Address}
    (lower : 8 ≤ offset) (upper : offset + 16 ≤ 40)
    (fixed : recalculated data = data.memory)
    (own : version data.memory = 6 → kMinIPv6 ≤ data.size →
      ∃ value, text.inetPtonV6 original.ip = some value ∧
        networkBytes 16 value.toNat = bytesAt data.memory offset 16) :
    Reversible data (setIPv6Address · text offset address)
      (setIPv6Address · text offset original) offset 16 := by
  by_cases skips : version data.memory ≠ 6 ∨ data.size < kMinIPv6
  · have skipsAny {other : IPv6Address} :
        version data.memory ≠ 6 ∨ data.size < kMinIPv6 ∨
          text.inetPtonV6 other.ip = none := by
      rcases skips with other | short
      · exact Or.inl other
      · exact Or.inr (Or.inl short)
    exact
      reversible_of_skips (setIPv6Address_skips skipsAny)
        (setIPv6Address_skips skipsAny)
  rw [not_or, not_not, Nat.not_lt] at skips
  obtain ⟨v6, sized⟩ := skips
  obtain ⟨value, parsed, bytes⟩ := own v6 sized
  have shaped : Shaped data := Or.inr v6
  have accepted : Accepted data :=
    ⟨Nat.le_trans (by decide) sized, Or.inr ⟨v6, sized⟩⟩
  match parsedAddress : text.inetPtonV6 address.ip with
  | none =>
      refine
        reversible_of_skips
          (setIPv6Address_skips (Or.inr (Or.inr parsedAddress))) ?_
      have restored := @setIPv6Address_memory (Store.start data.memory)
        data.size offset text original value accepted v6 parsed (by omega)
      rw [bytes] at restored
      exact
        restored.trans
          (congrArg IPPacketData.memory (rewritten_self fixed offset 16))
  | some new =>
      have length := length_networkBytes 16 new.toNat
      have place : AddressPlace data offset
          (networkBytes 16 new.toNat).length := by
        rw [length]
        exact Or.inr ⟨v6, lower, upper⟩
      have first :
          (rewritten data offset (networkBytes 16 new.toNat)).memory 0 =
            data.memory 0 :=
        rewritten_outside place accepted (Or.inl (by omega))
          (not_written_ipv6 v6 (by decide))
      have reversible := @reversible_of_rewritten data offset
        (setIPv6Address · text offset address)
        (setIPv6Address · text offset original)
        _ place shaped accepted fixed
        (setIPv6Address_memory accepted v6 parsedAddress (by omega))
      rw [length, ← bytes] at reversible
      refine reversible (setIPv6Address_memory ?_ ?_ parsed (by omega))
      · exact accepted_congr accepted first
      · exact (version_congr first).trans v6

end Setters

/-- A packet with its checksums. -/
def resealed (data : IPPacketData) : IPPacketData :=
  ⟨data.size, recalculated data⟩

section Resealed

variable {data : IPPacketData}

/-- Its checksums are as they should be. -/
theorem recalculated_resealed (shaped : Shaped data)
    (accepted : Accepted data) :
    recalculated (resealed data) = (resealed data).memory :=
  recalculated_congr shaped accepted
    ⟨rfl, fun _ notWritten =>
      recalculated_of_not_written accepted notWritten⟩

theorem shaped_resealed (shaped : Shaped data) (accepted : Accepted data) :
    Shaped (resealed data) := by
  have first : (resealed data).memory 0 = data.memory 0 := by
    refine recalculated_of_not_written accepted ?_
    rcases shaped with ⟨v4, long, -⟩ | v6
    · exact
        not_written_ipv4 v4 long (by decide) (by decide) (by decide)
    · exact not_written_ipv6 v6 (by decide)
  rw [Shaped, version_congr first, first]
  exact shaped

end Resealed

section Own

variable {data : IPPacketData} {text : AddressText}

theorem hasVersion_of_version {wanted : Nat} (nonempty : data.size ≠ 0)
    (same : version data.memory = wanted) :
    Dns.hasVersion data wanted = true := by
  simp [Dns.hasVersion, nonempty, same]

/-- The address which a getter of version 4 reads is the one to set. -/
theorem own_ipv4 {offset : Nat} {address : IPv4Address}
    (shaped : Shaped data) (v4 : version data.memory = 4)
    (read : address =
      if !Dns.hasVersion data 4 ∨ data.size < kMinIPv4 then
        default
      else
        IPv4Address.ofValue text
          (BitVec.ofNat 32 (valueOf (bytesAt data.memory offset 4)))) :
    networkBytes 4 address.toInt.toNat = bytesAt data.memory offset 4 := by
  have sized : kMinIPv4 ≤ data.size := by
    rcases shaped with ⟨-, long, inside⟩ | v6
    · exact Nat.le_trans long inside
    · cases v4.symm.trans v6
  rw [kMinIPv4] at sized
  have known := hasVersion_of_version (by omega) v4
  rw [if_neg (by rw [known, kMinIPv4]; simpa using sized)] at read
  rw [read, IPv4Address.toInt, IPv4Address.ofValue_impl]
  exact networkBytes_valueOf (length_bytesAt _ _ _)

theorem own_ipv6 {offset : Nat} {address : IPv6Address}
    (v6 : version data.memory = 6) (sized : kMinIPv6 ≤ data.size)
    (read : address =
      if !Dns.hasVersion data 6 ∨ data.size < kMinIPv6 then
        default
      else
        IPv6Address.ofValue text
          (BitVec.ofNat 128 (valueOf (bytesAt data.memory offset 16)))) :
    ∃ value, text.inetPtonV6 address.ip = some value ∧
      networkBytes 16 value.toNat = bytesAt data.memory offset 16 := by
  rw [kMinIPv6] at sized
  have known := hasVersion_of_version (by omega) v6
  rw [if_neg (by rw [known, kMinIPv6]; simpa using sized)] at read
  rw [read]
  exact
    ⟨_, text.inetPtonV6_toString _,
      networkBytes_valueOf (length_bytesAt _ _ _)⟩

end Own

/-- Each setter changes the address and checksums at most, and setting the
address which the packet has had brings the packet back. -/
theorem setters_reversible (data : IPPacketData) (text : AddressText)
    (shaped : Shaped data) (fixed : recalculated data = data.memory) :
    (∀ src, Reversible data (setSrcIPv4Address · src)
        (setSrcIPv4Address · (Dns.getSrcIPv4Address data text)) 12 4) ∧
      (∀ dst, Reversible data (setDstIPv4Address · dst)
        (setDstIPv4Address · (getDstIPv4Address data text)) 16 4) ∧
      (∀ src, Reversible data (setSrcIPv6Address · text src)
        (setSrcIPv6Address · text (Dns.getSrcIPv6Address data text))
        8 16) ∧
      (∀ dst, Reversible data (setDstIPv6Address · text dst)
        (setDstIPv6Address · text (getDstIPv6Address data text))
        24 16) := by
  refine ⟨fun src => ?_, fun dst => ?_, fun src => ?_, fun dst => ?_⟩
  · exact
      setIPv4Address_reversible (by decide) (by decide) shaped fixed
        fun v4 => own_ipv4 shaped v4 rfl
  · exact
      setIPv4Address_reversible (by decide) (by decide) shaped fixed
        fun v4 => own_ipv4 shaped v4 rfl
  · exact
      setIPv6Address_reversible (by decide) (by decide) fixed
        fun v6 sized => own_ipv6 v6 sized rfl
  · exact
      setIPv6Address_reversible (by decide) (by decide) fixed
        fun v6 sized => own_ipv6 v6 sized rfl

/-- A UDP packet of version 4 with zeros for checksums. -/
def udpPacket : IPPacketData :=
  let bytes : List UInt8 :=
    [0x45, 0, 0, 28, 0, 0, 0, 0, 64, 17, 0, 0, 10, 0, 0, 1, 192, 0, 2, 7,
      0x30, 0x39, 0, 53, 0, 8, 0, 0]
  ⟨bytes.length, fun offset => bytes.getD offset 0⟩

theorem setters_reversible_udp :
    (∀ src, Reversible (resealed udpPacket) (setSrcIPv4Address · src)
        (setSrcIPv4Address ·
          (Dns.getSrcIPv4Address (resealed udpPacket) plainText)) 12 4) ∧
      (∀ dst, Reversible (resealed udpPacket) (setDstIPv4Address · dst)
        (setDstIPv4Address ·
          (getDstIPv4Address (resealed udpPacket) plainText)) 16 4) ∧
      (∀ src, Reversible (resealed udpPacket)
        (setSrcIPv6Address · plainText src)
        (setSrcIPv6Address · plainText
          (Dns.getSrcIPv6Address (resealed udpPacket) plainText)) 8 16) ∧
      (∀ dst, Reversible (resealed udpPacket)
        (setDstIPv6Address · plainText dst)
        (setDstIPv6Address · plainText
          (getDstIPv6Address (resealed udpPacket) plainText)) 24 16) := by
  have shaped : Shaped udpPacket := by decide
  have accepted : Accepted udpPacket := by decide
  exact
    setters_reversible (resealed udpPacket) plainText
      (shaped_resealed shaped accepted)
      (recalculated_resealed shaped accepted)

end Fptn.Network.AddressRewrite
