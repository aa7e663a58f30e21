import Fptn.Network.ChecksumFrame
import Fptn.Network.PacketBounds

/-!
# Source addresses

What the address setters leave in a packet.  They write the address and then
recalculate the checksums, which leaves the address alone unless the header
is so short that the transport checksum lies in it.
-/

namespace Fptn.Network.SourceAddress

open Fptn.TracedMemory
open Fptn.Network.IPAddress
open Fptn.Network.IPUtils
open Fptn.Network.Packet
open Fptn.Network.ChecksumValue
open Fptn.Network.ChecksumEffect
open Fptn.Network.ChecksumFrame
open Fptn.Network.PacketBounds

variable {data : IPPacketData} {store : Store} {size offset : Nat}
  {memory : Nat → UInt8} {bytes : List UInt8}

/-! ## Storing bytes -/

/-- The memory after `memcpy`. -/
def putBytes (memory : Nat → UInt8) (offset : Nat) :
    List UInt8 → Nat → UInt8
  | [] => memory
  | head :: tail =>
      putBytes (Function.update memory offset head) (offset + 1) tail

theorem saveBytes_memory :
    (saveBytes offset bytes store).2.memory =
      putBytes store.memory offset bytes := by
  induction bytes generalizing offset store with
  | nil => rfl
  | cons head tail ih => exact ih

theorem putBytes_of_lt {other : Nat} (before : other < offset) :
    putBytes memory offset bytes other = memory other := by
  induction bytes generalizing offset memory with
  | nil => rfl
  | cons head tail ih =>
      rw [putBytes, ih (Nat.lt_succ_of_lt before),
        Function.update_of_ne (Nat.ne_of_lt before)]

theorem bytesAt_putBytes :
    bytesAt (putBytes memory offset bytes) offset bytes.length = bytes := by
  induction bytes generalizing offset memory with
  | nil => rfl
  | cons head tail ih =>
      rw [List.length_cons, bytesAt, putBytes, ih,
        putBytes_of_lt (Nat.lt_succ_self _), Function.update_self]

/-! ## Recalculation -/

theorem recalculateChecksums_memory
    (accepted : Accepted ⟨size, store.memory⟩) :
    (recalculateChecksums size store).2.memory =
      recalculated ⟨size, store.memory⟩ := by
  obtain ⟨sized, v4 | ⟨v6, sized6⟩⟩ := accepted
  · rw [recalculate_ipv4 sized v4, recalculated_ipv4 sized v4,
      packetPlan_ipv4 v4]
  · rw [recalculate_ipv6 sized6 v6, recalculated_ipv6 sized6 v6,
      packetPlan_ipv6 v6]

/-- The transport checksum lies over the source address: UDP behind a header
of eight bytes, or ICMP behind one of twelve. -/
def Clobbered (data : IPPacketData) : Prop :=
  version data.memory = 4 ∧
    (data.memory 9 = 17 ∧ headerLength (data.memory 0) = 8 ∨
      data.memory 9 = 1 ∧ headerLength (data.memory 0) = 12)

instance (data : IPPacketData) : Decidable (Clobbered data) :=
  inferInstanceAs (Decidable (_ ∧ _))

/-- A transport checksum behind no such header is neither at the address nor
at the TTL and the protocol. -/
theorem planned_field (whole : ¬Clobbered data)
    (v4 : version data.memory = 4) {plan : Plan}
    (planned : packetPlan data = some plan) :
    2 ≤ plan.field ∧ plan.field % 2 = 0 ∧ plan.field ≠ 8 ∧
      plan.field ≠ 12 ∧ plan.field ≠ 14 := by
  have even := packetPlan_even planned
  rw [packetPlan_ipv4 v4] at planned
  have spec := transportPlanIpv4_spec planned
  have start := spec.start
  have words : headerLength (data.memory 0) % 4 = 0 := by
    rw [headerLength]
    omega
  have place : plan.field = plan.start + plan.transport.field := rfl
  rcases spec.transport with
    ⟨-, which⟩ | ⟨protocol, which⟩ | ⟨protocol, which⟩
  · rw [which] at place
    change plan.field = plan.start + 16 at place
    omega
  · have other : headerLength (data.memory 0) ≠ 8 := fun eight =>
      whole ⟨v4, Or.inl ⟨protocol, eight⟩⟩
    rw [which] at place
    change plan.field = plan.start + 6 at place
    omega
  · have other : headerLength (data.memory 0) ≠ 12 := fun twelve =>
      whole ⟨v4, Or.inr ⟨protocol, twelve⟩⟩
    rw [which] at place
    change plan.field = plan.start + 2 at place
    omega

/-- Bytes on which the place of a checksum depends, and the address. -/
def Kept (offset : Nat) : Prop :=
  offset = 0 ∨ offset = 8 ∨ offset = 9 ∨ 12 ≤ offset ∧ offset < 16

theorem recalculated_kept_ipv4 (accepted : Accepted data)
    (v4 : version data.memory = 4) (whole : ¬Clobbered data)
    (kept : Kept offset) :
    recalculated data offset = data.memory offset := by
  unfold Kept at kept
  rw [recalculated_of_ne accepted fun _ => by omega]
  match planned : packetPlan data with
  | none => rfl
  | some plan =>
      have place := planned_field whole v4 planned
      exact putWord_of_ne (by omega) (by omega)

theorem recalculated_kept_ipv6 (accepted : Accepted data)
    (v6 : version data.memory = 6) (header : offset < 40) :
    recalculated data offset = data.memory offset := by
  rw [recalculated_of_ne accepted fun v4 => absurd (v4.symm.trans v6)
    (by decide)]
  match planned : packetPlan data with
  | none => rfl
  | some plan =>
      rw [packetPlan_ipv6 v6] at planned
      have start := (transportPlanIpv6_spec planned).start
      have place : plan.field = plan.start + plan.transport.field := rfl
      refine putWord_of_ne ?_ ?_
      all_goals omega

/-! ## Setters -/

theorem isIPv4_value (nonempty : size ≠ 0) :
    (isIPv4 size store).1 = (version store.memory == 4) := by
  rw [isIPv4, if_neg nonempty]
  rfl

theorem isIPv6_value (nonempty : size ≠ 0) :
    (isIPv6 size store).1 = (version store.memory == 6) := by
  rw [isIPv6, if_neg nonempty]
  rfl

theorem nonempty_of_accepted (accepted : Accepted ⟨size, memory⟩) :
    size ≠ 0 := by
  have sized := accepted.1
  simp only [kMinIPv4] at sized
  omega

theorem version_congr {other : Nat → UInt8} (same : other 0 = memory 0) :
    version other = version memory := by
  rw [version, version, same]

/-- Acceptance depends on the first byte only. -/
theorem accepted_congr {other : Nat → UInt8}
    (accepted : Accepted ⟨size, memory⟩) (same : other 0 = memory 0) :
    Accepted ⟨size, other⟩ := by
  simpa only [Accepted, version, same] using accepted

theorem save_recalculate_memory
    (same : store.memory = memory) (accepted : Accepted ⟨size, memory⟩)
    (behind : 0 < offset) :
    ((do
        saveBytes offset bytes
        recalculateChecksums size : Mem Unit) store).2.memory =
      recalculated ⟨size, putBytes memory offset bytes⟩ := by
  have saved : (saveBytes offset bytes store).2.memory =
      putBytes memory offset bytes := by
    rw [saveBytes_memory, same]
  rw [bind_apply, recalculateChecksums_memory, saved]
  rw [saved]
  exact accepted_congr accepted (putBytes_of_lt behind)

theorem setIPv4Address_memory {address : IPv4Address}
    (accepted : Accepted ⟨size, store.memory⟩)
    (v4 : version store.memory = 4) (ttl : store.memory 8 ≠ 0)
    (behind : 0 < offset) :
    (setIPv4Address size offset address store).2.memory =
      recalculated
        ⟨size, putBytes store.memory offset
          (networkBytes 4 address.toInt.toNat)⟩ := by
  have sized : ¬size < kMinIPv4 := Nat.not_lt.mpr accepted.1
  rw [setIPv4Address, bind_apply,
    isIPv4_value (nonempty_of_accepted accepted), v4]
  simp only [BEq.rfl, Bool.not_true, sized, decide_false, Bool.or_false,
    Bool.false_eq_true, if_false, bind_apply, load_value, isIPv4_memory,
    ttl]
  exact
    save_recalculate_memory (by rw [load_memory, isIPv4_memory])
      accepted behind

theorem setIPv6Address_memory {text : AddressText} {address : IPv6Address}
    {value : BitVec 128} (accepted : Accepted ⟨size, store.memory⟩)
    (v6 : version store.memory = 6)
    (parsed : text.inetPtonV6 address.ip = some value)
    (behind : 0 < offset) :
    (setIPv6Address size text offset address store).2.memory =
      recalculated
        ⟨size, putBytes store.memory offset
          (networkBytes 16 value.toNat)⟩ := by
  have sized : ¬size < kMinIPv6 := by
    rcases accepted.2 with v4 | ⟨-, sized⟩
    · cases v4.symm.trans v6
    · exact Nat.not_lt.mpr sized
  rw [setIPv6Address, bind_apply,
    isIPv6_value (nonempty_of_accepted accepted), v6, parsed]
  simp only [BEq.rfl, Bool.not_true, sized, decide_false, Bool.or_false,
    Bool.false_eq_true, if_false]
  exact save_recalculate_memory isIPv6_memory accepted behind

end Fptn.Network.SourceAddress
