import Fptn.Network.ChecksumEffect
import Fptn.Network.Packet

/-!
# Bytes changed by `RecalculateChecksums`

The transport routines take their write position from the header length nibble
and the protocol byte.  Neither the fragment fields nor the minimal header
length is consulted, so a fragment is treated as if its first payload bytes
were a transport header.  This module says which bytes may change, and exactly
when nothing else does.
-/

namespace Fptn.Network.ChecksumFrame

open Fptn.TracedMemory
open Fptn.Network.IPUtils
open Fptn.Network.ChecksumValue
open Fptn.Network.ChecksumEffect
open Fptn.Network.Packet

/-! ## Carried transport headers -/

/-- The size of a transport header and the place of its checksum. -/
structure TransportHeader where
  length : Nat
  checksum : Nat

def tcpHeader : TransportHeader := ⟨20, 16⟩
def udpHeader : TransportHeader := ⟨8, 6⟩
def icmpHeader : TransportHeader := ⟨4, 2⟩

def headerIpv4 (protocol : UInt8) : Option TransportHeader :=
  if protocol = 6 then some tcpHeader
  else if protocol = 17 then some udpHeader
  else if protocol = 1 then some icmpHeader
  else none

def headerIpv6 (nextHeader : UInt8) : Option TransportHeader :=
  if nextHeader = 6 then some tcpHeader
  else if nextHeader = 17 then some udpHeader
  else if nextHeader = 58 then some icmpHeader
  else none

/-- The more-fragments flag is clear and the fragment offset is zero. -/
def Unfragmented (memory : Nat → UInt8) : Prop :=
  word memory 6 % 2 ^ 14 = 0

instance (memory : Nat → UInt8) : Decidable (Unfragmented memory) :=
  inferInstanceAs (Decidable (_ = _))

/-- An IPv4 packet carries this header, which ends inside the buffer. -/
def CarriesIpv4 (data : IPPacketData) (header : TransportHeader) : Prop :=
  Unfragmented data.memory ∧ 20 ≤ headerLength (data.memory 0) ∧
    headerLength (data.memory 0) + header.length ≤ data.size

instance (data : IPPacketData) (header : TransportHeader) :
    Decidable (CarriesIpv4 data header) :=
  inferInstanceAs (Decidable (_ ∧ _))

/-- Where the checksum of the carried transport header lies, if any. -/
def carriedField (data : IPPacketData) : Option Nat :=
  if version data.memory = 4 then
    match headerIpv4 (data.memory 9) with
    | none => none
    | some header =>
      if CarriesIpv4 data header then
        some (headerLength (data.memory 0) + header.checksum)
      else
        none
  else if version data.memory = 6 then
    match headerIpv6 (data.memory 6) with
    | none => none
    | some header =>
      if 40 + header.length ≤ data.size then
        some (40 + header.checksum)
      else
        none
  else
    none

/-- The bytes which recalculation is meant to change. -/
def MayChange (data : IPPacketData) (offset : Nat) : Prop :=
  version data.memory = 4 ∧ (offset = 10 ∨ offset = 11) ∨
    ∃ field, carriedField data = some field ∧
      (offset = field ∨ offset = field + 1)

/-- The memory after `RecalculateChecksums`. -/
def recalculated (data : IPPacketData) : Nat → UInt8 :=
  memoryAfter (recalculateChecksums data.size) data.memory

/-- Recalculation changes checksums only. -/
structure DamagesNothing (data : IPPacketData) : Prop where
  changed : ∀ offset,
    recalculated data offset ≠ data.memory offset → MayChange data offset
  /-- Fragment fields, TTL, protocol and addresses. -/
  ipv4Header : version data.memory = 4 → ∀ offset,
    6 ≤ offset ∧ offset < 10 ∨ 12 ≤ offset ∧ offset < 20 →
      recalculated data offset = data.memory offset
  /-- Next header, hop limit and addresses. -/
  ipv6Header : version data.memory = 6 → ∀ offset,
    6 ≤ offset ∧ offset < 40 →
      recalculated data offset = data.memory offset
  fragmentPayload :
    version data.memory = 4 → ¬ Unfragmented data.memory → ∀ offset,
      20 ≤ offset ∧ headerLength (data.memory 0) ≤ offset →
        recalculated data offset = data.memory offset

/-! ## The selected write -/

/-- The transport write selected by a packet's version and protocol. -/
def packetPlan (data : IPPacketData) : Option Plan :=
  if version data.memory = 4 then
    transportPlanIpv4 (data.memory 9) data.size data.memory
  else if version data.memory = 6 then
    transportPlanIpv6 (data.memory 6) data.size data.memory
  else
    none

/--
No transport checksum is written, or it is the carried one, or its place is
overwritten by the header checksum, or it is there already.
-/
def Harmless (data : IPPacketData) : Prop :=
  match packetPlan data with
  | none => True
  | some plan =>
    carriedField data = some plan.field ∨
      version data.memory = 4 ∧ plan.field = 10 ∨
      word data.memory plan.field = plan.reference data.memory

instance (data : IPPacketData) : Decidable (Harmless data) :=
  match planned : packetPlan data with
  | none => isTrue (by simp [Harmless, planned])
  | some plan =>
    decidable_of_iff
      (carriedField data = some plan.field ∨
        version data.memory = 4 ∧ plan.field = 10 ∨
        word data.memory plan.field = plan.reference data.memory)
      (by simp [Harmless, planned])

theorem packetPlan_ipv4 {data : IPPacketData}
    (v4 : version data.memory = 4) :
    packetPlan data =
      transportPlanIpv4 (data.memory 9) data.size data.memory :=
  if_pos v4

theorem packetPlan_ipv6 {data : IPPacketData}
    (v6 : version data.memory = 6) :
    packetPlan data =
      transportPlanIpv6 (data.memory 6) data.size data.memory := by
  rw [packetPlan, if_neg (by omega), if_pos v6]

theorem recalculated_ipv4 {data : IPPacketData}
    (sized : 20 ≤ data.size) (v4 : version data.memory = 4) :
    recalculated data =
      sealHeader (applyPlan (packetPlan data) data.memory) := by
  rw [packetPlan_ipv4 v4]
  exact recalculate_ipv4 sized v4

theorem recalculated_ipv6 {data : IPPacketData}
    (sized : 40 ≤ data.size) (v6 : version data.memory = 6) :
    recalculated data = applyPlan (packetPlan data) data.memory := by
  rw [packetPlan_ipv6 v6]
  exact recalculate_ipv6 sized v6

theorem sealHeader_of_ne {memory : Nat → UInt8} {offset : Nat}
    (notFirst : offset ≠ 10) (notSecond : offset ≠ 11) :
    sealHeader memory offset = memory offset :=
  putWord_of_ne notFirst notSecond

/-- Away from the header checksum, only the selected write is visible. -/
theorem recalculated_of_ne {data : IPPacketData} {offset : Nat}
    (accepted : Accepted data)
    (away : version data.memory = 4 → offset ≠ 10 ∧ offset ≠ 11) :
    recalculated data offset =
      applyPlan (packetPlan data) data.memory offset := by
  obtain ⟨sized, v4 | ⟨v6, sized6⟩⟩ := accepted
  · rw [recalculated_ipv4 sized v4,
      sealHeader_of_ne (away v4).1 (away v4).2]
  · rw [recalculated_ipv6 sized6 v6]

/-- The header of a planned IPv4 write has its checksum at the same place. -/
theorem headerIpv4_of_planned
    {protocol : UInt8} {bufSize : Nat} {memory : Nat → UInt8}
    {plan : Plan} (spec : PlannedIpv4 protocol bufSize memory plan) :
    ∃ header, headerIpv4 protocol = some header ∧
      header.checksum = plan.transport.field := by
  rcases spec.transport with
    ⟨rfl, which⟩ | ⟨rfl, which⟩ | ⟨rfl, which⟩ <;> rw [which]
  · exact ⟨tcpHeader, rfl, rfl⟩
  · exact ⟨udpHeader, rfl, rfl⟩
  · exact ⟨icmpHeader, rfl, rfl⟩

theorem headerIpv6_of_planned
    {nextHeader : UInt8} {bufSize : Nat} {memory : Nat → UInt8}
    {plan : Plan} (spec : PlannedIpv6 nextHeader bufSize memory plan) :
    ∃ header, headerIpv6 nextHeader = some header ∧
      header.checksum = plan.transport.field := by
  rcases spec.transport with
    ⟨rfl, which⟩ | ⟨rfl, which⟩ | ⟨rfl, which⟩ <;> rw [which]
  · exact ⟨tcpHeader, rfl, rfl⟩
  · exact ⟨udpHeader, rfl, rfl⟩
  · exact ⟨icmpHeader, rfl, rfl⟩

/-- The selected write and a carried header agree on the checksum's place. -/
theorem carriedField_eq_field {data : IPPacketData} {plan : Plan}
    {field : Nat}
    (planned : packetPlan data = some plan)
    (carried : carriedField data = some field) :
    field = plan.field := by
  by_cases v4 : version data.memory = 4
  · rw [packetPlan_ipv4 v4] at planned
    have spec := transportPlanIpv4_spec planned
    obtain ⟨header, found, place⟩ := headerIpv4_of_planned spec
    simp only [carriedField, if_pos v4, found,
      Option.ite_none_right_eq_some, Option.some.injEq] at carried
    rw [← carried.2, Plan.field, spec.start, place]
  · by_cases v6 : version data.memory = 6
    · rw [packetPlan_ipv6 v6] at planned
      have spec := transportPlanIpv6_spec planned
      obtain ⟨header, found, place⟩ := headerIpv6_of_planned spec
      simp only [carriedField, if_neg v4, if_pos v6, found,
        Option.ite_none_right_eq_some, Option.some.injEq] at carried
      rw [← carried.2, Plan.field, spec.start, place]
    · simp [packetPlan, v4, v6] at planned

/-- The selected write is at an even offset. -/
theorem packetPlan_even {data : IPPacketData} {plan : Plan}
    (planned : packetPlan data = some plan) :
    plan.field % 2 = 0 := by
  by_cases v4 : version data.memory = 4
  · rw [packetPlan_ipv4 v4] at planned
    have spec := transportPlanIpv4_spec planned
    have start : plan.start % 4 = 0 := by
      rw [spec.start, headerLength]
      omega
    have even := spec.even
    unfold Plan.field
    omega
  · by_cases v6 : version data.memory = 6
    · rw [packetPlan_ipv6 v6] at planned
      have spec := transportPlanIpv6_spec planned
      have even := spec.even
      have start := spec.start
      unfold Plan.field
      omega
    · simp [packetPlan, v4, v6] at planned

theorem packetPlan_bounded {data : IPPacketData} {plan : Plan}
    (planned : packetPlan data = some plan) : plan.Bounded := by
  by_cases v4 : version data.memory = 4
  · rw [packetPlan_ipv4 v4] at planned
    exact (transportPlanIpv4_spec planned).bounded
  · by_cases v6 : version data.memory = 6
    · rw [packetPlan_ipv6 v6] at planned
      exact (transportPlanIpv6_spec planned).bounded
    · simp [packetPlan, v4, v6] at planned

/-- A carried header starts after the fixed part of its IP header. -/
theorem carriedField_after_header {data : IPPacketData} {field : Nat}
    (carried : carriedField data = some field) :
    (version data.memory = 4 →
      Unfragmented data.memory ∧ 20 ≤ field) ∧
    (version data.memory = 6 → 40 ≤ field) := by
  unfold carriedField at carried
  split at carried
  · rename_i v4
    refine ⟨fun _ => ?_, fun v6 => by omega⟩
    split at carried
    · simp at carried
    · split at carried
      · rename_i carries
        obtain ⟨whole, minimal, _⟩ := carries
        rw [Option.some.injEq] at carried
        exact ⟨whole, by omega⟩
      · simp at carried
  · rename_i notV4
    refine ⟨fun v4 => absurd v4 notV4, fun v6 => ?_⟩
    rw [if_pos v6] at carried
    split at carried
    · simp at carried
    · split at carried
      · rw [Option.some.injEq] at carried
        omega
      · simp at carried

/-! ## Exactly the harmless packets are undamaged -/

/-- A harmless packet is changed at the permitted places only. -/
theorem mayChange_of_harmless {data : IPPacketData} {offset : Nat}
    (accepted : Accepted data) (harmless : Harmless data)
    (changed : recalculated data offset ≠ data.memory offset) :
    MayChange data offset := by
  by_contra kept
  unfold MayChange at kept
  rw [recalculated_of_ne accepted (by tauto)] at changed
  unfold Harmless at harmless
  match planned : packetPlan data with
  | none =>
      rw [planned] at changed
      exact changed rfl
  | some plan =>
      rw [planned] at harmless changed
      have atField : offset = plan.field ∨ offset = plan.field + 1 := by
        by_contra away
        push Not at away
        exact changed (putWord_of_ne away.1 away.2)
      rcases harmless with carried | ⟨v4, header⟩ | present
      · exact kept (Or.inr ⟨plan.field, carried, atField⟩)
      · exact kept (Or.inl ⟨v4, by omega⟩)
      · apply changed
        change
          putWord data.memory plan.field (plan.checksum data.memory)
            offset = data.memory offset
        rw [Plan.checksum_eq_reference (packetPlan_bounded planned),
          ← present, putWord_word]

theorem damagesNothing_of_harmless {data : IPPacketData}
    (accepted : Accepted data) (harmless : Harmless data) :
    DamagesNothing data where
  changed _ := mayChange_of_harmless accepted harmless
  ipv4Header v4 offset place := by
    by_contra changed
    rcases mayChange_of_harmless accepted harmless changed with
      ⟨_, header⟩ | ⟨field, carried, atField⟩
    · omega
    · have after := ((carriedField_after_header carried).1 v4).2
      omega
  ipv6Header v6 offset place := by
    by_contra changed
    rcases mayChange_of_harmless accepted harmless changed with
      ⟨v4, _⟩ | ⟨field, carried, atField⟩
    · omega
    · have after := (carriedField_after_header carried).2 v6
      omega
  fragmentPayload v4 fragment offset place := by
    by_contra changed
    rcases mayChange_of_harmless accepted harmless changed with
      ⟨_, header⟩ | ⟨field, carried, _⟩
    · omega
    · exact fragment ((carriedField_after_header carried).1 v4).1

theorem harmless_of_damagesNothing {data : IPPacketData}
    (accepted : Accepted data) (undamaged : DamagesNothing data) :
    Harmless data := by
  unfold Harmless
  match planned : packetPlan data with
  | none => trivial
  | some plan =>
      by_contra harmful
      simp only [not_or] at harmful
      obtain ⟨notCarried, notHeader, notPresent⟩ := harmful
      have even := packetPlan_even planned
      -- Both bytes of the written word are visible in the result.
      have visible : ∀ offset,
          offset = plan.field ∨ offset = plan.field + 1 →
            recalculated data offset =
              putWord data.memory plan.field
                (plan.checksum data.memory) offset := by
        intro offset atField
        rw [recalculated_of_ne accepted, planned]
        · rfl
        · intro v4
          have distinct : plan.field ≠ 10 := fun equal =>
            notHeader ⟨v4, equal⟩
          omega
      have kept : ∀ offset,
          offset = plan.field ∨ offset = plan.field + 1 →
            recalculated data offset = data.memory offset := by
        intro offset atField
        by_contra changed
        rcases undamaged.changed offset changed with
          ⟨v4, header⟩ | ⟨field, carried, _⟩
        · exact notHeader ⟨v4, by omega⟩
        · rw [carriedField_eq_field planned carried] at carried
          exact notCarried carried
      apply notPresent
      calc
        word data.memory plan.field =
            word
              (putWord data.memory plan.field
                (plan.checksum data.memory)) plan.field :=
          word_congr
            ((kept _ (Or.inl rfl)).symm.trans
              (visible _ (Or.inl rfl)))
            ((kept _ (Or.inr rfl)).symm.trans
              (visible _ (Or.inr rfl)))
        _ = plan.checksum data.memory := plan.word_apply _
        _ = plan.reference data.memory :=
          Plan.checksum_eq_reference (packetPlan_bounded planned) _

/-- Recalculation damages nothing exactly when its write is harmless. -/
theorem damagesNothing_iff_harmless
    {buffer : IPPacketData} {clientId : UInt64} {packet : IPPacket}
    (parsed : parse buffer clientId = some packet) :
    DamagesNothing packet.data ↔ Harmless packet.data := by
  obtain ⟨accepted, rfl⟩ := parse_eq_some_iff.mp parsed
  exact
    ⟨harmless_of_damagesNothing accepted,
      damagesNothing_of_harmless accepted⟩

/-- A 40-byte IPv4 packet of protocol TCP with the given fragment offset. -/
def tcpPacket (fragmentOffset : UInt8) : IPPacketData where
  size := 40
  memory offset :=
    if offset = 0 then 0x45
    else if offset = 3 then 40
    else if offset = 7 then fragmentOffset
    else if offset = 9 then 6
    else 0

theorem damagesNothing_unfragmented :
    DamagesNothing (tcpPacket 0) ↔ Harmless (tcpPacket 0) := by
  have parsed : parse (tcpPacket 0) 0 = some ⟨tcpPacket 0, 0⟩ := rfl
  exact damagesNothing_iff_harmless parsed

/-- A trailing fragment has two of its payload bytes overwritten. -/
theorem fragment_payload_overwritten :
    ¬ ∀ (buffer : IPPacketData) (clientId : UInt64) (packet : IPPacket),
      parse buffer clientId = some packet →
        DamagesNothing packet.data := by
  intro always
  have undamaged := always (tcpPacket 1) 0 ⟨tcpPacket 1, 0⟩ rfl
  have harmless :=
    harmless_of_damagesNothing (by decide) undamaged
  revert harmless
  decide +kernel

end Fptn.Network.ChecksumFrame
