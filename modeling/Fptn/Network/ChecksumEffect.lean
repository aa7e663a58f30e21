import Fptn.Network.ChecksumValue

/-!
# The effect of `RecalculateChecksums`

All six transport routines do the same thing once their guards have passed:
they store one word, computed from a segment of the packet and a seed.  A
`Plan` records that word's place and the data it is computed from.  The memory
left by `recalculateChecksums` is then the plan chosen by the packet, followed
for IPv4 by the header checksum.
-/

namespace Fptn.Network.ChecksumEffect

open Fptn.TracedMemory
open Fptn.Network.IPUtils
open Fptn.Network.ChecksumValue

/-! ## Plans -/

/-- A transport checksum which is about to be written. -/
structure Plan where
  transport : Transport
  start : Nat
  len : Nat
  seed : Nat

namespace Plan

/-- Offset of the checksum word. -/
def field (plan : Plan) : Nat := plan.start + plan.transport.field

/-- The word to be stored, computed with the checksum field zeroed. -/
def checksum (plan : Plan) (memory : Nat → UInt8) : Nat :=
  let raw :=
    checksumOf (putWord memory plan.field 0) plan.start plan.len plan.seed
  if plan.transport.zeroRule ∧ raw = 0 then 0xFFFF else raw

def apply (plan : Plan) (memory : Nat → UInt8) : Nat → UInt8 :=
  putWord memory plan.field (plan.checksum memory)

/-- The RFC 1071 checksum of the segment, from its exact sum. -/
def reference (plan : Plan) (memory : Nat → UInt8) : Nat :=
  let raw :=
    65535 -
      OnesComplement.normal
        (plan.seed +
          wordSum (putWord memory plan.field 0) plan.start plan.len)
  if plan.transport.zeroRule ∧ raw = 0 then 0xFFFF else raw

/-- Seed and segment are short enough for a 32-bit accumulator. -/
structure Bounded (plan : Plan) : Prop where
  seed : plan.seed ≤ 20 * 65535
  len : plan.len ≤ 65535

/-- The accumulator of a bounded plan cannot overflow. -/
theorem Bounded.sum_lt {plan : Plan} (bounded : plan.Bounded)
    (memory : Nat → UInt8) :
    plan.seed + wordSum memory plan.start plan.len < 2 ^ 32 := by
  have segment := wordSum_le memory plan.start plan.len
  have half : (plan.len + 1) / 2 ≤ 32768 := by
    have := bounded.len
    omega
  have scaled := Nat.mul_le_mul_right 65535 half
  have seed := bounded.seed
  omega

theorem checksum_eq_reference {plan : Plan} (bounded : plan.Bounded)
    (memory : Nat → UInt8) :
    plan.checksum memory = plan.reference memory := by
  rw [checksum, reference, checksumOf_exact (bounded.sum_lt _)]

theorem checksum_lt (plan : Plan) (memory : Nat → UInt8) :
    plan.checksum memory < 2 ^ 16 := by
  have raw :=
    checksumOf_lt (putWord memory plan.field 0)
      plan.start plan.len plan.seed
  simp only [checksum]
  split
  · decide
  · exact raw

/-- The stored word does not depend on what the checksum field held. -/
theorem checksum_putWord (plan : Plan) (memory : Nat → UInt8) (v : Nat) :
    plan.checksum (putWord memory plan.field v) =
      plan.checksum memory := by
  simp only [checksum, putWord_putWord]

/-- The stored word can be read back. -/
theorem word_apply (plan : Plan) (memory : Nat → UInt8) :
    word (plan.apply memory) plan.field = plan.checksum memory :=
  word_putWord memory plan.field (plan.checksum_lt memory)

theorem checksum_apply (plan : Plan) (memory : Nat → UInt8) :
    plan.checksum (plan.apply memory) = plan.checksum memory :=
  plan.checksum_putWord memory _

theorem apply_apply (plan : Plan) (memory : Nat → UInt8) :
    plan.apply (plan.apply memory) = plan.apply memory := by
  rw [apply, checksum_apply, apply, putWord_putWord]

end Plan

theorem checksumSegment_memory
    (transport : Transport) (start len : Nat) {seed : Nat}
    (bound : seed < 2 ^ 32) (store : Store) :
    (checksumSegment transport start len seed store).2.memory =
      Plan.apply ⟨transport, start, len, seed⟩ store.memory := by
  simp only [checksumSegment, bind_apply, writeU16Be_memory, rfc1071_memory,
    rfc1071_value _ _ _ bound, putWord_putWord]
  rfl

/-! ## Pseudo-headers -/

def pseudoBytesIpv4
    (memory : Nat → UInt8) (protocol : UInt8) (len : Nat) : List UInt8 :=
  bytesAt memory 12 4 ++ bytesAt memory 16 4 ++
    [0, protocol, UInt8.ofNat (len >>> 8), UInt8.ofNat (len &&& 0xFF)]

def pseudoBytesIpv6
    (memory : Nat → UInt8) (protocol : UInt8) (len : Nat) : List UInt8 :=
  bytesAt memory 8 16 ++ bytesAt memory 24 16 ++
    [0, 0, UInt8.ofNat (len >>> 8), UInt8.ofNat (len &&& 0xFF),
      0, 0, 0, protocol]

/-- The exact word sum of a pseudo-header. -/
def seedOf (pseudoBytes : List UInt8) : Nat :=
  (OnesComplement.wordsOf pseudoBytes).sum

theorem seedOf_ipv4_le
    (memory : Nat → UInt8) (protocol : UInt8) (len : Nat) :
    seedOf (pseudoBytesIpv4 memory protocol len) ≤ 6 * 65535 := by
  simpa [seedOf, pseudoBytesIpv4] using
    OnesComplement.sum_wordsOf_le (pseudoBytesIpv4 memory protocol len)

theorem seedOf_ipv6_le
    (memory : Nat → UInt8) (protocol : UInt8) (len : Nat) :
    seedOf (pseudoBytesIpv6 memory protocol len) ≤ 20 * 65535 := by
  simpa [seedOf, pseudoBytesIpv6] using
    OnesComplement.sum_wordsOf_le (pseudoBytesIpv6 memory protocol len)

@[simp]
theorem pseudoHeaderIpv4_value
    (protocol : UInt8) (len : Nat) (store : Store) :
    (pseudoHeaderIpv4 protocol len store).1 =
      pseudoBytesIpv4 store.memory protocol len := by
  simp [pseudoHeaderIpv4, pseudoBytesIpv4]

@[simp]
theorem pseudoHeaderIpv4_memory
    (protocol : UInt8) (len : Nat) (store : Store) :
    (pseudoHeaderIpv4 protocol len store).2.memory = store.memory := by
  simp [pseudoHeaderIpv4]

@[simp]
theorem pseudoHeaderIpv6_value
    (protocol : UInt8) (len : Nat) (store : Store) :
    (pseudoHeaderIpv6 protocol len store).1 =
      pseudoBytesIpv6 store.memory protocol len := by
  simp [pseudoHeaderIpv6, pseudoBytesIpv6]

@[simp]
theorem pseudoHeaderIpv6_memory
    (protocol : UInt8) (len : Nat) (store : Store) :
    (pseudoHeaderIpv6 protocol len store).2.memory = store.memory := by
  simp [pseudoHeaderIpv6]

theorem sumWords_pseudoIpv4
    (memory : Nat → UInt8) (protocol : UInt8) (len : Nat) :
    sumWords (pseudoBytesIpv4 memory protocol len) 0 =
      seedOf (pseudoBytesIpv4 memory protocol len) := by
  rw [sumWords_eq _ _ (by simp [pseudoBytesIpv4])
    (by simp [pseudoBytesIpv4]), Nat.zero_add, seedOf]

theorem sumWords_pseudoIpv6
    (memory : Nat → UInt8) (protocol : UInt8) (len : Nat) :
    sumWords (pseudoBytesIpv6 memory protocol len) 0 =
      seedOf (pseudoBytesIpv6 memory protocol len) := by
  rw [sumWords_eq _ _ (by simp [pseudoBytesIpv6])
    (by simp [pseudoBytesIpv6]), Nat.zero_add, seedOf]

/-! ## The plan of a packet -/

/-- The memory left by an optional plan. -/
def applyPlan (plan : Option Plan) (memory : Nat → UInt8) :
    Nat → UInt8 :=
  match plan with
  | none => memory
  | some plan => plan.apply memory

/-- The plan of an IPv4 segment of the given length. -/
def segmentPlanIpv4
    (transport : Transport) (ihl : Nat) (len : Int)
    (memory : Nat → UInt8) : Option Plan :=
  if len ≤ 0 then
    none
  else
    some {
      transport
      start := ihl
      len := len.toNat
      seed :=
        if transport.pseudoHeader then
          seedOf
            (pseudoBytesIpv4 memory transport.protocol
              (len.toNat % 2 ^ 16))
        else
          0 }

/-- The plan of an IPv4 transport routine, when its guards pass. -/
def planIpv4
    (transport : Transport) (bufSize : Nat) (memory : Nat → UInt8) :
    Option Plan :=
  let ihl := headerLength (memory 0)
  if bufSize < ihl + transport.minimum then
    none
  else
    segmentPlanIpv4 transport ihl
      (segmentLength (word memory 2) bufSize ihl) memory

/-- The plan of an IPv6 segment of the given length. -/
def segmentPlanIpv6
    (transport : Transport) (len : Int) (memory : Nat → UInt8) :
    Option Plan :=
  if len ≤ 0 then
    none
  else
    some {
      transport
      start := 40
      len := len.toNat
      seed :=
        seedOf
          (pseudoBytesIpv6 memory transport.protocol
            (len.toNat % 2 ^ 16)) }

/-- The plan of an IPv6 transport routine, when its guards pass. -/
def planIpv6
    (transport : Transport) (bufSize : Nat) (memory : Nat → UInt8) :
    Option Plan :=
  if bufSize < 40 + transport.minimum then
    none
  else
    segmentPlanIpv6 transport
      (min (word memory 4 : Int) (toInt bufSize - 40)) memory

theorem checksumSegmentIpv4_memory
    (transport : Transport) (ihl : Nat) (len : Int) (store : Store) :
    (checksumSegmentIpv4 transport ihl len store).2.memory =
      applyPlan (segmentPlanIpv4 transport ihl len store.memory)
        store.memory := by
  unfold checksumSegmentIpv4 segmentPlanIpv4
  by_cases empty : len ≤ 0
  · simp [empty, applyPlan]
  · by_cases pseudo : transport.pseudoHeader
    · have bound :
          seedOf
              (pseudoBytesIpv4 store.memory transport.protocol
                (len.toNat % 2 ^ 16)) < 2 ^ 32 :=
        Nat.lt_of_le_of_lt (seedOf_ipv4_le _ _ _) (by decide)
      simp only [if_neg empty, if_pos pseudo, bind_apply,
        pseudoHeaderIpv4_value, sumWords_pseudoIpv4, applyPlan]
      rw [checksumSegment_memory _ _ _ bound, pseudoHeaderIpv4_memory]
    · simp only [if_neg empty, if_neg pseudo, applyPlan]
      exact checksumSegment_memory _ _ _ (by decide) store

theorem checksumSegmentIpv6_memory
    (transport : Transport) (len : Int) (store : Store) :
    (checksumSegmentIpv6 transport len store).2.memory =
      applyPlan (segmentPlanIpv6 transport len store.memory)
        store.memory := by
  unfold checksumSegmentIpv6 segmentPlanIpv6
  by_cases empty : len ≤ 0
  · simp [empty, applyPlan]
  · have bound :
        seedOf
            (pseudoBytesIpv6 store.memory transport.protocol
              (len.toNat % 2 ^ 16)) < 2 ^ 32 :=
      Nat.lt_of_le_of_lt (seedOf_ipv6_le _ _ _) (by decide)
    simp only [if_neg empty, bind_apply, pseudoHeaderIpv6_value,
      sumWords_pseudoIpv6, applyPlan]
    rw [checksumSegment_memory _ _ _ bound, pseudoHeaderIpv6_memory]

theorem checksumIpv4_memory
    (transport : Transport) (bufSize : Nat) (store : Store) :
    (checksumIpv4 transport bufSize store).2.memory =
      applyPlan (planIpv4 transport bufSize store.memory)
        store.memory := by
  change
    ((if bufSize < headerLength (store.memory 0) + transport.minimum then
        pure ()
      else do
        let totalLength ← readU16Be 2
        checksumSegmentIpv4 transport (headerLength (store.memory 0))
          (segmentLength totalLength bufSize
            (headerLength (store.memory 0)))) (load 0 store).2).2.memory =
      _
  by_cases short :
      bufSize < headerLength (store.memory 0) + transport.minimum
  · simp [short, planIpv4, applyPlan]
  · rw [if_neg short, planIpv4, if_neg short, bind_apply,
      readU16Be_value, checksumSegmentIpv4_memory, readU16Be_memory,
      load_memory]

theorem checksumIpv6_memory
    (transport : Transport) (bufSize : Nat) (store : Store) :
    (checksumIpv6 transport bufSize store).2.memory =
      applyPlan (planIpv6 transport bufSize store.memory)
        store.memory := by
  unfold checksumIpv6 planIpv6
  by_cases short : bufSize < 40 + transport.minimum
  · simp [short, applyPlan]
  · rw [if_neg short, if_neg short, bind_apply, readU16Be_value,
      checksumSegmentIpv6_memory, readU16Be_memory]

/-! ## Whole packets -/

/-- The transport plan chosen by the protocol byte of an IPv4 header. -/
def transportPlanIpv4
    (protocol : UInt8) (bufSize : Nat) (memory : Nat → UInt8) :
    Option Plan :=
  if protocol = 6 then planIpv4 tcp bufSize memory
  else if protocol = 17 then planIpv4 udp bufSize memory
  else if protocol = 1 then planIpv4 icmp bufSize memory
  else none

/-- The transport plan chosen by the next-header byte of an IPv6 header. -/
def transportPlanIpv6
    (nextHeader : UInt8) (bufSize : Nat) (memory : Nat → UInt8) :
    Option Plan :=
  if nextHeader = 6 then planIpv6 tcp bufSize memory
  else if nextHeader = 17 then planIpv6 udp bufSize memory
  else if nextHeader = 58 then planIpv6 icmpv6 bufSize memory
  else none

/-- The memory after rewriting the IPv4 header checksum. -/
def sealHeader (memory : Nat → UInt8) : Nat → UInt8 :=
  putWord memory 10
    (checksumOf (putWord memory 10 0) 0 (headerLength (memory 0)) 0)

theorem transportIpv4_memory
    (protocol : UInt8) (bufSize : Nat) (store : Store) :
    (transportIpv4 protocol bufSize store).2.memory =
      applyPlan (transportPlanIpv4 protocol bufSize store.memory)
        store.memory := by
  unfold transportIpv4 transportPlanIpv4
  split
  · exact checksumIpv4_memory tcp bufSize store
  · split
    · exact checksumIpv4_memory udp bufSize store
    · split
      · exact checksumIpv4_memory icmp bufSize store
      · rfl

theorem transportIpv6_memory
    (nextHeader : UInt8) (bufSize : Nat) (store : Store) :
    (transportIpv6 nextHeader bufSize store).2.memory =
      applyPlan (transportPlanIpv6 nextHeader bufSize store.memory)
        store.memory := by
  unfold transportIpv6 transportPlanIpv6
  split
  · exact checksumIpv6_memory tcp bufSize store
  · split
    · exact checksumIpv6_memory udp bufSize store
    · split
      · exact checksumIpv6_memory icmpv6 bufSize store
      · rfl

theorem checksumIpv4Header_memory (store : Store) :
    (checksumIpv4Header store).2.memory = sealHeader store.memory := by
  change
    (writeU16Be 10
      (rfc1071 0 (headerLength (store.memory 0)) 0
        (writeU16Be 10 0 (load 0 store).2).2).1
      (rfc1071 0 (headerLength (store.memory 0)) 0
        (writeU16Be 10 0 (load 0 store).2).2).2).2.memory = _
  rw [writeU16Be_memory, rfc1071_memory, rfc1071_value _ _ _ (by decide),
    writeU16Be_memory, load_memory, putWord_putWord]
  rfl

/-- `RecalculateChecksums` on an IPv4 packet. -/
theorem recalculate_ipv4
    {bufSize : Nat} {store : Store}
    (sized : 20 ≤ bufSize) (v4 : (store.memory 0).toNat >>> 4 = 4) :
    (recalculateChecksums bufSize store).2.memory =
      sealHeader
        (applyPlan (transportPlanIpv4 (store.memory 9) bufSize
          store.memory) store.memory) := by
  unfold recalculateChecksums
  rw [if_neg (by omega), bind_apply]
  change
    ((if (store.memory 0).toNat >>> 4 = 4 then _ else _ : Mem Unit)
      _).2.memory = _
  rw [if_pos v4, if_neg (by omega), bind_apply, bind_apply,
    checksumIpv4Header_memory, transportIpv4_memory]
  rfl

/-- `RecalculateChecksums` on an IPv6 packet. -/
theorem recalculate_ipv6
    {bufSize : Nat} {store : Store}
    (sized : 40 ≤ bufSize) (v6 : (store.memory 0).toNat >>> 4 = 6) :
    (recalculateChecksums bufSize store).2.memory =
      applyPlan (transportPlanIpv6 (store.memory 6) bufSize store.memory)
        store.memory := by
  unfold recalculateChecksums
  rw [if_neg (by omega), bind_apply]
  change
    ((if (store.memory 0).toNat >>> 4 = 4 then _ else _ : Mem Unit)
      _).2.memory = _
  rw [if_neg (by omega)]
  change
    ((if (store.memory 0).toNat >>> 4 = 6 then _ else _ : Mem Unit)
      _).2.memory = _
  rw [if_pos v6, if_neg (by omega), bind_apply, transportIpv6_memory]
  rfl

/-! ## Where plans write -/

theorem segmentPlanIpv4_eq_some
    {transport : Transport} {ihl : Nat} {len : Int}
    {memory : Nat → UInt8} {plan : Plan}
    (planned : segmentPlanIpv4 transport ihl len memory = some plan) :
    0 < len ∧ plan.transport = transport ∧ plan.start = ihl ∧
      (plan.len : Int) = len ∧ plan.seed ≤ 20 * 65535 := by
  by_cases empty : len ≤ 0
  · rw [segmentPlanIpv4, if_pos empty] at planned
    simp at planned
  · rw [segmentPlanIpv4, if_neg empty, Option.some.injEq] at planned
    have seed :
        (if transport.pseudoHeader then
          seedOf
            (pseudoBytesIpv4 memory transport.protocol
              (len.toNat % 2 ^ 16))
        else 0) ≤ 20 * 65535 := by
      split
      · exact (seedOf_ipv4_le _ _ _).trans (by decide)
      · exact Nat.zero_le _
    rw [← planned]
    exact ⟨by omega, rfl, rfl, by simp only; omega, seed⟩

theorem segmentPlanIpv6_eq_some
    {transport : Transport} {len : Int}
    {memory : Nat → UInt8} {plan : Plan}
    (planned : segmentPlanIpv6 transport len memory = some plan) :
    0 < len ∧ plan.transport = transport ∧ plan.start = 40 ∧
      (plan.len : Int) = len ∧ plan.seed ≤ 20 * 65535 := by
  by_cases empty : len ≤ 0
  · rw [segmentPlanIpv6, if_pos empty] at planned
    simp at planned
  · rw [segmentPlanIpv6, if_neg empty, Option.some.injEq] at planned
    rw [← planned]
    exact
      ⟨by omega, rfl, rfl, by simp only; omega, seedOf_ipv6_le _ _ _⟩

theorem planIpv4_eq_some
    {transport : Transport} {bufSize : Nat} {memory : Nat → UInt8}
    {plan : Plan}
    (planned : planIpv4 transport bufSize memory = some plan) :
    headerLength (memory 0) + transport.minimum ≤ bufSize ∧
      segmentPlanIpv4 transport (headerLength (memory 0))
        (segmentLength (word memory 2) bufSize
          (headerLength (memory 0))) memory = some plan := by
  by_cases short :
      bufSize < headerLength (memory 0) + transport.minimum
  · rw [planIpv4, if_pos short] at planned
    simp at planned
  · rw [planIpv4, if_neg short] at planned
    exact ⟨by omega, planned⟩

theorem planIpv6_eq_some
    {transport : Transport} {bufSize : Nat} {memory : Nat → UInt8}
    {plan : Plan}
    (planned : planIpv6 transport bufSize memory = some plan) :
    40 + transport.minimum ≤ bufSize ∧
      segmentPlanIpv6 transport
        (min (word memory 4 : Int) (toInt bufSize - 40)) memory =
          some plan := by
  by_cases short : bufSize < 40 + transport.minimum
  · rw [planIpv6, if_pos short] at planned
    simp at planned
  · rw [planIpv6, if_neg short] at planned
    exact ⟨by omega, planned⟩

/-- What is known of a plan chosen for an IPv4 packet. -/
structure PlannedIpv4
    (protocol : UInt8) (bufSize : Nat) (memory : Nat → UInt8)
    (plan : Plan) : Prop where
  transport :
    protocol = 6 ∧ plan.transport = tcp ∨
      protocol = 17 ∧ plan.transport = udp ∨
      protocol = 1 ∧ plan.transport = icmp
  start : plan.start = headerLength (memory 0)
  len :
    (plan.len : Int) =
      segmentLength (word memory 2) bufSize (headerLength (memory 0))
  positive : 0 < plan.len
  guard : plan.start + plan.transport.minimum ≤ bufSize
  bounded : plan.Bounded

/-- What is known of a plan chosen for an IPv6 packet. -/
structure PlannedIpv6
    (nextHeader : UInt8) (bufSize : Nat) (memory : Nat → UInt8)
    (plan : Plan) : Prop where
  transport :
    nextHeader = 6 ∧ plan.transport = tcp ∨
      nextHeader = 17 ∧ plan.transport = udp ∨
      nextHeader = 58 ∧ plan.transport = icmpv6
  start : plan.start = 40
  len :
    (plan.len : Int) = min (word memory 4 : Int) (toInt bufSize - 40)
  positive : 0 < plan.len
  guard : plan.start + plan.transport.minimum ≤ bufSize
  bounded : plan.Bounded

theorem PlannedIpv4.even
    {protocol : UInt8} {bufSize : Nat} {memory : Nat → UInt8}
    {plan : Plan} (spec : PlannedIpv4 protocol bufSize memory plan) :
    plan.transport.field % 2 = 0 := by
  rcases spec.transport with ⟨_, which⟩ | ⟨_, which⟩ | ⟨_, which⟩ <;>
    rw [which] <;> rfl

theorem PlannedIpv6.even
    {nextHeader : UInt8} {bufSize : Nat} {memory : Nat → UInt8}
    {plan : Plan} (spec : PlannedIpv6 nextHeader bufSize memory plan) :
    plan.transport.field % 2 = 0 := by
  rcases spec.transport with ⟨_, which⟩ | ⟨_, which⟩ | ⟨_, which⟩ <;>
    rw [which] <;> rfl

/-- A transport checksum is never at the very start of its header. -/
theorem PlannedIpv4.field_ge
    {protocol : UInt8} {bufSize : Nat} {memory : Nat → UInt8}
    {plan : Plan} (spec : PlannedIpv4 protocol bufSize memory plan) :
    plan.start + 2 ≤ plan.field := by
  have place : 2 ≤ plan.transport.field := by
    rcases spec.transport with ⟨_, which⟩ | ⟨_, which⟩ | ⟨_, which⟩ <;>
      rw [which] <;> decide
  unfold Plan.field
  omega

theorem transportPlanIpv4_spec
    {protocol : UInt8} {bufSize : Nat} {memory : Nat → UInt8}
    {plan : Plan}
    (chosen : transportPlanIpv4 protocol bufSize memory = some plan) :
    PlannedIpv4 protocol bufSize memory plan := by
  have build : ∀ {transport},
      planIpv4 transport bufSize memory = some plan →
        (protocol = 6 ∧ transport = tcp ∨
          protocol = 17 ∧ transport = udp ∨
          protocol = 1 ∧ transport = icmp) →
        PlannedIpv4 protocol bufSize memory plan := by
    intro transport planned which
    obtain ⟨guard, segment⟩ := planIpv4_eq_some planned
    obtain ⟨positive, rfl, start, len, seed⟩ :=
      segmentPlanIpv4_eq_some segment
    have announced := word_lt memory 2
    have short : plan.len ≤ 65535 := by
      unfold segmentLength at len
      omega
    exact ⟨which, start, len, by omega, by omega, seed, short⟩
  unfold transportPlanIpv4 at chosen
  split at chosen
  · exact build chosen (Or.inl ⟨‹_›, rfl⟩)
  · split at chosen
    · exact build chosen (Or.inr (Or.inl ⟨‹_›, rfl⟩))
    · split at chosen
      · exact build chosen (Or.inr (Or.inr ⟨‹_›, rfl⟩))
      · simp at chosen

theorem transportPlanIpv6_spec
    {nextHeader : UInt8} {bufSize : Nat} {memory : Nat → UInt8}
    {plan : Plan}
    (chosen : transportPlanIpv6 nextHeader bufSize memory = some plan) :
    PlannedIpv6 nextHeader bufSize memory plan := by
  have build : ∀ {transport},
      planIpv6 transport bufSize memory = some plan →
        (nextHeader = 6 ∧ transport = tcp ∨
          nextHeader = 17 ∧ transport = udp ∨
          nextHeader = 58 ∧ transport = icmpv6) →
        PlannedIpv6 nextHeader bufSize memory plan := by
    intro transport planned which
    obtain ⟨guard, segment⟩ := planIpv6_eq_some planned
    obtain ⟨positive, rfl, start, len, seed⟩ :=
      segmentPlanIpv6_eq_some segment
    have announced := word_lt memory 4
    exact ⟨which, start, len, by omega, by omega, seed, by omega⟩
  unfold transportPlanIpv6 at chosen
  split at chosen
  · exact build chosen (Or.inl ⟨‹_›, rfl⟩)
  · split at chosen
    · exact build chosen (Or.inr (Or.inl ⟨‹_›, rfl⟩))
    · split at chosen
      · exact build chosen (Or.inr (Or.inr ⟨‹_›, rfl⟩))
      · simp at chosen

/-- Transport plans never touch the first two bytes of a packet. -/
theorem transportPlanIpv4_keeps
    {protocol : UInt8} {bufSize : Nat} {memory : Nat → UInt8}
    {offset : Nat} (early : offset < 2) :
    applyPlan (transportPlanIpv4 protocol bufSize memory) memory offset =
      memory offset := by
  match planned : transportPlanIpv4 protocol bufSize memory with
  | none => rfl
  | some plan =>
      have field := (transportPlanIpv4_spec planned).field_ge
      exact putWord_of_ne (by omega) (by omega)

end Fptn.Network.ChecksumEffect
