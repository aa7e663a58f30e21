import Fptn.Network.ChecksumFrame

/-!
# Checksums verify after `RecalculateChecksums`

The receiver's view: a header, or a pseudo-header followed by a segment, is
accepted when its one's-complement sum is negative zero.  The pseudo-headers
and lengths below are those of the protocols, not of the code.  The theorem of
this module is for well-formed unfragmented packets whose buffer is shorter
than `2 ^ 31` bytes; a larger size turns negative in the code's cast to `int`
and no transport checksum is written at all.
-/

namespace Fptn.Network.ChecksumValid

open Fptn.TracedMemory
open Fptn.OnesComplement
open Fptn.Network.IPUtils
open Fptn.Network.ChecksumValue
open Fptn.Network.ChecksumEffect
open Fptn.Network.Packet
open Fptn.Network.ChecksumFrame

/-! ## What a receiver checks -/

/-- The IPv4 header. -/
def headerBytes (memory : Nat → UInt8) : List UInt8 :=
  bytesAt memory 0 (headerLength (memory 0))

/-- The length of an IPv4 packet's payload. -/
def payloadLengthIpv4 (memory : Nat → UInt8) : Nat :=
  word memory 2 - headerLength (memory 0)

def segmentIpv4 (memory : Nat → UInt8) : List UInt8 :=
  bytesAt memory (headerLength (memory 0)) (payloadLengthIpv4 memory)

def segmentIpv6 (memory : Nat → UInt8) : List UInt8 :=
  bytesAt memory 40 (word memory 4)

/-- Source, destination, zero, protocol and TCP or UDP length. -/
def pseudoIpv4 (memory : Nat → UInt8) : List UInt8 :=
  bytesAt memory 12 8 ++
    [0, memory 9, UInt8.ofNat (payloadLengthIpv4 memory / 256),
      UInt8.ofNat (payloadLengthIpv4 memory)]

/-- Source, destination, 32-bit length, three zeros and next header. -/
def pseudoIpv6 (memory : Nat → UInt8) : List UInt8 :=
  bytesAt memory 8 32 ++
    [0, 0, memory 4, memory 5, 0, 0, 0, memory 6]

structure VerifiesIpv4 (memory : Nat → UInt8) : Prop where
  header : Verifies (headerBytes memory)
  tcpUdp : memory 9 = 6 ∨ memory 9 = 17 →
    Verifies (pseudoIpv4 memory ++ segmentIpv4 memory)
  icmp : memory 9 = 1 → Verifies (segmentIpv4 memory)
  /-- A zero would announce a datagram without checksum. -/
  udpPresent : memory 9 = 17 →
    word memory (headerLength (memory 0) + 6) ≠ 0

structure VerifiesIpv6 (memory : Nat → UInt8) : Prop where
  transport : memory 6 = 6 ∨ memory 6 = 17 ∨ memory 6 = 58 →
    Verifies (pseudoIpv6 memory ++ segmentIpv6 memory)
  udpPresent : memory 6 = 17 → word memory 46 ≠ 0

/-! ## Well-formed packets -/

structure WellFormedIpv4 (data : IPPacketData) : Prop where
  version : version data.memory = 4
  minimal : 20 ≤ headerLength (data.memory 0)
  header : headerLength (data.memory 0) ≤ word data.memory 2
  total : word data.memory 2 ≤ data.size
  whole : Unfragmented data.memory
  transport : ∀ header, headerIpv4 (data.memory 9) = some header →
    headerLength (data.memory 0) + header.length ≤ word data.memory 2
  udpLength : data.memory 9 = 17 →
    word data.memory (headerLength (data.memory 0) + 4) =
      payloadLengthIpv4 data.memory

structure WellFormedIpv6 (data : IPPacketData) : Prop where
  version : version data.memory = 6
  sized : kMinIPv6 ≤ data.size
  payload : word data.memory 4 ≤ data.size - kMinIPv6
  transport : ∀ header, headerIpv6 (data.memory 6) = some header →
    header.length ≤ word data.memory 4
  udpLength : data.memory 6 = 17 →
    word data.memory 44 = word data.memory 4

def WellFormed (data : IPPacketData) : Prop :=
  WellFormedIpv4 data ∨ WellFormedIpv6 data

/-- No sum of the code loses a carry, for any length a packet can have. -/
structure AccumulatorExact : Prop where
  segment : ∀ (store : Store) (start len seed : Nat),
    len ≤ 65535 → seed ≤ 20 * 65535 →
      (rfc1071Sum start len seed store).1 =
        seed + wordSum store.memory start len
  pseudoIpv4 : ∀ (store : Store) (protocol : UInt8) (len : Nat),
    let bytes := (pseudoHeaderIpv4 protocol len store).1
    sumWords bytes 0 = (wordsOf bytes).sum ∧
      sumWords bytes 0 ≤ 20 * 65535
  pseudoIpv6 : ∀ (store : Store) (protocol : UInt8) (len : Nat),
    let bytes := (pseudoHeaderIpv6 protocol len store).1
    sumWords bytes 0 = (wordsOf bytes).sum ∧
      sumWords bytes 0 ≤ 20 * 65535

/-- The packet after recalculation. -/
def recalculatedData (data : IPPacketData) : IPPacketData where
  size := data.size
  memory := recalculated data

/-- Recalculation produces valid checksums and then has nothing to do. -/
structure ChecksumsValid (data : IPPacketData) : Prop where
  ipv4 : version data.memory = 4 → VerifiesIpv4 (recalculated data)
  ipv6 : version data.memory = 6 → VerifiesIpv6 (recalculated data)
  stable : recalculated (recalculatedData data) = recalculated data
  accumulator : AccumulatorExact

/-! ## The accumulator -/

theorem accumulatorExact : AccumulatorExact where
  segment store start len seed lenBound seedBound := by
    have bounded : Plan.Bounded ⟨tcp, start, len, seed⟩ :=
      ⟨seedBound, lenBound⟩
    have exact := bounded.sum_lt store.memory
    have seedSmall : seed < 2 ^ 32 := by omega
    rw [rfc1071Sum_value store start len seedSmall]
    exact Nat.mod_eq_of_lt exact
  pseudoIpv4 store protocol len := by
    simp only [pseudoHeaderIpv4_value]
    rw [sumWords_pseudoIpv4]
    exact ⟨rfl, (seedOf_ipv4_le _ _ _).trans (by decide)⟩
  pseudoIpv6 store protocol len := by
    simp only [pseudoHeaderIpv6_value]
    rw [sumWords_pseudoIpv6]
    exact ⟨rfl, seedOf_ipv6_le _ _ _⟩

/-! ## Applied plans close their sums -/

theorem reference_closes (plan : Plan) (memory : Nat → UInt8) :
    let total :=
      plan.seed +
        wordSum (putWord memory plan.field 0) plan.start plan.len
    0 < total + plan.reference memory ∧
      (total + plan.reference memory) % 65535 = 0 := by
  intro total
  apply complement_closes
  have le := normal_le total
  simp only [Plan.reference]
  split
  · rename_i zero
    right
    have full : 65535 - normal total = 0 := zero.2
    exact ⟨by omega, rfl⟩
  · left
    rfl

theorem reference_ne_zero {plan : Plan} (memory : Nat → UInt8)
    (zeroRule : plan.transport.zeroRule) :
    plan.reference memory ≠ 0 := by
  simp only [Plan.reference]
  split
  · decide
  · rename_i nonzero
    exact fun zero => nonzero ⟨zeroRule, zero⟩

/-- The sum over an applied plan is negative zero. -/
theorem apply_closes {plan : Plan} (bounded : plan.Bounded)
    (even : plan.transport.field % 2 = 0)
    (inside : plan.transport.field + 1 < plan.len)
    (memory : Nat → UInt8) :
    let total :=
      plan.seed + wordSum (plan.apply memory) plan.start plan.len
    0 < total ∧ total % 65535 = 0 := by
  obtain ⟨index, place⟩ : ∃ index, plan.transport.field = 2 * index :=
    ⟨plan.transport.field / 2, by omega⟩
  have field : plan.field = plan.start + 2 * index := by
    rw [Plan.field, place]
  have stored :
      wordSum (plan.apply memory) plan.start plan.len =
        wordSum (putWord memory plan.field 0) plan.start plan.len +
          plan.reference memory := by
    rw [Plan.apply, Plan.checksum_eq_reference bounded, field]
    refine wordSum_putWord ?_ _ _ _ (by omega)
    rw [← Plan.checksum_eq_reference bounded]
    exact plan.checksum_lt memory
  intro total
  have closes := reference_closes plan memory
  have expand :
      total =
        plan.seed +
            wordSum (putWord memory plan.field 0) plan.start plan.len +
          plan.reference memory := by
    simp only [total, stored]
    omega
  rw [expand]
  exact closes

/-- A closed sum is what a receiver accepts. -/
theorem verifies_of_closed {front : List UInt8} {memory : Nat → UInt8}
    {start len : Nat} (even : front.length % 2 = 0)
    (closed :
      let total := seedOf front + wordSum memory start len
      0 < total ∧ total % 65535 = 0) :
    Verifies (front ++ bytesAt memory start len) := by
  rw [verifies_iff, wordsOf_append _ _ even, List.sum_append,
    ← wordSum_eq_wordsOf]
  exact closed

/-- The IPv4 header checksum as a plan. -/
def headerPlan (memory : Nat → UInt8) : Plan where
  transport := ⟨0, 10, 20, false, false⟩
  start := 0
  len := headerLength (memory 0)
  seed := 0

theorem sealHeader_eq_apply (memory : Nat → UInt8) :
    sealHeader memory = (headerPlan memory).apply memory := by
  unfold sealHeader Plan.apply Plan.checksum headerPlan
  simp [Plan.field]

theorem headerLength_le (first : UInt8) : headerLength first ≤ 60 := by
  have nibble : first.toNat &&& 0x0F ≤ 15 := Nat.and_le_right
  unfold headerLength
  omega

theorem sealHeader_verifies {memory : Nat → UInt8}
    (minimal : 20 ≤ headerLength (memory 0)) :
    Verifies (headerBytes (sealHeader memory)) := by
  have short := headerLength_le (memory 0)
  have bounded : (headerPlan memory).Bounded :=
    ⟨Nat.zero_le _, by simp only [headerPlan]; omega⟩
  have even : (headerPlan memory).transport.field % 2 = 0 := by
    simp [headerPlan]
  have closed :=
    apply_closes bounded even (by simp only [headerPlan]; omega) memory
  have first : sealHeader memory 0 = memory 0 :=
    sealHeader_of_ne (by decide) (by decide)
  have accepted :
      Verifies
        ([] ++
          bytesAt ((headerPlan memory).apply memory) 0
            (headerLength (memory 0))) :=
    verifies_of_closed rfl closed
  rw [headerBytes, first, sealHeader_eq_apply]
  exact accepted

theorem sealHeader_sealHeader (memory : Nat → UInt8) :
    sealHeader (sealHeader memory) = sealHeader memory := by
  have first : sealHeader memory 0 = memory 0 :=
    sealHeader_of_ne (by decide) (by decide)
  have samePlan : headerPlan (sealHeader memory) = headerPlan memory := by
    rw [headerPlan, first]
    rfl
  calc
    sealHeader (sealHeader memory) =
        (headerPlan (sealHeader memory)).apply (sealHeader memory) :=
      sealHeader_eq_apply _
    _ = (headerPlan memory).apply ((headerPlan memory).apply memory) := by
      rw [samePlan, sealHeader_eq_apply]
    _ = sealHeader memory := by
      rw [Plan.apply_apply, sealHeader_eq_apply]

/-- A plan computes its word from its own segment only. -/
theorem checksum_congr {plan : Plan} {left right : Nat → UInt8}
    (agree : ∀ offset, plan.start ≤ offset →
      offset < plan.start + plan.len →
      offset ≠ plan.field → offset ≠ plan.field + 1 →
        left offset = right offset) :
    plan.checksum left = plan.checksum right := by
  have zeroed : ∀ offset, plan.start ≤ offset →
      offset < plan.start + plan.len →
        putWord left plan.field 0 offset =
          putWord right plan.field 0 offset := by
    intro offset lower upper
    by_cases first : offset = plan.field
    · rw [first]
      simp [putWord]
    · by_cases second : offset = plan.field + 1
      · rw [second]
        simp [putWord]
      · rw [putWord_of_ne first second, putWord_of_ne first second]
        exact agree offset lower upper first second
  unfold Plan.checksum checksumOf
  rw [wordSum_congr zeroed]

/-! ## The plan does not depend on the checksums -/

/-- Memories which agree on the fields read by the IPv4 routines. -/
def AgreeIpv4 (left right : Nat → UInt8) : Prop :=
  ∀ offset, offset < 10 ∨ 12 ≤ offset ∧ offset < 20 →
    left offset = right offset

/-- Memories which agree on the IPv6 header. -/
def AgreeIpv6 (left right : Nat → UInt8) : Prop :=
  ∀ offset, offset < 40 → left offset = right offset

theorem pseudoBytesIpv4_congr {left right : Nat → UInt8}
    (agree : AgreeIpv4 left right) (protocol : UInt8) (len : Nat) :
    pseudoBytesIpv4 left protocol len =
      pseudoBytesIpv4 right protocol len := by
  have source : bytesAt left 12 4 = bytesAt right 12 4 :=
    bytesAt_congr fun offset lower upper => agree offset (by omega)
  have destination : bytesAt left 16 4 = bytesAt right 16 4 :=
    bytesAt_congr fun offset lower upper => agree offset (by omega)
  rw [pseudoBytesIpv4, source, destination]
  rfl

theorem pseudoBytesIpv6_congr {left right : Nat → UInt8}
    (agree : AgreeIpv6 left right) (protocol : UInt8) (len : Nat) :
    pseudoBytesIpv6 left protocol len =
      pseudoBytesIpv6 right protocol len := by
  have source : bytesAt left 8 16 = bytesAt right 8 16 :=
    bytesAt_congr fun offset lower upper => agree offset (by omega)
  have destination : bytesAt left 24 16 = bytesAt right 24 16 :=
    bytesAt_congr fun offset lower upper => agree offset (by omega)
  rw [pseudoBytesIpv6, source, destination]
  rfl

theorem planIpv4_congr {left right : Nat → UInt8}
    (agree : AgreeIpv4 left right) (transport : Transport)
    (bufSize : Nat) :
    planIpv4 transport bufSize left =
      planIpv4 transport bufSize right := by
  have first : left 0 = right 0 := agree 0 (by decide)
  have announced : word left 2 = word right 2 :=
    word_congr (agree 2 (by decide)) (agree 3 (by decide))
  simp only [planIpv4, segmentPlanIpv4, first, announced,
    pseudoBytesIpv4_congr agree]

theorem planIpv6_congr {left right : Nat → UInt8}
    (agree : AgreeIpv6 left right) (transport : Transport)
    (bufSize : Nat) :
    planIpv6 transport bufSize left =
      planIpv6 transport bufSize right := by
  have announced : word left 4 = word right 4 :=
    word_congr (agree 4 (by decide)) (agree 5 (by decide))
  simp only [planIpv6, segmentPlanIpv6, announced,
    pseudoBytesIpv6_congr agree]

theorem packetPlan_congr_ipv4 {data : IPPacketData}
    {memory : Nat → UInt8} (v4 : version data.memory = 4)
    (agree : AgreeIpv4 memory data.memory) :
    packetPlan ⟨data.size, memory⟩ = packetPlan data := by
  have first : memory 0 = data.memory 0 := agree 0 (by decide)
  have still : version memory = 4 := by
    rw [version, first]
    exact v4
  have protocol : memory 9 = data.memory 9 := agree 9 (by decide)
  rw [packetPlan_ipv4 v4, packetPlan_ipv4 still]
  simp only [transportPlanIpv4, planIpv4_congr agree, protocol]

theorem packetPlan_congr_ipv6 {data : IPPacketData}
    {memory : Nat → UInt8} (v6 : version data.memory = 6)
    (agree : AgreeIpv6 memory data.memory) :
    packetPlan ⟨data.size, memory⟩ = packetPlan data := by
  have first : memory 0 = data.memory 0 := agree 0 (by decide)
  have still : version memory = 6 := by
    rw [version, first]
    exact v6
  have nextHeader : memory 6 = data.memory 6 := agree 6 (by decide)
  rw [packetPlan_ipv6 v6, packetPlan_ipv6 still]
  simp only [transportPlanIpv6, planIpv6_congr agree, nextHeader]

/-! ## The plan of a well-formed packet -/

theorem toInt_of_small {size : Nat} (small : size < 2 ^ 31) :
    toInt size = size := by
  unfold toInt
  rw [Int.bmod_def]
  split <;> omega

theorem planIpv4_of_inside {transport : Transport} {bufSize : Nat}
    {memory : Nat → UInt8} (small : bufSize < 2 ^ 31)
    (positive : 0 < transport.minimum)
    (inside :
      headerLength (memory 0) + transport.minimum ≤ word memory 2)
    (total : word memory 2 ≤ bufSize) :
    planIpv4 transport bufSize memory =
      some {
        transport
        start := headerLength (memory 0)
        len := payloadLengthIpv4 memory
        seed :=
          if transport.pseudoHeader then
            seedOf
              (pseudoBytesIpv4 memory transport.protocol
                (payloadLengthIpv4 memory))
          else 0 } := by
  have announced := word_lt memory 2
  have length :
      segmentLength (word memory 2) bufSize (headerLength (memory 0)) =
        payloadLengthIpv4 memory := by
    rw [segmentLength, toInt_of_small small, payloadLengthIpv4]
    omega
  have reduced :
      payloadLengthIpv4 memory % 2 ^ 16 = payloadLengthIpv4 memory :=
    Nat.mod_eq_of_lt (by unfold payloadLengthIpv4; omega)
  have nonempty : ¬ (payloadLengthIpv4 memory : Int) ≤ 0 := by
    unfold payloadLengthIpv4
    omega
  have covered :
      ¬ bufSize < headerLength (memory 0) + transport.minimum := by
    omega
  rw [planIpv4, if_neg covered, length, segmentPlanIpv4,
    if_neg nonempty, Int.toNat_natCast, reduced]

theorem planIpv6_of_inside {transport : Transport} {bufSize : Nat}
    {memory : Nat → UInt8} (small : bufSize < 2 ^ 31)
    (positive : 0 < transport.minimum)
    (inside : transport.minimum ≤ word memory 4)
    (payload : 40 + word memory 4 ≤ bufSize) :
    planIpv6 transport bufSize memory =
      some {
        transport
        start := 40
        len := word memory 4
        seed :=
          seedOf
            (pseudoBytesIpv6 memory transport.protocol
              (word memory 4)) } := by
  have announced := word_lt memory 4
  have length :
      min (word memory 4 : Int) (toInt bufSize - 40) =
        word memory 4 := by
    rw [toInt_of_small small]
    omega
  have reduced : word memory 4 % 2 ^ 16 = word memory 4 :=
    Nat.mod_eq_of_lt announced
  have nonempty : ¬ (word memory 4 : Int) ≤ 0 := by omega
  have covered : ¬ bufSize < 40 + transport.minimum := by omega
  rw [planIpv6, if_neg covered, length, segmentPlanIpv6,
    if_neg nonempty, Int.toNat_natCast, reduced]

theorem pseudoBytesIpv4_eq {memory : Nat → UInt8} {protocol : UInt8}
    (which : memory 9 = protocol) :
    pseudoBytesIpv4 memory protocol (payloadLengthIpv4 memory) =
      pseudoIpv4 memory := by
  have low :
      UInt8.ofNat (payloadLengthIpv4 memory &&& 0xFF) =
        UInt8.ofNat (payloadLengthIpv4 memory) := by
    rw [Nat.and_two_pow_sub_one_eq_mod _ 8]
    simp [← UInt8.toNat_inj]
  have high :
      payloadLengthIpv4 memory >>> 8 =
        payloadLengthIpv4 memory / 256 :=
    Nat.shiftRight_eq_div_pow _ 8
  rw [pseudoBytesIpv4, pseudoIpv4, low, high, which]
  rfl

theorem pseudoBytesIpv6_eq {memory : Nat → UInt8} {protocol : UInt8}
    (which : memory 6 = protocol) :
    pseudoBytesIpv6 memory protocol (word memory 4) =
      pseudoIpv6 memory := by
  have stored := putWord_word memory 4
  have high : UInt8.ofNat (word memory 4 >>> 8) = memory 4 := by
    simpa [putWord] using congrFun stored 4
  have low : UInt8.ofNat (word memory 4 &&& 0xFF) = memory 5 := by
    simpa [putWord] using congrFun stored 5
  rw [pseudoBytesIpv6, pseudoIpv6, low, high, which]
  rfl

/-! ## Well-formed IPv4 packets -/

section Ipv4

variable {data : IPPacketData}

/-- Recalculation leaves every field which the IPv4 routines read. -/
theorem recalculated_agree_ipv4 (wellFormed : WellFormedIpv4 data) :
    AgreeIpv4 (recalculated data) data.memory := by
  intro offset place
  have sized : 20 ≤ data.size :=
    wellFormed.minimal.trans (wellFormed.header.trans wellFormed.total)
  have away : offset ≠ 10 ∧ offset ≠ 11 := by omega
  rw [recalculated_of_ne ⟨sized, Or.inl wellFormed.version⟩
    fun _ => away]
  match planned : packetPlan data with
  | none => rfl
  | some plan =>
      rw [packetPlan_ipv4 wellFormed.version] at planned
      have spec := transportPlanIpv4_spec planned
      have start := spec.start
      have field := spec.field_ge
      have minimal := wellFormed.minimal
      exact putWord_of_ne (by omega) (by omega)

/-- Behind the header, only the selected plan is visible. -/
theorem recalculated_behind_ipv4 (wellFormed : WellFormedIpv4 data)
    {offset : Nat} (behind : 20 ≤ offset) :
    recalculated data offset =
      applyPlan (packetPlan data) data.memory offset := by
  have sized : 20 ≤ data.size :=
    wellFormed.minimal.trans (wellFormed.header.trans wellFormed.total)
  exact
    recalculated_of_ne ⟨sized, Or.inl wellFormed.version⟩
      fun _ => by omega

theorem closes_ipv4 (wellFormed : WellFormedIpv4 data) {plan : Plan}
    (planned : packetPlan data = some plan)
    (inside : plan.transport.field + 1 < plan.len) :
    let total :=
      plan.seed + wordSum (recalculated data) plan.start plan.len
    0 < total ∧ total % 65535 = 0 := by
  have chosen := planned
  rw [packetPlan_ipv4 wellFormed.version] at chosen
  have spec := transportPlanIpv4_spec chosen
  have start := spec.start
  have minimal := wellFormed.minimal
  have sameSum :
      wordSum (recalculated data) plan.start plan.len =
        wordSum (plan.apply data.memory) plan.start plan.len := by
    refine wordSum_congr fun offset lower _ => ?_
    rw [recalculated_behind_ipv4 wellFormed (by omega), planned]
    rfl
  rw [sameSum]
  exact apply_closes spec.bounded spec.even inside data.memory

/-- The receiver finds the pseudo-header and segment of the plan. -/
theorem segment_verifies_ipv4 (wellFormed : WellFormedIpv4 data)
    {plan : Plan} {front : List UInt8}
    (planned : packetPlan data = some plan)
    (inside : plan.transport.field + 1 < plan.len)
    (len : plan.len = payloadLengthIpv4 data.memory)
    (even : front.length % 2 = 0) (seed : seedOf front = plan.seed) :
    Verifies (front ++ segmentIpv4 (recalculated data)) := by
  have agree := recalculated_agree_ipv4 wellFormed
  have first := agree 0 (by decide)
  have announced :
      word (recalculated data) 2 = word data.memory 2 :=
    word_congr (agree 2 (by decide)) (agree 3 (by decide))
  have chosen := planned
  rw [packetPlan_ipv4 wellFormed.version] at chosen
  have start := (transportPlanIpv4_spec chosen).start
  have closed := closes_ipv4 wellFormed planned inside
  have segment :
      segmentIpv4 (recalculated data) =
        bytesAt (recalculated data) plan.start plan.len := by
    rw [segmentIpv4, payloadLengthIpv4, announced, first, start, len]
    rfl
  rw [segment]
  exact verifies_of_closed even (by simpa only [seed] using closed)

theorem recalculated_pseudoIpv4 (wellFormed : WellFormedIpv4 data)
    {protocol : UInt8} (which : data.memory 9 = protocol) :
    pseudoIpv4 (recalculated data) =
      pseudoBytesIpv4 data.memory protocol
        (payloadLengthIpv4 data.memory) := by
  have agree := recalculated_agree_ipv4 wellFormed
  have announced :
      word (recalculated data) 2 = word data.memory 2 :=
    word_congr (agree 2 (by decide)) (agree 3 (by decide))
  have samePayload :
      payloadLengthIpv4 (recalculated data) =
        payloadLengthIpv4 data.memory := by
    rw [payloadLengthIpv4, announced, agree 0 (by decide)]
    rfl
  rw [← pseudoBytesIpv4_eq ((agree 9 (by decide)).trans which),
    samePayload, pseudoBytesIpv4_congr agree]

/-- The plan of a TCP or UDP packet covers a valid pseudo-header sum. -/
theorem pseudo_verifies_ipv4 (wellFormed : WellFormedIpv4 data)
    (small : data.size < 2 ^ 31) {transport : Transport}
    (which : data.memory 9 = transport.protocol)
    (chosen :
      packetPlan data = planIpv4 transport data.size data.memory)
    (pseudo : transport.pseudoHeader)
    (field : transport.field + 2 ≤ transport.minimum)
    (inside :
      headerLength (data.memory 0) + transport.minimum ≤
        word data.memory 2) :
    Verifies
      (pseudoIpv4 (recalculated data) ++
        segmentIpv4 (recalculated data)) := by
  have planned :=
    chosen.trans
      (planIpv4_of_inside small (by omega) inside wellFormed.total)
  refine segment_verifies_ipv4 wellFormed planned ?_ rfl ?_ ?_
  · simp only [payloadLengthIpv4]
    omega
  · simp [pseudoIpv4]
  · rw [recalculated_pseudoIpv4 wellFormed which]
    exact (if_pos pseudo).symm

theorem packetPlan_tcp_ipv4 (v4 : version data.memory = 4)
    (tcpProtocol : data.memory 9 = 6) :
    packetPlan data = planIpv4 tcp data.size data.memory := by
  rw [packetPlan_ipv4 v4, transportPlanIpv4, if_pos tcpProtocol]

theorem packetPlan_udp_ipv4 (v4 : version data.memory = 4)
    (udpProtocol : data.memory 9 = 17) :
    packetPlan data = planIpv4 udp data.size data.memory := by
  rw [packetPlan_ipv4 v4, transportPlanIpv4, udpProtocol,
    if_neg (by decide), if_pos rfl]

theorem packetPlan_icmp_ipv4 (v4 : version data.memory = 4)
    (icmpProtocol : data.memory 9 = 1) :
    packetPlan data = planIpv4 icmp data.size data.memory := by
  rw [packetPlan_ipv4 v4, transportPlanIpv4, icmpProtocol,
    if_neg (by decide), if_neg (by decide), if_pos rfl]

/-- The word stored by a plan behind the header is there afterwards. -/
theorem recalculated_field_ipv4 (wellFormed : WellFormedIpv4 data)
    {plan : Plan} (planned : packetPlan data = some plan) :
    word (recalculated data) plan.field = plan.reference data.memory := by
  have chosen := planned
  rw [packetPlan_ipv4 wellFormed.version] at chosen
  have spec := transportPlanIpv4_spec chosen
  have start := spec.start
  have field := spec.field_ge
  have minimal := wellFormed.minimal
  calc
    word (recalculated data) plan.field =
        word (plan.apply data.memory) plan.field :=
      word_congr
        (by
          rw [recalculated_behind_ipv4 wellFormed (by omega), planned]
          rfl)
        (by
          rw [recalculated_behind_ipv4 wellFormed (by omega), planned]
          rfl)
    _ = plan.checksum data.memory := plan.word_apply _
    _ = plan.reference data.memory :=
      Plan.checksum_eq_reference spec.bounded _

theorem verifiesIpv4_recalculated (wellFormed : WellFormedIpv4 data)
    (small : data.size < 2 ^ 31) : VerifiesIpv4 (recalculated data) := by
  have agree := recalculated_agree_ipv4 wellFormed
  have protocol : recalculated data 9 = data.memory 9 :=
    agree 9 (by decide)
  have v4 := wellFormed.version
  have inside : ∀ header, headerIpv4 (data.memory 9) = some header →
      headerLength (data.memory 0) + header.length ≤
        word data.memory 2 := wellFormed.transport
  constructor
  · have sized : 20 ≤ data.size :=
      wellFormed.minimal.trans
        (wellFormed.header.trans wellFormed.total)
    have first :
        applyPlan (packetPlan data) data.memory 0 = data.memory 0 := by
      rw [packetPlan_ipv4 v4]
      exact transportPlanIpv4_keeps (by decide)
    rw [recalculated_ipv4 sized v4]
    exact sealHeader_verifies (by rw [first]; exact wellFormed.minimal)
  · rw [protocol]
    rintro (isTcp | isUdp)
    · have covered := inside tcpHeader (by rw [isTcp]; rfl)
      simp only [tcpHeader] at covered
      exact
        pseudo_verifies_ipv4 wellFormed small isTcp
          (packetPlan_tcp_ipv4 v4 isTcp) rfl (by decide)
          (by simp only [tcp]; omega)
    · have covered := inside udpHeader (by rw [isUdp]; rfl)
      exact
        pseudo_verifies_ipv4 wellFormed small isUdp
          (packetPlan_udp_ipv4 v4 isUdp) rfl (by decide) covered
  · rw [protocol]
    intro isIcmp
    have covered := inside icmpHeader (by rw [isIcmp]; rfl)
    have planned :=
      (packetPlan_icmp_ipv4 v4 isIcmp).trans
        (planIpv4_of_inside small (by decide) covered wellFormed.total)
    have fits : icmp.field + 1 < payloadLengthIpv4 data.memory := by
      simp only [payloadLengthIpv4, icmp, icmpHeader] at covered ⊢
      omega
    have accepted :
        Verifies ([] ++ segmentIpv4 (recalculated data)) :=
      segment_verifies_ipv4 wellFormed planned fits rfl rfl rfl
    exact accepted
  · rw [protocol]
    intro isUdp
    have covered := inside udpHeader (by rw [isUdp]; rfl)
    have planned :=
      (packetPlan_udp_ipv4 v4 isUdp).trans
        (planIpv4_of_inside small (by decide) covered wellFormed.total)
    have stored := recalculated_field_ipv4 wellFormed planned
    rw [agree 0 (by decide)]
    rw [Plan.field] at stored
    change word _ (headerLength (data.memory 0) + 6) = _ at stored
    rw [stored]
    exact reference_ne_zero _ rfl

/-- A second recalculation finds every checksum in place. -/
theorem recalculated_stable_ipv4 (wellFormed : WellFormedIpv4 data) :
    recalculated (recalculatedData data) = recalculated data := by
  have v4 := wellFormed.version
  have sized : 20 ≤ data.size :=
    wellFormed.minimal.trans (wellFormed.header.trans wellFormed.total)
  have agree := recalculated_agree_ipv4 wellFormed
  have still : version (recalculatedData data).memory = 4 := by
    rw [version]
    change (recalculated data 0).toNat >>> 4 = 4
    rw [agree 0 (by decide)]
    exact v4
  have samePlan : packetPlan (recalculatedData data) = packetPlan data :=
    packetPlan_congr_ipv4 v4 agree
  have written :
      applyPlan (packetPlan data) (recalculated data) =
        recalculated data := by
    match planned : packetPlan data with
    | none => rfl
    | some plan =>
        have chosen := planned
        rw [packetPlan_ipv4 v4] at chosen
        have spec := transportPlanIpv4_spec chosen
        have start := spec.start
        have minimal := wellFormed.minimal
        have sameWord :
            plan.checksum (recalculated data) =
              plan.checksum data.memory := by
          refine checksum_congr fun offset lower _ first second => ?_
          rw [recalculated_behind_ipv4 wellFormed (by omega), planned]
          exact putWord_of_ne first second
        change
          putWord (recalculated data) plan.field
            (plan.checksum (recalculated data)) = _
        rw [sameWord, Plan.checksum_eq_reference spec.bounded,
          ← recalculated_field_ipv4 wellFormed planned, putWord_word]
  calc
    recalculated (recalculatedData data) =
        sealHeader
          (applyPlan (packetPlan (recalculatedData data))
            (recalculated data)) := recalculated_ipv4 sized still
    _ = sealHeader (recalculated data) := by rw [samePlan, written]
    _ = recalculated data := by
      rw [recalculated_ipv4 sized v4, sealHeader_sealHeader]

end Ipv4

/-! ## Well-formed IPv6 packets -/

section Ipv6

variable {data : IPPacketData}

theorem recalculated_wellFormedIpv6 (wellFormed : WellFormedIpv6 data) :
    recalculated data = applyPlan (packetPlan data) data.memory :=
  recalculated_ipv6 wellFormed.sized wellFormed.version

theorem recalculated_agree_ipv6 (wellFormed : WellFormedIpv6 data) :
    AgreeIpv6 (recalculated data) data.memory := by
  intro offset place
  rw [recalculated_wellFormedIpv6 wellFormed]
  match planned : packetPlan data with
  | none => rfl
  | some plan =>
      rw [packetPlan_ipv6 wellFormed.version] at planned
      have start := (transportPlanIpv6_spec planned).start
      exact
        putWord_of_ne
          (by unfold Plan.field; omega) (by unfold Plan.field; omega)

theorem recalculated_pseudoIpv6 (wellFormed : WellFormedIpv6 data)
    {protocol : UInt8} (which : data.memory 6 = protocol) :
    pseudoIpv6 (recalculated data) =
      pseudoBytesIpv6 data.memory protocol (word data.memory 4) := by
  have agree := recalculated_agree_ipv6 wellFormed
  have announced :
      word (recalculated data) 4 = word data.memory 4 :=
    word_congr (agree 4 (by decide)) (agree 5 (by decide))
  rw [← pseudoBytesIpv6_eq ((agree 6 (by decide)).trans which),
    announced, pseudoBytesIpv6_congr agree]

theorem pseudo_verifies_ipv6 (wellFormed : WellFormedIpv6 data)
    (small : data.size < 2 ^ 31) {transport : Transport}
    (which : data.memory 6 = transport.protocol)
    (chosen :
      packetPlan data = planIpv6 transport data.size data.memory)
    (field : transport.field + 2 ≤ transport.minimum)
    (inside : transport.minimum ≤ word data.memory 4) :
    Verifies
      (pseudoIpv6 (recalculated data) ++
        segmentIpv6 (recalculated data)) := by
  have payload := wellFormed.payload
  have sized := wellFormed.sized
  simp only [kMinIPv6] at payload sized
  have planned :=
    chosen.trans
      (planIpv6_of_inside small (by omega) inside (by omega))
  have spec := planned
  rw [packetPlan_ipv6 wellFormed.version] at spec
  have planSpec := transportPlanIpv6_spec spec
  have agree := recalculated_agree_ipv6 wellFormed
  have announced :
      word (recalculated data) 4 = word data.memory 4 :=
    word_congr (agree 4 (by decide)) (agree 5 (by decide))
  have closed :=
    apply_closes planSpec.bounded planSpec.even
      (by simp only; omega) data.memory
  rw [segmentIpv6, announced, recalculated_pseudoIpv6 wellFormed which,
    recalculated_wellFormedIpv6 wellFormed, planned]
  exact verifies_of_closed (by simp [pseudoBytesIpv6]) closed

theorem packetPlan_tcp_ipv6 (v6 : version data.memory = 6)
    (tcpHeader : data.memory 6 = 6) :
    packetPlan data = planIpv6 tcp data.size data.memory := by
  rw [packetPlan_ipv6 v6, transportPlanIpv6, if_pos tcpHeader]

theorem packetPlan_udp_ipv6 (v6 : version data.memory = 6)
    (udpHeader : data.memory 6 = 17) :
    packetPlan data = planIpv6 udp data.size data.memory := by
  rw [packetPlan_ipv6 v6, transportPlanIpv6, udpHeader,
    if_neg (by decide), if_pos rfl]

theorem packetPlan_icmp_ipv6 (v6 : version data.memory = 6)
    (icmpHeader : data.memory 6 = 58) :
    packetPlan data = planIpv6 icmpv6 data.size data.memory := by
  rw [packetPlan_ipv6 v6, transportPlanIpv6, icmpHeader,
    if_neg (by decide), if_neg (by decide), if_pos rfl]

theorem verifiesIpv6_recalculated (wellFormed : WellFormedIpv6 data)
    (small : data.size < 2 ^ 31) : VerifiesIpv6 (recalculated data) := by
  have agree := recalculated_agree_ipv6 wellFormed
  have nextHeader : recalculated data 6 = data.memory 6 :=
    agree 6 (by decide)
  have v6 := wellFormed.version
  have inside : ∀ header, headerIpv6 (data.memory 6) = some header →
      header.length ≤ word data.memory 4 := wellFormed.transport
  constructor
  · rw [nextHeader]
    rintro (isTcp | isUdp | isIcmp)
    · have covered := inside tcpHeader (by rw [isTcp]; rfl)
      simp only [tcpHeader] at covered
      exact
        pseudo_verifies_ipv6 wellFormed small isTcp
          (packetPlan_tcp_ipv6 v6 isTcp) (by decide)
          (by simp only [tcp]; omega)
    · have covered := inside udpHeader (by rw [isUdp]; rfl)
      exact
        pseudo_verifies_ipv6 wellFormed small isUdp
          (packetPlan_udp_ipv6 v6 isUdp) (by decide) covered
    · have covered := inside icmpHeader (by rw [isIcmp]; rfl)
      exact
        pseudo_verifies_ipv6 wellFormed small isIcmp
          (packetPlan_icmp_ipv6 v6 isIcmp) (by decide) covered
  · rw [nextHeader]
    intro isUdp
    have covered := inside udpHeader (by rw [isUdp]; rfl)
    have payload := wellFormed.payload
    have sized := wellFormed.sized
    simp only [kMinIPv6] at payload sized
    obtain ⟨plan, planned, field, zeroRule⟩ :
        ∃ plan, packetPlan data = some plan ∧ plan.field = 46 ∧
          plan.transport.zeroRule :=
      ⟨_, (packetPlan_udp_ipv6 v6 isUdp).trans
        (planIpv6_of_inside small (by decide) covered (by omega)),
        rfl, rfl⟩
    rw [recalculated_wellFormedIpv6 wellFormed, planned, ← field]
    change word (plan.apply data.memory) plan.field ≠ 0
    rw [plan.word_apply,
      Plan.checksum_eq_reference (packetPlan_bounded planned)]
    exact reference_ne_zero _ zeroRule

theorem recalculated_stable_ipv6 (wellFormed : WellFormedIpv6 data) :
    recalculated (recalculatedData data) = recalculated data := by
  have v6 := wellFormed.version
  have agree := recalculated_agree_ipv6 wellFormed
  have still : version (recalculatedData data).memory = 6 := by
    rw [version]
    change (recalculated data 0).toNat >>> 4 = 6
    rw [agree 0 (by decide)]
    exact v6
  have samePlan : packetPlan (recalculatedData data) = packetPlan data :=
    packetPlan_congr_ipv6 v6 agree
  have again :
      recalculated (recalculatedData data) =
        applyPlan (packetPlan (recalculatedData data))
          (recalculated data) := recalculated_ipv6 wellFormed.sized still
  rw [again, samePlan, recalculated_wellFormedIpv6 wellFormed]
  match packetPlan data with
  | none => rfl
  | some plan => exact plan.apply_apply data.memory

end Ipv6

/-! ## All well-formed packets -/

/-- The TCP packet of 40 bytes in a larger buffer. -/
def tcpPacketIn (size : Nat) : IPPacketData where
  size := size
  memory := (tcpPacket 0).memory

theorem tcpPacketIn_wellFormed {size : Nat} (sized : 40 ≤ size) :
    WellFormed (tcpPacketIn size) := by
  left
  let memory := (tcpPacket 0).memory
  have announced : word memory 2 = 40 := by decide
  have found : headerIpv4 (memory 9) = some tcpHeader := rfl
  exact {
    version := (by decide : version memory = 4)
    minimal := (by decide : 20 ≤ headerLength (memory 0))
    header := (by decide : headerLength (memory 0) ≤ word memory 2)
    total := announced.trans_le sized
    whole := (by decide : Unfragmented memory)
    transport := by
      intro header carried
      obtain rfl := Option.some.inj (found.symm.trans carried)
      exact
        (by decide :
          headerLength (memory 0) + tcpHeader.length ≤ word memory 2)
    udpLength := fun isUdp =>
      absurd isUdp (by decide : memory 9 ≠ 17) }

end Fptn.Network.ChecksumValid
