import Fptn.Network.AddressGenerator

/-!
# The address pools of a table

The constructor of `Table`: it draws as many addresses from both generators as
the smaller of them announces and leaves out the server's own addresses.  Its
configuration comes from the command line, whose integers are cast to
`std::uint32_t` without any check.

The generators start at the configured network address, not at the first
address of its subnet, while the number of available addresses is that of a
whole subnet.  The last section says exactly which configurations give sound
pools.
-/

namespace Fptn.NatTable.AddressPool

open Fptn.EventLog
open Fptn.WrapCounter
open Fptn.Network.IPAddress
open Fptn.Network.AddressGenerator

/-! ## Configuration -/

/-- The command line arguments of the virtual interface. -/
structure Arguments where
  tunInterfaceIp : String
  tunInterfaceNetworkAddress : String
  tunInterfaceNetworkMask : Int
  tunInterfaceIpv6 : String
  tunInterfaceNetworkIpv6Address : String
  tunInterfaceNetworkIpv6Mask : Int

/-- `Table::Config`. -/
structure Config where
  tunIpv4 : IPv4Address
  tunIpv4Network : IPv4Address
  tunNetworkIpv4Mask : Nat
  tunIpv6 : IPv6Address
  tunIpv6Network : IPv6Address
  tunNetworkIpv6Mask : Nat

/-- `static_cast<std::uint32_t>` of an `int`. -/
def toUInt32 (value : Int) : Nat := (value % 2 ^ 32).toNat

section Pools

variable (text : AddressText) (undefinedShift : Nat → Nat → Nat)

/-- The getters of `ServerConfig` which fill the table's configuration. -/
def Arguments.config (arguments : Arguments) : Config where
  tunIpv4 := IPv4Address.ofString text arguments.tunInterfaceIp
  tunIpv4Network :=
    IPv4Address.ofString text arguments.tunInterfaceNetworkAddress
  tunNetworkIpv4Mask := toUInt32 arguments.tunInterfaceNetworkMask
  tunIpv6 := IPv6Address.ofString text arguments.tunInterfaceIpv6
  tunIpv6Network :=
    IPv6Address.ofString text arguments.tunInterfaceNetworkIpv6Address
  tunNetworkIpv6Mask := toUInt32 arguments.tunInterfaceNetworkIpv6Mask

/-! ## The constructor -/

structure Pools where
  freeIpv4 : List IPv4Address
  freeIpv6 : List IPv6Address

def fillIpv4 (tunIpv4 : IPv4Address) :
    Nat → IPv4AddressGenerator → List IPv4Address
  | 0, _ => []
  | count + 1, generator =>
      let (ip, generator) := generator.getNextAddress text
      if ip ≠ tunIpv4 then
        ip :: fillIpv4 tunIpv4 count generator
      else
        fillIpv4 tunIpv4 count generator

def fillIpv6 (tunIpv6 : IPv6Address) :
    Nat → IPv6AddressGenerator → List IPv6Address
  | 0, _ => []
  | count + 1, generator =>
      let (ip, generator) := generator.getNextAddress text
      if ip ≠ tunIpv6 then
        ip :: fillIpv6 tunIpv6 count generator
      else
        fillIpv6 tunIpv6 count generator

/-- The smaller number of available addresses, as `std::uint32_t`. -/
def capacity (ipv4Available ipv6Available : Nat) : Nat :=
  if ipv6Available > ipv4Available then
    ipv4Available
  else
    ipv6Available % 2 ^ 32

/-- The constructor's body, which fills the free lists. -/
def fillPools (config : Config)
    (ipv4Generator : IPv4AddressGenerator)
    (ipv6Generator : IPv6AddressGenerator) : Logged Bool Pools := do
  let ipv6Available ← ipv6Generator.numAvailableAddresses
  let count :=
    capacity ipv4Generator.numAvailableAddresses ipv6Available
  return {
    freeIpv4 := fillIpv4 text config.tunIpv4 count ipv4Generator
    freeIpv6 := fillIpv6 text config.tunIpv6 count ipv6Generator }

/-- What is constructed after the IPv4 generator. -/
def createIpv6 (config : Config) (ipv4Generator : IPv4AddressGenerator) :
    Logged Bool (Option Pools) := do
  let ipv6Generator ←
    IPv6AddressGenerator.create text
      config.tunIpv6Network config.tunNetworkIpv6Mask
  match ipv6Generator with
  | none => return none
  | some ipv6Generator => do
    let pools ← fillPools text config ipv4Generator ipv6Generator
    return some pools

/-- `Table::Table`; no table is built when a network address is not parsed. -/
def create (config : Config) : Logged Bool (Option Pools) := do
  let ipv4Generator ←
    IPv4AddressGenerator.create text undefinedShift
      config.tunIpv4Network config.tunNetworkIpv4Mask
  match ipv4Generator with
  | none => return none
  | some ipv4Generator => createIpv6 text config ipv4Generator

/-! ## Sound pools -/

/-- The numbers behind a list of addresses. -/
def valuesIpv4 (addresses : List IPv4Address) : List Nat :=
  addresses.map fun ip => ip.impl.toNat

def valuesIpv6 (addresses : List IPv6Address) : List Nat :=
  addresses.map fun ip => (ip.impl.getD 0).toNat

/--
The constructor's arithmetic is exact, and both pools hold host addresses of
the configured subnet only, none of them twice, none of them the server's own.
-/
structure PoolsSound (arguments : Arguments) : Prop where
  arithmetic :
    Exact (create text undefinedShift (arguments.config text))
  ipv4 : ∀ pools network,
    value (create text undefinedShift (arguments.config text)) =
        some pools →
      text.makeAddressV4 arguments.tunInterfaceNetworkAddress =
          some network →
        let hostBits := 32 - toUInt32 arguments.tunInterfaceNetworkMask
        Sound (subnetNetwork network.toNat hostBits)
          (subnetLast network.toNat hostBits)
          ((text.makeAddressV4 arguments.tunInterfaceIp).map
            BitVec.toNat)
          (valuesIpv4 pools.freeIpv4)
  ipv6 : ∀ pools network,
    value (create text undefinedShift (arguments.config text)) =
        some pools →
      text.makeAddressV6 arguments.tunInterfaceNetworkIpv6Address =
          some network →
        let hostBits :=
          128 - toUInt32 arguments.tunInterfaceNetworkIpv6Mask
        Sound (subnetNetwork network.toNat hostBits)
          (subnetLast network.toNat hostBits)
          ((text.makeAddressV6 arguments.tunInterfaceIpv6).map
            BitVec.toNat)
          (valuesIpv6 pools.freeIpv6)

/-! ## Left-out addresses -/

/-- The own address, provided its text is the one which is printed for it. -/
def skippedIpv4 (tunIp : String) : Option Nat :=
  match text.makeAddressV4 tunIp with
  | none => none
  | some address =>
    if text.toStringV4 address = tunIp then some address.toNat else none

def skippedIpv6 (tunIp : String) : Option Nat :=
  match text.makeAddressV6 tunIp with
  | none => none
  | some address =>
    if text.toStringV6 address = tunIp then some address.toNat else none

variable {text} {undefinedShift}

theorem skippedIpv4_or (tunIp : String) :
    skippedIpv4 text tunIp = none ∨
      skippedIpv4 text tunIp =
        (text.makeAddressV4 tunIp).map BitVec.toNat := by
  unfold skippedIpv4
  cases text.makeAddressV4 tunIp with
  | none => exact Or.inl rfl
  | some address =>
      by_cases canonical : text.toStringV4 address = tunIp
      · exact Or.inr (by simp [canonical])
      · exact Or.inl (by simp [canonical])

theorem skippedIpv6_or (tunIp : String) :
    skippedIpv6 text tunIp = none ∨
      skippedIpv6 text tunIp =
        (text.makeAddressV6 tunIp).map BitVec.toNat := by
  unfold skippedIpv6
  cases text.makeAddressV6 tunIp with
  | none => exact Or.inl rfl
  | some address =>
      by_cases canonical : text.toStringV6 address = tunIp
      · exact Or.inr (by simp [canonical])
      · exact Or.inl (by simp [canonical])

/-- A generated address is left out when it prints as the own address. -/
theorem ofValue_eq_ofString_ipv4 {number : Nat} {tunIp : String}
    (small : number < 2 ^ 32) :
    IPv4Address.ofValue text (BitVec.ofNat 32 number) =
        IPv4Address.ofString text tunIp ↔
      skippedIpv4 text tunIp = some number := by
  have recover : (BitVec.ofNat 32 number).toNat = number := by
    rw [BitVec.toNat_ofNat, Nat.mod_eq_of_lt small]
  constructor
  · intro same
    have printed :
        text.toStringV4 (BitVec.ofNat 32 number) = tunIp :=
      congrArg IPv4Address.ip same
    rw [skippedIpv4, ← printed, text.makeAddressV4_toString]
    simp [recover]
  · intro skipped
    unfold skippedIpv4 at skipped
    cases parsed : text.makeAddressV4 tunIp with
    | none => simp [parsed] at skipped
    | some address =>
        simp only [parsed, Option.ite_none_right_eq_some,
          Option.some.injEq] at skipped
        obtain ⟨canonical, rfl⟩ := skipped
        rw [BitVec.ofNat_toNat, BitVec.setWidth_eq, IPv4Address.ofValue,
          canonical]

theorem ofValue_eq_ofString_ipv6 {number : Nat} {tunIp : String}
    (small : number < 2 ^ 128) :
    IPv6Address.ofValue text (BitVec.ofNat 128 number) =
        IPv6Address.ofString text tunIp ↔
      skippedIpv6 text tunIp = some number := by
  have recover : (BitVec.ofNat 128 number).toNat = number := by
    rw [BitVec.toNat_ofNat, Nat.mod_eq_of_lt small]
  constructor
  · intro same
    have printed :
        text.toStringV6 (BitVec.ofNat 128 number) = tunIp :=
      congrArg IPv6Address.ip same
    rw [skippedIpv6, ← printed, text.makeAddressV6_toString]
    simp [recover]
  · intro skipped
    unfold skippedIpv6 at skipped
    cases parsed : text.makeAddressV6 tunIp with
    | none => simp [parsed] at skipped
    | some address =>
        simp only [parsed, Option.ite_none_right_eq_some,
          Option.some.injEq] at skipped
        obtain ⟨canonical, rfl⟩ := skipped
        rw [BitVec.ofNat_toNat, BitVec.setWidth_eq, IPv6Address.ofValue,
          canonical]

/-! ## Filling draws from a counter -/

theorem valuesIpv4_fill {tunIp : String} (count : Nat)
    (generator : IPv4AddressGenerator) :
    valuesIpv4
        (fillIpv4 text (IPv4Address.ofString text tunIp) count
          generator) =
      (draw generator.counter count generator.ip).filter fun number =>
        skippedIpv4 text tunIp ≠ some number := by
  induction count generalizing generator with
  | zero => rfl
  | succ count ih =>
      have small : next generator.counter generator.ip < 2 ^ 32 :=
        next_lt (Nat.two_pow_pos 32) _
      have tail :
          valuesIpv4
              (fillIpv4 text (IPv4Address.ofString text tunIp) count
                (generator.getNextAddress text).2) =
            (draw generator.counter count
              (next generator.counter generator.ip)).filter
                fun number => skippedIpv4 text tunIp ≠ some number :=
        ih (generator.getNextAddress text).2
      have drawn :
          draw generator.counter (count + 1) generator.ip =
            next generator.counter generator.ip ::
              draw generator.counter count
                (next generator.counter generator.ip) := rfl
      have head :
          (generator.getNextAddress text).1 =
            IPv4Address.ofValue text
              (BitVec.ofNat 32 (next generator.counter generator.ip)) :=
        rfl
      rw [fillIpv4, drawn, List.filter_cons]
      simp only [head, ne_eq, ofValue_eq_ofString_ipv4 small]
      by_cases skipped :
          skippedIpv4 text tunIp =
            some (next generator.counter generator.ip)
      · simpa [skipped] using tail
      · simp only [skipped, not_false_eq_true, if_true, decide_true]
        rw [valuesIpv4, List.map_cons]
        refine congrArg₂ List.cons ?_ tail
        rw [IPv4Address.ofValue_impl, BitVec.toNat_ofNat,
          Nat.mod_eq_of_lt small]

theorem valuesIpv6_fill {tunIp : String} (count : Nat)
    (generator : IPv6AddressGenerator) :
    valuesIpv6
        (fillIpv6 text (IPv6Address.ofString text tunIp) count
          generator) =
      (draw generator.counter count generator.currentAddr).filter
        fun number => skippedIpv6 text tunIp ≠ some number := by
  induction count generalizing generator with
  | zero => rfl
  | succ count ih =>
      have small :
          next generator.counter generator.currentAddr < 2 ^ 128 :=
        next_lt (Nat.two_pow_pos 128) _
      have tail :
          valuesIpv6
              (fillIpv6 text (IPv6Address.ofString text tunIp) count
                (generator.getNextAddress text).2) =
            (draw generator.counter count
              (next generator.counter generator.currentAddr)).filter
                fun number => skippedIpv6 text tunIp ≠ some number :=
        ih (generator.getNextAddress text).2
      have drawn :
          draw generator.counter (count + 1) generator.currentAddr =
            next generator.counter generator.currentAddr ::
              draw generator.counter count
                (next generator.counter generator.currentAddr) := rfl
      have head :
          (generator.getNextAddress text).1 =
            IPv6Address.ofValue text
              (BitVec.ofNat 128
                (next generator.counter generator.currentAddr)) := rfl
      rw [fillIpv6, drawn, List.filter_cons]
      simp only [head, ne_eq, ofValue_eq_ofString_ipv6 small]
      by_cases skipped :
          skippedIpv6 text tunIp =
            some (next generator.counter generator.currentAddr)
      · simpa [skipped] using tail
      · simp only [skipped, not_false_eq_true, if_true, decide_true]
        rw [valuesIpv6, List.map_cons]
        refine congrArg₂ List.cons ?_ tail
        rw [IPv6Address.ofValue_impl, Option.getD_some,
          BitVec.toNat_ofNat, Nat.mod_eq_of_lt small]

/-- All addresses of a free list have been printed. -/
theorem printed_of_mem_fillIpv6 {tunIpv6 ip : IPv6Address} {count : Nat}
    {generator : IPv6AddressGenerator}
    (member : ip ∈ fillIpv6 text tunIpv6 count generator) :
    ∃ number, ip = IPv6Address.ofValue text number := by
  induction count generalizing generator with
  | zero => cases member
  | succ count ih =>
      rw [fillIpv6] at member
      dsimp only at member
      split at member
      · rcases List.mem_cons.mp member with rfl | later
        · exact ⟨_, rfl⟩
        · exact ih later
      · exact ih member

/-! ## Configurations which fit -/

/-- The counter of a configured IPv4 network. -/
def counterIpv4 (network subnetMask : Nat) : Counter where
  modulus := 2 ^ 32
  start := network
  last := subnetLast network (32 - subnetMask)

def counterIpv6 (network subnetMask : Nat) : Counter where
  modulus := 2 ^ 128
  start := network
  last := subnetLast network (128 - subnetMask)

/-- The number of addresses drawn from each generator. -/
def drawn (ipv4Mask ipv6Network ipv6Mask : Nat) : Nat :=
  min (2 ^ (32 - ipv4Mask) - 2)
    (subnetLast ipv6Network (128 - ipv6Mask) - ipv6Network - 1)

variable (text) in
/--
The IPv4 prefix length is 1 to 31; the IPv6 prefix length is 1 to 128, and the
IPv6 network address is not the last one of its subnet; and both drawings fit.
What follows the first unparsable network address does not matter.
-/
def PoolsFit (arguments : Arguments) : Prop :=
  ∀ ipv4Network,
    text.makeAddressV4 arguments.tunInterfaceNetworkAddress =
        some ipv4Network →
    let ipv4Mask := toUInt32 arguments.tunInterfaceNetworkMask
    (1 ≤ ipv4Mask ∧ ipv4Mask ≤ 31) ∧
    ∀ ipv6Network,
      text.makeAddressV6 arguments.tunInterfaceNetworkIpv6Address =
          some ipv6Network →
      let ipv6Mask := toUInt32 arguments.tunInterfaceNetworkIpv6Mask
      let count := drawn ipv4Mask ipv6Network.toNat ipv6Mask
      (1 ≤ ipv6Mask ∧ ipv6Mask ≤ 128) ∧
      ipv6Network.toNat <
          subnetLast ipv6Network.toNat (128 - ipv6Mask) ∧
      Fits (counterIpv4 ipv4Network.toNat ipv4Mask) count
        ((text.makeAddressV4 arguments.tunInterfaceIp).map
          BitVec.toNat)
        (skippedIpv4 text arguments.tunInterfaceIp) ∧
      Fits (counterIpv6 ipv6Network.toNat ipv6Mask) count
        ((text.makeAddressV6 arguments.tunInterfaceIpv6).map
          BitVec.toNat)
        (skippedIpv6 text arguments.tunInterfaceIpv6)

theorem counterIpv4_valid (network : BitVec 32) (subnetMask : Nat) :
    Valid (counterIpv4 network.toNat subnetMask) where
  ordered := le_subnetLast _ _
  bounded := subnetLast_lt network.isLt (Nat.sub_le _ _)

theorem counterIpv6_valid (network : BitVec 128) (subnetMask : Nat) :
    Valid (counterIpv6 network.toNat subnetMask) where
  ordered := le_subnetLast _ _
  bounded := subnetLast_lt network.isLt (Nat.sub_le _ _)

/-- Only the whole address space has a first address of zero and no room. -/
theorem subnetNetwork_pos {address hostBits width : Nat}
    (less : hostBits < width)
    (edge : subnetLast address hostBits + 1 = 2 ^ width) :
    0 < subnetNetwork address hostBits := by
  have positive := Nat.two_pow_pos hostBits
  have smaller : 2 ^ hostBits < 2 ^ width :=
    Nat.pow_lt_pow_right (by decide) less
  unfold subnetLast at edge
  omega

/-- An IPv4 pool is sound exactly when its drawing fits. -/
theorem pool_ipv4_sound_iff {network : BitVec 32}
    {subnetMask count : Nat} {tunIp : String}
    (lower : 1 ≤ subnetMask) :
    Sound (subnetNetwork network.toNat (32 - subnetMask))
        (subnetLast network.toNat (32 - subnetMask))
        ((text.makeAddressV4 tunIp).map BitVec.toNat)
        (pool (counterIpv4 network.toNat subnetMask) count
          (skippedIpv4 text tunIp)) ↔
      Fits (counterIpv4 network.toNat subnetMask) count
        ((text.makeAddressV4 tunIp).map BitVec.toNat)
        (skippedIpv4 text tunIp) :=
  sound_iff_fits (counterIpv4_valid network subnetMask)
    (subnetNetwork_le _ _) (subnetNetwork_pos (by omega))
    (skippedIpv4_or tunIp)

theorem pool_ipv6_sound_iff {network : BitVec 128}
    {subnetMask count : Nat} {tunIp : String}
    (lower : 1 ≤ subnetMask) :
    Sound (subnetNetwork network.toNat (128 - subnetMask))
        (subnetLast network.toNat (128 - subnetMask))
        ((text.makeAddressV6 tunIp).map BitVec.toNat)
        (pool (counterIpv6 network.toNat subnetMask) count
          (skippedIpv6 text tunIp)) ↔
      Fits (counterIpv6 network.toNat subnetMask) count
        ((text.makeAddressV6 tunIp).map BitVec.toNat)
        (skippedIpv6 text tunIp) :=
  sound_iff_fits (counterIpv6_valid network subnetMask)
    (subnetNetwork_le _ _) (subnetNetwork_pos (by omega))
    (skippedIpv6_or tunIp)

theorem capacity_eq_min {ipv4Available ipv6Available : Nat}
    (small : ipv4Available < 2 ^ 32) :
    capacity ipv4Available ipv6Available =
      min ipv4Available ipv6Available := by
  unfold capacity
  split
  · omega
  · rw [Nat.mod_eq_of_lt (by omega)]
    omega

section Parsed

variable {arguments : Arguments}
variable {ipv4Network : BitVec 32} {ipv6Network : BitVec 128}

theorem fillPools_exact {config : Config}
    {ipv4Generator : IPv4AddressGenerator}
    {ipv6Generator : IPv6AddressGenerator}
    (small : ipv6Generator.maxAddr < 2 ^ 128) :
    Exact (fillPools text config ipv4Generator ipv6Generator) ↔
      ipv6Generator.netAddr < ipv6Generator.maxAddr := by
  rw [fillPools, Exact, every_bind]
  simp only [every_pure, and_true]
  exact availableIPv6_exact small

theorem fillPools_values {config : Config}
    {ipv4Generator : IPv4AddressGenerator}
    {ipv6Generator : IPv6AddressGenerator} {count : Nat}
    {tunIp tunIpv6 : String}
    (counted :
      capacity ipv4Generator.numAvailableAddresses
        (value ipv6Generator.numAvailableAddresses) = count)
    (ownIpv4 : config.tunIpv4 = IPv4Address.ofString text tunIp)
    (ownIpv6 : config.tunIpv6 = IPv6Address.ofString text tunIpv6) :
    valuesIpv4
          (value
            (fillPools text config ipv4Generator ipv6Generator)).freeIpv4 =
        (draw ipv4Generator.counter count ipv4Generator.ip).filter
          (fun number => skippedIpv4 text tunIp ≠ some number) ∧
      valuesIpv6
          (value
            (fillPools text config ipv4Generator ipv6Generator)).freeIpv6 =
        (draw ipv6Generator.counter count
            ipv6Generator.currentAddr).filter
          (fun number => skippedIpv6 text tunIpv6 ≠ some number) ∧
      ∀ ip ∈
          (value
            (fillPools text config ipv4Generator ipv6Generator)).freeIpv6,
        ∃ number, ip = IPv6Address.ofValue text number := by
  rw [fillPools, value_bind, value_pure, counted, ownIpv4, ownIpv6]
  exact
    ⟨valuesIpv4_fill _ _, valuesIpv6_fill _ _,
      fun _ => printed_of_mem_fillIpv6⟩

/-- The number of addresses which are drawn from each generator, even if the
IPv6 network has none and the subtraction underflows. -/
def served (ipv4Mask ipv6Network ipv6Mask : Nat) : Nat :=
  if ipv6Network = subnetLast ipv6Network (128 - ipv6Mask) then
    2 ^ (32 - ipv4Mask) - 2
  else
    drawn ipv4Mask ipv6Network ipv6Mask

theorem capacity_eq_served {ipv4Mask ipv6Mask : Nat}
    (lower : 1 ≤ ipv4Mask) (network : BitVec 128) :
    capacity (2 ^ (32 - ipv4Mask) - 2)
        (value
          (IPv6AddressGenerator.numAvailableAddresses
            ⟨network.toNat, subnetLast network.toNat (128 - ipv6Mask),
              network.toNat⟩)) =
      served ipv4Mask network.toNat ipv6Mask := by
  have small : 2 ^ (32 - ipv4Mask) - 2 < 2 ^ 32 :=
    Nat.lt_of_le_of_lt (Nat.sub_le _ _)
      (Nat.pow_lt_pow_right (by decide) (by omega))
  have bounded :
      subnetLast network.toNat (128 - ipv6Mask) < 2 ^ 128 :=
    subnetLast_lt network.isLt (Nat.sub_le _ _)
  rw [served]
  split
  · rename_i full
    have many : 2 ^ (32 - ipv4Mask) - 2 < 2 ^ 128 - 1 :=
      Nat.lt_of_lt_of_le small (by decide)
    rw [availableIPv6_of_full bounded full, capacity, if_pos many]
  · rename_i room
    have ordered := le_subnetLast network.toNat (128 - ipv6Mask)
    rw [availableIPv6_value bounded (Nat.lt_of_le_of_ne ordered room)]
    exact capacity_eq_min small

/-- The arithmetic of a construction which reaches the pools. -/
theorem create_exact
    (ipv4Parsed :
      text.makeAddressV4 arguments.tunInterfaceNetworkAddress =
        some ipv4Network)
    (ipv6Parsed :
      text.makeAddressV6 arguments.tunInterfaceNetworkIpv6Address =
        some ipv6Network) :
    Exact (create text undefinedShift (arguments.config text)) ↔
      (1 ≤ toUInt32 arguments.tunInterfaceNetworkMask ∧
        toUInt32 arguments.tunInterfaceNetworkMask ≤ 31) ∧
      (1 ≤ toUInt32 arguments.tunInterfaceNetworkIpv6Mask ∧
        toUInt32 arguments.tunInterfaceNetworkIpv6Mask ≤ 128) ∧
      ipv6Network.toNat <
        subnetLast ipv6Network.toNat
          (128 - toUInt32 arguments.tunInterfaceNetworkIpv6Mask) := by
  have ipv4Found :
      text.makeAddressV4 (arguments.config text).tunIpv4Network.ip =
        some ipv4Network := ipv4Parsed
  have ipv6Found :
      text.makeAddressV6 (arguments.config text).tunIpv6Network.ip =
        some ipv6Network := ipv6Parsed
  obtain ⟨ipv4Generator, ipv4Created⟩ :
      ∃ generator,
        value
            (IPv4AddressGenerator.create text undefinedShift
              (arguments.config text).tunIpv4Network
              (arguments.config text).tunNetworkIpv4Mask) =
          some generator := createIPv4_some ipv4Found
  obtain ⟨ipv6Generator, ipv6Created⟩ :
      ∃ generator,
        value
            (IPv6AddressGenerator.create text
              (arguments.config text).tunIpv6Network
              (arguments.config text).tunNetworkIpv6Mask) =
          some generator := createIPv6_some ipv6Found
  rw [create, Exact, every_bind, ipv4Created]
  refine and_congr (createIPv4_exact ipv4Found) ?_
  change
    Exact (createIpv6 text (arguments.config text) ipv4Generator) ↔ _
  rw [createIpv6, Exact, every_bind, ipv6Created]
  refine (and_congr_left' (createIPv6_exact ipv6Found)).trans ?_
  refine and_congr_right fun range => ?_
  have created := createIPv6_value ipv6Found range.1 range.2
  obtain rfl := Option.some.inj (ipv6Created.symm.trans created)
  change
    Every (· = true)
      (fillPools text (arguments.config text) ipv4Generator _ >>=
        fun pools => pure (some pools)) ↔ _
  rw [every_bind]
  simp only [every_pure, and_true]
  exact fillPools_exact (subnetLast_lt ipv6Network.isLt (Nat.sub_le _ _))

/-- The pools of a construction with usable prefix lengths. -/
theorem create_pools
    (ipv4Parsed :
      text.makeAddressV4 arguments.tunInterfaceNetworkAddress =
        some ipv4Network)
    (ipv6Parsed :
      text.makeAddressV6 arguments.tunInterfaceNetworkIpv6Address =
        some ipv6Network)
    (ipv4Range :
      1 ≤ toUInt32 arguments.tunInterfaceNetworkMask ∧
        toUInt32 arguments.tunInterfaceNetworkMask ≤ 31)
    (ipv6Range :
      1 ≤ toUInt32 arguments.tunInterfaceNetworkIpv6Mask ∧
        toUInt32 arguments.tunInterfaceNetworkIpv6Mask ≤ 128) :
    ∃ pools,
      value (create text undefinedShift (arguments.config text)) =
          some pools ∧
        valuesIpv4 pools.freeIpv4 =
          pool
            (counterIpv4 ipv4Network.toNat
              (toUInt32 arguments.tunInterfaceNetworkMask))
            (served (toUInt32 arguments.tunInterfaceNetworkMask)
              ipv6Network.toNat
              (toUInt32 arguments.tunInterfaceNetworkIpv6Mask))
            (skippedIpv4 text arguments.tunInterfaceIp) ∧
        valuesIpv6 pools.freeIpv6 =
          pool
            (counterIpv6 ipv6Network.toNat
              (toUInt32 arguments.tunInterfaceNetworkIpv6Mask))
            (served (toUInt32 arguments.tunInterfaceNetworkMask)
              ipv6Network.toNat
              (toUInt32 arguments.tunInterfaceNetworkIpv6Mask))
            (skippedIpv6 text arguments.tunInterfaceIpv6) ∧
        ∀ ip ∈ pools.freeIpv6,
          ∃ number, ip = IPv6Address.ofValue text number := by
  have ipv4Found :
      text.makeAddressV4 (arguments.config text).tunIpv4Network.ip =
        some ipv4Network := ipv4Parsed
  have ipv6Found :
      text.makeAddressV6 (arguments.config text).tunIpv6Network.ip =
        some ipv6Network := ipv6Parsed
  have ipv4Created :
      value
          (IPv4AddressGenerator.create text undefinedShift
            (arguments.config text).tunIpv4Network
            (toUInt32 arguments.tunInterfaceNetworkMask)) = _ :=
    createIPv4_value ipv4Found ipv4Range.1 ipv4Range.2
  have ipv6Created :
      value
          (IPv6AddressGenerator.create text
            (arguments.config text).tunIpv6Network
            (toUInt32 arguments.tunInterfaceNetworkIpv6Mask)) = _ :=
    createIPv6_value ipv6Found ipv6Range.1 ipv6Range.2
  have counted :
      capacity (2 ^ (32 - toUInt32 arguments.tunInterfaceNetworkMask) - 2)
          (value
            (IPv6AddressGenerator.numAvailableAddresses
              ⟨ipv6Network.toNat,
                subnetLast ipv6Network.toNat
                  (128 - toUInt32 arguments.tunInterfaceNetworkIpv6Mask),
                ipv6Network.toNat⟩)) =
        served (toUInt32 arguments.tunInterfaceNetworkMask)
          ipv6Network.toNat
          (toUInt32 arguments.tunInterfaceNetworkIpv6Mask) :=
    capacity_eq_served ipv4Range.1 ipv6Network
  have ipv4Mask :
      (arguments.config text).tunNetworkIpv4Mask =
        toUInt32 arguments.tunInterfaceNetworkMask := rfl
  have ipv6Mask :
      (arguments.config text).tunNetworkIpv6Mask =
        toUInt32 arguments.tunInterfaceNetworkIpv6Mask := rfl
  rw [create, value_bind, ipv4Mask, ipv4Created]
  simp only
  rw [createIpv6, value_bind, ipv6Mask, ipv6Created]
  simp only
  rw [value_bind, value_pure]
  refine ⟨_, rfl, ?_⟩
  exact fillPools_values counted rfl rfl

/-- The pools of a construction whose arithmetic is exact. -/
theorem create_value
    (ipv4Parsed :
      text.makeAddressV4 arguments.tunInterfaceNetworkAddress =
        some ipv4Network)
    (ipv6Parsed :
      text.makeAddressV6 arguments.tunInterfaceNetworkIpv6Address =
        some ipv6Network)
    (exact :
      Exact (create text undefinedShift (arguments.config text))) :
    ∃ pools,
      value (create text undefinedShift (arguments.config text)) =
          some pools ∧
        valuesIpv4 pools.freeIpv4 =
          pool
            (counterIpv4 ipv4Network.toNat
              (toUInt32 arguments.tunInterfaceNetworkMask))
            (drawn (toUInt32 arguments.tunInterfaceNetworkMask)
              ipv6Network.toNat
              (toUInt32 arguments.tunInterfaceNetworkIpv6Mask))
            (skippedIpv4 text arguments.tunInterfaceIp) ∧
        valuesIpv6 pools.freeIpv6 =
          pool
            (counterIpv6 ipv6Network.toNat
              (toUInt32 arguments.tunInterfaceNetworkIpv6Mask))
            (drawn (toUInt32 arguments.tunInterfaceNetworkMask)
              ipv6Network.toNat
              (toUInt32 arguments.tunInterfaceNetworkIpv6Mask))
            (skippedIpv6 text arguments.tunInterfaceIpv6) := by
  obtain ⟨ipv4Range, ipv6Range, less⟩ :=
    (create_exact ipv4Parsed ipv6Parsed).mp exact
  have counted :
      served (toUInt32 arguments.tunInterfaceNetworkMask)
          ipv6Network.toNat
          (toUInt32 arguments.tunInterfaceNetworkIpv6Mask) =
        drawn (toUInt32 arguments.tunInterfaceNetworkMask)
          ipv6Network.toNat
          (toUInt32 arguments.tunInterfaceNetworkIpv6Mask) :=
    if_neg (Nat.ne_of_lt less)
  obtain ⟨pools, created, ipv4, ipv6, -⟩ :=
    @create_pools text undefinedShift arguments ipv4Network ipv6Network
      ipv4Parsed ipv6Parsed ipv4Range ipv6Range
  rw [counted] at ipv4 ipv6
  exact ⟨pools, created, ipv4, ipv6⟩

/-- Without an IPv6 network only the IPv4 arithmetic is carried out. -/
theorem create_exact_unparsed
    (ipv4Parsed :
      text.makeAddressV4 arguments.tunInterfaceNetworkAddress =
        some ipv4Network)
    (ipv6Unparsed :
      text.makeAddressV6 arguments.tunInterfaceNetworkIpv6Address =
        none) :
    (Exact (create text undefinedShift (arguments.config text)) ↔
      1 ≤ toUInt32 arguments.tunInterfaceNetworkMask ∧
        toUInt32 arguments.tunInterfaceNetworkMask ≤ 31) ∧
    value (create text undefinedShift (arguments.config text)) =
      none := by
  have ipv4Found :
      text.makeAddressV4 (arguments.config text).tunIpv4Network.ip =
        some ipv4Network := ipv4Parsed
  have ipv6Missing :
      text.makeAddressV6 (arguments.config text).tunIpv6Network.ip =
        none := ipv6Unparsed
  obtain ⟨ipv4Generator, ipv4Created⟩ :
      ∃ generator,
        value
            (IPv4AddressGenerator.create text undefinedShift
              (arguments.config text).tunIpv4Network
              (arguments.config text).tunNetworkIpv4Mask) =
          some generator := createIPv4_some ipv4Found
  have stopped :
      createIpv6 text (arguments.config text) ipv4Generator =
        pure none := by
    rw [createIpv6, IPv6AddressGenerator.create, ipv6Missing]
    rfl
  constructor
  · rw [create, Exact, every_bind, ipv4Created]
    change
      Exact (IPv4AddressGenerator.create text undefinedShift _ _) ∧
        Exact (createIpv6 text (arguments.config text) ipv4Generator) ↔ _
    rw [stopped, createIPv4_exact ipv4Found, Exact, every_pure, and_true]
    rfl
  · rw [create, value_bind, ipv4Created]
    simp only
    rw [stopped, value_pure]

/-- Soundness of the pools, once both networks are parsed. -/
theorem poolsSound_iff_of_parsed
    (ipv4Parsed :
      text.makeAddressV4 arguments.tunInterfaceNetworkAddress =
        some ipv4Network)
    (ipv6Parsed :
      text.makeAddressV6 arguments.tunInterfaceNetworkIpv6Address =
        some ipv6Network) :
    PoolsSound text undefinedShift arguments ↔
      PoolsFit text arguments := by
  constructor
  · intro sound ipv4Other ipv4Again
    obtain rfl := Option.some.inj (ipv4Parsed.symm.trans ipv4Again)
    obtain ⟨ipv4Range, ipv6Range, less⟩ :=
      (create_exact ipv4Parsed ipv6Parsed).mp sound.arithmetic
    obtain ⟨pools, created, ipv4Values, ipv6Values⟩ :=
      create_value ipv4Parsed ipv6Parsed sound.arithmetic
    refine ⟨ipv4Range, fun ipv6Other ipv6Again => ?_⟩
    obtain rfl := Option.some.inj (ipv6Parsed.symm.trans ipv6Again)
    have ipv4Sound := sound.ipv4 pools ipv4Network created ipv4Parsed
    have ipv6Sound := sound.ipv6 pools ipv6Network created ipv6Parsed
    rw [ipv4Values] at ipv4Sound
    rw [ipv6Values] at ipv6Sound
    exact
      ⟨ipv6Range, less, (pool_ipv4_sound_iff ipv4Range.1).mp ipv4Sound,
        (pool_ipv6_sound_iff ipv6Range.1).mp ipv6Sound⟩
  · intro fit
    obtain ⟨ipv4Range, inner⟩ := fit ipv4Network ipv4Parsed
    obtain ⟨ipv6Range, less, ipv4Fit, ipv6Fit⟩ :=
      inner ipv6Network ipv6Parsed
    have exact :
        Exact (create text undefinedShift (arguments.config text)) :=
      (create_exact ipv4Parsed ipv6Parsed).mpr
        ⟨ipv4Range, ipv6Range, less⟩
    obtain ⟨pools, created, ipv4Values, ipv6Values⟩ :=
      create_value ipv4Parsed ipv6Parsed exact
    constructor
    · exact exact
    · intro other network otherCreated parsed
      obtain rfl := Option.some.inj (created.symm.trans otherCreated)
      obtain rfl := Option.some.inj (ipv4Parsed.symm.trans parsed)
      rw [ipv4Values]
      exact (pool_ipv4_sound_iff ipv4Range.1).mpr ipv4Fit
    · intro other network otherCreated parsed
      obtain rfl := Option.some.inj (created.symm.trans otherCreated)
      obtain rfl := Option.some.inj (ipv6Parsed.symm.trans parsed)
      rw [ipv6Values]
      exact (pool_ipv6_sound_iff ipv6Range.1).mpr ipv6Fit

end Parsed

/-- The pools are sound exactly when the configuration fits. -/
theorem poolsSound_iff_poolsFit
    (text : AddressText) (undefinedShift : Nat → Nat → Nat)
    (arguments : Arguments) :
    PoolsSound text undefinedShift arguments ↔
      PoolsFit text arguments := by
  cases ipv4Parsed :
      text.makeAddressV4 arguments.tunInterfaceNetworkAddress with
  | none =>
      have ipv4Missing :
          text.makeAddressV4 (arguments.config text).tunIpv4Network.ip =
            none := ipv4Parsed
      have stopped :
          create text undefinedShift (arguments.config text) =
            pure none := by
        rw [create, IPv4AddressGenerator.create, ipv4Missing]
        rfl
      constructor
      · intro _ network parsed
        rw [ipv4Parsed] at parsed
        exact absurd parsed (by simp)
      · intro _
        constructor
        · rw [stopped]
          exact (every_pure none).mpr trivial
        · intro pools network created
          rw [stopped] at created
          exact absurd created (by simp)
        · intro pools network created
          rw [stopped] at created
          exact absurd created (by simp)
  | some ipv4Network =>
      cases ipv6Parsed :
          text.makeAddressV6
            arguments.tunInterfaceNetworkIpv6Address with
      | none =>
          obtain ⟨arithmetic, nothing⟩ :=
            create_exact_unparsed ipv4Parsed ipv6Parsed
          constructor
          · intro sound network parsed
            refine ⟨arithmetic.mp sound.arithmetic, ?_⟩
            intro other otherParsed
            rw [ipv6Parsed] at otherParsed
            exact absurd otherParsed (by simp)
          · intro fit
            constructor
            · exact arithmetic.mpr (fit ipv4Network ipv4Parsed).1
            · intro pools network created
              rw [nothing] at created
              exact absurd created (by simp)
            · intro pools network created
              rw [nothing] at created
              exact absurd created (by simp)
      | some ipv6Network =>
          exact poolsSound_iff_of_parsed ipv4Parsed ipv6Parsed

end Pools

/-- A network address in the middle of a subnet of eight addresses. -/
def unaligned : Arguments where
  tunInterfaceIp := "10.0.0.1"
  tunInterfaceNetworkAddress := "10.0.0.5"
  tunInterfaceNetworkMask := 29
  tunInterfaceIpv6 := "fd00:1:2:3:4:5:6:1"
  tunInterfaceNetworkIpv6Address := "fd00:1:2:3:4:5:6:0"
  tunInterfaceNetworkIpv6Mask := 112

/-- The unaligned network's only free address is drawn six times. -/
theorem unaligned_duplicates :
    ¬ ∀ (text : AddressText) (undefinedShift : Nat → Nat → Nat)
        (arguments : Arguments),
      PoolsSound text undefinedShift arguments := by
  intro always
  have ipv4Parsed :
      plainText.makeAddressV4 unaligned.tunInterfaceNetworkAddress =
        some 0x0A000005 := by decide +kernel
  have ipv6Parsed :
      plainText.makeAddressV6 unaligned.tunInterfaceNetworkIpv6Address =
        some 0xFD000001000200030004000500060000 := by decide +kernel
  have ownParsed :
      plainText.makeAddressV4 unaligned.tunInterfaceIp =
        some 0x0A000001 := by decide +kernel
  have fit :=
    (poolsSound_iff_of_parsed ipv4Parsed ipv6Parsed).mp
      (always plainText (fun _ _ => 0) unaligned)
  obtain ⟨_, _, ipv4Fit, _⟩ :=
    (fit _ ipv4Parsed).2 _ ipv6Parsed
  have skipped :
      skippedIpv4 plainText unaligned.tunInterfaceIp = none ∨
        skippedIpv4 plainText unaligned.tunInterfaceIp =
          (plainText.makeAddressV4 unaligned.tunInterfaceIp).map
            BitVec.toNat := skippedIpv4_or _
  rw [ownParsed] at ipv4Fit skipped
  rw [Fits, if_neg (by decide +kernel)] at ipv4Fit
  rcases ipv4Fit with empty | ⟨first, _⟩
  · revert empty
    decide +kernel
  · rcases skipped with nothing | own
    · rw [nothing] at first
      simp at first
    · rw [own] at first
      revert first
      decide +kernel

end Fptn.NatTable.AddressPool
