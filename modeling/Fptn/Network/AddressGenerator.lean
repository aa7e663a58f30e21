import Fptn.Lib.EventLog
import Fptn.Lib.WrapCounter
import Fptn.Network.IPAddress
import Mathlib.Data.Nat.Bitwise

/-!
# Address generators

`IPv4AddressGenerator` and `IPv6AddressGenerator`.  A generator is built from
the text of a network address and a prefix length, and then hands out one
address after the other.  `std::uint32_t` and `uint128_t` values are natural
numbers reduced by hand.  Each unsigned subtraction and each shift records
whether it was exact: a subtraction which does not underflow, a shift by less
than the full width.

A 32-bit shift by 32 or more is undefined in the source language.  Its value
is a parameter, about which nothing is assumed.
-/

namespace Fptn.Network.AddressGenerator

open Fptn.EventLog
open Fptn.WrapCounter
open Fptn.Network.IPAddress

/-! ## Recorded arithmetic -/

/-- Unsigned subtraction. -/
def subtract (width minuend subtrahend : Nat) : Logged Bool Nat := do
  record (decide (subtrahend ≤ minuend))
  return (minuend + 2 ^ width - subtrahend) % 2 ^ width

/-- Left shift; `beyond` is its value for a shift by the width or more. -/
def shiftLeft (width beyond operand count : Nat) : Logged Bool Nat := do
  record (decide (count < width))
  return if count < width then operand <<< count % 2 ^ width else beyond

section Generators

variable (text : AddressText) (undefinedShift : Nat → Nat → Nat)

/-- `operand << count` on `std::uint32_t`. -/
def shiftLeft32 (operand count : Nat) : Logged Bool Nat :=
  shiftLeft 32 (undefinedShift operand count) operand count

/-- `operand << count` on `uint128_t`, which drops what leaves its width. -/
def shiftLeft128 (operand count : Nat) : Logged Bool Nat :=
  shiftLeft 128 0 operand count

/-! ## IPv4 -/

structure IPv4AddressGenerator where
  ip : Nat
  netAddr : Nat
  netmask : Nat
  broadcast : Nat
  numAvailableAddresses : Nat

/-- The constructor's netmask expression. -/
def netmaskIPv4 (subnetMask : Nat) : Logged Bool Nat :=
  if subnetMask = 0 then
    return 0
  else do
    let count ← subtract 32 32 subnetMask
    shiftLeft32 undefinedShift (2 ^ 32 - 1) count

/-- `(1U << (32 - subnet_mask)) - 2`. -/
def availableIPv4 (subnetMask : Nat) : Logged Bool Nat := do
  let count ← subtract 32 32 subnetMask
  let size ← shiftLeft32 undefinedShift 1 count
  subtract 32 size 2

/-- The constructor; `make_address_v4` throws on text it cannot parse. -/
def IPv4AddressGenerator.create
    (netAddress : IPv4Address) (subnetMask : Nat) :
    Logged Bool (Option IPv4AddressGenerator) :=
  match text.makeAddressV4 netAddress.ip with
  | none => return none
  | some address => do
    let ip := address.toNat
    let netmask ← netmaskIPv4 undefinedShift subnetMask
    let networkAddress := ip &&& netmask
    let broadcast := networkAddress ||| (2 ^ 32 - 1 - netmask)
    let available ← availableIPv4 undefinedShift subnetMask
    return some {
      ip := ip
      netAddr := ip
      netmask := netmask
      broadcast := broadcast
      numAvailableAddresses := available }

namespace IPv4AddressGenerator

/-- `new_ip` wraps in `std::uint32_t`. -/
def getNextAddress (generator : IPv4AddressGenerator) :
    IPv4Address × IPv4AddressGenerator :=
  let newIp := (generator.ip + 1) % 2 ^ 32
  let ip :=
    if newIp < generator.broadcast then newIp
    else (generator.netAddr + 1) % 2 ^ 32
  (IPv4Address.ofValue text (BitVec.ofNat 32 ip),
    { generator with ip := ip })

/-- The counter which the generator steps through. -/
def counter (generator : IPv4AddressGenerator) : Counter where
  modulus := 2 ^ 32
  start := generator.netAddr
  last := generator.broadcast

end IPv4AddressGenerator

/-! ## IPv6 -/

structure IPv6AddressGenerator where
  netAddr : Nat
  maxAddr : Nat
  currentAddr : Nat

/-- `(uint128_t(1) << (128 - subnet_mask)) - 1`. -/
def hostBitsIPv6 (subnetMask : Nat) : Logged Bool Nat := do
  let count ← subtract 32 128 subnetMask
  let size ← shiftLeft128 1 count
  subtract 128 size 1

def IPv6AddressGenerator.create
    (netAddress : IPv6Address) (subnetMask : Nat) :
    Logged Bool (Option IPv6AddressGenerator) :=
  match text.makeAddressV6 netAddress.ip with
  | none => return none
  | some address => do
    let netAddr := address.toNat
    let hostBits ← hostBitsIPv6 subnetMask
    return some {
      netAddr := netAddr
      maxAddr := netAddr ||| hostBits
      currentAddr := netAddr }

namespace IPv6AddressGenerator

/-- `max_addr_ - net_addr_ - 1`. -/
def numAvailableAddresses (generator : IPv6AddressGenerator) :
    Logged Bool Nat := do
  let difference ← subtract 128 generator.maxAddr generator.netAddr
  subtract 128 difference 1

def getNextAddress (generator : IPv6AddressGenerator) :
    IPv6Address × IPv6AddressGenerator :=
  let newIp := (generator.currentAddr + 1) % 2 ^ 128
  let current :=
    if newIp < generator.maxAddr then newIp
    else (generator.netAddr + 1) % 2 ^ 128
  (IPv6Address.ofValue text (BitVec.ofNat 128 current),
    { generator with currentAddr := current })

/-- The counter which the generator steps through. -/
def counter (generator : IPv6AddressGenerator) : Counter where
  modulus := 2 ^ 128
  start := generator.netAddr
  last := generator.maxAddr

end IPv6AddressGenerator

end Generators

/-! ## What the arithmetic computes -/

/-- The event log holds exact operations only. -/
abbrev Exact {α : Type} (program : Logged Bool α) : Prop :=
  Every (· = true) program

@[simp]
theorem subtract_exact {width minuend subtrahend : Nat} :
    Exact (subtract width minuend subtrahend) ↔ subtrahend ≤ minuend := by
  simp [Exact, subtract, every_bind]

theorem subtract_value {width minuend subtrahend : Nat}
    (small : minuend < 2 ^ width) (le : subtrahend ≤ minuend) :
    value (subtract width minuend subtrahend) = minuend - subtrahend := by
  have shifted :
      minuend + 2 ^ width - subtrahend =
        minuend - subtrahend + 2 ^ width := by omega
  have reduced : minuend - subtrahend < 2 ^ width := by omega
  simp only [subtract, value_bind, value_pure]
  rw [shifted, Nat.add_mod_right, Nat.mod_eq_of_lt reduced]

/-- Below zero the values start again at the other end. -/
theorem subtract_underflow {width subtrahend : Nat}
    (positive : 0 < subtrahend) (le : subtrahend ≤ 2 ^ width) :
    value (subtract width 0 subtrahend) = 2 ^ width - subtrahend := by
  simp only [subtract, value_bind, value_pure]
  rw [Nat.zero_add, Nat.mod_eq_of_lt (by omega)]

@[simp]
theorem shiftLeft_exact {width beyond operand count : Nat} :
    Exact (shiftLeft width beyond operand count) ↔ count < width := by
  simp [Exact, shiftLeft, every_bind]

theorem shiftLeft_value {width beyond operand count : Nat}
    (inside : count < width) :
    value (shiftLeft width beyond operand count) =
      operand <<< count % 2 ^ width := by
  simp [shiftLeft, inside]

section Masks

variable {undefinedShift : Nat → Nat → Nat} {subnetMask : Nat}

/-- The prefix lengths for which the IPv4 arithmetic is exact. -/
theorem availableIPv4_exact :
    Exact (availableIPv4 undefinedShift subnetMask) ↔
      1 ≤ subnetMask ∧ subnetMask ≤ 31 := by
  simp only [availableIPv4, Exact, every_bind]
  constructor
  · rintro ⟨noUnderflow, inside, twoHosts⟩
    have le := subtract_exact.mp noUnderflow
    rw [subtract_value (by decide) le] at inside twoHosts
    have below := shiftLeft_exact.mp inside
    have hosts := subtract_exact.mp twoHosts
    rw [shiftLeft32, shiftLeft_value below] at hosts
    by_contra outside
    have full : 32 - subnetMask = 0 := by omega
    rw [full] at hosts
    revert hosts
    decide
  · rintro ⟨lower, upper⟩
    have difference :
        value (subtract 32 32 subnetMask) = 32 - subnetMask :=
      subtract_value (by decide) (by omega)
    refine ⟨subtract_exact.mpr (by omega), ?_, ?_⟩
    · rw [difference]
      exact shiftLeft_exact.mpr (by omega)
    · rw [difference, shiftLeft32, shiftLeft_value (by omega)]
      refine subtract_exact.mpr ?_
      rw [Nat.shiftLeft_eq, Nat.one_mul,
        Nat.mod_eq_of_lt (Nat.pow_lt_pow_right (by decide) (by omega))]
      calc
        2 = 2 ^ 1 := rfl
        _ ≤ 2 ^ (32 - subnetMask) :=
          Nat.pow_le_pow_right (by decide) (by omega)

theorem availableIPv4_value (lower : 1 ≤ subnetMask)
    (upper : subnetMask ≤ 31) :
    value (availableIPv4 undefinedShift subnetMask) =
      2 ^ (32 - subnetMask) - 2 := by
  have size : 2 ^ (32 - subnetMask) < 2 ^ 32 :=
    Nat.pow_lt_pow_right (by decide) (by omega)
  have atLeastTwo : 2 ≤ 2 ^ (32 - subnetMask) :=
    Nat.pow_le_pow_right (by decide : 0 < 2)
      (by omega : 1 ≤ 32 - subnetMask)
  have difference :
      value (subtract 32 32 subnetMask) = 32 - subnetMask :=
    subtract_value (by decide) (by omega)
  have inside : 32 - subnetMask < 32 := by omega
  simp only [availableIPv4, value_bind]
  rw [difference, shiftLeft32, shiftLeft_value inside,
    Nat.shiftLeft_eq, Nat.one_mul, Nat.mod_eq_of_lt size,
    subtract_value size atLeastTwo]

theorem netmaskIPv4_exact (lower : 1 ≤ subnetMask)
    (upper : subnetMask ≤ 32) :
    Exact (netmaskIPv4 undefinedShift subnetMask) := by
  rw [netmaskIPv4, if_neg (by omega), Exact, every_bind,
    subtract_value (by decide) upper]
  exact ⟨subtract_exact.mpr upper, shiftLeft_exact.mpr (by omega)⟩

/-- The netmask keeps the bits above the host part. -/
theorem netmaskIPv4_value (lower : 1 ≤ subnetMask)
    (upper : subnetMask ≤ 32) :
    value (netmaskIPv4 undefinedShift subnetMask) =
      (2 ^ 32 - 1) <<< (32 - subnetMask) % 2 ^ 32 := by
  rw [netmaskIPv4, if_neg (by omega), value_bind,
    subtract_value (by decide) upper]
  exact shiftLeft_value (by omega)

/-- The prefix lengths for which the IPv6 arithmetic is exact. -/
theorem hostBitsIPv6_exact :
    Exact (hostBitsIPv6 subnetMask) ↔
      1 ≤ subnetMask ∧ subnetMask ≤ 128 := by
  simp only [hostBitsIPv6, Exact, every_bind]
  constructor
  · rintro ⟨noUnderflow, inside, _⟩
    have le := subtract_exact.mp noUnderflow
    rw [subtract_value (by decide) le] at inside
    have below := shiftLeft_exact.mp inside
    omega
  · rintro ⟨lower, upper⟩
    have difference :
        value (subtract 32 128 subnetMask) = 128 - subnetMask :=
      subtract_value (by decide) upper
    refine ⟨subtract_exact.mpr upper, ?_, ?_⟩
    · rw [difference]
      exact shiftLeft_exact.mpr (by omega)
    · rw [difference, shiftLeft128, shiftLeft_value (by omega)]
      refine subtract_exact.mpr ?_
      rw [Nat.shiftLeft_eq, Nat.one_mul,
        Nat.mod_eq_of_lt (Nat.pow_lt_pow_right (by decide) (by omega))]
      exact Nat.one_le_two_pow

theorem hostBitsIPv6_value (lower : 1 ≤ subnetMask)
    (upper : subnetMask ≤ 128) :
    value (hostBitsIPv6 subnetMask) = 2 ^ (128 - subnetMask) - 1 := by
  have size : 2 ^ (128 - subnetMask) < 2 ^ 128 :=
    Nat.pow_lt_pow_right (by decide) (by omega)
  simp only [hostBitsIPv6, value_bind]
  rw [subtract_value (by decide) upper, shiftLeft128,
    shiftLeft_value (by omega), Nat.shiftLeft_eq, Nat.one_mul,
    Nat.mod_eq_of_lt size, subtract_value size Nat.one_le_two_pow]

end Masks

/-! ## Subnets -/

/-- The first address of the subnet with the given number of host bits. -/
def subnetNetwork (address hostBits : Nat) : Nat :=
  address - address % 2 ^ hostBits

/-- The last address of the subnet. -/
def subnetLast (address hostBits : Nat) : Nat :=
  subnetNetwork address hostBits + (2 ^ hostBits - 1)

theorem subnetNetwork_le (address hostBits : Nat) :
    subnetNetwork address hostBits ≤ address :=
  Nat.sub_le _ _

theorem le_subnetLast (address hostBits : Nat) :
    address ≤ subnetLast address hostBits := by
  have rest := Nat.mod_lt address (Nat.two_pow_pos hostBits)
  have le := Nat.mod_le address (2 ^ hostBits)
  unfold subnetLast subnetNetwork
  omega

theorem subnetNetwork_eq_mul (address hostBits : Nat) :
    subnetNetwork address hostBits =
      2 ^ hostBits * (address / 2 ^ hostBits) := by
  have split := Nat.div_add_mod address (2 ^ hostBits)
  unfold subnetNetwork
  omega

/-- A subnet of a width's address space does not leave that space. -/
theorem subnetLast_lt {address hostBits width : Nat}
    (small : address < 2 ^ width) (le : hostBits ≤ width) :
    subnetLast address hostBits < 2 ^ width := by
  obtain ⟨rest, rfl⟩ := Nat.exists_eq_add_of_le le
  have positive := Nat.two_pow_pos hostBits
  have quotient : address / 2 ^ hostBits < 2 ^ rest :=
    Nat.div_lt_of_lt_mul (by rwa [← Nat.pow_add])
  have scaled :
      2 ^ hostBits * (address / 2 ^ hostBits + 1) ≤
        2 ^ hostBits * 2 ^ rest :=
    Nat.mul_le_mul_left _ quotient
  rw [subnetLast, subnetNetwork_eq_mul, Nat.pow_add]
  rw [Nat.mul_add, Nat.mul_one] at scaled
  omega

/-- Every subnet with more than one address ends in an odd one. -/
theorem subnetLast_odd {address hostBits : Nat} (positive : 0 < hostBits) :
    subnetLast address hostBits % 2 = 1 := by
  obtain ⟨rest, rfl⟩ := Nat.exists_eq_add_of_le' positive
  have size := Nat.two_pow_pos rest
  have even : 2 ^ (rest + 1) = 2 * 2 ^ rest := Nat.pow_succ'
  rw [subnetLast, subnetNetwork_eq_mul, even, Nat.mul_assoc]
  omega

/-- The addresses of a subnet agree in what is above the host part. -/
theorem mem_subnet_iff {address other hostBits : Nat} :
    subnetNetwork address hostBits ≤ other ∧
        other ≤ subnetLast address hostBits ↔
      other / 2 ^ hostBits = address / 2 ^ hostBits := by
  have positive := Nat.two_pow_pos hostBits
  rw [subnetLast, subnetNetwork_eq_mul,
    Nat.div_eq_iff positive, Nat.mul_comm]
  omega

/-- Setting all host bits gives the last address. -/
theorem or_hostBits (address hostBits : Nat) :
    address ||| (2 ^ hostBits - 1) = subnetLast address hostBits := by
  have positive := Nat.two_pow_pos hostBits
  have low : address % 2 ^ hostBits < 2 ^ hostBits :=
    Nat.mod_lt _ positive
  have filled :
      address % 2 ^ hostBits ||| (2 ^ hostBits - 1) =
        2 ^ hostBits - 1 := by
    apply Nat.eq_of_testBit_eq
    intro bit
    rw [Nat.testBit_or, Nat.testBit_two_pow_sub_one,
      Nat.testBit_mod_two_pow]
    by_cases inside : bit < hostBits <;> simp [inside]
  calc
    address ||| (2 ^ hostBits - 1) =
        2 ^ hostBits * (address / 2 ^ hostBits) |||
          address % 2 ^ hostBits ||| (2 ^ hostBits - 1) := by
      rw [← Nat.two_pow_add_eq_or_of_lt low, Nat.div_add_mod]
    _ = 2 ^ hostBits * (address / 2 ^ hostBits) |||
          (2 ^ hostBits - 1) := by
      rw [Nat.or_assoc, filled]
    _ = subnetLast address hostBits := by
      rw [← Nat.two_pow_add_eq_or_of_lt (by omega), subnetLast,
        subnetNetwork_eq_mul]

/-- The netmask's complement is the host part. -/
theorem netmask_complement {hostBits : Nat} (le : hostBits ≤ 32) :
    2 ^ 32 - 1 - (2 ^ 32 - 1) <<< hostBits % 2 ^ 32 =
      2 ^ hostBits - 1 := by
  have positive := Nat.two_pow_pos hostBits
  have bounded : 2 ^ hostBits ≤ 2 ^ 32 :=
    Nat.pow_le_pow_right (by decide) le
  have split :
      (2 ^ 32 - 1) * 2 ^ hostBits =
        2 ^ 32 - 2 ^ hostBits + 2 ^ 32 * (2 ^ hostBits - 1) := by
    rw [Nat.sub_mul, Nat.mul_sub, Nat.one_mul, Nat.mul_one]
    omega
  rw [Nat.shiftLeft_eq, split, Nat.add_mul_mod_self_left,
    Nat.mod_eq_of_lt (by omega)]
  omega

/-- Clearing the host bits before setting them changes nothing. -/
theorem broadcast_eq {address hostBits : Nat}
    (small : address < 2 ^ 32) (le : hostBits ≤ 32) :
    (address &&& (2 ^ 32 - 1) <<< hostBits % 2 ^ 32) |||
        (2 ^ 32 - 1 - (2 ^ 32 - 1) <<< hostBits % 2 ^ 32) =
      subnetLast address hostBits := by
  rw [netmask_complement le, ← or_hostBits]
  apply Nat.eq_of_testBit_eq
  intro bit
  simp only [Nat.testBit_or, Nat.testBit_and, Nat.testBit_mod_two_pow,
    Nat.testBit_shiftLeft, Nat.testBit_two_pow_sub_one]
  by_cases host : bit < hostBits
  · simp [host]
  · by_cases inside : bit < 32
    · have above : hostBits ≤ bit := by omega
      have covered : bit - hostBits < 32 := by omega
      simp [inside, above, covered]
    · have clear : address.testBit bit = false :=
        Nat.testBit_lt_two_pow
          (small.trans_le (Nat.pow_le_pow_right (by decide) (by omega)))
      simp [clear]

/-! ## Constructed generators -/

section Constructed

variable {text : AddressText} {undefinedShift : Nat → Nat → Nat}
variable {subnetMask : Nat}

theorem createIPv4_exact {netAddress : IPv4Address} {address : BitVec 32}
    (parsed : text.makeAddressV4 netAddress.ip = some address) :
    Exact
        (IPv4AddressGenerator.create text undefinedShift netAddress
          subnetMask) ↔
      1 ≤ subnetMask ∧ subnetMask ≤ 31 := by
  unfold IPv4AddressGenerator.create
  simp only [parsed, Exact, every_bind, every_pure, and_true]
  constructor
  · intro exact
    exact availableIPv4_exact.mp exact.2
  · intro range
    exact
      ⟨netmaskIPv4_exact range.1 (by omega),
        availableIPv4_exact.mpr range⟩

theorem createIPv4_value {netAddress : IPv4Address} {address : BitVec 32}
    (parsed : text.makeAddressV4 netAddress.ip = some address)
    (lower : 1 ≤ subnetMask) (upper : subnetMask ≤ 31) :
    value
        (IPv4AddressGenerator.create text undefinedShift netAddress
          subnetMask) =
      some {
        ip := address.toNat
        netAddr := address.toNat
        netmask := (2 ^ 32 - 1) <<< (32 - subnetMask) % 2 ^ 32
        broadcast := subnetLast address.toNat (32 - subnetMask)
        numAvailableAddresses := 2 ^ (32 - subnetMask) - 2 } := by
  have broadcast :=
    broadcast_eq address.isLt (Nat.sub_le 32 subnetMask)
  have netmask :
      value (netmaskIPv4 undefinedShift subnetMask) =
        (2 ^ 32 - 1) <<< (32 - subnetMask) % 2 ^ 32 :=
    netmaskIPv4_value lower (by omega)
  rw [IPv4AddressGenerator.create, parsed, value_bind, value_bind,
    netmask, availableIPv4_value lower upper, value_pure, broadcast]

theorem createIPv4_some {netAddress : IPv4Address} {address : BitVec 32}
    (parsed : text.makeAddressV4 netAddress.ip = some address) :
    ∃ generator,
      value
          (IPv4AddressGenerator.create text undefinedShift netAddress
            subnetMask) = some generator := by
  rw [IPv4AddressGenerator.create, parsed]
  exact ⟨_, rfl⟩

theorem createIPv6_exact {netAddress : IPv6Address}
    {address : BitVec 128}
    (parsed : text.makeAddressV6 netAddress.ip = some address) :
    Exact (IPv6AddressGenerator.create text netAddress subnetMask) ↔
      1 ≤ subnetMask ∧ subnetMask ≤ 128 := by
  unfold IPv6AddressGenerator.create
  simp only [parsed, Exact, every_bind, every_pure, and_true]
  exact hostBitsIPv6_exact

theorem createIPv6_value {netAddress : IPv6Address}
    {address : BitVec 128}
    (parsed : text.makeAddressV6 netAddress.ip = some address)
    (lower : 1 ≤ subnetMask) (upper : subnetMask ≤ 128) :
    value (IPv6AddressGenerator.create text netAddress subnetMask) =
      some {
        netAddr := address.toNat
        maxAddr := subnetLast address.toNat (128 - subnetMask)
        currentAddr := address.toNat } := by
  rw [IPv6AddressGenerator.create, parsed, value_bind,
    hostBitsIPv6_value lower upper, value_pure, or_hostBits]

theorem createIPv6_some {netAddress : IPv6Address}
    {address : BitVec 128}
    (parsed : text.makeAddressV6 netAddress.ip = some address) :
    ∃ generator,
      value (IPv6AddressGenerator.create text netAddress subnetMask) =
        some generator := by
  rw [IPv6AddressGenerator.create, parsed]
  exact ⟨_, rfl⟩

end Constructed

section Available

variable {generator : IPv6AddressGenerator}

theorem availableIPv6_exact (small : generator.maxAddr < 2 ^ 128) :
    Exact generator.numAvailableAddresses ↔
      generator.netAddr < generator.maxAddr := by
  rw [IPv6AddressGenerator.numAvailableAddresses, Exact, every_bind]
  constructor
  · rintro ⟨ordered, positive⟩
    have le := subtract_exact.mp ordered
    rw [subtract_value small le] at positive
    have one := subtract_exact.mp positive
    omega
  · intro less
    refine ⟨subtract_exact.mpr (by omega), ?_⟩
    rw [subtract_value small (by omega)]
    exact subtract_exact.mpr (by omega)

theorem availableIPv6_value (small : generator.maxAddr < 2 ^ 128)
    (less : generator.netAddr < generator.maxAddr) :
    value generator.numAvailableAddresses =
      generator.maxAddr - generator.netAddr - 1 := by
  have difference :
      value (subtract 128 generator.maxAddr generator.netAddr) =
        generator.maxAddr - generator.netAddr :=
    subtract_value small (by omega)
  have reduced :
      generator.maxAddr - generator.netAddr < 2 ^ 128 :=
    Nat.lt_of_le_of_lt (Nat.sub_le _ _) small
  rw [IPv6AddressGenerator.numAvailableAddresses, value_bind, difference,
    subtract_value reduced (by omega)]

/-- A network at the end of its subnet announces almost every address. -/
theorem availableIPv6_of_full (small : generator.maxAddr < 2 ^ 128)
    (full : generator.netAddr = generator.maxAddr) :
    value generator.numAvailableAddresses = 2 ^ 128 - 1 := by
  have nothing :
      value (subtract 128 generator.maxAddr generator.netAddr) = 0 := by
    rw [full, subtract_value small (Nat.le_refl _), Nat.sub_self]
  rw [IPv6AddressGenerator.numAvailableAddresses, value_bind, nothing]
  exact subtract_underflow Nat.one_pos Nat.one_le_two_pow

end Available

end Fptn.Network.AddressGenerator
