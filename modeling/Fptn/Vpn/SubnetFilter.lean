import Fptn.Vpn.ClientIsolation

/-!
# The subnet which AntiScan filters

`AntiScan` is to drop what goes to the virtual network, except to the server.
For IPv4 it compares what a mask leaves of both addresses.  For IPv6 it
compares the destination with the network address itself and with the last
address of the subnet, so that it lets pass what is in front of a network
address which is not the first one of its subnet.

The mask of the IPv4 prefix length 0 is made by a shift which is undefined.
-/

namespace Fptn.Vpn.SubnetFilter

open Fptn.NatTable.AddressPool
open Fptn.Network.AddressGenerator
open Fptn.Network.IPAddress
open Fptn.Network.Packet
open Fptn.Vpn.ClientIsolation
open Fptn.Vpn.Filter

/-! ## Prefixes -/

/-- Two addresses have the same first bits. -/
def SharesPrefix {width : Nat} (length : Nat)
    (left right : BitVec width) : Prop :=
  ∀ bit < length, left.getMsbD bit = right.getMsbD bit

/-- What addresses share is what is above the host part. -/
theorem sharesPrefix_iff {width length : Nat} (le : length ≤ width)
    {left right : BitVec width} :
    SharesPrefix length left right ↔
      left.toNat / 2 ^ (width - length) =
        right.toNat / 2 ^ (width - length) := by
  constructor
  · intro same
    apply Nat.eq_of_testBit_eq
    intro bit
    rw [Nat.testBit_div_two_pow, Nat.testBit_div_two_pow,
      BitVec.testBit_toNat, BitVec.testBit_toNat]
    by_cases inside : bit + (width - length) < width
    · have there := same (length - 1 - bit) (by omega)
      have back :
          width - 1 - (length - 1 - bit) = bit + (width - length) := by
        omega
      rw [BitVec.getMsbD_eq_getLsbD, BitVec.getMsbD_eq_getLsbD, back,
        decide_eq_true (by omega), Bool.true_and, Bool.true_and] at there
      exact there
    · rw [BitVec.getLsbD_of_ge _ _ (Nat.not_lt.mp inside),
        BitVec.getLsbD_of_ge _ _ (Nat.not_lt.mp inside)]
  · intro same bit inside
    have there :=
      congrArg (fun number => number.testBit (length - 1 - bit)) same
    have back :
        length - 1 - bit + (width - length) = width - 1 - bit := by
      omega
    simp only [Nat.testBit_div_two_pow, BitVec.testBit_toNat, back]
      at there
    rw [BitVec.getMsbD_eq_getLsbD, BitVec.getMsbD_eq_getLsbD, there]

/-- Two values cannot take three different ones. -/
theorem one_of_three {α : Type} {a b c : α} (ab : a ≠ b) (ac : a ≠ c)
    (bc : b ≠ c) (first second : α) :
    (a ≠ first ∧ a ≠ second) ∨ (b ≠ first ∧ b ≠ second) ∨
      (c ≠ first ∧ c ≠ second) := by
  by_cases aTaken : a ≠ first ∧ a ≠ second
  · exact Or.inl aTaken
  · by_cases bTaken : b ≠ first ∧ b ≠ second
    · exact Or.inr (Or.inl bTaken)
    · refine Or.inr (Or.inr ⟨?_, ?_⟩)
      · rintro rfl
        exact bTaken ⟨bc, fun same => aTaken ⟨ac, same ▸ ab⟩⟩
      · rintro rfl
        exact bTaken ⟨fun same => aTaken ⟨same ▸ ab, ac⟩, bc⟩

/-- Some number has a given bit and is neither of two others. -/
theorem exists_getLsbD {width position : Nat} (several : 3 ≤ width)
    (inside : position < width) (bit : Bool) (first second : BitVec width) :
    ∃ value : BitVec width,
      value.getLsbD position = bit ∧ value ≠ first ∧ value ≠ second := by
  -- three numbers, which differ in two other bits
  obtain ⟨left, right, leftInside, rightInside, leftOther, rightOther,
      different⟩ :
      ∃ left right, left < width ∧ right < width ∧ left ≠ position ∧
        right ≠ position ∧ left ≠ right := by
    rcases position with _ | _ | position
    · exact ⟨1, 2, by omega, by omega, by omega, by omega, by omega⟩
    · exact ⟨0, 2, by omega, by omega, by omega, by omega, by omega⟩
    · exact ⟨0, 1, by omega, by omega, by omega, by omega, by omega⟩
  let base := if bit then BitVec.twoPow width position else BitVec.ofNat width 0
  have baseBit (index : Nat) :
      base.getLsbD index = (bit && decide (position = index)) := by
    cases bit
    · exact BitVec.getLsbD_zero
    · show (BitVec.twoPow width position).getLsbD index = _
      rw [BitVec.getLsbD_twoPow, decide_eq_true inside]
  have withBit (other index : Nat) (small : other < width) :
      (base ||| BitVec.twoPow width other).getLsbD index =
        (base.getLsbD index || decide (other = index)) := by
    rw [BitVec.getLsbD_or, BitVec.getLsbD_twoPow, decide_eq_true small,
      Bool.true_and]
  have baseLeft : base ≠ base ||| BitVec.twoPow width left := by
    intro same
    have there := congrArg (fun value => value.getLsbD left) same
    simp [withBit left left leftInside, baseBit, leftOther.symm] at there
  have baseRight : base ≠ base ||| BitVec.twoPow width right := by
    intro same
    have there := congrArg (fun value => value.getLsbD right) same
    simp [withBit right right rightInside, baseBit, rightOther.symm]
      at there
  have leftRight :
      base ||| BitVec.twoPow width left ≠
        base ||| BitVec.twoPow width right := by
    intro same
    have there := congrArg (fun value => value.getLsbD left) same
    simp [withBit left left leftInside, withBit right left rightInside,
      baseBit, leftOther.symm, different.symm] at there
  rcases one_of_three baseLeft baseRight leftRight first second with
    apart | apart | apart
  · refine ⟨base, ?_, apart⟩
    rw [baseBit, decide_eq_true rfl, Bool.and_true]
  · refine ⟨base ||| BitVec.twoPow width left, ?_, apart⟩
    rw [withBit left _ leftInside, baseBit, decide_eq_true rfl,
      decide_eq_false leftOther, Bool.and_true, Bool.or_false]
  · refine ⟨base ||| BitVec.twoPow width right, ?_, apart⟩
    rw [withBit right _ rightInside, baseBit, decide_eq_true rfl,
      decide_eq_false rightOther, Bool.and_true, Bool.or_false]

/-- A mask which compares anything tells two networks apart. -/
theorem exists_outside {mask : BitVec 32} (some_ : mask ≠ 0)
    (net first second : BitVec 32) :
    ∃ value : BitVec 32,
      value &&& mask ≠ net &&& mask ∧ value ≠ first ∧ value ≠ second := by
  obtain ⟨position, set⟩ : ∃ position, mask.getLsbD position = true := by
    by_contra none_
    push Not at none_
    apply some_
    apply BitVec.eq_of_getLsbD_eq
    intro position _
    rw [Bool.eq_false_iff.mpr (none_ position)]
    exact BitVec.getLsbD_zero.symm
  have inside : position < 32 := BitVec.lt_of_getLsbD set
  obtain ⟨value, bit, different⟩ :=
    exists_getLsbD (by decide) inside (!net.getLsbD position) first second
  refine ⟨value, fun same => ?_, different⟩
  have there := congrArg (fun value => value.getLsbD position) same
  simp [BitVec.getLsbD_and, set, bit] at there

/-! ## What is to be dropped -/

section Filters

variable (text : AddressText) (undefinedMask : Int → BitVec 32)
variable (arguments : Arguments)

/-- The filter drops exactly the packets to the subnet of the virtual network
which are not for the server, and those to all hosts. -/
structure Drops (server net : BitVec 128) (filter : AntiScan)
    (packet : IPPacket) : Prop where
  ipv4 :
    version packet.data.memory = 4 →
      (filter.apply packet = none ↔
        getDstIPv4Address packet ≠
            (arguments.config text).tunIpv4.toInt ∧
          (getDstIPv4Address packet = 0xFFFFFFFF ∨
            SharesPrefix arguments.tunInterfaceNetworkMask.toNat
              (getDstIPv4Address packet)
              (arguments.config text).tunIpv4Network.toInt))
  ipv6 :
    version packet.data.memory = 6 →
      (filter.apply packet = none ↔
        getDstIPv6Address packet ≠ server ∧
          SharesPrefix arguments.tunInterfaceNetworkIpv6Mask.toNat
            (getDstIPv6Address packet) net)

/-- The server can make its filter, and it drops the right packets. -/
def DropsSubnet (server net : BitVec 128) : Prop :=
  ∃ filter,
    antiScan text undefinedMask (arguments.config text) = some filter ∧
      ∀ packet, Accepted packet.data →
        Drops text arguments server net filter packet

/-- The IPv4 mask is made by a defined shift, or is zero nevertheless. -/
def MaskDefined : Prop :=
  1 ≤ arguments.tunInterfaceNetworkMask ∨ undefinedMask 32 = 0

/-- The IPv6 network address is the first of its subnet, or the one behind
the server's address. -/
def NetworkFirst (server net : BitVec 128) : Prop :=
  net.toNat =
      subnetNetwork net.toNat
        (128 - arguments.tunInterfaceNetworkIpv6Mask.toNat) ∨
    net.toNat =
        subnetNetwork net.toNat
          (128 - arguments.tunInterfaceNetworkIpv6Mask.toNat) + 1 ∧
      server.toNat =
        subnetNetwork net.toNat
          (128 - arguments.tunInterfaceNetworkIpv6Mask.toNat)

variable {text} {undefinedMask} {arguments}

theorem toInt32_toUInt32 {mask : Int} (lower : 0 ≤ mask)
    (upper : mask ≤ 128) : toInt32 (toUInt32 mask) = mask := by
  have value : toUInt32 mask = mask.toNat := by
    rw [toUInt32, Int.emod_eq_of_lt lower (by omega)]
  rw [value, toInt32, if_pos (by omega)]
  omega

theorem toNat_hostMask_le {hostBits : Nat} (le : hostBits ≤ 128) :
    ((1 : BitVec 128) <<< hostBits - 1).toNat = 2 ^ hostBits - 1 := by
  rcases Nat.lt_or_eq_of_le le with less | rfl
  · exact toNat_hostMask less
  · decide +kernel

/-- The filter of a configuration. -/
theorem exists_antiScan {server net : BitVec 128}
    (serverParsed :
      text.makeAddressV6 arguments.tunInterfaceIpv6 = some server)
    (netParsed :
      text.makeAddressV6 arguments.tunInterfaceNetworkIpv6Address =
        some net)
    (ipv4Range :
      0 ≤ arguments.tunInterfaceNetworkMask ∧
        arguments.tunInterfaceNetworkMask ≤ 32)
    (ipv6Range :
      0 ≤ arguments.tunInterfaceNetworkIpv6Mask ∧
        arguments.tunInterfaceNetworkIpv6Mask ≤ 128) :
    ∃ filter,
      antiScan text undefinedMask (arguments.config text) = some filter ∧
      filter.serverIpv4 = (arguments.config text).tunIpv4.toInt ∧
      filter.serverIpv4Net = (arguments.config text).tunIpv4Network.toInt ∧
      filter.serverIpv4Mask =
        AntiScan.shiftedOnes undefinedMask
          (32 - arguments.tunInterfaceNetworkMask) ∧
      filter.serverIpv6 = server ∧ filter.serverIpv6Net = net ∧
      filter.serverIpv6Mask =
        (1 : BitVec 128) <<<
          (128 - arguments.tunInterfaceNetworkIpv6Mask.toNat) - 1 := by
  have server' :
      text.makeAddressV6 (arguments.config text).tunIpv6.ip =
        some server := serverParsed
  have net' :
      text.makeAddressV6 (arguments.config text).tunIpv6Network.ip =
        some net := netParsed
  have ipv4Mask :
      toInt32 (arguments.config text).tunNetworkIpv4Mask =
        arguments.tunInterfaceNetworkMask :=
    toInt32_toUInt32 ipv4Range.1 (by omega)
  have ipv6Mask :
      toInt32 (arguments.config text).tunNetworkIpv6Mask =
        arguments.tunInterfaceNetworkIpv6Mask :=
    toInt32_toUInt32 ipv6Range.1 ipv6Range.2
  have count :
      (128 - arguments.tunInterfaceNetworkIpv6Mask).toNat =
        128 - arguments.tunInterfaceNetworkIpv6Mask.toNat := by
    omega
  rw [antiScan, AntiScan.create, server', net', ipv4Mask, ipv6Mask]
  simp only
  rw [if_neg (by omega), count]
  exact ⟨_, rfl, rfl, rfl, rfl, rfl, rfl, rfl⟩

end Filters

/-! ## The two families -/

variable {filter : AntiScan}

theorem and_shiftedOnes_iff {undefinedMask : Int → BitVec 32}
    {length : Nat} (positive : 1 ≤ length) (le : length ≤ 32)
    (left right : BitVec 32) :
    left &&& AntiScan.shiftedOnes undefinedMask (32 - length) =
        right &&& AntiScan.shiftedOnes undefinedMask (32 - length) ↔
      SharesPrefix length left right := by
  have count : (32 - (length : Int)).toNat = 32 - length := by omega
  rw [AntiScan.shiftedOnes, if_pos (by omega), count, and_netmask_eq_iff,
    sharesPrefix_iff le]

theorem drops_ipv4_iff {undefinedMask : Int → BitVec 32} {length : Nat}
    (le : length ≤ 32)
    (mask :
      filter.serverIpv4Mask =
        AntiScan.shiftedOnes undefinedMask (32 - length)) :
    (∀ packet : IPPacket, Accepted packet.data →
      version packet.data.memory = 4 →
        (filter.apply packet = none ↔
          getDstIPv4Address packet ≠ filter.serverIpv4 ∧
            (getDstIPv4Address packet = 0xFFFFFFFF ∨
              SharesPrefix length (getDstIPv4Address packet)
                filter.serverIpv4Net))) ↔
      1 ≤ length ∨ undefinedMask 32 = 0 := by
  rcases Nat.eq_zero_or_pos length with rfl | positive
  · have undefined_ : filter.serverIpv4Mask = undefinedMask 32 := mask
    have all (left right : BitVec 32) : SharesPrefix 0 left right :=
      fun _ outside => absurd outside (Nat.not_lt_zero _)
    constructor
    · intro drops
      refine Or.inr (by_contra fun some_ => ?_)
      obtain ⟨destination, outside, foreign, unicast⟩ :=
        exists_outside some_ filter.serverIpv4Net filter.serverIpv4
          kIpv4BroadcastInt
      obtain ⟨packet, accepted, v4, goes⟩ :=
        exists_packet_ipv4 destination
      have dropped :=
        (drops packet accepted v4).mpr
          ⟨goes ▸ foreign, Or.inr (all _ _)⟩
      rw [apply_ipv4_iff accepted v4, goes, undefined_] at dropped
      rcases dropped.2 with inside | broadcast
      · exact outside inside
      · exact unicast broadcast.symm
    · rintro (positive | zero) packet accepted v4
      · cases positive
      · rw [apply_ipv4_iff accepted v4, undefined_, zero]
        constructor
        · exact fun dropped => ⟨dropped.1.symm, Or.inr (all _ _)⟩
        · exact fun dropped => ⟨dropped.1.symm, Or.inl (by simp)⟩
  · refine iff_of_true ?_ (Or.inl positive)
    intro packet accepted v4
    rw [apply_ipv4_iff accepted v4, mask, and_shiftedOnes_iff positive le,
      ne_comm, or_comm, eq_comm]
    rfl

/-- Nothing but the server lies in front of the network address exactly if
this is the first address, or the second one behind the server. -/
theorem onlyServer_iff {first net server : Nat} (le : first ≤ net) :
    (∀ number, first ≤ number → number < net → server = number) ↔
      net = first ∨ net = first + 1 ∧ server = first := by
  constructor
  · intro only
    rcases Nat.lt_or_ge first net with behind | same
    · have own := only first (Nat.le_refl _) behind
      refine Or.inr ⟨?_, own⟩
      by_contra farther
      have next := only (first + 1) (Nat.le_succ _) (by omega)
      omega
    · exact Or.inl (Nat.le_antisymm same le)
  · intro condition number lower upper
    omega

theorem drops_ipv6_iff {length : Nat} (le : length ≤ 128)
    (mask :
      filter.serverIpv6Mask = (1 : BitVec 128) <<< (128 - length) - 1) :
    (∀ packet : IPPacket, Accepted packet.data →
      version packet.data.memory = 6 →
        (filter.apply packet = none ↔
          getDstIPv6Address packet ≠ filter.serverIpv6 ∧
            SharesPrefix length (getDstIPv6Address packet)
              filter.serverIpv6Net)) ↔
      filter.serverIpv6Net.toNat =
          subnetNetwork filter.serverIpv6Net.toNat (128 - length) ∨
        filter.serverIpv6Net.toNat =
            subnetNetwork filter.serverIpv6Net.toNat (128 - length) + 1 ∧
          filter.serverIpv6.toNat =
            subnetNetwork filter.serverIpv6Net.toNat (128 - length) := by
  have last :
      (filter.serverIpv6Net ||| filter.serverIpv6Mask).toNat =
        subnetLast filter.serverIpv6Net.toNat (128 - length) := by
    rw [mask, BitVec.toNat_or, toNat_hostMask_le (by omega), or_hostBits]
  have networkLe :=
    subnetNetwork_le filter.serverIpv6Net.toNat (128 - length)
  have netLe := le_subnetLast filter.serverIpv6Net.toNat (128 - length)
  have small := filter.serverIpv6Net.isLt
  have exact_ (packet : IPPacket) (accepted : Accepted packet.data)
      (v6 : version packet.data.memory = 6) :
      (filter.apply packet = none ↔
          filter.serverIpv6 ≠ getDstIPv6Address packet ∧
            filter.serverIpv6Net.toNat ≤
                (getDstIPv6Address packet).toNat ∧
              (getDstIPv6Address packet).toNat ≤
                subnetLast filter.serverIpv6Net.toNat (128 - length)) := by
    rw [apply_ipv6_iff accepted v6, BitVec.le_def, BitVec.le_def, last]
  have shares (destination : BitVec 128) :
      SharesPrefix length destination filter.serverIpv6Net ↔
        subnetNetwork filter.serverIpv6Net.toNat (128 - length) ≤
            destination.toNat ∧
          destination.toNat ≤
            subnetLast filter.serverIpv6Net.toNat (128 - length) := by
    rw [sharesPrefix_iff le, mem_subnet_iff]
  rw [← onlyServer_iff networkLe]
  constructor
  · intro drops number lower upper
    by_contra foreign
    have value : (BitVec.ofNat 128 number).toNat = number :=
      Nat.mod_eq_of_lt (upper.trans small)
    obtain ⟨packet, accepted, v6, goes⟩ :=
      exists_packet_ipv6 (BitVec.ofNat 128 number)
    have different : BitVec.ofNat 128 number ≠ filter.serverIpv6 := by
      intro same
      exact foreign (by rw [← same, value])
    have dropped :=
      (drops packet accepted v6).mpr
        ⟨goes ▸ different, (shares _).mpr (by rw [goes, value]; omega)⟩
    rw [exact_ packet accepted v6, goes, value] at dropped
    omega
  · intro only packet accepted v6
    have inFront := only (getDstIPv6Address packet).toNat
    have number :
        filter.serverIpv6 = getDstIPv6Address packet ↔
          filter.serverIpv6.toNat = (getDstIPv6Address packet).toNat :=
      BitVec.toNat_inj.symm
    rw [exact_ packet accepted v6, shares, ne_comm, ne_eq, eq_comm, number]
    omega

/-! ## The filter of the server -/

/-- The filter drops exactly the packets to the subnet, for each
configuration, if its IPv4 mask is defined and its IPv6 network address is the
first one of the subnet, apart from the server's. -/
theorem dropsSubnet_iff (text : AddressText)
    (undefinedMask : Int → BitVec 32) (arguments : Arguments)
    (server net : BitVec 128)
    (serverParsed :
      text.makeAddressV6 arguments.tunInterfaceIpv6 = some server)
    (netParsed :
      text.makeAddressV6 arguments.tunInterfaceNetworkIpv6Address =
        some net)
    (ipv4Range :
      0 ≤ arguments.tunInterfaceNetworkMask ∧
        arguments.tunInterfaceNetworkMask ≤ 32)
    (ipv6Range :
      0 ≤ arguments.tunInterfaceNetworkIpv6Mask ∧
        arguments.tunInterfaceNetworkIpv6Mask ≤ 128) :
    DropsSubnet text undefinedMask arguments server net ↔
      MaskDefined undefinedMask arguments ∧
        NetworkFirst arguments server net := by
  obtain ⟨filter, made, ownIpv4, netIpv4, maskIpv4, ownIpv6, netIpv6,
      maskIpv6⟩ :=
    @exists_antiScan text undefinedMask arguments server net serverParsed
      netParsed ipv4Range ipv6Range
  have length :
      ((arguments.tunInterfaceNetworkMask.toNat : Nat) : Int) =
        arguments.tunInterfaceNetworkMask :=
    Int.toNat_of_nonneg ipv4Range.1
  have ipv4_iff :=
    @drops_ipv4_iff filter undefinedMask
      arguments.tunInterfaceNetworkMask.toNat (by omega)
      (by rw [maskIpv4, length])
  have ipv6_iff :=
    @drops_ipv6_iff filter arguments.tunInterfaceNetworkIpv6Mask.toNat
      (by omega) maskIpv6
  have positive :
      MaskDefined undefinedMask arguments ↔
        1 ≤ arguments.tunInterfaceNetworkMask.toNat ∨
          undefinedMask 32 = 0 :=
    or_congr_left (by omega)
  rw [ownIpv4, netIpv4] at ipv4_iff
  rw [ownIpv6, netIpv6] at ipv6_iff
  rw [positive, NetworkFirst, ← ipv4_iff, ← ipv6_iff]
  constructor
  · rintro ⟨other, built, drops⟩
    obtain rfl := Option.some.inj (made.symm.trans built)
    exact
      ⟨fun packet accepted => (drops packet accepted).ipv4,
        fun packet accepted => (drops packet accepted).ipv6⟩
  · rintro ⟨ipv4, ipv6⟩
    exact
      ⟨filter, made, fun packet accepted =>
        ⟨ipv4 packet accepted, ipv6 packet accepted⟩⟩

/-- The default configuration, with its addresses written out. -/
def defaults : Arguments where
  tunInterfaceIp := "172.20.0.1"
  tunInterfaceNetworkAddress := "172.20.0.0"
  tunInterfaceNetworkMask := 16
  tunInterfaceIpv6 := "fc00:1:0:0:0:0:0:1"
  tunInterfaceNetworkIpv6Address := "fc00:1:0:0:0:0:0:0"
  tunInterfaceNetworkIpv6Mask := 64

theorem dropsSubnet_defaults :
    DropsSubnet plainText (fun _ => 0xFFFFFFFF) defaults
        0xFC000001000000000000000000000001
        0xFC000001000000000000000000000000 ↔
      MaskDefined (fun _ => 0xFFFFFFFF) defaults ∧
        NetworkFirst defaults 0xFC000001000000000000000000000001
          0xFC000001000000000000000000000000 :=
  dropsSubnet_iff plainText (fun _ => 0xFFFFFFFF) defaults
    0xFC000001000000000000000000000001 0xFC000001000000000000000000000000
    (by decide +kernel) (by decide +kernel) (by decide) (by decide)

/-- A network address in the middle of its subnet. -/
def middleNetwork : Arguments :=
  { defaults with
    tunInterfaceNetworkIpv6Address := "fc00:1:0:0:0:0:0:100" }

/-- The addresses in front of it are not filtered. -/
theorem dropsSubnet_middleNetwork :
    ¬∀ (text : AddressText) (undefinedMask : Int → BitVec 32)
        (arguments : Arguments) (server net : BitVec 128),
      text.makeAddressV6 arguments.tunInterfaceIpv6 = some server →
        text.makeAddressV6 arguments.tunInterfaceNetworkIpv6Address =
            some net →
          0 ≤ arguments.tunInterfaceNetworkMask ∧
              arguments.tunInterfaceNetworkMask ≤ 32 →
            0 ≤ arguments.tunInterfaceNetworkIpv6Mask ∧
                arguments.tunInterfaceNetworkIpv6Mask ≤ 128 →
              DropsSubnet text undefinedMask arguments server net := by
  intro drops
  have serverParsed :
      plainText.makeAddressV6 middleNetwork.tunInterfaceIpv6 =
        some 0xFC000001000000000000000000000001 := by
    decide +kernel
  have netParsed :
      plainText.makeAddressV6
          middleNetwork.tunInterfaceNetworkIpv6Address =
        some 0xFC000001000000000000000000000100 := by
    decide +kernel
  obtain ⟨filter, made, -, -, -, ownIpv6, netIpv6, maskIpv6⟩ :=
    @exists_antiScan plainText (fun _ => 0xFFFFFFFF) middleNetwork _ _
      serverParsed netParsed (by decide) (by decide)
  obtain ⟨other, built, dropped⟩ :=
    drops plainText (fun _ => 0xFFFFFFFF) middleNetwork _ _ serverParsed
      netParsed (by decide) (by decide)
  obtain rfl := Option.some.inj (made.symm.trans built)
  have ipv6_iff := drops_ipv6_iff (by decide) maskIpv6
  rw [ownIpv6, netIpv6] at ipv6_iff
  have first :=
    ipv6_iff.mp fun packet accepted => (dropped packet accepted).ipv6
  revert first
  decide +kernel

end Fptn.Vpn.SubnetFilter
