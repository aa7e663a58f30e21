import Fptn.NatTable.AddressPool
import Fptn.Vpn.FromClient

/-!
# Isolation of the clients

No client is to reach the address of another one.  The table draws addresses
with its generators, and the filter `AntiScan` rejects destinations in the
virtual network; both are built from the same configuration, but compute the
network in different ways.  They agree as long as the counters of the
generators stay inside the subnets of their network addresses.
-/

namespace Fptn.Vpn.ClientIsolation

open Fptn.BigEndian
open Fptn.EventLog
open Fptn.PartialRun
open Fptn.TracedMemory
open Fptn.WrapCounter
open Fptn.NatTable.AddressPool
open Fptn.NatTable.Assignment
open Fptn.NatTable.SessionTable
open Fptn.Network.AddressGenerator
open Fptn.Network.ChecksumValue
open Fptn.Network.IPAddress
open Fptn.Network.Packet
open Fptn.Network.SourceAddress
open Fptn.Vpn.Filter
open Fptn.Vpn.FromClient
open Fptn.Web.WebServer

/-- The conversion of a `std::uint32_t` to `int`. -/
def toInt32 (value : Nat) : Int :=
  if value < 2 ^ 31 then value else value - 2 ^ 32

/-- The filter which `main` adds. -/
def antiScan (text : AddressText) (undefinedShift : Int → BitVec 32)
    (config : NatTable.AddressPool.Config) : Option AntiScan :=
  AntiScan.create text undefinedShift
    config.tunIpv4 config.tunIpv4Network (toInt32 config.tunNetworkIpv4Mask)
    config.tunIpv6 config.tunIpv6Network (toInt32 config.tunNetworkIpv6Mask)

/-! ## What a filter rejects -/

/-- The netmask compares what is above the host part. -/
theorem and_netmask_eq_iff {hostBits : Nat} (left right : BitVec 32) :
    left &&& BitVec.allOnes 32 <<< hostBits =
        right &&& BitVec.allOnes 32 <<< hostBits ↔
      left.toNat / 2 ^ hostBits = right.toNat / 2 ^ hostBits := by
  have shifted :
      left >>> hostBits = right >>> hostBits ↔
        left.toNat / 2 ^ hostBits = right.toNat / 2 ^ hostBits := by
    rw [← BitVec.toNat_inj, BitVec.toNat_ushiftRight,
      BitVec.toNat_ushiftRight, Nat.shiftRight_eq_div_pow,
      Nat.shiftRight_eq_div_pow]
  rw [← shifted]
  constructor
  · intro same
    apply BitVec.eq_of_getLsbD_eq
    intro bit inside
    have there := congrArg (fun bits => bits.getLsbD (hostBits + bit)) same
    simp only [BitVec.getLsbD_and, BitVec.getLsbD_shiftLeft,
      BitVec.getLsbD_allOnes] at there
    rw [BitVec.getLsbD_ushiftRight, BitVec.getLsbD_ushiftRight]
    by_cases small : hostBits + bit < 32
    · simpa [small, inside] using there
    · rw [BitVec.getLsbD_of_ge _ _ (Nat.not_lt.mp small),
        BitVec.getLsbD_of_ge _ _ (Nat.not_lt.mp small)]
  · intro same
    apply BitVec.eq_of_getLsbD_eq
    intro bit inside
    rw [BitVec.getLsbD_and, BitVec.getLsbD_and]
    by_cases host : bit < hostBits
    · simp [host]
    · have there :=
        congrArg (fun bits => bits.getLsbD (bit - hostBits)) same
      have back : hostBits + (bit - hostBits) = bit := by omega
      simp only [BitVec.getLsbD_ushiftRight, back] at there
      rw [there]

/-- What is built from a configuration with prefix lengths in range. -/
theorem antiScan_fields {text : AddressText}
    {undefinedShift : Int → BitVec 32}
    {config : NatTable.AddressPool.Config} {server net : BitVec 128}
    (ipv6Parsed : text.makeAddressV6 config.tunIpv6.ip = some server)
    (netParsed : text.makeAddressV6 config.tunIpv6Network.ip = some net)
    (ipv4Range :
      1 ≤ config.tunNetworkIpv4Mask ∧ config.tunNetworkIpv4Mask ≤ 31)
    (ipv6Range :
      1 ≤ config.tunNetworkIpv6Mask ∧ config.tunNetworkIpv6Mask ≤ 127) :
    ∃ filter, antiScan text undefinedShift config = some filter ∧
      filter.serverIpv4 = config.tunIpv4.toInt ∧
      filter.serverIpv4Net = config.tunIpv4Network.toInt ∧
      filter.serverIpv4Mask =
        BitVec.allOnes 32 <<< (32 - config.tunNetworkIpv4Mask) ∧
      filter.serverIpv6 = server ∧ filter.serverIpv6Net = net ∧
      filter.serverIpv6Mask =
        (1 : BitVec 128) <<< (128 - config.tunNetworkIpv6Mask) - 1 := by
  have ipv4Mask :
      toInt32 config.tunNetworkIpv4Mask = config.tunNetworkIpv4Mask :=
    if_pos (by omega)
  have ipv6Mask :
      toInt32 config.tunNetworkIpv6Mask = config.tunNetworkIpv6Mask :=
    if_pos (by omega)
  have ipv4Count :
      (32 - (config.tunNetworkIpv4Mask : Int)).toNat =
        32 - config.tunNetworkIpv4Mask := by omega
  have ipv6Count :
      (128 - (config.tunNetworkIpv6Mask : Int)).toNat =
        128 - config.tunNetworkIpv6Mask := by omega
  rw [antiScan, AntiScan.create, ipv6Parsed, netParsed, ipv4Mask, ipv6Mask]
  simp only [AntiScan.shiftedOnes]
  rw [if_neg (by omega), if_pos (by omega), ipv4Count, ipv6Count]
  exact ⟨_, rfl, rfl, rfl, rfl, rfl, rfl, rfl⟩

/-- The value of the mask of the lowest bits. -/
theorem toNat_hostMask {hostBits : Nat} (less : hostBits < 128) :
    ((1 : BitVec 128) <<< hostBits - 1).toNat = 2 ^ hostBits - 1 := by
  have size : 2 ^ hostBits < 2 ^ 128 :=
    Nat.pow_lt_pow_right (by decide) less
  have shifted : ((1 : BitVec 128) <<< hostBits).toNat = 2 ^ hostBits := by
    rw [BitVec.toNat_shiftLeft, Nat.shiftLeft_eq]
    change 1 * 2 ^ hostBits % 2 ^ 128 = 2 ^ hostBits
    rw [Nat.one_mul, Nat.mod_eq_of_lt size]
  have one : (1 : BitVec 128).toNat ≤ 2 ^ hostBits := Nat.one_le_two_pow
  rw [BitVec.toNat_sub_of_le (by rwa [BitVec.le_def, shifted]), shifted]
  rfl

variable {filter : AntiScan} {packet : IPPacket}

theorem apply_ipv4_iff (accepted : Accepted packet.data)
    (v4 : version packet.data.memory = 4) :
    filter.apply packet = none ↔
      filter.serverIpv4 ≠ getDstIPv4Address packet ∧
        (getDstIPv4Address packet &&& filter.serverIpv4Mask =
            filter.serverIpv4Net &&& filter.serverIpv4Mask ∨
          kIpv4BroadcastInt = getDstIPv4Address packet) := by
  have isV4 : Filter.read isIPv4 packet = true := by
    rw [Filter.read, isIPv4_value (nonempty_of_accepted accepted)]
    exact beq_iff_eq.mpr v4
  simp only [AntiScan.apply, isV4, if_true]
  rw [ite_eq_right_iff]
  constructor
  · intro passes
    by_contra rejected
    refine Option.some_ne_none _ (passes ?_)
    by_cases own : filter.serverIpv4 = getDstIPv4Address packet
    · exact Or.inl own
    · rw [not_and, not_or] at rejected
      obtain ⟨outside, unicast⟩ := rejected own
      exact Or.inr ⟨decide_eq_false outside, unicast⟩
  · rintro ⟨foreign, inside⟩ (own | ⟨outside, unicast⟩)
    · exact absurd own foreign
    · rw [decide_eq_false_iff_not] at outside
      exact absurd inside (not_or.mpr ⟨outside, unicast⟩)

theorem apply_ipv6_iff (accepted : Accepted packet.data)
    (v6 : version packet.data.memory = 6) :
    filter.apply packet = none ↔
      filter.serverIpv6 ≠ getDstIPv6Address packet ∧
        filter.serverIpv6Net ≤ getDstIPv6Address packet ∧
          getDstIPv6Address packet ≤
            filter.serverIpv6Net ||| filter.serverIpv6Mask := by
  have nonempty := nonempty_of_accepted accepted
  have notV4 : Filter.read isIPv4 packet = false := by
    rw [Filter.read, isIPv4_value nonempty]
    change (version packet.data.memory == 4) = false
    rw [v6]
    rfl
  have isV6 : Filter.read isIPv6 packet = true := by
    rw [Filter.read, isIPv6_value nonempty]
    exact beq_iff_eq.mpr v6
  simp only [AntiScan.apply, notV4, isV6, if_true]
  rw [if_neg Bool.false_ne_true, ite_eq_right_iff]
  constructor
  · intro passes
    by_contra rejected
    refine Option.some_ne_none _ (passes ?_)
    by_cases own : filter.serverIpv6 = getDstIPv6Address packet
    · exact Or.inl own
    · exact
        Or.inr (decide_eq_false fun inside => rejected ⟨own, inside⟩)
  · rintro ⟨foreign, inside⟩ (own | outside)
    · exact absurd own foreign
    · rw [decide_eq_false_iff_not] at outside
      exact absurd inside outside

/-! ## Packets to an address -/

/-- A packet to this address, which is not the server's own. -/
def GoesToIpv4 (config : NatTable.AddressPool.Config) (packet : IPPacket)
    (ip : IPv4Address) : Prop :=
  version packet.data.memory = 4 ∧
    getDstIPv4Address packet = ip.toInt ∧
      ip.toInt ≠ config.tunIpv4.toInt

def GoesToIpv6 (config : NatTable.AddressPool.Config) (packet : IPPacket)
    (ip : IPv6Address) : Prop :=
  version packet.data.memory = 6 ∧
    ip.impl = some (getDstIPv6Address packet) ∧
      ip.impl ≠ config.tunIpv6.impl

/-- The shortest packet with a first byte and bytes at an offset. -/
def shortPacket (size : Nat) (first : UInt8) (offset : Nat)
    (bytes : List UInt8) : IPPacket where
  data := {
    size := size
    memory := putBytes (Function.update (fun _ => 0) 0 first) offset bytes }
  clientId := 0

theorem exists_packet_ipv4 (destination : BitVec 32) :
    ∃ packet : IPPacket,
      Accepted packet.data ∧ version packet.data.memory = 4 ∧
        getDstIPv4Address packet = destination := by
  let bytes := bytesOf 4 destination.toNat
  let packet := shortPacket 20 0x45 16 bytes
  have first : packet.data.memory 0 = 0x45 :=
    (putBytes_of_lt (by decide)).trans (Function.update_self ..)
  have v4 : version packet.data.memory = 4 := by
    rw [version, first]
    rfl
  refine ⟨packet, ⟨Nat.le_refl 20, Or.inl v4⟩, v4, ?_⟩
  have length : bytes.length = 4 := bytesOf_length _ _
  have written : bytesAt packet.data.memory 16 4 = bytes := by
    rw [← length]
    exact bytesAt_putBytes
  rw [getDstIPv4Address, written, valueOf_bytesOf]
  change BitVec.ofNat 32 (destination.toNat % 2 ^ 32) = destination
  rw [Nat.mod_eq_of_lt destination.isLt, BitVec.ofNat_toNat,
    BitVec.setWidth_eq]

theorem exists_packet_ipv6 (destination : BitVec 128) :
    ∃ packet : IPPacket,
      Accepted packet.data ∧ version packet.data.memory = 6 ∧
        getDstIPv6Address packet = destination := by
  let bytes := bytesOf 16 destination.toNat
  let packet := shortPacket 40 0x60 24 bytes
  have first : packet.data.memory 0 = 0x60 :=
    (putBytes_of_lt (by decide)).trans (Function.update_self ..)
  have v6 : version packet.data.memory = 6 := by
    rw [version, first]
    rfl
  refine ⟨packet, ⟨?_, Or.inr ⟨v6, Nat.le_refl 40⟩⟩, v6, ?_⟩
  · change 20 ≤ 40
    decide
  · have length : bytes.length = 16 := bytesOf_length _ _
    have written : bytesAt packet.data.memory 24 16 = bytes := by
      rw [← length]
      exact bytesAt_putBytes
    have fits : destination.toNat < 256 ^ 16 := destination.isLt
    rw [getDstIPv6Address, written, valueOf_bytesOf,
      Nat.mod_eq_of_lt fits, BitVec.ofNat_toNat, BitVec.setWidth_eq]

/-! ## Drawn addresses -/

section Subnet

variable {address hostBits width : Nat}

/-- The last address but one of an address space does not end a subnet. -/
theorem lt_subnetLast (several : 2 ≤ hostBits) (less : hostBits < width)
    (close : address + 2 = 2 ^ width) :
    address < subnetLast address hostBits := by
  have odd : subnetLast address hostBits % 2 = 1 :=
    subnetLast_odd (Nat.lt_of_lt_of_le Nat.two_pos several)
  have ordered := le_subnetLast address hostBits
  obtain ⟨rest, rfl⟩ := Nat.exists_eq_add_of_lt less
  rw [Nat.pow_succ] at close
  omega

/-- A subnet at the end of the address space begins far behind zero. -/
theorem one_lt_subnetNetwork (several : 2 ≤ hostBits)
    (less : hostBits < width)
    (edge : subnetLast address hostBits + 1 = 2 ^ width) :
    1 < subnetNetwork address hostBits := by
  have size : 2 ^ 2 ≤ 2 ^ hostBits :=
    Nat.pow_le_pow_right Nat.two_pos several
  obtain ⟨rest, rfl⟩ := Nat.exists_eq_add_of_lt less
  have doubled : 2 ^ hostBits * 2 ≤ 2 ^ (hostBits + rest + 1) := by
    rw [← Nat.pow_succ]
    exact Nat.pow_le_pow_right Nat.two_pos (by omega)
  rw [subnetLast] at edge
  omega

theorem one_lt_subnetLast (several : 2 ≤ hostBits) :
    1 < subnetLast address hostBits := by
  have size : 2 ^ 2 ≤ 2 ^ hostBits :=
    Nat.pow_le_pow_right Nat.two_pos several
  rw [subnetLast]
  omega

end Subnet

section Pools

variable {text : AddressText} {count : Nat}

/-- Up to the server's own one, the free addresses are the drawn ones. -/
theorem mem_freeIpv4_iff {network address : BitVec 32} {mask : Nat}
    {tunIp : String} {free : List IPv4Address}
    (values :
      valuesIpv4 free =
        pool (counterIpv4 network.toNat mask) count
          (skippedIpv4 text tunIp))
    (foreign : address ≠ (IPv4Address.ofString text tunIp).toInt) :
    (∃ ip ∈ free, ip.toInt = address) ↔
      address.toNat ∈
        draw (counterIpv4 network.toNat mask) count network.toNat := by
  have kept : skippedIpv4 text tunIp ≠ some address.toNat := by
    intro skipped
    rcases @skippedIpv4_or text tunIp with nothing | own
    · rw [nothing] at skipped
      cases skipped
    · rw [own, Option.map_eq_some_iff] at skipped
      obtain ⟨value, parsed, same⟩ := skipped
      refine foreign ?_
      change address = (text.makeAddressV4 tunIp).getD 0
      rw [parsed, Option.getD_some]
      exact (BitVec.eq_of_toNat_eq same).symm
  have listed :
      (∃ ip ∈ free, ip.toInt = address) ↔
        address.toNat ∈ valuesIpv4 free := by
    rw [valuesIpv4, List.mem_map]
    refine exists_congr fun ip => and_congr_right fun _ => ?_
    exact BitVec.toNat_inj.symm
  rw [listed, values, mem_pool]
  exact and_iff_left kept

theorem mem_freeIpv6_iff {network address own : BitVec 128} {mask : Nat}
    {tunIp : String} {free : List IPv6Address}
    (values :
      valuesIpv6 free =
        pool (counterIpv6 network.toNat mask) count
          (skippedIpv6 text tunIp))
    (printed : ∀ ip ∈ free, ∃ number, ip = IPv6Address.ofValue text number)
    (parsed : text.makeAddressV6 tunIp = some own)
    (foreign : address ≠ own) :
    (∃ ip ∈ free, ip.impl = some address) ↔
      address.toNat ∈
        draw (counterIpv6 network.toNat mask) count network.toNat := by
  have kept : skippedIpv6 text tunIp ≠ some address.toNat := by
    intro skipped
    rcases @skippedIpv6_or text tunIp with nothing | isOwn
    · rw [nothing] at skipped
      cases skipped
    · rw [isOwn, parsed, Option.map_some, Option.some.injEq] at skipped
      exact foreign (BitVec.eq_of_toNat_eq skipped).symm
  have listed :
      (∃ ip ∈ free, ip.impl = some address) ↔
        address.toNat ∈ valuesIpv6 free := by
    rw [valuesIpv6, List.mem_map]
    refine exists_congr fun ip => and_congr_right fun member => ?_
    obtain ⟨number, rfl⟩ := printed ip member
    rw [IPv6Address.ofValue_impl, Option.some.injEq, Option.getD_some,
      BitVec.toNat_inj]
  rw [listed, values, mem_pool]
  exact and_iff_left kept

/-- The counter stays inside exactly when every address it draws does. -/
theorem stays_ipv4_iff {network : BitVec 32} {mask own : Nat}
    (lower : 1 ≤ mask) (upper : mask ≤ 30) :
    Stays (counterIpv4 network.toNat mask) count own ↔
      ∀ value ∈ draw (counterIpv4 network.toNat mask) count network.toNat,
        value ≠ own →
          subnetNetwork network.toNat (32 - mask) ≤ value ∧
            value ≤ subnetLast network.toNat (32 - mask) :=
  (stays_iff (counterIpv4_valid network mask)
    (lt_subnetLast (by omega) (by omega)) (subnetNetwork_le _ _)
    (one_lt_subnetNetwork (by omega) (by omega))
    (one_lt_subnetLast (by omega))).symm

theorem stays_ipv6_iff {network : BitVec 128} {mask own : Nat}
    (lower : 1 ≤ mask) (upper : mask ≤ 126) :
    Stays (counterIpv6 network.toNat mask) count own ↔
      ∀ value ∈ draw (counterIpv6 network.toNat mask) count network.toNat,
        value ≠ own →
          network.toNat ≤ value ∧
            value ≤ subnetLast network.toNat (128 - mask) := by
  refine
    (stays_iff (counterIpv6_valid network mask)
      (lt_subnetLast (by omega) (by omega)) (Nat.le_refl _) (fun edge => ?_)
      (one_lt_subnetLast (by omega))).symm
  have behind : 1 < subnetNetwork network.toNat (128 - mask) :=
    one_lt_subnetNetwork (by omega) (by omega) edge
  exact Nat.lt_of_lt_of_le behind (subnetNetwork_le _ _)

/-- The limited broadcast address is only drawn inside. -/
theorem drawn_broadcast_inside {network : BitVec 32} {mask value : Nat}
    (lower : 1 ≤ mask) (upper : mask ≤ 30)
    (member :
      value ∈ draw (counterIpv4 network.toNat mask) count network.toNat)
    (broadcast : value = 2 ^ 32 - 1) :
    subnetNetwork network.toNat (32 - mask) ≤ value ∧
      value ≤ subnetLast network.toNat (32 - mask) := by
  have small := network.isLt
  have bounded :
      subnetLast network.toNat (32 - mask) < 2 ^ 32 :=
    subnetLast_lt small (Nat.sub_le _ _)
  have before := subnetNetwork_le network.toNat (32 - mask)
  rcases lt_or_eq_of_mem_draw member with inner | restarted
  · change value < subnetLast network.toNat (32 - mask) at inner
    omega
  · change value = (network.toNat + 1) % 2 ^ 32 at restarted
    have close : network.toNat + 2 = 2 ^ 32 := by omega
    have less : network.toNat < subnetLast network.toNat (32 - mask) :=
      lt_subnetLast (by omega) (by omega) close
    omega

end Pools

/-! ## Configurations whose clients are isolated -/

section Configured

/-- A packet to an address of the pools which is not the server's own. -/
def GoesToPool (config : NatTable.AddressPool.Config) (pools : Pools)
    (packet : IPPacket) : Prop :=
  (∃ ip ∈ pools.freeIpv4, GoesToIpv4 config packet ip) ∨
    ∃ ip ∈ pools.freeIpv6, GoesToIpv6 config packet ip

variable (text : AddressText) (undefinedShift : Nat → Nat → Nat)
  (undefinedMask : Int → BitVec 32) (arguments : Arguments)

/-- The table and the filter which are built from the arguments. -/
structure Built (pools : Pools) (filter : AntiScan) : Prop where
  table :
    value (create text undefinedShift (arguments.config text)) = some pools
  filter :
    antiScan text undefinedMask (arguments.config text) = some filter

/-- The filter rejects every address of the pools, and so no packet to the
address of a session is ever passed on. -/
structure Isolated : Prop where
  rejected : ∀ pools filter packet,
    Built text undefinedShift undefinedMask arguments pools filter →
      Accepted packet.data →
        GoesToPool (arguments.config text) pools packet →
          filter.apply packet = none
  unreachable : ∀ pools filter packet,
    Built text undefinedShift undefinedMask arguments pools filter →
      Accepted packet.data →
        ∀ (settings : Web.WebServer.Config) (labels : List Server.Label)
          (server : Server) (pointer : MplxPtr),
          run (Server.step settings)
              (Server.start (World.start pools.freeIpv4 pools.freeIpv6))
              labels = some server →
            pointer < server.world.table.nextMplx →
              GoesToIpv4 (arguments.config text) packet
                    (server.world.table.heap pointer).fakeClientIpv4 ∨
                  GoesToIpv6 (arguments.config text) packet
                    (server.world.table.heap pointer).fakeClientIpv6 →
                ∀ (filters : List BaseFilter) (table later : Table)
                  (checkSpeedLimit : MplxPtr → Nat → Bool),
                  .antiScan filter ∈ filters →
                    runFromClient text filters table later checkSpeedLimit
                      packet = none

/--
The counters of both generators stay inside the subnets of their network
addresses, apart from drawing the server's own address.
-/
def PoolsInside : Prop :=
  ∀ ipv4Network ipv6Network tunIpv6,
    text.makeAddressV4 arguments.tunInterfaceNetworkAddress =
        some ipv4Network →
      text.makeAddressV6 arguments.tunInterfaceNetworkIpv6Address =
          some ipv6Network →
        text.makeAddressV6 arguments.tunInterfaceIpv6 = some tunIpv6 →
          let ipv4Mask := toUInt32 arguments.tunInterfaceNetworkMask
          let ipv6Mask := toUInt32 arguments.tunInterfaceNetworkIpv6Mask
          let count := served ipv4Mask ipv6Network.toNat ipv6Mask
          Stays (counterIpv4 ipv4Network.toNat ipv4Mask) count
              (arguments.config text).tunIpv4.toInt.toNat ∧
            Stays (counterIpv6 ipv6Network.toNat ipv6Mask) count
              tunIpv6.toNat

variable {text} {undefinedShift} {undefinedMask} {arguments}

/-- Both objects are only built from addresses which can be parsed. -/
theorem Built.parsed {pools : Pools} {filter : AntiScan}
    (built : Built text undefinedShift undefinedMask arguments pools filter) :
    ∃ ipv4Network ipv6Network tunIpv6,
      text.makeAddressV4 arguments.tunInterfaceNetworkAddress =
          some ipv4Network ∧
        text.makeAddressV6 arguments.tunInterfaceNetworkIpv6Address =
            some ipv6Network ∧
          text.makeAddressV6 arguments.tunInterfaceIpv6 = some tunIpv6 := by
  obtain ⟨table, filtered⟩ := built
  cases ipv4Parsed :
      text.makeAddressV4 arguments.tunInterfaceNetworkAddress with
  | none =>
      have stopped :
          create text undefinedShift (arguments.config text) =
            pure none := by
        have missing :
            text.makeAddressV4 (arguments.config text).tunIpv4Network.ip =
              none := ipv4Parsed
        rw [create, IPv4AddressGenerator.create, missing]
        rfl
      rw [stopped, value_pure] at table
      cases table
  | some ipv4Network =>
      cases tunParsed : text.makeAddressV6 arguments.tunInterfaceIpv6 with
      | none =>
          have missing :
              text.makeAddressV6 (arguments.config text).tunIpv6.ip =
                none := tunParsed
          rw [antiScan, AntiScan.create, missing] at filtered
          cases filtered
      | some tunIpv6 =>
          cases ipv6Parsed :
              text.makeAddressV6
                arguments.tunInterfaceNetworkIpv6Address with
          | none =>
              have missing :
                  text.makeAddressV6
                    (arguments.config text).tunIpv6Network.ip = none :=
                ipv6Parsed
              rw [antiScan, AntiScan.create, missing] at filtered
              cases own :
                  text.makeAddressV6 (arguments.config text).tunIpv6.ip with
              | none =>
                  rw [own] at filtered
                  cases filtered
              | some value =>
                  rw [own] at filtered
                  cases filtered
          | some ipv6Network =>
              exact ⟨ipv4Network, ipv6Network, tunIpv6, rfl, rfl, rfl⟩

/-- The filter rejects the IPv4 pool exactly when its counter stays in the
subnet. -/
theorem rejects_ipv4_iff {config : NatTable.AddressPool.Config}
    {filter : AntiScan} {network : BitVec 32} {mask count : Nat}
    {tunIp : String} {free : List IPv4Address}
    (tun : config.tunIpv4 = IPv4Address.ofString text tunIp)
    (own : filter.serverIpv4 = config.tunIpv4.toInt)
    (net : filter.serverIpv4Net = network)
    (netmask :
      filter.serverIpv4Mask = BitVec.allOnes 32 <<< (32 - mask))
    (values :
      valuesIpv4 free =
        pool (counterIpv4 network.toNat mask) count
          (skippedIpv4 text tunIp))
    (lower : 1 ≤ mask) (upper : mask ≤ 30) :
    (∀ packet : IPPacket, Accepted packet.data →
      (∃ ip ∈ free, GoesToIpv4 config packet ip) →
        filter.apply packet = none) ↔
      Stays (counterIpv4 network.toNat mask) count
        config.tunIpv4.toInt.toNat := by
  rw [stays_ipv4_iff lower upper]
  constructor
  · intro rejects value member different
    have small : value < 2 ^ 32 :=
      lt_modulus_of_mem_draw (counterIpv4_valid network mask) member
    obtain ⟨address, rfl⟩ : ∃ address : BitVec 32, address.toNat = value :=
      ⟨BitVec.ofNat 32 value, Nat.mod_eq_of_lt small⟩
    have foreign : address ≠ config.tunIpv4.toInt := fun same =>
      different (congrArg BitVec.toNat same)
    have foreignText :
        address ≠ (IPv4Address.ofString text tunIp).toInt := by
      rwa [tun] at foreign
    obtain ⟨ip, listed, same⟩ :=
      (mem_freeIpv4_iff values foreignText).mpr member
    obtain ⟨packet, accepted, v4, goes⟩ := exists_packet_ipv4 address
    have rejected := rejects packet accepted
      ⟨ip, listed, v4, goes.trans same.symm, by rwa [same]⟩
    obtain ⟨-, inside | broadcast⟩ :=
      (apply_ipv4_iff accepted v4).mp rejected
    · rw [net, netmask, goes, and_netmask_eq_iff] at inside
      exact mem_subnet_iff.mpr inside
    · rw [goes] at broadcast
      exact
        drawn_broadcast_inside lower upper member
          (congrArg BitVec.toNat broadcast).symm
  · rintro inside packet accepted ⟨ip, listed, v4, goes, foreign⟩
    have foreignText :
        getDstIPv4Address packet ≠
          (IPv4Address.ofString text tunIp).toInt := by
      rwa [← tun, goes]
    have drawn :=
      (mem_freeIpv4_iff values foreignText).mp ⟨ip, listed, goes.symm⟩
    rw [apply_ipv4_iff accepted v4, own, net, netmask, and_netmask_eq_iff,
      ← mem_subnet_iff]
    refine ⟨?_, Or.inl (inside _ drawn fun same => ?_)⟩
    · rw [goes]
      exact foreign.symm
    · rw [goes, BitVec.toNat_inj] at same
      exact foreign same

theorem rejects_ipv6_iff {config : NatTable.AddressPool.Config}
    {filter : AntiScan} {network tun : BitVec 128} {mask count : Nat}
    {tunIp : String} {free : List IPv6Address}
    (parsed : text.makeAddressV6 tunIp = some tun)
    (tunImpl : config.tunIpv6.impl = some tun)
    (own : filter.serverIpv6 = tun)
    (net : filter.serverIpv6Net = network)
    (hostMask :
      filter.serverIpv6Mask = (1 : BitVec 128) <<< (128 - mask) - 1)
    (values :
      valuesIpv6 free =
        pool (counterIpv6 network.toNat mask) count
          (skippedIpv6 text tunIp))
    (printed : ∀ ip ∈ free, ∃ number, ip = IPv6Address.ofValue text number)
    (lower : 1 ≤ mask) (upper : mask ≤ 126) :
    (∀ packet : IPPacket, Accepted packet.data →
      (∃ ip ∈ free, GoesToIpv6 config packet ip) →
        filter.apply packet = none) ↔
      Stays (counterIpv6 network.toNat mask) count tun.toNat := by
  have last :
      (network ||| ((1 : BitVec 128) <<< (128 - mask) - 1)).toNat =
        subnetLast network.toNat (128 - mask) := by
    rw [BitVec.toNat_or, toNat_hostMask (by omega), or_hostBits]
  rw [stays_ipv6_iff lower upper]
  constructor
  · intro rejects value member different
    have small : value < 2 ^ 128 :=
      lt_modulus_of_mem_draw (counterIpv6_valid network mask) member
    obtain ⟨address, rfl⟩ : ∃ address : BitVec 128, address.toNat = value :=
      ⟨BitVec.ofNat 128 value, Nat.mod_eq_of_lt small⟩
    have foreign : address ≠ tun := fun same =>
      different (congrArg BitVec.toNat same)
    obtain ⟨ip, listed, same⟩ :=
      (mem_freeIpv6_iff values printed parsed foreign).mpr member
    obtain ⟨packet, accepted, v6, goes⟩ := exists_packet_ipv6 address
    have different : ip.impl ≠ config.tunIpv6.impl := by
      rw [same, tunImpl]
      exact fun equal => foreign (Option.some.inj equal)
    have rejected := rejects packet accepted
      ⟨ip, listed, v6, by rw [same, goes], different⟩
    obtain ⟨-, behind, before⟩ := (apply_ipv6_iff accepted v6).mp rejected
    rw [net, goes, BitVec.le_def] at behind
    rw [net, hostMask, goes, BitVec.le_def, last] at before
    exact ⟨behind, before⟩
  · rintro inside packet accepted ⟨ip, listed, v6, goes, foreign⟩
    have different : getDstIPv6Address packet ≠ tun := by
      intro same
      rw [goes, tunImpl, same] at foreign
      exact foreign rfl
    have drawn :=
      (mem_freeIpv6_iff values printed parsed different).mp
        ⟨ip, listed, goes⟩
    have bounds := inside _ drawn fun same =>
      different (BitVec.eq_of_toNat_eq same)
    rw [apply_ipv6_iff accepted v6, own, net, hostMask, BitVec.le_def,
      BitVec.le_def, last]
    exact ⟨different.symm, bounds⟩

/-! ## Sessions -/

/-- A filter which rejects a packet stops it behind any other filters. -/
theorem manager_apply_eq_none {filters : List BaseFilter}
    {filter : BaseFilter} {packet : IPPacket} (member : filter ∈ filters)
    (rejected : filter.apply packet = none) :
    Manager.apply filters packet = none := by
  induction filters with
  | nil => cases member
  | cons first rest ih =>
      rw [Manager.apply]
      rcases List.mem_cons.mp member with rfl | later
      · rw [rejected]
      · split
        · rfl
        case h_2 passed found =>
          rw [first.apply_eq_some found]
          exact ih later

theorem runFromClient_eq_none {filters : List BaseFilter}
    {filter : BaseFilter} {packet : IPPacket} {table later : Table}
    {checkSpeedLimit : MplxPtr → Nat → Bool} (member : filter ∈ filters)
    (rejected : filter.apply packet = none) :
    runFromClient text filters table later checkSpeedLimit packet =
      none := by
  simp only [runFromClient, manager_apply_eq_none member rejected]
  repeat' split
  all_goals rfl

/-- All addresses of a server's sessions come from its pools. -/
theorem run_fromPools {settings : Web.WebServer.Config}
    {labels : List Server.Label} {server : Server}
    {ipv4 : List IPv4Address} {ipv6 : List IPv6Address}
    (reached : run (Server.step settings)
      (Server.start (World.start ipv4 ipv6)) labels = some server) :
    Supplied ipv6 server ∧ FromPoolIpv4 ipv4 server.world.table := by
  refine
    run_invariant
      (fun before label after
        (invariant : Supplied ipv6 before ∧
          FromPoolIpv4 ipv4 before.world.table) taken => ?_)
      ⟨start_supplied, start_fromPoolIpv4 ipv6⟩ reached
  obtain ⟨supplied, fromPool⟩ := invariant
  refine ⟨step_supplied supplied taken, ?_⟩
  rcases step_table supplied taken with same | ⟨tableStep, -, stepped⟩
  · rw [same]
    exact fromPool
  · exact
      step_fromPoolIpv4 supplied.fromPool.allocated fromPool stepped

/-- What is handed out comes from the pools, and the filter has the last
word. -/
theorem isolated_of_rejected
    (rejected : ∀ pools filter packet,
      Built text undefinedShift undefinedMask arguments pools filter →
        Accepted packet.data →
          GoesToPool (arguments.config text) pools packet →
            filter.apply packet = none) :
    Isolated text undefinedShift undefinedMask arguments where
  rejected := rejected
  unreachable pools filter packet built accepted settings labels server
      pointer reached made goes filters table later checkSpeedLimit
      member := by
    obtain ⟨supplied, fromPool⟩ := run_fromPools reached
    have toPool : GoesToPool (arguments.config text) pools packet := by
      rcases goes with goes | goes
      · exact Or.inl ⟨_, fromPool.made pointer made, goes⟩
      · exact Or.inr ⟨_, supplied.fromPool.made pointer made, goes⟩
    exact
      runFromClient_eq_none member
        (rejected pools filter packet built accepted toPool)

/-- With all addresses parsed, there is one table and one filter. -/
theorem rejected_iff_of_parsed {ipv4Network : BitVec 32}
    {ipv6Network tunIpv6 : BitVec 128}
    (ipv4Parsed :
      text.makeAddressV4 arguments.tunInterfaceNetworkAddress =
        some ipv4Network)
    (ipv6Parsed :
      text.makeAddressV6 arguments.tunInterfaceNetworkIpv6Address =
        some ipv6Network)
    (tunParsed :
      text.makeAddressV6 arguments.tunInterfaceIpv6 = some tunIpv6)
    (ipv4Range :
      1 ≤ toUInt32 arguments.tunInterfaceNetworkMask ∧
        toUInt32 arguments.tunInterfaceNetworkMask ≤ 30)
    (ipv6Range :
      1 ≤ toUInt32 arguments.tunInterfaceNetworkIpv6Mask ∧
        toUInt32 arguments.tunInterfaceNetworkIpv6Mask ≤ 126) :
    (∀ pools filter packet,
      Built text undefinedShift undefinedMask arguments pools filter →
        Accepted packet.data →
          GoesToPool (arguments.config text) pools packet →
            filter.apply packet = none) ↔
      Stays
          (counterIpv4 ipv4Network.toNat
            (toUInt32 arguments.tunInterfaceNetworkMask))
          (served (toUInt32 arguments.tunInterfaceNetworkMask)
            ipv6Network.toNat
            (toUInt32 arguments.tunInterfaceNetworkIpv6Mask))
          (arguments.config text).tunIpv4.toInt.toNat ∧
        Stays
          (counterIpv6 ipv6Network.toNat
            (toUInt32 arguments.tunInterfaceNetworkIpv6Mask))
          (served (toUInt32 arguments.tunInterfaceNetworkMask)
            ipv6Network.toNat
            (toUInt32 arguments.tunInterfaceNetworkIpv6Mask))
          tunIpv6.toNat := by
  obtain ⟨pools, created, ipv4Values, ipv6Values, printed⟩ :=
    @create_pools text undefinedShift arguments ipv4Network ipv6Network
      ipv4Parsed ipv6Parsed ⟨ipv4Range.1, by omega⟩
      ⟨ipv6Range.1, by omega⟩
  have net :
      (arguments.config text).tunIpv4Network.toInt = ipv4Network := by
    change
      (text.makeAddressV4 arguments.tunInterfaceNetworkAddress).getD 0 =
        ipv4Network
    rw [ipv4Parsed, Option.getD_some]
  obtain ⟨filter, filtered, ownIpv4, netIpv4, maskIpv4, ownIpv6, netIpv6,
      maskIpv6⟩ := @antiScan_fields text undefinedMask
    (arguments.config text) tunIpv6 ipv6Network tunParsed ipv6Parsed
    ⟨ipv4Range.1, Nat.le_succ_of_le ipv4Range.2⟩
    ⟨ipv6Range.1, Nat.le_succ_of_le ipv6Range.2⟩
  have tunImpl :
      (arguments.config text).tunIpv6.impl = some tunIpv6 := tunParsed
  have ipv4_iff :=
    rejects_ipv4_iff rfl ownIpv4 (netIpv4.trans net) maskIpv4 ipv4Values
      ipv4Range.1 ipv4Range.2
  have ipv6_iff :=
    rejects_ipv6_iff tunParsed tunImpl ownIpv6 netIpv6 maskIpv6
      ipv6Values printed ipv6Range.1 ipv6Range.2
  refine Iff.trans ?_ (and_congr ipv4_iff ipv6_iff)
  constructor
  · intro rejected
    exact
      ⟨fun packet accepted goes =>
          rejected pools filter packet ⟨created, filtered⟩ accepted
            (Or.inl goes),
        fun packet accepted goes =>
          rejected pools filter packet ⟨created, filtered⟩ accepted
            (Or.inr goes)⟩
  · rintro ⟨ipv4, ipv6⟩ other another packet ⟨table, built⟩ accepted goes
    obtain rfl := Option.some.inj (created.symm.trans table)
    obtain rfl := Option.some.inj (filtered.symm.trans built)
    rcases goes with goes | goes
    · exact ipv4 packet accepted goes
    · exact ipv6 packet accepted goes

/-- The clients are isolated exactly when the pools lie inside the subnets. -/
theorem isolated_iff (text : AddressText)
    (undefinedShift : Nat → Nat → Nat) (undefinedMask : Int → BitVec 32)
    (arguments : Arguments)
    (ipv4Range :
      1 ≤ toUInt32 arguments.tunInterfaceNetworkMask ∧
        toUInt32 arguments.tunInterfaceNetworkMask ≤ 30)
    (ipv6Range :
      1 ≤ toUInt32 arguments.tunInterfaceNetworkIpv6Mask ∧
        toUInt32 arguments.tunInterfaceNetworkIpv6Mask ≤ 126) :
    Isolated text undefinedShift undefinedMask arguments ↔
      PoolsInside text arguments := by
  constructor
  · intro isolated ipv4Network ipv6Network tunIpv6 ipv4Parsed ipv6Parsed
      tunParsed
    exact
      (rejected_iff_of_parsed ipv4Parsed ipv6Parsed tunParsed ipv4Range
        ipv6Range).mp isolated.rejected
  · intro inside
    refine isolated_of_rejected fun pools filter packet built => ?_
    obtain ⟨ipv4Network, ipv6Network, tunIpv6, ipv4Parsed, ipv6Parsed,
      tunParsed⟩ := built.parsed
    exact
      (rejected_iff_of_parsed ipv4Parsed ipv6Parsed tunParsed ipv4Range
        ipv6Range).mpr
          (inside ipv4Network ipv6Network tunIpv6 ipv4Parsed ipv6Parsed
            tunParsed) pools filter packet built

end Configured

/-- The addresses of this network's pool are within the subnet, although the
network address is not the first one. -/
theorem isolated_iff_unaligned :
    Isolated plainText (fun _ _ => 0) (fun _ => 0) unaligned := by
  have ipv4Parsed :
      plainText.makeAddressV4 unaligned.tunInterfaceNetworkAddress =
        some 0x0A000005 := by decide +kernel
  have ipv6Parsed :
      plainText.makeAddressV6 unaligned.tunInterfaceNetworkIpv6Address =
        some 0xFD000001000200030004000500060000 := by decide +kernel
  refine
    (isolated_iff plainText (fun _ _ => 0) (fun _ => 0) unaligned
      (by decide) (by decide)).mpr ?_
  intro ipv4Network ipv6Network tunIpv6 ipv4Again ipv6Again tunParsed
  obtain rfl := Option.some.inj (ipv4Parsed.symm.trans ipv4Again)
  obtain rfl := Option.some.inj (ipv6Parsed.symm.trans ipv6Again)
  refine ⟨⟨fun full => ?_, fun close => ?_⟩, fun full => ?_,
    fun close => ?_⟩
  · exact absurd full (by decide +kernel)
  · exact absurd close (by decide +kernel)
  · exact absurd full (by decide +kernel)
  · exact absurd close (by decide +kernel)

/-- A network address at the end of its subnet. -/
def lastAddress : Arguments where
  tunInterfaceIp := "10.0.0.1"
  tunInterfaceNetworkAddress := "10.0.0.255"
  tunInterfaceNetworkMask := 24
  tunInterfaceIpv6 := "fd00:1:2:3:4:5:6:1"
  tunInterfaceNetworkIpv6Address := "fd00:1:2:3:4:5:6:0"
  tunInterfaceNetworkIpv6Mask := 112

/-- Its clients all get the address behind the subnet, which the filter lets
pass. -/
theorem lastAddress_reachable :
    ¬ ∀ (text : AddressText) (undefinedShift : Nat → Nat → Nat)
        (undefinedMask : Int → BitVec 32) (arguments : Arguments),
      1 ≤ toUInt32 arguments.tunInterfaceNetworkMask ∧
          toUInt32 arguments.tunInterfaceNetworkMask ≤ 30 →
        1 ≤ toUInt32 arguments.tunInterfaceNetworkIpv6Mask ∧
            toUInt32 arguments.tunInterfaceNetworkIpv6Mask ≤ 126 →
          Isolated text undefinedShift undefinedMask arguments := by
  intro always
  have ipv4Parsed :
      plainText.makeAddressV4 lastAddress.tunInterfaceNetworkAddress =
        some 0x0A0000FF := by decide +kernel
  have ipv6Parsed :
      plainText.makeAddressV6 lastAddress.tunInterfaceNetworkIpv6Address =
        some 0xFD000001000200030004000500060000 := by decide +kernel
  have tunParsed :
      plainText.makeAddressV6 lastAddress.tunInterfaceIpv6 =
        some 0xFD000001000200030004000500060001 := by decide +kernel
  have isolated :=
    always plainText (fun _ _ => 0) (fun _ => 0) lastAddress (by decide)
      (by decide)
  obtain ⟨⟨whenFull, -⟩, -⟩ :=
    (rejected_iff_of_parsed ipv4Parsed ipv6Parsed tunParsed (by decide)
      (by decide)).mp isolated.rejected
  rcases whenFull (by decide +kernel) with nothing | ⟨own, -⟩
  · exact absurd nothing (by decide +kernel)
  · exact absurd own (by decide +kernel)

end Fptn.Vpn.ClientIsolation
