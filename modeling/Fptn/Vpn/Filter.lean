import Fptn.Lib.BigEndian
import Fptn.Network.SourceAddress

/-!
# Filters

What the server does to a client's packet before it changes its address: each
filter returns the packet it was given, or none.
-/

namespace Fptn.Vpn.Filter

open Fptn.BigEndian
open Fptn.TracedMemory
open Fptn.Network.IPAddress
open Fptn.Network.Packet
open Fptn.Network.ChecksumValue

/-! ## Reading a packet -/

/-- The value of a method on a packet. -/
def read {α : Type} (method : Nat → Mem α) (packet : IPPacket) : α :=
  (method packet.data.size (Store.start packet.data.memory)).1

/-- The destination addresses as numbers. -/
def getDstIPv4Address (packet : IPPacket) : BitVec 32 :=
  BitVec.ofNat 32 (valueOf (bytesAt packet.data.memory 16 4))

def getDstIPv6Address (packet : IPPacket) : BitVec 128 :=
  BitVec.ofNat 128 (valueOf (bytesAt packet.data.memory 24 16))

/-- The bytes of a payload which starts at an offset. -/
def payloadBytes (packet : IPPacket) (payload : Nat × Nat) : List UInt8 :=
  bytesAt packet.data.memory payload.1 payload.2

/-! ## AntiScan -/

/-- The fields as the constructor leaves them. -/
structure AntiScan where
  serverIpv4 : BitVec 32
  serverIpv4Net : BitVec 32
  serverIpv4Mask : BitVec 32
  serverIpv6 : BitVec 128
  serverIpv6Net : BitVec 128
  serverIpv6Mask : BitVec 128

def kIpv4BroadcastInt : BitVec 32 := 0xFFFFFFFF

namespace AntiScan

/-- `0xFFFFFFFF << count`; a count outside the width is undefined. -/
def shiftedOnes (undefinedShift : Int → BitVec 32) (count : Int) :
    BitVec 32 :=
  if 0 ≤ count ∧ count < 32 then
    BitVec.allOnes 32 <<< count.toNat
  else
    undefinedShift count

/-- The constructor, which throws on IPv6 addresses it cannot parse and on
negative shift counts of `uint128_t`. -/
def create (text : AddressText) (undefinedShift : Int → BitVec 32)
    (serverIpv4 serverIpv4Net : IPv4Address) (serverIpV4Mask : Int)
    (serverIpv6 serverIpv6Net : IPv6Address) (serverIpV6Mask : Int) :
    Option AntiScan :=
  match text.makeAddressV6 serverIpv6.ip,
      text.makeAddressV6 serverIpv6Net.ip with
  | some server, some net =>
      if 128 - serverIpV6Mask < 0 then
        none
      else
        some {
          serverIpv4 := serverIpv4.toInt
          serverIpv4Net := serverIpv4Net.toInt
          serverIpv4Mask := shiftedOnes undefinedShift (32 - serverIpV4Mask)
          serverIpv6 := server
          serverIpv6Net := net
          serverIpv6Mask :=
            (1 : BitVec 128) <<< (128 - serverIpV6Mask).toNat - 1 }
  | _, _ => none

variable (filter : AntiScan)

/-- No requests to the virtual network from a client. -/
def apply (packet : IPPacket) : Option IPPacket :=
  if read isIPv4 packet then
    let dst := getDstIPv4Address packet
    let isInNetwork := decide
      (dst &&& filter.serverIpv4Mask =
        filter.serverIpv4Net &&& filter.serverIpv4Mask)
    if filter.serverIpv4 = dst ∨
        isInNetwork = false ∧ kIpv4BroadcastInt ≠ dst then
      some packet
    else
      none
  else if read isIPv6 packet then
    let dst := getDstIPv6Address packet
    let maxAddr := filter.serverIpv6Net ||| filter.serverIpv6Mask
    let isInNetwork := decide (filter.serverIpv6Net ≤ dst ∧ dst ≤ maxAddr)
    if filter.serverIpv6 = dst ∨ isInNetwork = false then
      some packet
    else
      none
  else
    none

end AntiScan

/-! ## BitTorrent -/

def kClassic : List UInt8 :=
  [0x13, 0x42, 0x69, 0x74, 0x54, 0x6F, 0x72, 0x72, 0x65, 0x6E, 0x74, 0x20,
    0x70, 0x72, 0x6F, 0x74, 0x6F, 0x63, 0x6F, 0x6C]

def kExtensionProtocol : List UInt8 :=
  [0x14, 0x65, 0x78, 0x74, 0x65, 0x6E, 0x73, 0x69, 0x6F, 0x6E]

/-- `d1:ad2:id2`. -/
def kDht : List UInt8 :=
  [0x64, 0x31, 0x3A, 0x61, 0x64, 0x32, 0x3A, 0x69, 0x64, 0x32]

def detectBitTorrent (payload : List UInt8) : Bool :=
  match payload with
  | [] => false
  | firstByte :: _ =>
      if kClassic.head? = some firstByte then
        kClassic.isPrefixOf payload
      else if kExtensionProtocol.head? = some firstByte then
        kExtensionProtocol.isPrefixOf payload
      else if kDht.head? = some firstByte then
        kDht.isPrefixOf payload
      else
        false

namespace BitTorrent

def apply (packet : IPPacket) : Option IPPacket :=
  match read getUdpPayload packet with
  | some udpData =>
      if detectBitTorrent (payloadBytes packet udpData) then
        none
      else
        some packet
  | none =>
      match read getTcpPayload packet with
      | some tcpData =>
          if detectBitTorrent (payloadBytes packet tcpData) then
            none
          else
            some packet
      | none => some packet

end BitTorrent

/-! ## Manager -/

inductive BaseFilter where
  | antiScan (filter : AntiScan)
  | bitTorrent

def BaseFilter.apply : BaseFilter → IPPacket → Option IPPacket
  | .antiScan filter => filter.apply
  | .bitTorrent => BitTorrent.apply

namespace Manager

/-- The filters in the order in which they were added. -/
def apply : List BaseFilter → IPPacket → Option IPPacket
  | [], packet => some packet
  | filter :: rest, packet =>
      match filter.apply packet with
      | none => none
      | some passed => apply rest passed

end Manager

/-! ## A packet is dropped or left as it is -/

variable {packet passed : IPPacket}

theorem BaseFilter.apply_eq_some {filter : BaseFilter}
    (applied : filter.apply packet = some passed) : passed = packet := by
  cases filter with
  | antiScan filter =>
      simp only [BaseFilter.apply, AntiScan.apply] at applied
      repeat' split at applied
      all_goals cases applied
      all_goals rfl
  | bitTorrent =>
      simp only [BaseFilter.apply, BitTorrent.apply] at applied
      repeat' split at applied
      all_goals cases applied
      all_goals rfl

theorem Manager.apply_eq_some {filters : List BaseFilter}
    (applied : Manager.apply filters packet = some passed) :
    passed = packet := by
  induction filters generalizing packet with
  | nil => exact (Option.some.inj applied).symm
  | cons filter rest ih =>
      rw [Manager.apply] at applied
      split at applied
      · cases applied
      case h_2 between found =>
        rw [ih applied, filter.apply_eq_some found]

end Fptn.Vpn.Filter
