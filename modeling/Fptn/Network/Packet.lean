import Fptn.Network.IPAddress
import Fptn.Network.IPUtils

/-!
# Packets

The class `IPPacket`: the acceptance test of `Parse`, the address setters and
getters, and the port and payload getters.  A packet's storage is the memory
counted from the first byte of its vector, of which the first `size` bytes
belong to the vector.  Methods are traced programs over that memory.
-/

namespace Fptn.Network.Packet

open Fptn.TracedMemory
open Fptn.Network.IPUtils
open Fptn.Network.IPAddress

/-- The storage of a byte vector. -/
structure IPPacketData where
  size : Nat
  memory : Nat → UInt8

def kMinIPv4 : Nat := 20
def kMinIPv6 : Nat := 40
def kUdpHdr : Nat := 8

/-- The version nibble of the first byte. -/
def version (memory : Nat → UInt8) : Nat := (memory 0).toNat >>> 4

structure IPPacket where
  data : IPPacketData
  clientId : UInt64

/-- `IPPacket::Parse`. -/
def parse (buffer : IPPacketData) (clientId : UInt64) : Option IPPacket :=
  if buffer.size < kMinIPv4 then
    none
  else if version buffer.memory = 4 ∨
      version buffer.memory = 6 ∧ kMinIPv6 ≤ buffer.size then
    some ⟨buffer, clientId⟩
  else
    none

/-- What `Parse` guarantees of a buffer. -/
def Accepted (buffer : IPPacketData) : Prop :=
  kMinIPv4 ≤ buffer.size ∧
    (version buffer.memory = 4 ∨
      version buffer.memory = 6 ∧ kMinIPv6 ≤ buffer.size)

instance (buffer : IPPacketData) : Decidable (Accepted buffer) :=
  inferInstanceAs (Decidable (_ ∧ _))

theorem parse_eq_some_iff
    {buffer : IPPacketData} {clientId : UInt64} {packet : IPPacket} :
    parse buffer clientId = some packet ↔
      Accepted buffer ∧ packet = ⟨buffer, clientId⟩ := by
  unfold parse Accepted
  split
  · simp only [reduceCtorEq, false_iff]
    rintro ⟨⟨sized, _⟩, _⟩
    omega
  · rename_i sized
    have minimum : kMinIPv4 ≤ buffer.size := Nat.le_of_not_lt sized
    split
    · rename_i versions
      rw [Option.some.injEq]
      constructor
      · rintro rfl
        exact ⟨⟨minimum, versions⟩, rfl⟩
      · rintro ⟨_, rfl⟩
        rfl
    · rename_i versions
      simp [versions]

section Methods

variable (size : Nat)

def isIPv4 : Mem Bool :=
  if size = 0 then
    return false
  else do
    let first ← load 0
    return first.toNat >>> 4 == 4

def isIPv6 : Mem Bool :=
  if size = 0 then
    return false
  else do
    let first ← load 0
    return first.toNat >>> 4 == 6

/-- `memcpy` out of a local array. -/
def saveBytes (offset : Nat) : List UInt8 → Mem Unit
  | [] => return ()
  | head :: tail => do
    save offset head
    saveBytes (offset + 1) tail

/-- The bytes of an integer in network order. -/
def networkBytes (count : Nat) (value : Nat) : List UInt8 :=
  (List.range count).map fun index =>
    UInt8.ofNat (value >>> (8 * (count - 1 - index)))

def computeCalculateFields : Mem Unit :=
  if size < kMinIPv4 then
    return ()
  else
    recalculateChecksums size

/-- The IPv4 address setters, which differ in the offset they write at. -/
def setIPv4Address (offset : Nat) (address : IPv4Address) : Mem Unit := do
  let v4 ← isIPv4 size
  if !v4 || size < kMinIPv4 then
    return ()
  else
    let ttl ← load 8
    if ttl = 0 then
      return ()
    else
      saveBytes offset (networkBytes 4 address.toInt.toNat)
      recalculateChecksums size

def setSrcIPv4Address (src : IPv4Address) : Mem Unit :=
  setIPv4Address size 12 src

def setDstIPv4Address (dst : IPv4Address) : Mem Unit :=
  setIPv4Address size 16 dst

/-- The IPv6 address setters; unparsable text is logged and skipped. -/
def setIPv6Address
    (text : AddressText) (offset : Nat) (address : IPv6Address) :
    Mem Unit := do
  let v6 ← isIPv6 size
  if !v6 || size < kMinIPv6 then
    return ()
  else
    match text.inetPtonV6 address.ip with
    | none => return ()
    | some value =>
      saveBytes offset (networkBytes 16 value.toNat)
      recalculateChecksums size

def setSrcIPv6Address (text : AddressText) (src : IPv6Address) : Mem Unit :=
  setIPv6Address size text 8 src

def setDstIPv6Address (text : AddressText) (dst : IPv6Address) : Mem Unit :=
  setIPv6Address size text 24 dst

/-- Length of the IP header: the IHL field, or the fixed IPv6 header. -/
def ipHeader : Mem Nat := do
  let v4 ← isIPv4 size
  if v4 then
    let first ← load 0
    return headerLength first
  else
    return kMinIPv6

/-- The port getters, which differ in the offset of the port. -/
def getPort (offset : Nat) : Mem Nat := do
  let ipHdr ← ipHeader size
  if size < ipHdr + (offset + 2) then
    return 0
  else
    readU16Be (ipHdr + offset)

def getTcpSrcPort : Mem Nat := getPort size 0
def getTcpDstPort : Mem Nat := getPort size 2
def getUdpSrcPort : Mem Nat := getPort size 0
def getUdpDstPort : Mem Nat := getPort size 2

/-- The tests for a protocol, which differ in its number. -/
def isProtocol (protocol : UInt8) : Mem Bool := do
  let v4 ← isIPv4 size
  if v4 then
    if size < kMinIPv4 then
      return false
    else
      let proto ← load 9
      return proto == protocol
  else
    let v6 ← isIPv6 size
    if v6 then
      if size < kMinIPv6 then
        return false
      else
        let next ← load 6
        return next == protocol
    else
      return false

def isTCP : Mem Bool := isProtocol size 6
def isUDP : Mem Bool := isProtocol size 17

/-- The protocol byte, `Ipv4Proto` or `Ipv6Next`. -/
def protocolByte : Mem UInt8 := do
  let v4 ← isIPv4 size
  if v4 then load 9 else load 6

/-- The offset and length of the TCP payload. -/
def getTcpPayload : Mem (Option (Nat × Nat)) := do
  let proto ← protocolByte size
  if proto ≠ 6 then
    return none
  else
    let ipHdr ← ipHeader size
    if size < ipHdr + 20 then
      return none
    else
      let dataOffset ← load (ipHdr + 12)
      let tcpHdr := (dataOffset.toNat >>> 4) * 4
      if size < ipHdr + tcpHdr then
        return none
      else
        return some (ipHdr + tcpHdr, size - ipHdr - tcpHdr)

/-- The offset and length of the UDP payload. -/
def getUdpPayload : Mem (Option (Nat × Nat)) := do
  let proto ← protocolByte size
  if proto ≠ 17 then
    return none
  else
    let ipHdr ← ipHeader size
    if size < ipHdr + kUdpHdr then
      return none
    else
      return some (ipHdr + kUdpHdr, size - ipHdr - kUdpHdr)

end Methods

end Fptn.Network.Packet
