import Fptn.Lib.TracedMemory
import Mathlib.Algebra.Group.Nat.Defs

/-!
# Checksum routines over raw packet memory

The functions of `ip_utils.h` which rewrite the IPv4 header checksum and the
TCP, UDP, ICMP and ICMPv6 checksums in place.  The buffer is the memory of a
`TracedMemory` program, counted from the first byte of the packet, and its size
travels separately, as in the source.  `uint16_t` and `uint32_t` values are
natural numbers reduced explicitly; the `int` lengths are integers.

The six transport routines differ only in a handful of constants.  They share
one definition for each IP version and keep their own names below it.
-/

namespace Fptn.Network.IPUtils

open Fptn.TracedMemory

/-! ## Sixteen-bit words -/

def readU16Be (p : Nat) : Mem Nat := do
  let high ← load p
  let low ← load (p + 1)
  return (high.toNat <<< 8) % 2 ^ 16 ||| low.toNat

def writeU16Be (p : Nat) (v : Nat) : Mem Unit := do
  save p (UInt8.ofNat (v >>> 8))
  save (p + 1) (UInt8.ofNat (v &&& 0xFF))

/-- `memcpy` into a local array. -/
def copyBytes (source : Nat) : Nat → Mem (List UInt8)
  | 0 => return []
  | count + 1 => do
    let head ← load source
    let tail ← copyBytes (source + 1) count
    return head :: tail

/-! ## The RFC 1071 sum -/

/-- The accumulation loop of `Rfc1071`, including its odd trailing byte. -/
def rfc1071Sum (data : Nat) : Nat → Nat → Mem Nat
  | 0, sum => return sum
  | 1, sum => do
    let last ← load data
    return (sum + last.toNat <<< 8) % 2 ^ 32
  | len + 2, sum => do
    let high ← load data
    let low ← load (data + 1)
    rfc1071Sum (data + 2) len
      ((sum + (high.toNat <<< 8 ||| low.toNat)) % 2 ^ 32)

/-- Fold a 32-bit sum into 16 bits. -/
def foldCarry (sum : Nat) : Nat :=
  if sum >>> 16 ≠ 0 then
    foldCarry ((sum &&& 0xFFFF) + sum >>> 16)
  else
    sum
termination_by sum
decreasing_by
  have low : sum &&& 0xFFFF = sum % 2 ^ 16 :=
    Nat.and_two_pow_sub_one_eq_mod sum 16
  omega

def rfc1071 (data len : Nat) (sum : Nat) : Mem Nat := do
  let total ← rfc1071Sum data len sum
  return (0xFFFFFFFF - foldCarry total) % 2 ^ 16

/-- The word loop over a pseudo-header held in a local array. -/
def sumWords : List UInt8 → Nat → Nat
  | high :: low :: rest, sum =>
      sumWords rest ((sum + (high.toNat <<< 8 ||| low.toNat)) % 2 ^ 32)
  | _, sum => sum

/-! ## Transport checksums -/

/-- The constants in which the transport checksum routines differ. -/
structure Transport where
  protocol : UInt8
  /-- Offset of the checksum inside the transport header. -/
  field : Nat
  /-- Bytes of the transport header which the guard asks for. -/
  minimum : Nat
  /-- ICMPv4 alone is summed without a pseudo-header. -/
  pseudoHeader : Bool
  /-- UDP transmits `0xFFFF` in place of a computed zero. -/
  zeroRule : Bool

def tcp : Transport := ⟨6, 16, 18, true, false⟩
def udp : Transport := ⟨17, 6, 8, true, true⟩
def icmp : Transport := ⟨1, 2, 4, false, false⟩
def icmpv6 : Transport := ⟨58, 2, 4, true, false⟩

/-- Zero the checksum field, sum the segment, and write the result back. -/
def checksumSegment
    (transport : Transport) (start len seed : Nat) : Mem Unit := do
  writeU16Be (start + transport.field) 0
  let checksum ← rfc1071 start len seed
  writeU16Be (start + transport.field)
    (if transport.zeroRule ∧ checksum = 0 then 0xFFFF else checksum)

/-- `static_cast<int>` of a `std::size_t`. -/
def toInt (size : Nat) : Int := Int.bmod size (2 ^ 32)

/-- The 12-byte IPv4 pseudo-header. -/
def pseudoHeaderIpv4 (protocol : UInt8) (len : Nat) : Mem (List UInt8) := do
  let source ← copyBytes 12 4
  let destination ← copyBytes 16 4
  return source ++ destination ++
    [0, protocol, UInt8.ofNat (len >>> 8), UInt8.ofNat (len &&& 0xFF)]

/-- The 40-byte IPv6 pseudo-header. -/
def pseudoHeaderIpv6 (protocol : UInt8) (len : Nat) : Mem (List UInt8) := do
  let source ← copyBytes 8 16
  let destination ← copyBytes 24 16
  return source ++ destination ++
    [0, 0, UInt8.ofNat (len >>> 8), UInt8.ofNat (len &&& 0xFF),
      0, 0, 0, protocol]

/-- The IHL nibble of a first byte, in bytes. -/
def headerLength (first : UInt8) : Nat := (first.toNat &&& 0x0F) * 4

/-- `std::min` of the announced length and the bytes in the buffer. -/
def segmentLength (announced : Int) (bufSize header : Nat) : Int :=
  min (announced - header) (toInt bufSize - header)

/-- The part of an IPv4 routine behind its length guard. -/
def checksumSegmentIpv4
    (transport : Transport) (ihl : Nat) (len : Int) : Mem Unit :=
  if len ≤ 0 then
    return ()
  else if transport.pseudoHeader then do
    let header ←
      pseudoHeaderIpv4 transport.protocol (len.toNat % 2 ^ 16)
    checksumSegment transport ihl len.toNat (sumWords header 0)
  else
    checksumSegment transport ihl len.toNat 0

def checksumIpv4 (transport : Transport) (bufSize : Nat) : Mem Unit := do
  let first ← load 0
  let ihl := headerLength first
  if bufSize < ihl + transport.minimum then
    return ()
  else
    let totalLength ← readU16Be 2
    checksumSegmentIpv4 transport ihl
      (segmentLength totalLength bufSize ihl)

/-- The part of an IPv6 routine behind its length guard. -/
def checksumSegmentIpv6
    (transport : Transport) (len : Int) : Mem Unit :=
  if len ≤ 0 then
    return ()
  else do
    let header ←
      pseudoHeaderIpv6 transport.protocol (len.toNat % 2 ^ 16)
    checksumSegment transport 40 len.toNat (sumWords header 0)

def checksumIpv6 (transport : Transport) (bufSize : Nat) : Mem Unit :=
  if bufSize < 40 + transport.minimum then
    return ()
  else do
    let payloadLength ← readU16Be 4
    checksumSegmentIpv6 transport
      (min (payloadLength : Int) (toInt bufSize - 40))

def checksumIpv4Header : Mem Unit := do
  let first ← load 0
  let ihl := headerLength first
  writeU16Be 10 0
  let checksum ← rfc1071 0 ihl 0
  writeU16Be 10 checksum

def checksumTcpIpv4 (bufSize : Nat) : Mem Unit := checksumIpv4 tcp bufSize
def checksumUdpIpv4 (bufSize : Nat) : Mem Unit := checksumIpv4 udp bufSize
def checksumIcmpIpv4 (bufSize : Nat) : Mem Unit := checksumIpv4 icmp bufSize
def checksumTcpIpv6 (bufSize : Nat) : Mem Unit := checksumIpv6 tcp bufSize
def checksumUdpIpv6 (bufSize : Nat) : Mem Unit := checksumIpv6 udp bufSize
def checksumIcmpv6Ipv6 (bufSize : Nat) : Mem Unit :=
  checksumIpv6 icmpv6 bufSize

/-- Dispatch on the protocol byte; unknown protocols are ignored. -/
def transportIpv4 (protocol : UInt8) (bufSize : Nat) : Mem Unit :=
  if protocol = 6 then checksumTcpIpv4 bufSize
  else if protocol = 17 then checksumUdpIpv4 bufSize
  else if protocol = 1 then checksumIcmpIpv4 bufSize
  else return ()

def transportIpv6 (nextHeader : UInt8) (bufSize : Nat) : Mem Unit :=
  if nextHeader = 6 then checksumTcpIpv6 bufSize
  else if nextHeader = 17 then checksumUdpIpv6 bufSize
  else if nextHeader = 58 then checksumIcmpv6Ipv6 bufSize
  else return ()

/--
Recalculate every checksum of the packet.  For IPv4 the transport checksum
comes first and the header checksum last.
-/
def recalculateChecksums (bufSize : Nat) : Mem Unit :=
  if bufSize < 1 then
    return ()
  else do
    let first ← load 0
    let version := first.toNat >>> 4
    if version = 4 then
      if bufSize < 20 then
        return ()
      else
        let protocol ← load 9
        transportIpv4 protocol bufSize
        checksumIpv4Header
    else if version = 6 then
      if bufSize < 40 then
        return ()
      else
        let nextHeader ← load 6
        transportIpv6 nextHeader bufSize
    else
      return ()

end Fptn.Network.IPUtils
