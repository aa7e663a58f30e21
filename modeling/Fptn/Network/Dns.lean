import Fptn.Lib.BigEndian
import Fptn.Network.ChecksumValue
import Fptn.Network.Packet

/-!
# DNS messages in packets

What the class `IPPacket` reads of a DNS message: the name of its first
question and the addresses in its answers.  Pointers are offsets from the
first byte of the packet.  A name may be compressed, by a pointer back into
the message; when it is skipped, the pointer ends it.
-/

namespace Fptn.Network.Dns

open Fptn.BigEndian
open Fptn.Network.ChecksumValue
open Fptn.Network.IPAddress
open Fptn.Network.Packet

def kDnsHdr : Nat := 12

section Message

variable (data : IPPacketData)

/-- The message behind the UDP header at an offset. -/
def dnsPayloadPtr (udp : Nat) : Option Nat :=
  if udp + kUdpHdr > data.size then
    none
  else if word data.memory udp ≠ 53 ∧
      word data.memory (udp + 2) ≠ 53 then
    none
  else
    let dns := udp + kUdpHdr
    if dns + kDnsHdr ≤ data.size then some dns else none

/-- The value of `IsIPv4` and of `IsIPv6`. -/
def hasVersion (wanted : Nat) : Bool :=
  decide (data.size ≠ 0) && version data.memory == wanted

def dnsPtr : Option Nat :=
  if hasVersion data 4 ∧ kMinIPv4 ≤ data.size ∧ data.memory 9 = 17 then
    dnsPayloadPtr data ((data.memory 0 &&& 0x0F).toNat * 4)
  else if hasVersion data 6 ∧ kMinIPv6 ≤ data.size ∧
      data.memory 6 = 17 then
    dnsPayloadPtr data kMinIPv6
  else
    none

def isDns : Bool := (dnsPtr data).isSome

/-! ## The name of the question -/

/-- What `ParseDnsName` goes on with. -/
structure NameCursor where
  ptr : Nat
  name : List UInt8
  jumped : Bool
  /-- The caller's pointer. -/
  cur : Nat

/-- The loop of `ParseDnsName`: the name, and the caller's pointer. -/
def parseDnsNameLoop (base : Nat) : Nat → NameCursor → List UInt8 × Nat
  | 0, cursor => (cursor.name, cursor.cur)
  | rounds + 1, ⟨ptr, name, jumped, cur⟩ =>
      if ptr ≥ data.size then
        (name, cur)
      else
        let len := data.memory ptr
        if len = 0 then
          (name, if jumped then cur else ptr + 1)
        else if len &&& 0xC0 = 0xC0 then
          if ptr + 2 > data.size then
            (name, cur)
          else
            parseDnsNameLoop base rounds
              ⟨base +
                  ((len &&& 0x3F).toNat <<< 8 |||
                    (data.memory (ptr + 1)).toNat),
                name, true, if jumped then cur else ptr + 2⟩
        else if ptr + 1 + len.toNat > data.size then
          (name, cur)
        else
          parseDnsNameLoop base rounds
            ⟨ptr + 1 + len.toNat,
              (if name.isEmpty then name else name ++ [0x2E]) ++
                bytesAt data.memory (ptr + 1) len.toNat,
              jumped, cur⟩

def parseDnsName (base cur : Nat) : List UInt8 × Nat :=
  parseDnsNameLoop data base 128 ⟨cur, [], false, cur⟩

/-- `xn--`. -/
def isPunycode (name : List UInt8) : Bool :=
  name.tails.any fun suffix =>
    [0x78, 0x6E, 0x2D, 0x2D].isPrefixOf suffix

/-- `toUnicode` belongs to a library which not every build has. -/
def getDnsDomain (toUnicode : Option (List UInt8 → List UInt8)) :
    Option (List UInt8) :=
  match dnsPtr data with
  | none => none
  | some dns =>
      if word data.memory (dns + 4) = 0 then
        none
      else
        let name := (parseDnsName data dns (dns + kDnsHdr)).1
        if name.isEmpty then
          none
        else
          match toUnicode with
          | some convert =>
              some (if isPunycode name then convert name else name)
          | none => some name

/-! ## The answers -/

/-- Behind a name, compressed or not. -/
def skipName : Nat → Nat → Nat
  | 0, cur => cur
  | rounds + 1, cur =>
      if cur < data.size then
        let l := data.memory cur
        if l = 0 then
          cur + 1
        else if l &&& 0xC0 = 0xC0 then
          cur + 2
        else
          skipName rounds (cur + (1 + l.toNat))
      else
        cur

def skipQuestions : Nat → Nat → Nat
  | 0, cur => cur
  | rounds + 1, cur =>
      if cur < data.size then
        skipQuestions rounds (skipName data 256 cur + 4)
      else
        cur

/-- The first answer and the number of answers, in a response which has
any. -/
def dnsAnswerStart (dns : Nat) : Option (Nat × Nat) :=
  if dns + kDnsHdr > data.size then
    none
  else if data.memory (dns + 2) &&& 0x80 = 0 then
    none
  else
    let qdcount := word data.memory (dns + 4)
    let ancount := word data.memory (dns + 6)
    if ancount = 0 then
      none
    else
      let cur := skipQuestions data qdcount (dns + kDnsHdr)
      if cur < data.size then some (cur, ancount) else none

/-- The data of the answers of one type and length. -/
def answerData (rtype rdlen : Nat) : Nat → Nat → List (List UInt8)
  | 0, _ => []
  | rounds + 1, cur =>
      if cur < data.size then
        let fixed := skipName data 256 cur
        if fixed + 10 > data.size then
          []
        else
          let body := fixed + 10
          let length := word data.memory (fixed + 8)
          if body + length > data.size then
            []
          else if word data.memory fixed = rtype ∧ length = rdlen then
            bytesAt data.memory body rdlen ::
              answerData rtype rdlen rounds (body + length)
          else
            answerData rtype rdlen rounds (body + length)
      else
        []

def answersOf (rtype rdlen : Nat) : List (List UInt8) :=
  match dnsPtr data with
  | none => []
  | some dns =>
      match dnsAnswerStart data dns with
      | none => []
      | some (cur, ancount) => answerData data rtype rdlen ancount cur

variable (text : AddressText)

/-- The A records. -/
def getDnsIPv4Addresses : List IPv4Address :=
  (answersOf data 1 4).map fun bytes =>
    IPv4Address.ofValue text (BitVec.ofNat 32 (valueOf bytes))

/-- The AAAA records. -/
def getDnsIPv6Addresses : List IPv6Address :=
  (answersOf data 28 16).map fun bytes =>
    IPv6Address.ofValue text (BitVec.ofNat 128 (valueOf bytes))

/-! ## Sources -/

def getSrcIPv4Address : IPv4Address :=
  if !hasVersion data 4 ∨ data.size < kMinIPv4 then
    default
  else
    IPv4Address.ofValue text
      (BitVec.ofNat 32 (valueOf (bytesAt data.memory 12 4)))

def getSrcIPv6Address : IPv6Address :=
  if !hasVersion data 6 ∨ data.size < kMinIPv6 then
    default
  else
    IPv6Address.ofValue text
      (BitVec.ofNat 128 (valueOf (bytesAt data.memory 8 16)))

end Message

end Fptn.Network.Dns
