import Fptn.NatTable.TableInvariant
import Fptn.Network.Dns

/-!
# The keys of IPv6 sessions

The table finds a session by the text of its IPv6 address.  A text which it
stores has come from the generator: a number, its two halves, sixteen bytes,
and the text which `boost::asio` makes of them.  A text which it looks for has
come from a packet: sixteen bytes, and the text which `inet_ntop` makes of
them.
-/

namespace Fptn.NatTable.Ipv6Keys

open Fptn.BigEndian
open Fptn.PartialRun
open Fptn.UnorderedMap
open Fptn.Network.ChecksumValue
open Fptn.Network.Dns
open Fptn.Network.IPAddress
open Fptn.Network.Packet
open Fptn.NatTable.Multiplexer
open Fptn.NatTable.SessionTable
open Fptn.NatTable.TableInvariant

/-! ## Numbers and addresses -/

/-- `make_address_v6` of sixteen bytes. -/
def addressOfBytes (bytes : List UInt8) : BitVec 128 :=
  BitVec.ofNat 128 (valueOf bytes)

/-- `(result <<= 8) |= b`. -/
def shiftIn (result : BitVec 128) (byte : UInt8) : BitVec 128 :=
  result <<< 8 ||| BitVec.ofNat 128 byte.toNat

/-- `toUInt128` of an address, from its bytes. -/
def toUInt128 (address : BitVec 128) : BitVec 128 :=
  (bytesOf 16 address.toNat).foldl shiftIn 0

def high (val : BitVec 128) : UInt64 :=
  UInt64.ofBitVec ((val >>> 64).setWidth 64)

def low (val : BitVec 128) : UInt64 :=
  UInt64.ofBitVec ((val &&& 0xFFFFFFFFFFFFFFFF).setWidth 64)

def halfBytes (half : UInt64) : List UInt8 :=
  [(half >>> 56).toUInt8, (half >>> 48).toUInt8, (half >>> 40).toUInt8,
    (half >>> 32).toUInt8, (half >>> 24).toUInt8, (half >>> 16).toUInt8,
    (half >>> 8).toUInt8, half.toUInt8]

/-- The bytes of the two halves. -/
def toBytes (val : BitVec 128) : List UInt8 :=
  halfBytes (high val) ++ halfBytes (low val)

section Text

variable (text : AddressText)

/-- `ipv6::toString`. -/
def toString (val : BitVec 128) : String :=
  text.toStringV6 (addressOfBytes (toBytes val))

/-- `toUInt128` of an `IPv6Address`; `none` is an exception. -/
def toUInt128OfAddress (address : IPv6Address) : Option (BitVec 128) :=
  (text.makeAddressV6 address.ip).map toUInt128

/-- `GetDstIPv6Address`, with `inet_ntop` for its sixteen bytes. -/
def getDstIPv6Address (inetNtop : List UInt8 → String)
    (data : IPPacketData) : IPv6Address :=
  if !hasVersion data 6 ∨ data.size < kMinIPv6 then
    default
  else
    IPv6Address.ofString text (inetNtop (bytesAt data.memory 24 16))

end Text

/-! ## What the bytes stand for -/

theorem shiftIn_ofNat (number : Nat) (byte : UInt8) :
    shiftIn (BitVec.ofNat 128 number) byte =
      BitVec.ofNat 128 (number * 256 + byte.toNat) := by
  have small : byte.toNat < 2 ^ 8 := byte.toNat_lt
  apply BitVec.eq_of_getLsbD_eq
  intro bit inside
  have low :
      (number * 256 + byte.toNat).testBit bit =
        ((number <<< 8) ||| byte.toNat).testBit bit := by
    rw [← Nat.shiftLeft_add_eq_or_of_lt small, Nat.shiftLeft_eq]
  rw [BitVec.getLsbD_ofNat, low, Nat.testBit_or, Nat.testBit_shiftLeft,
    shiftIn, BitVec.getLsbD_or, BitVec.getLsbD_shiftLeft, BitVec.getLsbD_ofNat,
    BitVec.getLsbD_ofNat]
  by_cases host : bit < 8
  · simp [host, inside]
  · have less : bit - 8 < 128 := by omega
    simp [host, inside, less, Nat.not_lt.mp host]

/-- The bytes are taken in, the most significant one first. -/
theorem foldl_shiftIn (number : Nat) (bytes : List UInt8) :
    bytes.foldl shiftIn (BitVec.ofNat 128 number) =
      BitVec.ofNat 128 (number * 256 ^ bytes.length + valueOf bytes) := by
  induction bytes generalizing number with
  | nil =>
      rw [List.foldl_nil, List.length_nil, Nat.pow_zero, Nat.mul_one]
      rfl
  | cons byte rest ih =>
      have moved :
          (number * 256 + byte.toNat) * 256 ^ rest.length + valueOf rest =
            number * 256 ^ (rest.length + 1) +
              (byte.toNat * 256 ^ rest.length + valueOf rest) := by
        ring
      rw [List.foldl_cons, shiftIn_ofNat, ih, valueOf, List.length_cons,
        moved]

theorem toUInt128_eq (address : BitVec 128) :
    toUInt128 address = address := by
  have small : address.toNat < 256 ^ 16 := address.isLt
  have folded := foldl_shiftIn 0 (bytesOf 16 address.toNat)
  rw [Nat.zero_mul, Nat.zero_add, valueOf_bytesOf,
    Nat.mod_eq_of_lt small, BitVec.ofNat_toNat, BitVec.setWidth_eq]
    at folded
  exact folded

theorem valueOf_halfBytes (half : UInt64) :
    valueOf (halfBytes half) = half.toNat := by
  have small := half.toNat_lt
  simp only [halfBytes, valueOf, List.length_cons, List.length_nil,
    UInt64.toNat_toUInt8, UInt64.toNat_shiftRight, Nat.shiftRight_eq_div_pow,
    UInt64.reduceToNat, Nat.reduceMod, Nat.reducePow, Nat.reduceAdd]
  omega

theorem toNat_high (val : BitVec 128) :
    (high val).toNat = val.toNat / 18446744073709551616 := by
  have small := val.isLt
  show ((val >>> 64).setWidth 64).toNat = _
  rw [BitVec.toNat_setWidth, BitVec.toNat_ushiftRight,
    Nat.shiftRight_eq_div_pow]
  omega

theorem toNat_low (val : BitVec 128) :
    (low val).toNat = val.toNat % 18446744073709551616 := by
  show ((val &&& 0xFFFFFFFFFFFFFFFF).setWidth 64).toNat = _
  have mask : (0xFFFFFFFFFFFFFFFF : BitVec 128).toNat = 2 ^ 64 - 1 := rfl
  rw [BitVec.toNat_setWidth, BitVec.toNat_and, mask,
    Nat.and_two_pow_sub_one_eq_mod, Nat.mod_mod]

theorem valueOf_toBytes (val : BitVec 128) :
    valueOf (toBytes val) = val.toNat := by
  have length : (halfBytes (low val)).length = 8 := rfl
  rw [toBytes, valueOf_append, valueOf_halfBytes, valueOf_halfBytes, length,
    toNat_high, toNat_low]
  exact Nat.div_add_mod' val.toNat 18446744073709551616

theorem addressOfBytes_toBytes (val : BitVec 128) :
    addressOfBytes (toBytes val) = val := by
  rw [addressOfBytes, valueOf_toBytes, BitVec.ofNat_toNat,
    BitVec.setWidth_eq]

variable {text : AddressText}

/-- What the generator makes of a number is printed by the library. -/
theorem ofString_toString (val : BitVec 128) :
    IPv6Address.ofString text (toString text val) =
      IPv6Address.ofValue text val := by
  rw [toString, addressOfBytes_toBytes, IPv6Address.ofValue]

theorem toUInt128OfAddress_toString (val : BitVec 128) :
    toUInt128OfAddress text
        (IPv6Address.ofString text (toString text val)) =
      some val := by
  have parsed := text.makeAddressV6_toString val
  rw [toUInt128OfAddress, toString, addressOfBytes_toBytes,
    IPv6Address.ofString, parsed, Option.map_some, toUInt128_eq]

/-! ## Lookups -/

/-- A packet to an address has the text of that address. -/
theorem getDstIPv6Address_eq {inetNtop : List UInt8 → String}
    (sameText : ∀ bytes : List UInt8, bytes.length = 16 →
      inetNtop bytes = text.toStringV6 (addressOfBytes bytes))
    {data : IPPacketData} (accepted : Accepted data)
    (v6 : version data.memory = 6) {val : BitVec 128}
    (encodes : bytesAt data.memory 24 16 = bytesOf 16 val.toNat) :
    getDstIPv6Address text inetNtop data =
      IPv6Address.ofString text (toString text val) := by
  have sized : kMinIPv6 ≤ data.size := by
    rcases accepted.2 with v4 | ⟨-, sized⟩
    · rw [v6] at v4
      cases v4
    · exact sized
  have isV6 : hasVersion data 6 = true := by
    have nonempty : data.size ≠ 0 := by
      have := accepted.1
      rw [kMinIPv4] at this
      omega
    simp [hasVersion, nonempty, v6]
  have small : val.toNat < 256 ^ 16 := val.isLt
  have same : addressOfBytes (bytesOf 16 val.toNat) = val := by
    rw [addressOfBytes, valueOf_bytesOf, Nat.mod_eq_of_lt small,
      BitVec.ofNat_toNat, BitVec.setWidth_eq]
  have notShort : ¬data.size < kMinIPv6 := Nat.not_lt.mpr sized
  rw [getDstIPv6Address, if_neg (by simp [isV6, notShort]), encodes,
    sameText _ (bytesOf_length 16 val.toNat), same, ofString_toString]
  rfl

/-- The text in which a number is stored is read back as this number, and it
is the text of each packet to the address.  At any time the table finds with
it the session which has the address, and no other. -/
theorem getMultiplexerByFakeIPv6_iff (text : AddressText)
    (inetNtop : List UInt8 → String)
    (sameText : ∀ bytes : List UInt8, bytes.length = 16 →
      inetNtop bytes = text.toStringV6 (addressOfBytes bytes))
    {ipv4 : List IPv4Address} {ipv6 : List IPv6Address}
    (pools : CanonicalPools text ipv4 ipv6) {clock : Nat → Int}
    (monotone : Monotone clock) {labels : List Label} {world : World}
    (reached :
      run (step clock) (World.start ipv4 ipv6) labels = some world)
    (val : BitVec 128) :
    toUInt128OfAddress text
          (IPv6Address.ofString text (toString text val)) =
        some val ∧
      ∀ data, Accepted data → version data.memory = 6 →
        bytesAt data.memory 24 16 = bytesOf 16 val.toNat →
          (getDstIPv6Address text inetNtop data).ip = toString text val ∧
            ∀ pointer,
              world.table.getMultiplexerByFakeIPv6
                    (getDstIPv6Address text inetNtop data) =
                  some pointer ↔
                pointer ∈ world.table.sessions ∧
                  (world.table.heap pointer).fakeClientIpv6 =
                    IPv6Address.ofString text (toString text val) := by
  refine ⟨toUInt128OfAddress_toString val, ?_⟩
  intro data accepted v6 encodes
  have destination :=
    getDstIPv6Address_eq sameText accepted v6 encodes
  refine ⟨by rw [destination]; rfl, fun pointer => ?_⟩
  have invariant : Invariant ipv4 ipv6 world :=
    run_invariant
      (fun _ _ _ invariant taken =>
        step_invariant monotone pools.ipv4Keys pools.ipv6Keys invariant
          taken)
      start_invariant reached
  have leased := invariant.addresses.ipv6Leased
  rw [destination, Table.getMultiplexerByFakeIPv6]
  refine (leased.indexed _ pointer).trans ?_
  refine and_congr_right fun session => ?_
  constructor
  · intro sameKey
    obtain ⟨held, printed⟩ :=
      pools.ipv6Printed _ (leased.held_mem session)
    rw [printed] at sameKey ⊢
    exact congrArg (IPv6Address.ofString text) sameKey
  · intro same
    rw [same]

def examplePacket : IPPacketData where
  size := 40
  memory offset :=
    if offset = 0 then 0x60
    else if offset = 24 then 0xFD
    else if offset = 39 then 0x02
    else if 24 < offset ∧ offset % 2 = 1 then 0x01
    else 0

/-- The only session there is gets the packets to its address. -/
theorem getMultiplexerByFakeIPv6_first :
    ∃ world,
      run (step fun tick => tick)
          (World.start [IPv4Address.ofValue plainText 0xAC140002]
            [wholeIPv6 2])
          [.addConnection (guest 1 "first" 0)] = some world ∧
        world.table.getMultiplexerByFakeIPv6
            (getDstIPv6Address plainText
              (fun bytes => plainText.toStringV6 (addressOfBytes bytes))
              examplePacket) =
          some 0 := by
  have taken :
      (run (step fun tick => tick)
          (World.start [IPv4Address.ofValue plainText 0xAC140002]
            [wholeIPv6 2])
          [.addConnection (guest 1 "first" 0)]).map
        (fun world =>
          decide
            (0 ∈ world.table.sessions ∧
              (world.table.heap 0).fakeClientIpv6 =
                wholeIPv6 2)) = some true := by
    decide +kernel
  obtain ⟨world, reached, found⟩ := Option.map_eq_some_iff.mp taken
  obtain ⟨session, address⟩ := decide_eq_true_iff.mp found
  have monotone : Monotone fun tick : Nat => (tick : Int) :=
    fun _ _ ordered => Int.ofNat_le.mpr ordered
  have pools :
      CanonicalPools plainText [IPv4Address.ofValue plainText 0xAC140002]
        [wholeIPv6 2] := by
    constructor
    · exact fun ip member => ⟨_, List.mem_singleton.mp member⟩
    · exact fun ip member => ⟨_, List.mem_singleton.mp member⟩
    · exact List.nodup_singleton _
    · exact List.nodup_singleton _
  have lookups :=
    (getMultiplexerByFakeIPv6_iff plainText
      (fun bytes => plainText.toStringV6 (addressOfBytes bytes))
      (fun _ _ => rfl) pools monotone reached
      0xFD010001000100010001000100010002).2 examplePacket (by decide)
      (by decide) (by decide)
  refine ⟨world, reached, (lookups.2 0).mpr ⟨session, ?_⟩⟩
  exact address.trans (ofString_toString _).symm

end Fptn.NatTable.Ipv6Keys
