import Fptn.Lib.GroupText
import Mathlib.Data.Nat.Notation
import Mathlib.Tactic.Common

/-!
# Addresses and their textual form

An address object of the source keeps the string it was built from next to the
parsed address.  Parsing and printing belong to `boost::asio::ip` and to
`inet_pton`; they enter as the functions of `AddressText`, together with the
one property which the code relies on, that printed text parses back.
-/

namespace Fptn.Network.IPAddress

/-- The address text conversions used by the program. -/
structure AddressText where
  makeAddressV4 : String → Option (BitVec 32)
  makeAddressV6 : String → Option (BitVec 128)
  /-- `inet_pton(AF_INET6, …)`. -/
  inetPtonV6 : String → Option (BitVec 128)
  toStringV4 : BitVec 32 → String
  toStringV6 : BitVec 128 → String
  makeAddressV4_toString :
    ∀ address, makeAddressV4 (toStringV4 address) = some address
  makeAddressV6_toString :
    ∀ address, makeAddressV6 (toStringV6 address) = some address
  inetPtonV6_toString :
    ∀ address, inetPtonV6 (toStringV6 address) = some address

variable (text : AddressText)

/-- An IPv4 address; an unparsable string leaves the address `0.0.0.0`. -/
structure IPv4Address where
  ip : String
  impl : BitVec 32
deriving DecidableEq, Inhabited

/-- An IPv6 address; an unparsable string leaves it default constructed. -/
structure IPv6Address where
  ip : String
  impl : Option (BitVec 128)
deriving DecidableEq, Inhabited

def IPv4Address.ofString (ip : String) : IPv4Address where
  ip := ip
  impl := (text.makeAddressV4 ip).getD 0

def IPv6Address.ofString (ip : String) : IPv6Address where
  ip := ip
  impl := text.makeAddressV6 ip

/-- The numeric value of an IPv4 address. -/
def IPv4Address.toInt (address : IPv4Address) : BitVec 32 := address.impl

/-- An address printed by the library itself. -/
def IPv4Address.ofValue (value : BitVec 32) : IPv4Address :=
  IPv4Address.ofString text (text.toStringV4 value)

def IPv6Address.ofValue (value : BitVec 128) : IPv6Address :=
  IPv6Address.ofString text (text.toStringV6 value)

@[simp]
theorem IPv4Address.ofValue_impl (value : BitVec 32) :
    (IPv4Address.ofValue text value).impl = value := by
  simp [IPv4Address.ofValue, IPv4Address.ofString,
    text.makeAddressV4_toString]

@[simp]
theorem IPv6Address.ofValue_impl (value : BitVec 128) :
    (IPv6Address.ofValue text value).impl = some value := by
  simp [IPv6Address.ofValue, IPv6Address.ofString,
    text.makeAddressV6_toString]

theorem IPv4Address.ofValue_injective :
    Function.Injective (IPv4Address.ofValue text) := by
  intro left right equal
  simpa using congrArg IPv4Address.impl equal

theorem IPv6Address.ofValue_injective :
    Function.Injective (IPv6Address.ofValue text) := by
  intro left right equal
  simpa using congrArg IPv6Address.impl equal

/-! ## Plain texts -/

/-- Four decimal groups. -/
def dottedDecimal : GroupText.Format := ⟨'.', 10, 2 ^ 8, 4⟩

/-- Eight hexadecimal groups, none of them abbreviated. -/
def colonHexadecimal : GroupText.Format := ⟨':', 16, 2 ^ 16, 8⟩

theorem dottedDecimal_printable : dottedDecimal.Printable := by
  constructor <;> decide

theorem colonHexadecimal_printable : colonHexadecimal.Printable := by
  constructor <;> decide

def parseNumber (format : GroupText.Format) (width : Nat) (ip : String) :
    Option (BitVec width) :=
  (GroupText.parse format ip).map (BitVec.ofNat width)

theorem parseNumber_print {format : GroupText.Format} {width : Nat}
    (printable : format.Printable)
    (wide : 2 ^ width = format.limit ^ format.count)
    (address : BitVec width) :
    parseNumber format width (GroupText.print format address.toNat) =
      some address := by
  have small : address.toNat < format.limit ^ format.count :=
    wide ▸ address.isLt
  rw [parseNumber, GroupText.parse_print printable small, Option.map_some,
    BitVec.ofNat_toNat, BitVec.setWidth_eq]

/-- Conversions restricted to texts without abbreviation. -/
def plainText : AddressText where
  makeAddressV4 := parseNumber dottedDecimal 32
  makeAddressV6 := parseNumber colonHexadecimal 128
  inetPtonV6 := parseNumber colonHexadecimal 128
  toStringV4 address := GroupText.print dottedDecimal address.toNat
  toStringV6 address := GroupText.print colonHexadecimal address.toNat
  makeAddressV4_toString :=
    parseNumber_print dottedDecimal_printable (by decide)
  makeAddressV6_toString :=
    parseNumber_print colonHexadecimal_printable (by decide)
  inetPtonV6_toString :=
    parseNumber_print colonHexadecimal_printable (by decide)

/-- An address without groups of zeros, whose text is not abbreviated. -/
def wholeIPv6 (last : BitVec 16) : IPv6Address :=
  IPv6Address.ofValue plainText
    (0xFD010001000100010001000100010000 + last.setWidth 128)

end Fptn.Network.IPAddress
