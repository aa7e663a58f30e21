import Fptn.Network.Dns
import Mathlib.Data.Finset.Insert

/-!
# The blacklist of domains

`DomainBlacklist` notes the addresses in DNS responses for the domains of its
rules, and drops packets which come from such an address.  IPv4 addresses are
kept as numbers and IPv6 addresses as text.  An IPv6 address is only inserted
when it is there already, so that none ever is.
-/

namespace Fptn.Plugin.DomainBlacklist

open Fptn.BigEndian
open Fptn.Network.Dns
open Fptn.Network.IPAddress
open Fptn.Network.Packet

/-- The conversions and matches of the libraries, and the compiled rules. -/
structure Rules (Rule : Type) where
  text : AddressText
  toUnicode : Option (List UInt8 → List UInt8)
  /-- `RE2::PartialMatch`. -/
  partialMatch : List UInt8 → Rule → Bool
  rules : List Rule

/-- The block sets. -/
structure Blocked where
  ipv4Addresses : Finset (BitVec 32)
  ipv6Addresses : Finset String

def Blocked.start : Blocked where
  ipv4Addresses := ∅
  ipv6Addresses := ∅

section Handling

variable {Rule : Type} (config : Rules Rule)

/-- Any rule matches the name of the question. -/
def matchesRule (packet : IPPacket) : Bool :=
  match getDnsDomain packet.data config.toUnicode with
  | none => false
  | some domain => config.rules.any (config.partialMatch domain)

def saveIPv4 (addresses : Finset (BitVec 32)) (ip : IPv4Address) :
    Finset (BitVec 32) :=
  if ip.toInt ∉ addresses then insert ip.toInt addresses else addresses

/-- The sibling of `saveIPv4` lacks the negation. -/
def saveIPv6 (addresses : Finset String) (ip : IPv6Address) :
    Finset String :=
  if ip.ip ∈ addresses then insert ip.ip addresses else addresses

/-- `HandlePacket`: the block sets, the packet unless it is dropped, and
whether the plugin was triggered. -/
def handlePacket (blocked : Blocked) (packet : IPPacket) :
    Blocked × Option IPPacket × Bool :=
  if isDns packet.data then
    if matchesRule config packet then
      ({ ipv4Addresses :=
           (getDnsIPv4Addresses packet.data config.text).foldl saveIPv4
             blocked.ipv4Addresses
         ipv6Addresses :=
           (getDnsIPv6Addresses packet.data config.text).foldl saveIPv6
             blocked.ipv6Addresses },
        some packet, true)
    else
      (blocked, some packet, false)
  else if hasVersion packet.data 4 then
    if (getSrcIPv4Address packet.data config.text).toInt ∈
        blocked.ipv4Addresses then
      (blocked, none, true)
    else
      (blocked, some packet, false)
  else if hasVersion packet.data 6 then
    if (getSrcIPv6Address packet.data config.text).ip ∈
        blocked.ipv6Addresses then
      (blocked, none, true)
    else
      (blocked, some packet, false)
  else
    (blocked, some packet, false)

/-- The block sets after a history of packets. -/
def blockedAfter (past : List IPPacket) : Blocked :=
  past.foldl (fun blocked packet => (handlePacket config blocked packet).1)
    Blocked.start

/-! ## What is asked of it -/

/-- A DNS message for a domain of the rules. -/
def Matching (response : IPPacket) : Prop :=
  isDns response.data = true ∧ matchesRule config response = true

/-- An earlier matching response has listed the source in an A record. -/
def ListedIPv4 (past : List IPPacket) (packet : IPPacket) : Prop :=
  hasVersion packet.data 4 = true ∧
    ∃ response ∈ past, Matching config response ∧
      ∃ ip ∈ getDnsIPv4Addresses response.data config.text,
        ip.toInt = (getSrcIPv4Address packet.data config.text).toInt

/-- The same in a AAAA record. -/
def ListedIPv6 (past : List IPPacket) (packet : IPPacket) : Prop :=
  hasVersion packet.data 6 = true ∧
    ∃ response ∈ past, Matching config response ∧
      ∃ ip ∈ getDnsIPv6Addresses response.data config.text,
        ip.impl = (getSrcIPv6Address packet.data config.text).impl

/-- What is to be done with a packet after the packets of the past. -/
structure Filtered (past : List IPPacket) (packet : IPPacket) : Prop where
  dropped :
    ListedIPv4 config past packet ∨ ListedIPv6 config past packet →
      isDns packet.data = false →
        (handlePacket config (blockedAfter config past) packet).2 =
          (none, true)
  passed :
    ¬ (ListedIPv4 config past packet ∨ ListedIPv6 config past packet) →
      (handlePacket config (blockedAfter config past) packet).2.1 =
        some packet

/-- Every packet of a history is treated as it should be. -/
def StaysBlocked (packets : List IPPacket) : Prop :=
  ∀ past packet rest, packets = past ++ packet :: rest →
    Filtered config past packet

/-- No packet but DNS messages comes from an address which was listed in a
AAAA record. -/
def NoListedIPv6 (packets : List IPPacket) : Prop :=
  ∀ past packet rest, packets = past ++ packet :: rest →
    isDns packet.data = false → ¬ ListedIPv6 config past packet

/-! ## The block sets over time -/

variable {config} {blocked : Blocked} {past : List IPPacket}
  {packet : IPPacket}

theorem mem_saveIPv4 {addresses : Finset (BitVec 32)} {ip : IPv4Address}
    {address : BitVec 32} :
    address ∈ saveIPv4 addresses ip ↔
      address ∈ addresses ∨ ip.toInt = address := by
  unfold saveIPv4
  split
  · rw [Finset.mem_insert, or_comm, eq_comm]
  · rename_i known
    rw [not_not] at known
    constructor
    · exact Or.inl
    · rintro (old | rfl)
      · exact old
      · exact known

theorem mem_foldl_saveIPv4 {ips : List IPv4Address}
    {addresses : Finset (BitVec 32)} {address : BitVec 32} :
    address ∈ ips.foldl saveIPv4 addresses ↔
      address ∈ addresses ∨ ∃ ip ∈ ips, ip.toInt = address := by
  induction ips generalizing addresses with
  | nil => simp
  | cons ip ips ih =>
      rw [List.foldl_cons, ih, mem_saveIPv4, or_assoc]
      simp [or_and_right, exists_or]

/-- Nothing is ever inserted into the set of IPv6 addresses. -/
theorem saveIPv6_eq (addresses : Finset String) (ip : IPv6Address) :
    saveIPv6 addresses ip = addresses := by
  unfold saveIPv6
  split
  · rename_i known
    exact Finset.insert_eq_of_mem known
  · rfl

theorem foldl_saveIPv6 {ips : List IPv6Address}
    {addresses : Finset String} :
    ips.foldl saveIPv6 addresses = addresses := by
  induction ips with
  | nil => rfl
  | cons ip ips ih => rw [List.foldl_cons, saveIPv6_eq, ih]

/-- Only DNS messages change the block sets. -/
theorem handlePacket_of_other (other : isDns packet.data = false) :
    (handlePacket config blocked packet).1 = blocked := by
  rw [handlePacket, if_neg (by simp [other])]
  repeat' split
  all_goals rfl

/-- What one packet does to the block sets. -/
theorem mem_handlePacket_ipv4 {address : BitVec 32} :
    address ∈ (handlePacket config blocked packet).1.ipv4Addresses ↔
      address ∈ blocked.ipv4Addresses ∨
        Matching config packet ∧
          ∃ ip ∈ getDnsIPv4Addresses packet.data config.text,
            ip.toInt = address := by
  cases dns : isDns packet.data with
  | false =>
      rw [handlePacket_of_other dns]
      simp [Matching, dns]
  | true =>
      rw [handlePacket, if_pos dns]
      split
      · rename_i matching
        simp [Matching, mem_foldl_saveIPv4, dns, matching]
      · rename_i different
        simp [Matching, different]

theorem handlePacket_ipv6 :
    (handlePacket config blocked packet).1.ipv6Addresses =
      blocked.ipv6Addresses := by
  unfold handlePacket
  repeat' split
  case isTrue.isTrue => exact foldl_saveIPv6
  all_goals rfl

theorem blockedAfter_concat :
    blockedAfter config (past ++ [packet]) =
      (handlePacket config (blockedAfter config past) packet).1 := by
  rw [blockedAfter, List.foldl_append]
  rfl

/-- The set of IPv4 addresses is exactly what has been listed. -/
theorem mem_blockedAfter_ipv4 {address : BitVec 32} :
    address ∈ (blockedAfter config past).ipv4Addresses ↔
      ∃ response ∈ past, Matching config response ∧
        ∃ ip ∈ getDnsIPv4Addresses response.data config.text,
          ip.toInt = address := by
  induction past using List.reverseRecOn with
  | nil => simp [blockedAfter, Blocked.start]
  | append_singleton past packet ih =>
      rw [blockedAfter_concat, mem_handlePacket_ipv4, ih]
      simp [or_and_right, exists_or]

theorem blockedAfter_ipv6 :
    (blockedAfter config past).ipv6Addresses = ∅ := by
  induction past using List.reverseRecOn with
  | nil => rfl
  | append_singleton past packet ih =>
      rw [blockedAfter_concat, handlePacket_ipv6, ih]

/-! ## The treatment of a packet -/

theorem hasVersion_four_of_six (v6 : hasVersion packet.data 6 = true) :
    hasVersion packet.data 4 = false := by
  simp only [hasVersion, Bool.and_eq_true, beq_iff_eq] at v6
  simp [hasVersion, v6.2]

/-- A packet from a noted IPv4 address is dropped. -/
theorem handlePacket_of_listed (other : isDns packet.data = false)
    (listed : ListedIPv4 config past packet) :
    (handlePacket config (blockedAfter config past) packet).2 =
      (none, true) := by
  obtain ⟨v4, noted⟩ := listed
  rw [handlePacket, if_neg (by simp [other]), if_pos v4,
    if_pos (mem_blockedAfter_ipv4.mpr noted)]

/-- An IPv6 packet is passed, wherever it comes from. -/
theorem handlePacket_of_ipv6 (other : isDns packet.data = false)
    (v6 : hasVersion packet.data 6 = true) :
    (handlePacket config (blockedAfter config past) packet).2 =
      (some packet, false) := by
  have notV4 := hasVersion_four_of_six v6
  rw [handlePacket, if_neg (by simp [other]), if_neg (by simp [notV4]),
    if_pos v6, blockedAfter_ipv6, if_neg (Finset.notMem_empty _)]

/-- Everything else is passed. -/
theorem handlePacket_of_not_listed
    (listed : isDns packet.data = false →
      ¬ ListedIPv4 config past packet) :
    (handlePacket config (blockedAfter config past) packet).2.1 =
      some packet := by
  cases dns : isDns packet.data with
  | true =>
      rw [handlePacket, if_pos dns]
      split
      · rfl
      · rfl
  | false =>
      cases v4 : hasVersion packet.data 4 with
      | true =>
          have unknown :
              (getSrcIPv4Address packet.data config.text).toInt ∉
                (blockedAfter config past).ipv4Addresses := by
            intro noted
            exact listed dns ⟨v4, mem_blockedAfter_ipv4.mp noted⟩
          rw [handlePacket, if_neg (by simp [dns]), if_pos v4,
            if_neg unknown]
      | false =>
          cases v6 : hasVersion packet.data 6 with
          | true => rw [handlePacket_of_ipv6 dns v6]
          | false =>
              rw [handlePacket, if_neg (by simp [dns]),
                if_neg (by simp [v4]), if_neg (by simp [v6])]

/-- One packet is treated as it should be unless a AAAA record has listed its
source. -/
theorem filtered_iff :
    Filtered config past packet ↔
      (isDns packet.data = false → ¬ ListedIPv6 config past packet) := by
  constructor
  · intro filtered other listed
    have dropped := filtered.dropped (Or.inr listed) other
    rw [handlePacket_of_ipv6 other listed.1] at dropped
    cases dropped
  · intro unlisted
    constructor
    · rintro (listed | listed) other
      · exact handlePacket_of_listed other listed
      · exact absurd listed (unlisted other)
    · intro notListed
      exact handlePacket_of_not_listed fun _ listed =>
        notListed (Or.inl listed)

end Handling

/-- A blacklisted domain stays blocked exactly as long as none of its IPv6
addresses is heard of. -/
theorem staysBlocked_iff {Rule : Type} (config : Rules Rule)
    (packets : List IPPacket) :
    StaysBlocked config packets ↔ NoListedIPv6 config packets := by
  constructor
  · intro stays past packet rest split
    exact filtered_iff.mp (stays past packet rest split)
  · intro unlisted past packet rest split
    exact filtered_iff.mpr (unlisted past packet rest split)

/-! ## A packet from a listed IPv6 address -/

/-- A packet of bytes. -/
def packetOf (bytes : List UInt8) : IPPacket where
  data := { size := bytes.length, memory := fun p => bytes.getD p 0 }
  clientId := 0

/-- A single rule which matches every name. -/
def anyName : Rules Unit where
  text := plainText
  toUnicode := none
  partialMatch _ _ := true
  rules := [()]

/-- A response from port 53 for the name `a`, with one AAAA record. -/
def response : IPPacket :=
  packetOf
    [0x45, 0, 0, 0, 0, 0, 0, 0, 64, 17, 0, 0, 10, 0, 0, 1, 10, 0, 0, 2,
      0, 53, 0, 0, 0, 0, 0, 0,
      0, 0, 0x81, 0x80, 0, 1, 0, 1, 0, 0, 0, 0,
      1, 0x61, 0, 0, 28, 0, 1,
      0xC0, 12, 0, 28, 0, 1, 0, 0, 0, 0, 0, 16,
      0xFD, 1, 0, 1, 0, 1, 0, 1, 0, 1, 0, 1, 0, 1, 0, 7]

/-- A packet without payload from that address. -/
def listedPacket : IPPacket :=
  packetOf
    [0x60, 0, 0, 0, 0, 0, 59, 64,
      0xFD, 1, 0, 1, 0, 1, 0, 1, 0, 1, 0, 1, 0, 1, 0, 7,
      0xFD, 1, 0, 1, 0, 1, 0, 1, 0, 1, 0, 1, 0, 1, 0, 8]

/-- The listed packet is passed on. -/
theorem listedPacket_passes :
    ¬ ∀ (Rule : Type) (config : Rules Rule) (packets : List IPPacket),
      StaysBlocked config packets := by
  intro always
  have filtered :=
    always Unit anyName [response, listedPacket] [response] listedPacket []
      rfl
  have answers :
      answersOf response.data 28 16 =
        [[0xFD, 1, 0, 1, 0, 1, 0, 1, 0, 1, 0, 1, 0, 1, 0, 7]] := by
    decide +kernel
  have address :
      (getSrcIPv6Address listedPacket.data plainText).impl =
        some 0xFD010001000100010001000100010007 := by
    rw [getSrcIPv6Address, if_neg (by decide), IPv6Address.ofValue_impl]
    decide +kernel
  have number :
      BitVec.ofNat 128
          (valueOf [0xFD, 1, 0, 1, 0, 1, 0, 1, 0, 1, 0, 1, 0, 1, 0, 7]) =
        0xFD010001000100010001000100010007 := by decide +kernel
  have listed :
      IPv6Address.ofValue plainText 0xFD010001000100010001000100010007 ∈
        getDnsIPv6Addresses response.data plainText := by
    rw [getDnsIPv6Addresses, answers, List.map_singleton, number]
    exact List.mem_singleton_self _
  refine filtered_iff.mp filtered (by decide)
    ⟨by decide, response, List.mem_singleton_self _,
      ⟨by decide, by decide⟩, _, listed, ?_⟩
  exact (IPv6Address.ofValue_impl _ _).trans address.symm

end Fptn.Plugin.DomainBlacklist
