import Fptn.Network.Dns
import Fptn.Network.PacketBounds

/-!
# Reading DNS messages

The methods for DNS messages once more, as programs which read single bytes.
Such a program has no way to know whether the message, its counts and its
lengths are what they should be: a byte is read if the test in front of it
lets it be read.  Each program is shown to compute the value known already, to
read inside the buffer only, and to end after a number of accesses which does
not depend on the packet.
-/

namespace Fptn.Network.DnsAccess

open Fptn.TracedMemory
open Fptn.Network.ChecksumValue
open Fptn.Network.Dns
open Fptn.Network.IPAddress
open Fptn.Network.IPUtils
open Fptn.Network.Packet
open Fptn.Network.PacketBounds

/-! ## Elementary reads -/

section Elementary

variable {bound : Nat} {memory : Nat → UInt8}

theorem readU16Be_reads {p : Nat} (inside : p + 1 < bound) :
    Reads bound 2 (readU16Be p) memory (word memory p) := by
  intro earlier
  have value : (readU16Be p ⟨memory, earlier⟩).1 = word memory p :=
    readU16Be_value _ p
  refine ⟨[p + 1, p], Prod.ext value rfl, Nat.le_refl 2, ?_⟩
  intro offset member
  simp only [List.mem_cons, List.not_mem_nil, or_false] at member
  omega

theorem copyBytes_reads {source count : Nat}
    (inside : source + count ≤ bound) :
    Reads bound count (copyBytes source count) memory
      (bytesAt memory source count) := by
  induction count generalizing source with
  | zero => exact Reads.pure _
  | succ count ih =>
      have rest := @ih (source + 1) (by omega)
      refine ((Reads.load (by omega)).bind ?_).mono
        (Nat.le_of_eq (Nat.add_comm 1 count))
      exact rest.bindPure (memory source :: ·)

end Elementary

section Message

variable (size : Nat)

/-! ## The message -/

/-- One of the ports is that of DNS. -/
def hasDnsPort (udp : Nat) : Mem Bool := do
  let source ← readU16Be udp
  if source ≠ 53 then
    let destination ← readU16Be (udp + 2)
    return decide (destination = 53)
  else
    return true

def dnsPayloadPtr (udp : Nat) : Mem (Option Nat) :=
  if udp + kUdpHdr > size then
    return none
  else do
    let ported ← hasDnsPort udp
    return if ported then
      let dns := udp + kUdpHdr
      if dns + kDnsHdr ≤ size then some dns else none
    else
      none

/-- The packet is of the wanted version and carries UDP. -/
def carriesUdp (isVersion : Mem Bool) (minimum protocol : Nat) :
    Mem Bool := do
  let wanted ← isVersion
  if wanted && decide (minimum ≤ size) then
    let proto ← load protocol
    return decide (proto = 17)
  else
    return false

def dnsPtr : Mem (Option Nat) := do
  let udp4 ← carriesUdp size (isIPv4 size) kMinIPv4 9
  if udp4 then
    let first ← load 0
    dnsPayloadPtr size (headerLength first)
  else
    let udp6 ← carriesUdp size (isIPv6 size) kMinIPv6 6
    if udp6 then
      dnsPayloadPtr size kMinIPv6
    else
      return none

def isDns : Mem Bool := do
  let dns ← dnsPtr size
  return dns.isSome

/-! ## The name of the question -/

def parseDnsNameLoop (base : Nat) :
    Nat → NameCursor → Mem (List UInt8 × Nat)
  | 0, cursor => return (cursor.name, cursor.cur)
  | rounds + 1, ⟨ptr, name, jumped, cur⟩ =>
      if ptr ≥ size then
        return (name, cur)
      else do
        let len ← load ptr
        if len = 0 then
          return (name, if jumped then cur else ptr + 1)
        else if len &&& 0xC0 = 0xC0 then
          if ptr + 2 > size then
            return (name, cur)
          else
            let low ← load (ptr + 1)
            parseDnsNameLoop base rounds
              ⟨base + ((len &&& 0x3F).toNat <<< 8 ||| low.toNat), name,
                true, if jumped then cur else ptr + 2⟩
        else if ptr + 1 + len.toNat > size then
          return (name, cur)
        else
          let label ← copyBytes (ptr + 1) len.toNat
          parseDnsNameLoop base rounds
            ⟨ptr + 1 + len.toNat,
              (if name.isEmpty then name else name ++ [0x2E]) ++ label,
              jumped, cur⟩

def parseDnsName (base cur : Nat) : Mem (List UInt8 × Nat) :=
  parseDnsNameLoop size base 128 ⟨cur, [], false, cur⟩

def getDnsDomain (toUnicode : Option (List UInt8 → List UInt8)) :
    Mem (Option (List UInt8)) := do
  match ← dnsPtr size with
  | none => return none
  | some dns =>
      let qdcount ← readU16Be (dns + 4)
      if qdcount = 0 then
        return none
      else
        let (name, _) ← parseDnsName size dns (dns + kDnsHdr)
        return if name.isEmpty then
          none
        else
          match toUnicode with
          | some convert =>
              some (if isPunycode name then convert name else name)
          | none => some name

/-! ## The answers -/

def skipName : Nat → Nat → Mem Nat
  | 0, cur => return cur
  | rounds + 1, cur =>
      if cur < size then do
        let l ← load cur
        if l = 0 then
          return cur + 1
        else if l &&& 0xC0 = 0xC0 then
          return cur + 2
        else
          skipName rounds (cur + (1 + l.toNat))
      else
        return cur

def skipQuestions : Nat → Nat → Mem Nat
  | 0, cur => return cur
  | rounds + 1, cur =>
      if cur < size then do
        let behind ← skipName size 256 cur
        skipQuestions rounds (behind + 4)
      else
        return cur

def dnsAnswerStart (dns : Nat) : Mem (Option (Nat × Nat)) :=
  if dns + kDnsHdr > size then
    return none
  else do
    let flags ← load (dns + 2)
    if flags &&& 0x80 = 0 then
      return none
    else
      let qdcount ← readU16Be (dns + 4)
      let ancount ← readU16Be (dns + 6)
      if ancount = 0 then
        return none
      else
        let cur ← skipQuestions size qdcount (dns + kDnsHdr)
        return if cur < size then some (cur, ancount) else none

def answerData (rtype rdlen : Nat) : Nat → Nat → Mem (List (List UInt8))
  | 0, _ => return []
  | rounds + 1, cur =>
      if cur < size then do
        let fixed ← skipName size 256 cur
        if fixed + 10 > size then
          return []
        else
          let type ← readU16Be fixed
          let body := fixed + 10
          let length ← readU16Be (fixed + 8)
          if body + length > size then
            return []
          else if type = rtype ∧ length = rdlen then
            let bytes ← copyBytes body rdlen
            let later ← answerData rtype rdlen rounds (body + length)
            return bytes :: later
          else
            answerData rtype rdlen rounds (body + length)
      else
        return []

def answersOf (rtype rdlen : Nat) : Mem (List (List UInt8)) := do
  match ← dnsPtr size with
  | none => return []
  | some dns =>
      match ← dnsAnswerStart size dns with
      | none => return []
      | some (cur, ancount) => answerData size rtype rdlen ancount cur

variable (text : AddressText)

def getDnsIPv4Addresses : Mem (List IPv4Address) := do
  let answers ← answersOf size 1 4
  return answers.map fun bytes =>
    IPv4Address.ofValue text (BitVec.ofNat 32 (BigEndian.valueOf bytes))

def getDnsIPv6Addresses : Mem (List IPv6Address) := do
  let answers ← answersOf size 28 16
  return answers.map fun bytes =>
    IPv6Address.ofValue text (BitVec.ofNat 128 (BigEndian.valueOf bytes))

end Message

/-! ## Values and accesses -/

section Values

variable {data : IPPacketData}

theorem hasDnsPort_reads {udp : Nat} (inside : udp + 3 < data.size) :
    Reads data.size 4 (hasDnsPort udp) data.memory
      (decide (word data.memory udp = 53 ∨
        word data.memory (udp + 2) = 53)) := by
  have source : Reads data.size 2 (readU16Be udp) data.memory
      (word data.memory udp) := readU16Be_reads (by omega)
  have destination : Reads data.size 2 (readU16Be (udp + 2)) data.memory
      (word data.memory (udp + 2)) := readU16Be_reads inside
  refine (source.bind (?_ : Reads data.size 2 _ _ _)).mono (Nat.le_refl 4)
  by_cases dns : word data.memory udp = 53
  · rw [if_neg (not_not.mpr dns), decide_eq_true (Or.inl dns)]
    exact Reads.pure true
  · rw [if_pos dns]
    simpa [dns] using destination.bindPure fun port => decide (port = 53)

theorem dnsPayloadPtr_reads {udp : Nat} :
    Reads data.size 4 (dnsPayloadPtr data.size udp) data.memory
      (Dns.dnsPayloadPtr data udp) := by
  refine Reads.ite (fun _ => Reads.pure none) fun covered => ?_
  rw [kUdpHdr] at covered
  have ports := @hasDnsPort_reads data udp (by omega)
  have other :
      (word data.memory udp ≠ 53 ∧ word data.memory (udp + 2) ≠ 53) ↔
        ¬(word data.memory udp = 53 ∨ word data.memory (udp + 2) = 53) :=
    not_or.symm
  simp only [other, ite_not]
  simpa using ports.bindPure fun ported =>
    if ported then
      if udp + kUdpHdr + kDnsHdr ≤ data.size then
        some (udp + kUdpHdr)
      else
        none
    else
      none

theorem carriesUdp_reads {isVersion : Mem Bool} {wanted : Bool}
    {minimum protocol : Nat}
    (version : Reads data.size 1 isVersion data.memory wanted)
    (inside : protocol < minimum) :
    Reads data.size 2 (carriesUdp data.size isVersion minimum protocol)
      data.memory
      (decide (wanted = true ∧ minimum ≤ data.size ∧
        data.memory protocol = 17)) := by
  refine (version.bind (?_ : Reads data.size 1 _ _ _)).mono (Nat.le_refl 2)
  by_cases checked : wanted = true ∧ minimum ≤ data.size
  · have proto : Reads data.size 1 (load protocol) data.memory
        (data.memory protocol) := Reads.load (by omega)
    simpa [checked] using proto.bindPure fun byte => decide (byte = 17)
  · have skipped : (wanted && decide (minimum ≤ data.size)) = false := by
      simpa using checked
    rw [skipped, decide_eq_false fun all => checked ⟨all.1, all.2.1⟩]
    exact Reads.pure false

/-- The body of `IsIPv4` and of `IsIPv6`. -/
theorem hasVersion_reads {wanted : Nat} :
    Reads data.size 1
      (if data.size = 0 then
        return false
      else do
        let first ← load 0
        return first.toNat >>> 4 == wanted)
      data.memory (hasVersion data wanted) := by
  by_cases empty : data.size = 0
  · rw [if_pos empty]
    simpa [hasVersion, empty] using
      @Reads.pure _ data.size 1 data.memory false
  · have first : Reads data.size 1 (load 0) data.memory (data.memory 0) :=
      Reads.load (Nat.pos_of_ne_zero empty)
    rw [if_neg empty]
    simpa [hasVersion, version, empty] using
      first.bindPure fun byte => byte.toNat >>> 4 == wanted

theorem isIPv4_reads :
    Reads data.size 1 (isIPv4 data.size) data.memory (hasVersion data 4) :=
  hasVersion_reads

theorem isIPv6_reads :
    Reads data.size 1 (isIPv6 data.size) data.memory (hasVersion data 6) :=
  hasVersion_reads

theorem dnsPtr_reads :
    Reads data.size 8 (dnsPtr data.size) data.memory
      (Dns.dnsPtr data) := by
  have udp4 := @carriesUdp_reads data _ _ kMinIPv4 9 isIPv4_reads (by decide)
  have udp6 := @carriesUdp_reads data _ _ kMinIPv6 6 isIPv6_reads (by decide)
  have later : Reads data.size 6
      (do
        let udp6 ← carriesUdp data.size (isIPv6 data.size) kMinIPv6 6
        if udp6 then dnsPayloadPtr data.size kMinIPv6 else return none)
      data.memory
      (if hasVersion data 6 ∧ kMinIPv6 ≤ data.size ∧
          data.memory 6 = 17 then
        Dns.dnsPayloadPtr data kMinIPv6
      else
        none) := by
    refine (udp6.bind (?_ : Reads data.size 4 _ _ _)).mono (by decide)
    simp only [decide_eq_true_eq]
    exact Reads.ite (fun _ => dnsPayloadPtr_reads) fun _ => Reads.pure none
  refine (udp4.bind (?_ : Reads data.size 6 _ _ _)).mono (by decide)
  simp only [decide_eq_true_eq]
  refine Reads.ite (fun carries => ?_) fun _ => later
  have first : Reads data.size 1 (load 0) data.memory (data.memory 0) :=
    Reads.load (by have sized := carries.2.1; rw [kMinIPv4] at sized; omega)
  have header :
      (data.memory 0 &&& 0x0F).toNat * 4 = headerLength (data.memory 0) := by
    rw [headerLength, UInt8.toNat_and]
    rfl
  rw [header]
  exact (first.bind dnsPayloadPtr_reads).mono (by decide)

/-- The header of the message is inside the buffer. -/
theorem dnsPtr_inside {dns : Nat} (found : Dns.dnsPtr data = some dns) :
    dns + kDnsHdr ≤ data.size := by
  have payload {udp : Nat} (found : Dns.dnsPayloadPtr data udp = some dns) :
      dns + kDnsHdr ≤ data.size := by
    grind [Dns.dnsPayloadPtr]
  unfold Dns.dnsPtr at found
  split at found
  · exact payload found
  · split at found
    · exact payload found
    · cases found

theorem isDns_reads :
    Reads data.size 8 (isDns data.size) data.memory (Dns.isDns data) :=
  dnsPtr_reads.bindPure Option.isSome

/-! ## The loops -/

theorem parseDnsNameLoop_reads {base rounds : Nat} {cursor : NameCursor} :
    Reads data.size (rounds * 256)
      (parseDnsNameLoop data.size base rounds cursor) data.memory
      (Dns.parseDnsNameLoop data base rounds cursor) := by
  induction rounds generalizing cursor with
  | zero => exact Reads.pure _
  | succ rounds ih =>
      obtain ⟨ptr, name, jumped, cur⟩ := cursor
      refine Reads.ite (fun _ => Reads.pure _) fun inside => ?_
      have len : Reads data.size 1 (load ptr) data.memory
          (data.memory ptr) := Reads.load (by omega)
      refine Reads.mono
        (len.bind (?_ : Reads data.size (rounds * 256 + 255) _ _ _))
        (by omega)
      refine Reads.ite (fun _ => Reads.pure _) fun _ => ?_
      refine Reads.ite (fun _ => ?_) fun _ => ?_
      · refine Reads.ite (fun _ => Reads.pure _) fun fits => ?_
        have low : Reads data.size 1 (load (ptr + 1)) data.memory
            (data.memory (ptr + 1)) := Reads.load (by omega)
        exact (low.bind ih).mono (by omega)
      · refine Reads.ite (fun _ => Reads.pure _) fun fits => ?_
        have label := @copyBytes_reads data.size data.memory (ptr + 1)
          (data.memory ptr).toNat (by omega)
        have short := (data.memory ptr).toNat_lt
        exact (label.bind ih).mono (by omega)

theorem skipName_reads {rounds cur : Nat} :
    Reads data.size rounds (skipName data.size rounds cur) data.memory
      (Dns.skipName data rounds cur) := by
  induction rounds generalizing cur with
  | zero => exact Reads.pure _
  | succ rounds ih =>
      refine Reads.ite (fun inside => ?_) fun _ => Reads.pure _
      have l : Reads data.size 1 (load cur) data.memory (data.memory cur) :=
        Reads.load inside
      refine Reads.mono (l.bind (?_ : Reads data.size rounds _ _ _))
        (by omega)
      refine Reads.ite (fun _ => Reads.pure _) fun _ => ?_
      exact Reads.ite (fun _ => Reads.pure _) fun _ => ih

theorem skipQuestions_reads {rounds cur : Nat} :
    Reads data.size (rounds * 256) (skipQuestions data.size rounds cur)
      data.memory (Dns.skipQuestions data rounds cur) := by
  induction rounds generalizing cur with
  | zero => exact Reads.pure _
  | succ rounds ih =>
      refine Reads.ite (fun _ => ?_) fun _ => Reads.pure _
      have behind := @skipName_reads data 256 cur
      refine Reads.mono
        (behind.bind (?_ : Reads data.size (rounds * 256) _ _ _))
        (by omega)
      exact ih

theorem answerData_reads {rtype rdlen rounds cur : Nat} :
    Reads data.size (rounds * (260 + rdlen))
      (answerData data.size rtype rdlen rounds cur) data.memory
      (Dns.answerData data rtype rdlen rounds cur) := by
  induction rounds generalizing cur with
  | zero => exact Reads.pure _
  | succ rounds ih =>
      have later := Nat.add_one_mul rounds (260 + rdlen)
      refine Reads.ite (fun _ => ?_) fun _ => Reads.pure _
      have fixed := @skipName_reads data 256 cur
      refine Reads.mono
        (fixed.bind
          (?_ : Reads data.size (rounds * (260 + rdlen) + 4 + rdlen) _ _ _))
        (by omega)
      refine Reads.ite (fun _ => Reads.pure _) fun fits => ?_
      have type := @readU16Be_reads data.size data.memory
        (Dns.skipName data 256 cur) (by omega)
      have length := @readU16Be_reads data.size data.memory
        (Dns.skipName data 256 cur + 8) (by omega)
      refine Reads.mono
        (type.bind (length.bind
          (?_ : Reads data.size (rounds * (260 + rdlen) + rdlen) _ _ _)))
        (by omega)
      refine Reads.ite (fun _ => Reads.pure _) fun inside => ?_
      refine Reads.ite (fun wanted => ?_) fun _ => ih.mono (by omega)
      have bytes := @copyBytes_reads data.size data.memory
        (Dns.skipName data 256 cur + 10) rdlen (by omega)
      refine Reads.mono
        (bytes.bind
          (?_ : Reads data.size (rounds * (260 + rdlen)) _ _ _))
        (by omega)
      exact ih.bindPure (bytesAt _ _ _ :: ·)

/-! ## The methods -/

theorem getDnsDomain_reads {toUnicode : Option (List UInt8 → List UInt8)} :
    Reads data.size 32778 (getDnsDomain data.size toUnicode) data.memory
      (Dns.getDnsDomain data toUnicode) := by
  refine Reads.mono
    (dnsPtr_reads.bind (?_ : Reads data.size 32770 _ _ _)) (by decide)
  rw [Dns.getDnsDomain]
  cases found : Dns.dnsPtr data with
  | none => exact Reads.pure none
  | some dns =>
      have inside := dnsPtr_inside found
      rw [kDnsHdr] at inside
      have qdcount := @readU16Be_reads data.size data.memory (dns + 4)
        (by omega)
      refine Reads.mono
        (qdcount.bind (?_ : Reads data.size 32768 _ _ _)) (by decide)
      refine Reads.ite (fun _ => Reads.pure none) fun _ => ?_
      have name := @parseDnsNameLoop_reads data dns 128
        ⟨dns + kDnsHdr, [], false, dns + kDnsHdr⟩
      exact name.bindPure fun parsed =>
        if parsed.1.isEmpty then none else
          match toUnicode with
          | some convert =>
              some (if isPunycode parsed.1 then convert parsed.1
                else parsed.1)
          | none => some parsed.1

theorem dnsAnswerStart_reads {dns : Nat} :
    Reads data.size 16777216 (dnsAnswerStart data.size dns) data.memory
      (Dns.dnsAnswerStart data dns) := by
  refine Reads.ite (fun _ => Reads.pure none) fun covered => ?_
  rw [kDnsHdr] at covered
  have flags : Reads data.size 1 (load (dns + 2)) data.memory
      (data.memory (dns + 2)) := Reads.load (by omega)
  refine Reads.mono
    (flags.bind (?_ : Reads data.size 16777214 _ _ _)) (by decide)
  refine Reads.ite (fun _ => Reads.pure none) fun _ => ?_
  have qdcount := @readU16Be_reads data.size data.memory (dns + 4)
    (by omega)
  have ancount := @readU16Be_reads data.size data.memory (dns + 6)
    (by omega)
  refine Reads.mono
    (qdcount.bind (ancount.bind (?_ : Reads data.size 16777210 _ _ _)))
    (by decide)
  refine Reads.ite (fun _ => Reads.pure none) fun _ => ?_
  have cur := @skipQuestions_reads data (word data.memory (dns + 4))
    (dns + kDnsHdr)
  have few := word_lt data.memory (dns + 4)
  exact (cur.mono (by omega)).bindPure fun cur =>
    if cur < data.size then
      some (cur, word data.memory (dns + 6))
    else
      none

/-- The number of answers is a word. -/
theorem dnsAnswerStart_count {dns cur ancount : Nat}
    (started : Dns.dnsAnswerStart data dns = some (cur, ancount)) :
    ancount < 65536 := by
  have few := word_lt data.memory (dns + 6)
  grind [Dns.dnsAnswerStart]

theorem answersOf_reads {rtype rdlen : Nat} (short : rdlen ≤ 16) :
    Reads data.size 34865152 (answersOf data.size rtype rdlen) data.memory
      (Dns.answersOf data rtype rdlen) := by
  refine Reads.mono
    (dnsPtr_reads.bind (?_ : Reads data.size 34865144 _ _ _)) (by decide)
  rw [Dns.answersOf]
  cases Dns.dnsPtr data with
  | none => exact Reads.pure []
  | some dns =>
      refine Reads.mono
        (dnsAnswerStart_reads.bind
          (?_ : Reads data.size 18087928 _ _ _)) (by decide)
      dsimp only
      cases started : Dns.dnsAnswerStart data dns with
      | none => exact Reads.pure []
      | some start =>
          obtain ⟨cur, ancount⟩ := start
          have few : ancount < 65536 := dnsAnswerStart_count started
          have answers := @answerData_reads data rtype rdlen ancount cur
          refine answers.mono ?_
          calc
            ancount * (260 + rdlen) ≤ 65535 * 276 :=
              Nat.mul_le_mul (by omega) (by omega)
            _ ≤ 18087928 := by decide

theorem getDnsIPv4Addresses_reads {text : AddressText} :
    Reads data.size 34865152 (getDnsIPv4Addresses data.size text)
      data.memory (Dns.getDnsIPv4Addresses data text) :=
  (answersOf_reads (by decide)).bindPure _

theorem getDnsIPv6Addresses_reads {text : AddressText} :
    Reads data.size 34865152 (getDnsIPv6Addresses data.size text)
      data.memory (Dns.getDnsIPv6Addresses data text) :=
  (answersOf_reads (by decide)).bindPure _

end Values

/-! ## Every packet -/

/-- A method reads inside the buffer only, and ends after some accesses. -/
structure ReadsInside {α : Type} (most : Nat) (method : Nat → Mem α)
    (data : IPPacketData) : Prop where
  inside : Inside method data
  ends : (touchedBy (method data.size) data.memory).length ≤ most

theorem readsInside_of_reads {α : Type} {most : Nat}
    {method : Nat → Mem α} {data : IPPacketData} {result : α}
    (reads : Reads data.size most (method data.size) data.memory result) :
    ReadsInside most method data :=
  ⟨reads.touchedBy_inside, reads.touchedBy_length⟩

/-- The methods for DNS messages read inside the buffer only and end, whatever
the buffer holds; that it has been accepted is not needed. -/
theorem dnsMethods_readInside (data : IPPacketData)
    (toUnicode : Option (List UInt8 → List UInt8)) (text : AddressText) :
    ReadsInside 8 isDns data ∧
      ReadsInside 32778 (getDnsDomain · toUnicode) data ∧
      ReadsInside 34865152 (getDnsIPv4Addresses · text) data ∧
      ReadsInside 34865152 (getDnsIPv6Addresses · text) data :=
  ⟨readsInside_of_reads isDns_reads,
    readsInside_of_reads getDnsDomain_reads,
    readsInside_of_reads getDnsIPv4Addresses_reads,
    readsInside_of_reads getDnsIPv6Addresses_reads⟩

end Fptn.Network.DnsAccess
