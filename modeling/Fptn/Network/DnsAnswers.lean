import Fptn.Lib.DnsMessage
import Fptn.Network.DnsNames

/-!
# The addresses in DNS responses

A response is read with a pointer that goes from entry to entry, and there is
nothing in a message to check it with.  For the responses which are written as
they should be, it is shown to stand behind each name, each question and each
answer in turn, so that the addresses found are the data of the answers of
their type and length.
-/

namespace Fptn.Network.DnsAnswers

open Fptn.BigEndian
open Fptn.DnsMessage
open Fptn.DomainName
open Fptn.Network.ChecksumValue
open Fptn.Network.Dns
open Fptn.Network.DnsNames
open Fptn.Network.IPAddress
open Fptn.Network.Packet

/-! ## Packets with a message -/

/-- Memory has a UDP header of a DNS port and the message behind it. -/
structure Datagram (data : IPPacketData) (udp : Nat) (message : Message) :
    Prop where
  port : word data.memory udp = 53 ∨ word data.memory (udp + 2) = 53
  inside : udp + kUdpHdr + message.encode.length ≤ data.size
  stored : StoredAt data.memory (udp + kUdpHdr) message.encode

/-- A packet of either version with a message in UDP.  The header has any
length for version 4, and nothing follows it for version 6. -/
inductive Carries (data : IPPacketData) (message : Message) : Prop
  | ipv4 (ihl : Nat) (least : 5 ≤ ihl) (most : ihl < 16)
      (first : data.memory 0 = UInt8.ofNat (0x40 + ihl))
      (protocol : data.memory 9 = 17)
      (datagram : Datagram data (ihl * 4) message)
  | ipv6 (first : version data.memory = 6)
      (nextHeader : data.memory 6 = 17)
      (datagram : Datagram data kMinIPv6 message)

section Memory

variable {memory : Nat → UInt8} {offset : Nat}

theorem word_of_storedAt {value : Nat} (small : value < 65536)
    (stored : StoredAt memory offset (bytesOf 2 value)) :
    word memory offset = value := by
  obtain ⟨high, low, -⟩ := stored
  rw [word, high, low, UInt8.toNat_ofNat', UInt8.toNat_ofNat', Nat.pow_one,
    Nat.pow_zero, Nat.div_one]
  omega

end Memory

variable {data : IPPacketData} {message : Message} {udp dns cur : Nat}

theorem dnsPayloadPtr_datagram (datagram : Datagram data udp message) :
    dnsPayloadPtr data udp = some (udp + kUdpHdr) := by
  have inside := datagram.inside
  have header := message.length_header
  have port := datagram.port
  rw [Message.encode, List.length_append, header] at inside
  rw [dnsPayloadPtr, if_neg (by omega), if_neg (by omega)]
  exact if_pos (by rw [kDnsHdr]; omega)

/-- The message is found. -/
theorem dnsPtr_carries (carries : Carries data message) :
    ∃ udp, Datagram data udp message ∧
      dnsPtr data = some (udp + kUdpHdr) := by
  cases carries with
  | ipv4 ihl least most first protocol datagram =>
      have fields : ∀ ihl < 16,
          (UInt8.ofNat (0x40 + ihl)).toNat >>> 4 = 4 ∧
            (UInt8.ofNat (0x40 + ihl) &&& 0x0F).toNat = ihl := by
        decide
      obtain ⟨four, length⟩ := fields ihl most
      have inside := datagram.inside
      rw [kUdpHdr] at inside
      have accepted : hasVersion data 4 = true ∧ kMinIPv4 ≤ data.size ∧
          data.memory 9 = 17 := by
        refine ⟨?_, by rw [kMinIPv4]; omega, protocol⟩
        simp only [hasVersion, version, first, four, beq_self_eq_true,
          Bool.and_true, decide_eq_true_eq]
        omega
      refine ⟨ihl * 4, datagram, ?_⟩
      rw [dnsPtr, if_pos accepted, first, length]
      exact dnsPayloadPtr_datagram datagram
  | ipv6 first nextHeader datagram =>
      have inside := datagram.inside
      rw [kUdpHdr, kMinIPv6] at inside
      have notFour : ¬(hasVersion data 4 = true ∧ kMinIPv4 ≤ data.size ∧
          data.memory 9 = 17) := by
        simp [hasVersion, first]
      have accepted : hasVersion data 6 = true ∧ kMinIPv6 ≤ data.size ∧
          data.memory 6 = 17 := by
        refine ⟨?_, by rw [kMinIPv6]; omega, nextHeader⟩
        simp only [hasVersion, first, beq_self_eq_true, Bool.and_true,
          decide_eq_true_eq]
        omega
      refine ⟨kMinIPv6, datagram, ?_⟩
      rw [dnsPtr, if_neg notFour, if_pos accepted]
      exact dnsPayloadPtr_datagram datagram

/-! ## Behind names and questions -/

theorem skipName_ending {ending : Option Pointer} {rounds : Nat}
    (stored : StoredAt data.memory cur (encodeEnding ending))
    (inside : cur + (encodeEnding ending).length ≤ data.size) :
    skipName data (rounds + 1) cur =
      cur + (encodeEnding ending).length := by
  cases ending with
  | none =>
      have zero : data.memory cur = 0 := stored.1
      have here : cur < data.size := inside
      rw [skipName, if_pos here]
      exact if_pos zero
  | some pointer =>
      obtain ⟨notZero, bits, -⟩ := pointer.first_byte
      have first : data.memory cur = _ := stored.1
      have two : (encodeEnding (some pointer)).length = 2 := rfl
      have here : cur < data.size := by omega
      rw [skipName, if_pos here]
      simp only [first, notZero, bits, if_false, if_true]
      rfl

/-- A name is left behind it, if there are more rounds than labels. -/
theorem skipName_labels {labels : List Label} {ending : Option Pointer}
    {rounds : Nat} (enough : labels.length < rounds)
    (stored : StoredAt data.memory cur (encodeLabels labels ending))
    (inside : cur + (encodeLabels labels ending).length ≤ data.size) :
    skipName data rounds cur =
      cur + (encodeLabels labels ending).length := by
  induction labels generalizing rounds cur with
  | nil =>
      obtain ⟨rounds, rfl⟩ := Nat.exists_eq_succ_of_ne_zero
        (Nat.ne_of_gt enough)
      exact skipName_ending stored inside
  | cons label rest ih =>
      obtain ⟨rounds, rfl⟩ := Nat.exists_eq_succ_of_ne_zero
        (Nat.ne_of_gt (Nat.zero_lt_of_lt enough))
      have split : encodeLabels (label :: rest) ending =
          label.encode ++ encodeLabels rest ending := by
        simp [encodeLabels]
      obtain ⟨notZero, noBits, length⟩ := label.length_byte
      rw [split, storedAt_append] at stored
      rw [split, List.length_append] at inside ⊢
      have first : data.memory cur = _ := stored.1.1
      have step : 1 + label.bytes.length = label.encode.length := by
        rw [Label.length_encode, Nat.add_comm]
      rw [skipName, if_pos (by rw [Label.length_encode] at inside; omega)]
      have notPointer : ¬(0 : UInt8) = 0xC0 := by decide
      simp only [first, notZero, noBits, notPointer, length, step, if_false]
      rw [ih (Nat.lt_of_succ_lt_succ enough) stored.2 (by omega)]
      omega

theorem skipName_name {name : Name}
    (stored : StoredAt data.memory cur name.encode)
    (inside : cur + name.encode.length ≤ data.size) :
    skipName data 256 cur = cur + name.encode.length :=
  skipName_labels (Nat.lt_trans name.length_labels (by decide)) stored
    inside

theorem skipQuestions_questions {questions : List Question}
    (stored :
      StoredAt data.memory cur (questions.flatMap Question.encode))
    (inside :
      cur + (questions.flatMap Question.encode).length ≤ data.size) :
    skipQuestions data questions.length cur =
      cur + (questions.flatMap Question.encode).length := by
  induction questions generalizing cur with
  | nil => rfl
  | cons question rest ih =>
      rw [List.flatMap_cons, storedAt_append] at stored
      rw [List.flatMap_cons, List.length_append,
        Question.length_encode] at inside ⊢
      rw [Question.length_encode] at stored
      have name := skipName_name stored.1.left (by omega)
      rw [List.length_cons, skipQuestions, if_pos (by omega), name,
        Nat.add_assoc, ih stored.2 (by omega)]
      omega

/-! ## The answers -/

/-- The pointer goes from answer to answer, and the data of the wanted ones is
collected. -/
theorem answerData_answers {answers : List ResourceRecord} {rtype : UInt16}
    {rdlen : Nat}
    (stored :
      StoredAt data.memory cur (answers.flatMap ResourceRecord.encode))
    (inside :
      cur + (answers.flatMap ResourceRecord.encode).length ≤ data.size) :
    answerData data rtype.toNat rdlen answers.length cur =
      (answers.filter fun entry =>
        entry.rtype = rtype ∧ entry.rdata.length = rdlen).map
          ResourceRecord.rdata := by
  induction answers generalizing cur with
  | nil => rfl
  | cons entry rest ih =>
      rw [List.flatMap_cons, storedAt_append] at stored
      rw [List.flatMap_cons, List.length_append,
        ResourceRecord.length_encode] at inside
      rw [ResourceRecord.length_encode] at stored
      obtain ⟨whole, later⟩ := stored
      obtain ⟨storedName, storedRest⟩ := storedAt_append.mp whole
      obtain ⟨storedFixed, storedData⟩ := storedAt_append.mp storedRest
      rw [ResourceRecord.length_fixedPart] at storedData
      have name := skipName_name storedName (by omega)
      have type : word data.memory (cur + entry.name.encode.length) =
          entry.rtype.toNat :=
        word_of_storedAt entry.rtype.toNat_lt storedFixed.left
      have length :
          word data.memory (cur + entry.name.encode.length + 8) =
            entry.rdata.length := by
        have stored := storedFixed.right.right.right
        simp only [bytesOf_length] at stored
        exact word_of_storedAt entry.short stored
      have bytes := bytesAt_of_storedAt storedData
      rw [← Nat.add_assoc, ← Nat.add_assoc] at later
      have next := ih later (by omega)
      rw [List.length_cons, answerData, if_pos (by omega)]
      simp only [name, type, length, UInt16.toNat_inj, next]
      rw [if_neg (by omega), if_neg (by omega)]
      by_cases wanted : entry.rtype = rtype ∧ entry.rdata.length = rdlen
      · rw [if_pos wanted, List.filter_cons_of_pos (by simpa using wanted),
          List.map_cons, ← wanted.2, bytes]
      · rw [if_neg wanted, List.filter_cons_of_neg (by simpa using wanted)]

/-- The answers begin behind the questions, if there are any. -/
theorem dnsAnswerStart_response (response : message.isResponse = true)
    (stored : StoredAt data.memory dns message.encode)
    (inside : dns + message.encode.length ≤ data.size) :
    dnsAnswerStart data dns =
      if message.answers = [] then
        none
      else
        some
          (dns + kDnsHdr +
              (message.questions.flatMap Question.encode).length,
            message.answers.length) := by
  rw [Message.encode, storedAt_append, message.length_header] at stored
  obtain ⟨storedHeader, storedRest⟩ := stored
  have size : message.encode.length =
      12 + ((message.questions.flatMap Question.encode).length +
        ((message.answers.flatMap ResourceRecord.encode).length +
          (message.authority.flatMap ResourceRecord.encode ++
            message.additional.flatMap ResourceRecord.encode).length)) := by
    rw [Message.encode, List.length_append, List.length_append,
      List.length_append, message.length_header]
  rw [size] at inside
  have bits : data.memory (dns + 2) &&& 0x80 ≠ 0 := by
    have first := storedHeader.right.left.1
    have all : ∀ high < 128, UInt8.ofNat (128 + high) &&& 0x80 ≠ 0 := by
      decide
    have small := message.otherFlags_lt
    have value : message.flags / 256 ^ 1 = 128 + message.otherFlags / 256 := by
      rw [Message.flags, response, if_pos rfl]
      omega
    rw [bytesOf_length, value] at first
    rw [first]
    exact all _ (by omega)
  have questions : word data.memory (dns + 4) =
      message.questions.length := by
    have stored := storedHeader.right.right.left
    simp only [bytesOf_length] at stored
    exact word_of_storedAt message.questions_lt stored
  have answers : word data.memory (dns + 6) = message.answers.length := by
    have stored := storedHeader.right.right.right.left
    simp only [bytesOf_length] at stored
    exact word_of_storedAt message.answers_lt stored
  have behind := @skipQuestions_questions data (dns + kDnsHdr)
    message.questions storedRest.left (by rw [kDnsHdr]; omega)
  rw [dnsAnswerStart, if_neg (by rw [kDnsHdr]; omega), if_neg bits]
  simp only [questions, answers, behind, List.length_eq_zero_iff]
  split
  · rfl
  case isFalse some =>
    obtain ⟨entry, rest, cons⟩ := List.exists_cons_of_ne_nil some
    have positive :
        0 < (message.answers.flatMap ResourceRecord.encode).length := by
      rw [cons, List.flatMap_cons, List.length_append,
        ResourceRecord.length_encode]
      omega
    exact if_pos (by rw [kDnsHdr]; omega)

/-- All answers of a type and a length are found, in their order. -/
theorem answersOf_carries (carries : Carries data message)
    (response : message.isResponse = true) (rtype : UInt16) (rdlen : Nat) :
    answersOf data rtype.toNat rdlen = message.answersOf rtype rdlen := by
  obtain ⟨udp, datagram, found⟩ := dnsPtr_carries carries
  have inside := datagram.inside
  have stored := datagram.stored
  have start := dnsAnswerStart_response response stored inside
  simp only [answersOf, found, start, Message.answersOf]
  by_cases none : message.answers = []
  · rw [if_pos none, none]
    rfl
  · rw [if_neg none]
    rw [Message.encode, storedAt_append, message.length_header] at stored
    have storedAnswers := stored.2.right.left
    rw [Message.encode, List.length_append, List.length_append,
      List.length_append, message.length_header] at inside
    exact answerData_answers storedAnswers (by rw [kDnsHdr]; omega)

/-! ## The addresses -/

/-- The four bytes of an address, most significant one first. -/
def bytesOfIPv4 (address : IPv4Address) : List UInt8 :=
  bytesOf 4 address.impl.toNat

/-- The sixteen bytes of an address which is not default constructed. -/
def bytesOfIPv6 (address : IPv6Address) : Option (List UInt8) :=
  address.impl.map fun value => bytesOf 16 value.toNat

theorem length_answersOf {rtype : UInt16} {rdlength : Nat}
    {bytes : List UInt8} (found : bytes ∈ message.answersOf rtype rdlength) :
    bytes.length = rdlength := by
  obtain ⟨entry, member, rfl⟩ := List.mem_map.mp found
  have wanted := (List.mem_filter.mp member).2
  exact (of_decide_eq_true wanted).2

/-- An address made of bytes has these bytes. -/
theorem bytesOf_ofNat {bytes : List UInt8} {count : Nat}
    (length : bytes.length = count) :
    bytesOf count (BitVec.ofNat (8 * count) (valueOf bytes)).toNat =
      bytes := by
  rw [toNat_ofNat_valueOf length, ← length, bytesOf_valueOf]

/-- The addresses found in a response are the data of its answers of type A
with four bytes, and of those of type AAAA with sixteen bytes, in their
order. -/
theorem getDnsAddresses_exact (data : IPPacketData) (message : Message)
    (text : AddressText) (carries : Carries data message)
    (response : message.isResponse = true) :
    (getDnsIPv4Addresses data text).map bytesOfIPv4 =
        message.answersOf 1 4 ∧
      (getDnsIPv6Addresses data text).map bytesOfIPv6 =
        (message.answersOf 28 16).map some := by
  constructor
  · have found : answersOf data 1 4 = message.answersOf 1 4 :=
      answersOf_carries carries response 1 4
    rw [getDnsIPv4Addresses, found, List.map_map]
    conv => rhs; rw [← List.map_id (message.answersOf 1 4)]
    refine List.map_congr_left fun bytes member => ?_
    simpa [bytesOfIPv4] using
      @bytesOf_ofNat bytes 4 (length_answersOf member)
  · have found : answersOf data 28 16 = message.answersOf 28 16 :=
      answersOf_carries carries response 28 16
    rw [getDnsIPv6Addresses, found, List.map_map]
    refine List.map_congr_left fun bytes member => ?_
    simpa [bytesOfIPv6] using
      @bytesOf_ofNat bytes 16 (length_answersOf member)

/-- A pointer to the name of the first question. -/
def toQuestion : Name where
  labels := []
  ending := some ⟨12, by decide⟩
  short := by decide

/-- The name `a` is an alias of `b.a`, which has addresses. -/
def aliasResponse : Message where
  id := 7
  isResponse := true
  otherFlags := 0x180
  questions :=
    [{ name := ⟨[⟨[0x61], by decide, by decide⟩], none, by decide⟩
       qtype := 1
       qclass := 1 }]
  answers :=
    [{ name := toQuestion, rtype := 5, rclass := 1, ttl := 60
       rdata := [1, 0x62, 0xC0, 12], short := by decide },
      { name :=
          ⟨[⟨[0x62], by decide, by decide⟩], some ⟨12, by decide⟩,
            by decide⟩
        rtype := 1, rclass := 1, ttl := 60
        rdata := [192, 0, 2, 7], short := by decide },
      { name := toQuestion, rtype := 28, rclass := 1, ttl := 60
        rdata := [32, 1, 13, 184, 0, 1, 0, 1, 0, 1, 0, 1, 0, 1, 0, 7]
        short := by decide }]
  authority := []
  additional := []
  otherFlags_lt := by decide
  questions_lt := by decide
  answers_lt := by decide
  authority_lt := by decide
  additional_lt := by decide

/-- The response from the port of DNS, and three bytes too many. -/
def aliasPacket : IPPacketData :=
  let bytes : List UInt8 :=
    [0x45, 0, 0, 0, 0, 0, 0, 0, 64, 17, 0, 0, 10, 0, 0, 1, 10, 0, 0, 2] ++
      ([0, 53, 0x30, 0x39, 0, 0, 0, 0] ++
        (aliasResponse.encode ++ [0, 0, 0]))
  ⟨bytes.length, fun offset => bytes.getD offset 0⟩

theorem getDnsAddresses_alias :
    (getDnsIPv4Addresses aliasPacket plainText).map bytesOfIPv4 =
        [[192, 0, 2, 7]] ∧
      (getDnsIPv6Addresses aliasPacket plainText).map bytesOfIPv6 =
        [some [32, 1, 13, 184, 0, 1, 0, 1, 0, 1, 0, 1, 0, 1, 0, 7]] :=
  getDnsAddresses_exact aliasPacket aliasResponse plainText
    (.ipv4 5 (by decide) (by decide) (by decide) (by decide)
      ⟨by decide, by decide, by decide⟩)
    rfl

end Fptn.Network.DnsAnswers
