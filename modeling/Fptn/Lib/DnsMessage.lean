import Fptn.Lib.BigEndian
import Fptn.Lib.DomainName

/-!
# DNS messages

Messages in the format of RFC 1035: a header with the numbers of entries, the
questions, and three sections of resource records.  The numbers and the
lengths have two bytes each, which bounds the lists they are of.
-/

namespace Fptn.DnsMessage

open Fptn.BigEndian
open Fptn.DomainName

structure Question where
  name : Name
  qtype : UInt16
  qclass : UInt16

def Question.encode (question : Question) : List UInt8 :=
  question.name.encode ++
    (bytesOf 2 question.qtype.toNat ++ bytesOf 2 question.qclass.toNat)

/-- A resource record of any type. -/
structure ResourceRecord where
  name : Name
  rtype : UInt16
  rclass : UInt16
  ttl : UInt32
  rdata : List UInt8
  short : rdata.length < 65536

namespace ResourceRecord

variable (entry : ResourceRecord)

/-- Type, class, time to live and length. -/
def fixedPart : List UInt8 :=
  bytesOf 2 entry.rtype.toNat ++
    (bytesOf 2 entry.rclass.toNat ++
      (bytesOf 4 entry.ttl.toNat ++ bytesOf 2 entry.rdata.length))

def encode : List UInt8 :=
  entry.name.encode ++ (entry.fixedPart ++ entry.rdata)

end ResourceRecord

structure Message where
  id : UInt16
  isResponse : Bool
  otherFlags : Nat
  questions : List Question
  answers : List ResourceRecord
  authority : List ResourceRecord
  additional : List ResourceRecord
  otherFlags_lt : otherFlags < 0x8000
  questions_lt : questions.length < 65536
  answers_lt : answers.length < 65536
  authority_lt : authority.length < 65536
  additional_lt : additional.length < 65536

namespace Message

variable (message : Message)

/-- The first flag is the one for a response. -/
def flags : Nat :=
  (if message.isResponse then 0x8000 else 0) + message.otherFlags

def header : List UInt8 :=
  bytesOf 2 message.id.toNat ++
    (bytesOf 2 message.flags ++
      (bytesOf 2 message.questions.length ++
        (bytesOf 2 message.answers.length ++
          (bytesOf 2 message.authority.length ++
            bytesOf 2 message.additional.length))))

def encode : List UInt8 :=
  message.header ++
    (message.questions.flatMap Question.encode ++
      (message.answers.flatMap ResourceRecord.encode ++
        (message.authority.flatMap ResourceRecord.encode ++
          message.additional.flatMap ResourceRecord.encode)))

theorem length_header : message.header.length = 12 := by
  simp [header]

/-- The answers of one type and length. -/
def answersOf (rtype : UInt16) (rdlength : Nat) : List (List UInt8) :=
  (message.answers.filter fun entry =>
    entry.rtype = rtype ∧ entry.rdata.length = rdlength).map
      ResourceRecord.rdata

end Message

theorem Question.length_encode (question : Question) :
    question.encode.length = question.name.encode.length + 4 := by
  simp [Question.encode]

namespace ResourceRecord

variable (entry : ResourceRecord)

theorem length_fixedPart : entry.fixedPart.length = 10 := by
  simp [fixedPart]

theorem length_encode :
    entry.encode.length =
      entry.name.encode.length + 10 + entry.rdata.length := by
  rw [encode, List.length_append, List.length_append, length_fixedPart,
    Nat.add_assoc]

end ResourceRecord

end Fptn.DnsMessage
