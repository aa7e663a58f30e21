import Fptn.Network.DnsAccess
import Fptn.Network.ServerFlight
import Fptn.Network.TlsHello

/-!
# Reading TLS records

The functions which look into TLS records once more, as programs which read
single bytes.  What they read comes from a stranger, so that no length in it
can be relied on.  Each program is shown to compute the value known already
and to read inside the buffer only.  No byte is read twice, which bounds the
number of reads by the size of the buffer.
-/

namespace Fptn.Network.TlsAccess

open Fptn.BigEndian
open Fptn.TracedMemory
open Fptn.Network.ChecksumValue
open Fptn.Network.DnsAccess
open Fptn.Network.IPUtils
open Fptn.Network.ServerFlight
open Fptn.Network.TlsHello

/-! ## Elementary reads -/

def readByte (p : Nat) : Mem Nat := do
  let byte ← load p
  return byte.toNat

def readU24Be (p : Nat) : Mem Nat := do
  let high ← load p
  let middle ← load (p + 1)
  let low ← load (p + 2)
  return high.toNat <<< 16 ||| middle.toNat <<< 8 ||| low.toNat

/-- The bytes which a buffer of this size holds. -/
def buffer (memory : Nat → UInt8) (size : Nat) : List UInt8 :=
  bytesAt memory 0 size

section Elementary

variable {memory : Nat → UInt8} {size p : Nat}

@[simp]
theorem length_buffer : (buffer memory size).length = size :=
  length_bytesAt memory 0 size

theorem take_bytesAt {start count width : Nat} (inside : width ≤ count) :
    (bytesAt memory start count).take width =
      bytesAt memory start width := by
  induction width generalizing start count with
  | zero => rfl
  | succ width ih =>
      obtain ⟨rest, rfl⟩ := Nat.exists_eq_add_of_le' inside
      rw [← Nat.add_assoc, bytesAt, List.take_succ_cons,
        ih (Nat.le_add_left width rest), bytesAt]

theorem drop_bytesAt {start count : Nat} :
    (bytesAt memory start (p + count)).drop p =
      bytesAt memory (start + p) count := by
  induction p generalizing start with
  | zero => rw [List.drop_zero, Nat.zero_add, Nat.add_zero]
  | succ p ih =>
      rw [Nat.add_right_comm, bytesAt, List.drop_succ_cons, ih,
        Nat.add_assoc, Nat.add_comm 1]

theorem take_drop_buffer {width : Nat} (inside : p + width ≤ size) :
    ((buffer memory size).drop p).take width = bytesAt memory p width := by
  obtain ⟨rest, rfl⟩ : ∃ rest, size = p + rest :=
    Nat.exists_eq_add_of_le (by omega)
  rw [buffer, drop_bytesAt, Nat.zero_add, take_bytesAt (by omega)]

theorem readByte_reads (inside : p < size) :
    Reads size 1 (readByte p) memory (field p 1 (buffer memory size)) := by
  have value : field p 1 (buffer memory size) = (memory p).toNat := by
    rw [field, take_drop_buffer inside]
    simp [bytesAt, valueOf]
  rw [value]
  exact (Reads.load inside).bindPure UInt8.toNat

theorem readU16Be_field (inside : p + 1 < size) :
    Reads size 2 (readU16Be p) memory
      (field p 2 (buffer memory size)) := by
  have value : field p 2 (buffer memory size) = word memory p := by
    rw [field, take_drop_buffer inside]
    simp [bytesAt, valueOf, word]
  rw [value]
  exact readU16Be_reads inside

theorem readU24Be_reads (inside : p + 2 < size) :
    Reads size 3 (readU24Be p) memory
      (field p 3 (buffer memory size)) := by
  have value : field p 3 (buffer memory size) =
      (memory p).toNat <<< 16 ||| (memory (p + 1)).toNat <<< 8 |||
        (memory (p + 2)).toNat := by
    have high : (memory p).toNat <<< 16 = (memory p).toNat <<< 8 <<< 8 :=
      Nat.shiftLeft_add _ 8 8
    have lowBound := (memory (p + 2)).toNat_lt
    rw [high, ← Nat.shiftLeft_or_distrib, shiftLeft_or_byte,
      ← Nat.shiftLeft_add_eq_or_of_lt lowBound, Nat.shiftLeft_eq, field,
      take_drop_buffer inside]
    simp [bytesAt, valueOf]
    ring
  rw [value]
  have first : Reads size 1 (load p) memory (memory p) :=
    Reads.load (by omega)
  have second : Reads size 1 (load (p + 1)) memory (memory (p + 1)) :=
    Reads.load (by omega)
  have third : Reads size 1 (load (p + 2)) memory (memory (p + 2)) :=
    Reads.load inside
  refine first.bind (?_ : Reads size 2 _ _ _)
  refine second.bind (?_ : Reads size 1 _ _ _)
  exact third.bindPure fun low =>
    (memory p).toNat <<< 16 ||| (memory (p + 1)).toNat <<< 8 ||| low.toNat

end Elementary

/-! ## The programs -/

section Programs

variable (size : Nat)

def isTlsClientHello : Mem Bool :=
  if size < 6 then
    return false
  else do
    let contentType ← readByte 0
    if contentType ≠ 0x16 then
      return false
    else
      let ver ← readU16Be 1
      if ver < 0x0301 ∨ ver > 0x0304 then
        return false
      else
        let msgType ← readByte 5
        return msgType == 0x01

def findSni (extEnd p : Nat) : Mem (Option ByteString) :=
  if extEnd < p + 4 then
    return none
  else do
    let type ← readU16Be p
    let elen ← readU16Be (p + 2)
    if extEnd < p + 4 + elen then
      return none
    else if type = 0 ∧ 5 ≤ elen then
      let nameLen ← readU16Be (p + 4 + 3)
      if extEnd < p + 4 + 5 + nameLen then
        return none
      else
        let name ← copyBytes (p + 4 + 5) nameLen
        return some name
    else
      findSni extEnd (p + 4 + elen)
termination_by extEnd - p

def getTlsSNI : Mem (Option ByteString) :=
  if size < sessionIdAt + 1 then
    return none
  else do
    let sidLen ← readByte sessionIdAt
    let cipherSuites := sessionIdAt + 1 + sidLen
    if size < cipherSuites + 2 then
      return none
    else
      let suites ← readU16Be cipherSuites
      let compression := cipherSuites + 2 + suites
      if size < compression + 1 then
        return none
      else
        let methods ← readByte compression
        let extensions := compression + 1 + methods
        if size < extensions + 2 then
          return none
        else
          let extTotal ← readU16Be extensions
          let extEnd := extensions + 2 + extTotal
          if size < extEnd then
            return none
          else
            findSni extEnd (extensions + 2)

def getTlsSessionId : Mem (List UInt8) :=
  if size < sessionIdAt + 1 then
    return []
  else do
    let sidLen ← readByte sessionIdAt
    if size < sessionIdAt + 1 + sidLen then
      return []
    else
      copyBytes (sessionIdAt + 1) sidLen

def clientHelloMessages (hend hpos : Nat) : Mem (Option Bool) :=
  if hend < hpos + 4 then
    return none
  else do
    let msgType ← readByte hpos
    let msgLength ← readU24Be (hpos + 1)
    if hend < hpos + 4 + msgLength then
      return some false
    else if msgType = 1 then
      return some true
    else
      clientHelloMessages hend (hpos + 4 + msgLength)
termination_by hend - hpos

def clientHelloRecords (pos : Nat) : Mem Bool :=
  if size < pos + 5 then
    return false
  else do
    let contentType ← readByte pos
    let recordLength ← readU16Be (pos + 3)
    let recordEnd := pos + 5 + recordLength
    if size < recordEnd then
      return false
    else if contentType = 22 then
      match ← clientHelloMessages recordEnd (pos + 5) with
      | some found => return found
      | none => clientHelloRecords recordEnd
    else
      clientHelloRecords recordEnd
termination_by size - pos

def isClientHelloComplete : Mem Bool :=
  if size < 5 then
    return false
  else
    clientHelloRecords size 0

def offersTls13 (extEnd p : Nat) : Mem Bool :=
  if extEnd < p + 4 then
    return false
  else do
    let extType ← readU16Be p
    let extLen ← readU16Be (p + 2)
    if extEnd < p + 4 + extLen then
      return false
    else if extType = 0x002b ∧ 2 ≤ extLen then
      let ver ← readU16Be (p + 4)
      if ver = 0x0304 then
        return true
      else
        offersTls13 extEnd (p + 4 + extLen)
    else
      offersTls13 extEnd (p + 4 + extLen)
termination_by extEnd - p

def isTls13ServerHello (bodyStart bodyLen : Nat) : Mem Bool :=
  let bodyEnd := bodyStart + bodyLen
  if size < bodyEnd ∨ bodyLen < 36 then
    return false
  else
    let p := bodyStart + 2 + 32
    if bodyEnd ≤ p then
      return false
    else do
      let sidLen ← readByte p
      if bodyEnd < p + 1 + sidLen + 5 then
        return false
      else
        let extensions := p + 1 + sidLen + 2 + 1
        let extTotal ← readU16Be extensions
        offersTls13 (min (extensions + 2 + extTotal) bodyEnd)
          (extensions + 2)

def message (flight : Flight) (hpos msgType msgLen : Nat) : Mem Flight :=
  if msgType = 2 then do
    let isTls13 ← isTls13ServerHello size (hpos + 4) msgLen
    return { flight with
      foundServerHello := true
      isTls13 := isTls13 }
  else
    return if flight.foundServerHello && !flight.isTls13 &&
        msgType = 14 then
      { flight with handshakeDone := true }
    else
      flight

def handshakeMessages (hend hpos : Nat) (flight : Flight) :
    Mem (Option Flight) :=
  if hend < hpos + 4 then
    return some flight
  else do
    let msgType ← readByte hpos
    let msgLen ← readU24Be (hpos + 1)
    if hend < hpos + 4 + msgLen then
      return none
    else
      let flight ← message size flight hpos msgType msgLen
      handshakeMessages hend (hpos + 4 + msgLen) flight
termination_by hend - hpos

/-- An encrypted record counts if nothing is behind it. -/
def applicationData (flight : Flight) (recordEnd : Nat) : Flight :=
  if flight.foundServerHello && flight.isTls13 && size ≤ recordEnd then
    { flight with handshakeDone := true }
  else
    flight

def flightComplete (pos : Nat) (flight : Flight) : Mem Bool :=
  if size < pos + 5 then
    return flight.foundServerHello && flight.handshakeDone
  else do
    let contentType ← readByte pos
    let recordLen ← readU16Be (pos + 3)
    let recordEnd := pos + 5 + recordLen
    if size < recordEnd then
      return false
    else if contentType = 22 then
      match ← handshakeMessages size recordEnd (pos + 5) flight with
      | none => return false
      | some flight => flightComplete recordEnd flight
    else if contentType = 23 then
      flightComplete recordEnd (applicationData size flight recordEnd)
    else
      flightComplete recordEnd flight
termination_by size - pos

def isServerHelloComplete : Mem Bool :=
  if size < 5 then
    return false
  else
    flightComplete size 0 .start

end Programs

/-! ## Values and reads -/

section Values

variable {memory : Nat → UInt8} {size : Nat}

theorem isTlsClientHello_reads :
    Reads size size (isTlsClientHello size) memory
      (TlsHello.isTlsClientHello (buffer memory size)) := by
  rw [isTlsClientHello, TlsHello.isTlsClientHello, length_buffer]
  refine Reads.ite (fun _ => Reads.pure false) fun enough => ?_
  have contentType := @readByte_reads memory size 0 (by omega)
  have ver := @readU16Be_field memory size 1 (by omega)
  have msgType := @readByte_reads memory size 5 (by omega)
  refine Reads.mono (contentType.bind (?_ : Reads size 3 _ _ _))
    (by omega)
  refine Reads.ite (fun _ => Reads.pure false) fun _ => ?_
  refine ver.bind (?_ : Reads size 1 _ _ _)
  refine Reads.ite (fun _ => Reads.pure false) fun _ => ?_
  exact msgType.bindPure (· == 0x01)

theorem findSni_reads {extEnd fuel p : Nat} (within : extEnd ≤ size)
    (fuelled : extEnd ≤ p + fuel) :
    Reads size (extEnd - p) (findSni extEnd p) memory
      (TlsHello.findSni (buffer memory size) extEnd fuel p) := by
  induction fuel generalizing p with
  | zero =>
      rw [findSni, if_pos (by omega)]
      exact Reads.pure none
  | succ fuel ih =>
      rw [findSni, TlsHello.findSni]
      refine Reads.ite (fun _ => Reads.pure none) fun inside => ?_
      have type := @readU16Be_field memory size p (by omega)
      have elen := @readU16Be_field memory size (p + 2) (by omega)
      refine Reads.mono
        (type.bind (elen.bind
          (?_ : Reads size (extEnd - (p + 4)) _ _ _))) (by omega)
      refine Reads.ite (fun _ => Reads.pure none) fun fits => ?_
      refine Reads.ite (fun named => ?_) fun _ =>
        (ih (by omega)).mono (by omega)
      have nameLen := @readU16Be_field memory size (p + 4 + 3) (by omega)
      refine Reads.mono
        (nameLen.bind (?_ : Reads size (extEnd - (p + 4 + 5)) _ _ _))
        (by omega)
      refine Reads.ite (fun _ => Reads.pure none) fun covered => ?_
      rw [take_drop_buffer (by omega)]
      have name := @copyBytes_reads size memory (p + 4 + 5)
        (field (p + 4 + 3) 2 (buffer memory size)) (by omega)
      exact (name.bindPure some).mono (by omega)

theorem getTlsSNI_reads :
    Reads size size (getTlsSNI size) memory
      (TlsHello.getTlsSNI (buffer memory size)) := by
  rw [getTlsSNI, TlsHello.getTlsSNI, length_buffer]
  refine Reads.ite (fun _ => Reads.pure none) fun hasSidLen => ?_
  have sidLen := @readByte_reads memory size sessionIdAt (by omega)
  refine Reads.mono (sidLen.bind (?_ : Reads size (size - 1) _ _ _))
    (by omega)
  refine Reads.ite (fun _ => Reads.pure none) fun hasSuites => ?_
  have suites := @readU16Be_field memory size
    (sessionIdAt + 1 + field sessionIdAt 1 (buffer memory size)) (by omega)
  refine Reads.mono (suites.bind (?_ : Reads size (size - 3) _ _ _))
    (by omega)
  refine Reads.ite (fun _ => Reads.pure none) fun hasMethods => ?_
  have methods :=
    @readByte_reads memory size _ (Nat.le_of_not_lt hasMethods)
  refine Reads.mono (methods.bind (?_ : Reads size (size - 4) _ _ _))
    (by omega)
  refine Reads.ite (fun _ => Reads.pure none) fun hasExtensions => ?_
  have extTotal :=
    @readU16Be_field memory size _ (Nat.le_of_not_lt hasExtensions)
  refine Reads.mono (extTotal.bind (?_ : Reads size (size - 6) _ _ _))
    (by omega)
  refine Reads.ite (fun _ => Reads.pure none) fun within => ?_
  exact (findSni_reads (by omega) (by omega)).mono (by omega)

theorem getTlsSessionId_reads :
    Reads size size (getTlsSessionId size) memory
      (TlsHello.getTlsSessionId (buffer memory size)) := by
  rw [getTlsSessionId, TlsHello.getTlsSessionId, length_buffer]
  refine Reads.ite (fun _ => Reads.pure []) fun hasSidLen => ?_
  have sidLen := @readByte_reads memory size sessionIdAt (by omega)
  refine Reads.mono (sidLen.bind (?_ : Reads size (size - 1) _ _ _))
    (by omega)
  refine Reads.ite (fun _ => Reads.pure []) fun covered => ?_
  rw [take_drop_buffer (by omega)]
  exact (copyBytes_reads (by omega)).mono (by omega)

/-! ## A complete ClientHello -/

theorem clientHelloMessages_reads {hend hpos : Nat}
    (within : hend ≤ size) :
    Reads size (hend - hpos) (clientHelloMessages hend hpos) memory
      (TlsHello.clientHelloMessages (buffer memory size) hend hpos) := by
  induction hpos using clientHelloMessages.induct hend with
  | case1 hpos short =>
      rw [clientHelloMessages, TlsHello.clientHelloMessages, if_pos short,
        if_pos short]
      exact Reads.pure none
  | case2 hpos inside ih =>
      rw [clientHelloMessages, TlsHello.clientHelloMessages,
        if_neg inside, if_neg inside]
      have msgType := @readByte_reads memory size hpos (by omega)
      have msgLength := @readU24Be_reads memory size (hpos + 1) (by omega)
      refine Reads.mono
        (msgType.bind (msgLength.bind
          (?_ : Reads size (hend - (hpos + 4)) _ _ _))) (by omega)
      refine Reads.ite (fun _ => Reads.pure (some false)) fun fits => ?_
      refine Reads.ite (fun _ => Reads.pure (some true)) fun _ => ?_
      exact (ih _ fits).mono (by omega)

theorem clientHelloRecords_reads {pos : Nat} :
    Reads size (size - pos) (clientHelloRecords size pos) memory
      (TlsHello.clientHelloRecords (buffer memory size) pos) := by
  induction pos using clientHelloRecords.induct size with
  | case1 pos short =>
      rw [clientHelloRecords, TlsHello.clientHelloRecords, length_buffer,
        if_pos short, if_pos short]
      exact Reads.pure false
  | case2 pos inside ih =>
      rw [clientHelloRecords, TlsHello.clientHelloRecords, length_buffer,
        if_neg inside, if_neg inside]
      have contentType := @readByte_reads memory size pos (by omega)
      have recordLength := @readU16Be_field memory size (pos + 3) (by omega)
      refine Reads.mono
        (contentType.bind (recordLength.bind
          (?_ : Reads size (size - (pos + 5)) _ _ _))) (by omega)
      refine Reads.ite (fun _ => Reads.pure false) fun covered => ?_
      have later := ih _ covered
      refine Reads.ite (fun _ => ?_) fun _ => later.mono (by omega)
      have messages := @clientHelloMessages_reads memory size _ (pos + 5)
        (Nat.le_of_not_lt covered)
      refine Reads.mono
        (messages.bind
          (?_ : Reads size (size -
            (pos + 5 + field (pos + 3) 2 (buffer memory size))) _ _ _))
        (by omega)
      cases TlsHello.clientHelloMessages (buffer memory size)
          (pos + 5 + field (pos + 3) 2 (buffer memory size)) (pos + 5) with
      | some found => exact Reads.pure found
      | none => exact later

theorem isClientHelloComplete_reads :
    Reads size size (isClientHelloComplete size) memory
      (TlsHello.isClientHelloComplete (buffer memory size)) := by
  rw [isClientHelloComplete, TlsHello.isClientHelloComplete, length_buffer]
  exact Reads.ite (fun _ => Reads.pure false)
    fun _ => clientHelloRecords_reads

/-! ## A complete flight of the server -/

theorem offersTls13_reads {extEnd p : Nat} (within : extEnd ≤ size) :
    Reads size (extEnd - p) (offersTls13 extEnd p) memory
      (ServerFlight.offersTls13 (buffer memory size) extEnd p) := by
  induction p using offersTls13.induct extEnd with
  | case1 p short =>
      rw [offersTls13, ServerFlight.offersTls13, if_pos short, if_pos short]
      exact Reads.pure false
  | case2 p inside ih other =>
      rw [offersTls13, ServerFlight.offersTls13, if_neg inside,
        if_neg inside]
      have extType := @readU16Be_field memory size p (by omega)
      have extLen := @readU16Be_field memory size (p + 2) (by omega)
      refine Reads.mono
        (extType.bind (extLen.bind
          (?_ : Reads size (extEnd - (p + 4)) _ _ _))) (by omega)
      refine Reads.ite (fun _ => Reads.pure false) fun fits => ?_
      by_cases supported :
          field p 2 (buffer memory size) = 0x002b ∧
            2 ≤ field (p + 2) 2 (buffer memory size)
      · have ver := @readU16Be_field memory size (p + 4) (by omega)
        have later := ih _ _ fits supported
        rw [if_pos supported]
        simp only [supported.1, supported.2, true_and]
        refine Reads.mono
          (ver.bind
            (?_ : Reads size (extEnd - (p + 4 +
              field (p + 2) 2 (buffer memory size))) _ _ _)) (by omega)
        exact Reads.ite (fun _ => Reads.pure true) fun _ => later
      · have unsupported :
            ¬(field p 2 (buffer memory size) = 0x002b ∧
              2 ≤ field (p + 2) 2 (buffer memory size) ∧
                field (p + 4) 2 (buffer memory size) = 0x0304) :=
          fun all => supported ⟨all.1, all.2.1⟩
        rw [if_neg supported, if_neg unsupported]
        exact (other _ fits).mono (by omega)

theorem isTls13ServerHello_reads {bodyStart bodyLen : Nat} :
    Reads size bodyLen (isTls13ServerHello size bodyStart bodyLen) memory
      (ServerFlight.isTls13ServerHello (buffer memory size) bodyStart
        bodyLen) := by
  rw [isTls13ServerHello, ServerFlight.isTls13ServerHello, length_buffer]
  refine Reads.ite (fun _ => Reads.pure false) fun covered => ?_
  refine Reads.ite (fun _ => Reads.pure false) fun behind => ?_
  have sidLen :=
    @readByte_reads memory size (bodyStart + 2 + 32) (by omega)
  refine Reads.mono (sidLen.bind (?_ : Reads size (bodyLen - 1) _ _ _))
    (by omega)
  refine Reads.ite (fun _ => Reads.pure false) fun fits => ?_
  have extTotal := @readU16Be_field memory size
    (bodyStart + 2 + 32 + 1 +
      field (bodyStart + 2 + 32) 1 (buffer memory size) + 2 + 1) (by omega)
  refine Reads.mono (extTotal.bind (?_ : Reads size (bodyLen - 3) _ _ _))
    (by omega)
  exact (offersTls13_reads (by omega)).mono (by omega)

theorem message_reads {flight : Flight} {hpos msgLen : Nat} :
    Reads size msgLen
      (message size flight hpos (field hpos 1 (buffer memory size)) msgLen)
      memory (flight.message (buffer memory size) hpos msgLen) := by
  rw [message, Flight.message]
  by_cases serverHello : field hpos 1 (buffer memory size) = 2
  · rw [serverHello]
    have tls13 := @isTls13ServerHello_reads memory size (hpos + 4) msgLen
    simpa using tls13.bindPure fun isTls13 =>
      { flight with foundServerHello := true, isTls13 := isTls13 }
  · rw [if_neg serverHello, if_neg serverHello]
    exact Reads.pure _

theorem handshakeMessages_reads {hend hpos : Nat} {flight : Flight}
    (within : hend ≤ size) :
    Reads size (hend - hpos) (handshakeMessages size hend hpos flight)
      memory
      (ServerFlight.handshakeMessages (buffer memory size) hend hpos
        flight) := by
  induction hpos, flight using handshakeMessages.induct hend with
  | case1 hpos flight short =>
      rw [handshakeMessages, ServerFlight.handshakeMessages,
        if_pos short, if_pos short]
      exact Reads.pure (some flight)
  | case2 hpos flight inside ih =>
      rw [handshakeMessages, ServerFlight.handshakeMessages,
        if_neg inside, if_neg inside]
      have msgType := @readByte_reads memory size hpos (by omega)
      have msgLen := @readU24Be_reads memory size (hpos + 1) (by omega)
      refine Reads.mono
        (msgType.bind (msgLen.bind
          (?_ : Reads size (hend - (hpos + 4)) _ _ _))) (by omega)
      refine Reads.ite (fun _ => Reads.pure none) fun fits => ?_
      exact (message_reads.bind (ih _ fits _)).mono (by omega)

theorem applicationData_buffer {flight : Flight} {recordEnd : Nat} :
    flight.applicationData (buffer memory size) recordEnd =
      applicationData size flight recordEnd := by
  rw [applicationData, Flight.applicationData, length_buffer]

theorem flightComplete_reads {pos : Nat} {flight : Flight} :
    Reads size (size - pos) (flightComplete size pos flight) memory
      (ServerFlight.flightComplete (buffer memory size) pos flight) := by
  induction pos, flight using flightComplete.induct size with
  | case1 pos flight short =>
      rw [flightComplete, ServerFlight.flightComplete, length_buffer,
        if_pos short, if_pos short]
      exact Reads.pure _
  | case2 pos flight inside handshake encrypted other =>
      rw [flightComplete, ServerFlight.flightComplete, length_buffer,
        if_neg inside, if_neg inside]
      have contentType := @readByte_reads memory size pos (by omega)
      have recordLen := @readU16Be_field memory size (pos + 3) (by omega)
      refine Reads.mono
        (contentType.bind (recordLen.bind
          (?_ : Reads size (size - (pos + 5)) _ _ _))) (by omega)
      refine Reads.ite (fun _ => Reads.pure false) fun covered => ?_
      refine Reads.ite (fun _ => ?_) fun _ => ?_
      · have messages := @handshakeMessages_reads memory size _ (pos + 5)
          flight (Nat.le_of_not_lt covered)
        refine Reads.mono
          (messages.bind
            (?_ : Reads size (size -
              (pos + 5 + field (pos + 3) 2 (buffer memory size))) _ _ _))
          (by omega)
        cases ServerFlight.handshakeMessages (buffer memory size)
            (pos + 5 + field (pos + 3) 2 (buffer memory size)) (pos + 5)
            flight with
        | none => exact Reads.pure false
        | some flight => exact handshake _ covered flight
      · rw [applicationData_buffer]
        exact Reads.ite
          (fun _ => (encrypted _ covered).mono (by omega))
          fun _ => (other _ covered).mono (by omega)

theorem isServerHelloComplete_reads :
    Reads size size (isServerHelloComplete size) memory
      (ServerFlight.isServerHelloComplete (buffer memory size)) := by
  rw [isServerHelloComplete, ServerFlight.isServerHelloComplete,
    length_buffer]
  exact Reads.ite (fun _ => Reads.pure false)
    fun _ => flightComplete_reads

end Values

/-! ## Every buffer -/

/-- A program reads inside the buffer only, and ends after no more reads than
the buffer has bytes. -/
structure ReadsInside {α : Type} (program : Nat → Mem α)
    (memory : Nat → UInt8) (size : Nat) : Prop where
  inside : ∀ offset ∈ touchedBy (program size) memory, offset < size
  ends : (touchedBy (program size) memory).length ≤ size

theorem readsInside_of_reads {α : Type} {program : Nat → Mem α}
    {memory : Nat → UInt8} {size : Nat} {result : α}
    (reads : Reads size size (program size) memory result) :
    ReadsInside program memory size :=
  ⟨reads.touchedBy_inside, reads.touchedBy_length⟩

/-- The functions which look into TLS records read inside the buffer only and
end, whatever the buffer holds and whatever lies behind it.  The test for
TLS 1.3 does so wherever it is told to begin. -/
theorem tlsFunctions_readInside (memory : Nat → UInt8) (size : Nat) :
    ReadsInside isTlsClientHello memory size ∧
      ReadsInside getTlsSNI memory size ∧
      ReadsInside getTlsSessionId memory size ∧
      ReadsInside isClientHelloComplete memory size ∧
      ReadsInside isServerHelloComplete memory size ∧
      ∀ bodyStart bodyLen,
        ∀ offset ∈ touchedBy (isTls13ServerHello size bodyStart bodyLen)
          memory, offset < size :=
  ⟨readsInside_of_reads isTlsClientHello_reads,
    readsInside_of_reads getTlsSNI_reads,
    readsInside_of_reads getTlsSessionId_reads,
    readsInside_of_reads isClientHelloComplete_reads,
    readsInside_of_reads isServerHelloComplete_reads,
    fun _ _ => isTls13ServerHello_reads.touchedBy_inside⟩

end Fptn.Network.TlsAccess
