import Fptn.Lib.BigEndian

/-!
# Looking into a ClientHello

What the server reads of a TLS ClientHello before it decides what to do with
a connection: whether it is one, the server name and the session id.  A
`std::string` is the list of its bytes.
-/

namespace Fptn.Network.TlsHello

open Fptn.BigEndian

abbrev ByteString := List UInt8

def isTlsClientHello (data : List UInt8) : Bool :=
  if data.length < 6 then
    false
  else if field 0 1 data ≠ 0x16 then
    false
  else if field 1 2 data < 0x0301 ∨ field 1 2 data > 0x0304 then
    false
  else
    field 5 1 data == 0x01

/-- Where the session id's length is: behind the record header, the handshake
header, the version and the random bytes. -/
def sessionIdAt : Nat := 43

/-- The loop over the extensions up to `extEnd`, of which each takes at least
four bytes. -/
def findSni (data : List UInt8) (extEnd : Nat) :
    Nat → Nat → Option ByteString
  | 0, _ => none
  | fuel + 1, p =>
      if extEnd < p + 4 then
        none
      else
        let type := field p 2 data
        let elen := field (p + 2) 2 data
        let p := p + 4
        if extEnd < p + elen then
          none
        else if type = 0 ∧ 5 ≤ elen then
          let nameLen := field (p + 3) 2 data
          if extEnd < p + 5 + nameLen then
            none
          else
            some ((data.drop (p + 5)).take nameLen)
        else
          findSni data extEnd fuel (p + elen)

def getTlsSNI (data : List UInt8) : Option ByteString :=
  let len := data.length
  if len < sessionIdAt + 1 then
    none
  else
    let cipherSuites := sessionIdAt + 1 + field sessionIdAt 1 data
    if len < cipherSuites + 2 then
      none
    else
      let compression := cipherSuites + 2 + field cipherSuites 2 data
      if len < compression + 1 then
        none
      else
        let extensions := compression + 1 + field compression 1 data
        if len < extensions + 2 then
          none
        else
          let extEnd := extensions + 2 + field extensions 2 data
          if len < extEnd then
            none
          else
            findSni data extEnd (extEnd - extensions) (extensions + 2)

def getTlsSessionId (data : List UInt8) : List UInt8 :=
  if data.length < sessionIdAt + 1 then
    []
  else
    let sidLen := field sessionIdAt 1 data
    if data.length < sessionIdAt + 1 + sidLen then
      []
    else
      (data.drop (sessionIdAt + 1)).take sidLen

/-! ## A complete ClientHello -/

/-- The loop over the messages of a record; `none` if the loop over the
records goes on. -/
def clientHelloMessages (data : List UInt8) (hend hpos : Nat) :
    Option Bool :=
  if hend < hpos + 4 then
    none
  else
    let msgType := field hpos 1 data
    let msgLength := field (hpos + 1) 3 data
    if hend < hpos + 4 + msgLength then
      some false
    else if msgType = 1 then
      some true
    else
      clientHelloMessages data hend (hpos + 4 + msgLength)
termination_by hend - hpos

/-- The loop over the records. -/
def clientHelloRecords (data : List UInt8) (pos : Nat) : Bool :=
  if data.length < pos + 5 then
    false
  else
    let contentType := field pos 1 data
    let recordEnd := pos + 5 + field (pos + 3) 2 data
    if data.length < recordEnd then
      false
    else if contentType = 22 then
      match clientHelloMessages data recordEnd (pos + 5) with
      | some found => found
      | none => clientHelloRecords data recordEnd
    else
      clientHelloRecords data recordEnd
termination_by data.length - pos

def isClientHelloComplete (data : List UInt8) : Bool :=
  if data.length < 5 then
    false
  else
    clientHelloRecords data 0

/-! ## A ClientHello with little in it -/

/-- From the cipher suites on: one suite, no compression, the name. -/
def afterSessionId (sni : ByteString) : List UInt8 :=
  [0x00, 0x02, 0x13, 0x01, 0x01, 0x00] ++ bytesOf 2 (sni.length + 9) ++
    [0x00, 0x00] ++ bytesOf 2 (sni.length + 5) ++
    bytesOf 2 (sni.length + 3) ++ [0x00] ++ bytesOf 2 sni.length ++ sni

/-- A ClientHello with a session id and a server name. -/
def minimalHello (sessionId : List UInt8) (sni : ByteString) :
    List UInt8 :=
  let rest := afterSessionId sni
  [0x16, 0x03, 0x01] ++ bytesOf 2 (39 + sessionId.length + rest.length) ++
    [0x01] ++ bytesOf 3 (35 + sessionId.length + rest.length) ++
    [0x03, 0x03] ++ List.replicate 32 0x5A ++ bytesOf 1 sessionId.length ++
    sessionId ++ rest

theorem isTlsClientHello_minimalHello (sessionId : List UInt8)
    (sni : ByteString) :
    isTlsClientHello (minimalHello sessionId sni) = true := by
  simp [isTlsClientHello, minimalHello, field, bytesOf, valueOf]

theorem getTlsSessionId_minimalHello {sessionId : List UInt8}
    (sni : ByteString) (short : sessionId.length < 256) :
    getTlsSessionId (minimalHello sessionId sni) = sessionId := by
  let size := sessionId.length + (afterSessionId sni).length
  obtain ⟨front, there, split⟩ :
      ∃ front : List UInt8, front.length = sessionIdAt ∧
        minimalHello sessionId sni =
          front ++ (bytesOf 1 sessionId.length ++
            (sessionId ++ afterSessionId sni)) := by
    refine
      ⟨[0x16, 0x03, 0x01] ++ bytesOf 2 (39 + size) ++ [0x01] ++
          bytesOf 3 (35 + size) ++ [0x03, 0x03] ++
          List.replicate 32 0x5A, by simp [sessionIdAt], ?_⟩
    simp only [minimalHello, List.append_assoc, Nat.add_assoc, size]
  have length :
      field sessionIdAt 1 (minimalHello sessionId sni) =
        sessionId.length := by
    rw [split, field_append _ there]
    exact Nat.mod_eq_of_lt short
  have behind :
      (minimalHello sessionId sni).drop (sessionIdAt + 1) =
        sessionId ++ afterSessionId sni := by
    rw [split, ← List.append_assoc]
    exact List.drop_left' (by simp [there])
  have enough :
      (minimalHello sessionId sni).length =
        sessionIdAt + 1 + sessionId.length +
          (afterSessionId sni).length := by
    simp [split, there, Nat.add_assoc]
  rw [getTlsSessionId, if_neg (by omega)]
  simp only [length]
  rw [if_neg (by omega), behind, List.take_left]

example : isTlsClientHello (minimalHello [1, 2, 3] [0x61]) = true ∧
    getTlsSNI (minimalHello [1, 2, 3] [0x61]) = some [0x61] ∧
    getTlsSessionId (minimalHello [1, 2, 3] [0x61]) = [1, 2, 3] := by
  decide

end Fptn.Network.TlsHello
