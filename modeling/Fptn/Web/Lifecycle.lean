import Fptn.Lib.NumberText
import Fptn.NatTable.Multiplexer

/-!
# The times of a connection

A client gives in two headers how many milliseconds its connection is for
sending, and after how many it is closed.  `ParseRequestUint` reads them as
unsigned numbers of 64 bits, with whatever signs `stoull` accepts.

The connection adds them to the reading of the clock at which it was accepted,
in signed nanoseconds.  A number for which this time is beyond the clock's
range is not the time which was asked for, and never one after it.
-/

namespace Fptn.Web.Lifecycle

open Fptn.NumberText
open Fptn.NatTable.Multiplexer

/-- A `std::string`. -/
abbrev ByteString := List UInt8

/-- A header of the request; only a text which is read whole counts. -/
def parseRequestUint (param : Option ByteString) (defaultValue : UInt64) :
    UInt64 :=
  match param with
  | none => defaultValue
  | some valueStr =>
      match stoull valueStr with
      | none => defaultValue
      | some (value, pos) =>
          if pos ≠ valueStr.length then defaultValue else value

/-- The durations with which `HandleWebSocket2` opens a connection. -/
def withDurations (params : ConnectParams)
    (sendDuration ttl : Option ByteString) : ConnectParams :=
  { params with
    request :=
      { params.request with
        sendDurationMs := parseRequestUint sendDuration 0
        ttlMs := parseRequestUint ttl 0 } }

/-! ## The roles which are asked for -/

/-- The roles of a connection, for two readings of the clock one after the
other.  The durations are milliseconds. -/
structure InTime (connection : ClientConnection)
    (sendDuration ttl : Nat) (now later : Int) : Prop where
  bidirectional :
    sendDuration = 0 → ttl = 0 →
      connection.isSending now = true ∧ connection.isReceiving now = true
  sending :
    ¬(sendDuration = 0 ∧ ttl = 0) →
      (connection.isSending now = true ↔
        now < connection.acceptedAt + sendDuration * 1000000)
  receiving :
    ¬(sendDuration = 0 ∧ ttl = 0) →
      (connection.isReceiving now = true ↔
        connection.acceptedAt + sendDuration * 1000000 ≤ now)
  expired :
    connection.isExpired now = true →
      ttl ≠ 0 ∧ connection.acceptedAt + ttl * 1000000 ≤ now
  /-- `PlaceByRole`, which reads the clock for each role. -/
  placed :
    connection.isSending now = true ∨ connection.isReceiving later = true

/-! ## Times in range -/

theorem acceptedAtPlus_lt (connection : ClientConnection)
    (duration : UInt64) :
    connection.acceptedAtPlus duration < 9223372036854775808 :=
  (Int64.ofInt connection.acceptedAt +
    duration.toInt64 * 1000000).toInt_lt

theorem toInt_toInt64 {duration : UInt64}
    (small : duration.toNat < 9223372036854775808) :
    duration.toInt64.toInt = duration.toNat := by
  have signed : duration.toInt64.toInt =
      if 2 * duration.toNat < 18446744073709551616 then
        (duration.toNat : Int)
      else
        duration.toNat - 18446744073709551616 :=
    BitVec.toInt_eq_toNat_cond duration.toBitVec
  rw [signed, if_pos (by omega)]

/-- A time in the range of the clock is the one which was asked for. -/
theorem acceptedAtPlus_eq {connection : ClientConnection}
    {duration : UInt64} (started : 0 ≤ connection.acceptedAt)
    (inRange :
      connection.acceptedAt + duration.toNat * 1000000 <
        9223372036854775808) :
    connection.acceptedAtPlus duration =
      connection.acceptedAt + duration.toNat * 1000000 := by
  have accepted :
      (Int64.ofInt connection.acceptedAt).toInt = connection.acceptedAt :=
    Int64.toInt_ofInt_of_le (by omega) (by omega)
  have million : (1000000 : Int64).toInt = 1000000 := by decide
  have signed := @toInt_toInt64 duration (by omega)
  have nanoseconds :
      (duration.toInt64 * 1000000).toInt = duration.toNat * 1000000 := by
    rw [Int64.toInt_mul, signed, million]
    exact Int.bmod_eq_of_le (by omega) (by omega)
  rw [ClientConnection.acceptedAtPlus, Int64.toInt_add, accepted,
    nanoseconds]
  exact Int.bmod_eq_of_le (by omega) (by omega)

/-! ## The roles of a connection -/

section Roles

variable {connection : ClientConnection}

theorem isBidirectional_iff :
    connection.isBidirectional = true ↔
      connection.params.request.sendDurationMs.toNat = 0 ∧
        connection.params.request.ttlMs.toNat = 0 := by
  simp only [ClientConnection.isBidirectional, Bool.and_eq_true, beq_iff_eq,
    ← UInt64.toNat_inj, UInt64.toNat_ofNat, Nat.zero_mod]

theorem isSending_iff (other : connection.isBidirectional = false)
    (now : Int) :
    connection.isSending now = true ↔ now < connection.sendUntil := by
  rw [ClientConnection.isSending, other, Bool.false_or, decide_eq_true_iff]

theorem isReceiving_iff (other : connection.isBidirectional = false)
    (now : Int) :
    connection.isReceiving now = true ↔ connection.sendUntil ≤ now := by
  rw [ClientConnection.isReceiving, other, Bool.false_or,
    decide_eq_true_iff]

theorem isExpired_iff (now : Int) :
    connection.isExpired now = true ↔
      connection.params.request.ttlMs.toNat ≠ 0 ∧
        connection.acceptedAtPlus connection.params.request.ttlMs ≤ now := by
  simp only [ClientConnection.isExpired, Bool.and_eq_true, bne_iff_ne, ne_eq,
    decide_eq_true_iff, ← UInt64.toNat_inj, UInt64.toNat_ofNat,
    Nat.zero_mod]

/-- A connection is placed in one bucket at least, whatever its times. -/
theorem isSending_or_isReceiving {now later : Int} (ordered : now ≤ later) :
    connection.isSending now = true ∨
      connection.isReceiving later = true := by
  by_cases sending : connection.isSending now = true
  · exact Or.inl sending
  · exact
      Or.inr
        (connection.isReceiving_of_not_isSending ordered
          (Bool.eq_false_iff.mpr sending))

/-- The times of a connection are in the range of the clock. -/
def InRange (acceptedAt : Int) (sendDuration ttl : Nat) : Prop :=
  sendDuration = 0 ∧ ttl = 0 ∨
    acceptedAt + sendDuration * 1000000 < 9223372036854775808 ∧
      acceptedAt + ttl * 1000000 < 9223372036854775808

theorem inTime_of_inRange (started : 0 ≤ connection.acceptedAt)
    (inRange :
      InRange connection.acceptedAt
        connection.params.request.sendDurationMs.toNat
        connection.params.request.ttlMs.toNat)
    {now later : Int} (ordered : now ≤ later) :
    InTime connection connection.params.request.sendDurationMs.toNat
      connection.params.request.ttlMs.toNat now later := by
  have placed := @isSending_or_isReceiving connection now later ordered
  rcases inRange with ⟨noSend, noTtl⟩ | ⟨sendInRange, ttlInRange⟩
  · have both := isBidirectional_iff.mpr ⟨noSend, noTtl⟩
    refine ⟨fun _ _ => ?_, ?_, ?_, ?_, placed⟩
    · simp only [ClientConnection.isSending, ClientConnection.isReceiving,
        both, Bool.true_or, and_self]
    · exact fun other => absurd ⟨noSend, noTtl⟩ other
    · exact fun other => absurd ⟨noSend, noTtl⟩ other
    · exact fun expired => absurd noTtl ((isExpired_iff now).mp expired).1
  · have until_ :
        connection.sendUntil =
          connection.acceptedAt +
            connection.params.request.sendDurationMs.toNat * 1000000 :=
      acceptedAtPlus_eq started sendInRange
    refine ⟨?_, ?_, ?_, ?_, placed⟩
    · intro noSend noTtl
      have both := isBidirectional_iff.mpr ⟨noSend, noTtl⟩
      simp only [ClientConnection.isSending, ClientConnection.isReceiving,
        both, Bool.true_or, and_self]
    · intro some_
      have other :=
        Bool.eq_false_iff.mpr (mt isBidirectional_iff.mp some_)
      rw [isSending_iff other, until_]
    · intro some_
      have other :=
        Bool.eq_false_iff.mpr (mt isBidirectional_iff.mp some_)
      rw [isReceiving_iff other, until_]
    · intro expired
      obtain ⟨closes, passed⟩ := (isExpired_iff now).mp expired
      rw [acceptedAtPlus_eq started ttlInRange] at passed
      exact ⟨closes, passed⟩

/-- At the last reading of the clock no time which it can reach is still to
come. -/
theorem inRange_of_inTime
    (inTime :
      InTime connection connection.params.request.sendDurationMs.toNat
        connection.params.request.ttlMs.toNat 9223372036854775807
        9223372036854775807)
    (accepted : connection.acceptedAt < 9223372036854775808) :
    InRange connection.acceptedAt
      connection.params.request.sendDurationMs.toNat
      connection.params.request.ttlMs.toNat := by
  by_cases none_ :
      connection.params.request.sendDurationMs.toNat = 0 ∧
        connection.params.request.ttlMs.toNat = 0
  · exact Or.inl none_
  refine Or.inr ⟨?_, ?_⟩
  · have other := Bool.eq_false_iff.mpr (mt isBidirectional_iff.mp none_)
    have before :=
      acceptedAtPlus_lt connection connection.params.request.sendDurationMs
    have over_ : connection.sendUntil ≤ 9223372036854775807 :=
      Int.le_of_lt_add_one before
    have asked :=
      (inTime.receiving none_).mp ((isReceiving_iff other _).mpr over_)
    omega
  · by_cases stays : connection.params.request.ttlMs.toNat = 0
    · rw [stays]
      omega
    · have before :=
        acceptedAtPlus_lt connection connection.params.request.ttlMs
      have asked :=
        (inTime.expired
          ((isExpired_iff _).mpr ⟨stays, Int.le_of_lt_add_one before⟩)).2
      omega

end Roles

/-- A connection has the roles which its headers ask for, at all readings of
the clock from its acceptance on, exactly if its times can be reached. -/
theorem inTime_iff (params : ConnectParams)
    (sendDuration ttl : Option ByteString) (acceptedAt : Int)
    (started : 0 ≤ acceptedAt)
    (accepted : acceptedAt < 9223372036854775808) :
    (∀ now later, acceptedAt ≤ now → now ≤ later →
        later < 9223372036854775808 →
          InTime ⟨withDurations params sendDuration ttl, acceptedAt⟩
            (parseRequestUint sendDuration 0).toNat
            (parseRequestUint ttl 0).toNat now later) ↔
      InRange acceptedAt (parseRequestUint sendDuration 0).toNat
        (parseRequestUint ttl 0).toNat := by
  constructor
  · intro inTime
    exact
      @inRange_of_inTime
        ⟨withDurations params sendDuration ttl, acceptedAt⟩
        (inTime 9223372036854775807 9223372036854775807
          (Int.le_of_lt_add_one accepted) le_rfl (by decide))
        accepted
  · intro inRange now later _ ordered _
    exact
      @inTime_of_inRange
        ⟨withDurations params sendDuration ttl, acceptedAt⟩ started inRange
        now later ordered

def exampleParams : ConnectParams where
  clientId := 1
  request := {
    sessionId := "session"
    sendDurationMs := 0
    ttlMs := 0
    clientTunVpnIpv4 := default
    clientTunVpnIpv6 := default }
  user := ⟨"user"⟩

/-- Five seconds for sending, and closed after a minute. -/
theorem inTime_iff_minute :
    (∀ now later, (1000000000 : Int) ≤ now → now ≤ later →
        later < 9223372036854775808 →
          InTime
            ⟨withDurations exampleParams (some [0x35, 0x30, 0x30, 0x30])
              (some [0x36, 0x30, 0x30, 0x30, 0x30]), 1000000000⟩
            (parseRequestUint (some [0x35, 0x30, 0x30, 0x30]) 0).toNat
            (parseRequestUint (some [0x36, 0x30, 0x30, 0x30, 0x30])
              0).toNat now later) ↔
      InRange 1000000000
        (parseRequestUint (some [0x35, 0x30, 0x30, 0x30]) 0).toNat
        (parseRequestUint (some [0x36, 0x30, 0x30, 0x30, 0x30]) 0).toNat :=
  inTime_iff exampleParams (some [0x35, 0x30, 0x30, 0x30])
    (some [0x36, 0x30, 0x30, 0x30, 0x30]) 1000000000 (by decide) (by decide)

/-- With `X-Send-Duration: -1` the number is the largest there is, and the
connection is not sending when it is accepted. -/
theorem inTime_minus_one :
    (parseRequestUint (some [0x2D, 0x31]) 0).toNat = 18446744073709551615 ∧
      ¬∀ (params : ConnectParams) (sendDuration ttl : Option ByteString)
          (acceptedAt now later : Int),
        0 ≤ acceptedAt → acceptedAt ≤ now → now ≤ later →
          later < 9223372036854775808 →
            InTime ⟨withDurations params sendDuration ttl, acceptedAt⟩
              (parseRequestUint sendDuration 0).toNat
              (parseRequestUint ttl 0).toNat now later := by
  have value :
      (parseRequestUint (some [0x2D, 0x31]) 0).toNat =
        18446744073709551615 := by
    decide
  refine ⟨value, fun inTime => ?_⟩
  have sending :=
    (inTime exampleParams (some [0x2D, 0x31]) none 1000000000 1000000000
      1000000000 (by decide) le_rfl le_rfl (by decide)).sending
  rw [value] at sending
  have notSending :
      ClientConnection.isSending
        ⟨withDurations exampleParams (some [0x2D, 0x31]) none, 1000000000⟩
        1000000000 = false := by
    decide
  have asked := (sending (by decide)).mpr (by decide)
  rw [notSending] at asked
  cases asked

end Fptn.Web.Lifecycle
