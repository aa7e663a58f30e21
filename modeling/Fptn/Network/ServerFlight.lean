import Fptn.Lib.BigEndian
import Fptn.Lib.TimedStream

/-!
# Reading the server's first flight

The test whether a server has finished its part of a TLS handshake, and the
two functions which read from a socket until it has and nothing has come for a
while.  One sleeps and the other is a coroutine; the loop is the same.

Times are in milliseconds from the call.  Only sleeping takes time.
-/

namespace Fptn.Network.ServerFlight

open Fptn.BigEndian
open Fptn.TimedStream

/-! ## A complete flight -/

/-- The loop over the extensions of a ServerHello. -/
def offersTls13 (data : List UInt8) (extEnd p : Nat) : Bool :=
  if extEnd < p + 4 then
    false
  else
    let extType := field p 2 data
    let extLen := field (p + 2) 2 data
    if extEnd < p + 4 + extLen then
      false
    else if extType = 0x002b ∧ 2 ≤ extLen ∧
        field (p + 4) 2 data = 0x0304 then
      true
    else
      offersTls13 data extEnd (p + 4 + extLen)
termination_by extEnd - p

def isTls13ServerHello (data : List UInt8) (bodyStart bodyLen : Nat) :
    Bool :=
  let bodyEnd := bodyStart + bodyLen
  if data.length < bodyEnd ∨ bodyLen < 36 then
    false
  else
    -- behind the version and the random bytes
    let p := bodyStart + 2 + 32
    if bodyEnd ≤ p then
      false
    else
      let sidLen := field p 1 data
      if bodyEnd < p + 1 + sidLen + 5 then
        false
      else
        let extensions := p + 1 + sidLen + 2 + 1
        let extTotal := field extensions 2 data
        offersTls13 data (min (extensions + 2 + extTotal) bodyEnd)
          (extensions + 2)

/-- What `IsServerHelloComplete` has found so far. -/
structure Flight where
  foundServerHello : Bool
  isTls13 : Bool
  handshakeDone : Bool

namespace Flight

def start : Flight where
  foundServerHello := false
  isTls13 := false
  handshakeDone := false

/-- A handshake message whose body begins behind four bytes. -/
def message (flight : Flight) (data : List UInt8) (hpos msgLen : Nat) :
    Flight :=
  let msgType := field hpos 1 data
  let flight :=
    if msgType = 2 then
      { flight with
        foundServerHello := true
        isTls13 := isTls13ServerHello data (hpos + 4) msgLen }
    else
      flight
  if flight.foundServerHello && !flight.isTls13 && msgType = 14 then
    { flight with handshakeDone := true }
  else
    flight

/-- An encrypted record counts if nothing is behind it. -/
def applicationData (flight : Flight) (data : List UInt8)
    (recordEnd : Nat) : Flight :=
  if flight.foundServerHello && flight.isTls13 &&
      data.length ≤ recordEnd then
    { flight with handshakeDone := true }
  else
    flight

end Flight

/-- The loop over the messages of a record; `none` if one is cut off. -/
def handshakeMessages (data : List UInt8) (hend hpos : Nat)
    (flight : Flight) : Option Flight :=
  if hend < hpos + 4 then
    some flight
  else
    let msgLen := field (hpos + 1) 3 data
    if hend < hpos + 4 + msgLen then
      none
    else
      handshakeMessages data hend (hpos + 4 + msgLen)
        (flight.message data hpos msgLen)
termination_by hend - hpos

/-- The loop over the records. -/
def flightComplete (data : List UInt8) (pos : Nat) (flight : Flight) :
    Bool :=
  if data.length < pos + 5 then
    flight.foundServerHello && flight.handshakeDone
  else
    let contentType := field pos 1 data
    let recordEnd := pos + 5 + field (pos + 3) 2 data
    if data.length < recordEnd then
      false
    else if contentType = 22 then
      match handshakeMessages data recordEnd (pos + 5) flight with
      | none => false
      | some flight => flightComplete data recordEnd flight
    else if contentType = 23 then
      flightComplete data recordEnd
        (flight.applicationData data recordEnd)
    else
      flightComplete data recordEnd flight
termination_by data.length - pos

def isServerHelloComplete (data : List UInt8) : Bool :=
  if data.length < 5 then
    false
  else
    flightComplete data 0 .start

/-! ## The socket -/

/-- A connected socket; nobody else reads from it. -/
structure Socket where
  arrivals : List (Arrival UInt8)
  /-- Whether the end of the stream, or an error, is something to read for
  `available`.  It is not on the usual systems. -/
  reportsEnding : Bool

namespace Socket

variable (socket : Socket) (taken now : Nat)

def available : Nat :=
  let unread := (received socket.arrivals now).length - taken
  if unread = 0 ∧ socket.reportsEnding = true ∧
      (ended socket.arrivals now).isSome = true then
    1
  else
    unread

/-- `read_some`: the ending comes after the last byte. -/
def readSome (size : Nat) : List UInt8 × Option Ending :=
  let bytes := ((received socket.arrivals now).drop taken).take size
  (bytes, if bytes.isEmpty then ended socket.arrivals now else none)

/-- An ending which a reader who has read everything can see. -/
def noticed : Option Ending :=
  if socket.reportsEnding then ended socket.arrivals now else none

variable {socket taken now} {size : Nat}

theorem available_of_unread
    (unread : taken < (received socket.arrivals now).length) :
    socket.available taken now ≠ 0 := by
  have some_ :
      ¬ (received socket.arrivals now).length - taken = 0 := by
    omega
  rw [available, if_neg fun reported => some_ reported.1]
  exact some_

theorem readSome_of_unread (positive : 0 < size)
    (unread : taken < (received socket.arrivals now).length) :
    socket.readSome taken now size =
      (((received socket.arrivals now).drop taken).take size, none) := by
  have nonempty :
      (((received socket.arrivals now).drop taken).take size).isEmpty =
        false := by
    rw [List.isEmpty_eq_false_iff_exists_mem]
    refine List.length_pos_iff_exists_mem.mp ?_
    rw [List.length_take, List.length_drop]
    omega
  simp [readSome, nonempty]

theorem readSome_of_read
    (nothing : (received socket.arrivals now).length ≤ taken) :
    socket.readSome taken now size =
      ([], ended socket.arrivals now) := by
  simp [readSome, List.drop_eq_nil_of_le nothing]

theorem available_of_read
    (nothing : (received socket.arrivals now).length ≤ taken) :
    socket.available taken now =
      if (socket.noticed now).isSome then 1 else 0 := by
  have unread : (received socket.arrivals now).length - taken = 0 :=
    Nat.sub_eq_zero_of_le nothing
  rw [available, unread, noticed]
  cases socket.reportsEnding <;> simp

theorem ended_of_noticed {how : Ending}
    (seen : socket.noticed now = some how) :
    ended socket.arrivals now = some how := by
  unfold noticed at seen
  split at seen
  · exact seen
  · cases seen

end Socket

/-! ## The readers -/

def kPollInterval : Nat := 50

def kQuietMs : Nat := 150

abbrev TlsData := Option (List UInt8)

/-- What differs between the two functions. -/
structure Reader where
  bufferSize : Nat
  bufferSize_pos : 0 < bufferSize
  /-- The result at the end of the stream. -/
  atEof : List UInt8 → TlsData

/-- The local variables. -/
structure Progress where
  now : Nat
  data : List UInt8
  helloComplete : Bool
  lastDataTime : Nat

namespace Progress

def start : Progress where
  now := 0
  data := []
  helloComplete := false
  lastDataTime := 0

def append (progress : Progress) (bytes : List UInt8) : Progress :=
  if bytes.isEmpty then
    progress
  else
    { progress with
      data := progress.data ++ bytes
      lastDataTime := progress.now
      helloComplete := progress.helloComplete ||
        isServerHelloComplete (progress.data ++ bytes) }

end Progress

/-- One round of the loop goes on or returns. -/
inductive Round where
  | again (progress : Progress)
  | done (result : TlsData)

namespace Reader

variable (reader : Reader) (socket : Socket) (drainTimeout : Int)

def round (progress : Progress) : Round :=
  if drainTimeout ≤ progress.now then
    .done none
  else if socket.available progress.data.length progress.now = 0 then
    if progress.helloComplete ∧
        progress.lastDataTime + kQuietMs ≤ progress.now then
      .done (some progress.data)
    else
      .again { progress with now := progress.now + kPollInterval }
  else
    let read :=
      socket.readSome progress.data.length progress.now reader.bufferSize
    let progress := progress.append read.1
    match read.2 with
    | none => .again progress
    | some .eof => .done (reader.atEof progress.data)
    | some .error => .done none

variable {reader socket drainTimeout}

/-- While something is unread, a round appends as much as the buffer takes. -/
theorem round_of_unread {progress : Progress}
    (inTime : progress.now < drainTimeout)
    (unread : progress.data.length <
      (received socket.arrivals progress.now).length) :
    reader.round socket drainTimeout progress =
      .again
        (progress.append
          (((received socket.arrivals progress.now).drop
            progress.data.length).take reader.bufferSize)) := by
  rw [round, if_neg (by omega), if_neg (Socket.available_of_unread unread),
    Socket.readSome_of_unread reader.bufferSize_pos unread]

/-- With everything read, a round sleeps or is the last. -/
theorem round_of_read {progress : Progress}
    (inTime : progress.now < drainTimeout)
    (nothing : (received socket.arrivals progress.now).length ≤
      progress.data.length) :
    reader.round socket drainTimeout progress =
      match socket.noticed progress.now with
      | some .eof => .done (reader.atEof progress.data)
      | some .error => .done none
      | none =>
          if progress.helloComplete ∧
              progress.lastDataTime + kQuietMs ≤ progress.now then
            .done (some progress.data)
          else
            .again
              { progress with now := progress.now + kPollInterval } := by
  have available := Socket.available_of_read nothing
  cases seen : socket.noticed progress.now with
  | none =>
      rw [seen] at available
      rw [round, if_neg (by omega)]
      exact if_pos available
  | some how =>
      rw [seen] at available
      have something :
          socket.available progress.data.length progress.now ≠ 0 := by
        simp [available]
      rw [round, if_neg (by omega), if_neg something,
        Socket.readSome_of_read nothing, Socket.ended_of_noticed seen]
      cases how with
      | eof => rfl
      | error => rfl

theorem append_length {progress : Progress} {bytes : List UInt8} :
    (progress.append bytes).data.length =
      progress.data.length + bytes.length := by
  cases bytes with
  | nil => rfl
  | cons byte rest => exact List.length_append

@[simp]
theorem append_now {progress : Progress} {bytes : List UInt8} :
    (progress.append bytes).now = progress.now := by
  cases bytes with
  | nil => rfl
  | cons byte rest => rfl

/-- A round which is not the last sleeps, or reads something. -/
theorem round_again {progress next : Progress}
    (goesOn : reader.round socket drainTimeout progress = .again next) :
    (progress.now < drainTimeout ∧ progress.now < next.now) ∨
      (next.now = progress.now ∧
        progress.data.length <
            (received socket.arrivals progress.now).length ∧
          progress.data.length < next.data.length) := by
  by_cases late : drainTimeout ≤ progress.now
  · rw [round, if_pos late] at goesOn
    cases goesOn
  have inTime : progress.now < drainTimeout := by omega
  by_cases unread : progress.data.length <
      (received socket.arrivals progress.now).length
  · rw [round_of_unread inTime unread] at goesOn
    cases goesOn
    refine Or.inr ⟨append_now, unread, ?_⟩
    have positive := reader.bufferSize_pos
    rw [append_length, List.length_take, List.length_drop]
    omega
  · rw [round_of_read inTime (Nat.le_of_not_lt unread)] at goesOn
    split at goesOn
    · cases goesOn
    · cases goesOn
    · split at goesOn
      · cases goesOn
      · cases goesOn
        exact Or.inl ⟨inTime, Nat.lt_add_of_pos_right (by decide)⟩

variable (reader socket drainTimeout)

/-- The loop ends: either time or what has been read goes on. -/
def run (progress : Progress) : TlsData :=
  match _outcome : reader.round socket drainTimeout progress with
  | .again next => run next
  | .done result => result
termination_by
  ((drainTimeout - progress.now).toNat,
    (received socket.arrivals progress.now).length - progress.data.length)
decreasing_by
  obtain ⟨inTime, later⟩ | ⟨same, unread, more⟩ := round_again _outcome
  · exact Prod.Lex.left _ _ (by omega)
  · rw [same]
    exact Prod.Lex.right _ (by omega)

variable {reader socket drainTimeout}

theorem run_of_again {progress next : Progress}
    (goesOn : reader.round socket drainTimeout progress = .again next) :
    reader.run socket drainTimeout progress =
      reader.run socket drainTimeout next := by
  rw [run, goesOn]

theorem run_of_done {progress : Progress} {result : TlsData}
    (ends : reader.round socket drainTimeout progress = .done result) :
    reader.run socket drainTimeout progress = result := by
  rw [run, ends]

end Reader

def blocking : Reader where
  bufferSize := 1024 * 16
  bufferSize_pos := by decide
  atEof _ := none

def coroutine : Reader where
  bufferSize := 4096
  bufferSize_pos := by decide
  atEof data := if data.isEmpty then none else some data

def waitForServerTlsHello (socket : Socket) (drainTimeout : Int) :
    TlsData :=
  blocking.run socket drainTimeout .start

def waitForServerTlsHelloAsync (socket : Socket) (drainTimeout : Int) :
    TlsData :=
  coroutine.run socket drainTimeout .start

end Fptn.Network.ServerFlight
