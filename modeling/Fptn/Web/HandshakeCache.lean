import Fptn.Https.FakeHandshake
import Fptn.Lib.PartialRun
import Fptn.Lib.UnorderedMap
import Fptn.Network.FlightReaders

/-!
# The cache of decoy handshakes

`HandshakeCacheManager` keeps the first flights of real servers.  The calls of
`GetHandshake` are coroutines: they are suspended while they fetch, and only
the sections under the lock are atomic.

An answer is stored as the reader returned it.  The reader goes on to append
bytes after the flight was complete and does not test it again, so what is
stored need not be a complete flight.
-/

namespace Fptn.Web.HandshakeCache

open Fptn.Https.FakeHandshake
open Fptn.Network.FlightReaders
open Fptn.Network.ServerFlight
open Fptn.Network.TlsHello
open Fptn.PartialRun
open Fptn.TimedStream

abbrev HandshakeResponse := Option (List UInt8)

/-! ## Fetching -/

/-- What a remote host does during one fetch. -/
structure Remote where
  resolved : Bool
  connected : Bool
  written : Bool
  /-- The outer timer has not gone off first. -/
  inTime : Bool
  /-- The socket after a ClientHello. -/
  socket : List UInt8 → Socket

namespace Remote

def answers (remote : Remote) : Bool :=
  remote.resolved && remote.connected && remote.written && remote.inTime

end Remote

/-- The time is in seconds.  An empty response counts as none. -/
def fetchRealHandshake (remote : Remote)
    (clientHandshakeData : List UInt8) (timeout : Int) :
    HandshakeResponse :=
  if remote.answers then
    (waitForServerTlsHelloAsync (remote.socket clientHandshakeData)
      (1000 * timeout)).filter fun fullResponse => !fullResponse.isEmpty
  else
    none

/-! ## The manager -/

structure CacheEntry where
  data : List UInt8
  timestamp : Int

structure Config where
  defaultDomain : ByteString
  cacheTtl : Int

abbrev Cache := UnorderedMap.Map ByteString CacheEntry

/-- The entry, which is erased if it is too old. -/
def checkCache (config : Config) (cache : Cache) (cacheKey : ByteString)
    (now : Int) : Cache × HandshakeResponse :=
  match cache.lookup cacheKey with
  | none => (cache, none)
  | some entry =>
      if now - entry.timestamp < config.cacheTtl then
        (cache, some entry.data)
      else
        (cache.erase cacheKey, none)

/-- Where a call of `GetHandshake` is. -/
inductive Phase where
  | fetch (clientHandshakeData : List UInt8)
  | checkDefault
  | fetchDefault
  | storeDefault (response : List UInt8)
  | store (response : List UInt8)
  | returned (response : HandshakeResponse)

structure Call where
  sni : ByteString
  timeout : Int
  phase : Phase

structure State where
  cache : Cache
  calls : UnorderedMap.Map Nat Call

inductive Label where
  /-- A new call, up to where it is suspended or returns. -/
  | getHandshake (id : Nat) (sni : ByteString) (buffer : List UInt8)
      (timeout : Int) (draws : Draws) (now : Int)
  | fetched (id : Nat) (remote : Remote) (draws : Draws)
  /-- The next section under the lock. -/
  | locked (id : Nat) (now : Int)

namespace State

def create : State where
  cache := ∅
  calls := ∅

def setPhase (state : State) (id : Nat) (call : Call) (phase : Phase) :
    State :=
  { state with
    calls := state.calls.insert id { call with phase := phase } }

def put (state : State) (key : ByteString) (data : List UInt8) (now : Int) :
    State :=
  { state with
    cache := state.cache.insert key
      { data := data
        timestamp := now } }

/-- Ask the cache; a response which is not empty is returned. -/
def check (config : Config) (state : State) (id : Nat) (call : Call)
    (cacheKey : ByteString) (now : Int) (otherwise : Phase) : State :=
  let checked := checkCache config state.cache cacheKey now
  let state := { state with cache := checked.1 }
  match checked.2 with
  | none => state.setPhase id call otherwise
  | some response =>
      if response.isEmpty then
        state.setPhase id call otherwise
      else
        state.setPhase id call (.returned (some response))

end State

section Step

variable (sha1 : List UInt8 → List UInt8) (library : Library)
  (config : Config)

/-- The ClientHello for the original host. -/
def helloFor (sni : ByteString) (buffer : List UInt8) (draws : Draws) :
    List UInt8 :=
  if getTlsSNI buffer = some sni then
    buffer
  else
    generateDecoyTlsHandshake sha1 library sni draws

/-- One fetch of a call, and where it goes on. -/
def fetchStep (call : Call) (remote : Remote) (draws : Draws) :
    Option Phase :=
  match call.phase with
  | .fetch clientHandshakeData =>
      some
        ((fetchRealHandshake remote clientHandshakeData call.timeout).elim
          .checkDefault .store)
  | .fetchDefault =>
      let fallbackHello :=
        generateDecoyTlsHandshake sha1 library config.defaultDomain draws
      some
        ((fetchRealHandshake remote fallbackHello call.timeout).elim
          (.returned none) .storeDefault)
  | _ => none

def lockedStep (state : State) (id : Nat) (call : Call) (now : Int) :
    Option State :=
  match call.phase with
  | .checkDefault =>
      some
        (state.check config id call config.defaultDomain now .fetchDefault)
  | .storeDefault response =>
      some
        ((state.put config.defaultDomain response now).setPhase id call
          (.store response))
  | .store response =>
      some
        ((state.put call.sni response now).setPhase id call
          (.returned (some response)))
  | _ => none

def step (state : State) : Label → Option State
  | .getHandshake id sni buffer timeout draws now =>
      if id ∈ state.calls then
        none
      else
        let phase := .fetch (helloFor sha1 library sni buffer draws)
        let call :=
          { sni := sni
            timeout := timeout
            phase := phase }
        some (state.check config id call sni now phase)
  | .fetched id remote draws =>
      match state.calls.lookup id with
      | none => none
      | some call =>
          (fetchStep sha1 library config call remote draws).map
            (state.setPhase id call)
  | .locked id now =>
      match state.calls.lookup id with
      | none => none
      | some call => lockedStep config state id call now

/-- What a call sends in its next fetch. -/
def sentHello (call : Call) (draws : Draws) : Option (List UInt8) :=
  match call.phase with
  | .fetch clientHandshakeData => some clientHandshakeData
  | .fetchDefault =>
      some (generateDecoyTlsHandshake sha1 library config.defaultDomain draws)
  | _ => none

end Step

/-! ## Usable handshakes -/

def Complete (response : HandshakeResponse) : Prop :=
  ∀ data, response = some data → isServerHelloComplete data = true

/-- The response which a call will store or has returned. -/
def Phase.response : Phase → HandshakeResponse
  | .storeDefault response => some response
  | .store response => some response
  | .returned response => response
  | _ => none

/-- Whatever is stored, will be stored or has been returned is complete. -/
structure Usable (state : State) : Prop where
  cached : ∀ key entry, state.cache.lookup key = some entry →
    isServerHelloComplete entry.data = true
  calls : ∀ id call, state.calls.lookup id = some call →
    Complete call.phase.response

/-- A flight which is complete when the reader stops, not only before. -/
def CompleteAtStop (socket : Socket) (drainTimeout : Int) : Prop :=
  ∀ look, FirstStop socket coroutine.bufferSize drainTimeout look →
    socket.noticed (poll look) ≠ some .error → heard socket look ≠ [] →
      isServerHelloComplete (heard socket look) = true

/-- The hosts which are reached behave so. -/
def HostsComplete (sha1 : List UInt8 → List UInt8) (library : Library)
    (config : Config) (state : State) : Label → Prop
  | .fetched id remote draws =>
      ∀ call hello, state.calls.lookup id = some call →
        sentHello sha1 library config call draws = some hello →
          remote.answers = true →
            CompleteAtStop (remote.socket hello) (1000 * call.timeout)
  | _ => True

variable {state next : State} {id : Nat} {call : Call} {phase : Phase}
  {config : Config} {remote : Remote} {hello data : List UInt8}
  {timeout now : Int} {key : ByteString}

theorem complete_none : Complete none := by
  rintro data ⟨⟩

theorem complete_some :
    Complete (some data) ↔ isServerHelloComplete data = true := by
  simp [Complete]

theorem verdict_filter {socket : Socket} {look : Nat} :
    (verdict socket coroutine look).filter (fun bytes => !bytes.isEmpty) =
        some data ↔
      socket.noticed (poll look) ≠ some .error ∧
        heard socket look ≠ [] ∧ heard socket look = data := by
  have kept :
      (some (heard socket look)).filter (fun bytes => !bytes.isEmpty) =
          some data ↔
        heard socket look ≠ [] ∧ heard socket look = data := by
    by_cases empty : heard socket look = []
    · simp [empty]
    · simp [Option.filter, empty]
  rw [verdict]
  cases socket.noticed (poll look) with
  | none => simpa using kept
  | some how =>
      cases how with
      | error => simp
      | eof =>
          by_cases empty : heard socket look = []
          · simp [coroutine, empty]
          · simpa [coroutine, empty] using kept

/-- Only what the reader stops with can become a response. -/
theorem mem_fetch_iff :
    fetchRealHandshake remote hello timeout = some data ↔
      remote.answers = true ∧ ∃ look,
        FirstStop (remote.socket hello) coroutine.bufferSize
            (1000 * timeout) look ∧
          (remote.socket hello).noticed (poll look) ≠ some .error ∧
          heard (remote.socket hello) look ≠ [] ∧
          heard (remote.socket hello) look = data := by
  cases reached : remote.answers with
  | false => simp [fetchRealHandshake, reached]
  | true =>
      rw [fetchRealHandshake, if_pos reached, waitForServerTlsHelloAsync]
      by_cases stopped : ∃ look,
          FirstStop (remote.socket hello) coroutine.bufferSize
            (1000 * timeout) look
      · obtain ⟨look, stop⟩ := stopped
        rw [run_of_firstStop stop, verdict_filter]
        constructor
        · intro fetched
          exact ⟨rfl, look, stop, fetched⟩
        · rintro ⟨_, other, otherStop, fetched⟩
          obtain rfl := stop.unique otherStop
          exact fetched
      · rw [run_of_no_stop stopped]
        refine iff_of_false (by simp) ?_
        rintro ⟨_, look, stop, _⟩
        exact stopped ⟨look, stop⟩

/-- The response of a fetch, by what the host does. -/
theorem fetch_complete_iff :
    Complete (fetchRealHandshake remote hello timeout) ↔
      (remote.answers = true →
        CompleteAtStop (remote.socket hello) (1000 * timeout)) := by
  constructor
  · intro complete reached look stop noError nonempty
    exact
      complete _
        (mem_fetch_iff.mpr ⟨reached, look, stop, noError, nonempty, rfl⟩)
  · intro atStop data fetched
    obtain ⟨reached, look, stop, noError, nonempty, rfl⟩ :=
      mem_fetch_iff.mp fetched
    exact atStop reached look stop noError nonempty

theorem Usable.setPhase_iff (usable : Usable state) :
    Usable (state.setPhase id call phase) ↔ Complete phase.response := by
  constructor
  · intro after
    exact after.calls id { call with phase := phase } (AList.lookup_insert _)
  · intro complete
    refine ⟨usable.cached, fun other found there => ?_⟩
    by_cases same : other = id
    · subst same
      rw [State.setPhase, AList.lookup_insert] at there
      obtain rfl := Option.some.inj there
      exact complete
    · rw [State.setPhase, AList.lookup_insert_ne same] at there
      exact usable.calls other found there

theorem Usable.put (usable : Usable state)
    (complete : isServerHelloComplete data = true) :
    Usable (state.put key data now) := by
  refine ⟨fun other entry there => ?_, usable.calls⟩
  by_cases same : other = key
  · subst same
    rw [State.put, AList.lookup_insert] at there
    obtain rfl := Option.some.inj there
    exact complete
  · rw [State.put, AList.lookup_insert_ne same] at there
    exact usable.cached other entry there

theorem Usable.check (usable : Usable state)
    (complete : Complete phase.response) :
    Usable (state.check config id call key now phase) := by
  have erased : Usable { state with cache := state.cache.erase key } :=
    ⟨fun other entry there => usable.cached other entry
      (UnorderedMap.lookup_erase_eq_some.mp there).2, usable.calls⟩
  rw [State.check, checkCache]
  cases there : state.cache.lookup key with
  | none => exact usable.setPhase_iff.mpr complete
  | some entry =>
      by_cases fresh : now - entry.timestamp < config.cacheTtl
      · simp only [if_pos fresh]
        split
        · exact usable.setPhase_iff.mpr complete
        · exact
            usable.setPhase_iff.mpr
              (complete_some.mpr (usable.cached key entry there))
      · simp only [if_neg fresh]
        exact erased.setPhase_iff.mpr complete

theorem Usable.lockedStep (usable : Usable state)
    (there : state.calls.lookup id = some call)
    (taken : lockedStep config state id call now = some next) :
    Usable next := by
  have held := usable.calls id call there
  rw [HandshakeCache.lockedStep] at taken
  cases reached : call.phase with
  | fetch hello => simp [reached] at taken
  | fetchDefault => simp [reached] at taken
  | returned response => simp [reached] at taken
  | checkDefault =>
      rw [reached] at taken
      obtain rfl := Option.some.inj taken
      exact usable.check complete_none
  | storeDefault response =>
      rw [reached] at taken held
      obtain rfl := Option.some.inj taken
      exact (usable.put (complete_some.mp held)).setPhase_iff.mpr held
  | store response =>
      rw [reached] at taken held
      obtain rfl := Option.some.inj taken
      exact (usable.put (complete_some.mp held)).setPhase_iff.mpr held

/-- Where a fetch leads, nothing or its response is held. -/
theorem fetchStep_complete_iff {sha1 : List UInt8 → List UInt8}
    {library : Library} {draws : Draws}
    (taken : fetchStep sha1 library config call remote draws =
      some phase) :
    Complete phase.response ↔
      ∀ hello, sentHello sha1 library config call draws = some hello →
        remote.answers = true →
          CompleteAtStop (remote.socket hello) (1000 * call.timeout) := by
  have one (hello : List UInt8)
      (sent : sentHello sha1 library config call draws = some hello)
      (held : phase.response =
        fetchRealHandshake remote hello call.timeout) :
      Complete phase.response ↔
        ∀ hello, sentHello sha1 library config call draws = some hello →
          remote.answers = true →
            CompleteAtStop (remote.socket hello) (1000 * call.timeout) := by
    rw [held, fetch_complete_iff]
    constructor
    · intro behaves other otherSent
      obtain rfl := Option.some.inj (sent.symm.trans otherSent)
      exact behaves
    · intro behaves
      exact behaves hello sent
  rw [fetchStep] at taken
  cases reached : call.phase with
  | fetch hello =>
      simp only [reached, Option.some.injEq] at taken
      refine one hello (by rw [sentHello, reached]) ?_
      rw [← taken]
      cases fetchRealHandshake remote hello call.timeout <;> rfl
  | fetchDefault =>
      simp only [reached, Option.some.injEq] at taken
      refine one _ (by rw [sentHello, reached]) ?_
      rw [← taken]
      cases fetchRealHandshake _ _ call.timeout <;> rfl
  | checkDefault => simp [reached] at taken
  | storeDefault response => simp [reached] at taken
  | store response => simp [reached] at taken
  | returned response => simp [reached] at taken

/-- One step keeps everything usable exactly if the host behaves so. -/
theorem step_usable_iff (sha1 : List UInt8 → List UInt8)
    (library : Library) {label : Label} (usable : Usable state)
    (taken : step sha1 library config state label = some next) :
    Usable next ↔ HostsComplete sha1 library config state label := by
  cases label with
  | getHandshake id sni buffer timeout draws now =>
      rw [step] at taken
      split at taken
      · cases taken
      · obtain rfl := Option.some.inj taken
        exact iff_of_true (usable.check complete_none) trivial
  | locked id now =>
      refine iff_of_true ?_ trivial
      rw [step] at taken
      cases there : state.calls.lookup id with
      | none =>
          rw [there] at taken
          cases taken
      | some call =>
          rw [there] at taken
          exact usable.lockedStep there taken
  | fetched id remote draws =>
      rw [step] at taken
      cases there : state.calls.lookup id with
      | none =>
          rw [there] at taken
          cases taken
      | some call =>
          rw [there] at taken
          obtain ⟨phase, reached, rfl⟩ := Option.map_eq_some_iff.mp taken
          rw [usable.setPhase_iff, fetchStep_complete_iff reached]
          constructor
          · intro complete other hello found sent
            obtain rfl := Option.some.inj (there.symm.trans found)
            exact complete hello sent
          · intro behaves hello sent
            exact behaves call hello there sent

theorem usable_create : Usable .create :=
  { cached := fun _ _ there => by cases there
    calls := fun _ _ there => by cases there }

/-! ## A first call -/

/-- What a first call leaves, if the host answers. -/
def afterFirstCall (sni response : List UInt8) (timeout now : Int) :
    State where
  cache := AList.insert sni ⟨response, now⟩ ∅
  calls := AList.insert 0 ⟨sni, timeout, .returned (some response)⟩ ∅

theorem run_first_call {sha1 : List UInt8 → List UInt8} {library : Library}
    {sni buffer response : List UInt8} {draws : Draws}
    (fetched : ∀ hello,
      fetchRealHandshake remote hello timeout = some response) :
    run (step sha1 library config) .create
        [.getHandshake 0 sni buffer timeout draws now,
          .fetched 0 remote draws, .locked 0 now] =
      some (afterFirstCall sni response timeout now) := by
  let during (phase : Phase) : State :=
    { cache := ∅
      calls := AList.insert 0 ⟨sni, timeout, phase⟩ ∅ }
  let sent := helloFor sha1 library sni buffer draws
  have first :
      step sha1 library config .create
          (.getHandshake 0 sni buffer timeout draws now) =
        some (during (.fetch sent)) := rfl
  have second :
      step sha1 library config (during (.fetch sent))
          (.fetched 0 remote draws) =
        some (during (.store response)) := by
    simp only [step, during, AList.lookup_insert, fetchStep, fetched]
    rfl
  have third :
      step sha1 library config (during (.store response))
          (.locked 0 now) =
        some (afterFirstCall sni response timeout now) := by
    simp only [step, during, AList.lookup_insert, lockedStep]
    rfl
  rw [run, first]
  simp only [run, second, third]

/-- A ServerHello of TLS 1.3 and an encrypted record: 61 bytes. -/
def shortFlight : List UInt8 :=
  [0x16, 0x03, 0x03, 0x00, 0x32, 0x02, 0x00, 0x00, 0x2E, 0x03, 0x03] ++
    List.replicate 32 0x5A ++
    [0x00, 0x13, 0x01, 0x00, 0x00, 0x06, 0x00, 0x2B, 0x00, 0x02, 0x03,
      0x04] ++
    [0x17, 0x03, 0x03, 0x00, 0x01, 0x5A]

def sending (arrivals : List (Arrival UInt8)) : Socket where
  arrivals := arrivals
  reportsEnding := false

/-- A host which sends its flight and nothing more. -/
def usualHost : Socket := sending [.piece 0 shortFlight]

/-- A host which sends an alert 100 ms after its flight. -/
def closingHost : Socket :=
  sending
    [.piece 0 shortFlight,
      .piece 100 [0x15, 0x03, 0x03, 0x00, 0x02, 0x01, 0x00]]

def reachable (socket : Socket) : Remote where
  resolved := true
  connected := true
  written := true
  inTime := true
  socket _ := socket

/-- The reader stops at the first quiet look after a flight which has come at
once. -/
theorem fetch_sending {arrivals : List (Arrival UInt8)} (look : Nat)
    (complete : CompletesIn coroutine.bufferSize 0
      (heard (sending arrivals) 0))
    (inTime : poll look < 1000 * timeout)
    (quiet : Quiet (sending arrivals) look)
    (first : ∀ earlier < look, ¬ Quiet (sending arrivals) earlier) :
    fetchRealHandshake (reachable (sending arrivals)) hello timeout =
      some (heard (sending arrivals) look) := by
  refine mem_fetch_iff.mpr ⟨rfl, look, ⟨inTime, ?_, ?_⟩, ?_, ?_, rfl⟩
  · exact Or.inr ⟨quiet, 0, Nat.zero_le _, complete⟩
  · rintro earlier before (seen | ⟨still, _⟩)
    · cases seen
    · exact first earlier before still
  · rintro ⟨⟩
  · obtain ⟨place, after, inside, _⟩ := complete
    have more : (heard (sending arrivals) 0).length ≤
        (heard (sending arrivals) look).length :=
      (heard_grows (Nat.zero_le look)).length_le
    rw [← List.length_pos_iff]
    exact Nat.lt_of_lt_of_le (Nat.zero_lt_of_lt after)
      (Nat.le_trans inside more)

theorem shortFlight_completesIn :
    CompletesIn coroutine.bufferSize 0 shortFlight :=
  ⟨61, by decide, by decide, Or.inl rfl, by decide +kernel⟩

theorem fetch_usualHost (hello : List UInt8) :
    fetchRealHandshake (reachable usualHost) hello 5 = some shortFlight :=
  fetch_sending 3 shortFlight_completesIn (by decide) (by decide)
    (by decide)

theorem fetch_closingHost (hello : List UInt8) :
    fetchRealHandshake (reachable closingHost) hello 5 =
      some (heard closingHost 5) :=
  fetch_sending 5 shortFlight_completesIn (by decide) (by decide)
    (by decide)

/-- Parameters of the step which these runs do not depend on. -/
def noLibrary : Library where
  generate _ _ _ := none
  clientHello _ _ := []

def noDraws : Draws where
  random2 := none
  timestamp2 := 0
  random := none
  timestamp := 0

def defaultSite : Config where
  defaultDomain := [0x61, 0x2E, 0x63, 0x6F, 0x6D]
  cacheTtl := 3600000

/-- A first call for a site, up to its return. -/
def firstCall (host : Socket) : List Label :=
  [.getHandshake 0 [0x62] [] 5 noDraws 0,
    .fetched 0 (reachable host) noDraws, .locked 0 0]

theorem completeAtStop_usualHost (drainTimeout : Int) :
    CompleteAtStop usualHost drainTimeout := by
  intro look _ _ _
  have same : heard usualHost look = shortFlight := by
    rw [heard, usualHost, sending, received, if_neg (Nat.not_lt_zero _)]
    exact List.append_nil _
  rw [same]
  decide +kernel

/-! ## Runs -/

/-- In every run, with any calls and any hosts, everything is usable in all
states exactly if the flight of each host which is reached is complete when
the reader stops. -/
theorem run_usable_iff {sha1 : List UInt8 → List UInt8} {library : Library}
    {config : Config} {labels : List Label} {last : State}
    (reached : run (step sha1 library config) .create labels = some last) :
    Along (step sha1 library config) (fun visited _ => Usable visited)
          .create labels ∧
        Usable last ↔
      Along (step sha1 library config) (HostsComplete sha1 library config)
        .create labels :=
  run_along_iff (fun _ _ _ (always : True) _ => always)
    (fun _ _ _ _ usable taken => step_usable_iff sha1 library usable taken)
    trivial usable_create reached

/-- The flight of a usual host is cached and usable. -/
theorem run_usable_iff_usualHost :
    Usable (afterFirstCall [0x62] shortFlight 5 0) :=
  have reached :
      run (step (fun number => number) noLibrary defaultSite) .create
          (firstCall usualHost) =
        some (afterFirstCall [0x62] shortFlight 5 0) :=
    run_first_call fetch_usualHost
  ((run_usable_iff reached).mpr
    ⟨trivial, fun _ _ =>
      ⟨fun _ _ _ _ _ => completeAtStop_usualHost _, fun _ _ =>
        ⟨trivial, fun _ _ => trivial⟩⟩⟩).2

/-- The alert is cached together with the flight. -/
theorem closingHost_cached :
    ∃ last entry,
      run (step (fun number => number) noLibrary defaultSite) .create
            (firstCall closingHost) =
          some last ∧
        last.cache.lookup [0x62] = some entry ∧
        isServerHelloComplete entry.data = false := by
  refine
    ⟨_, _, run_first_call fetch_closingHost, AList.lookup_insert _, ?_⟩
  decide +kernel

end Fptn.Web.HandshakeCache
