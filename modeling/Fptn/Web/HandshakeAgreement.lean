import Fptn.Https.FakeHandshake
import Fptn.Web.SelfProxy

/-!
# Agreement after the decoy handshake

The real TLS handshake begins on both sides after the decoy.  It succeeds
only if both sides use the same obfuscator, and if the server has taken from
the connection all that the client has sent for the decoy.  The server
concludes from the place of a key what the client will do.
-/

namespace Fptn.Web.HandshakeAgreement

open Fptn.BigEndian
open Fptn.EventLog
open Fptn.Https.DecoySession
open Fptn.Https.FakeHandshake
open Fptn.Network.TlsHello
open Fptn.Obfuscator.Methods
open Fptn.Web.SelfProxy
open Fptn.Web.SessionRun

/-! ## Both sides of a connection -/

deriving instance DecidableEq for Tunnel

/-- The obfuscator after some events. -/
def attached (before : Option Method) (log : List Event) : Option Method :=
  log.foldl
    (fun current event =>
      match event with
      | .setObfuscator method => method
      | _ => current)
    before

/-- The bytes which a session takes from the connection. -/
def consumed (log : List Event) : List UInt8 :=
  log.flatMap fun event =>
    match event with
    | .received data => data
    | _ => []

/-- What the client sends before the first obfuscated record. -/
def sent (exchange : Exchange) : List UInt8 :=
  exchange.clientHello ++ exchange.changeCipherSpec

/-- The server goes on to the TLS handshake, with the obfuscator of the
client and behind the bytes of the decoy. -/
structure Aligned (session : Logged Event Outcome) (tunnel : Tunnel)
    (exchange : Exchange) : Prop where
  goesOn : value session = .tlsHandshake
  obfuscator : attached none (events session) = tunnel.obfuscator
  consumed : consumed (events session) = sent exchange

/-- The decoy handshake reaches the server, which has an answer. -/
structure Delivered (surroundings : Surroundings) (exchange : Exchange) :
    Prop where
  initCompleted : surroundings.initCompleted = true
  first : ∃ firstBytes, surroundings.firstBytes = some firstBytes ∧
    firstBytes <+: exchange.clientHello
  peeked : surroundings.clientHello = some exchange.clientHello
  read : surroundings.decoy.clientHello = some exchange.clientHello
  cleaned : surroundings.decoy.cleaned = []
  answered : surroundings.decoy.handshakeAnswer.isSome = true
  written : surroundings.decoy.written = true
  afterwards :
    surroundings.decoy.changeCipherSpec = exchange.changeCipherSpec

/-! ## The server's side -/

section Server

variable {system : System} {config : Config}
  {surroundings : Surroundings} {exchange : Exchange} {tunnel : Tunnel}

theorem attached_append (before : Option Method) (front back : List Event) :
    attached before (front ++ back) =
      attached (attached before front) back :=
  List.foldl_append

theorem consumed_append (front back : List Event) :
    consumed (front ++ back) = consumed front ++ consumed back :=
  List.flatMap_append

/-- A part of a session which leaves the connection as it is. -/
def Quiet {α : Type} (program : Logged Event α) : Prop :=
  attached none (events program) = none ∧ consumed (events program) = []

theorem aligned_bind_quiet {α : Type} {first : Logged Event α}
    {next : α → Logged Event Outcome} (quiet : Quiet first) :
    Aligned (first >>= next) tunnel exchange ↔
      Aligned (next (value first)) tunnel exchange := by
  have obfuscator :
      attached none (events (first >>= next)) =
        attached none (events (next (value first))) := by
    rw [events_bind, attached_append, quiet.1]
  have bytes :
      consumed (events (first >>= next)) =
        consumed (events (next (value first))) := by
    rw [events_bind, consumed_append, quiet.2, List.nil_append]
  constructor
  · rintro ⟨goesOn, same, taken⟩
    exact ⟨goesOn, obfuscator ▸ same, bytes ▸ taken⟩
  · rintro ⟨goesOn, same, taken⟩
    exact ⟨goesOn, obfuscator.trans same, bytes.trans taken⟩

theorem not_aligned_closed {session : Logged Event Outcome}
    (closed : value session = .closed) :
    ¬Aligned session tunnel exchange := by
  intro aligned
  cases closed.symm.trans aligned.goesOn

theorem isSniSelfProxyAttempt_quiet {reading : SelfProxyReading}
    {sni : ByteString} :
    Quiet (isSniSelfProxyAttempt system config reading sni) := by
  rw [Quiet, isSniSelfProxyAttempt_events]
  split <;> simp [attached, consumed]

theorem isRecursiveAttempt_quiet {reading : SelfProxyReading}
    {sni : ByteString} :
    Quiet (isRecursiveAttempt system config reading sni) := by
  unfold isRecursiveAttempt
  split
  · exact isSniSelfProxyAttempt_quiet
  · exact ⟨rfl, rfl⟩

theorem detectProbing_quiet {clientHello : List UInt8} {sni : ByteString} :
    Quiet (detectProbing system config surroundings clientHello sni) := by
  rw [Quiet, detectProbing_events]
  exact isRecursiveAttempt_quiet

/-- The first version leaves the ChangeCipherSpec on the connection. -/
theorem decoyHandshake_first
    (delivered : Delivered surroundings exchange)
    {result : RealityResult} (first : result.isRealityMode = true) :
    events (decoyHandshake config surroundings result) =
      [.received exchange.clientHello, .setObfuscator (some .tls)] := by
  simp [decoyHandshake, first, performFakeHandshake, delivered.read]

theorem decoyHandshake_second
    (delivered : Delivered surroundings exchange)
    (marked : exchange.changeCipherSpec = makeClientChangeCipherSpec)
    {result : RealityResult} (second : result.isRealityMode = false) :
    value (decoyHandshake config surroundings result) = true ∧
      events (decoyHandshake config surroundings result) =
        [.received exchange.clientHello,
          .received exchange.changeCipherSpec,
          .setObfuscator (some .tls2)] := by
  obtain ⟨answer, answered⟩ :=
    Option.isSome_iff_exists.mp delivered.answered
  simp [decoyHandshake, second, SessionRun.performFakeHandshake2,
    delivered.read, delivered.cleaned, answered, delivered.written,
    delivered.afterwards, marked]

theorem decoyHandshake_aligned
    (delivered : Delivered surroundings exchange)
    (marked : exchange.changeCipherSpec = makeClientChangeCipherSpec)
    {result : RealityResult} :
    Aligned
        (decoyHandshake config surroundings result >>= fun success =>
          pure (if success then .tlsHandshake else .closed))
        tunnel exchange ↔
      result.isRealityMode = false ∧ tunnel.obfuscator = some .tls2 := by
  cases version : result.isRealityMode with
  | true =>
      have log := @decoyHandshake_first config _ _ delivered _ version
      refine iff_of_false (fun aligned => ?_) (by simp)
      have taken := aligned.consumed
      simp [log, consumed, sent, marked, makeClientChangeCipherSpec]
        at taken
  | false =>
      obtain ⟨goesOn, log⟩ :=
        @decoyHandshake_second config _ _ delivered marked _ version
      constructor
      · intro aligned
        have same := aligned.obfuscator
        simp only [attached, events_bind, log, events_pure] at same
        exact ⟨rfl, same.symm⟩
      · rintro ⟨-, tls2⟩
        refine ⟨?_, ?_, ?_⟩
        · simp [goesOn]
        · simp [log, attached, tls2]
        · simp [log, consumed, sent]

/-- The site which the client asks for is not taken for the server. -/
def ForeignSite (system : System) (config : Config)
    (surroundings : Surroundings) (clientHello : List UInt8) : Prop :=
  clientSniOf config clientHello = config.defaultProxyDomain ∨
    (selfProxyVerdict system config surroundings.reality
      (clientSniOf config clientHello)).1 = false

theorem isRecursiveAttempt_foreign {clientHello : List UInt8} :
    value (isRecursiveAttempt system config surroundings.reality
        (clientSniOf config clientHello)) = false ↔
      ForeignSite system config surroundings clientHello := by
  rw [isRecursiveAttempt, ForeignSite]
  split
  case isTrue foreign => simp [isSniSelfProxyAttempt_value, foreign]
  case isFalse own => simp [not_not.mp own]

theorem realityMode_aligned
    (delivered : Delivered surroundings exchange)
    (marked : exchange.changeCipherSpec = makeClientChangeCipherSpec)
    {result : RealityResult}
    (name : result.sni = clientSniOf config exchange.clientHello) :
    Aligned (realityMode system config surroundings result) tunnel
        exchange ↔
      ForeignSite system config surroundings exchange.clientHello ∧
        result.isRealityMode = false ∧ tunnel.obfuscator = some .tls2 := by
  rw [realityMode, aligned_bind_quiet isRecursiveAttempt_quiet, name,
    ← isRecursiveAttempt_foreign]
  split
  case isTrue own =>
    refine iff_of_false (not_aligned_closed rfl) ?_
    simp [own]
  case isFalse foreign =>
    rw [Bool.not_eq_true] at foreign
    rw [and_iff_right foreign]
    exact decoyHandshake_aligned delivered marked

/-- The session id has a key in the second place and none in the first. -/
def ChoosesSecond (system : System) (surroundings : Surroundings)
    (clientHello : List UInt8) : Prop :=
  (getTlsSessionId clientHello).length = kSessionLen ∧
    isDecoyHandshakeSessionID system.sha1 (getTlsSessionId clientHello)
      (surroundings.timestamp 3) = some false ∧
    isDecoyHandshakeSessionID2 system.sha1 (getTlsSessionId clientHello)
      (surroundings.timestamp 4) = some true

theorem isRealityHandshake_second {clientHello : List UInt8}
    {sni : ByteString} :
    (isRealityHandshake system surroundings.timestamp clientHello
        sni).shouldClose = false ∧
      (isRealityHandshake system surroundings.timestamp clientHello
        sni).isRealityMode = false ∧
      (isRealityHandshake system surroundings.timestamp clientHello
        sni).isRealityMode2 = true ↔
      ChoosesSecond system surroundings clientHello := by
  unfold isRealityHandshake ChoosesSecond
  simp only
  split
  case isFalse short => simp [RealityResult.failed, short]
  case isTrue long =>
    split
    case h_1 isReality isReality2 first second =>
      rw [first, second]
      cases isReality <;> cases isReality2 <;> simp [long]
      split <;> simp [RealityResult.failed]
    case h_2 thrown =>
      refine iff_of_false (by simp [RealityResult.failed]) ?_
      rintro ⟨-, first, second⟩
      exact thrown false true first second

theorem isRealityHandshake_sni {clientHello : List UInt8}
    {sni : ByteString} :
    (isRealityHandshake system surroundings.timestamp clientHello
        sni).shouldClose = false →
      (isRealityHandshake system surroundings.timestamp clientHello
        sni).sni = sni := by
  have failed (keeps : RealityResult.failed.shouldClose = false) :
      RealityResult.failed.sni = sni := by
    cases keeps
  unfold isRealityHandshake
  simp only
  split
  · split
    · split
      · exact fun _ => rfl
      · split
        · exact fun _ => rfl
        · exact failed
    · exact failed
  · exact failed

theorem runReality_aligned
    (delivered : Delivered surroundings exchange)
    (marked : exchange.changeCipherSpec = makeClientChangeCipherSpec) :
    Aligned
        (runReality system config surroundings exchange.clientHello
          (clientSniOf config exchange.clientHello))
        tunnel exchange ↔
      ForeignSite system config surroundings exchange.clientHello ∧
        ChoosesSecond system surroundings exchange.clientHello ∧
        tunnel.obfuscator = some .tls2 := by
  rw [← @isRealityHandshake_second _ _ _
    (clientSniOf config exchange.clientHello), runReality]
  split
  case isTrue closes =>
    refine iff_of_false (not_aligned_closed rfl) ?_
    simp [closes]
  case isFalse keeps =>
    rw [Bool.not_eq_true] at keeps
    split
    case isTrue reality =>
      rw [realityMode_aligned delivered marked
        (isRealityHandshake_sni keeps)]
      simp only [Bool.or_eq_true] at reality
      constructor
      · rintro ⟨foreign, second, tls2⟩
        exact
          ⟨foreign, ⟨keeps, second, by simpa [second] using reality⟩,
            tls2⟩
      · rintro ⟨foreign, ⟨-, second, -⟩, tls2⟩
        exact ⟨foreign, second, tls2⟩
    case isFalse plain =>
      refine iff_of_false (fun aligned => ?_) ?_
      · have taken := aligned.consumed
        simp [consumed, sent, marked, makeClientChangeCipherSpec] at taken
      · rintro ⟨-, ⟨-, -, second⟩, -⟩
        simp [second] at plain

theorem runClientHello_aligned
    (delivered : Delivered surroundings exchange)
    (marked : exchange.changeCipherSpec = makeClientChangeCipherSpec) :
    Aligned
        (runClientHello system config surroundings exchange.clientHello)
        tunnel exchange ↔
      (config.enableDetectProbing = true →
          PassesProbing system surroundings exchange.clientHello) ∧
        ForeignSite system config surroundings exchange.clientHello ∧
        ChoosesSecond system surroundings exchange.clientHello ∧
        tunnel.obfuscator = some .tls2 := by
  rw [← runReality_aligned delivered marked, runClientHello]
  split
  case isFalse off => simp [off]
  case isTrue on =>
    rw [aligned_bind_quiet detectProbing_quiet,
      ← @detectProbing_passes _ config]
    split
    case isTrue closes =>
      refine iff_of_false (not_aligned_closed rfl) ?_
      rintro ⟨passes, -⟩
      rw [(passes on).1] at closes
      cases closes
    case isFalse keeps =>
      split
      case isTrue probing =>
        refine iff_of_false (not_aligned_closed rfl) ?_
        rintro ⟨passes, -⟩
        rw [(passes on).2] at probing
        cases probing
      case isFalse client =>
        rw [Bool.not_eq_true] at keeps client
        exact ⟨fun aligned => ⟨fun _ => ⟨keeps, client⟩, aligned⟩,
          And.right⟩

/-- The beginning of a ClientHello is no obfuscated record. -/
theorem detectObfuscator_hello {firstBytes clientHello : List UInt8}
    (first : firstBytes <+: clientHello)
    (isHello : isTlsClientHello clientHello = true) (now : UInt32) :
    detectObfuscator now firstBytes = none := by
  obtain ⟨rest, rfl⟩ := first
  cases firstBytes with
  | nil => rfl
  | cons byte more =>
      have start : field 0 1 (byte :: more) = 0x16 := by
        unfold isTlsClientHello at isHello
        split at isHello
        · cases isHello
        · split at isHello
          · cases isHello
          case isFalse same => exact not_not.mp same
      simp [detectObfuscator, checkProtocol, checkProtocol2, start]

/-- Whatever is no ClientHello stays on the connection. -/
theorem run_consumed_other
    (delivered : Delivered surroundings exchange)
    (other : isTlsClientHello exchange.clientHello = false) :
    consumed (events (run system config surroundings)) = [] := by
  obtain ⟨firstBytes, found, -⟩ := delivered.first
  rw [run, if_neg (by simp [delivered.initCompleted]), found]
  simp only [events_bind, consumed_append, delivered.peeked, other]
  split <;> rfl

theorem run_aligned
    (delivered : Delivered surroundings exchange)
    (marked : exchange.changeCipherSpec = makeClientChangeCipherSpec) :
    Aligned (run system config surroundings) tunnel exchange ↔
      isTlsClientHello exchange.clientHello = true ∧
        (config.enableDetectProbing = true →
          PassesProbing system surroundings exchange.clientHello) ∧
        ForeignSite system config surroundings exchange.clientHello ∧
        ChoosesSecond system surroundings exchange.clientHello ∧
        tunnel.obfuscator = some .tls2 := by
  cases isHello : isTlsClientHello exchange.clientHello with
  | false =>
      refine iff_of_false (fun aligned => ?_) (by simp)
      have taken := aligned.consumed
      rw [run_consumed_other delivered isHello] at taken
      simp [sent, marked, makeClientChangeCipherSpec] at taken
  | true =>
      obtain ⟨firstBytes, found, beginning⟩ := delivered.first
      have plain := detectObfuscator_hello beginning isHello
        (surroundings.timestamp 6)
      have quiet :
          Quiet (record (Event.setObfuscator none) : Logged Event Unit) :=
        ⟨rfl, rfl⟩
      rw [← runClientHello_aligned delivered marked, run,
        if_neg (by simp [delivered.initCompleted]), found]
      simp only [plain, aligned_bind_quiet quiet, delivered.peeked,
        isHello, true_and]
      rfl

end Server

/-! ## Agreement -/

/-- What the other libraries are documented to do. -/
structure Documented (system : System) (library : Library) : Prop where
  hashLength : ∀ number, (system.sha1 number).length = 20
  generate : ∀ browser sni sessionId handshake,
    sessionId.length = kSessionLen →
      library.generate browser sni sessionId = some handshake →
        isTlsClientHello handshake = true ∧
          getTlsSessionId handshake = sessionId

/-- No random bytes of the session id form a valid key: there is none in the
first place if the builder has been used, and otherwise none in the
second. -/
structure NoOtherKey (system : System) (surroundings : Surroundings)
    (builder : Prop) (sessionId : List UInt8) : Prop where
  first : builder → ∀ reading,
    isDecoyHandshakeSessionID system.sha1 sessionId
      (surroundings.timestamp reading) ≠ some true
  second : ¬builder → ∀ reading,
    isDecoyHandshakeSessionID2 system.sha1 sessionId
      (surroundings.timestamp reading) ≠ some true

section Agreement

variable {system : System} {config : Config}
  {surroundings : Surroundings} {library : Library}
  {strategy : CensorshipStrategy} {sni : ByteString} {draws : Draws}
  {answers : Answers} {exchange : Exchange}

theorem Documented.long (documented : Documented system library)
    (number : List UInt8) :
    kFptnKeyLength < (system.sha1 number).length := by
  rw [documented.hashLength]
  decide

/-- The session id of the builder's ClientHello. -/
theorem builder_sessionId (documented : Documented system library)
    (builder : UsesBuilder system.sha1 library strategy sni draws)
    (made : generateHandshakePacket system.sha1 library strategy sni
      draws = some exchange.clientHello)
    (clocks : ∀ reading,
      CloseClocks (surroundings.timestamp reading) draws.timestamp2) :
    isTlsClientHello exchange.clientHello = true ∧
      (getTlsSessionId exchange.clientHello).length = kSessionLen ∧
      ∀ reading,
        isDecoyHandshakeSessionID2 system.sha1
          (getTlsSessionId exchange.clientHello)
          (surroundings.timestamp reading) = some true := by
  obtain ⟨browser, sessionId, drawn, generated⟩ :=
    generateHandshakePacket_builder made builder
  obtain ⟨session, key, random, keyMade, rfl⟩ :=
    randomWithKey_eq_some system.sha1 drawn
  obtain ⟨bytes, -, rfl⟩ := Option.map_eq_some_iff.mp random
  have keyLength := generateFptnKey_length documented.long keyMade
  have size := bytes.property
  have length :
      (withKey kDecoyHandshakeSessionIDShift2 key bytes.val).length =
        kSessionLen := by
    rw [withKey_length, size]
    rw [keyLength, size]
    decide
  obtain ⟨isHello, carried⟩ :=
    documented.generate _ _ _ _ length generated
  refine ⟨isHello, by rw [carried, length], fun reading => ?_⟩
  rw [carried]
  refine hasKeyAt_withKey documented.long keyMade ?_ (clocks reading)
  rw [size]
  decide

/-- A session id with a valid key in the second place only makes the server
choose the second version, and passes for that of a client. -/
theorem choosesSecond_of_keys
    (documented : Documented system library) {clientHello : List UInt8}
    (length : (getTlsSessionId clientHello).length = kSessionLen)
    (first : ∀ reading,
      isDecoyHandshakeSessionID system.sha1 (getTlsSessionId clientHello)
        (surroundings.timestamp reading) ≠ some true)
    (second : ∀ reading,
      isDecoyHandshakeSessionID2 system.sha1 (getTlsSessionId clientHello)
        (surroundings.timestamp reading) = some true) :
    PassesProbing system surroundings clientHello ∧
      ChoosesSecond system surroundings clientHello := by
  have returns (place reading : Nat) :=
    hasKeyAt_returns documented.long place (getTlsSessionId clientHello)
      (surroundings.timestamp reading)
  constructor
  · obtain ⟨isFptn, foundFptn⟩ := returns
      ((getTlsSessionId clientHello).length - kFptnKeyLength) 0
    obtain ⟨isDecoy, foundDecoy⟩ :=
      returns kDecoyHandshakeSessionIDShift 1
    refine ⟨length, ?_⟩
    simp only [isClientSessionId, isFptnClientSessionID, foundFptn,
      isDecoyHandshakeSessionID, foundDecoy, second 2]
    simp
  · obtain ⟨isDecoy, found⟩ := returns kDecoyHandshakeSessionIDShift 3
    cases isDecoy with
    | true => exact absurd found (first 3)
    | false => exact ⟨length, found, second 4⟩

/-- The decoy leaves both sides aligned exactly if the builder's ClientHello
was used, not for a test of the handshake, and with the name of a site which
is not the server. -/
theorem makeConnection_aligned_iff (system : System) (config : Config)
    (surroundings : Surroundings) (library : Library)
    (documented : Documented system library)
    (path : ClientPath) (strategy : CensorshipStrategy)
    (reality : isRealityModeWithFakeHandshake strategy = true)
    (sni : ByteString) (draws : Draws) (answers : Answers)
    (tunnel : Tunnel) (exchange : Exchange)
    (connected : makeConnection system.sha1 library path strategy sni
      draws answers = some tunnel)
    (performed : tunnel.decoy = some exchange)
    (delivered : Delivered surroundings exchange)
    (clocks : ∀ reading,
      CloseClocks (surroundings.timestamp reading) draws.timestamp2)
    (noOther : NoOtherKey system surroundings
      (UsesBuilder system.sha1 library strategy sni draws)
      (getTlsSessionId exchange.clientHello)) :
    Aligned (run system config surroundings) tunnel exchange ↔
      path ≠ .testHandshakeImpl ∧
        UsesBuilder system.sha1 library strategy sni draws ∧
        ForeignSite system config surroundings exchange.clientHello := by
  obtain ⟨done, attaches⟩ :=
    makeConnection_decoy reality connected performed
  obtain ⟨made, marked⟩ := performFakeHandshake2_eq_some done
  rw [run_aligned delivered marked, attaches]
  constructor
  · rintro ⟨-, -, foreign, chosen, attached⟩
    refine ⟨attached, ?_, foreign⟩
    by_contra other
    exact noOther.second other 4 chosen.2.2
  · rintro ⟨attached, builder, foreign⟩
    obtain ⟨isHello, length, second⟩ :=
      builder_sessionId documented builder made clocks
    obtain ⟨passes, chosen⟩ := choosesSecond_of_keys documented length
      (noOther.first builder) second
    exact ⟨isHello, fun _ => passes, foreign, chosen, attached⟩

end Agreement

/-! ## Two handshakes -/

/-- The hashes of the seconds around `1700000000`. -/
def hashesOfSeconds : List (Nat × Nat) :=
  [(1699999995, 0x246a56558d8e668d39b3ece79d89b9622a3892a9),
    (1699999996, 0x984b89347b85f7d151b5cca5c783ec6968439d45),
    (1699999997, 0x1ef3eadb44e94f67b2f8f4c8d6a59f270a72e867),
    (1699999998, 0x2b33c721a1d865691e6b15ec763aa45bbbfb138e),
    (1699999999, 0x779a1c8e9b7b023affa4e42514f5779d7d5c36ba),
    (1700000000, 0xf18b7fe9d22132d7299cf01f9483f9638d90f7d0),
    (1700000001, 0xb39479e0a45ba728a50486731477e28aeaf21e66),
    (1700000002, 0x917debb441b994bd1dd951ee0a563fa667e2cc17),
    (1700000003, 0x2401c13239604c19724e9afc6dcfdd4711ac0f44),
    (1700000004, 0x86e788e62fea73f6d376530aa894f6e498e4e4fc),
    (1700000005, 0xc1f1be68e44cc05daf1ef267a0cc7a7af635fdf6)]

def hashing : System where
  sha1 number :=
    bytesOf 20 ((hashesOfSeconds.lookup (valueOf number)).getD 0)
  isIpAddress _ := false

def minimalLibrary : Library where
  generate _ sni sessionId := some (minimalHello sessionId sni)
  clientHello sni sessionId := minimalHello (sessionId.getD []) sni

theorem minimalLibrary_documented : Documented hashing minimalLibrary where
  hashLength _ := bytesOf_length _ _
  generate browser sni sessionId handshake length made := by
    rw [← Option.some.inj made]
    refine ⟨isTlsClientHello_minimalHello _ _,
      getTlsSessionId_minimalHello _ ?_⟩
    rw [length]
    decide

/-- Probing is detected; the default domain is `a.com`. -/
def withProbing : Config where
  enableDetectProbing := true
  defaultProxyDomain := [0x61, 0x2E, 0x63, 0x6F, 0x6D]
  allowedSniList := []
  serverExternalIps := []
  interfaces := []
  hasHandshakeCacheManager := true

/-- The site of the decoy, `b.org`. -/
def decoySite : ByteString := [0x62, 0x2E, 0x6F, 0x72, 0x67]

def atOneTime : Draws where
  random2 := some ⟨List.replicate 32 0, by decide⟩
  timestamp2 := 1700000000
  random := some ⟨List.replicate 32 0, by decide⟩
  timestamp := 1700000000

def success : Answers := ⟨true, some [], true⟩

def foreignReading : SelfProxyReading where
  cache _ := none
  now := 0
  resolution := .endpoints []

/-- A server with the same time, which a decoy handshake reaches. -/
def reachedBy (exchange : Exchange) : Surroundings where
  initCompleted := true
  firstBytes := some exchange.clientHello
  clientHello := some exchange.clientHello
  timestamp _ := 1700000000
  probing := foreignReading
  reality := foreignReading
  proxy := .proxied
  fallback := .failed
  decoy :=
    ⟨some exchange.clientHello, [], some [], true,
      exchange.changeCipherSpec⟩

theorem reachedBy_delivered (exchange : Exchange) :
    Delivered (reachedBy exchange) exchange where
  initCompleted := rfl
  first := ⟨_, rfl, List.prefix_refl _⟩
  peeked := rfl
  read := rfl
  cleaned := rfl
  answered := rfl
  written := rfl
  afterwards := rfl

/-- A decoy of which the session id has the key of the time at a place. -/
def decoyWithKeyAt (place : Nat) : Exchange where
  clientHello :=
    minimalHello
      (withKey place [0xF1, 0x8B, 0x7F, 0xE9] (List.replicate 32 0))
      decoySite
  changeCipherSpec := makeClientChangeCipherSpec

theorem chrome149_aligned :
    makeConnection hashing.sha1 minimalLibrary .connect
        .kSniRealityModeChrome149 decoySite atOneTime success =
      some ⟨some (decoyWithKeyAt 14), some .tls2⟩ ∧
    Aligned (run hashing withProbing (reachedBy (decoyWithKeyAt 14)))
      ⟨some (decoyWithKeyAt 14), some .tls2⟩ (decoyWithKeyAt 14) := by
  have builder :
      UsesBuilder hashing.sha1 minimalLibrary .kSniRealityModeChrome149
        decoySite atOneTime :=
    ⟨.googleChrome149,
      withKey 14 [0xF1, 0x8B, 0x7F, 0xE9] (List.replicate 32 0),
      (decoyWithKeyAt 14).clientHello, rfl, by decide +kernel, rfl⟩
  have connected :
      makeConnection hashing.sha1 minimalLibrary .connect
          .kSniRealityModeChrome149 decoySite atOneTime success =
        some ⟨some (decoyWithKeyAt 14), some .tls2⟩ := by
    decide +kernel
  have sameTime : CloseClocks 1700000000 1700000000 := by decide
  refine ⟨connected, ?_⟩
  refine (makeConnection_aligned_iff hashing withProbing _ minimalLibrary
    minimalLibrary_documented .connect .kSniRealityModeChrome149 rfl
    decoySite atOneTime success _ _ connected rfl
    (reachedBy_delivered _) (fun _ => sameTime) ⟨?_, ?_⟩).mpr
    ⟨by decide, builder, ?_⟩
  · intro _ _
    change isDecoyHandshakeSessionID hashing.sha1 _ 1700000000 ≠ _
    decide +kernel
  · intro other
    exact absurd builder other
  · exact Or.inr (by decide +kernel)

/-- Without a browser the key is in the first place. -/
theorem realityMode_misaligned :
    makeConnection hashing.sha1 minimalLibrary .connect .kSniRealityMode
        decoySite atOneTime success =
      some ⟨some (decoyWithKeyAt 10), some .tls2⟩ ∧
    Delivered (reachedBy (decoyWithKeyAt 10)) (decoyWithKeyAt 10) ∧
    CloseClocks 1700000000 atOneTime.timestamp ∧
    isDecoyHandshakeSessionID2 hashing.sha1
      (getTlsSessionId (decoyWithKeyAt 10).clientHello) 1700000000 =
        some false ∧
    ForeignSite hashing withProbing (reachedBy (decoyWithKeyAt 10))
      (decoyWithKeyAt 10).clientHello ∧
    ¬Aligned (run hashing withProbing (reachedBy (decoyWithKeyAt 10)))
      ⟨some (decoyWithKeyAt 10), some .tls2⟩ (decoyWithKeyAt 10) := by
  refine ⟨by decide +kernel, reachedBy_delivered _, by decide,
    by decide +kernel, Or.inr (by decide +kernel), fun aligned => ?_⟩
  have taken := aligned.consumed
  revert taken
  decide +kernel

end Fptn.Web.HandshakeAgreement
