import Fptn.Https.DecoySession
import Fptn.Lib.EventLog
import Fptn.Network.TlsHello
import Fptn.Obfuscator.Methods

/-!
# The beginning of a session

`Session::Run` up to the TLS handshake: it looks at the first bytes of the
connection, finds out whether they come from a client, and otherwise connects
the peer to the site it has asked for.  What happens outside of the session is
an input: the bytes which arrive, the answers of the name server, the clocks,
and the verdicts which other sessions have left in the common cache.

The program records the calls and verdicts which matter to the outside.
-/

namespace Fptn.Web.SessionRun

open Fptn.BigEndian
open Fptn.EventLog
open Fptn.Https.DecoySession
open Fptn.Network.TlsHello
open Fptn.Obfuscator.Methods

/-! ## Names and addresses -/

/-- `std::tolower` in the C locale. -/
def toLower (byte : UInt8) : UInt8 :=
  if 0x41 ≤ byte ∧ byte ≤ 0x5A then byte + 0x20 else byte

def normalizeSni (sni : ByteString) : ByteString := sni.map toLower

def isSpace (byte : UInt8) : Bool :=
  byte == 0x20 || decide (0x09 ≤ byte ∧ byte ≤ 0x0D)

def trim (str : ByteString) : ByteString :=
  ((str.dropWhile isSpace).reverse.dropWhile isSpace).reverse

def splitCommaSeparated (input : ByteString) : List ByteString :=
  ((input.splitOn 0x2C).map trim).filter fun item => !item.isEmpty

def applyAllowedSniList (sni : ByteString)
    (allowedSniList : List ByteString) (defaultDomain : ByteString) :
    ByteString :=
  if allowedSniList.isEmpty ∨ sni = defaultDomain then
    sni
  else
    let sniAllowed := allowedSniList.any fun entry =>
      let allowedSni := normalizeSni entry
      sni == allowedSni ||
        decide (allowedSni.length + 1 < sni.length) &&
          (0x2E :: allowedSni).isSuffixOf sni
    if sniAllowed then sni else defaultDomain

/-! ## What a session depends on -/

/-- Functions of other libraries. -/
structure System where
  sha1 : List UInt8 → List UInt8
  isIpAddress : ByteString → Bool

/-- The fields of a session which are set when it is created. -/
structure Config where
  enableDetectProbing : Bool
  defaultProxyDomain : ByteString
  allowedSniList : List ByteString
  serverExternalIps : ByteString
  /-- The addresses of the server's interfaces. -/
  interfaces : List ByteString
  hasHandshakeCacheManager : Bool

/-- What becomes of a name resolution. -/
inductive Resolution where
  | timedOut
  | failed
  | endpoints (addresses : List ByteString)
  | exception

/-- What one call of `IsSniSelfProxyAttempt` finds. -/
structure SelfProxyReading where
  /-- The verdicts in the common cache, with their times in nanoseconds. -/
  cache : ByteString → Option (Bool × Int)
  now : Int
  resolution : Resolution

/-- What becomes of one call of `HandleProxy`. -/
inductive ProxyOutcome where
  /-- The socket may have been closed meanwhile. -/
  | resolutionFailed (socketOpen : Bool)
  | failed
  | proxied
deriving DecidableEq

/-- What happens during the fake handshake; `none` is an exception or a
timeout. -/
structure DecoyReading where
  clientHello : Option (List UInt8)
  /-- The bytes which `CleanSocket` discards. -/
  cleaned : List UInt8
  /-- `GetHandshake`. -/
  handshakeAnswer : Option (List UInt8)
  written : Bool
  /-- The first six bytes after the answer, or fewer. -/
  changeCipherSpec : List UInt8

/-- What happens to a session from outside. -/
structure Surroundings where
  initCompleted : Bool
  /-- The first bytes which are peeked, if any. -/
  firstBytes : Option (List UInt8)
  clientHello : Option (List UInt8)
  /-- The readings of `NowTimestamp`. -/
  timestamp : Nat → UInt32
  probing : SelfProxyReading
  reality : SelfProxyReading
  proxy : ProxyOutcome
  fallback : ProxyOutcome
  decoy : DecoyReading

deriving instance DecidableEq for Method

inductive Event where
  /-- A call of `IsSniSelfProxyAttempt` and its result. -/
  | isSniSelfProxyAttempt (sni : ByteString) (selfProxy : Bool)
  | cacheSelfProxyVerdict (sni : ByteString) (selfProxy : Bool)
  | handleProxy (sni : ByteString) (port : Nat)
  | setObfuscator (method : Option Method)
  /-- Bytes taken from the socket. -/
  | received (data : List UInt8)
deriving DecidableEq

inductive Outcome where
  | closed
  | tlsHandshake
deriving DecidableEq

/-! ## Obfuscators -/

def checkProtocol (data : List UInt8) : Bool :=
  let contentLength := field 3 2 data
  let payloadLength := field 17 2 data
  decide (20 ≤ data.length) && field 0 1 data == 0x17 &&
    field 1 1 data == 0x03 && field 2 1 data == 0x03 &&
    field 15 1 data == 0x01 &&
    field 13 2 data == TlsObfuscator.kFptnTlsApplicationMagicFlag &&
    decide (11 + 1 + 2 + 1 ≤ contentLength) &&
    decide (contentLength ≤ 16384) &&
    decide (payloadLength ≤ contentLength - 11 - 1 - 2 - 1)

def checkProtocol2 (now : UInt32) (data : List UInt8) : Bool :=
  let contentLength := field 3 2 data
  let payloadLength := field 18 2 data
  let paddingLength := field 20 2 data
  decide (22 ≤ data.length) && field 0 1 data == 0x17 &&
    field 1 1 data == 0x03 && field 2 1 data == 0x03 &&
    TlsObfuscator2.isValidTimestamp now
      (UInt32.ofNat (field 13 4 data)) &&
    decide (8 + 4 + 1 + 2 + 2 + payloadLength + paddingLength ≤
      contentLength) &&
    decide (contentLength ≤ 16384)

/-- The obfuscator of which the first bytes are a record. -/
def detectObfuscator (now : UInt32) (data : List UInt8) : Option Method :=
  if checkProtocol2 now data then
    some .tls2
  else if checkProtocol data then
    some .tls
  else
    none

section Run

variable (system : System) (config : Config)

/-! ## Self-proxy attempts -/

def getServerIpAddresses : List ByteString :=
  config.interfaces ++
    if config.serverExternalIps.isEmpty then
      []
    else
      (splitCommaSeparated config.serverExternalIps).filter
        system.isIpAddress

/-- An hour. -/
def kSelfProxyCacheTtl : Int := 3600000000000

def getCachedSelfProxyVerdict (reading : SelfProxyReading)
    (sni : ByteString) : Option Bool :=
  match reading.cache sni with
  | none => none
  | some (verdict, time) =>
      if reading.now - time ≥ kSelfProxyCacheTtl then
        none
      else
        some verdict

/-- The verdict, and whether it is put into the cache. -/
def selfProxyVerdict (reading : SelfProxyReading) (sni : ByteString) :
    Bool × Bool :=
  if system.isIpAddress sni then
    (true, false)
  else
    match getCachedSelfProxyVerdict reading sni with
    | some verdict => (verdict, false)
    | none =>
        match reading.resolution with
        | .timedOut | .failed => (false, true)
        | .exception => (false, false)
        | .endpoints addresses =>
            let serverIps := getServerIpAddresses system config
            (addresses.any fun ip =>
              !ip.isEmpty && serverIps.contains ip, true)

def isSniSelfProxyAttempt (reading : SelfProxyReading)
    (sni : ByteString) : Logged Event Bool := do
  let (verdict, caches) := selfProxyVerdict system config reading sni
  if caches then
    record (.cacheSelfProxyVerdict sni verdict)
  record (.isSniSelfProxyAttempt sni verdict)
  return verdict

/-- The default domain needs no check. -/
def isRecursiveAttempt (reading : SelfProxyReading) (sni : ByteString) :
    Logged Event Bool :=
  if sni ≠ config.defaultProxyDomain then
    isSniSelfProxyAttempt system config reading sni
  else
    pure false

/-! ## Proxying -/

/-- The status, after the connection to the site has ended. -/
def handleProxy (outcome : ProxyOutcome) (sni : ByteString) :
    Logged Event Bool := do
  record (.handleProxy sni 443)
  return outcome == .proxied

/-- The socket of the peer after `HandleProxy`. -/
def isOpen : ProxyOutcome → Bool
  | .resolutionFailed socketOpen => socketOpen
  | .failed | .proxied => false

def proxyWithFallback (surroundings : Surroundings) (sni : ByteString) :
    Logged Event Unit := do
  let status ← handleProxy surroundings.proxy sni
  if !status && sni != config.defaultProxyDomain &&
      isOpen surroundings.proxy then
    let _ ← handleProxy surroundings.fallback config.defaultProxyDomain

/-! ## Probing -/

structure ProbingResult where
  isProbing : Bool
  sni : ByteString
  shouldClose : Bool

/-- The checks of the session id; `none` is an exception. -/
def isClientSessionId (timestamp : Nat → UInt32) (sessionId : List UInt8) :
    Option Bool := do
  let isFptn ←
    isFptnClientSessionID system.sha1 sessionId (timestamp 0)
  let isDecoy ←
    isDecoyHandshakeSessionID system.sha1 sessionId (timestamp 1)
  let isDecoy2 ←
    isDecoyHandshakeSessionID2 system.sha1 sessionId (timestamp 2)
  return isFptn || isDecoy || isDecoy2

/-- The second part of `DetectProbing`. -/
def probeSessionId (surroundings : Surroundings) (clientHello : List UInt8)
    (sni : ByteString) : ProbingResult :=
  let sessionId := getTlsSessionId clientHello
  if sessionId.length ≠ kSessionLen then
    ⟨true, sni, false⟩
  else
    match isClientSessionId system surroundings.timestamp sessionId with
    | some isClient => ⟨!isClient, sni, false⟩
    | none => ⟨true, config.defaultProxyDomain, true⟩

def detectProbing (surroundings : Surroundings) (clientHello : List UInt8)
    (sni : ByteString) : Logged Event ProbingResult := do
  let recursive ←
    isRecursiveAttempt system config surroundings.probing sni
  return probeSessionId system config surroundings clientHello
    (if recursive then config.defaultProxyDomain else sni)

/-! ## Reality mode -/

structure RealityResult where
  isRealityMode : Bool
  isRealityMode2 : Bool
  sni : ByteString
  shouldClose : Bool

def RealityResult.failed : RealityResult := ⟨true, false, [], true⟩

def isRealityHandshake (timestamp : Nat → UInt32)
    (clientHello : List UInt8) (sni : ByteString) : RealityResult :=
  let sessionId := getTlsSessionId clientHello
  if sessionId.length = kSessionLen then
    match isDecoyHandshakeSessionID system.sha1 sessionId (timestamp 3),
      isDecoyHandshakeSessionID2 system.sha1 sessionId (timestamp 4) with
    | some isReality, some isReality2 =>
        if isReality || isReality2 then
          ⟨isReality, isReality2, sni, false⟩
        else
          match isFptnClientSessionID system.sha1 sessionId
            (timestamp 5) with
          | some true => ⟨false, false, sni, false⟩
          | _ => .failed
    | _, _ => .failed
  else
    .failed

/-- The first version, which takes what has arrived for the ClientHello. -/
def performFakeHandshake (decoy : DecoyReading) : Logged Event Bool := do
  match decoy.clientHello with
  | none => return false
  | some clientHello =>
      record (.received clientHello)
      return !clientHello.isEmpty && config.hasHandshakeCacheManager &&
        decoy.handshakeAnswer.isSome && decoy.written

/-- The second version, which waits for a ChangeCipherSpec in the end. -/
def performFakeHandshake2 (decoy : DecoyReading) : Logged Event Bool := do
  match decoy.clientHello with
  | none => return false
  | some clientHello =>
      record (.received (clientHello ++ decoy.cleaned))
      if decoy.handshakeAnswer.isNone || !decoy.written then
        return false
      else
        let changeCipherSpec :=
          decoy.changeCipherSpec.take makeClientChangeCipherSpec.length
        record (.received changeCipherSpec)
        return changeCipherSpec == makeClientChangeCipherSpec

/-- The decoy handshake of either version and the obfuscator after it. -/
def decoyHandshake (surroundings : Surroundings) (result : RealityResult) :
    Logged Event Bool :=
  if result.isRealityMode then do
    let realitySuccess ← performFakeHandshake config surroundings.decoy
    record (.setObfuscator (some .tls))
    return realitySuccess
  else do
    let realitySuccess ← performFakeHandshake2 surroundings.decoy
    record (.setObfuscator (some .tls2))
    return realitySuccess

def realityMode (surroundings : Surroundings) (result : RealityResult) :
    Logged Event Outcome := do
  let selfProxy ←
    isRecursiveAttempt system config surroundings.reality result.sni
  if selfProxy then
    let _ ← handleProxy surroundings.proxy config.defaultProxyDomain
    return .closed
  else
    let realitySuccess ← decoyHandshake config surroundings result
    return if realitySuccess then .tlsHandshake else .closed

/-! ## Run -/

/-- From the check for Reality mode on. -/
def runReality (surroundings : Surroundings) (clientHello : List UInt8)
    (clientSni : ByteString) : Logged Event Outcome := do
  let result :=
    isRealityHandshake system surroundings.timestamp clientHello clientSni
  if result.shouldClose then
    proxyWithFallback config surroundings clientSni
    return .closed
  else if result.isRealityMode || result.isRealityMode2 then
    realityMode system config surroundings result
  else
    return .tlsHandshake

/-- The name of the site which the peer asks for. -/
def clientSniOf (clientHello : List UInt8) : ByteString :=
  applyAllowedSniList
    (match getTlsSNI clientHello with
      | none => config.defaultProxyDomain
      | some sni => normalizeSni sni)
    config.allowedSniList config.defaultProxyDomain

/-- With a ClientHello which is not obfuscated. -/
def runClientHello (surroundings : Surroundings)
    (clientHello : List UInt8) : Logged Event Outcome := do
  let clientSni := clientSniOf config clientHello
  if config.enableDetectProbing then
    let probingResult ←
      detectProbing system config surroundings clientHello clientSni
    if probingResult.shouldClose then
      return .closed
    else if probingResult.isProbing then
      proxyWithFallback config surroundings probingResult.sni
      return .closed
    else
      runReality system config surroundings clientHello clientSni
  else
    runReality system config surroundings clientHello clientSni

def run (surroundings : Surroundings) : Logged Event Outcome := do
  if !surroundings.initCompleted then
    return .closed
  else
    match surroundings.firstBytes with
    | none => return .closed
    | some firstBytes =>
        let obfuscator :=
          detectObfuscator (surroundings.timestamp 6) firstBytes
        record (.setObfuscator obfuscator)
        if obfuscator.isSome then
          return .tlsHandshake
        else
          match surroundings.clientHello with
          | none => return .closed
          | some clientHello =>
              if isTlsClientHello clientHello then
                runClientHello system config surroundings clientHello
              else
                return .closed

end Run

end Fptn.Web.SessionRun
