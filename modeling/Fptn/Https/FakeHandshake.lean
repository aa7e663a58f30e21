import Fptn.Https.DecoySession
import Fptn.Network.TlsHello
import Fptn.Obfuscator.Methods

/-!
# The client's decoy handshake

With most censorship strategies a client starts with a handshake which is
never finished: it sends a ClientHello, waits for the answer and sends a
ChangeCipherSpec.  What it sends then goes through an obfuscator.

The ClientHello imitates a browser.  If there is no browser for the strategy,
or if the builder fails, the TLS library makes one.
-/

namespace Fptn.Https.FakeHandshake

open Fptn.Https.DecoySession
open Fptn.Network.TlsHello
open Fptn.Obfuscator.Methods

inductive CensorshipStrategy where
  | kSni
  | kTlsObfuscator
  | kSniRealityMode
  | kSniRealityModeChrome145
  | kSniRealityModeChrome146
  | kSniRealityModeChrome147
  | kSniRealityModeChrome148
  | kSniRealityModeChrome149
  | kSniRealityModeFirefox149
  | kSniRealityModeFirefox150
  | kSniRealityModeFirefox151
  | kSniRealityModeYandex24
  | kSniRealityModeYandex25
  | kSniRealityModeYandex26_3
  | kSniRealityModeYandex26_4
  | kSniRealityModeSafari26_4
  | kSniRealityModeSafari26_5
deriving DecidableEq

def isRealityModeWithFakeHandshake : CensorshipStrategy → Bool
  | .kSni | .kTlsObfuscator => false
  | _ => true

/-- The versions of browsers which the builder imitates. -/
inductive Browser where
  | googleChrome149
  | googleChrome148
  | googleChrome147
  | googleChrome146
  | googleChrome145
  | firefox151
  | firefox150
  | firefox149
  | safari26_5
  | safari26_4
  | yandexBrowser26_4
  | yandexBrowser26_3
  | yandexBrowser25
  | yandexBrowser24
deriving DecidableEq

/-- The browser of a strategy, if there is one. -/
def browserOf : CensorshipStrategy → Option Browser
  | .kSniRealityModeChrome149 => some .googleChrome149
  | .kSniRealityModeChrome148 => some .googleChrome148
  | .kSniRealityModeChrome147 => some .googleChrome147
  | .kSniRealityModeChrome146 => some .googleChrome146
  | .kSniRealityModeChrome145 => some .googleChrome145
  | .kSniRealityModeFirefox151 => some .firefox151
  | .kSniRealityModeFirefox150 => some .firefox150
  | .kSniRealityModeFirefox149 => some .firefox149
  | .kSniRealityModeSafari26_5 => some .safari26_5
  | .kSniRealityModeSafari26_4 => some .safari26_4
  | .kSniRealityModeYandex26_4 => some .yandexBrowser26_4
  | .kSniRealityModeYandex26_3 => some .yandexBrowser26_3
  | .kSniRealityModeYandex25 => some .yandexBrowser25
  | .kSniRealityModeYandex24 => some .yandexBrowser24
  | .kSni | .kTlsObfuscator | .kSniRealityMode => none

/-! ## The ClientHello -/

/-- Functions of other libraries. -/
structure Library where
  /-- The builder, with a server name and a session id. -/
  generate : Browser → ByteString → List UInt8 → Option (List UInt8)
  /-- What the TLS library writes at the beginning of a handshake, with a
  server name and the session id which has been set, if any. -/
  clientHello : ByteString → Option (List UInt8) → List UInt8

abbrev SessionId := { bytes : List UInt8 // bytes.length = kSessionLen }

/-- What is drawn for a ClientHello: the random bytes, if there are any, and
the time, for the builder and for the TLS library. -/
structure Draws where
  random2 : Option SessionId
  timestamp2 : UInt32
  random : Option SessionId
  timestamp : UInt32

section Client

variable (sha1 : List UInt8 → List UInt8) (library : Library)

/-- An exception leaves nothing.  Whether the session id could be set is not
checked. -/
def generateDecoyTlsHandshake (sni : ByteString) (draws : Draws) :
    List UInt8 :=
  match setDecoyHandshakeSessionID sha1
      (draws.random.map Subtype.val) draws.timestamp with
  | none => []
  | some sessionId => library.clientHello sni sessionId

/-- The same function in both clients; `none` is an exception. -/
def generateHandshakePacket (strategy : CensorshipStrategy)
    (sni : ByteString) (draws : Draws) : Option (List UInt8) :=
  match browserOf strategy with
  | none => some (generateDecoyTlsHandshake sha1 library sni draws)
  | some browser =>
      match generateDecoyTlsSessionId2 sha1
          (draws.random2.map Subtype.val) draws.timestamp2 with
      | none => none
      | some none => some (generateDecoyTlsHandshake sha1 library sni draws)
      | some (some sessionId) =>
          match library.generate browser sni sessionId with
          | none => some (generateDecoyTlsHandshake sha1 library sni draws)
          | some handshake => some handshake

/-! ## The decoy -/

/-- What becomes of the client's reads and writes. -/
structure Answers where
  clientHelloWritten : Bool
  serverHello : Option (List UInt8)
  changeCipherSpecWritten : Bool

/-- What a client has sent in the decoy handshake. -/
structure Exchange where
  clientHello : List UInt8
  changeCipherSpec : List UInt8
deriving DecidableEq

/-- The same in both clients, apart from what they discard of the answer. -/
def performFakeHandshake2 (strategy : CensorshipStrategy)
    (sni : ByteString) (draws : Draws) (answers : Answers) :
    Option Exchange := do
  let clientHello ← generateHandshakePacket sha1 library strategy sni draws
  if clientHello.isEmpty || !answers.clientHelloWritten ||
      answers.serverHello.isNone || !answers.changeCipherSpecWritten then
    none
  else
    some ⟨clientHello, makeClientChangeCipherSpec⟩

/-- A connection at the beginning of the real handshake. -/
structure Tunnel where
  /-- The decoy handshake, if it was made with success. -/
  decoy : Option Exchange
  obfuscator : Option Method

/-- The obfuscator with which each connection is made. -/
def initialObfuscator (strategy : CensorshipStrategy) : Option Method :=
  if strategy = .kTlsObfuscator then some .tls2 else none

/-- The part of `WebsocketClient::Connect`, `GetImpl` and `PostImpl` which is
the same; without the decoy they give up. -/
def connectWithDecoy (strategy : CensorshipStrategy) (sni : ByteString)
    (draws : Draws) (answers : Answers) : Option Tunnel :=
  if isRealityModeWithFakeHandshake strategy then
    match performFakeHandshake2 sha1 library strategy sni draws answers with
    | none => none
    | some exchange => some ⟨some exchange, some .tls2⟩
  else
    some ⟨none, initialObfuscator strategy⟩

namespace WebsocketClient

def connect := connectWithDecoy sha1 library

end WebsocketClient

namespace ApiClient

def getImpl := connectWithDecoy sha1 library

def postImpl := connectWithDecoy sha1 library

/-- Without the decoy it goes on. -/
def testHandshakeImpl (strategy : CensorshipStrategy) (sni : ByteString)
    (draws : Draws) (answers : Answers) : Option Tunnel :=
  if isRealityModeWithFakeHandshake strategy then
    some
      ⟨performFakeHandshake2 sha1 library strategy sni draws answers,
        initialObfuscator strategy⟩
  else
    some ⟨none, initialObfuscator strategy⟩

end ApiClient

/-- The functions which make connections. -/
inductive ClientPath where
  | connect
  | getImpl
  | postImpl
  | testHandshakeImpl
deriving DecidableEq

def makeConnection : ClientPath → CensorshipStrategy → ByteString → Draws →
    Answers → Option Tunnel
  | .connect => WebsocketClient.connect sha1 library
  | .getImpl => ApiClient.getImpl sha1 library
  | .postImpl => ApiClient.postImpl sha1 library
  | .testHandshakeImpl => ApiClient.testHandshakeImpl sha1 library

/-- The builder's packet is used: there is a browser for the strategy, there
are random bytes, and the builder succeeds. -/
def UsesBuilder (strategy : CensorshipStrategy) (sni : ByteString)
    (draws : Draws) : Prop :=
  ∃ browser sessionId handshake, browserOf strategy = some browser ∧
    generateDecoyTlsSessionId2 sha1 (draws.random2.map Subtype.val)
      draws.timestamp2 = some (some sessionId) ∧
    library.generate browser sni sessionId = some handshake

end Client

/-! ## What a connection consists of -/

variable {sha1 : List UInt8 → List UInt8} {library : Library}
  {strategy : CensorshipStrategy} {sni : ByteString} {draws : Draws}
  {answers : Answers} {exchange : Exchange}

theorem performFakeHandshake2_eq_some
    (performed : performFakeHandshake2 sha1 library strategy sni draws
      answers = some exchange) :
    generateHandshakePacket sha1 library strategy sni draws =
        some exchange.clientHello ∧
      exchange.changeCipherSpec = makeClientChangeCipherSpec := by
  rw [performFakeHandshake2] at performed
  obtain ⟨clientHello, made, rest⟩ := Option.bind_eq_some_iff.mp performed
  split at rest
  · cases rest
  · obtain rfl := Option.some.inj rest
    exact ⟨made, rfl⟩

theorem generateHandshakePacket_builder {packet : List UInt8}
    (made : generateHandshakePacket sha1 library strategy sni draws =
      some packet)
    (builder : UsesBuilder sha1 library strategy sni draws) :
    ∃ browser sessionId,
      generateDecoyTlsSessionId2 sha1 (draws.random2.map Subtype.val)
        draws.timestamp2 = some (some sessionId) ∧
      library.generate browser sni sessionId = some packet := by
  obtain ⟨browser, sessionId, handshake, found, drawn, generated⟩ := builder
  simp only [generateHandshakePacket, found, drawn, generated] at made
  exact ⟨browser, sessionId, drawn, Option.some.inj made ▸ generated⟩

/-- Only a test of the handshake makes no use of an obfuscator. -/
theorem makeConnection_decoy {path : ClientPath} {tunnel : Tunnel}
    (reality : isRealityModeWithFakeHandshake strategy = true)
    (connected : makeConnection sha1 library path strategy sni draws
      answers = some tunnel)
    (performed : tunnel.decoy = some exchange) :
    performFakeHandshake2 sha1 library strategy sni draws answers =
        some exchange ∧
      (tunnel.obfuscator = some .tls2 ↔ path ≠ .testHandshakeImpl) := by
  have withDecoy
      (connected : connectWithDecoy sha1 library strategy sni draws
        answers = some tunnel) :
      performFakeHandshake2 sha1 library strategy sni draws answers =
          some exchange ∧ tunnel.obfuscator = some .tls2 := by
    rw [connectWithDecoy, if_pos reality] at connected
    split at connected
    case h_1 failed => cases connected
    case h_2 other done =>
      obtain rfl := Option.some.inj connected
      exact ⟨done.trans performed, rfl⟩
  cases path with
  | testHandshakeImpl =>
      change ApiClient.testHandshakeImpl _ _ _ _ _ _ = _ at connected
      rw [ApiClient.testHandshakeImpl, if_pos reality] at connected
      obtain rfl := Option.some.inj connected
      have plain : initialObfuscator strategy = none := by
        refine if_neg fun same => ?_
        rw [same] at reality
        cases reality
      exact ⟨performed, by simp [plain]⟩
  | _ => exact (withDecoy connected).imp id fun tls2 => by simp [tls2]

end Fptn.Https.FakeHandshake
