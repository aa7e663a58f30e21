import Fptn.Web.SessionRun

/-!
# No proxy loop

A session which connects its peer to the site the peer has asked for could
connect the server to itself.  `IsSniSelfProxyAttempt` is there to prevent
this, and it is asked before each connection but one: a failed check for
Reality mode goes to the proxy with the peer's name as it is.
-/

namespace Fptn.Web.SelfProxy

open Fptn.EventLog
open Fptn.Https.DecoySession
open Fptn.Network.TlsHello
open Fptn.Obfuscator.Methods
open Fptn.Web.SessionRun

variable {system : System} {config : Config}
  {surroundings : Surroundings} {reading : SelfProxyReading}
  {clientHello : List UInt8} {sni : ByteString} {earlier : List Event}

/-- The default domain, or a name which turned out not to be the server. -/
def SafeTarget (config : Config) (earlier : List Event)
    (sni : ByteString) : Prop :=
  sni = config.defaultProxyDomain ∨
    .isSniSelfProxyAttempt sni false ∈ earlier

/-- An event which is a connection goes to a safe target. -/
def SafeEvent (config : Config) (earlier : List Event) : Event → Prop
  | .handleProxy sni _ => SafeTarget config earlier sni
  | _ => True

/-- Each call of `HandleProxy` goes to a safe target. -/
def NoProxyLoop (config : Config) (log : List Event) : Prop :=
  ∀ front sni port back, log = front ++ .handleProxy sni port :: back →
    SafeTarget config front sni

theorem noProxyLoop_iff {log : List Event} :
    NoProxyLoop config log ↔ Follows (SafeEvent config) [] log := by
  rw [follows_iff]
  constructor
  · intro none front event back same
    cases event with
    | handleProxy sni port => exact none front sni port back same
    | _ => trivial
  · intro every front sni port back same
    exact every front _ back same

/-! ## The parts of a session -/

theorem isSniSelfProxyAttempt_value :
    value (isSniSelfProxyAttempt system config reading sni) =
      (selfProxyVerdict system config reading sni).1 := by
  unfold isSniSelfProxyAttempt
  split
  split
  all_goals simp_all

theorem isSniSelfProxyAttempt_events :
    events (isSniSelfProxyAttempt system config reading sni) =
      (if (selfProxyVerdict system config reading sni).2 then
        [.cacheSelfProxyVerdict sni
          (selfProxyVerdict system config reading sni).1]
      else
        []) ++
      [.isSniSelfProxyAttempt sni
        (selfProxyVerdict system config reading sni).1] := by
  unfold isSniSelfProxyAttempt
  split
  split
  all_goals simp_all

theorem isSniSelfProxyAttempt_safe :
    Justified (SafeEvent config) earlier
      (isSniSelfProxyAttempt system config reading sni) := by
  rw [Justified, isSniSelfProxyAttempt_events]
  split <;> simp [Follows, SafeEvent]

/-- The verdict is recorded, and no other. -/
theorem isSniSelfProxyAttempt_mem {other : ByteString} :
    .isSniSelfProxyAttempt other false ∈
        events (isSniSelfProxyAttempt system config reading sni) ↔
      sni = other ∧
        (selfProxyVerdict system config reading sni).1 = false := by
  rw [isSniSelfProxyAttempt_events]
  split <;> simp [@eq_comm _ other, @eq_comm _ false]

theorem isRecursiveAttempt_safe :
    Justified (SafeEvent config) earlier
      (isRecursiveAttempt system config reading sni) := by
  unfold isRecursiveAttempt
  split
  · exact isSniSelfProxyAttempt_safe
  · trivial

/-- The fallback is the default domain, which is safe. -/
theorem proxyWithFallback_safe :
    Justified (SafeEvent config) earlier
        (proxyWithFallback config surroundings sni) ↔
      SafeTarget config earlier sni := by
  have fallback (earlier : List Event) :
      SafeTarget config earlier config.defaultProxyDomain := Or.inl rfl
  unfold proxyWithFallback
  simp only [handleProxy, justified_bind, justified_record, justified_pure,
    SafeEvent, and_true]
  split
  · simp [justified_bind, SafeEvent, fallback]
  · simp

theorem performFakeHandshake_safe {decoy : DecoyReading} :
    Justified (SafeEvent config) earlier
      (performFakeHandshake config decoy) := by
  unfold performFakeHandshake
  split
  · trivial
  · simp [justified_bind, SafeEvent]

theorem performFakeHandshake2_safe {decoy : DecoyReading} :
    Justified (SafeEvent config) earlier (performFakeHandshake2 decoy) := by
  unfold performFakeHandshake2
  split
  · trivial
  · simp only [justified_bind, justified_record, SafeEvent, true_and]
    split <;> simp [justified_bind, SafeEvent]

theorem decoyHandshake_safe {result : RealityResult} :
    Justified (SafeEvent config) earlier
      (decoyHandshake config surroundings result) := by
  unfold decoyHandshake
  split
  · simp [justified_bind, performFakeHandshake_safe, SafeEvent]
  · simp [justified_bind, performFakeHandshake2_safe, SafeEvent]

/-- In Reality mode every connection is safe. -/
theorem realityMode_safe {result : RealityResult} :
    Justified (SafeEvent config) earlier
      (realityMode system config surroundings result) := by
  unfold realityMode
  rw [justified_bind]
  refine ⟨isRecursiveAttempt_safe, ?_⟩
  split
  · simp [handleProxy, justified_bind, SafeEvent, SafeTarget]
  · simp [justified_bind, decoyHandshake_safe]

theorem runReality_safe :
    Justified (SafeEvent config) earlier
        (runReality system config surroundings clientHello sni) ↔
      ((isRealityHandshake system surroundings.timestamp clientHello
          sni).shouldClose = true →
        SafeTarget config earlier sni) := by
  unfold runReality
  simp only
  split
  case isTrue closes =>
    simp [justified_bind, proxyWithFallback_safe, closes]
  case isFalse goesOn =>
    split
    · simp [realityMode_safe, goesOn]
    · simp [goesOn]

/-! ## Probing -/

/-- The session id passes for that of a client. -/
def PassesProbing (system : System) (surroundings : Surroundings)
    (clientHello : List UInt8) : Prop :=
  (getTlsSessionId clientHello).length = kSessionLen ∧
    isClientSessionId system surroundings.timestamp
      (getTlsSessionId clientHello) = some true

theorem isRecursiveAttempt_mem {other : ByteString} :
    .isSniSelfProxyAttempt other false ∈
        events (isRecursiveAttempt system config reading sni) ↔
      sni ≠ config.defaultProxyDomain ∧ sni = other ∧
        (selfProxyVerdict system config reading sni).1 = false := by
  unfold isRecursiveAttempt
  split
  case isTrue foreign => simp [isSniSelfProxyAttempt_mem, foreign]
  case isFalse own =>
    rw [not_not] at own
    simp [own]

/-- A name which is kept after the check is safe. -/
theorem isRecursiveAttempt_target
    (kept : value (isRecursiveAttempt system config reading sni) = false) :
    SafeTarget config
      (earlier ++ events (isRecursiveAttempt system config reading sni))
      sni := by
  by_cases own : sni = config.defaultProxyDomain
  · exact Or.inl own
  · refine Or.inr (List.mem_append_right _ ?_)
    rw [isRecursiveAttempt_mem]
    rw [isRecursiveAttempt, if_pos own, isSniSelfProxyAttempt_value] at kept
    exact ⟨own, rfl, kept⟩

/-- A name stays safe if the session id is checked for it. -/
theorem probeSessionId_target (target : SafeTarget config earlier sni) :
    SafeTarget config earlier
      (probeSessionId system config surroundings clientHello sni).sni := by
  unfold probeSessionId
  simp only
  split
  · exact target
  · split
    · exact target
    · exact Or.inl rfl

theorem probeSessionId_passes :
    (probeSessionId system config surroundings clientHello
        sni).shouldClose = false ∧
      (probeSessionId system config surroundings clientHello
        sni).isProbing = false ↔
      PassesProbing system surroundings clientHello := by
  unfold probeSessionId PassesProbing
  simp only
  split
  case isTrue other => simp [other]
  case isFalse long =>
    rw [not_not] at long
    split
    case h_1 isClient found => simp [long, found]
    case h_2 thrown => simp [thrown]

theorem detectProbing_passes :
    (value (detectProbing system config surroundings clientHello
        sni)).shouldClose = false ∧
      (value (detectProbing system config surroundings clientHello
        sni)).isProbing = false ↔
      PassesProbing system surroundings clientHello := by
  rw [detectProbing, value_bind, value_pure]
  exact probeSessionId_passes

theorem detectProbing_safe :
    Justified (SafeEvent config) earlier
      (detectProbing system config surroundings clientHello sni) := by
  rw [detectProbing, justified_bind]
  exact ⟨isRecursiveAttempt_safe, trivial⟩

theorem detectProbing_events :
    events (detectProbing system config surroundings clientHello sni) =
      events (isRecursiveAttempt system config surroundings.probing
        sni) := by
  rw [detectProbing, events_bind, events_pure, List.append_nil]

/-- The name to which probing sends a stranger is safe. -/
theorem detectProbing_target :
    SafeTarget config
      (earlier ++
        events (detectProbing system config surroundings clientHello sni))
      (value (detectProbing system config surroundings clientHello
        sni)).sni := by
  rw [detectProbing_events, detectProbing, value_bind, value_pure]
  refine probeSessionId_target ?_
  split
  · exact Or.inl rfl
  case isFalse kept =>
    exact isRecursiveAttempt_target (Bool.eq_false_of_not_eq_true kept)

/-! ## Whole sessions -/

/-- The session gets to the check for Reality mode. -/
structure ReachesReality (system : System) (config : Config)
    (surroundings : Surroundings) (clientHello : List UInt8) : Prop where
  initCompleted : surroundings.initCompleted = true
  plain : ∃ firstBytes, surroundings.firstBytes = some firstBytes ∧
    detectObfuscator (surroundings.timestamp 6) firstBytes = none
  peeked : surroundings.clientHello = some clientHello
  isHello : isTlsClientHello clientHello = true
  probed : config.enableDetectProbing = true →
    PassesProbing system surroundings clientHello

/-- The name is the default domain, or the check for probing has found that
it is not the server. -/
def NameChecked (system : System) (config : Config)
    (surroundings : Surroundings) (clientHello : List UInt8) : Prop :=
  clientSniOf config clientHello = config.defaultProxyDomain ∨
    config.enableDetectProbing = true ∧
      (selfProxyVerdict system config surroundings.probing
        (clientSniOf config clientHello)).1 = false

/-- Whenever the check for Reality mode fails, the name is checked. -/
def ChecksName (system : System) (config : Config)
    (surroundings : Surroundings) : Prop :=
  ∀ clientHello, ReachesReality system config surroundings clientHello →
    (isRealityHandshake system surroundings.timestamp clientHello
        (clientSniOf config clientHello)).shouldClose = true →
      NameChecked system config surroundings clientHello

theorem runClientHello_safe
    (unchecked : ∀ other, .isSniSelfProxyAttempt other false ∉ earlier) :
    Justified (SafeEvent config) earlier
        (runClientHello system config surroundings clientHello) ↔
      ((config.enableDetectProbing = true →
          PassesProbing system surroundings clientHello) →
        (isRealityHandshake system surroundings.timestamp clientHello
            (clientSniOf config clientHello)).shouldClose = true →
          NameChecked system config surroundings clientHello) := by
  have reality {earlier : List Event} :=
    @runReality_safe system config surroundings clientHello
      (clientSniOf config clientHello) earlier
  unfold runClientHello
  simp only
  split
  case isFalse off =>
    have target : SafeTarget config earlier
          (clientSniOf config clientHello) ↔
        NameChecked system config surroundings clientHello := by
      simp [SafeTarget, NameChecked, unchecked, off]
    rw [reality, target]
    simp [off]
  case isTrue on =>
    have target : SafeTarget config
          (earlier ++ events (detectProbing system config surroundings
            clientHello (clientSniOf config clientHello)))
          (clientSniOf config clientHello) ↔
        NameChecked system config surroundings clientHello := by
      simp only [SafeTarget, NameChecked, List.mem_append, unchecked,
        detectProbing_events, isRecursiveAttempt_mem, on, false_or,
        true_and]
      tauto
    have passes := @detectProbing_passes system config surroundings
      clientHello (clientSniOf config clientHello)
    rw [justified_bind, and_iff_right detectProbing_safe, ← passes]
    split
    case isTrue closes => simp [closes, on]
    case isFalse keeps =>
      split
      case isTrue probing =>
        simp [justified_bind, proxyWithFallback_safe, probing, on,
          detectProbing_target]
      case isFalse client =>
        rw [reality, target]
        simp [keeps, client, on]

/-- A session which does not get to the check connects to nobody. -/
theorem run_safe_iff :
    Justified (SafeEvent config) []
        (run system config surroundings) ↔
      ChecksName system config surroundings := by
  have vacuous (not : ∀ clientHello,
      ¬ReachesReality system config surroundings clientHello) :
      ChecksName system config surroundings :=
    fun clientHello reaches => absurd reaches (not clientHello)
  unfold run
  split
  case isTrue notInit =>
    refine iff_of_true trivial (vacuous fun clientHello reaches => ?_)
    simp [reaches.initCompleted] at notInit
  case isFalse init =>
    split
    case h_1 nothing =>
      refine iff_of_true trivial (vacuous fun clientHello reaches => ?_)
      obtain ⟨firstBytes, found, -⟩ := reaches.plain
      cases nothing.symm.trans found
    case h_2 firstBytes found =>
      simp only [justified_bind, justified_record, SafeEvent, true_and]
      split
      case isTrue obfuscated =>
        refine iff_of_true trivial (vacuous fun clientHello reaches => ?_)
        obtain ⟨others, foundOthers, plain⟩ := reaches.plain
        obtain rfl := Option.some.inj (found.symm.trans foundOthers)
        rw [plain] at obfuscated
        cases obfuscated
      case isFalse plain =>
        rw [Option.not_isSome_iff_eq_none] at plain
        split
        case h_1 nothing =>
          refine iff_of_true trivial (vacuous fun clientHello reaches => ?_)
          cases nothing.symm.trans reaches.peeked
        case h_2 clientHello peeked =>
          split
          case isTrue hello =>
            rw [runClientHello_safe (by simp [events_record])]
            constructor
            · intro checks other reaches
              obtain rfl := Option.some.inj
                (peeked.symm.trans reaches.peeked)
              exact checks reaches.probed
            · intro checks probed
              exact
                checks clientHello
                  ⟨by simpa using init,
                    ⟨firstBytes, found, plain⟩, peeked, hello, probed⟩
          case isFalse notHello =>
            refine iff_of_true trivial
              (vacuous fun other reaches => ?_)
            obtain rfl := Option.some.inj
              (peeked.symm.trans reaches.peeked)
            exact notHello reaches.isHello

/-- No session connects the server to a name it has not checked, exactly if
the check for Reality mode fails for checked names only. -/
theorem run_noProxyLoop_iff (system : System) (config : Config)
    (surroundings : Surroundings) :
    NoProxyLoop config (events (run system config surroundings)) ↔
      ChecksName system config surroundings :=
  noProxyLoop_iff.trans run_safe_iff

/-! ## A loop -/

/-- The server's own name, `vpn.net`. -/
def ownName : ByteString := [0x76, 0x70, 0x6E, 0x2E, 0x6E, 0x65, 0x74]

/-- The server's address, `192.0.2.1`. -/
def ownAddress : ByteString :=
  [0x31, 0x39, 0x32, 0x2E, 0x30, 0x2E, 0x32, 0x2E, 0x31]

def namesOnly : System where
  sha1 _ := List.replicate 20 0
  isIpAddress name := name == ownAddress

/-- Probing is not detected, as is the default; the default domain is
`a.com`. -/
def withoutProbing : Config where
  enableDetectProbing := false
  defaultProxyDomain := [0x61, 0x2E, 0x63, 0x6F, 0x6D]
  allowedSniList := []
  serverExternalIps := []
  interfaces := [ownAddress]
  hasHandshakeCacheManager := true

/-- The server's own name resolves to its address. -/
def ownReading : SelfProxyReading where
  cache _ := none
  now := 0
  resolution := .endpoints [ownAddress]

/-- A stranger asks for the server's own name, without a session id. -/
def stranger : Surroundings where
  initCompleted := true
  firstBytes := some (minimalHello [] ownName)
  clientHello := some (minimalHello [] ownName)
  timestamp _ := 1700000000
  probing := ownReading
  reality := ownReading
  proxy := .proxied
  fallback := .failed
  decoy := ⟨none, [], none, false, []⟩

theorem stranger_loops :
    (selfProxyVerdict namesOnly withoutProbing ownReading ownName).1 =
        true ∧
      ¬NoProxyLoop withoutProbing
        (events (run namesOnly withoutProbing stranger)) := by
  have log : events (run namesOnly withoutProbing stranger) =
      [.setObfuscator none, .handleProxy ownName 443] := by
    decide +kernel
  refine ⟨by decide +kernel, fun none => ?_⟩
  rw [log] at none
  rcases none [.setObfuscator .none] ownName 443 [] rfl with same | checked
  · exact absurd same (by decide)
  · simp at checked

end Fptn.Web.SelfProxy
