import Fptn.Web.SelfProxy

/-!
# The policy for server names

A peer who is no client is connected to a site: to the one whose name it asks
for, if this is in the list of allowed names, and otherwise to the default
domain.  Names are compared without regard to case, and the names below an
allowed one are allowed.

With an empty list all names are allowed, as the example configurations say;
the help text says that none is.  The default domain is made part of a list
which is not empty; it is split there like the list itself.
-/

namespace Fptn.Web.SniPolicy

open Fptn.EventLog
open Fptn.Network.TlsHello
open Fptn.Web.SelfProxy
open Fptn.Web.SessionRun

/-! ## The configuration -/

/-- `rutube.ru`. -/
def fptnDefaultSni : ByteString :=
  [0x72, 0x75, 0x74, 0x75, 0x62, 0x65, 0x2E, 0x72, 0x75]

/-- The options `--default-proxy-domain` and `--allowed-sni-list`. -/
structure ServerConfig where
  defaultDomain : ByteString
  allowedSni : ByteString

namespace ServerConfig

variable (server : ServerConfig)

def defaultProxyDomain : ByteString :=
  if server.defaultDomain = [] then
    fptnDefaultSni
  else
    server.defaultDomain

def allowedSniList : List ByteString :=
  if server.allowedSni ≠ [] then
    splitCommaSeparated
      (server.allowedSni ++ 0x2C :: server.defaultProxyDomain)
  else
    []

theorem defaultProxyDomain_ne_nil : server.defaultProxyDomain ≠ [] := by
  rw [defaultProxyDomain]
  split
  · decide
  · assumption

/-- A session's configuration, as far as it has come from these options. -/
def session (config : Config) : Config :=
  { config with
    defaultProxyDomain := server.defaultProxyDomain
    allowedSniList := server.allowedSniList }

end ServerConfig

/-! ## Names -/

/-- The same name, in whatever case. -/
def SameName (left right : ByteString) : Prop :=
  normalizeSni left = normalizeSni right

instance (left right : ByteString) : Decidable (SameName left right) :=
  inferInstanceAs (Decidable (normalizeSni left = normalizeSni right))

/-- A name is an entry of the list, or one below it. -/
def Matches (sni entry : ByteString) : Prop :=
  SameName sni entry ∨
    ∃ front, front ≠ [] ∧
      normalizeSni sni = front ++ 0x2E :: normalizeSni entry

def MatchesAny (sni : ByteString) (entries : List ByteString) : Prop :=
  ∃ entry ∈ entries, Matches sni entry

theorem toLower_toLower (byte : UInt8) :
    toLower (toLower byte) = toLower byte := by
  by_cases upper : 0x41 ≤ byte ∧ byte ≤ 0x5A
  · have lower : toLower byte = byte + 0x20 := if_pos upper
    have range := upper
    simp only [UInt8.le_iff_toNat_le, UInt8.reduceToNat] at range
    have notUpper : ¬(0x41 ≤ byte + 0x20 ∧ byte + 0x20 ≤ 0x5A) := by
      simp only [UInt8.le_iff_toNat_le, UInt8.toNat_add, UInt8.reduceToNat]
      omega
    rw [lower]
    exact if_neg notUpper
  · have same : toLower byte = byte := if_neg upper
    rw [same, same]

@[simp]
theorem normalizeSni_normalizeSni (sni : ByteString) :
    normalizeSni (normalizeSni sni) = normalizeSni sni := by
  simp only [normalizeSni, List.map_map]
  exact List.map_congr_left fun byte _ => toLower_toLower byte

/-- Without regard to case nothing else is compared. -/
theorem sameName_normalizeSni (sni : ByteString) :
    SameName (normalizeSni sni) sni :=
  normalizeSni_normalizeSni sni

/-- The two tests of an entry. -/
theorem matches_iff (sni entry : ByteString) :
    (normalizeSni sni == normalizeSni entry ||
        decide ((normalizeSni entry).length + 1 <
            (normalizeSni sni).length) &&
          (0x2E :: normalizeSni entry).isSuffixOf (normalizeSni sni)) =
        true ↔
      Matches sni entry := by
  rw [Bool.or_eq_true, beq_iff_eq, Bool.and_eq_true, decide_eq_true_iff,
    List.isSuffixOf_iff_suffix]
  refine or_congr Iff.rfl ?_
  constructor
  · rintro ⟨longer, front, split⟩
    refine ⟨front, ?_, split.symm⟩
    rintro rfl
    have length := congrArg List.length split
    rw [List.nil_append, List.length_cons] at length
    omega
  · rintro ⟨front, nonempty, split⟩
    have positive := List.length_pos_iff.mpr nonempty
    have length := congrArg List.length split
    rw [List.length_append, List.length_cons] at length
    exact ⟨by omega, front, split.symm⟩

/-! ## What a session uses -/

/-- A list lets a name pass; an empty one lets all of them. -/
def Permits (entries : List ByteString) (sni : ByteString) : Prop :=
  entries = [] ∨ MatchesAny sni entries

/-- What `ApplyAllowedSniList` makes of the name of a peer. -/
theorem applyAllowedSniList_eq {sni defaultDomain : ByteString}
    {entries : List ByteString} [Decidable (Permits entries sni)] :
    applyAllowedSniList (normalizeSni sni) entries defaultDomain =
      if normalizeSni sni = defaultDomain ∨ Permits entries sni then
        normalizeSni sni
      else defaultDomain := by
  have any :
      (entries.any fun entry =>
          normalizeSni sni == normalizeSni entry ||
            decide ((normalizeSni entry).length + 1 <
                (normalizeSni sni).length) &&
              (0x2E :: normalizeSni entry).isSuffixOf
                (normalizeSni sni)) = true ↔
        MatchesAny sni entries := by
    rw [List.any_eq_true]
    exact exists_congr fun entry => and_congr_right fun _ =>
      matches_iff sni entry
  rw [applyAllowedSniList]
  by_cases empty : entries = []
  · have isEmpty := List.isEmpty_iff.mpr empty
    have permitted : Permits entries sni := Or.inl empty
    rw [if_pos (Or.inl isEmpty), if_pos (Or.inr permitted)]
  · have notEmpty := mt List.isEmpty_iff.mp empty
    by_cases own : normalizeSni sni = defaultDomain
    · rw [if_pos (Or.inr own), if_pos (Or.inl own)]
    · rw [if_neg (not_or.mpr ⟨notEmpty, own⟩)]
      exact if_congr
        (any.trans (by simp only [own, Permits, empty, false_or])) rfl rfl

/-- The list which is not empty has the entries of both options. -/
theorem splitCommaSeparated_append (front back : ByteString) :
    splitCommaSeparated (front ++ 0x2C :: back) =
      splitCommaSeparated front ++ splitCommaSeparated back := by
  simp only [splitCommaSeparated, List.splitOn_eq_splitOnP]
  rw [List.splitOnP_append_cons front back (by decide), List.map_append,
    List.filter_append]

/-- A name is one entry, if it has no commas and no spaces around it. -/
theorem splitCommaSeparated_name {name : ByteString} (nonempty : name ≠ [])
    (noComma : 0x2C ∉ name) (trimmed : trim name = name) :
    splitCommaSeparated name = [name] := by
  have whole : name.splitOn 0x2C = [name] := by
    rw [List.splitOn_eq_splitOnP]
    apply List.splitOnP_eq_singleton
    intro byte member
    exact beq_eq_false_iff_ne.mpr fun same => noComma (same ▸ member)
  rw [splitCommaSeparated, whole, List.map_singleton, trimmed,
    List.filter_cons_of_pos (by simpa using nonempty)]
  rfl

/-! ## The sites of a session -/

/-- An event which is a connection goes to a site with this name, or to the
default domain. -/
def GoesTo (config : Config) (sni : ByteString) (_ : List Event) :
    Event → Prop
  | .handleProxy site _ => site = sni ∨ site = config.defaultProxyDomain
  | _ => True

section Session

variable {system : System} {config : Config}
  {surroundings : Surroundings} {reading : SelfProxyReading}
  {clientHello : List UInt8} {sni asked : ByteString}
  {earlier : List Event}

theorem isRecursiveAttempt_goesTo :
    Justified (GoesTo config sni) earlier
      (isRecursiveAttempt system config reading asked) := by
  unfold isRecursiveAttempt
  split
  · rw [Justified, isSniSelfProxyAttempt_events]
    split <;> simp [Follows, GoesTo]
  · trivial

theorem proxyWithFallback_goesTo
    (named : asked = sni ∨ asked = config.defaultProxyDomain) :
    Justified (GoesTo config sni) earlier
      (proxyWithFallback config surroundings asked) := by
  unfold proxyWithFallback
  simp only [handleProxy, justified_bind, justified_record, justified_pure,
    GoesTo, and_true]
  refine ⟨named, ?_⟩
  split <;> simp [justified_bind, GoesTo]

theorem decoyHandshake_goesTo {result : RealityResult} :
    Justified (GoesTo config sni) earlier
      (decoyHandshake config surroundings result) := by
  unfold decoyHandshake
  split
  · unfold performFakeHandshake
    split <;> simp [justified_bind, GoesTo]
  · unfold performFakeHandshake2
    split
    · simp [justified_bind, GoesTo]
    · simp only [justified_bind, justified_record, GoesTo, true_and]
      split <;> simp [justified_bind, GoesTo]

theorem runReality_goesTo :
    Justified (GoesTo config sni) earlier
      (runReality system config surroundings clientHello sni) := by
  unfold runReality
  simp only
  split
  · simp [justified_bind, proxyWithFallback_goesTo]
  · split
    · unfold realityMode
      rw [justified_bind, and_iff_right isRecursiveAttempt_goesTo]
      split
      · simp [handleProxy, justified_bind, GoesTo]
      · simp [justified_bind, decoyHandshake_goesTo]
    · trivial

theorem probeSessionId_sni :
    (probeSessionId system config surroundings clientHello sni).sni = sni ∨
      (probeSessionId system config surroundings clientHello sni).sni =
        config.defaultProxyDomain := by
  unfold probeSessionId
  simp only
  split
  · exact Or.inl rfl
  · split
    · exact Or.inl rfl
    · exact Or.inr rfl

/-- Probing keeps the name or takes the default domain. -/
theorem detectProbing_sni :
    (value (detectProbing system config surroundings clientHello
        sni)).sni = sni ∨
      (value (detectProbing system config surroundings clientHello
        sni)).sni = config.defaultProxyDomain := by
  rw [detectProbing, value_bind, value_pure]
  split
  · refine Or.inr ?_
    rcases @probeSessionId_sni system config surroundings clientHello
      config.defaultProxyDomain with same | same <;> exact same
  · exact probeSessionId_sni

theorem runClientHello_goesTo :
    Justified (GoesTo config (clientSniOf config clientHello)) earlier
      (runClientHello system config surroundings clientHello) := by
  unfold runClientHello
  simp only
  split
  · have probing : Justified
          (GoesTo config (clientSniOf config clientHello)) earlier
          (detectProbing system config surroundings clientHello
            (clientSniOf config clientHello)) := by
      rw [detectProbing, justified_bind]
      exact ⟨isRecursiveAttempt_goesTo, trivial⟩
    rw [justified_bind, and_iff_right probing]
    split
    · trivial
    · split
      · rw [justified_bind]
        exact ⟨proxyWithFallback_goesTo detectProbing_sni, trivial⟩
      · exact runReality_goesTo
  · exact runReality_goesTo

/-- A session connects its peer to the site which it uses for the peer's
ClientHello, or to the default domain. -/
theorem run_goesTo (peeked : surroundings.clientHello = some clientHello) :
    Justified (GoesTo config (clientSniOf config clientHello)) earlier
      (run system config surroundings) := by
  unfold run
  split
  · trivial
  · split
    · trivial
    · simp only [justified_bind, justified_record, GoesTo, true_and]
      split
      · trivial
      · rw [peeked]
        dsimp only
        split
        · exact runClientHello_goesTo
        · trivial

end Session

/-! ## The policy -/

/-- What a list makes of a name: it is used if it matches the list or the
default domain, and otherwise the default domain is. -/
def Filtered (server : ServerConfig) (sni used : ByteString) : Prop :=
  (MatchesAny sni
        (splitCommaSeparated server.allowedSni ++
          [server.defaultProxyDomain]) →
      SameName used sni) ∧
    (¬MatchesAny sni
        (splitCommaSeparated server.allowedSni ++
          [server.defaultProxyDomain]) →
      SameName used server.defaultProxyDomain)

/-- The name which a session uses for a peer: its own one if there is no list,
what the list makes of it if there is one, and the default domain if the peer
sends none. -/
def Followed (server : ServerConfig) (config : Config)
    (clientHello : List UInt8) : Prop :=
  let used := clientSniOf (server.session config) clientHello
  match getTlsSNI clientHello with
  | none => SameName used server.defaultProxyDomain
  | some sni =>
      if server.allowedSni = [] then
        SameName used sni
      else
        Filtered server sni used

/-- The policy of the help text, where the default domain is used if there is
no list. -/
def Documented (server : ServerConfig) (config : Config)
    (clientHello : List UInt8) : Prop :=
  let used := clientSniOf (server.session config) clientHello
  match getTlsSNI clientHello with
  | none => SameName used server.defaultProxyDomain
  | some sni =>
      if server.allowedSni = [] then
        SameName used server.defaultProxyDomain
      else
        Filtered server sni used

/-- The peer sends no name or that of the default domain, or there is a list,
and the parts of the default domain match as the default domain does. -/
def Respected (server : ServerConfig) (clientHello : List UInt8) : Prop :=
  ∀ sni, getTlsSNI clientHello = some sni →
    SameName sni server.defaultProxyDomain ∨
      server.allowedSni ≠ [] ∧
        (Permits
            (splitCommaSeparated server.allowedSni ++
              splitCommaSeparated server.defaultProxyDomain) sni ↔
          MatchesAny sni
            (splitCommaSeparated server.allowedSni ++
              [server.defaultProxyDomain]))

variable {server : ServerConfig} {config : Config}
  {clientHello : List UInt8} {sni : ByteString}

theorem clientSniOf_none (absent : getTlsSNI clientHello = none) :
    clientSniOf (server.session config) clientHello =
      server.defaultProxyDomain := by
  rw [clientSniOf, absent]
  exact if_pos (Or.inr rfl)

open Classical in
theorem clientSniOf_some (found : getTlsSNI clientHello = some sni) :
    clientSniOf (server.session config) clientHello =
      if normalizeSni sni = server.defaultProxyDomain ∨
          Permits server.allowedSniList sni then
        normalizeSni sni
      else server.defaultProxyDomain := by
  rw [clientSniOf, found]
  exact applyAllowedSniList_eq

/-- The name which is used, for a peer who asks for another one than the
default domain. -/
theorem sameName_clientSniOf (found : getTlsSNI clientHello = some sni)
    (other : ¬SameName sni server.defaultProxyDomain) :
    (SameName (clientSniOf (server.session config) clientHello) sni ↔
        Permits server.allowedSniList sni) ∧
      (SameName (clientSniOf (server.session config) clientHello)
          server.defaultProxyDomain ↔
        ¬Permits server.allowedSniList sni) := by
  have notOwn : normalizeSni sni ≠ server.defaultProxyDomain := by
    intro own
    exact other (by rw [← own]; exact (sameName_normalizeSni sni).symm)
  rw [clientSniOf_some found]
  by_cases permitted : Permits server.allowedSniList sni
  · rw [if_pos (Or.inr permitted)]
    refine ⟨iff_of_true (sameName_normalizeSni sni) permitted, ?_⟩
    refine iff_of_false (fun same => other ?_) (not_not.mpr permitted)
    exact (sameName_normalizeSni sni).symm.trans same
  · rw [if_neg (not_or.mpr ⟨notOwn, permitted⟩)]
    exact
      ⟨iff_of_false (fun same => other same.symm) permitted,
        iff_of_true rfl permitted⟩

/-- For the default domain all is well. -/
theorem sameName_clientSniOf_default
    (found : getTlsSNI clientHello = some sni)
    (own : SameName sni server.defaultProxyDomain) :
    SameName (clientSniOf (server.session config) clientHello) sni := by
  rw [clientSniOf_some found]
  split
  · exact sameName_normalizeSni sni
  · exact own.symm

theorem allowedSniList_of_listed (listed : server.allowedSni ≠ []) :
    server.allowedSniList =
      splitCommaSeparated server.allowedSni ++
        splitCommaSeparated server.defaultProxyDomain := by
  rw [ServerConfig.allowedSniList, if_pos listed,
    splitCommaSeparated_append]

theorem filtered_of_default (found : getTlsSNI clientHello = some sni)
    (own : SameName sni server.defaultProxyDomain) :
    Filtered server sni
      (clientSniOf (server.session config) clientHello) := by
  have used :=
    @sameName_clientSniOf_default server config clientHello sni found own
  exact ⟨fun _ => used, fun _ => used.trans own⟩

/-- A list works as it should exactly if the parts of the default domain match
as the default domain does. -/
theorem filtered_iff (found : getTlsSNI clientHello = some sni)
    (other : ¬SameName sni server.defaultProxyDomain)
    (listed : server.allowedSni ≠ []) :
    Filtered server sni
        (clientSniOf (server.session config) clientHello) ↔
      (Permits
          (splitCommaSeparated server.allowedSni ++
            splitCommaSeparated server.defaultProxyDomain) sni ↔
        MatchesAny sni
          (splitCommaSeparated server.allowedSni ++
            [server.defaultProxyDomain])) := by
  obtain ⟨asked, default_⟩ :=
    @sameName_clientSniOf server config clientHello sni found other
  rw [Filtered, asked, default_, allowedSniList_of_listed listed]
  constructor
  · intro both
    exact
      ⟨fun permits => by_contra fun unlisted => both.2 unlisted permits,
        both.1⟩
  · intro same
    exact ⟨same.mpr, fun unlisted permits => unlisted (same.mp permits)⟩

/-- A default domain which is a single name is one entry. -/
theorem permits_iff_matchesAny (noComma : 0x2C ∉ server.defaultProxyDomain)
    (trimmed : trim server.defaultProxyDomain = server.defaultProxyDomain) :
    Permits
        (splitCommaSeparated server.allowedSni ++
          splitCommaSeparated server.defaultProxyDomain) sni ↔
      MatchesAny sni
        (splitCommaSeparated server.allowedSni ++
          [server.defaultProxyDomain]) := by
  rw [splitCommaSeparated_name server.defaultProxyDomain_ne_nil noComma
    trimmed]
  exact or_iff_right (by simp)

/-- The policy is that of the help text exactly for these peers and options;
for a default domain without commas and spaces, these are the peers without a
name, those who ask for the default domain, and all where there is a list. -/
theorem documented_iff (server : ServerConfig) (config : Config)
    (clientHello : List UInt8) :
    (Documented server config clientHello ↔
        Respected server clientHello) ∧
      (0x2C ∉ server.defaultProxyDomain →
        trim server.defaultProxyDomain = server.defaultProxyDomain →
        (Respected server clientHello ↔
          ∀ sni, getTlsSNI clientHello = some sni →
            SameName sni server.defaultProxyDomain ∨
              server.allowedSni ≠ [])) := by
  constructor
  · simp only [Documented, Respected]
    cases found : getTlsSNI clientHello with
    | none =>
        refine iff_of_true ?_ (fun sni other => nomatch other)
        rw [clientSniOf_none found]
        rfl
    | some sni =>
        simp only [Option.some.injEq, forall_eq']
        by_cases own : SameName sni server.defaultProxyDomain
        · refine iff_of_true ?_ (Or.inl own)
          split
          · exact (sameName_clientSniOf_default found own).trans own
          · exact filtered_of_default found own
        · by_cases listed : server.allowedSni = []
          · have all : Permits server.allowedSniList sni :=
              Or.inl (if_neg (not_not.mpr listed))
            have default_ :=
              (@sameName_clientSniOf server config clientHello sni found
                own).2
            simp [listed, own, default_, all]
          · rw [if_neg listed, filtered_iff found own listed]
            simp only [own, listed, ne_eq, not_false_eq_true, true_and,
              false_or]
  · intro noComma trimmed
    refine forall_congr' fun sni => imp_congr_right fun _ =>
      or_congr_right ?_
    exact
      and_iff_left_of_imp fun _ => permits_iff_matchesAny noComma trimmed

end Fptn.Web.SniPolicy
