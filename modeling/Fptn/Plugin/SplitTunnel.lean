import Fptn.Plugin.DomainBlacklist
import Fptn.Routing.ClientRoutes

/-!
# Split tunnelling

`Tunneling` routes the addresses of some domains past the tunnel.  It reads
them from the DNS answers which come through the tunnel, one plugin behind the
blacklist.  The worker of `VpnManager` hands an answer to the network
interface only behind all of its plugins, so that whoever has asked finds the
routes in place.

A session is what happens between `Apply` and `Clean` of the routes.
-/

namespace Fptn.Plugin.SplitTunnel

open Fptn.PartialRun
open Fptn.RuleTable
open Fptn.Network.Dns
open Fptn.Network.IPAddress
open Fptn.Network.Packet
open Fptn.Plugin.DomainBlacklist
open Fptn.Routing.ClientRoutes

/-! ## Tunneling -/

structure Setting (Regex : Type) where
  /-- Without rules where there is no blacklist. -/
  blacklist : Rules Regex
  tunneling : Rules Regex
  policy : RoutingPolicy
  config : Config

/-- What the system answers when it is asked for the interface. -/
structure Interfaces where
  first : String
  second : String
  ipv6 : String

/-- Whether a domain is to be kept out of the tunnel. -/
def excludes (policy : RoutingPolicy) (domainMatched : Bool) : Bool :=
  match policy with
  | .kIncludeInVpn => !domainMatched
  | .kExcludeFromVpn => domainMatched

section Handling

variable {Regex : Type} (setting : Setting Regex)

def ipv4Texts (packet : IPPacket) : List String :=
  (getDnsIPv4Addresses packet.data setting.tunneling.text).map
    IPv4Address.ip

def ipv6Texts (packet : IPPacket) : List String :=
  (getDnsIPv6Addresses packet.data setting.tunneling.text).map
    IPv6Address.ip

/-- The two calls which add the routes. -/
def addRoutes (interfaces : Interfaces) (routes : Routing.ClientRoutes.State)
    (packet : IPPacket) : Routing.ClientRoutes.State :=
  let added :=
    addDnsRoutesIPv4 setting.config routes (ipv4Texts setting packet)
      .kExcludeFromVpn interfaces.first interfaces.second
  if (ipv6Texts setting packet).isEmpty then
    added
  else
    addDnsRoutesIPv6 setting.config added (ipv6Texts setting packet)
      .kExcludeFromVpn interfaces.ipv6

/-- `Tunneling::HandlePacket`, which never drops a packet: the routes, and
whether the plugin was triggered. -/
def handlePacket (interfaces : Interfaces)
    (routes : Routing.ClientRoutes.State) (packet : IPPacket) :
    Routing.ClientRoutes.State × Bool :=
  if isDns packet.data then
    match getDnsDomain packet.data setting.tunneling.toUnicode with
    | none => (routes, false)
    | some domain =>
        if excludes setting.policy (setting.tunneling.rules.any
            (setting.tunneling.partialMatch domain)) then
          (addRoutes setting interfaces routes packet, true)
        else
          (routes, false)
  else
    (routes, false)

/-! ## The worker -/

structure Client where
  blocked : Blocked
  routes : Routing.ClientRoutes.State
  /-- The packets which the plugins have been given. -/
  handled : List IPPacket
  toSend : List IPPacket
  /-- What the network interface has been given. -/
  sent : List IPPacket

def Client.start (routes : Routing.ClientRoutes.State) : Client where
  blocked := .start
  routes := routes
  handled := []
  toSend := []
  sent := []

inductive Label where
  /-- The plugins for the next packet of a batch. -/
  | handle (packet : IPPacket) (interfaces : Interfaces)
  /-- `SendBatch`, if the manager is still running. -/
  | sendBatch (running : Bool)

namespace Client

variable (client : Client)

/-- The plugins one after the other, up to one which is triggered. -/
def handle (packet : IPPacket) (interfaces : Interfaces) : Client :=
  let (blocked, processed, triggered) :=
    DomainBlacklist.handlePacket setting.blacklist client.blocked packet
  let client := {
    client with
    blocked := blocked
    handled := client.handled ++ [packet] }
  match processed, triggered with
  | none, _ => client
  | some packet, true => { client with toSend := client.toSend ++ [packet] }
  | some packet, false =>
      { client with
        routes := (handlePacket setting interfaces client.routes packet).1
        toSend := client.toSend ++ [packet] }

def step : Label → Option Client
  | .handle packet interfaces =>
      some (client.handle setting packet interfaces)
  | .sendBatch running =>
      some { client with
        toSend := []
        sent := if running then client.sent ++ client.toSend
          else client.sent }

end Client

/-! ## What is routed -/

/-- A DNS answer for a domain which is to be kept out of the tunnel, and is
not blacklisted. -/
def Diverted (packet : IPPacket) : Prop :=
  isDns packet.data = true ∧
    matchesRule setting.blacklist packet = false ∧
      ∃ domain,
        getDnsDomain packet.data setting.tunneling.toUnicode = some domain ∧
          excludes setting.policy (setting.tunneling.rules.any
            (setting.tunneling.partialMatch domain)) = true

/-- The routes for the addresses of an answer.  Those of IPv6 need a
gateway. -/
def listed (packet : IPPacket) : List RouteEntry :=
  dnsEntries .ipv4 .kExcludeFromVpn (ipv4Texts setting packet) ++
    if (setting.config.gateway .ipv6).text = "" then
      []
    else
      dnsEntries .ipv6 .kExcludeFromVpn (ipv6Texts setting packet)

/-- The command which adds a route past the tunnel. -/
def outside (manager : RouteManager) (entry : RouteEntry) : Rule :=
  entry.via setting.config.gateway manager.detectedOutInterfaceName

end Handling

/-! ## New entries -/

theorem mem_newEntries_iff {entry : RouteEntry}
    {tracked entries : List RouteEntry} :
    entry ∈ newEntries tracked entries ↔
      entry ∈ entries ∧ entry ∉ tracked := by
  induction entries generalizing tracked with
  | nil => exact ⟨fun member => (by cases member), fun both => both.1⟩
  | cons first rest ih =>
      rw [newEntries]
      split
      case isTrue known =>
        rw [ih, List.mem_cons]
        refine ⟨fun both => ⟨Or.inr both.1, both.2⟩, ?_⟩
        rintro ⟨rfl | later, fresh⟩
        · exact absurd known fresh
        · exact ⟨later, fresh⟩
      case isFalse fresh =>
        rw [List.mem_cons, ih, List.mem_cons, List.mem_append,
          List.mem_singleton]
        by_cases same : entry = first
        · subst same
          exact ⟨fun _ => ⟨Or.inl rfl, fresh⟩, fun _ => Or.inl rfl⟩
        · simp only [same, false_or, or_false]

theorem newEntries_nodup {tracked entries : List RouteEntry}
    (distinct : tracked.Nodup) :
    (tracked ++ newEntries tracked entries).Nodup := by
  induction entries generalizing tracked with
  | nil =>
      rw [newEntries, List.append_nil]
      exact distinct
  | cons first rest ih =>
      rw [newEntries]
      split
      case isTrue => exact ih distinct
      case isFalse fresh =>
        have longer : (tracked ++ [first]).Nodup :=
          List.nodup_append.mpr
            ⟨distinct, List.nodup_singleton first, fun old oldMember new
              newMember => by
                rintro rfl
                rw [List.mem_singleton.mp newMember] at oldMember
                exact fresh oldMember⟩
        have whole := ih longer
        rwa [List.append_assoc] at whole

/-! ## Tables -/

section Tables

variable {Regex : Type} {setting : Setting Regex}
  {start state : Routing.ClientRoutes.State} {known : RouteEntry → Prop}
  {packet : IPPacket} {client next : Client} {interfaces : Interfaces}

/-- The DNS routes are known ones, each of which has been added once. -/
structure Table (setting : Setting Regex)
    (start : Routing.ClientRoutes.State) (known : RouteEntry → Prop)
    (state : Routing.ClientRoutes.State) : Prop where
  kept : state.manager = {
    start.manager with dnsRoutes := state.manager.dnsRoutes }
  added : state.added = start.added +
    ((state.manager.dnsRoutes.map (outside setting start.manager) :
      List Rule) : Multiset Rule)
  tracked : ∀ entry, entry ∈ state.manager.dnsRoutes ↔ known entry
  distinct : state.manager.dnsRoutes.Nodup

theorem Table.detected (table : Table setting start known state) :
    state.manager.detectedOutInterfaceName =
      start.manager.detectedOutInterfaceName := by
  have same :=
    congrArg RouteManager.detectedOutInterfaceName table.kept
  exact same

theorem Table.congr {other : RouteEntry → Prop}
    (table : Table setting start known state)
    (same : ∀ entry, known entry ↔ other entry) :
    Table setting start other state where
  kept := table.kept
  added := table.added
  tracked entry := (table.tracked entry).trans (same entry)
  distinct := table.distinct

/-- Routes past the tunnel are added on the detected interface. -/
theorem Table.addDnsRoutes {entries : List RouteEntry}
    (table : Table setting start known state)
    (excluded : ∀ entry ∈ entries, entry.policy = .kExcludeFromVpn) :
    Table setting start (fun entry => known entry ∨ entry ∈ entries)
      (Routing.ClientRoutes.addDnsRoutes setting.config state entries
        start.manager.detectedOutInterfaceName) := by
  have new : ((newEntries state.manager.dnsRoutes entries).map fun entry =>
      (Placed.mk entry start.manager.detectedOutInterfaceName).entry) =
        newEntries state.manager.dnsRoutes entries :=
    List.map_id _
  have rules : ((newEntries state.manager.dnsRoutes entries).map fun entry =>
      Placed.rule setting.config
        ⟨entry, start.manager.detectedOutInterfaceName⟩) =
        (newEntries state.manager.dnsRoutes entries).map
          (outside setting start.manager) := by
    refine List.map_congr_left fun entry member => ?_
    rw [Placed.rule, excluded entry (mem_newEntries member)]
    rfl
  have whole : (Routing.ClientRoutes.addDnsRoutes setting.config state entries
      start.manager.detectedOutInterfaceName).manager.dnsRoutes =
        state.manager.dnsRoutes ++
          newEntries state.manager.dnsRoutes entries := by
    simp only [Routing.ClientRoutes.addDnsRoutes, List.map_map,
      Function.comp_def, new]
  refine ⟨?_, ?_, fun entry => ?_, ?_⟩
  · have kept := table.kept
    simp only [Routing.ClientRoutes.addDnsRoutes]
    rw [kept]
  · rw [whole, List.map_append, ← Multiset.coe_add, ← Multiset.add_assoc,
      ← table.added]
    simp only [Routing.ClientRoutes.addDnsRoutes, List.map_map,
      Function.comp_def]
    rw [← rules, ← execute_add, List.map_map]
    rfl
  · rw [whole, List.mem_append, mem_newEntries_iff, ← table.tracked]
    by_cases old : entry ∈ state.manager.dnsRoutes
    · simp only [old, true_or]
    · simp only [old, not_false_eq_true, and_true]
  · rw [whole]
    exact newEntries_nodup table.distinct

theorem excluded_dnsEntries {family : Family} {texts : List String} :
    ∀ entry ∈ dnsEntries family .kExcludeFromVpn texts,
      entry.policy = .kExcludeFromVpn := by
  intro entry member
  obtain ⟨text, -, rfl⟩ := List.mem_map.mp member
  rfl

theorem Table.addDnsRoutesIPv4 {texts : List String} {first second : String}
    (table : Table setting start known state)
    (detected : start.manager.detectedOutInterfaceName ≠ "") :
    Table setting start
      (fun entry => known entry ∨
        entry ∈ dnsEntries .ipv4 .kExcludeFromVpn texts)
      (Routing.ClientRoutes.addDnsRoutesIPv4 setting.config state texts
        .kExcludeFromVpn first second) := by
  have same := table.detected
  have there : state.manager.detectedOutInterfaceName ≠ "" := by
    rwa [same]
  simp only [Routing.ClientRoutes.addDnsRoutesIPv4, dnsInterface,
    excludeInterface, if_pos there, if_neg there]
  rw [same]
  exact table.addDnsRoutes excluded_dnsEntries

theorem Table.addDnsRoutesIPv6 {texts : List String} {answer : String}
    (table : Table setting start known state)
    (detected : start.manager.detectedOutInterfaceName ≠ "") :
    Table setting start
      (fun entry => known entry ∨
        entry ∈ if (setting.config.gateway .ipv6).text = "" then []
          else dnsEntries .ipv6 .kExcludeFromVpn texts)
      (Routing.ClientRoutes.addDnsRoutesIPv6 setting.config state texts
        .kExcludeFromVpn answer) := by
  have same := table.detected
  have there : state.manager.detectedOutInterfaceName ≠ "" := by
    rwa [same]
  simp only [Routing.ClientRoutes.addDnsRoutesIPv6, dnsInterface,
    excludeInterface, if_pos there, if_neg there, dnsGateway]
  split
  case isTrue =>
    exact table.congr fun entry => ⟨Or.inl, fun either =>
      either.resolve_right (List.not_mem_nil)⟩
  case isFalse =>
    rw [same]
    exact table.addDnsRoutes excluded_dnsEntries

theorem Table.addRoutes (table : Table setting start known state)
    (detected : start.manager.detectedOutInterfaceName ≠ "") :
    Table setting start
      (fun entry => known entry ∨ entry ∈ listed setting packet)
      (addRoutes setting interfaces state packet) := by
  have ipv4 := @Table.addDnsRoutesIPv4 _ _ _ _ _ (ipv4Texts setting packet)
    interfaces.first interfaces.second table detected
  rw [SplitTunnel.addRoutes]
  split
  case isTrue nothing =>
    refine ipv4.congr fun entry => ?_
    rw [listed, List.isEmpty_iff.mp nothing, List.mem_append]
    simp only [dnsEntries, List.map_nil, ite_self, List.not_mem_nil,
      or_false]
  case isFalse =>
    refine (ipv4.addDnsRoutesIPv6 detected).congr fun entry => ?_
    rw [listed, List.mem_append, or_assoc]

end Tables

/-! ## Sessions -/

section Sessions

variable {Regex : Type} {setting : Setting Regex}
  {start : Routing.ClientRoutes.State} {packet : IPPacket}
  {client next : Client} {interfaces : Interfaces}

/-- What the blacklist makes of a packet. -/
theorem blacklist_cases (rules : Rules Regex) (blocked : Blocked) :
    let result := (DomainBlacklist.handlePacket rules blocked packet).2
    result = (none, true) ∧ isDns packet.data = false ∨
      result = (some packet, true) ∧ matchesRule rules packet = true ∨
        result = (some packet, false) ∧
          (isDns packet.data = true → matchesRule rules packet = false) := by
  simp only [DomainBlacklist.handlePacket]
  split
  case isTrue =>
    split
    case isTrue matches_ => exact Or.inr (Or.inl ⟨rfl, matches_⟩)
    case isFalse other =>
      exact Or.inr (Or.inr ⟨rfl, fun _ => Bool.not_eq_true _ ▸ other⟩)
  case isFalse notDns =>
    have plain : isDns packet.data = false := Bool.eq_false_iff.mpr notDns
    split
    · split
      · exact Or.inl ⟨rfl, plain⟩
      · exact Or.inr (Or.inr ⟨rfl, fun dns => absurd dns notDns⟩)
    · split
      · split
        · exact Or.inl ⟨rfl, plain⟩
        · exact Or.inr (Or.inr ⟨rfl, fun dns => absurd dns notDns⟩)
      · exact Or.inr (Or.inr ⟨rfl, fun dns => absurd dns notDns⟩)

/-- The answers which have diverted a route. -/
def Known (setting : Setting Regex) (handled : List IPPacket)
    (entry : RouteEntry) : Prop :=
  ∃ packet ∈ handled, Diverted setting packet ∧ entry ∈ listed setting packet

theorem known_append {handled : List IPPacket} {entry : RouteEntry} :
    Known setting (handled ++ [packet]) entry ↔
      Known setting handled entry ∨
        Diverted setting packet ∧ entry ∈ listed setting packet := by
  constructor
  · rintro ⟨other, member, diverted⟩
    rcases List.mem_append.mp member with before | last
    · exact Or.inl ⟨other, before, diverted⟩
    · obtain rfl := List.mem_singleton.mp last
      exact Or.inr diverted
  · rintro (⟨other, before, diverted⟩ | diverted)
    · exact ⟨other, List.mem_append_left _ before, diverted⟩
    · exact ⟨packet, List.mem_append_right _ List.mem_cons_self, diverted⟩

theorem Table.untouched {handled : List IPPacket}
    {state : Routing.ClientRoutes.State}
    (table : Table setting start (Known setting handled) state)
    (other : ¬Diverted setting packet) :
    Table setting start (Known setting (handled ++ [packet])) state :=
  table.congr fun entry => by
    rw [known_append]
    exact
      ⟨Or.inl, fun either => either.resolve_right fun new => other new.1⟩

/-- The plugin for a packet which the blacklist has passed on. -/
theorem handlePacket_table {handled : List IPPacket}
    {state : Routing.ClientRoutes.State}
    (table : Table setting start (Known setting handled) state)
    (detected : start.manager.detectedOutInterfaceName ≠ "")
    (passed : isDns packet.data = true →
      matchesRule setting.blacklist packet = false) :
    Table setting start (Known setting (handled ++ [packet]))
      (handlePacket setting interfaces state packet).1 := by
  rw [handlePacket]
  split
  case isFalse notDns =>
    exact table.untouched fun diverted => notDns diverted.1
  case isTrue dns =>
    split
    case h_1 noDomain =>
      refine table.untouched ?_
      rintro ⟨-, -, domain, there, -⟩
      rw [noDomain] at there
      cases there
    case h_2 domain there =>
      split
      case isTrue excluded =>
        refine (table.addRoutes detected).congr fun entry => ?_
        rw [known_append]
        have diverted : Diverted setting packet :=
          ⟨dns, passed dns, domain, there, excluded⟩
        simp only [diverted, true_and]
      case isFalse kept =>
        refine table.untouched ?_
        rintro ⟨-, -, other, same, excluded⟩
        obtain rfl := Option.some.inj (there.symm.trans same)
        exact kept excluded

structure Session (setting : Setting Regex)
    (start : Routing.ClientRoutes.State) (client : Client) : Prop where
  order : (client.sent ++ client.toSend).Sublist client.handled
  table : Table setting start (Known setting client.handled) client.routes

theorem start_session (fresh : start.manager.dnsRoutes = []) :
    Session setting start (Client.start start) where
  order := List.Sublist.refl _
  table := {
    kept := rfl
    added := by
      show start.added = _
      rw [Client.start, fresh, List.map_nil, Multiset.coe_nil,
        Multiset.add_zero]
    tracked := fun entry => by
      show entry ∈ start.manager.dnsRoutes ↔ _
      rw [fresh]
      constructor
      · intro nothing
        cases nothing
      · rintro ⟨_, nothing, -⟩
        cases nothing
    distinct := by
      show start.manager.dnsRoutes.Nodup
      rw [fresh]
      exact List.nodup_nil }

theorem handle_session (session : Session setting start client)
    (detected : start.manager.detectedOutInterfaceName ≠ "") :
    Session setting start (client.handle setting packet interfaces) := by
  have dropped : (client.sent ++ client.toSend).Sublist
      (client.handled ++ [packet]) :=
    session.order.trans (List.sublist_append_left _ _)
  have kept : (client.sent ++ (client.toSend ++ [packet])).Sublist
      (client.handled ++ [packet]) := by
    rw [← List.append_assoc]
    exact session.order.append (List.Sublist.refl _)
  rw [Client.handle]
  rcases @blacklist_cases _ packet setting.blacklist client.blocked with
    ⟨result, notDns⟩ | ⟨result, matches_⟩ | ⟨result, passed⟩
  · simp only [result]
    refine ⟨dropped, session.table.untouched fun diverted => ?_⟩
    cases notDns.symm.trans diverted.1
  · simp only [result]
    refine ⟨kept, session.table.untouched fun diverted => ?_⟩
    cases matches_.symm.trans diverted.2.1
  · simp only [result]
    exact ⟨kept, handlePacket_table session.table detected passed⟩

theorem step_session {label : Label}
    (detected : start.manager.detectedOutInterfaceName ≠ "")
    (session : Session setting start client)
    (taken : client.step setting label = some next) :
    Session setting start next := by
  cases label with
  | handle packet interfaces =>
      cases taken
      exact handle_session session detected
  | sendBatch running =>
      cases taken
      refine ⟨?_, session.table⟩
      rw [List.append_nil]
      cases running with
      | true => exact session.order
      | false => exact (List.sublist_append_left _ _).trans session.order

end Sessions

/-- Between `Apply` and `Clean`, what has been added to the routes are exactly
those past the tunnel for the addresses in the answers handled so far, for
domains which are to be kept out of it and not blacklisted, each of them once.
So whatever answer of this kind the network interface is given, its routes are
in place. -/
theorem answers_routed {Regex : Type} (setting : Setting Regex)
    (state : Routing.ClientRoutes.State) (tunName : String)
    (detection : Detection) (idle : state.manager.running = false)
    (clean : state.manager.dnsRoutes = [])
    (labels : List Label) (client : Client)
    (detected : (Routing.ClientRoutes.apply setting.config state tunName
      detection).manager.detectedOutInterfaceName ≠ "")
    (reached : run (Client.step setting)
      (Client.start
        (Routing.ClientRoutes.apply setting.config state tunName detection))
      labels = some client) :
    let start :=
      Routing.ClientRoutes.apply setting.config state tunName detection
    ∃ entries : List RouteEntry,
      client.routes.added = start.added +
          ((entries.map (outside setting start.manager) : List Rule) :
            Multiset Rule) ∧
        entries.Nodup ∧
        (∀ entry, entry ∈ entries ↔
          ∃ packet ∈ client.handled,
            Diverted setting packet ∧ entry ∈ listed setting packet) ∧
        (client.sent ++ client.toSend).Sublist client.handled ∧
        ∀ packet ∈ client.sent, Diverted setting packet →
          ∀ entry ∈ listed setting packet,
            outside setting start.manager entry ∈ client.routes.added := by
  have fresh : (Routing.ClientRoutes.apply setting.config state tunName
      detection).manager.dnsRoutes = [] := by
    rw [Routing.ClientRoutes.apply, if_neg (by rw [idle]; decide)]
    exact clean
  obtain ⟨order, table⟩ :=
    run_invariant (fun _ _ _ => step_session detected)
      (@start_session _ setting _ fresh) reached
  refine
    ⟨client.routes.manager.dnsRoutes, table.added, table.distinct,
      table.tracked, order, fun packet sent diverted entry member => ?_⟩
  have handled : packet ∈ client.handled :=
    order.subset (List.mem_append_left _ sent)
  rw [table.added]
  refine Multiset.mem_add.mpr (Or.inr ?_)
  exact
    List.mem_map_of_mem
      ((table.tracked entry).mpr ⟨packet, handled, diverted, member⟩)

/-- All domains are kept out of the tunnel. -/
def everyDomain : Setting Unit where
  blacklist := { anyName with rules := [] }
  tunneling := anyName
  policy := .kExcludeFromVpn
  config := homeConfig (address "fe80::1")

def homeRoutes : Routing.ClientRoutes.State :=
  Routing.ClientRoutes.apply everyDomain.config .create "tun0"
    nothingDetected

def passesAnswer : List Label :=
  [.handle response ⟨"", "", ""⟩, .sendBatch true]

theorem answers_routed_response :
    ∃ client,
      run (Client.step everyDomain) (Client.start homeRoutes) passesAnswer =
          some client ∧
        client.sent = [response] ∧
        ∃ entry ∈ listed everyDomain response,
          outside everyDomain homeRoutes.manager entry ∈
            client.routes.added := by
  have taken : (run (Client.step everyDomain) (Client.start homeRoutes)
      passesAnswer).map Client.sent = some [response] := rfl
  obtain ⟨client, reached, sent⟩ := Option.map_eq_some_iff.mp taken
  obtain ⟨-, -, -, -, -, routed⟩ :=
    answers_routed everyDomain .create "tun0" nothingDetected rfl rfl
      passesAnswer client (by decide) reached
  have diverted : Diverted everyDomain response :=
    ⟨by decide, by decide, [0x61], by decide +kernel, by decide⟩
  have some_ : (listed everyDomain response).length = 1 := by
    decide +kernel
  obtain ⟨entry, only⟩ := List.length_eq_one_iff.mp some_
  have member : entry ∈ listed everyDomain response := by
    rw [only]
    exact List.mem_singleton_self entry
  refine ⟨client, reached, sent, entry, member, ?_⟩
  exact
    routed response (by rw [sent]; exact List.mem_singleton_self _) diverted
      entry member

end Fptn.Plugin.SplitTunnel
