import Fptn.Lib.PartialRun
import Fptn.Lib.RuleTable

/-!
# The routes of the client

`RouteManager` of the client sends the traffic into the tunnel: `Apply` adds
routes and rules of the packet filter, `AddDnsRoutes` adds routes while it
runs, and `Clean` removes them again with a list of commands of its own.  Each
command adds or removes one route or rule.  Commands which do neither, as those
for the name servers, are left out.

What is removed is not in all cases what has been added.
-/

namespace Fptn.Routing.ClientRoutes

open Fptn.PartialRun
open Fptn.RuleTable

inductive Family where
  | ipv4
  | ipv6
deriving DecidableEq

/-- A route of `ip route`, or a rule of `iptables` or `ip6tables`. -/
inductive Rule where
  | route (family : Family) (destination : String)
      (via : Option String) (device : String)
  | filter (family : Family) (table chain : String)
      (arguments : List String)
deriving DecidableEq

/-- An address object: its text, `IsEmpty` and `IsValid`. -/
structure Address where
  text : String
  isEmpty : Bool
  isValid : Bool

structure Config where
  outInterfaceName : String
  tunInterfaceAddress : Family → Address
  vpnServerIp : Address
  dnsServer : Family → Address
  customDnsIPv4 : Address
  gateway : Family → Address
  excludeNetworks : List String
  includeNetworks : List String

inductive RoutingPolicy where
  | kExcludeFromVpn
  | kIncludeInVpn
deriving DecidableEq

structure RouteEntry where
  family : Family
  destination : String
  policy : RoutingPolicy
deriving DecidableEq

/-- The sets of routes of both families are in one list each. -/
structure RouteManager where
  running : Bool
  tunInterfaceName : String
  dnsRoutes : List RouteEntry
  additionalRoutes : List RouteEntry
  detectedOutInterfaceName : String
  detectedGateway : Family → Address

/-- What the system answers when it is asked for its defaults. -/
structure Detection where
  interfaceName : String
  gateway : Family → Address

/-! ## Rules -/

/-- The route of an entry. -/
def RouteEntry.via (entry : RouteEntry) (gateway : Family → Address)
    (device : String) : Rule :=
  .route entry.family entry.destination
    (some (gateway entry.family).text) device

def output (family : Family) (arguments : List String) : Rule :=
  .filter family "filter" "OUTPUT" arguments

/-- Answers of name servers which come out of the tunnel. -/
def allowAnswers (family : Family) (tun protocol : String) : Rule :=
  output family ["-o", tun, "-p", protocol, "--sport", "53", "-j", "ACCEPT"]

def block (family : Family) (out protocol port : String) : Rule :=
  output family ["-o", out, "-p", protocol, "--dport", port, "-j", "DROP"]

def allowDns (server protocol : String) : Rule :=
  output .ipv4
    ["-d", server, "-p", protocol, "--dport", "53", "-j", "ACCEPT"]

section Commands

variable (config : Config) (manager : RouteManager)

/-- For `custom_dns_ipv4`, if there is one. -/
def customDnsRules : List Rule :=
  let customDns := config.customDnsIPv4.text
  if config.customDnsIPv4.isValid then
    [.route .ipv4 customDns none manager.tunInterfaceName,
      allowDns customDns "udp", allowDns customDns "tcp"]
  else
    []

/-- What `Apply` adds, before the networks. -/
def applied : List Rule :=
  let out := manager.detectedOutInterfaceName
  let tun := manager.tunInterfaceName
  let server := config.vpnServerIp.text
  let dns4 := (config.dnsServer .ipv4).text
  let dns6 := (config.dnsServer .ipv6).text
  [.filter .ipv4 "nat" "POSTROUTING" ["-o", out, "-j", "MASQUERADE"],
    .filter .ipv4 "filter" "FORWARD" ["-i", out, "-o", tun, "-m", "state",
      "--state", "RELATED,ESTABLISHED", "-j", "ACCEPT"],
    .filter .ipv4 "filter" "FORWARD" ["-i", tun, "-o", out, "-j", "ACCEPT"],
    output .ipv4 ["-o", out, "-d", server, "-j", "ACCEPT"],
    .filter .ipv4 "filter" "INPUT" ["-i", out, "-s", server, "-j", "ACCEPT"],
    .route .ipv4 dns4 none tun,
    .route .ipv6 dns6 none tun,
    .route .ipv6 "default" (some dns6) tun,
    .route .ipv4 server (some (manager.detectedGateway .ipv4).text) out,
    allowAnswers .ipv4 tun "udp", allowAnswers .ipv4 tun "tcp",
    allowAnswers .ipv6 tun "udp", allowAnswers .ipv6 tun "tcp",
    block .ipv4 out "udp" "53", block .ipv4 out "tcp" "53",
    block .ipv6 out "udp" "53", block .ipv6 out "tcp" "53",
    block .ipv4 out "udp" "853", block .ipv4 out "tcp" "853",
    block .ipv6 out "udp" "853", block .ipv6 out "tcp" "853",
    allowDns dns4 "udp", allowDns dns4 "tcp"] ++
    customDnsRules config manager

/-- What `Clean` removes, after the networks. -/
def cleaned : List Rule :=
  let out := manager.detectedOutInterfaceName
  let tun := manager.tunInterfaceName
  let server := config.vpnServerIp.text
  let dns4 := (config.dnsServer .ipv4).text
  let dns6 := (config.dnsServer .ipv6).text
  [.filter .ipv4 "nat" "POSTROUTING" ["-o", out, "-j", "MASQUERADE"],
    .filter .ipv4 "filter" "FORWARD" ["-i", out, "-o", tun, "-m", "state",
      "--state", "RELATED,ESTABLISHED", "-j", "ACCEPT"],
    .filter .ipv4 "filter" "FORWARD" ["-i", tun, "-o", out, "-j", "ACCEPT"],
    output .ipv4 ["-o", out, "-d", server, "-j", "ACCEPT"],
    .filter .ipv4 "filter" "INPUT" ["-i", out, "-s", server, "-j", "ACCEPT"],
    .route .ipv4 server (some (manager.detectedGateway .ipv4).text) out,
    .route .ipv4 dns4 none tun,
    allowDns dns4 "udp", allowDns dns4 "tcp",
    block .ipv4 out "udp" "53", block .ipv4 out "tcp" "53",
    block .ipv4 out "udp" "853", block .ipv4 out "tcp" "853",
    block .ipv6 out "udp" "53", block .ipv6 out "tcp" "53",
    block .ipv6 out "udp" "853", block .ipv6 out "tcp" "853",
    allowAnswers .ipv4 tun "udp", allowAnswers .ipv4 tun "tcp",
    allowAnswers .ipv6 tun "udp", allowAnswers .ipv6 tun "tcp"] ++
    customDnsRules config manager ++
    if (manager.detectedGateway .ipv6).isEmpty then
      []
    else
      [.route .ipv6 dns6 none tun, .route .ipv6 "default" (some dns6) tun]

/-- What `AddExcludeNetworks` adds for a network. -/
def excludeNetworkRule (entry : RouteEntry) : Rule :=
  entry.via config.gateway
    (if manager.detectedOutInterfaceName ≠ "" then
      manager.detectedOutInterfaceName
    else
      config.outInterfaceName)

/-- What `AddIncludeNetworks` adds for a network. -/
def includeNetworkRule (entry : RouteEntry) : Rule :=
  entry.via config.tunInterfaceAddress manager.tunInterfaceName

/-- What `Clean` removes for a network of either kind. -/
def networkRemoval (entry : RouteEntry) : Rule :=
  match entry.policy with
  | .kExcludeFromVpn => entry.via config.gateway config.outInterfaceName
  | .kIncludeInVpn =>
      entry.via config.tunInterfaceAddress manager.tunInterfaceName

/-- The device of DNS routes outside of the tunnel; the last resort is to ask
the system. -/
def excludeInterface (answer : String) : String :=
  if manager.detectedOutInterfaceName ≠ "" then
    manager.detectedOutInterfaceName
  else if config.outInterfaceName ≠ "" then
    config.outInterfaceName
  else
    answer

def dnsInterface (policy : RoutingPolicy) (answer : String) : String :=
  match policy with
  | .kExcludeFromVpn => excludeInterface config manager answer
  | .kIncludeInVpn => manager.tunInterfaceName

/-- The gateway for DNS routes when they are added. -/
def dnsGateway : RoutingPolicy → Family → Address
  | .kExcludeFromVpn => config.gateway
  | .kIncludeInVpn => config.tunInterfaceAddress

/-- What `Clean` removes for a DNS route of either kind. -/
def dnsRemoval (answers : RouteEntry → String) (entry : RouteEntry) : Rule :=
  entry.via config.gateway
    (dnsInterface config manager entry.policy (answers entry))

end Commands

/-! ## Entries -/

/-- The entries which are not tracked yet, each once. -/
def newEntries (tracked : List RouteEntry) :
    List RouteEntry → List RouteEntry
  | [] => []
  | entry :: rest =>
      if entry ∈ tracked then newEntries tracked rest
      else entry :: newEntries (tracked ++ [entry]) rest

def dnsEntries (family : Family) (policy : RoutingPolicy)
    (ips : List String) : List RouteEntry :=
  ips.map fun ip => { family, destination := ip, policy }

def networkEntries (policy : RoutingPolicy) (networks : List String) :
    List RouteEntry :=
  (networks.filter (· ≠ "")).map fun network =>
    { family := if network.toList.contains ':' then .ipv6 else .ipv4
      destination := network
      policy }

/-! ## Calls -/

/-- A DNS route and the device on which it has been added. -/
structure Placed where
  entry : RouteEntry
  device : String

def Placed.rule (config : Config) (placed : Placed) : Rule :=
  placed.entry.via (dnsGateway config placed.entry.policy) placed.device

structure State where
  manager : RouteManager
  /-- What has been added since the last `Apply` and not been removed. -/
  added : Multiset Rule
  /-- The DNS routes added since the last `Apply`. -/
  placed : List Placed
  /-- The IPv4 default route, where a command has replaced it. -/
  ipv4Default : Option Rule

def State.create : State where
  manager :=
    { running := false
      tunInterfaceName := ""
      dnsRoutes := []
      additionalRoutes := []
      detectedOutInterfaceName := ""
      detectedGateway := fun _ => ⟨"", true, false⟩ }
  added := 0
  placed := []
  ipv4Default := none

/-- The defaults of the configuration, or those found before or now. -/
def detect (config : Config) (manager : RouteManager)
    (detection : Detection) : RouteManager :=
  { manager with
    detectedOutInterfaceName :=
      if config.outInterfaceName ≠ "" then config.outInterfaceName
      else if manager.detectedOutInterfaceName = "" then
        detection.interfaceName
      else manager.detectedOutInterfaceName
    detectedGateway := fun family =>
      if (config.gateway family).isEmpty = false then config.gateway family
      else if (manager.detectedGateway family).isEmpty then
        detection.gateway family
      else manager.detectedGateway family }

/-- The IPv4 default route through the tunnel. -/
def tunDefault (manager : RouteManager) : Rule :=
  .route .ipv4 "default" none manager.tunInterfaceName

/-- The IPv4 default route outside of the tunnel. -/
def outDefault (manager : RouteManager) : Rule :=
  .route .ipv4 "default" (some (manager.detectedGateway .ipv4).text)
    manager.detectedOutInterfaceName

section Calls

variable (config : Config) (state : State)

def apply (tunName : String) (detection : Detection) : State :=
  if state.manager.running then
    state
  else
    let manager :=
      { detect config state.manager detection with
        tunInterfaceName := tunName
        running := true }
    let excluded := newEntries manager.additionalRoutes
      (networkEntries .kExcludeFromVpn config.excludeNetworks)
    let included := newEntries (manager.additionalRoutes ++ excluded)
      (networkEntries .kIncludeInVpn config.includeNetworks)
    { manager :=
        { manager with
          additionalRoutes :=
            manager.additionalRoutes ++ excluded ++ included }
      added := execute 0
        ((applied config manager ++
          excluded.map (excludeNetworkRule config manager) ++
          included.map (includeNetworkRule config manager)).map .add)
      placed := []
      ipv4Default := some (tunDefault manager) }

/-- Adds the routes which are not tracked yet. -/
def addDnsRoutes (entries : List RouteEntry) (device : String) : State :=
  let placed := (newEntries state.manager.dnsRoutes entries).map (⟨·, device⟩)
  { state with
    manager :=
      { state.manager with
        dnsRoutes := state.manager.dnsRoutes ++ placed.map Placed.entry }
    added := execute state.added ((placed.map (Placed.rule config)).map .add)
    placed := state.placed ++ placed }

/-- The system is asked up to two times. -/
def addDnsRoutesIPv4 (ips : List String) (policy : RoutingPolicy)
    (first second : String) : State :=
  let chosen := dnsInterface config state.manager policy first
  let device := if chosen = "" then second else chosen
  if device = "" then
    state
  else
    addDnsRoutes config state (dnsEntries .ipv4 policy ips) device

def addDnsRoutesIPv6 (ips : List String) (policy : RoutingPolicy)
    (answer : String) : State :=
  let device := dnsInterface config state.manager policy answer
  if device = "" then
    state
  else if (dnsGateway config policy .ipv6).text = "" then
    state
  else
    addDnsRoutes config state (dnsEntries .ipv6 policy ips) device

/-- The system may be asked for each DNS route.  The IPv6 default route, which
`Apply` does not replace, is left out. -/
def clean (answers : RouteEntry → String) : State :=
  if state.manager.running then
    let manager := state.manager
    { state with
      manager :=
        { manager with
          running := false
          dnsRoutes := []
          additionalRoutes := [] }
      added := execute state.added
        ((manager.dnsRoutes.map (dnsRemoval config manager answers) ++
          manager.additionalRoutes.map (networkRemoval config manager) ++
          cleaned config manager).map .remove)
      ipv4Default := some (outDefault manager) }
  else
    state

end Calls

inductive Call where
  | apply (tunName : String) (detection : Detection)
  | addDnsRoutesIPv4 (ips : List String) (policy : RoutingPolicy)
      (first second : String)
  | addDnsRoutesIPv6 (ips : List String) (policy : RoutingPolicy)
      (answer : String)
  | clean (answers : RouteEntry → String)

def call (config : Config) (state : State) : Call → State
  | .apply tunName detection => apply config state tunName detection
  | .addDnsRoutesIPv4 ips policy first second =>
      addDnsRoutesIPv4 config state ips policy first second
  | .addDnsRoutesIPv6 ips policy answer =>
      addDnsRoutesIPv6 config state ips policy answer
  | .clean answers => clean config state answers

/-! ## What is undone -/

section Removals

variable {config : Config} {manager : RouteManager} {state : State}

/-- The IPv4 default route is outside of the tunnel again, and nothing else
which has been added is left. -/
structure Undone (state : State) : Prop where
  removed : state.added = 0
  replaced : ∀ route ∈ state.ipv4Default, route = outDefault state.manager

/-- The removal of a DNS route is that of the route which has been added. -/
def Placed.Removable (config : Config) (manager : RouteManager)
    (answers : RouteEntry → String) (placed : Placed) : Prop :=
  match placed.entry.policy with
  | .kExcludeFromVpn =>
      manager.detectedOutInterfaceName ≠ "" ∨
        answers placed.entry = placed.device
  | .kIncludeInVpn =>
      manager.tunInterfaceName ≠ "" ∧
        (config.tunInterfaceAddress placed.entry.family).text =
          (config.gateway placed.entry.family).text

/-- What `Clean` takes for its removals is what has been taken to add. -/
structure Removable (config : Config) (state : State)
    (answers : RouteEntry → String) : Prop where
  gateway : (state.manager.detectedGateway .ipv6).isEmpty = false
  networks :
    config.outInterfaceName ≠ "" ∨
      state.manager.detectedOutInterfaceName = "" ∨
        ∀ entry ∈ state.manager.additionalRoutes,
          entry.policy = .kIncludeInVpn
  dns : ∀ placed ∈ state.placed,
    placed.Removable config state.manager answers

/-- While nothing is applied `Clean` does nothing, so no DNS route may have
been added then. -/
def CleanReady (config : Config) (state : State) : Call → Prop
  | .clean answers =>
      if state.manager.running then Removable config state answers
      else state.manager.dnsRoutes = []
  | _ => True

/-! ## While the routes are applied -/

/-- The rule which has been added for a network. -/
def networkAddition (config : Config) (manager : RouteManager)
    (entry : RouteEntry) : Rule :=
  match entry.policy with
  | .kExcludeFromVpn => excludeNetworkRule config manager entry
  | .kIncludeInVpn => includeNetworkRule config manager entry

/-- The device of a DNS route is known, but for the system's answers. -/
def Placed.Chosen (manager : RouteManager) (placed : Placed) : Prop :=
  match placed.entry.policy with
  | .kExcludeFromVpn =>
      manager.detectedOutInterfaceName ≠ "" →
        placed.device = manager.detectedOutInterfaceName
  | .kIncludeInVpn =>
      manager.tunInterfaceName ≠ "" →
        placed.device = manager.tunInterfaceName

structure Applied (config : Config) (state : State) : Prop where
  configured : config.outInterfaceName ≠ "" →
    state.manager.detectedOutInterfaceName = config.outInterfaceName
  added : state.added =
    ((applied config state.manager ++
      state.manager.additionalRoutes.map
        (networkAddition config state.manager) ++
      state.placed.map (Placed.rule config) : List Rule) : Multiset Rule)
  tracked : ∃ before,
    state.manager.dnsRoutes = before ++ state.placed.map Placed.entry
  chosen : ∀ placed ∈ state.placed, placed.Chosen state.manager

/-- While nothing is applied, only DNS routes may be left. -/
structure Idle (state : State) : Prop where
  networks : state.manager.additionalRoutes = []
  undone : state.manager.dnsRoutes = [] → Undone state

structure Consistent (config : Config) (state : State) : Prop where
  applied : state.manager.running = true → Applied config state
  idle : state.manager.running = false → Idle state

/-! ## New entries -/

theorem mem_newEntries {entry : RouteEntry}
    {tracked entries : List RouteEntry}
    (member : entry ∈ newEntries tracked entries) : entry ∈ entries := by
  induction entries generalizing tracked with
  | nil => exact member
  | cons first rest ih =>
      rw [newEntries] at member
      split at member
      · exact List.mem_cons_of_mem first (ih member)
      · cases List.mem_cons.mp member with
        | inl same => exact same ▸ List.mem_cons_self
        | inr later => exact List.mem_cons_of_mem first (ih later)

theorem policy_of_networkEntries {entry : RouteEntry}
    {tracked : List RouteEntry} {policy : RoutingPolicy}
    {networks : List String}
    (member : entry ∈ newEntries tracked (networkEntries policy networks)) :
    entry.policy = policy := by
  obtain ⟨network, -, rfl⟩ := List.mem_map.mp (mem_newEntries member)
  rfl

theorem policy_of_dnsEntries {entry : RouteEntry}
    {tracked : List RouteEntry} {family : Family} {policy : RoutingPolicy}
    {ips : List String}
    (member : entry ∈ newEntries tracked (dnsEntries family policy ips)) :
    entry.policy = policy := by
  obtain ⟨ip, -, rfl⟩ := List.mem_map.mp (mem_newEntries member)
  rfl

/-- The networks of one kind have been added as the call for this kind does. -/
theorem map_networkAddition {tracked : List RouteEntry}
    {policy : RoutingPolicy} {networks : List String}
    {rule : RouteEntry → Rule}
    (adds : ∀ entry : RouteEntry, entry.policy = policy →
      networkAddition config manager entry = rule entry) :
    (newEntries tracked (networkEntries policy networks)).map
        (networkAddition config manager) =
      (newEntries tracked (networkEntries policy networks)).map rule :=
  List.map_congr_left fun entry member =>
    adds entry (policy_of_networkEntries member)

theorem networkAddition_exclude {entry : RouteEntry}
    (excluded : entry.policy = .kExcludeFromVpn) :
    networkAddition config manager entry =
      excludeNetworkRule config manager entry := by
  simp only [networkAddition, excluded]

theorem networkAddition_include {entry : RouteEntry}
    (included : entry.policy = .kIncludeInVpn) :
    networkAddition config manager entry =
      includeNetworkRule config manager entry := by
  simp only [networkAddition, included]

/-! ## One call -/

theorem applied_of_apply (idle : state.manager.running = false)
    (networks : state.manager.additionalRoutes = [])
    (tunName : String) (detection : Detection) :
    Applied config (apply config state tunName detection) := by
  rw [apply, if_neg (by simp [idle])]
  constructor
  · intro explicit
    exact if_pos explicit
  · dsimp only
    rw [execute_add, Multiset.zero_add]
    simp only [detect, networks, List.nil_append, List.map_nil,
      List.append_nil, List.map_append, List.append_assoc,
      map_networkAddition fun _ => networkAddition_exclude,
      map_networkAddition fun _ => networkAddition_include]
    rfl
  · exact ⟨_, (List.append_nil _).symm⟩
  · intro placed member
    cases member

/-- DNS routes are added on a device which is as expected for all of them. -/
theorem addDnsRoutes_consistent {entries : List RouteEntry} {device : String}
    (consistent : Consistent config state)
    (chosen : ∀ entry ∈ newEntries state.manager.dnsRoutes entries,
      Placed.Chosen state.manager ⟨entry, device⟩) :
    Consistent config (addDnsRoutes config state entries device) := by
  constructor
  · intro running
    have before := consistent.applied running
    constructor
    · exact before.configured
    · show execute state.added _ = _
      rw [execute_add, before.added, Multiset.coe_add]
      simp only [addDnsRoutes, List.map_append, List.append_assoc]
      rfl
    · obtain ⟨old, tracked⟩ := before.tracked
      refine ⟨old, ?_⟩
      simp only [addDnsRoutes, tracked, List.map_append, List.append_assoc]
    · intro placed member
      cases List.mem_append.mp member with
      | inl earlier => exact before.chosen placed earlier
      | inr new =>
          obtain ⟨entry, fresh, rfl⟩ := List.mem_map.mp new
          exact chosen entry fresh
  · intro idle
    have before := consistent.idle idle
    refine ⟨before.networks, fun empty => ?_⟩
    obtain ⟨noneBefore, noneNew⟩ := List.append_eq_nil_iff.mp empty
    have undone := before.undone noneBefore
    have nothing : newEntries state.manager.dnsRoutes entries = [] := by
      simpa using noneNew
    constructor
    · simp only [addDnsRoutes, nothing, List.map_nil, execute_nil]
      exact undone.removed
    · exact undone.replaced

/-- The chosen interface is used, unless there is none. -/
theorem chosen_of_interface {entry : RouteEntry} {policy : RoutingPolicy}
    {answer device : String} (hasPolicy : entry.policy = policy)
    (used : dnsInterface config manager policy answer ≠ "" →
      device = dnsInterface config manager policy answer) :
    Placed.Chosen manager ⟨entry, device⟩ := by
  unfold Placed.Chosen
  rw [hasPolicy]
  cases policy with
  | kExcludeFromVpn =>
      intro known
      simp only [dnsInterface, excludeInterface, if_pos known] at used
      exact used known
  | kIncludeInVpn => exact used

theorem addDnsRoutesIPv4_consistent {ips : List String}
    {policy : RoutingPolicy} {first second : String}
    (consistent : Consistent config state) :
    Consistent config
      (addDnsRoutesIPv4 config state ips policy first second) := by
  unfold addDnsRoutesIPv4
  by_cases missing : dnsInterface config state.manager policy first = ""
  · simp only [if_pos missing]
    split
    · exact consistent
    · apply addDnsRoutes_consistent consistent
      intro entry new
      exact chosen_of_interface (policy_of_dnsEntries new)
        fun present => absurd missing present
  · simp only [if_neg missing]
    apply addDnsRoutes_consistent consistent
    intro entry new
    exact chosen_of_interface (policy_of_dnsEntries new) fun _ => rfl

theorem addDnsRoutesIPv6_consistent {ips : List String}
    {policy : RoutingPolicy} {answer : String}
    (consistent : Consistent config state) :
    Consistent config
      (addDnsRoutesIPv6 config state ips policy answer) := by
  unfold addDnsRoutesIPv6
  dsimp only
  split
  · exact consistent
  · split
    · exact consistent
    · apply addDnsRoutes_consistent consistent
      intro entry new
      exact chosen_of_interface (policy_of_dnsEntries new) fun _ => rfl

/-- Without an IPv6 gateway two routes are not removed. -/
theorem applied_perm_cleaned
    (found : (manager.detectedGateway .ipv6).isEmpty = false) :
    (applied config manager).Perm (cleaned config manager) := by
  rw [List.perm_iff_count]
  intro rule
  simp only [applied, cleaned, found, List.count_append, List.count_cons,
    List.count_nil, Bool.false_eq_true, if_false]
  omega

/-- What is removed for a DNS route is what has been added. -/
theorem rule_eq_dnsRemoval {answers : RouteEntry → String} {placed : Placed}
    (active : Applied config state) (chosen : placed.Chosen state.manager)
    (removable : placed.Removable config state.manager answers) :
    placed.rule config =
      dnsRemoval config state.manager answers placed.entry := by
  unfold Placed.Chosen at chosen
  unfold Placed.Removable at removable
  unfold Placed.rule dnsRemoval
  cases policy : placed.entry.policy with
  | kExcludeFromVpn =>
      simp only [policy] at chosen removable
      simp only [dnsGateway, dnsInterface, excludeInterface]
      split
      next known => rw [chosen known]
      next unknown =>
        have unset : ¬config.outInterfaceName ≠ "" := by
          intro explicit
          exact unknown (active.configured explicit ▸ explicit)
        rw [if_neg unset, removable.resolve_left unknown]
  | kIncludeInVpn =>
      simp only [policy] at chosen removable
      simp only [dnsGateway, dnsInterface, RouteEntry.via, removable.2,
        chosen removable.1]

theorem networkAddition_eq_networkRemoval
    (active : Applied config state) {answers : RouteEntry → String}
    (removable : Removable config state answers) :
    ∀ entry ∈ state.manager.additionalRoutes,
      networkAddition config state.manager entry =
        networkRemoval config state.manager entry := by
  intro entry member
  unfold networkAddition networkRemoval
  cases policy : entry.policy with
  | kIncludeInVpn => rfl
  | kExcludeFromVpn =>
      simp only [excludeNetworkRule]
      split
      next known =>
        have explicit : config.outInterfaceName ≠ "" := by
          rcases removable.networks with explicit | unknown | included
          · exact explicit
          · exact absurd unknown known
          · exact absurd ((included entry member).symm.trans policy)
              RoutingPolicy.noConfusion
        rw [active.configured explicit]
      next => rfl

/-- Everything which has been added is among what is removed. -/
theorem clean_removes {answers : RouteEntry → String}
    (active : Applied config state)
    (removable : Removable config state answers) :
    state.added ≤
      ((state.manager.dnsRoutes.map
          (dnsRemoval config state.manager answers) ++
        state.manager.additionalRoutes.map
          (networkRemoval config state.manager) ++
        cleaned config state.manager : List Rule) : Multiset Rule) := by
  have networks := List.map_congr_left
    (networkAddition_eq_networkRemoval active removable)
  have dns : state.placed.map (Placed.rule config) =
      (state.placed.map Placed.entry).map
        (dnsRemoval config state.manager answers) := by
    rw [List.map_map]
    apply List.map_congr_left
    intro placed member
    exact rule_eq_dnsRemoval active (active.chosen placed member)
      (removable.dns placed member)
  have commands : (applied config state.manager : Multiset Rule) =
      cleaned config state.manager :=
    Multiset.coe_eq_coe.mpr (applied_perm_cleaned removable.gateway)
  obtain ⟨before, tracked⟩ := active.tracked
  rw [active.added, networks, dns, tracked, Multiset.le_iff_count]
  intro rule
  simp only [List.map_append, ← Multiset.coe_add, commands,
    Multiset.count_add]
  omega

theorem clean_undone {answers : RouteEntry → String}
    (consistent : Consistent config state)
    (ready : CleanReady config state (.clean answers)) :
    Undone (clean config state answers) := by
  simp only [CleanReady] at ready
  cases running : state.manager.running with
  | false =>
      rw [if_neg (by simp [running])] at ready
      rw [clean, if_neg (by simp [running])]
      exact (consistent.idle running).undone ready
  | true =>
      rw [if_pos running] at ready
      rw [clean, if_pos running]
      have removed := clean_removes (consistent.applied running) ready
      constructor
      · exact execute_remove_of_le removed
      · rintro route ⟨⟩
        rfl

theorem call_consistent {made : Call} (consistent : Consistent config state)
    (ready : CleanReady config state made) :
    Consistent config (call config state made) := by
  cases made with
  | apply tunName detection =>
      cases running : state.manager.running with
      | true =>
          rw [call, apply, if_pos running]
          exact consistent
      | false =>
          have active : Applied config
              (apply config state tunName detection) :=
            applied_of_apply running (consistent.idle running).networks
              tunName detection
          refine ⟨fun _ => active, fun idle => ?_⟩
          rw [call, apply, if_neg (by simp [running])] at idle
          cases idle
  | addDnsRoutesIPv4 ips policy first second =>
      exact addDnsRoutesIPv4_consistent consistent
  | addDnsRoutesIPv6 ips policy answer =>
      exact addDnsRoutesIPv6_consistent consistent
  | clean answers =>
      have undone := clean_undone consistent ready
      cases running : state.manager.running with
      | false =>
          rw [call, clean, if_neg (by simp [running])]
          exact consistent
      | true =>
          rw [call]
          rw [clean, if_pos running] at undone ⊢
          exact
            ⟨fun other => Bool.noConfusion other,
              fun _ => ⟨rfl, fun _ => undone⟩⟩

end Removals

/-! ## Runs -/

/-- All calls are accepted. -/
def step (config : Config) (state : State) (made : Call) : Option State :=
  some (call config state made)

theorem create_consistent (config : Config) :
    Consistent config State.create := by
  constructor
  · intro running
    cases running
  · intro _
    refine ⟨rfl, fun _ => ⟨rfl, ?_⟩⟩
    rintro route ⟨⟩

theorem calls_consistent {config : Config} {state : State} {calls : List Call}
    (ready : Along (step config) (CleanReady config) .create calls)
    (reached : run (step config) .create calls = some state) :
    Consistent config state := by
  refine run_invariant_of ?_ (create_consistent config) ready reached
  intro before made after consistent met taken
  obtain rfl := Option.some.inj taken
  exact call_consistent consistent met

def address (text : String) : Address := ⟨text, false, true⟩

def noAddress : Address := ⟨"", true, false⟩

/-- Only the gateway of IPv6 may be missing. -/
def homeConfig (gatewayIPv6 : Address) : Config where
  outInterfaceName := "eth0"
  tunInterfaceAddress
    | .ipv4 => address "10.0.0.1"
    | .ipv6 => address "fd00::1"
  vpnServerIp := address "203.0.113.1"
  dnsServer
    | .ipv4 => address "172.20.0.1"
    | .ipv6 => address "fd00::2"
  customDnsIPv4 := noAddress
  gateway
    | .ipv4 => address "192.168.1.1"
    | .ipv6 => gatewayIPv6
  excludeNetworks := ["192.168.0.0/16"]
  includeNetworks := []

def nothingDetected : Detection := ⟨"", fun _ => noAddress⟩

end Fptn.Routing.ClientRoutes
