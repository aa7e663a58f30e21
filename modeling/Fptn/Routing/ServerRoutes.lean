import Fptn.Lib.RuleTable

/-!
# The packet filter of the server

`RouteManager` of the server appends rules with `iptables` and `ip6tables` when
it is applied, and deletes rules when it is cleaned.  The commands which do
neither are left out.

Only the IPv4 rules of two tables are deleted, so the others stay.
-/

namespace Fptn.Routing.ServerRoutes

open Fptn.RuleTable

/-- A rule of `iptables` or of `ip6tables`. -/
structure Rule where
  ipv6 : Bool
  table : String
  chain : String
  arguments : List String
deriving DecidableEq

/-! ## Commands -/

def forward (ipv6 : Bool) (input output : String) : Rule where
  ipv6 := ipv6
  table := "filter"
  chain := "FORWARD"
  arguments := ["-i", input, "-o", output, "-j", "ACCEPT"]

def masquerade (ipv6 : Bool) (output : String) : Rule where
  ipv6 := ipv6
  table := "nat"
  chain := "POSTROUTING"
  arguments := ["-o", output, "-j", "MASQUERADE"]

def clampMss (direction interface : String) : Rule where
  ipv6 := false
  table := "mangle"
  chain := "FORWARD"
  arguments := [direction, interface, "-p", "tcp", "--tcp-flags",
    "SYN,RST", "SYN", "-j", "TCPMSS", "--clamp-mss-to-pmtu"]

structure RouteManager where
  outNetInterfaceName : String
  tunNetInterfaceName : String
  running : Bool

namespace RouteManager

def create (outNetInterfaceName tunNetInterfaceName : String) :
    RouteManager where
  outNetInterfaceName := outNetInterfaceName
  tunNetInterfaceName := tunNetInterfaceName
  running := false

variable (manager : RouteManager)

/-- What `Apply` appends. -/
def applied : List Rule :=
  let out := manager.outNetInterfaceName
  let tun := manager.tunNetInterfaceName
  [forward false tun out, forward false out tun, masquerade false out,
    forward true tun out, forward true out tun, masquerade true out,
    clampMss "-o" tun, clampMss "-i" tun]

/-- What `Clean` deletes. -/
def cleaned : List Rule :=
  let out := manager.outNetInterfaceName
  let tun := manager.tunNetInterfaceName
  [forward false tun out, forward false out tun, masquerade false out]

def apply (table : Multiset Rule) : RouteManager × Multiset Rule :=
  ({ manager with running := true },
    execute table (manager.applied.map .add))

def clean (table : Multiset Rule) : RouteManager × Multiset Rule :=
  if manager.running then
    ({ manager with running := false },
      execute table (manager.cleaned.map .remove))
  else
    (manager, table)

end RouteManager

inductive Call where
  | apply
  | clean
deriving DecidableEq

def call (state : RouteManager × Multiset Rule) :
    Call → RouteManager × Multiset Rule
  | .apply => state.1.apply state.2
  | .clean => state.1.clean state.2

/-- The table after some calls of a new route manager. -/
def tableAfter (out tun : String) (table : Multiset Rule)
    (calls : List Call) : Multiset Rule :=
  (calls.foldl call (.create out tun, table)).2

/-! ## What stays -/

variable {manager : RouteManager} {table : Multiset Rule} {out tun : String}

theorem call_names {state : RouteManager × Multiset Rule} {made : Call} :
    (call state made).1.outNetInterfaceName =
      state.1.outNetInterfaceName := by
  cases made with
  | apply => rfl
  | clean =>
      simp only [call, RouteManager.clean]
      split <;> rfl

/-- One call adds an IPv6 rule or leaves all of them. -/
theorem call_count {state : RouteManager × Multiset Rule} {made : Call} :
    (call state made).2.count
        (masquerade true state.1.outNetInterfaceName) =
      state.2.count (masquerade true state.1.outNetInterfaceName) +
        [made].count .apply := by
  cases made with
  | apply =>
      have once : state.1.applied.count
          (masquerade true state.1.outNetInterfaceName) = 1 := by
        simp [RouteManager.applied, forward, masquerade, clampMss]
      simp only [call, RouteManager.apply, execute_add, Multiset.count_add,
        Multiset.coe_count, once]
      rfl
  | clean =>
      have never : state.1.cleaned.count
          (masquerade true state.1.outNetInterfaceName) = 0 := by
        simp [RouteManager.cleaned, forward, masquerade]
      simp only [call, RouteManager.clean]
      split
      · simp only [execute_remove, Multiset.count_sub, Multiset.coe_count,
          never]
        rfl
      · rfl

theorem calls_count {state : RouteManager × Multiset Rule}
    {calls : List Call} :
    (calls.foldl call state).2.count
        (masquerade true state.1.outNetInterfaceName) =
      state.2.count (masquerade true state.1.outNetInterfaceName) +
        calls.count .apply := by
  induction calls generalizing state with
  | nil => rfl
  | cons made rest ih =>
      have first := @call_count state made
      have later := @ih (call state made)
      rw [call_names] at later
      have together : (made :: rest).count Call.apply =
          [made].count .apply + rest.count .apply := by
        rw [← List.count_append]
        rfl
      rw [List.foldl_cons, later, first, together, Nat.add_assoc]

/-- A route manager which has not been applied does nothing. -/
theorem calls_idle {state : RouteManager × Multiset Rule}
    {calls : List Call} (idle : state.1.running = false)
    (never : .apply ∉ calls) :
    calls.foldl call state = state := by
  induction calls with
  | nil => rfl
  | cons made rest ih =>
      rw [List.mem_cons, not_or] at never
      cases made with
      | apply => exact absurd rfl never.1
      | clean =>
          have same : call state .clean = state := by
            simp [call, RouteManager.clean, idle]
          rw [List.foldl_cons, same]
          exact ih never.2

/-- No rule is there more often than before. -/
def Restored (before after : Multiset Rule) : Prop := after ≤ before

/-- With the last call of `Clean` the rules which have been appended are gone
exactly if none have been. -/
theorem clean_restores_iff (out tun : String) (table : Multiset Rule)
    (calls : List Call) :
    Restored table (tableAfter out tun table (calls ++ [.clean])) ↔
      .apply ∉ calls ++ [.clean] := by
  constructor
  · intro restored
    have fewer := Multiset.count_le_of_le (masquerade true out) restored
    have counted :=
      @calls_count (.create out tun, table) (calls ++ [.clean])
    simp only [tableAfter, RouteManager.create] at fewer counted
    rw [counted] at fewer
    exact List.count_eq_zero.mp (by omega)
  · intro never
    unfold Restored tableAfter
    rw [calls_idle rfl never]

/-- Even one call of each leaves rules behind. -/
theorem clean_leaves_rules :
    ¬∀ (out tun : String) (calls : List Call),
      Restored 0 (tableAfter out tun 0 (calls ++ [.clean])) := by
  intro restored
  have fewer := Multiset.count_le_of_le (masquerade true "eth0")
    (restored "eth0" "tun0" [.apply])
  exact absurd fewer (by decide)

end Fptn.Routing.ServerRoutes
