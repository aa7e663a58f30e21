import Fptn.Lib.LeasedPool
import Fptn.NatTable.SessionTable

/-!
# The invariant of the NAT table

The invariant has two halves.  `Addresses` concerns the sessions' maps and the
pools: each pool is leased to exactly the sessions, and each session is filed
under its own keys.  `Connections` concerns the physical connections and the
client map.  Between the two phases of a sweep the second half holds up to a
debt: sessions which are empty but not released yet, and clients which are
disconnected but not erased yet.  Every debt belongs to a pending sweep, whose
second phase settles it, whatever has happened in between.
-/

namespace Fptn.NatTable.TableInvariant

open Fptn.LeasedPool
open Fptn.PartialRun
open Fptn.UnorderedMap
open Fptn.Network.IPAddress
open Fptn.NatTable.Multiplexer
open Fptn.NatTable.Multiplexer.ConnectionMultiplexer
open Fptn.NatTable.SessionTable

/-! ## The two halves -/

/-- The session map holds this multiplexer under its own session id. -/
def Registered (table : Table) (pointer : MplxPtr) : Prop :=
  table.sessionToMplx.lookup (table.heap pointer).sessionId =
    some pointer

/-- The pools are leased to the sessions. -/
structure Addresses (ipv4 : List IPv4Address) (ipv6 : List IPv6Address)
    (table : Table) : Prop where
  keyed : ∀ sessionId pointer,
    table.sessionToMplx.lookup sessionId = some pointer →
      (table.heap pointer).sessionId = sessionId
  allocated : ∀ pointer ∈ table.sessions, pointer < table.nextMplx
  ipv4Leased :
    Leased IPv4Address.toInt ipv4 table.freeIpv4 table.ipv4ToMplx
      table.sessions fun pointer => (table.heap pointer).fakeClientIpv4
  ipv6Leased :
    Leased IPv6Address.ip ipv6 table.freeIpv6 table.ipv6ToMplx
      table.sessions fun pointer => (table.heap pointer).fakeClientIpv6

/-- The client map agrees with the connections, up to what is owed. -/
structure Connections (used : List ClientID)
    (owedSession : MplxPtr → Prop) (owedClient : ClientID → Prop)
    (table : Table) : Prop where
  wellFormed : ∀ pointer, (table.heap pointer).WellFormed
  registered : ∀ pointer id, (table.heap pointer).Connected id →
    Registered table pointer
  emptied : ∀ pointer, Registered table pointer →
    (table.heap pointer).empty = true → owedSession pointer
  clients : ∀ pointer id, (table.heap pointer).Connected id →
    table.clientToMplx.lookup id = some pointer
  mapped : ∀ pointer id, table.clientToMplx.lookup id = some pointer →
    (table.heap pointer).Connected id ∨ owedClient id
  mappedUsed : ∀ pointer id,
    table.clientToMplx.lookup id = some pointer → id ∈ used
  owed : ∀ id, owedClient id →
    id ∈ used ∧ ∀ pointer, ¬ (table.heap pointer).Connected id

variable {ipv4 : List IPv4Address} {ipv6 : List IPv6Address}
  {used : List ClientID} {owedSession : MplxPtr → Prop}
  {owedClient : ClientID → Prop} {table : Table} {pointer : MplxPtr}
  {id : ClientID}

namespace Addresses

theorem registered_of_lookup (addresses : Addresses ipv4 ipv6 table)
    {sessionId : String}
    (found : table.sessionToMplx.lookup sessionId = some pointer) :
    Registered table pointer := by
  rw [Registered, addresses.keyed _ _ found]
  exact found

theorem mem_sessions_iff (addresses : Addresses ipv4 ipv6 table) :
    pointer ∈ table.sessions ↔ Registered table pointer := by
  constructor
  · intro member
    obtain ⟨sessionId, found⟩ := mem_values.mp member
    exact addresses.registered_of_lookup found
  · intro registered
    exact mem_values.mpr ⟨_, registered⟩

theorem sessions_nodup (addresses : Addresses ipv4 ipv6 table) :
    table.sessions.Nodup :=
  values_nodup addresses.keyed

theorem not_registered_next (addresses : Addresses ipv4 ipv6 table) :
    ¬ Registered table table.nextMplx := fun registered =>
  Nat.lt_irrefl _
    (addresses.allocated _ (addresses.mem_sessions_iff.mpr registered))

/-- Connections and the client map do not matter to the sessions' maps. -/
theorem withHeap (addresses : Addresses ipv4 ipv6 table)
    {heap : MplxPtr → ConnectionMultiplexer}
    {clients : Map ClientID MplxPtr}
    (same : ∀ pointer, SameSession (heap pointer) (table.heap pointer)) :
    Addresses ipv4 ipv6
      { table with heap := heap, clientToMplx := clients } := by
  constructor
  · intro sessionId pointer found
    rw [(same pointer).sessionId]
    exact addresses.keyed sessionId pointer found
  · exact addresses.allocated
  · exact
      addresses.ipv4Leased.congr fun pointer _ =>
        (same pointer).fakeClientIpv4
  · exact
      addresses.ipv6Leased.congr fun pointer _ =>
        (same pointer).fakeClientIpv6

end Addresses

/-- Replacing one object by one of the same session. -/
theorem sameSession_update {heap : MplxPtr → ConnectionMultiplexer}
    {changed : ConnectionMultiplexer}
    (same : SameSession changed (heap pointer)) (other : MplxPtr) :
    SameSession (Function.update heap pointer changed other)
      (heap other) := by
  by_cases here : other = pointer
  · subst here
    rw [Function.update_self]
    exact same
  · rw [Function.update_of_ne here]
    exact SameSession.refl _

theorem registered_withHeap {heap : MplxPtr → ConnectionMultiplexer}
    {clients : Map ClientID MplxPtr}
    (same : SameSession (heap pointer) (table.heap pointer)) :
    Registered { table with heap := heap, clientToMplx := clients }
        pointer ↔
      Registered table pointer := by
  rw [Registered, same.sessionId]
  rfl

/-! ## Connecting a client -/

/-- A client has been connected to a session, which may be a new one. -/
structure Connects (before after : Table) (pointer : MplxPtr)
    (id : ClientID) : Prop where
  registered : ∀ other, Registered after other ↔
    other = pointer ∨ Registered before other
  others : ∀ other, other ≠ pointer →
    after.heap other = before.heap other
  wellFormed : (after.heap pointer).WellFormed
  connected : ∀ other, (after.heap pointer).Connected other ↔
    (before.heap pointer).Connected other ∨ other = id
  clients : after.clientToMplx = insert id pointer before.clientToMplx

theorem Connections.connect {after : Table}
    (connections : Connections used owedSession owedClient table)
    (new : id ∉ used) (connects : Connects table after pointer id) :
    Connections (id :: used) owedSession owedClient after := by
  have unmapped : table.clientToMplx.lookup id = none :=
    Option.eq_none_iff_forall_ne_some.mpr fun holder found =>
      new (connections.mappedUsed holder id found)
  have mapped : ∀ holder other,
      after.clientToMplx.lookup other = some holder ↔
        other = id ∧ holder = pointer ∨
          table.clientToMplx.lookup other = some holder := by
    intro holder other
    rw [connects.clients, lookup_insert_eq_some unmapped]
  have connected : ∀ holder other,
      (after.heap holder).Connected other ↔
        (table.heap holder).Connected other ∨
          holder = pointer ∧ other = id := by
    intro holder other
    by_cases here : holder = pointer
    · subst here
      rw [connects.connected]
      tauto
    · rw [connects.others holder here]
      simp [here]
  constructor
  · intro holder
    by_cases here : holder = pointer
    · exact here ▸ connects.wellFormed
    · rw [connects.others holder here]
      exact connections.wellFormed holder
  · intro holder other there
    rw [connects.registered]
    rcases (connected holder other).mp there with before | ⟨rfl, _⟩
    · exact Or.inr (connections.registered holder other before)
    · exact Or.inl rfl
  · intro holder registered isEmpty
    rcases (connects.registered holder).mp registered with rfl | before
    · exact
        absurd ((connected holder id).mpr (Or.inr ⟨rfl, rfl⟩))
          (empty_iff.mp isEmpty id)
    · refine connections.emptied holder before (empty_iff.mpr ?_)
      intro other there
      exact
        empty_iff.mp isEmpty other ((connected holder other).mpr
          (Or.inl there))
  · intro holder other there
    rw [mapped]
    rcases (connected holder other).mp there with before | ⟨rfl, rfl⟩
    · exact Or.inr (connections.clients holder other before)
    · exact Or.inl ⟨rfl, rfl⟩
  · intro holder other found
    rw [connected]
    rcases (mapped holder other).mp found with ⟨rfl, rfl⟩ | before
    · exact Or.inl (Or.inr ⟨rfl, rfl⟩)
    · rcases connections.mapped holder other before with there | owes
      · exact Or.inl (Or.inl there)
      · exact Or.inr owes
  · intro holder other found
    rcases (mapped holder other).mp found with ⟨rfl, rfl⟩ | before
    · exact List.mem_cons_self
    · exact
        List.mem_cons_of_mem _
          (connections.mappedUsed holder other before)
  · intro other owes
    obtain ⟨otherUsed, nowhere⟩ := connections.owed other owes
    refine ⟨List.mem_cons_of_mem _ otherUsed, fun holder there => ?_⟩
    rcases (connected holder other).mp there with before | ⟨_, rfl⟩
    · exact nowhere holder before
    · exact new otherUsed

theorem Connections.not_connected_of_new
    (connections : Connections used owedSession owedClient table)
    (new : id ∉ used) : ¬ (table.heap pointer).Connected id := fun there =>
  new
    (connections.mappedUsed pointer id
      (connections.clients pointer id there))

/-- The used ids may grow. -/
theorem Connections.use
    (connections : Connections used owedSession owedClient table) :
    Connections (id :: used) owedSession owedClient table :=
  { connections with
    mappedUsed := fun pointer other found =>
      List.mem_cons_of_mem _ (connections.mappedUsed pointer other found)
    owed := fun other owes =>
      ⟨List.mem_cons_of_mem _ (connections.owed other owes).1,
        (connections.owed other owes).2⟩ }

section AddConnection

variable {params : ConnectParams} {clock : Nat → Int} {tick : Nat}

/-- Joining a registered session connects the client to it. -/
theorem joinSession_connects (registered : Registered table pointer)
    {added : ConnectionMultiplexer}
    (session : SameSession added (table.heap pointer))
    (wellFormed : added.WellFormed)
    (connected : ∀ other, added.Connected other ↔
      (table.heap pointer).Connected other ∨ other = params.clientId) :
    Connects table
      { table with
        heap := Function.update table.heap pointer added
        clientToMplx :=
          insert params.clientId pointer table.clientToMplx }
      pointer params.clientId := by
  constructor
  · intro other
    rw [registered_withHeap (sameSession_update session other)]
    constructor
    · exact Or.inr
    · rintro (rfl | before)
      · exact registered
      · exact before
  · intro other different
    exact Function.update_of_ne different _ _
  · simpa using wellFormed
  · simpa using connected
  · rfl

theorem joinSession_invariant (monotone : Monotone clock)
    (addresses : Addresses ipv4 ipv6 table)
    (connections : Connections used owedSession owedClient table)
    (new : params.clientId ∉ used)
    (registered : Registered table pointer) :
    Addresses ipv4 ipv6 (table.joinSession pointer params clock tick).1 ∧
      Connections (params.clientId :: used) owedSession owedClient
        (table.joinSession pointer params clock tick).1 := by
  rw [Table.joinSession]
  split
  · exact ⟨addresses, connections.use⟩
  · obtain ⟨added, joined, session, wellFormed, connected⟩ :
        ∃ added, (table.heap pointer).addClientConnection params clock
            tick = some added ∧ _ :=
      addClientConnection_spec monotone (connections.wellFormed pointer)
        (connections.not_connected_of_new new)
    rw [joined]
    constructor
    · exact addresses.withHeap (sameSession_update session)
    · exact
        connections.connect new
          (joinSession_connects registered session wellFormed connected)

section Open

variable {fakeIpv4 : IPv4Address} {fakeIpv6 : IPv6Address}

theorem openSession_sessions
    (absent :
      table.sessionToMplx.lookup params.request.sessionId = none) :
    (table.openSession fakeIpv4 fakeIpv6 params clock tick).1.sessions =
      table.nextMplx :: table.sessions :=
  values_insert absent

@[simp]
theorem openSession_heap_next :
    (table.openSession fakeIpv4 fakeIpv6 params clock tick).1.heap
        table.nextMplx =
      create params fakeIpv4 fakeIpv6 clock tick :=
  Function.update_self _ _ _

theorem openSession_heap_of_ne (different : pointer ≠ table.nextMplx) :
    (table.openSession fakeIpv4 fakeIpv6 params clock tick).1.heap
        pointer =
      table.heap pointer :=
  Function.update_of_ne different _ _

/-- Opening a session takes the last free address of each pool. -/
theorem openSession_addresses
    (ipv4Nodup : (ipv4.map IPv4Address.toInt).Nodup)
    (ipv6Nodup : (ipv6.map IPv6Address.ip).Nodup)
    (addresses : Addresses ipv4 ipv6 table)
    (absent :
      table.sessionToMplx.lookup params.request.sessionId = none)
    (last4 : table.freeIpv4.getLast? = some fakeIpv4)
    (last6 : table.freeIpv6.getLast? = some fakeIpv6) :
    Addresses ipv4 ipv6
      (table.openSession fakeIpv4 fakeIpv6 params clock tick).1 := by
  have kept : ∀ other ∈ table.sessions,
      (table.openSession fakeIpv4 fakeIpv6 params clock tick).1.heap
          other =
        table.heap other := fun other member =>
    openSession_heap_of_ne
      (Nat.ne_of_lt (addresses.allocated other member))
  have free4 :
      table.freeIpv4.dropLast ++ [fakeIpv4] = table.freeIpv4 :=
    List.dropLast_append_getLast? _ last4
  have free6 :
      table.freeIpv6.dropLast ++ [fakeIpv6] = table.freeIpv6 :=
    List.dropLast_append_getLast? _ last6
  constructor
  · intro sessionId other there
    rcases (lookup_insert_eq_some absent).mp there with ⟨rfl, rfl⟩ | before
    · rw [openSession_heap_next]
      rfl
    · rw [kept other (mem_values.mpr ⟨sessionId, before⟩)]
      exact addresses.keyed sessionId other before
  · intro other member
    rw [openSession_sessions absent] at member
    rcases List.mem_cons.mp member with rfl | before
    · exact Nat.lt_succ_self _
    · exact Nat.lt_succ_of_lt (addresses.allocated other before)
  · rw [openSession_sessions absent]
    have leased :=
      addresses.ipv4Leased.congr fun other member =>
        congrArg ConnectionMultiplexer.fakeClientIpv4 (kept other member)
    rw [← free4] at leased
    exact
      leased.acquire ipv4Nodup
        (congrArg ConnectionMultiplexer.fakeClientIpv4
          openSession_heap_next)
  · rw [openSession_sessions absent]
    have leased :=
      addresses.ipv6Leased.congr fun other member =>
        congrArg ConnectionMultiplexer.fakeClientIpv6 (kept other member)
    rw [← free6] at leased
    exact
      leased.acquire ipv6Nodup
        (congrArg ConnectionMultiplexer.fakeClientIpv6
          openSession_heap_next)

/-- Opening a session connects its first client. -/
theorem openSession_connects (monotone : Monotone clock)
    (addresses : Addresses ipv4 ipv6 table)
    (connections : Connections used owedSession owedClient table)
    (absent :
      table.sessionToMplx.lookup params.request.sessionId = none) :
    Connects table
      (table.openSession fakeIpv4 fakeIpv6 params clock tick).1
      table.nextMplx params.clientId := by
  have nothing : ∀ other,
      ¬ (table.heap table.nextMplx).Connected other := fun other there =>
    addresses.not_registered_next (connections.registered _ other there)
  constructor
  · intro other
    by_cases here : other = table.nextMplx
    · subst here
      refine iff_of_true ?_ (Or.inl rfl)
      rw [Registered, openSession_heap_next]
      exact lookup_insert absent
    · rw [Registered, openSession_heap_of_ne here]
      refine (lookup_insert_eq_some absent).trans ?_
      simp [here, Registered]
  · intro other different
    exact openSession_heap_of_ne different
  · rw [openSession_heap_next]
    exact create_wellFormed
  · intro other
    rw [openSession_heap_next, create_connected monotone]
    simp [nothing]
  · rfl

end Open

/-- Adding a connection with a new id keeps the invariant. -/
theorem addConnection_invariant (monotone : Monotone clock)
    (ipv4Nodup : (ipv4.map IPv4Address.toInt).Nodup)
    (ipv6Nodup : (ipv6.map IPv6Address.ip).Nodup)
    (addresses : Addresses ipv4 ipv6 table)
    (connections : Connections used owedSession owedClient table)
    (new : params.clientId ∉ used) :
    Addresses ipv4 ipv6 (table.addConnection params clock tick).1 ∧
      Connections (params.clientId :: used) owedSession owedClient
        (table.addConnection params clock tick).1 := by
  unfold Table.addConnection
  split
  · rename_i pointer found
    exact
      joinSession_invariant monotone addresses connections new
        (addresses.registered_of_lookup found)
  · rename_i absent
    split
    · rename_i fakeIpv4 fakeIpv6 last4 last6
      constructor
      · exact
          openSession_addresses ipv4Nodup ipv6Nodup addresses absent
            last4 last6
      · exact
          connections.connect new
            (openSession_connects monotone addresses connections absent)
    · exact ⟨addresses, connections.use⟩

end AddConnection

/-! ## Releasing sessions -/

/-- Releasing gives a session's addresses back. -/
theorem releaseSession_addresses
    (ipv4Nodup : (ipv4.map IPv4Address.toInt).Nodup)
    (ipv6Nodup : (ipv6.map IPv6Address.ip).Nodup)
    (addresses : Addresses ipv4 ipv6 table)
    (registered : Registered table pointer) :
    Addresses ipv4 ipv6 (table.releaseSession pointer) := by
  have split :
      table.sessions.Perm
        (pointer :: (table.releaseSession pointer).sessions) :=
    values_erase registered
  constructor
  · intro sessionId other there
    exact
      addresses.keyed sessionId other (lookup_erase_eq_some.mp there).2
  · intro other member
    exact
      addresses.allocated other
        (split.mem_iff.mpr (List.mem_cons_of_mem _ member))
  · exact (addresses.ipv4Leased.perm split).release ipv4Nodup
  · exact (addresses.ipv6Leased.perm split).release ipv6Nodup

theorem releaseSession_registered
    (registered : Registered table pointer) {other : MplxPtr} :
    Registered (table.releaseSession pointer) other ↔
      other ≠ pointer ∧ Registered table other := by
  refine lookup_erase_eq_some.trans ?_
  change
    (table.heap other).sessionId ≠ (table.heap pointer).sessionId ∧
        Registered table other ↔ _
  refine and_congr_left fun found => not_congr ?_
  constructor
  · intro same
    rw [Registered, same, registered] at found
    exact (Option.some.inj found).symm
  · rintro rfl
    rfl

/-- A session which is checked for release is no longer owed. -/
theorem releaseSessionIfEmpty_invariant
    (ipv4Nodup : (ipv4.map IPv4Address.toInt).Nodup)
    (ipv6Nodup : (ipv6.map IPv6Address.ip).Nodup)
    (addresses : Addresses ipv4 ipv6 table)
    (connections :
      Connections used (fun other => other = pointer ∨ owedSession other)
        owedClient table) :
    Addresses ipv4 ipv6 (table.releaseSessionIfEmpty pointer) ∧
      Connections used owedSession owedClient
        (table.releaseSessionIfEmpty pointer) := by
  simp only [Table.releaseSessionIfEmpty]
  split
  · rename_i notEmpty
    refine ⟨addresses, { connections with emptied := ?_ }⟩
    intro other registered isEmpty
    rcases connections.emptied other registered isEmpty with rfl | owes
    · simp [isEmpty] at notEmpty
    · exact owes
  · rename_i isEmpty
    have nothing : ∀ id, ¬ (table.heap pointer).Connected id :=
      empty_iff.mp (by simpa using isEmpty)
    split
    · rename_i elsewhere
      refine ⟨addresses, { connections with emptied := ?_ }⟩
      intro other registered otherEmpty
      rcases connections.emptied other registered otherEmpty with
        rfl | owes
      · exact absurd registered elsewhere
      · exact owes
    · rename_i found
      have registered : Registered table pointer := not_not.mp found
      have released : ∀ other,
          Registered (table.releaseSession pointer) other ↔
            other ≠ pointer ∧ Registered table other :=
        fun other => releaseSession_registered registered
      constructor
      · exact
          releaseSession_addresses ipv4Nodup ipv6Nodup addresses
            registered
      · refine
          { wellFormed := connections.wellFormed
            registered := ?_
            emptied := ?_
            clients := connections.clients
            mapped := connections.mapped
            mappedUsed := connections.mappedUsed
            owed := connections.owed }
        · intro other id there
          refine (released other).mpr
            ⟨?_, connections.registered other id there⟩
          rintro rfl
          exact nothing id there
        · intro other registered otherEmpty
          obtain ⟨different, before⟩ := (released other).mp registered
          exact
            (connections.emptied other before otherEmpty).resolve_left
              different

/-- Deleting a connection leaves at most its own session to check. -/
theorem dropClient_connections
    (connections : Connections used owedSession owedClient table)
    (found : table.clientToMplx.lookup id = some pointer) :
    Connections used (fun other => other = pointer ∨ owedSession other)
      owedClient (table.dropClient pointer id) := by
  have session :
      SameSession ((table.heap pointer).delConnectionByClientId id)
        (table.heap pointer) := ⟨rfl, rfl, rfl, rfl⟩
  have registered : ∀ other,
      Registered (table.dropClient pointer id) other ↔
        Registered table other := fun other =>
    registered_withHeap (sameSession_update session other)
  have heap_self :
      (table.dropClient pointer id).heap pointer =
        (table.heap pointer).delConnectionByClientId id :=
    Function.update_self _ _ _
  have heap_other : ∀ other, other ≠ pointer →
      (table.dropClient pointer id).heap other = table.heap other :=
    fun other different => Function.update_of_ne different _ _
  have connected : ∀ holder other,
      ((table.dropClient pointer id).heap holder).Connected other ↔
        (table.heap holder).Connected other ∧ other ≠ id := by
    intro holder other
    by_cases here : holder = pointer
    · subst here
      rw [heap_self,
        delConnectionByClientId_connected (connections.wellFormed holder)]
    · rw [heap_other holder here]
      refine (and_iff_left_of_imp ?_).symm
      rintro there rfl
      have mapped := connections.clients holder other there
      exact here (Option.some.inj (mapped.symm.trans found))
  constructor
  · intro holder
    by_cases here : holder = pointer
    · subst here
      rw [heap_self]
      exact
        delConnectionByClientId_wellFormed (connections.wellFormed holder)
    · rw [heap_other holder here]
      exact connections.wellFormed holder
  · intro holder other there
    rw [registered]
    exact
      connections.registered holder other ((connected holder other).mp
        there).1
  · intro holder there isEmpty
    by_cases here : holder = pointer
    · exact Or.inl here
    · rw [heap_other holder here] at isEmpty
      exact
        Or.inr
          (connections.emptied holder ((registered holder).mp there)
            isEmpty)
  · intro holder other there
    obtain ⟨before, different⟩ := (connected holder other).mp there
    exact
      lookup_erase_eq_some.mpr
        ⟨different, connections.clients holder other before⟩
  · intro holder other there
    obtain ⟨different, before⟩ := lookup_erase_eq_some.mp there
    rw [connected]
    exact
      (connections.mapped holder other before).imp_left
        fun connected => ⟨connected, different⟩
  · intro holder other there
    exact
      connections.mappedUsed holder other
        (lookup_erase_eq_some.mp there).2
  · intro other owes
    obtain ⟨otherUsed, nowhere⟩ := connections.owed other owes
    refine ⟨otherUsed, fun holder there => ?_⟩
    exact nowhere holder ((connected holder other).mp there).1

/-- Deleting a connection keeps the invariant. -/
theorem delConnectionByClientId_invariant
    (ipv4Nodup : (ipv4.map IPv4Address.toInt).Nodup)
    (ipv6Nodup : (ipv6.map IPv6Address.ip).Nodup)
    (addresses : Addresses ipv4 ipv6 table)
    (connections : Connections used owedSession owedClient table) :
    Addresses ipv4 ipv6 (table.delConnectionByClientId id).1 ∧
      Connections used owedSession owedClient
        (table.delConnectionByClientId id).1 := by
  unfold Table.delConnectionByClientId
  split
  · exact ⟨addresses, connections⟩
  · rename_i pointer found
    have dropped :
        Addresses ipv4 ipv6 (table.dropClient pointer id) :=
      addresses.withHeap (sameSession_update ⟨rfl, rfl, rfl, rfl⟩)
    exact
      releaseSessionIfEmpty_invariant ipv4Nodup ipv6Nodup dropped
        (dropClient_connections connections found)

/-! ## The first phase of a sweep -/

section Sweep

variable {clock : Nat → Int} {tick : Nat} {order : List MplxPtr}
  {heap : MplxPtr → ConnectionMultiplexer}

/-- What the first phase does to the objects it visits. -/
structure SweepSpec (order : List MplxPtr)
    (heap : MplxPtr → ConnectionMultiplexer) (swept : Table.Swept) :
    Prop where
  session : ∀ pointer, SameSession (swept.heap pointer) (heap pointer)
  wellFormed : ∀ pointer, (swept.heap pointer).WellFormed
  kept : ∀ pointer id, (swept.heap pointer).Connected id →
    (heap pointer).Connected id
  lost : ∀ pointer id, (heap pointer).Connected id →
    (swept.heap pointer).Connected id ∨ id ∈ swept.sweep.expired
  expired : ∀ id ∈ swept.sweep.expired, ∃ pointer,
    (heap pointer).Connected id ∧ ¬ (swept.heap pointer).Connected id
  emptied : ∀ pointer ∈ order, (swept.heap pointer).empty = true →
    pointer ∈ swept.sweep.emptied

/-- An object which is not visited does not change. -/
theorem sweepEach_heap_of_notMem (absent : pointer ∉ order) :
    (Table.sweepEach clock order heap tick).heap pointer =
      heap pointer := by
  induction order generalizing heap tick with
  | nil => rfl
  | cons visited rest ih =>
      rw [List.mem_cons, not_or] at absent
      simp only [Table.sweepEach]
      rw [ih absent.2]
      exact Function.update_of_ne absent.1 _ _

/-- The objects after one of them has been updated. -/
theorem connected_updated (monotone : Monotone clock)
    (wellFormed : (heap pointer).WellFormed)
    {holder : MplxPtr} :
    (Function.update heap pointer
        ((heap pointer).updateConnectionsStatus clock
          tick).multiplexer holder).Connected id ↔
      (heap holder).Connected id ∧
        ¬ (holder = pointer ∧
          id ∈ ((heap pointer).updateConnectionsStatus clock
            tick).expired) := by
  have updated :
      UpdateSpec (heap pointer)
        ((heap pointer).updateConnectionsStatus clock tick) :=
    updateConnectionsStatus_spec monotone wellFormed
  by_cases here : holder = pointer
  · subst here
    rw [Function.update_self, updated.connected]
    simp
  · rw [Function.update_of_ne here]
    simp [here]

theorem wellFormed_updated {visited : MplxPtr} {now : Updated}
    (wellFormed : ∀ pointer, (heap pointer).WellFormed)
    (updated : UpdateSpec (heap visited) now) (pointer : MplxPtr) :
    (Function.update heap visited now.multiplexer pointer).WellFormed := by
  by_cases here : pointer = visited
  · subst here
    rw [Function.update_self]
    exact updated.wellFormed
  · rw [Function.update_of_ne here]
    exact wellFormed pointer

/-- The first object has been updated, and then the others. -/
theorem SweepSpec.visit {visited : MplxPtr} {rest : List MplxPtr}
    {now : Updated} {later : Table.Swept}
    (updated : UpdateSpec (heap visited) now)
    (connected : ∀ pointer id,
      (Function.update heap visited now.multiplexer pointer).Connected
          id ↔
        (heap pointer).Connected id ∧
          ¬ (pointer = visited ∧ id ∈ now.expired))
    (visitedHeap : later.heap visited = now.multiplexer)
    (done :
      SweepSpec rest (Function.update heap visited now.multiplexer)
        later) :
    SweepSpec (visited :: rest) heap
      { later with
        sweep := {
          expired := now.expired ++ later.sweep.expired
          emptied :=
            if now.multiplexer.empty then
              visited :: later.sweep.emptied
            else
              later.sweep.emptied } } where
  session := fun pointer =>
    (done.session pointer).trans
      (sameSession_update updated.session pointer)
  wellFormed := done.wellFormed
  kept := fun pointer id there =>
    ((connected pointer id).mp (done.kept pointer id there)).1
  lost := by
    intro pointer id before
    by_cases gone : pointer = visited ∧ id ∈ now.expired
    · exact Or.inr (List.mem_append_left _ gone.2)
    · exact
        (done.lost pointer id
          ((connected pointer id).mpr ⟨before, gone⟩)).imp_right
            (List.mem_append_right _)
  expired := by
    intro id member
    rcases List.mem_append.mp member with here | there
    · refine ⟨visited, updated.expired id here, fun after => ?_⟩
      exact
        ((connected visited id).mp (done.kept visited id after)).2
          ⟨rfl, here⟩
    · obtain ⟨pointer, before, after⟩ := done.expired id there
      exact ⟨pointer, ((connected pointer id).mp before).1, after⟩
  emptied := by
    intro pointer member isEmpty
    rcases List.mem_cons.mp member with rfl | there
    · rw [visitedHeap] at isEmpty
      simp [isEmpty]
    · have listed := done.emptied pointer there isEmpty
      simp only
      split
      · exact List.mem_cons_of_mem _ listed
      · exact listed

theorem sweepEach_spec (monotone : Monotone clock)
    (nodup : order.Nodup)
    (wellFormed : ∀ pointer, (heap pointer).WellFormed) :
    SweepSpec order heap (Table.sweepEach clock order heap tick) := by
  induction order generalizing heap tick with
  | nil =>
      exact {
        session := fun _ => SameSession.refl _
        wellFormed := wellFormed
        kept := fun _ _ there => there
        lost := fun _ _ there => Or.inl there
        expired := by simp [Table.sweepEach]
        emptied := by simp }
  | cons visited rest ih =>
      obtain ⟨notLater, restNodup⟩ := List.nodup_cons.mp nodup
      have updated :
          UpdateSpec (heap visited)
            ((heap visited).updateConnectionsStatus clock tick) :=
        updateConnectionsStatus_spec monotone (wellFormed visited)
      refine SweepSpec.visit updated
        (fun pointer id => connected_updated monotone (wellFormed visited))
        ?_ (ih restNodup (wellFormed_updated wellFormed updated))
      rw [sweepEach_heap_of_notMem notLater, Function.update_self]

/-- The first phase runs into debt for all it has found. -/
theorem sweepEach_connections {swept : Table.Swept}
    (addresses : Addresses ipv4 ipv6 table)
    (connections : Connections used owedSession owedClient table)
    (all : order.Perm table.sessions)
    (spec : SweepSpec order table.heap swept) :
    Connections used
      (fun pointer => pointer ∈ swept.sweep.emptied ∨ owedSession pointer)
      (fun id => id ∈ swept.sweep.expired ∨ owedClient id)
      { table with heap := swept.heap } := by
  have registered : ∀ pointer,
      Registered { table with heap := swept.heap } pointer ↔
        Registered table pointer := fun pointer =>
    registered_withHeap (spec.session pointer)
  constructor
  · exact spec.wellFormed
  · intro pointer id there
    rw [registered]
    exact connections.registered pointer id (spec.kept pointer id there)
  · intro pointer there isEmpty
    refine Or.inl (spec.emptied pointer ?_ isEmpty)
    rw [all.mem_iff, addresses.mem_sessions_iff]
    exact (registered pointer).mp there
  · intro pointer id there
    exact connections.clients pointer id (spec.kept pointer id there)
  · intro pointer id found
    rcases connections.mapped pointer id found with there | owes
    · exact (spec.lost pointer id there).imp_right Or.inl
    · exact Or.inr (Or.inr owes)
  · exact connections.mappedUsed
  · intro id owes
    rcases owes with expired | before
    · obtain ⟨pointer, there, gone⟩ := spec.expired id expired
      have found := connections.clients pointer id there
      refine ⟨connections.mappedUsed pointer id found, ?_⟩
      intro other otherThere
      have otherFound :=
        connections.clients other id (spec.kept other id otherThere)
      obtain rfl := Option.some.inj (found.symm.trans otherFound)
      exact gone otherThere
    · obtain ⟨idUsed, nowhere⟩ := connections.owed id before
      exact
        ⟨idUsed, fun pointer there =>
          nowhere pointer (spec.kept pointer id there)⟩

end Sweep

/-! ## The second phase of a sweep -/

theorem lookup_foldl_erase {clients : List ClientID}
    {map : Map ClientID MplxPtr} :
    (clients.foldl (fun map id => map.erase id) map).lookup id =
        some pointer ↔
      id ∉ clients ∧ map.lookup id = some pointer := by
  induction clients generalizing map with
  | nil => simp
  | cons client rest ih =>
      rw [List.foldl_cons, ih, lookup_erase_eq_some, List.mem_cons,
        not_or]
      tauto

/-- Erasing the expired clients settles what is owed for them. -/
theorem eraseClients_connections {clients : List ClientID}
    (connections :
      Connections used owedSession
        (fun id => id ∈ clients ∨ owedClient id) table) :
    Connections used owedSession owedClient
      (table.eraseClients clients) := by
  constructor
  · exact connections.wellFormed
  · exact connections.registered
  · exact connections.emptied
  · intro pointer id there
    refine
      lookup_foldl_erase.mpr ⟨?_, connections.clients pointer id there⟩
    intro expired
    exact (connections.owed id (Or.inl expired)).2 pointer there
  · intro pointer id found
    obtain ⟨notExpired, before⟩ := lookup_foldl_erase.mp found
    rcases connections.mapped pointer id before with there | gone | owes
    · exact Or.inl there
    · exact absurd gone notExpired
    · exact Or.inr owes
  · intro pointer id found
    exact
      connections.mappedUsed pointer id (lookup_foldl_erase.mp found).2
  · intro id owes
    exact connections.owed id (Or.inr owes)

/-- Checking the emptied sessions settles what is owed for them. -/
theorem releaseEmptied_invariant
    (ipv4Nodup : (ipv4.map IPv4Address.toInt).Nodup)
    (ipv6Nodup : (ipv6.map IPv6Address.ip).Nodup)
    {emptied : List MplxPtr}
    (addresses : Addresses ipv4 ipv6 table)
    (connections :
      Connections used
        (fun pointer => pointer ∈ emptied ∨ owedSession pointer)
        owedClient table) :
    Addresses ipv4 ipv6 (Table.releaseEmptied emptied table) ∧
      Connections used owedSession owedClient
        (Table.releaseEmptied emptied table) := by
  induction emptied generalizing table with
  | nil =>
      simp only [List.not_mem_nil, false_or] at connections
      exact ⟨addresses, connections⟩
  | cons pointer rest ih =>
      simp only [List.mem_cons, or_assoc] at connections
      obtain ⟨addressesNext, connectionsNext⟩ :=
        releaseSessionIfEmpty_invariant ipv4Nodup ipv6Nodup addresses
          connections
      exact ih addressesNext connectionsNext

theorem finishSweep_invariant
    (ipv4Nodup : (ipv4.map IPv4Address.toInt).Nodup)
    (ipv6Nodup : (ipv6.map IPv6Address.ip).Nodup)
    {sweep : Sweep}
    (addresses : Addresses ipv4 ipv6 table)
    (connections :
      Connections used
        (fun pointer => pointer ∈ sweep.emptied ∨ owedSession pointer)
        (fun id => id ∈ sweep.expired ∨ owedClient id) table) :
    Addresses ipv4 ipv6 (table.finishSweep sweep) ∧
      Connections used owedSession owedClient
        (table.finishSweep sweep) :=
  releaseEmptied_invariant ipv4Nodup ipv6Nodup
    (addresses.withHeap fun _ => SameSession.refl _)
    (eraseClients_connections connections)

/-! ## Runs -/

/-- What the pending sweeps have found and not settled yet. -/
def Owed {α : Type} (found : Sweep → List α) (pending : List Sweep)
    (item : α) : Prop :=
  ∃ sweep ∈ pending, item ∈ found sweep

structure Invariant (ipv4 : List IPv4Address) (ipv6 : List IPv6Address)
    (world : World) : Prop where
  addresses : Addresses ipv4 ipv6 world.table
  connections :
    Connections world.used (Owed Sweep.emptied world.pending)
      (Owed Sweep.expired world.pending) world.table

section Owed

variable {α : Type} {found : Sweep → List α} {pending : List Sweep}
  {sweep : Sweep}

theorem owed_concat :
    Owed found (pending ++ [sweep]) =
      fun item => item ∈ found sweep ∨ Owed found pending item := by
  ext item
  simp only [Owed, List.mem_append, List.mem_singleton]
  constructor
  · rintro ⟨other, before | rfl, member⟩
    · exact Or.inr ⟨other, before, member⟩
    · exact Or.inl member
  · rintro (member | ⟨other, before, member⟩)
    · exact ⟨sweep, Or.inr rfl, member⟩
    · exact ⟨other, Or.inl before, member⟩

/-- A sweep which has found nothing owes nothing. -/
theorem owed_of_found_nil (nothing : found sweep = []) :
    Owed found pending =
      fun item => item ∈ found sweep ∨ Owed found pending item := by
  simp [nothing]

theorem owed_eraseIdx {place : Nat} (there : pending[place]? = some sweep) :
    Owed found pending =
      fun item => item ∈ found sweep ∨
        Owed found (pending.eraseIdx place) item := by
  have split :
      pending =
        pending.take place ++ sweep :: pending.drop (place + 1) := by
    obtain ⟨inside, rfl⟩ := List.getElem?_eq_some_iff.mp there
    rw [← List.drop_eq_getElem_cons inside, List.take_append_drop]
  ext item
  rw [List.eraseIdx_eq_take_drop_succ]
  nth_rewrite 1 [split]
  simp only [Owed, List.mem_append, List.mem_cons]
  constructor
  · rintro ⟨other, before | rfl | after, member⟩
    · exact Or.inr ⟨other, Or.inl before, member⟩
    · exact Or.inl member
    · exact Or.inr ⟨other, Or.inr after, member⟩
  · rintro (member | ⟨other, before | after, member⟩)
    · exact ⟨sweep, Or.inr (Or.inl rfl), member⟩
    · exact ⟨other, Or.inl before, member⟩
    · exact ⟨other, Or.inr (Or.inr after), member⟩

end Owed

theorem start_invariant :
    Invariant ipv4 ipv6 (World.start ipv4 ipv6) := by
  have noSession : ∀ pointer,
      ¬ Registered (Table.start ipv4 ipv6) pointer := by
    intro pointer
    simp [Registered, Table.start]
  have noClient : ∀ pointer id,
      ¬ ((Table.start ipv4 ipv6).heap pointer).Connected id := by
    intro pointer id
    simp [Table.start, ConnectionMultiplexer.unused, Connected,
      Buckets.Connected, ids]
  constructor
  · constructor
    · intro sessionId pointer found
      simp [World.start, Table.start] at found
    · intro pointer member
      simp [World.start, Table.start, Table.sessions, values] at member
    · exact leased_start
    · exact leased_start
  · constructor
    · intro pointer
      exact ⟨List.nodup_nil, List.nodup_nil⟩
    · exact fun pointer id there => absurd there (noClient pointer id)
    · exact fun pointer there => absurd there (noSession pointer)
    · exact fun pointer id there => absurd there (noClient pointer id)
    · intro pointer id found
      simp [World.start, Table.start] at found
    · intro pointer id found
      simp [World.start, Table.start] at found
    · rintro id ⟨sweep, pending, _⟩
      simp [World.start] at pending

/-- The flag of a multiplexer does not matter to the invariant. -/
theorem disableChecksumCalculation_invariant {value : Bool}
    (addresses : Addresses ipv4 ipv6 table)
    (connections : Connections used owedSession owedClient table) :
    Addresses ipv4 ipv6
        (table.disableChecksumCalculation pointer value) ∧
      Connections used owedSession owedClient
        (table.disableChecksumCalculation pointer value) := by
  have session :
      SameSession
        { table.heap pointer with disableChecksumCalculation := value }
        (table.heap pointer) := ⟨rfl, rfl, rfl, rfl⟩
  have registered : ∀ other,
      Registered (table.disableChecksumCalculation pointer value) other ↔
        Registered table other := fun other =>
    registered_withHeap (sameSession_update session other)
  have buckets : ∀ other,
      ((table.disableChecksumCalculation pointer value).heap
          other).buckets =
        (table.heap other).buckets := by
    intro other
    by_cases here : other = pointer
    · subst here
      simp [Table.disableChecksumCalculation]
    · simp [Table.disableChecksumCalculation, here]
  have connected : ∀ other id,
      ((table.disableChecksumCalculation pointer value).heap
          other).Connected id ↔
        (table.heap other).Connected id := by
    intro other id
    rw [Connected, Connected, buckets]
  refine ⟨addresses.withHeap (sameSession_update session), ?_⟩
  constructor
  · intro other
    rw [WellFormed, buckets]
    exact connections.wellFormed other
  · intro other id
    rw [registered, connected]
    exact connections.registered other id
  · intro other
    rw [registered, ConnectionMultiplexer.empty, buckets]
    exact connections.emptied other
  · intro other id
    rw [connected]
    exact connections.clients other id
  · intro other id
    rw [connected]
    exact connections.mapped other id
  · exact connections.mappedUsed
  · intro id owes
    simp only [connected]
    exact connections.owed id owes

/-- A sweep with nothing to settle is over after its first phase. -/
theorem beginSweep_connections {pending : List Sweep} {sweep : Sweep}
    (connections :
      Connections used
        (fun pointer => pointer ∈ sweep.emptied ∨
          Owed Sweep.emptied pending pointer)
        (fun id => id ∈ sweep.expired ∨ Owed Sweep.expired pending id)
        table) :
    let after :=
      if sweep.expired.isEmpty && sweep.emptied.isEmpty then
        pending
      else
        pending ++ [sweep]
    Connections used (Owed Sweep.emptied after)
      (Owed Sweep.expired after) table := by
  intro after
  by_cases nothing : (sweep.expired.isEmpty && sweep.emptied.isEmpty) = true
  · have same : after = pending := if_pos nothing
    rw [Bool.and_eq_true, List.isEmpty_iff, List.isEmpty_iff] at nothing
    rw [same, owed_of_found_nil nothing.1, owed_of_found_nil nothing.2]
    exact connections
  · have longer : after = pending ++ [sweep] := if_neg nothing
    rw [longer, owed_concat, owed_concat]
    exact connections

section Runs

variable {clock : Nat → Int} {world next : World} {label : Label}

/-- Every step keeps the invariant. -/
theorem step_invariant (monotone : Monotone clock)
    (ipv4Nodup : (ipv4.map IPv4Address.toInt).Nodup)
    (ipv6Nodup : (ipv6.map IPv6Address.ip).Nodup)
    (invariant : Invariant ipv4 ipv6 world)
    (taken : step clock world label = some next) :
    Invariant ipv4 ipv6 next := by
  obtain ⟨addresses, connections⟩ := invariant
  cases label with
  | addConnection params =>
      simp only [step] at taken
      split at taken
      · exact absurd taken (by simp)
      · rename_i new
        obtain rfl := Option.some.inj taken
        obtain ⟨addressesNext, connectionsNext⟩ :=
          addConnection_invariant monotone ipv4Nodup ipv6Nodup addresses
            connections new
        exact ⟨addressesNext, connectionsNext⟩
  | delConnectionByClientId id =>
      obtain rfl := Option.some.inj taken
      obtain ⟨addressesNext, connectionsNext⟩ :=
        delConnectionByClientId_invariant ipv4Nodup ipv6Nodup addresses
          connections
      exact ⟨addressesNext, connectionsNext⟩
  | disableChecksumCalculation pointer value =>
      obtain rfl := Option.some.inj taken
      obtain ⟨addressesNext, connectionsNext⟩ :=
        disableChecksumCalculation_invariant addresses connections
      exact ⟨addressesNext, connectionsNext⟩
  | beginUpdate order =>
      simp only [step] at taken
      split at taken
      · rename_i all
        obtain rfl := Option.some.inj taken
        have spec :
            SweepSpec order world.table.heap
              (Table.sweepEach clock order world.table.heap world.tick) :=
          sweepEach_spec monotone
            (all.nodup_iff.mpr addresses.sessions_nodup)
            connections.wellFormed
        constructor
        · exact addresses.withHeap spec.session
        · exact
            beginSweep_connections
              (sweepEach_connections addresses connections all spec)
      · exact absurd taken (by simp)
  | finishUpdate place =>
      simp only [step] at taken
      split at taken
      · exact absurd taken (by simp)
      · rename_i sweep found
        obtain rfl := Option.some.inj taken
        rw [owed_eraseIdx found, owed_eraseIdx found] at connections
        obtain ⟨addressesNext, connectionsNext⟩ :=
          finishSweep_invariant ipv4Nodup ipv6Nodup addresses connections
        exact ⟨addressesNext, connectionsNext⟩

/-- A multiplexer which exists and still has a connection. -/
def Live (table : Table) (pointer : MplxPtr) : Prop :=
  pointer < table.nextMplx ∧ (table.heap pointer).empty = false

/-- The maps and pools of a table agree with its live sessions. -/
structure Consistent (ipv4 : List IPv4Address) (ipv6 : List IPv6Address)
    (table : Table) : Prop where
  sessions : ∀ pointer, pointer ∈ table.sessions ↔ Live table pointer
  distinct : table.sessions.Nodup
  ipv4Pool :
    (table.freeIpv4 ++
      table.sessions.map fun pointer =>
        (table.heap pointer).fakeClientIpv4).Perm ipv4
  ipv6Pool :
    (table.freeIpv6 ++
      table.sessions.map fun pointer =>
        (table.heap pointer).fakeClientIpv6).Perm ipv6
  sessionToMplx : ∀ sessionId pointer,
    table.sessionToMplx.lookup sessionId = some pointer ↔
      Live table pointer ∧ (table.heap pointer).sessionId = sessionId
  ipv4ToMplx : ∀ value pointer,
    table.ipv4ToMplx.lookup value = some pointer ↔
      Live table pointer ∧
        (table.heap pointer).fakeClientIpv4.toInt = value
  ipv6ToMplx : ∀ ip pointer,
    table.ipv6ToMplx.lookup ip = some pointer ↔
      Live table pointer ∧ (table.heap pointer).fakeClientIpv6.ip = ip
  byFakeIPv4 : ∀ ip ∈ ipv4, ∀ pointer,
    table.getMultiplexerByFakeIPv4 ip = some pointer ↔
      Live table pointer ∧ (table.heap pointer).fakeClientIpv4 = ip
  byFakeIPv6 : ∀ ip ∈ ipv6, ∀ pointer,
    table.getMultiplexerByFakeIPv6 ip = some pointer ↔
      Live table pointer ∧ (table.heap pointer).fakeClientIpv6 = ip
  byClientId : ∀ id pointer,
    table.getMultiplexerByClientId id = some pointer ↔
      (table.heap pointer).Connected id
  connectedLive : ∀ id pointer,
    (table.heap pointer).Connected id → Live table pointer

/-- Without pending sweeps nothing is owed. -/
theorem not_owed_of_idle (idle : world.pending = []) {α : Type}
    {found : Sweep → List α} {item : α} :
    ¬ Owed found world.pending item := by
  simp [Owed, idle]

/-- Then the registered objects are those which still have a connection. -/
theorem Invariant.registered_iff_live
    (invariant : Invariant ipv4 ipv6 world) (idle : world.pending = [])
    (pointer : MplxPtr) :
    Registered world.table pointer ↔ Live world.table pointer := by
  obtain ⟨addresses, connections⟩ := invariant
  constructor
  · intro registered
    refine
      ⟨addresses.allocated pointer
        (addresses.mem_sessions_iff.mpr registered), ?_⟩
    rw [Bool.eq_false_iff]
    intro isEmpty
    exact not_owed_of_idle idle
      (connections.emptied pointer registered isEmpty)
  · rintro ⟨_, notEmpty⟩
    by_contra unregistered
    have isEmpty : (world.table.heap pointer).empty = true :=
      empty_iff.mpr fun id there =>
        unregistered (connections.registered pointer id there)
    simp [isEmpty] at notEmpty

theorem Invariant.consistent
    (ipv4Nodup : (ipv4.map IPv4Address.toInt).Nodup)
    (ipv6Nodup : (ipv6.map IPv6Address.ip).Nodup)
    (invariant : Invariant ipv4 ipv6 world) (idle : world.pending = []) :
    Consistent ipv4 ipv6 world.table := by
  have registeredLive := invariant.registered_iff_live idle
  obtain ⟨addresses, connections⟩ := invariant
  have sessionsLive : ∀ pointer,
      pointer ∈ world.table.sessions ↔ Live world.table pointer :=
    fun pointer => addresses.mem_sessions_iff.trans (registeredLive pointer)
  constructor
  · exact sessionsLive
  · exact addresses.sessions_nodup
  · exact addresses.ipv4Leased.conserved
  · exact addresses.ipv6Leased.conserved
  · intro sessionId pointer
    rw [← registeredLive]
    constructor
    · intro found
      exact
        ⟨addresses.registered_of_lookup found,
          addresses.keyed sessionId pointer found⟩
    · rintro ⟨registered, rfl⟩
      exact registered
  · intro value pointer
    rw [← sessionsLive]
    exact addresses.ipv4Leased.indexed value pointer
  · intro ip pointer
    rw [← sessionsLive]
    exact addresses.ipv6Leased.indexed ip pointer
  · intro ip member pointer
    rw [← sessionsLive]
    exact addresses.ipv4Leased.lookup_key ipv4Nodup member
  · intro ip member pointer
    rw [← sessionsLive]
    exact addresses.ipv6Leased.lookup_key ipv6Nodup member
  · intro id pointer
    constructor
    · intro found
      exact
        (connections.mapped pointer id found).resolve_right
          (not_owed_of_idle idle)
    · exact connections.clients pointer id
  · intro id pointer there
    exact
      (registeredLive pointer).mp
        (connections.registered pointer id there)

/-- The addresses of a pool are printed by the library itself. -/
structure CanonicalPools (text : AddressText) (ipv4 : List IPv4Address)
    (ipv6 : List IPv6Address) : Prop where
  ipv4Printed : ∀ ip ∈ ipv4, ∃ value, ip = IPv4Address.ofValue text value
  ipv6Printed : ∀ ip ∈ ipv6, ∃ value, ip = IPv6Address.ofValue text value
  ipv4Nodup : ipv4.Nodup
  ipv6Nodup : ipv6.Nodup

theorem CanonicalPools.ipv4Keys {text : AddressText}
    (pools : CanonicalPools text ipv4 ipv6) :
    (ipv4.map IPv4Address.toInt).Nodup := by
  refine pools.ipv4Nodup.map_on ?_
  intro left leftMember right rightMember same
  obtain ⟨leftValue, rfl⟩ := pools.ipv4Printed left leftMember
  obtain ⟨rightValue, rfl⟩ := pools.ipv4Printed right rightMember
  rw [IPv4Address.toInt, IPv4Address.toInt, IPv4Address.ofValue_impl,
    IPv4Address.ofValue_impl] at same
  rw [same]

theorem CanonicalPools.ipv6Keys {text : AddressText}
    (pools : CanonicalPools text ipv4 ipv6) :
    (ipv6.map IPv6Address.ip).Nodup := by
  refine pools.ipv6Nodup.map_on ?_
  intro left leftMember right rightMember same
  obtain ⟨leftValue, rfl⟩ := pools.ipv6Printed left leftMember
  obtain ⟨rightValue, rfl⟩ := pools.ipv6Printed right rightMember
  exact congrArg (IPv6Address.ofString text) same

/-- Whenever no sweep is between its phases, the table is consistent. -/
theorem run_consistent (text : AddressText)
    (pools : CanonicalPools text ipv4 ipv6)
    (monotone : Monotone clock) {labels : List Label}
    (reached :
      run (step clock) (World.start ipv4 ipv6) labels = some world)
    (idle : world.pending = []) :
    Consistent ipv4 ipv6 world.table :=
  Invariant.consistent pools.ipv4Keys pools.ipv6Keys
    (run_invariant
      (fun _ _ _ invariant taken =>
        step_invariant monotone pools.ipv4Keys pools.ipv6Keys invariant
          taken)
      start_invariant reached)
    idle

/-- A request which stays for some milliseconds. -/
def guest (clientId : ClientID) (sessionId : String) (ttlMs : UInt64) :
    ConnectParams where
  clientId := clientId
  request := {
    sessionId := sessionId
    sendDurationMs := 0
    ttlMs := ttlMs
    clientTunVpnIpv4 := IPv4Address.ofValue plainText 0xAC140002
    clientTunVpnIpv6 := wholeIPv6 0x20 }
  user := ⟨"user"⟩

/-- An emptied session is joined again between the phases of a sweep. -/
theorem run_consistent_rejoined :
    ∃ world,
      run (step fun tick => tick * 1000000)
          (World.start [IPv4Address.ofValue plainText 0x0A000002]
            [wholeIPv6 2])
          [.addConnection (guest 1 "first" 1), .beginUpdate [0],
            .addConnection (guest 2 "first" 0),
            .addConnection (guest 3 "second" 0), .finishUpdate 0] =
        some world ∧
      Consistent [IPv4Address.ofValue plainText 0x0A000002]
        [wholeIPv6 2] world.table := by
  have taken :
      (run (step fun tick => tick * 1000000)
          (World.start [IPv4Address.ofValue plainText 0x0A000002]
            [wholeIPv6 2])
          [.addConnection (guest 1 "first" 1), .beginUpdate [0],
            .addConnection (guest 2 "first" 0),
            .addConnection (guest 3 "second" 0),
            .finishUpdate 0]).map
        (fun world => world.pending.isEmpty) = some true := by
    decide +kernel
  obtain ⟨world, reached, idle⟩ := Option.map_eq_some_iff.mp taken
  have monotone : Monotone fun tick : Nat => (tick : Int) * 1000000 := by
    intro earlier later ordered
    simp only
    omega
  have pools :
      CanonicalPools plainText [IPv4Address.ofValue plainText 0x0A000002]
        [wholeIPv6 2] := by
    constructor
    · exact fun ip member => ⟨_, List.mem_singleton.mp member⟩
    · exact fun ip member => ⟨_, List.mem_singleton.mp member⟩
    · exact List.nodup_singleton _
    · exact List.nodup_singleton _
  exact
    ⟨world, reached,
      run_consistent plainText pools monotone reached
        (List.isEmpty_iff.mp idle)⟩

end Runs

end Fptn.NatTable.TableInvariant
