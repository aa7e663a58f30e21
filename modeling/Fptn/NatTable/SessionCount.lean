import Fptn.NatTable.TableInvariant

/-!
# Sessions which come in, and looking up clients

What the steps of the NAT table do to the sessions and to the set of known
clients.  Only `AddConnection` adds to either: it opens a session if the
session id is new and both pools have an address left.
-/

namespace Fptn.NatTable.SessionCount

open Fptn.PartialRun
open Fptn.UnorderedMap
open Fptn.Network.IPAddress
open Fptn.NatTable.Multiplexer
open Fptn.NatTable.SessionTable

variable {table after : Table} {clock : Nat → Int} {tick : Nat}
  {params : ConnectParams} {username : String} {id : ClientID}
  {pointer : MplxPtr}

/-- Sessions are allocated before they are entered. -/
def Allocated (table : Table) : Prop :=
  ∀ pointer ∈ table.sessions, pointer < table.nextMplx

/-- `AddConnection` finds a new session id and two free addresses. -/
def OpensSession (table : Table) (params : ConnectParams) : Prop :=
  table.sessionToMplx.lookup params.request.sessionId = none ∧
    table.freeIpv4 ≠ [] ∧ table.freeIpv6 ≠ []

/-- No session comes in, and those which stay keep their user. -/
structure NoNewSession (before after : Table) : Prop where
  entries : after.sessionToMplx.entries.Sublist before.sessionToMplx.entries
  usernames : ∀ pointer ∈ before.sessions,
    (after.heap pointer).username = (before.heap pointer).username
  nextMplx : before.nextMplx ≤ after.nextMplx

theorem NoNewSession.refl : NoNewSession table table :=
  ⟨List.Sublist.refl _, fun _ _ => rfl, Nat.le_refl _⟩

theorem NoNewSession.sessions (same : NoNewSession table after) :
    after.sessions.Sublist table.sessions :=
  same.entries.map _

/-- Who is found was there before, as the same user. -/
theorem NoNewSession.lookup {sessionId : String}
    (same : NoNewSession table after)
    (found : after.sessionToMplx.lookup sessionId = some pointer) :
    table.sessionToMplx.lookup sessionId = some pointer ∧
      (after.heap pointer).username = (table.heap pointer).username := by
  have there : table.sessionToMplx.lookup sessionId = some pointer :=
    lookup_eq_some.mpr (same.entries.subset (lookup_eq_some.mp found))
  exact ⟨there, same.usernames pointer (mem_values.mpr ⟨_, there⟩)⟩

theorem NoNewSession.trans {between : Table}
    (first : NoNewSession table between)
    (second : NoNewSession between after)
    (sameUsers : ∀ pointer, (after.heap pointer).username =
      (between.heap pointer).username) :
    NoNewSession table after where
  entries := second.entries.trans first.entries
  usernames pointer member :=
    (sameUsers pointer).trans (first.usernames pointer member)
  nextMplx := Nat.le_trans first.nextMplx second.nextMplx

theorem NoNewSession.allocated (same : NoNewSession table after)
    (allocated : Allocated table) :
    Allocated after := fun pointer member =>
  Nat.lt_of_lt_of_le (allocated pointer (same.sessions.subset member))
    same.nextMplx

/-! ## AddConnection -/

theorem update_username {heap : MplxPtr → ConnectionMultiplexer}
    {mplx : ConnectionMultiplexer} (other : MplxPtr)
    (same : mplx.username = (heap pointer).username) :
    (Function.update heap pointer mplx other).username =
      (heap other).username := by
  by_cases here : other = pointer
  · subst here
    rw [Function.update_self, same]
  · rw [Function.update_of_ne here]

theorem joinSession_noNewSession :
    NoNewSession table
      (table.joinSession pointer params clock tick).1 := by
  simp only [Table.joinSession]
  split
  · exact .refl
  · split
    · exact .refl
    case h_2 added found =>
      refine ⟨List.Sublist.refl _, fun other _ => ?_, Nat.le_refl _⟩
      refine update_username other ?_
      unfold ConnectionMultiplexer.addClientConnection at found
      split at found <;> cases found
      rfl

/-- The new session is the only one which comes in. -/
theorem openSession_allocated {fakeIpv4 : IPv4Address}
    {fakeIpv6 : IPv6Address} (allocated : Allocated table)
    (new : table.sessionToMplx.lookup params.request.sessionId = none) :
    Allocated (table.openSession fakeIpv4 fakeIpv6 params clock tick).1 := by
  have sessions :
      (table.openSession fakeIpv4 fakeIpv6 params clock tick).1.sessions =
        table.nextMplx :: table.sessions := values_insert new
  intro other member
  rw [sessions, List.mem_cons] at member
  rcases member with rfl | old
  · exact Nat.lt_succ_self _
  · exact Nat.lt_succ_of_lt (allocated other old)

theorem addConnection_eq_openSession (opens : OpensSession table params) :
    ∃ fakeIpv4 fakeIpv6, table.addConnection params clock tick =
      table.openSession fakeIpv4 fakeIpv6 params clock tick := by
  obtain ⟨new, someIpv4, someIpv6⟩ := opens
  refine ⟨table.freeIpv4.getLast someIpv4,
    table.freeIpv6.getLast someIpv6, ?_⟩
  rw [Table.addConnection, new, List.getLast?_eq_some_getLast someIpv4,
    List.getLast?_eq_some_getLast someIpv6]

/-- Unless a session is opened, none comes in. -/
theorem addConnection_noNewSession (joins : ¬OpensSession table params) :
    NoNewSession table (table.addConnection params clock tick).1 := by
  unfold Table.addConnection
  split
  case h_1 => exact joinSession_noNewSession
  case h_2 new =>
    split
    case h_1 fakeIpv4 fakeIpv6 foundIpv4 foundIpv6 =>
      refine absurd ⟨new, ?_, ?_⟩ joins
      · rintro empty
        rw [empty] at foundIpv4
        cases foundIpv4
      · rintro empty
        rw [empty] at foundIpv6
        cases foundIpv6
    case h_2 => exact .refl

theorem addConnection_allocated (allocated : Allocated table) :
    Allocated (table.addConnection params clock tick).1 := by
  by_cases opens : OpensSession table params
  · obtain ⟨fakeIpv4, fakeIpv6, opened⟩ :=
      @addConnection_eq_openSession table clock tick params opens
    rw [opened]
    exact openSession_allocated allocated opens.1
  · exact (addConnection_noNewSession opens).allocated allocated

/-! ## The other operations -/

theorem releaseSessionIfEmpty_noNewSession :
    NoNewSession table (table.releaseSessionIfEmpty pointer) ∧
      (table.releaseSessionIfEmpty pointer).heap = table.heap ∧
      (table.releaseSessionIfEmpty pointer).clientToMplx =
        table.clientToMplx := by
  simp only [Table.releaseSessionIfEmpty]
  split
  · exact ⟨.refl, rfl, rfl⟩
  · split
    · exact ⟨.refl, rfl, rfl⟩
    · exact
        ⟨⟨List.kerase_sublist _ _, fun _ _ => rfl, Nat.le_refl _⟩, rfl, rfl⟩

theorem delConnectionByClientId_noNewSession :
    NoNewSession table (table.delConnectionByClientId id).1 := by
  unfold Table.delConnectionByClientId
  split
  · exact .refl
  case h_2 pointer _ =>
    have dropped : NoNewSession table (table.dropClient pointer id) :=
      ⟨List.Sublist.refl _, fun other _ => update_username other rfl,
        Nat.le_refl _⟩
    obtain ⟨released, heap, -⟩ :=
      @releaseSessionIfEmpty_noNewSession (table.dropClient pointer id)
        pointer
    exact dropped.trans released fun other => by rw [heap]

theorem sweepEach_username {order : List MplxPtr}
    {heap : MplxPtr → ConnectionMultiplexer} (other : MplxPtr) :
    ((Table.sweepEach clock order heap tick).heap other).username =
      (heap other).username := by
  induction order generalizing heap tick with
  | nil => rfl
  | cons pointer rest ih =>
      simp only [Table.sweepEach]
      rw [ih]
      exact update_username other rfl

theorem releaseEmptied_noNewSession {emptied : List MplxPtr} :
    NoNewSession table (Table.releaseEmptied emptied table) ∧
      (Table.releaseEmptied emptied table).heap = table.heap ∧
      (Table.releaseEmptied emptied table).clientToMplx =
        table.clientToMplx := by
  induction emptied generalizing table with
  | nil => exact ⟨.refl, rfl, rfl⟩
  | cons pointer rest ih =>
      obtain ⟨released, heap, clients⟩ :=
        @releaseSessionIfEmpty_noNewSession table pointer
      obtain ⟨later, laterHeap, laterClients⟩ :=
        @ih (table.releaseSessionIfEmpty pointer)
      exact
        ⟨released.trans later fun other =>
          congrArg ConnectionMultiplexer.username
            (congrFun laterHeap other),
          laterHeap.trans heap, laterClients.trans clients⟩

theorem finishSweep_noNewSession {sweep : Sweep} :
    NoNewSession table (table.finishSweep sweep) := by
  have erased : NoNewSession table (table.eraseClients sweep.expired) :=
    ⟨List.Sublist.refl _, fun _ _ => rfl, Nat.le_refl _⟩
  obtain ⟨released, heap, -⟩ :=
    @releaseEmptied_noNewSession (table.eraseClients sweep.expired)
      sweep.emptied
  exact erased.trans released fun other => by rw [Table.finishSweep, heap]

/-! ## Steps -/

variable {world next : World} {label : SessionTable.Label}

/-- A step other than `AddConnection` opens no session. -/
theorem step_noNewSession
    (other : ∀ params, label ≠ .addConnection params)
    (taken : SessionTable.step clock world label = some next) :
    NoNewSession world.table next.table := by
  cases label with
  | addConnection params => exact absurd rfl (other params)
  | delConnectionByClientId id =>
      cases taken
      exact delConnectionByClientId_noNewSession
  | disableChecksumCalculation pointer value =>
      cases taken
      exact
        ⟨List.Sublist.refl _, fun other _ => update_username other rfl,
          Nat.le_refl _⟩
  | beginUpdate order =>
      simp only [SessionTable.step] at taken
      split at taken
      · cases taken
        exact
          ⟨List.Sublist.refl _, fun other _ => sweepEach_username other,
            Nat.le_refl _⟩
      · cases taken
  | finishUpdate place =>
      simp only [SessionTable.step] at taken
      split at taken
      · cases taken
      · cases taken
        exact finishSweep_noNewSession

/-! ## Known clients -/

/-- The table has an entry for the client. -/
def Knows (table : Table) (id : ClientID) : Prop :=
  table.clientToMplx.lookup id ≠ none

/-- Only the client which is connecting becomes known. -/
theorem addConnection_knows
    (known : Knows (table.addConnection params clock tick).1 id) :
    Knows table id ∨
      id = params.clientId ∧
        (table.addConnection params clock tick).2 ≠ none := by
  by_cases here : id = params.clientId
  · by_cases refused : (table.addConnection params clock tick).2 = none
    · left
      unfold Table.addConnection at known refused
      split at known
      case h_1 pointer found =>
        simp only [found] at refused
        simp only [Table.joinSession] at known refused
        split at known
        · exact known
        case isFalse otherUser =>
          rw [if_neg otherUser] at refused
          split at known
          · exact known
          case h_2 added joined =>
            rw [joined] at refused
            cases refused
      case h_2 new =>
        simp only [new] at refused
        split at known
        case h_1 fakeIpv4 fakeIpv6 foundIpv4 foundIpv6 =>
          rw [foundIpv4, foundIpv6] at refused
          cases refused
        · exact known
    · exact Or.inr ⟨here, refused⟩
  · left
    unfold Table.addConnection at known
    split at known
    · simp only [Table.joinSession] at known
      split at known
      · exact known
      · split at known
        · exact known
        · intro absent
          exact known ((lookup_insert_ne here).trans absent)
    · split at known
      · intro absent
        exact known ((lookup_insert_ne here).trans absent)
      · exact known

/-- Exactly the client which disconnects is forgotten. -/
theorem delConnectionByClientId_knows {other : ClientID} :
    Knows (table.delConnectionByClientId id).1 other ↔
      other ≠ id ∧ Knows table other := by
  unfold Table.delConnectionByClientId
  split
  case h_1 absent =>
    refine ⟨fun known => ⟨?_, known⟩, And.right⟩
    rintro rfl
    exact known absent
  case h_2 pointer _ =>
    rw [Knows, (@releaseSessionIfEmpty_noNewSession
      (table.dropClient pointer id) pointer).2.2, Table.dropClient]
    by_cases same : other = id
    · subst same
      simp
    · rw [AList.lookup_erase_ne same]
      exact ⟨fun known => ⟨same, known⟩, And.right⟩

/-- A step makes at most the client known which is connecting. -/
theorem step_knows
    (taken : SessionTable.step clock world label = some next)
    (known : Knows next.table id) :
    Knows world.table id ∨
      ∃ params, label = .addConnection params ∧ id = params.clientId := by
  cases label with
  | addConnection params =>
      simp only [SessionTable.step] at taken
      split at taken <;> cases taken
      rcases addConnection_knows known with before | ⟨here, -⟩
      · exact Or.inl before
      · exact Or.inr ⟨params, rfl, here⟩
  | delConnectionByClientId other =>
      cases taken
      exact Or.inl (delConnectionByClientId_knows.mp known).2
  | disableChecksumCalculation pointer value =>
      cases taken
      exact Or.inl known
  | beginUpdate order =>
      simp only [SessionTable.step] at taken
      split at taken <;> cases taken
      exact Or.inl known
  | finishUpdate place =>
      simp only [SessionTable.step] at taken
      split at taken
      · cases taken
      case h_2 sweep _ =>
        cases taken
        left
        obtain ⟨pointer, found⟩ := Option.ne_none_iff_exists'.mp known
        rw [Table.finishSweep,
          (@releaseEmptied_noNewSession (world.table.eraseClients
            sweep.expired) sweep.emptied).2.2] at found
        rw [Knows, (TableInvariant.lookup_foldl_erase.mp found).2]
        exact Option.some_ne_none pointer

end Fptn.NatTable.SessionCount
