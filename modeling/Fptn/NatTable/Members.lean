import Fptn.NatTable.Assignment

/-!
# The clients of a session

`AddConnection` gives each client a session, and no client gets a second one.
What it has answered is recorded here beside the table.  The record accounts
for all connections in the buckets of a session and for the map of clients: a
connection is that of the client which was given the session, and has the
parameters with which it came.
-/

namespace Fptn.NatTable.Members

open Fptn.UnorderedMap
open Fptn.Network.IPAddress
open Fptn.NatTable.Multiplexer
open Fptn.NatTable.Multiplexer.ConnectionMultiplexer
open Fptn.NatTable.SessionTable
open Fptn.NatTable.TableInvariant

/-! ## Connections of a session -/

/-- One of the buckets holds the connection. -/
def Holds (buckets : Buckets) (connection : ClientConnection) : Prop :=
  connection ∈ buckets.sending ∨ connection ∈ buckets.receiving

section Buckets

variable {buckets : Buckets} {connection other : ClientConnection}
  {clock : Nat → Int} {tick : Nat}

theorem placeByRole_holds {sendingNow receivingNow : Int}
    (holds :
      Holds (placeByRole buckets connection sendingNow receivingNow) other) :
    Holds buckets other ∨ other = connection := by
  simp only [Holds, placeByRole] at holds
  rcases holds with sending | receiving
  · split at sending
    · rw [List.mem_append, List.mem_singleton] at sending
      exact sending.imp_left Or.inl
    · exact Or.inl (Or.inl sending)
  · split at receiving
    · rw [List.mem_append, List.mem_singleton] at receiving
      exact receiving.imp_left Or.inr
    · exact Or.inl (Or.inr receiving)

theorem mem_merge {connections rest : List ClientConnection}
    (member : other ∈ merge connections rest) :
    other ∈ connections ∨ other ∈ rest := by
  induction rest generalizing connections with
  | nil => exact Or.inl member
  | cons head tail ih =>
      rw [merge] at member
      split at member
      · exact (ih member).imp_right (List.mem_cons_of_mem head)
      · rcases ih member with joined | later
        · rw [List.mem_append, List.mem_singleton] at joined
          exact joined.imp_right fun same => List.mem_cons.mpr (Or.inl same)
        · exact Or.inr (List.mem_cons_of_mem head later)

theorem resort_holds {connections : List ClientConnection}
    (holds : Holds (resort clock connections tick buckets).buckets other) :
    Holds buckets other ∨ other ∈ connections := by
  induction connections generalizing tick buckets with
  | nil => exact Or.inl holds
  | cons head tail ih =>
      rw [resort] at holds
      split at holds
      · exact (ih holds).imp_right (List.mem_cons_of_mem head)
      · rcases ih holds with placed | later
        · exact
            (placeByRole_holds placed).imp_right fun same =>
              List.mem_cons.mpr (Or.inl same)
        · exact Or.inr (List.mem_cons_of_mem head later)

end Buckets

section Multiplexer

variable {mplx : ConnectionMultiplexer} {connection : ClientConnection}
  {clock : Nat → Int} {tick : Nat} {params : ConnectParams}

theorem addClientConnection_holds {added : ConnectionMultiplexer}
    (joined : mplx.addClientConnection params clock tick = some added)
    (holds : Holds added.buckets connection) :
    Holds mplx.buckets connection ∨ connection.params = params := by
  unfold addClientConnection at joined
  split at joined <;> cases joined
  exact (placeByRole_holds holds).imp_right fun same => by rw [same]

theorem create_holds {fakeIpv4 : IPv4Address} {fakeIpv6 : IPv6Address}
    (holds :
      Holds (create params fakeIpv4 fakeIpv6 clock tick).buckets
        connection) :
    connection.params = params := by
  rcases placeByRole_holds holds with (nothing | nothing) | same
  · cases nothing
  · cases nothing
  · rw [same]

theorem delConnectionByClientId_holds {id : ClientID}
    (holds : Holds (mplx.delConnectionByClientId id).buckets connection) :
    Holds mplx.buckets connection :=
  holds.imp List.mem_of_mem_eraseP List.mem_of_mem_eraseP

theorem updateConnectionsStatus_holds
    (holds :
      Holds (mplx.updateConnectionsStatus clock tick).multiplexer.buckets
        connection) :
    Holds mplx.buckets connection := by
  rcases resort_holds holds with (nothing | nothing) | member
  · cases nothing
  · cases nothing
  · exact mem_merge member

end Multiplexer

/-! ## What a step adds -/

/-- The session and the parameters of a client which has got one. -/
abbrev Joined := MplxPtr × ConnectParams

/-- Objects stay the ones they are, and what is new in the table is due to
the one client which was added, if any. -/
structure Grows (before after : Table) (added : Option Joined) :
    Prop where
  nextMplx : before.nextMplx ≤ after.nextMplx
  session : ∀ pointer < before.nextMplx,
    SameSession (after.heap pointer) (before.heap pointer)
  connections : ∀ pointer connection,
    Holds (after.heap pointer).buckets connection →
      Holds (before.heap pointer).buckets connection ∨
        added = some (pointer, connection.params)
  clients : ∀ id pointer, after.clientToMplx.lookup id = some pointer →
    before.clientToMplx.lookup id = some pointer ∨
      ∃ params, added = some (pointer, params) ∧ params.clientId = id
  entered : ∀ pointer params, added = some (pointer, params) →
    pointer < after.nextMplx ∧
      params.user.username = (after.heap pointer).username ∧
      params.request.sessionId = (after.heap pointer).sessionId

section Table

variable {before between after table : Table} {pointer : MplxPtr}
  {clock : Nat → Int} {tick : Nat} {params : ConnectParams}
  {ipv4 : List IPv4Address} {ipv6 : List IPv6Address} {id : ClientID}

theorem Grows.refl : Grows table table none :=
  ⟨Nat.le_refl _, fun _ _ => .refl _, fun _ _ => Or.inl,
    fun _ _ => Or.inl, fun _ _ nothing => nomatch nothing⟩

theorem Grows.trans (first : Grows before between none)
    (second : Grows between after none) : Grows before after none where
  nextMplx := Nat.le_trans first.nextMplx second.nextMplx
  session pointer made :=
    (second.session pointer (Nat.lt_of_lt_of_le made first.nextMplx)).trans
      (first.session pointer made)
  connections pointer connection holds := by
    rcases second.connections pointer connection holds with old | new
    · exact first.connections pointer connection old
    · cases new
  clients id pointer found := by
    rcases second.clients id pointer found with old | ⟨params, new, -⟩
    · exact first.clients id pointer old
    · cases new
  entered pointer params new := nomatch new

/-- Only objects change, and none of them gets a connection. -/
theorem grows_withHeap {heap : MplxPtr → ConnectionMultiplexer}
    {clients : Map ClientID MplxPtr}
    (session : ∀ pointer, SameSession (heap pointer) (table.heap pointer))
    (fewer : ∀ pointer connection,
      Holds (heap pointer).buckets connection →
        Holds (table.heap pointer).buckets connection)
    (known : ∀ id pointer, clients.lookup id = some pointer →
      table.clientToMplx.lookup id = some pointer) :
    Grows table { table with heap := heap, clientToMplx := clients }
      none where
  nextMplx := Nat.le_refl _
  session pointer _ := session pointer
  connections pointer connection holds :=
    Or.inl (fewer pointer connection holds)
  clients id pointer found := Or.inl (known id pointer found)
  entered _ _ new := nomatch new

/-- Replacing one object by one with fewer connections. -/
theorem holds_update {heap : MplxPtr → ConnectionMultiplexer}
    {changed : ConnectionMultiplexer} {other : MplxPtr}
    {connection : ClientConnection}
    (fewer : Holds changed.buckets connection →
      Holds (heap pointer).buckets connection)
    (holds :
      Holds (Function.update heap pointer changed other).buckets
        connection) :
    Holds (heap other).buckets connection := by
  by_cases here : other = pointer
  · subst here
    rw [Function.update_self] at holds
    exact fewer holds
  · rwa [Function.update_of_ne here] at holds

theorem joinSession_grows (addresses : Addresses ipv4 ipv6 table)
    (found : table.sessionToMplx.lookup params.request.sessionId =
      some pointer) :
    Grows table (table.joinSession pointer params clock tick).1
      ((table.joinSession pointer params clock tick).2.map
        (·, params)) := by
  simp only [Table.joinSession]
  split
  · exact .refl
  case isFalse sameUser =>
    rw [not_not] at sameUser
    split
    · exact .refl
    case h_2 added joined =>
      have session : SameSession added (table.heap pointer) := by
        unfold addClientConnection at joined
        split at joined <;> cases joined
        exact ⟨rfl, rfl, rfl, rfl⟩
      refine ⟨Nat.le_refl _, fun other _ => sameSession_update session other,
        fun other connection holds => ?_, fun id other lookup => ?_,
        fun other others new => ?_⟩
      · by_cases here : other = pointer
        · subst here
          simp only [Function.update_self] at holds
          rcases addClientConnection_holds joined holds with old | same
          · exact Or.inl old
          · exact Or.inr (by rw [same]; rfl)
        · simp only [Function.update_of_ne here] at holds
          exact Or.inl holds
      · by_cases here : id = params.clientId
        · subst here
          rcases lookup_of_insert lookup with old | rfl
          · exact Or.inl old
          · exact Or.inr ⟨params, rfl, rfl⟩
        · rw [lookup_insert_ne here] at lookup
          exact Or.inl lookup
      · cases new
        simp only [Function.update_self]
        refine ⟨addresses.allocated pointer (mem_values.mpr ⟨_, found⟩), ?_,
          ?_⟩
        · rw [session.username, sameUser]
        · rw [session.sessionId, addresses.keyed _ _ found]

theorem openSession_grows {fakeIpv4 : IPv4Address}
    {fakeIpv6 : IPv6Address} :
    Grows table
      (table.openSession fakeIpv4 fakeIpv6 params clock tick).1
      (some (table.nextMplx, params)) where
  nextMplx := Nat.le_succ _
  session pointer made := by
    rw [openSession_heap_of_ne (Nat.ne_of_lt made)]
    exact .refl _
  connections pointer connection holds := by
    by_cases here : pointer = table.nextMplx
    · subst here
      rw [openSession_heap_next] at holds
      exact Or.inr (by rw [create_holds holds])
    · rw [openSession_heap_of_ne here] at holds
      exact Or.inl holds
  clients id pointer found := by
    by_cases here : id = params.clientId
    · subst here
      rcases lookup_of_insert found with old | rfl
      · exact Or.inl old
      · exact Or.inr ⟨params, rfl, rfl⟩
    · exact Or.inl ((lookup_insert_ne here).symm.trans found)
  entered pointer others new := by
    obtain ⟨rfl, rfl⟩ := Prod.mk.inj (Option.some.inj new)
    rw [openSession_heap_next]
    exact ⟨Nat.lt_succ_self _, rfl, rfl⟩

theorem addConnection_grows (addresses : Addresses ipv4 ipv6 table) :
    Grows table (table.addConnection params clock tick).1
      ((table.addConnection params clock tick).2.map (·, params)) := by
  simp only [Table.addConnection]
  split
  case h_1 pointer found => exact joinSession_grows addresses found
  case h_2 =>
    split
    case h_1 => exact openSession_grows
    case h_2 => exact .refl

theorem releaseSessionIfEmpty_grows :
    Grows table (table.releaseSessionIfEmpty pointer) none := by
  unfold Table.releaseSessionIfEmpty
  simp only
  split
  · exact .refl
  · split
    · exact .refl
    · exact
        ⟨Nat.le_refl _, fun _ _ => .refl _, fun _ _ => Or.inl,
          fun _ _ => Or.inl, fun _ _ nothing => nomatch nothing⟩

theorem delConnectionByClientId_grows :
    Grows table (table.delConnectionByClientId id).1 none := by
  unfold Table.delConnectionByClientId
  split
  · exact .refl
  case h_2 pointer _ =>
    have dropped : Grows table (table.dropClient pointer id) none :=
      grows_withHeap (sameSession_update ⟨rfl, rfl, rfl, rfl⟩)
        (fun _ _ => holds_update delConnectionByClientId_holds)
        fun _ _ found => (lookup_erase_eq_some.mp found).2
    exact dropped.trans releaseSessionIfEmpty_grows

theorem sweepEach_grows {order : List MplxPtr}
    {heap : MplxPtr → ConnectionMultiplexer} (pointer : MplxPtr) :
    SameSession ((Table.sweepEach clock order heap tick).heap pointer)
        (heap pointer) ∧
      ∀ connection,
        Holds ((Table.sweepEach clock order heap tick).heap
            pointer).buckets connection →
          Holds (heap pointer).buckets connection := by
  induction order generalizing heap tick with
  | nil => exact ⟨.refl _, fun _ => id⟩
  | cons visited rest ih =>
      simp only [Table.sweepEach]
      obtain ⟨session, fewer⟩ := @ih
        ((heap visited).updateConnectionsStatus clock tick).tick
        (Function.update heap visited
          ((heap visited).updateConnectionsStatus clock tick).multiplexer)
      refine ⟨session.trans (sameSession_update ?_ pointer),
        fun connection holds =>
          holds_update updateConnectionsStatus_holds
            (fewer connection holds)⟩
      exact ⟨rfl, rfl, rfl, rfl⟩

theorem releaseEmptied_grows {emptied : List MplxPtr} :
    Grows table (Table.releaseEmptied emptied table) none := by
  induction emptied generalizing table with
  | nil => exact .refl
  | cons pointer rest ih => exact releaseSessionIfEmpty_grows.trans ih

theorem finishSweep_grows {sweep : Sweep} :
    Grows table (table.finishSweep sweep) none := by
  have erased : Grows table (table.eraseClients sweep.expired) none :=
    grows_withHeap (fun _ => .refl _) (fun _ _ => id) fun _ _ found =>
      (lookup_foldl_erase.mp found).2
  exact erased.trans releaseEmptied_grows

theorem disableChecksumCalculation_grows {value : Bool} :
    Grows table (table.disableChecksumCalculation pointer value) none :=
  grows_withHeap (sameSession_update ⟨rfl, rfl, rfl, rfl⟩)
    (fun _ _ => holds_update id) fun _ _ => id

end Table

/-! ## The record -/

/-- What `AddConnection` has answered to each client. -/
abbrev Joins := ClientID → Option Joined

/-- The answer of a step. -/
def answer (clock : Nat → Int) (world : World) : Label → Option Joined
  | .addConnection params =>
      (world.table.addConnection params clock world.tick).2.map (·, params)
  | _ => none

def note (joins : Joins) : Option Joined → Joins
  | none => joins
  | some joined =>
      Function.update joins joined.2.clientId (some joined)

/-- The connections and the known clients are those of the record. -/
structure Recorded (joins : Joins) (world : World) : Prop where
  connections : ∀ pointer connection,
    Holds (world.table.heap pointer).buckets connection →
      joins connection.clientId = some (pointer, connection.params)
  clients : ∀ id pointer,
    world.table.clientToMplx.lookup id = some pointer →
      ∃ params, joins id = some (pointer, params)
  entered : ∀ id pointer params, joins id = some (pointer, params) →
    params.clientId = id ∧ pointer < world.table.nextMplx ∧
      params.user.username = (world.table.heap pointer).username ∧
      params.request.sessionId = (world.table.heap pointer).sessionId
  used : ∀ id, joins id ≠ none → id ∈ world.used

section Runs

variable {clock : Nat → Int} {world next : World} {label : Label}
  {joins : Joins} {ipv4 : List IPv4Address} {ipv6 : List IPv6Address}
  {id : ClientID} {joined : Joined}

theorem start_recorded : Recorded (fun _ => none) (World.start ipv4 ipv6) where
  connections pointer connection holds := by
    rcases holds with nothing | nothing
    · cases nothing
    · cases nothing
  clients id pointer found := by
    simp [World.start, Table.start] at found
  entered _ _ _ nothing := nomatch nothing
  used _ something := absurd rfl something

theorem step_grows (addresses : Addresses ipv4 ipv6 world.table)
    (taken : step clock world label = some next) :
    Grows world.table next.table (answer clock world label) := by
  cases label with
  | addConnection params =>
      simp only [step] at taken
      split at taken <;> cases taken
      exact addConnection_grows addresses
  | delConnectionByClientId id =>
      cases taken
      exact delConnectionByClientId_grows
  | disableChecksumCalculation pointer value =>
      cases taken
      exact disableChecksumCalculation_grows
  | beginUpdate order =>
      simp only [step] at taken
      split at taken <;> cases taken
      exact
        grows_withHeap (fun pointer => (sweepEach_grows pointer).1)
          (fun pointer => (sweepEach_grows pointer).2) fun _ _ => id
  | finishUpdate place =>
      simp only [step] at taken
      split at taken
      · cases taken
      · cases taken
        exact finishSweep_grows

/-- Only a new client is given a session, and it is used from then on. -/
theorem step_used (taken : step clock world label = some next) :
    (∀ joined, answer clock world label = some joined →
      joined.2.clientId ∉ world.used ∧ joined.2.clientId ∈ next.used) ∧
      ∀ id ∈ world.used, id ∈ next.used := by
  cases label with
  | addConnection params =>
      simp only [step] at taken
      split at taken
      · cases taken
      case isFalse new =>
        cases taken
        refine ⟨fun joined answered => ?_, fun _ =>
          List.mem_cons_of_mem _⟩
        obtain ⟨pointer, -, rfl⟩ := Option.map_eq_some_iff.mp answered
        exact ⟨new, List.mem_cons_self⟩
  | delConnectionByClientId | disableChecksumCalculation =>
      cases taken
      exact ⟨by rintro _ ⟨⟩, fun _ known => known⟩
  | beginUpdate =>
      simp only [step] at taken
      split at taken <;> cases taken
      exact ⟨by rintro _ ⟨⟩, fun _ known => known⟩
  | finishUpdate =>
      simp only [step] at taken
      split at taken <;> cases taken
      exact ⟨by rintro _ ⟨⟩, fun _ known => known⟩

/-- What has been recorded is not changed by what is noted later. -/
theorem note_of_recorded {added : Option Joined}
    (new : ∀ joined, added = some joined →
      joins joined.2.clientId = none)
    (recorded : joins id = some joined) :
    note joins added id = some joined := by
  cases added with
  | none => exact recorded
  | some latest =>
      have different : id ≠ latest.2.clientId := by
        rintro rfl
        rw [new latest rfl] at recorded
        cases recorded
      rw [note, Function.update_of_ne different, recorded]

theorem note_added {added : Joined} :
    note joins (some added) added.2.clientId = some added :=
  Function.update_self _ _ _

theorem note_eq_some {added : Option Joined}
    (noted : note joins added id = some joined) :
    joins id = some joined ∨
      added = some joined ∧ id = joined.2.clientId := by
  cases added with
  | none => exact Or.inl noted
  | some latest =>
      by_cases here : id = latest.2.clientId
      · subst here
        rw [note_added] at noted
        obtain rfl := Option.some.inj noted
        exact Or.inr ⟨rfl, rfl⟩
      · rw [note, Function.update_of_ne here] at noted
        exact Or.inl noted

/-- The record stays, and stays complete. -/
theorem step_recorded (addresses : Addresses ipv4 ipv6 world.table)
    (recorded : Recorded joins world)
    (taken : step clock world label = some next) :
    Recorded (note joins (answer clock world label)) next ∧
      ∀ id joined, joins id = some joined →
        note joins (answer clock world label) id = some joined := by
  have grows := step_grows addresses taken
  obtain ⟨fresh, kept⟩ := step_used taken
  generalize answer clock world label = added at grows fresh ⊢
  have new : ∀ joined, added = some joined →
      joins joined.2.clientId = none := fun joined answered =>
    Decidable.byContradiction fun known =>
      (fresh joined answered).1 (recorded.used _ known)
  have stays : ∀ id joined, joins id = some joined →
      note joins added id = some joined := fun _ _ =>
    note_of_recorded new
  refine ⟨⟨fun pointer connection holds => ?_, fun id pointer found => ?_,
    fun id pointer params noted => ?_, fun id something => ?_⟩, stays⟩
  · rcases grows.connections pointer connection holds with old | rfl
    · exact stays _ _ (recorded.connections pointer connection old)
    · exact note_added
  · rcases grows.clients id pointer found with old | ⟨params, rfl, rfl⟩
    · obtain ⟨params, known⟩ := recorded.clients id pointer old
      exact ⟨params, stays _ _ known⟩
    · exact ⟨params, note_added⟩
  · rcases note_eq_some noted with old | ⟨rfl, rfl⟩
    · obtain ⟨own, made, user, session⟩ :=
        recorded.entered id pointer params old
      have same := grows.session pointer made
      exact
        ⟨own, Nat.lt_of_lt_of_le made grows.nextMplx,
          user.trans same.username.symm, session.trans same.sessionId.symm⟩
    · exact ⟨rfl, grows.entered pointer params rfl⟩
  · obtain ⟨joined, noted⟩ := Option.ne_none_iff_exists'.mp something
    rcases note_eq_some noted with old | ⟨rfl, rfl⟩
    · exact kept id (recorded.used id (by simp [old]))
    · exact (fresh joined rfl).2

end Runs

end Fptn.NatTable.Members
