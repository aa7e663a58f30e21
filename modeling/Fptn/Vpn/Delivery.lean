import Fptn.Vpn.ToClient
import Fptn.Web.Authentication

/-!
# Who gets a packet

A packet goes to a connection of the session which has its destination
address, and to no other.  This is so whatever the web server does in the
meantime: a session may be torn down and its address leased to another user
while a thread holds the packet, but the packet still goes to a client of the
session which had the address when the packet came.

The packets of one thread reach the channel of a client in the order in which
the thread has taken them, and none of them is queued twice or for two
clients.
-/

namespace Fptn.Vpn.Delivery

open Fptn.PartialRun
open Fptn.UnorderedMap
open Fptn.NatTable.Assignment
open Fptn.NatTable.Members
open Fptn.NatTable.Multiplexer
open Fptn.NatTable.Multiplexer.ConnectionMultiplexer
open Fptn.NatTable.SessionTable
open Fptn.NatTable.TableInvariant
open Fptn.Network.IPAddress
open Fptn.Network.Packet
open Fptn.Vpn.Filter
open Fptn.Vpn.FromClient
open Fptn.Vpn.ToClient
open Fptn.Web.Authentication
open Fptn.Web.SessionMoves
open Fptn.Web.WebServer

/-! ## Steps of a thread -/

/-- The packets which a thread has still to handle. -/
def pending : Place → List (Option Taken)
  | .handling rest => rest
  | .limiting _ taken rest | .choosing _ taken rest
  | .testing _ _ taken rest | .rewriting _ _ taken rest =>
      some taken :: rest
  | .waiting | .delivering | .testRunning _ _ | .trySend _ _ => []

/-- The packets for a client which are being sent. -/
def sending : Place → ClientID → List Outgoing
  | .testRunning other batch, id | .trySend other batch, id =>
      if other = id then batch else []
  | _, _ => []

/-- The packet which a session with this flag makes of another one. -/
def Sent (setting : Setting) (mplx : ConnectionMultiplexer)
    (params : ConnectParams) (id : ClientID) (outgoing : Outgoing) : Prop :=
  mplx.disableChecksumCalculation = true ∧
      outgoing.sent = setClientId id outgoing.taken.packet ∨
    outgoing.sent =
      withClientAddress setting.text params.request
        (setClientId id outgoing.taken.packet)

/-- The packet as it leaves the session. -/
def Leaves (setting : Setting) (mplx : ConnectionMultiplexer)
    (id : ClientID) (outgoing : Outgoing) : Prop :=
  mplx.disableChecksumCalculation = true ∧
      outgoing.sent = setClientId id outgoing.taken.packet ∨
    changeIPAddressToClientIP setting.text mplx outgoing.taken.packet id =
      some outgoing.sent

/-- What a step makes of a thread, and the packet which it queues. -/
inductive Moves (setting : Setting) (system : System) (thread : Thread) :
    Thread → Option (ClientID × Outgoing) → Prop where
  | takes (packets : List (Option IPPacket))
      (here : thread.place = .waiting) :
      Moves setting system thread
        { thread with
          place := .handling (numbered thread.input.length packets)
          input := thread.input ++ packets } none
  | skips {first : Option Taken} {rest : List (Option Taken)}
      (here : pending thread.place = first :: rest) :
      Moves setting system thread (thread.at_ (.handling rest)) none
  | finds {pointer : MplxPtr} {taken : Taken} {rest : List (Option Taken)}
      (here : thread.place = .handling (some taken :: rest))
      (found : system.natSession setting taken.packet = some pointer) :
      Moves setting system thread
        (thread.at_ (.limiting pointer taken rest)) none
  | admits {pointer : MplxPtr} {taken : Taken}
      {rest : List (Option Taken)}
      (here : thread.place = .limiting pointer taken rest) :
      Moves setting system thread
        (thread.at_ (.choosing pointer taken rest)) none
  | chooses {pointer : MplxPtr} {id : ClientID} {taken : Taken}
      {rest : List (Option Taken)}
      (here : thread.place = .choosing pointer taken rest)
      (chosen :
        (nextReceiverClientId (system.mplx pointer) (system.cursor pointer)
          taken.packet).1 = some id) :
      Moves setting system thread
        (thread.at_ (.testing pointer id taken rest)) none
  | tests {pointer : MplxPtr} {id : ClientID} {taken : Taken}
      {rest : List (Option Taken)}
      (here : thread.place = .testing pointer id taken rest) :
      Moves setting system thread
        (thread.at_ (.rewriting pointer id taken rest)) none
  | pushes {pointer : MplxPtr} {id : ClientID} {outgoing : Outgoing}
      {rest : List (Option Taken)}
      (here : thread.place = .testing pointer id outgoing.taken rest ∨
        thread.place = .rewriting pointer id outgoing.taken rest)
      (leaves : Leaves setting (system.mplx pointer) id outgoing) :
      Moves setting system thread (thread.push id outgoing rest) none
  /-- From one place of the second loop to another. -/
  | goes {place : Place} (nothing : pending thread.place = [])
      (still : pending place = [])
      (fewer : ∀ id, (sending place id).Sublist (sending thread.place id)) :
      Moves setting system thread (thread.at_ place) none
  | visits {id : ClientID} {batch : List Outgoing}
      (here : thread.place = .delivering)
      (found : thread.batches.lookup id = some batch) :
      Moves setting system thread
        ({ thread with batches := thread.batches.erase id }.at_
          (.testRunning id batch)) none
  | misses {id : ClientID} (here : thread.place = .delivering) :
      Moves setting system thread
        { thread with batches := thread.batches.erase id } none
  | queues {id : ClientID} {outgoing : Outgoing} {rest : List Outgoing}
      (here : thread.place = .trySend id (outgoing :: rest)) :
      Moves setting system thread (thread.at_ (.trySend id rest))
        (some (id, outgoing))

/-- The channels after a packet has been queued. -/
def queued (t : ThreadId)
    (channel : ClientID → List (ThreadId × Outgoing)) :
    Option (ClientID × Outgoing) → ClientID → List (ThreadId × Outgoing)
  | none => channel
  | some (id, outgoing) =>
      Function.update channel id (channel id ++ [(t, outgoing)])

/-- Nothing else changes. -/
structure Stepped (system next : System) (t : ThreadId) (thread : Thread)
    (item : Option (ClientID × Outgoing)) : Prop where
  server : next.server = system.server
  joins : next.joins = system.joins
  received : next.received = system.received
  thread : next.thread = Function.update system.thread t thread
  writeChannel : next.writeChannel = queued t system.writeChannel item

section Steps

variable {setting : Setting} {system next : System} {t : ThreadId}
  {action : Action}

theorem stepped_setThread {thread : Thread} :
    Stepped system (system.setThread t thread) t thread none :=
  ⟨rfl, rfl, rfl, rfl, rfl⟩

theorem getSessionById_moves {id : ClientID} {batch : List Outgoing}
    (here : (system.thread t).place = .delivering)
    (found : (system.thread t).batches.lookup id = some batch)
    (taken : system.getSessionById t id batch = some next) :
    ∃ thread item, Moves setting system (system.thread t) thread item ∧
      Stepped system next t thread item := by
  unfold System.getSessionById at taken
  split at taken
  · cases taken
  · split at taken
    · cases taken
      exact ⟨_, none, .visits here found, stepped_setThread⟩
    · cases taken
      exact ⟨_, none, .misses here, stepped_setThread⟩

theorem sending_trySend {id : ClientID} {outgoing : Outgoing}
    {rest : List Outgoing} (other : ClientID) :
    (sending (.trySend id rest) other).Sublist
      (sending (.trySend id (outgoing :: rest)) other) := by
  simp only [sending]
  split
  · exact List.sublist_cons_self outgoing rest
  · exact List.Sublist.refl _

theorem trySend_moves {id : ClientID} {outgoing : Outgoing}
    {rest : List Outgoing} {closed : Bool}
    (here : (system.thread t).place = .trySend id (outgoing :: rest))
    (taken : system.trySend t id outgoing rest closed = some next) :
    ∃ thread item, Moves setting system (system.thread t) thread item ∧
      Stepped system next t thread item := by
  unfold System.trySend at taken
  simp only at taken
  split at taken
  · cases taken
  · split at taken
    · cases taken
      exact
        ⟨_, some (id, outgoing), .queues here, rfl, rfl, rfl, rfl, rfl⟩
    · cases taken
      refine ⟨_, none, .goes ?_ rfl fun other => ?_, stepped_setThread⟩
      · rw [here]
        rfl
      · rw [here]
        exact sending_trySend other

theorem chooseReceiver_moves {pointer : MplxPtr} {taken : Taken}
    {rest : List (Option Taken)}
    (here : (system.thread t).place = .choosing pointer taken rest) :
    ∃ thread item, Moves setting system (system.thread t) thread item ∧
      Stepped system (system.chooseReceiver t pointer taken rest) t thread
        item := by
  unfold System.chooseReceiver
  cases chosen : (nextReceiverClientId (system.mplx pointer)
      (system.cursor pointer) taken.packet).1 with
  | none =>
      refine
        ⟨_, none, .skips (by rw [here]; rfl), rfl, rfl, rfl, ?_, rfl⟩
      simp only [chosen]
      rfl
  | some id =>
      refine ⟨_, none, .chooses here chosen, rfl, rfl, rfl, ?_, rfl⟩
      simp only [chosen]
      rfl

theorem threadStep_moves
    (taken : system.threadStep setting t action = some next) :
    ∃ thread item, Moves setting system (system.thread t) thread item ∧
      Stepped system next t thread item := by
  have goes {place : Place} (nothing : pending (system.thread t).place = [])
      (still : pending place = []) (none_ : ∀ id, sending place id = []) :
      ∃ thread item, Moves setting system (system.thread t) thread item ∧
        Stepped system
          (system.setThread t ((system.thread t).at_ place)) t thread
          item :=
    ⟨_, none, .goes nothing still fun id => by
      rw [none_ id]
      exact List.nil_sublist _, stepped_setThread⟩
  unfold System.threadStep at taken
  simp only at taken
  split at taken
  case h_1 packets here =>
    split at taken <;> cases taken
    exact ⟨_, none, .takes packets here, stepped_setThread⟩
  case h_2 here =>
    cases taken
    exact goes (by rw [here]; rfl) rfl fun _ => rfl
  case h_3 rest here =>
    cases taken
    exact ⟨_, none, .skips (by rw [here]; rfl), stepped_setThread⟩
  case h_4 first rest here =>
    have ahead : pending (system.thread t).place = some first :: rest := by
      rw [here]
      rfl
    split at taken
    · cases taken
      exact ⟨_, none, .skips ahead, stepped_setThread⟩
    · split at taken
      · cases taken
        exact ⟨_, none, .skips ahead, stepped_setThread⟩
      case h_2 pointer found =>
        cases taken
        exact ⟨_, none, .finds here found, stepped_setThread⟩
  case h_5 pointer first rest passes here =>
    split at taken
    · cases taken
      exact ⟨_, none, .admits here, stepped_setThread⟩
    · cases taken
      exact ⟨_, none, .skips (by rw [here]; rfl), stepped_setThread⟩
  case h_6 pointer first rest here =>
    cases taken
    exact chooseReceiver_moves here
  case h_7 pointer id first rest here =>
    split at taken
    case isTrue disabled =>
      cases taken
      exact
        ⟨_, none, .pushes (Or.inl here) (Or.inl ⟨disabled, rfl⟩),
          stepped_setThread⟩
    case isFalse =>
      cases taken
      exact ⟨_, none, .tests here, stepped_setThread⟩
  case h_8 pointer id first rest here =>
    split at taken
    · cases taken
      exact ⟨_, none, .skips (by rw [here]; rfl), stepped_setThread⟩
    case h_2 sent changed =>
      cases taken
      exact
        ⟨_, none, .pushes (Or.inr here) (Or.inr changed),
          stepped_setThread⟩
  case h_9 here =>
    split at taken <;> cases taken
    exact goes (by rw [here]; rfl) rfl fun _ => rfl
  case h_10 id here =>
    split at taken
    · cases taken
    case h_2 batch found => exact getSessionById_moves here found taken
  case h_11 id batch here =>
    split at taken
    · cases taken
      refine ⟨_, none, .goes ?_ rfl fun other => ?_, stepped_setThread⟩
      · rw [here]
        rfl
      · rw [here]
        exact List.Sublist.refl _
    · cases taken
      exact goes (by rw [here]; rfl) rfl fun _ => rfl
  case h_12 id here =>
    cases taken
    exact goes (by rw [here]; rfl) rfl fun _ => rfl
  case h_13 id outgoing rest closed here => exact trySend_moves here taken
  case h_14 => cases taken

end Steps

/-! ## The session of a packet -/

/-- The destination of the packet is the address of the session. -/
structure Addressed (setting : Setting) (mplx : ConnectionMultiplexer)
    (packet : IPPacket) : Prop where
  ipv4 : read isIPv4 packet = true →
    (Network.AddressRewrite.getDstIPv4Address packet.data
      setting.text).toInt = mplx.fakeClientIpv4.toInt
  ipv6 : read isIPv4 packet = false →
    (NatTable.Ipv6Keys.getDstIPv6Address setting.text setting.inetNtop
      packet.data).ip = mplx.fakeClientIpv6.ip

def Found (setting : Setting) (system : System) (pointer : MplxPtr)
    (packet : IPPacket) : Prop :=
  pointer < system.server.world.table.nextMplx ∧
    Addressed setting (system.mplx pointer) packet

/-- The session has been given to the client. -/
def Chosen (system : System) (pointer : MplxPtr) (id : ClientID) : Prop :=
  ∃ params, system.joins id = some (pointer, params)

/-- The packet was for the session of the client. -/
def Delivered (setting : Setting) (system : System) (id : ClientID)
    (outgoing : Outgoing) : Prop :=
  ∃ pointer params, system.joins id = some (pointer, params) ∧
    Addressed setting (system.mplx pointer) outgoing.taken.packet ∧
    Sent setting (system.mplx pointer) params id outgoing

/-- The session which a thread has found, and the client it has chosen. -/
def AtPlace (setting : Setting) (system : System) : Place → Prop
  | .limiting pointer taken _ | .choosing pointer taken _ =>
      Found setting system pointer taken.packet
  | .testing pointer id taken _ | .rewriting pointer id taken _ =>
      Found setting system pointer taken.packet ∧ Chosen system pointer id
  | _ => True

/-- All packets which a thread holds are for the sessions of the clients to
which it will send them. -/
structure Holding (setting : Setting) (system : System) (thread : Thread) :
    Prop where
  place : AtPlace setting system thread.place
  sending : ∀ id, ∀ outgoing ∈ sending thread.place id,
    Delivered setting system id outgoing
  batches : ∀ id batch, thread.batches.lookup id = some batch →
    ∀ outgoing ∈ batch, Delivered setting system id outgoing

section Holding

variable {setting : Setting} {system : System} {thread after : Thread}
  {item : Option (ClientID × Outgoing)} {pointer : MplxPtr}
  {id : ClientID} {packet : IPPacket} {outgoing : Outgoing}
  {ipv4 : List IPv4Address} {ipv6 : List IPv6Address}

theorem natSession_found
    (addresses : Addresses ipv4 ipv6 system.server.world.table)
    (found : system.natSession setting packet = some pointer) :
    Found setting system pointer packet := by
  unfold System.natSession at found
  simp only at found
  split at found
  case isTrue v4 =>
    obtain ⟨session, same⟩ :=
      (addresses.ipv4Leased.indexed _ pointer).mp found
    refine ⟨addresses.allocated pointer session, ⟨fun _ => same.symm, ?_⟩⟩
    intro notV4
    rw [v4] at notV4
    cases notV4
  case isFalse notV4 =>
    split at found
    case isTrue =>
      obtain ⟨session, same⟩ :=
        (addresses.ipv6Leased.indexed _ pointer).mp found
      exact
        ⟨addresses.allocated pointer session,
          ⟨fun v4 => absurd v4 notV4, fun _ => same.symm⟩⟩
    case isFalse => cases found

theorem nextReceiverClientId_mem {mplx : ConnectionMultiplexer}
    {cursor : UInt64}
    (chosen : (nextReceiverClientId mplx cursor packet).1 = some id) :
    ∃ connection ∈ mplx.buckets.receiving, connection.clientId = id := by
  unfold nextReceiverClientId at chosen
  simp only at chosen
  split at chosen
  · cases chosen
  · obtain ⟨connection, there, own⟩ := Option.map_eq_some_iff.mp chosen
    exact ⟨connection, List.mem_of_getElem? there, own⟩

theorem chosen_of_mem (recorded : Recorded system.joins system.server.world)
    {connection : ClientConnection}
    (member : connection ∈ (system.mplx pointer).buckets.receiving) :
    system.joins connection.clientId = some (pointer, connection.params) :=
  recorded.connections pointer connection (Or.inr member)

/-- The connection which is found when the addresses are changed is the
client's. -/
theorem leaves_sent (recorded : Recorded system.joins system.server.world)
    (found : Found setting system pointer outgoing.taken.packet)
    (chosen : Chosen system pointer id)
    (leaves : Leaves setting (system.mplx pointer) id outgoing) :
    Delivered setting system id outgoing := by
  rcases leaves with disabled | changed
  · obtain ⟨params, joined⟩ := chosen
    exact ⟨pointer, params, joined, found.2, Or.inl disabled⟩
  · obtain ⟨connection, there, sent⟩ := Option.map_eq_some_iff.mp changed
    have own : connection.clientId = id :=
      by
      simpa using List.find?_some there
    have joined :=
      chosen_of_mem recorded (List.mem_of_find?_eq_some there)
    rw [own] at joined
    exact
      ⟨pointer, connection.params, joined, found.2, Or.inr sent.symm⟩

theorem lookup_pushBack {batches : Batches} {other : ClientID}
    {batch : List Outgoing}
    (found : (pushBack id outgoing batches).lookup other = some batch) :
    batches.lookup other = some batch ∨
      other = id ∧
        batch = (batches.lookup id).getD [] ++ [outgoing] := by
  by_cases here : other = id
  · subst here
    rw [pushBack, AList.lookup_insert] at found
    exact Or.inr ⟨rfl, (Option.some.inj found).symm⟩
  · rw [pushBack, AList.lookup_insert_ne here] at found
    exact Or.inl found

theorem Holding.push (holding : Holding setting system thread)
    (delivered : Delivered setting system id outgoing)
    {rest : List (Option Taken)} :
    Holding setting system (thread.push id outgoing rest) where
  place := trivial
  sending _ _ nothing := (nomatch nothing)
  batches other batch found := by
    rcases lookup_pushBack found with old | ⟨rfl, rfl⟩
    · exact holding.batches other batch old
    · intro item member
      rcases List.mem_append.mp member with old | new
      · cases there : thread.batches.lookup other with
        | none =>
            rw [there] at old
            cases old
        | some batch =>
            rw [there] at old
            exact holding.batches other batch there item old
      · rw [List.mem_singleton.mp new]
        exact delivered

theorem Holding.erase (holding : Holding setting system thread) :
    ∀ other batch, (thread.batches.erase id).lookup other = some batch →
      ∀ outgoing ∈ batch, Delivered setting system other outgoing :=
  fun other batch found =>
    holding.batches other batch (lookup_erase_eq_some.mp found).2

theorem mem_sending {place : Place} {batch : List Outgoing}
    {other : ClientID}
    (here : place = .testRunning id batch ∨ place = .trySend id batch)
    (member : outgoing ∈ sending place other) :
    other = id ∧ outgoing ∈ batch := by
  rcases here with rfl | rfl
  all_goals
    simp only [sending] at member
    split at member
    case isTrue same => exact ⟨same.symm, member⟩
    case isFalse => cases member

/-- What a thread may hold at a place without a packet. -/
theorem atPlace_of_pending {place : Place}
    (nothing : pending place = []) : AtPlace setting system place := by
  cases place with
  | limiting | choosing | testing | rewriting => cases nothing
  | waiting | handling | delivering | testRunning | trySend => trivial

theorem moves_holding
    (addresses : Addresses ipv4 ipv6 system.server.world.table)
    (recorded : Recorded system.joins system.server.world)
    (holding : Holding setting system thread)
    (moves : Moves setting system thread after item) :
    Holding setting system after ∧
      ∀ id outgoing, item = some (id, outgoing) →
        Delivered setting system id outgoing := by
  cases moves with
  | takes | skips =>
      exact
        ⟨⟨trivial, fun _ _ nothing => (nomatch nothing), holding.batches⟩,
          fun _ _ nothing => (nomatch nothing)⟩
  | finds _ found =>
      exact
        ⟨⟨natSession_found addresses found,
          fun _ _ nothing => (nomatch nothing), holding.batches⟩,
          fun _ _ nothing => (nomatch nothing)⟩
  | admits here =>
      have place := holding.place
      rw [here] at place
      exact
        ⟨⟨place, fun _ _ nothing => (nomatch nothing), holding.batches⟩,
          fun _ _ nothing => (nomatch nothing)⟩
  | chooses here chosen =>
      have place := holding.place
      rw [here] at place
      obtain ⟨connection, member, rfl⟩ := nextReceiverClientId_mem chosen
      exact
        ⟨⟨⟨place, connection.params, chosen_of_mem recorded member⟩,
          fun _ _ nothing => (nomatch nothing), holding.batches⟩,
          fun _ _ nothing => (nomatch nothing)⟩
  | tests here =>
      have place := holding.place
      rw [here] at place
      exact
        ⟨⟨place, fun _ _ nothing => (nomatch nothing), holding.batches⟩,
          fun _ _ nothing => (nomatch nothing)⟩
  | @pushes pointer id outgoing rest here leaves =>
      have both : Found setting system pointer outgoing.taken.packet ∧
          Chosen system pointer id := by
        have place := holding.place
        rcases here with here | here
        · rw [here] at place
          exact place
        · rw [here] at place
          exact place
      exact
        ⟨holding.push (leaves_sent recorded both.1 both.2 leaves),
          fun _ _ nothing => (nomatch nothing)⟩
  | goes nothing still fewer =>
      exact
        ⟨⟨atPlace_of_pending still,
          fun id outgoing member =>
            holding.sending id outgoing ((fewer id).subset member),
          holding.batches⟩, fun _ _ nothing => (nomatch nothing)⟩
  | visits here found =>
      refine ⟨⟨trivial, fun other outgoing member => ?_, holding.erase⟩,
        fun _ _ nothing => (nomatch nothing)⟩
      obtain ⟨rfl, inside⟩ := mem_sending (Or.inl rfl) member
      exact holding.batches other _ found outgoing inside
  | misses here =>
      exact
        ⟨⟨holding.place, holding.sending, holding.erase⟩,
          fun _ _ nothing => (nomatch nothing)⟩
  | @queues id outgoing rest here =>
      have before : sending thread.place id = outgoing :: rest := by
        rw [here]
        exact if_pos rfl
      refine ⟨⟨trivial, fun other item member => ?_, holding.batches⟩,
        fun other item same => ?_⟩
      · obtain ⟨rfl, inside⟩ := mem_sending (Or.inr rfl) member
        refine holding.sending other item ?_
        rw [before]
        exact List.mem_cons_of_mem _ inside
      · cases same
        refine holding.sending id outgoing ?_
        rw [before]
        exact List.mem_cons_self

end Holding

/-! ## Steps of the server -/

/-- What is known of a session and of a client stays so. -/
structure Later (before after : System) : Prop where
  joins : ∀ id joined, before.joins id = some joined →
    after.joins id = some joined
  nextMplx :
    before.server.world.table.nextMplx ≤ after.server.world.table.nextMplx
  session : ∀ pointer < before.server.world.table.nextMplx,
    SameSession (after.mplx pointer) (before.mplx pointer)
  disabled : ∀ pointer < before.server.world.table.nextMplx,
    (before.mplx pointer).disableChecksumCalculation = true →
      (after.mplx pointer).disableChecksumCalculation = true

/-- Users for whom a connection is opened have come with a token. -/
structure Validated (config : Config) (system : System) : Prop where
  opening : ∀ id open_ username,
    asUser (system.server.session id).run = some (open_, username) →
      config.validate open_.jwtAuthToken = some username
  joined : ∀ id pointer params, system.joins id = some (pointer, params) →
    ∃ token, config.validate token = some params.user.username

/-- The server and the record of its clients are as they should be. -/
structure Sound (setting : Setting) (ipv4 : List IPv4Address)
    (ipv6 : List IPv6Address) (system : System) : Prop where
  table : NatTable.TableInvariant.Invariant ipv4 ipv6 system.server.world
  unused : Unused system.server
  recorded : Recorded system.joins system.server.world
  validated : Validated setting.config system

section Server

variable {setting : Setting} {system : System} {server : Server}
  {label : Server.Label} {ipv4 : List IPv4Address}
  {ipv6 : List IPv6Address} {clock : Nat → Int} {world next : World}
  {pointer : MplxPtr}

/-- A flag which has been set stays set, unless a step resets it. -/
theorem step_disabled {label : NatTable.SessionTable.Label}
    (taken : NatTable.SessionTable.step clock world label = some next)
    (sets : ∀ pointer value,
      label = .disableChecksumCalculation pointer value → value = true)
    (made : pointer < world.table.nextMplx)
    (disabled :
      (world.table.heap pointer).disableChecksumCalculation = true) :
    (next.table.heap pointer).disableChecksumCalculation = true := by
  have effect := step_effect taken
  generalize next.table = after at effect ⊢
  cases effect with
  | keeps keeps =>
      rw [(keeps.heap pointer).disableChecksumCalculation, disabled]
  | opens =>
      rw [openSession_heap_of_ne (Nat.ne_of_lt made), disabled]
  | @disables other value =>
      by_cases here : pointer = other
      · subst here
        simp only [Table.disableChecksumCalculation, Function.update_self]
        exact sets pointer value rfl
      · simp only [Table.disableChecksumCalculation,
          Function.update_of_ne here, disabled]

/-- The server only sets flags. -/
theorem tableLabel_sets {server : Server} {pointer : MplxPtr} {value : Bool}
    (disables : tableLabel server label =
      some (.disableChecksumCalculation pointer value)) :
    value = true := by
  unfold tableLabel at disables
  repeat' split at disables
  all_goals cases disables
  rfl

theorem later_of_table (monotone : Monotone setting.config.clock)
    (pools : CanonicalPools setting.text ipv4 ipv6)
    (sound : Sound setting ipv4 ipv6 system)
    (taken : system.server.step setting.config label = some server) :
    let after := {
      system with
      server := server
      joins := note system.joins (system.serverAnswer setting label) }
    Later system after ∧
      NatTable.TableInvariant.Invariant ipv4 ipv6 after.server.world ∧
        Recorded after.joins after.server.world := by
  have stepped := step_world sound.unused taken
  simp only [System.serverAnswer]
  cases here : tableLabel system.server label with
  | none =>
      rw [here] at stepped
      have same : server.world = system.server.world := stepped
      refine
        ⟨⟨fun _ _ known => known, ?_, fun _ _ => ?_, fun _ _ => ?_⟩, ?_, ?_⟩
      all_goals simp only [System.mplx, same, Option.bind_none, note]
      · exact Nat.le_refl _
      · exact .refl _
      · exact fun disabled => disabled
      · exact sound.table
      · exact sound.recorded
  | some tableStep =>
      rw [here] at stepped
      replace stepped : NatTable.SessionTable.step setting.config.clock
          system.server.world tableStep = some server.world := stepped
      have addresses := sound.table.addresses
      have grows := step_grows addresses stepped
      obtain ⟨recorded, kept⟩ :=
        step_recorded addresses sound.recorded stepped
      refine ⟨⟨kept, grows.nextMplx, grows.session, fun pointer made =>
        step_disabled stepped (fun other value same => ?_) made⟩, ?_,
        recorded⟩
      · exact tableLabel_sets (here.trans (congrArg some same))
      · exact
          step_invariant monotone pools.ipv4Keys pools.ipv6Keys
            sound.table stepped

/-- `AddConnection` is called for a user only who has been validated. -/
theorem serverAnswer_validated
    (validated : Validated setting.config system) {joined : Joined}
    (answered : system.serverAnswer setting label = some joined) :
    ∃ token,
      setting.config.validate token = some joined.2.user.username := by
  obtain ⟨tableStep, here, added⟩ := Option.bind_eq_some_iff.mp answered
  cases tableStep with
  | addConnection params =>
      obtain ⟨pointer, -, rfl⟩ := Option.map_eq_some_iff.mp added
      obtain ⟨open_, username, -, opening, made⟩ :=
        tableLabel_addConnection here
      refine ⟨open_.jwtAuthToken, ?_⟩
      have user : params.user.username = username := by
        rw [made]
        rfl
      simp only [user]
      refine validated.opening params.clientId open_ username ?_
      rw [opening]
      rfl
  | delConnectionByClientId | disableChecksumCalculation | beginUpdate
  | finishUpdate => cases added

theorem step_opening (unused : Unused system.server)
    (validated : Validated setting.config system)
    (taken : system.server.step setting.config label = some server)
    {id : ClientID} {open_ : OpenRequest} {username : String}
    (found : asUser (server.session id).run = some (open_, username)) :
    setting.config.validate open_.jwtAuthToken = some username := by
  by_cases checking :
      ∃ other, checksToken system.server label = some (id, other)
  · obtain ⟨other, checks⟩ := checking
    obtain ⟨rfl, here⟩ := checksToken_eq_some.mp checks
    simp only [Server.step] at taken
    split at taken
    case isFalse => cases taken
    case isTrue =>
      rw [checkStep_asUser here taken] at found
      split at found
      case isFalse => cases found
      case isTrue =>
        obtain ⟨_, accepted, same⟩ := Option.map_eq_some_iff.mp found
        obtain ⟨rfl, rfl⟩ := Prod.mk.inj same
        exact accepted
  · refine validated.opening id open_ username ?_
    exact
      step_asUser unused (fun other checks => checking ⟨other, checks⟩)
        taken found

/-- A step of the server keeps what is known, and the invariant. -/
theorem server_sound (monotone : Monotone setting.config.clock)
    (pools : CanonicalPools setting.text ipv4 ipv6)
    (sound : Sound setting ipv4 ipv6 system)
    (taken : system.server.step setting.config label = some server) :
    let after := {
      system with
      server := server
      joins := note system.joins (system.serverAnswer setting label) }
    Later system after ∧ Sound setting ipv4 ipv6 after := by
  obtain ⟨later, table, recorded⟩ :=
    later_of_table monotone pools sound taken
  refine ⟨later, table, Web.SessionMoves.step_unused sound.unused taken,
    recorded, fun id open_ username found => ?_,
    fun id pointer params noted => ?_⟩
  · exact step_opening sound.unused sound.validated taken found
  · rcases note_eq_some noted with old | ⟨answered, -⟩
    · exact sound.validated.joined id pointer params old
    · exact serverAnswer_validated sound.validated answered

end Server

section Later

variable {setting : Setting} {before after : System} {pointer : MplxPtr}
  {id : ClientID} {packet : IPPacket} {outgoing : Outgoing}

theorem Later.trans {final : System} (first : Later before after)
    (second : Later after final) : Later before final where
  joins id joined known := second.joins id joined (first.joins id joined known)
  nextMplx := Nat.le_trans first.nextMplx second.nextMplx
  session pointer made :=
    (second.session pointer (Nat.lt_of_lt_of_le made first.nextMplx)).trans
      (first.session pointer made)
  disabled pointer made flag :=
    second.disabled pointer (Nat.lt_of_lt_of_le made first.nextMplx)
      (first.disabled pointer made flag)

theorem Later.addressed (later : Later before after)
    (made : pointer < before.server.world.table.nextMplx)
    (addressed : Addressed setting (before.mplx pointer) packet) :
    Addressed setting (after.mplx pointer) packet := by
  have same := later.session pointer made
  refine ⟨fun v4 => ?_, fun notV4 => ?_⟩
  · rw [same.fakeClientIpv4]
    exact addressed.ipv4 v4
  · rw [same.fakeClientIpv6]
    exact addressed.ipv6 notV4

theorem Later.found (later : Later before after)
    (found : Found setting before pointer packet) :
    Found setting after pointer packet :=
  ⟨Nat.lt_of_lt_of_le found.1 later.nextMplx,
    later.addressed found.1 found.2⟩

theorem Later.chosen (later : Later before after)
    (chosen : Chosen before pointer id) : Chosen after pointer id :=
  chosen.imp fun _ => later.joins id _

theorem Later.delivered (later : Later before after)
    (recorded : Recorded before.joins before.server.world)
    (delivered : Delivered setting before id outgoing) :
    Delivered setting after id outgoing := by
  obtain ⟨pointer, params, joined, addressed, sent⟩ := delivered
  have made := (recorded.entered id pointer params joined).2.1
  exact
    ⟨pointer, params, later.joins id _ joined,
      later.addressed made addressed,
      sent.imp_left fun disabled =>
        ⟨later.disabled pointer made disabled.1, disabled.2⟩⟩

theorem Later.holding (later : Later before after)
    (recorded : Recorded before.joins before.server.world)
    {thread : Thread} (holding : Holding setting before thread) :
    Holding setting after thread where
  place := by
    have place := holding.place
    cases here : thread.place with
    | limiting | choosing =>
        rw [here] at place
        exact later.found place
    | testing | rewriting =>
        rw [here] at place
        exact ⟨later.found place.1, later.chosen place.2⟩
    | waiting | handling | delivering | testRunning | trySend => trivial
  sending id outgoing member :=
    later.delivered recorded (holding.sending id outgoing member)
  batches id batch found outgoing member :=
    later.delivered recorded (holding.batches id batch found outgoing member)

/-- The server has not made a step. -/
theorem later_of_same (server : after.server = before.server)
    (joins : after.joins = before.joins) : Later before after := by
  refine ⟨fun id joined known => ?_, ?_, fun pointer _ => ?_,
    fun pointer _ disabled => ?_⟩
  · rw [joins, known]
  · rw [server]
  · rw [System.mplx, System.mplx, server]
    exact .refl _
  · rw [System.mplx, server]
    exact disabled

theorem sound_of_same {ipv4 : List IPv4Address} {ipv6 : List IPv6Address}
    (server : after.server = before.server)
    (joins : after.joins = before.joins)
    (sound : Sound setting ipv4 ipv6 before) :
    Sound setting ipv4 ipv6 after := by
  obtain ⟨table, unused, recorded, opening, joined⟩ := sound
  rw [← server] at table unused recorded
  rw [← joins] at recorded
  refine ⟨table, unused, recorded, ?_, ?_⟩
  · rw [server]
    exact opening
  · rw [joins]
    exact joined

end Later

/-! ## Runs -/

/-- Whatever a thread holds and whatever is queued is for its client. -/
structure Invariant (setting : Setting) (ipv4 : List IPv4Address)
    (ipv6 : List IPv6Address) (system : System) : Prop where
  sound : Sound setting ipv4 ipv6 system
  threads : ∀ t, Holding setting system (system.thread t)
  channels : ∀ id, ∀ entry ∈ system.received id ++ system.writeChannel id,
    Delivered setting system id entry.2

section Runs

variable {setting : Setting} {system next : System} {t : ThreadId}
  {ipv4 : List IPv4Address} {ipv6 : List IPv6Address}

theorem mem_queued {channel : ClientID → List (ThreadId × Outgoing)}
    {item : Option (ClientID × Outgoing)} {id : ClientID}
    {entry : ThreadId × Outgoing} :
    entry ∈ queued t channel item id ↔
      entry ∈ channel id ∨ item = some (id, entry.2) ∧ entry.1 = t := by
  cases item with
  | none => simp [queued]
  | some latest =>
      obtain ⟨other, outgoing⟩ := latest
      obtain ⟨thread, sent⟩ := entry
      by_cases here : id = other
      · subst here
        simp only [queued, Function.update_self, List.mem_append,
          List.mem_singleton, Prod.mk.injEq, Option.some.injEq, true_and]
        tauto
      · have different : other ≠ id := fun same => here same.symm
        simp [queued, here, different]

theorem stepped_invariant {thread : Thread}
    {item : Option (ClientID × Outgoing)}
    (invariant : Invariant setting ipv4 ipv6 system)
    (moves : Moves setting system (system.thread t) thread item)
    (stepped : Stepped system next t thread item) :
    Invariant setting ipv4 ipv6 next := by
  obtain ⟨sound, threads, channels⟩ := invariant
  have later := later_of_same stepped.server stepped.joins
  obtain ⟨holding, leaves⟩ :=
    moves_holding sound.table.addresses sound.recorded (threads t) moves
  refine ⟨sound_of_same stepped.server stepped.joins sound,
    fun other => later.holding sound.recorded ?_, fun id entry member =>
      later.delivered sound.recorded ?_⟩
  · rw [stepped.thread]
    by_cases here : other = t
    · subst here
      rw [Function.update_self]
      exact holding
    · rw [Function.update_of_ne here]
      exact threads other
  · rw [stepped.received, stepped.writeChannel, List.mem_append,
      mem_queued] at member
    rcases member with old | old | ⟨new, -⟩
    · exact channels id entry (List.mem_append_left _ old)
    · exact channels id entry (List.mem_append_right _ old)
    · exact leaves id entry.2 new

/-- The channel and what has been received of it. -/
theorem receive_channel {id : ClientID}
    (taken : system.step setting (.receive id) = some next) :
    next.server = system.server ∧ next.joins = system.joins ∧
      next.thread = system.thread ∧
      ∀ other, next.received other ++ next.writeChannel other =
        system.received other ++ system.writeChannel other := by
  simp only [System.step] at taken
  split at taken
  · cases taken
  case h_2 outgoing rest here =>
    cases taken
    refine ⟨rfl, rfl, rfl, fun other => ?_⟩
    by_cases same : other = id
    · subst same
      simp [here]
    · simp [same]

theorem step_delivers (monotone : Monotone setting.config.clock)
    (pools : CanonicalPools setting.text ipv4 ipv6)
    {label : ToClient.Label}
    (invariant : Invariant setting ipv4 ipv6 system)
    (taken : system.step setting label = some next) :
    Invariant setting ipv4 ipv6 next := by
  obtain ⟨sound, threads, channels⟩ := invariant
  cases label with
  | server label =>
      obtain ⟨server, served, rfl⟩ := Option.map_eq_some_iff.mp taken
      obtain ⟨later, soundThen⟩ :=
        server_sound monotone pools sound served
      exact
        ⟨soundThen,
          fun t => later.holding sound.recorded (threads t),
          fun id entry member =>
            later.delivered sound.recorded (channels id entry member)⟩
  | thread t action =>
      obtain ⟨thread, item, moves, stepped⟩ := threadStep_moves taken
      exact stepped_invariant ⟨sound, threads, channels⟩ moves stepped
  | receive id =>
      obtain ⟨server, joins, thread, channel⟩ := receive_channel taken
      have later := later_of_same server joins
      refine ⟨sound_of_same server joins sound, fun t => ?_,
        fun other entry member => ?_⟩
      · rw [thread]
        exact later.holding sound.recorded (threads t)
      · rw [channel] at member
        exact
          later.delivered sound.recorded (channels other entry member)

theorem start_delivers :
    Invariant setting ipv4 ipv6 (System.start (World.start ipv4 ipv6)) where
  sound := {
    table := start_invariant
    unused := fun _ _ member => (nomatch member)
    recorded := start_recorded
    validated := {
      opening := fun _ _ _ nothing => (nomatch nothing)
      joined := fun _ _ _ nothing => (nomatch nothing) } }
  threads t := {
    place := trivial
    sending := fun _ _ nothing => (nomatch nothing)
    batches := fun id batch found => by
      simp [System.start, Thread.start] at found }
  channels _ _ nothing := (nomatch nothing)

theorem reached_delivers (monotone : Monotone setting.config.clock)
    (pools : CanonicalPools setting.text ipv4 ipv6)
    {labels : List ToClient.Label}
    (reached : run (System.step setting)
      (System.start (World.start ipv4 ipv6)) labels = some system) :
    Invariant setting ipv4 ipv6 system :=
  run_invariant
    (fun _ _ _ invariant taken =>
      step_delivers monotone pools invariant taken)
    start_delivers reached

end Runs

/-- Each packet which has come to the channel of a client was for the session
which `AddConnection` has given to this client.  The user of the session is
the client's own, for whom it has shown a token, and the packet has been
changed, if at all, to the addresses which the client itself has asked for. -/
theorem delivered_to_session (setting : Setting) (ipv4 : List IPv4Address)
    (ipv6 : List IPv6Address)
    (pools : CanonicalPools setting.text ipv4 ipv6)
    (monotone : Monotone setting.config.clock)
    (labels : List ToClient.Label) (system : System)
    (reached : run (System.step setting)
      (System.start (World.start ipv4 ipv6)) labels = some system)
    (id : ClientID) (entry : ThreadId × Outgoing)
    (sent : entry ∈ system.received id ++ system.writeChannel id) :
    ∃ pointer params,
      system.joins id = some (pointer, params) ∧ params.clientId = id ∧
        params.user.username = (system.mplx pointer).username ∧
        (∃ token,
          setting.config.validate token = some params.user.username) ∧
        Addressed setting (system.mplx pointer) entry.2.taken.packet ∧
        Sent setting (system.mplx pointer) params id entry.2 := by
  obtain ⟨sound, -, channels⟩ := reached_delivers monotone pools reached
  obtain ⟨pointer, params, joined, addressed, changed⟩ :=
    channels id entry sent
  obtain ⟨own, -, user, -⟩ :=
    sound.recorded.entered id pointer params joined
  exact
    ⟨pointer, params, joined, own, user,
      sound.validated.joined id pointer params joined, addressed, changed⟩

def plainSetting : Setting where
  text := plainText
  inetNtop bytes :=
    plainText.toStringV6 (NatTable.Ipv6Keys.addressOfBytes bytes)
  config := oneUser

/-- A UDP packet to the first address of the pool. -/
def answerPacket : IPPacketData where
  size := 28
  memory offset :=
    [0x45, 0, 0, 28, 0, 0, 0, 0, 64, 17, 0, 0, 8, 8, 8, 8, 10, 0, 0, 2,
      0, 53, 0, 53, 0, 8, 0, 0].getD offset 0

/-- A client connects, and a thread delivers the packet to it. -/
def deliversAnswer : List ToClient.Label :=
  (connects false).map .server ++
    [.thread 0 (.waitForPackets [some ⟨answerPacket, 0⟩]),
      .thread 0 .proceed, .thread 0 (.checkSpeedLimit true),
      .thread 0 .proceed, .thread 0 .proceed, .thread 0 .proceed,
      .thread 0 .proceed, .thread 0 (.getSessionById 1),
      .thread 0 .proceed, .thread 0 (.trySend false)]

theorem onePool_canonical :
    CanonicalPools plainText [IPv4Address.ofValue plainText 0x0A000002]
      [wholeIPv6 2] := by
  constructor
  · exact fun ip member => ⟨_, List.mem_singleton.mp member⟩
  · exact fun ip member => ⟨_, List.mem_singleton.mp member⟩
  · exact List.nodup_singleton _
  · exact List.nodup_singleton _

theorem oneUser_monotone : Monotone oneUser.clock :=
  fun _ _ ordered => Int.ofNat_le.mpr ordered

theorem delivered_to_session_answer :
    ∃ system entry,
      run (System.step plainSetting) (System.start onePool)
          deliversAnswer = some system ∧
        system.writeChannel 1 = [entry] ∧
        ∃ pointer params,
          system.joins 1 = some (pointer, params) ∧
            Sent plainSetting (system.mplx pointer) params 1 entry.2 := by
  have taken : (run (System.step plainSetting) (System.start onePool)
      deliversAnswer).map (fun system => (system.writeChannel 1).length) =
        some 1 := by
    decide +kernel
  obtain ⟨system, reached, found⟩ := Option.map_eq_some_iff.mp taken
  obtain ⟨entry, channel⟩ := List.length_eq_one_iff.mp found
  obtain ⟨pointer, params, joined, -, -, -, -, changed⟩ :=
    delivered_to_session plainSetting _ _ onePool_canonical
      oneUser_monotone deliversAnswer system reached 1 entry
      (by rw [channel]; exact List.mem_append_right _ List.mem_cons_self)
  exact ⟨system, entry, reached, channel, pointer, params, joined, changed⟩

end Fptn.Vpn.Delivery
