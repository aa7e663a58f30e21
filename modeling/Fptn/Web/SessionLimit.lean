import Fptn.Web.SessionMoves
import Mathlib.Data.Finset.Card

/-!
# The session limit

`HandleWsOpenConnection` refuses a user who has more sessions than allowed,
not one who has just as many; and it asks before it locks the mutex under
which it adds the connection.  What a user may come to have are the sessions
which there are and those asked for by openings which are past the limit and
have not been added yet.  The limit is kept as long as nobody passes it for
whom there is no room among these.
-/

namespace Fptn.Web.SessionLimit

open Fptn.PartialRun
open Fptn.UnorderedMap (lookup_eq_some lookup_insert_eq_some mem_values
  values)
open Fptn.NatTable.Multiplexer
open Fptn.NatTable.SessionTable
open Fptn.NatTable.SessionCount
open Fptn.NatTable.TableInvariant (guest)
open Fptn.Network.IPAddress
open Fptn.Web.WebServer
open Fptn.Web.SessionMoves

/-- No user has more sessions than allowed. -/
def WithinLimit (config : Config) (server : Server) : Prop :=
  ∀ username,
    server.world.table.getNumberActiveSessionByUsername username ≤
      config.maxActiveSessionsPerUser

/-! ## Places which are taken -/

/-- The ids of the sessions of a user. -/
def sessionIds (table : Table) (username : String) : List String :=
  (table.sessionToMplx.entries.filter fun entry =>
    (table.heap entry.2).username == username).map Sigma.fst

/-- An opening between its test of the limit and `AddConnection`. -/
def passed : RunPlace → Option (OpenRequest × String)
  | .openLock open_ username | .openAdd open_ username =>
      some (open_, username)
  | _ => none

/-- The ids of the sessions which such openings of a user ask for. -/
def pendingIds (server : Server) (username : String) : List String :=
  server.clients.filterMap fun id =>
    (passed (server.session id).run).bind fun (open_, name) =>
      if name = username then some open_.params.request.sessionId else none

/-- The sessions which a user may come to have, if nobody else passes the
limit. -/
def claimed (server : Server) (username : String) : Finset String :=
  (sessionIds server.world.table username ++
    pendingIds server username).toFinset

/-- The opening which a step lets pass the limit. -/
def passing (config : Config) (server : Server) :
    Server.Label → Option (OpenRequest × String)
  | .run id .proceed =>
      match (server.session id).run with
      | .openCount open_ username =>
          if config.maxActiveSessionsPerUser <
              server.world.table.getNumberActiveSessionByUsername
                username then
            none
          else
            some (open_, username)
      | _ => none
  | _ => none

/-- Whoever passes the limit asks for a session for which there is room, or
for one which has been counted already. -/
def LeavesRoom (config : Config) (server : Server) (label : Server.Label) :
    Prop :=
  ∀ asks ∈ passing config server label,
    (insert asks.1.params.request.sessionId
        (claimed server asks.2)).card ≤
      config.maxActiveSessionsPerUser

/-- Whoever passes the limit finds so many openings of the same user, at most,
between the limit and `AddConnection`. -/
def Overlaps (others : Nat) (config : Config) (server : Server)
    (label : Server.Label) : Prop :=
  ∀ asks ∈ passing config server label,
    (pendingIds server asks.2).length ≤ others

instance (config : Config) (server : Server) (label : Server.Label) :
    Decidable (LeavesRoom config server label) :=
  inferInstanceAs (Decidable (∀ asks ∈ passing config server label, _))

instance (others : Nat) (config : Config) (server : Server)
    (label : Server.Label) :
    Decidable (Overlaps others config server label) :=
  inferInstanceAs (Decidable (∀ asks ∈ passing config server label, _))

section Claimed

variable {server : Server} {table : Table} {username sessionId : String}

theorem mem_sessionIds :
    sessionId ∈ sessionIds table username ↔
      ∃ pointer, table.sessionToMplx.lookup sessionId = some pointer ∧
        (table.heap pointer).username = username := by
  simp only [sessionIds, List.mem_map, List.mem_filter, beq_iff_eq,
    lookup_eq_some]
  constructor
  · rintro ⟨⟨key, pointer⟩, ⟨member, user⟩, rfl⟩
    exact ⟨pointer, member, user⟩
  · rintro ⟨pointer, member, user⟩
    exact ⟨⟨sessionId, pointer⟩, ⟨member, user⟩, rfl⟩

theorem mem_pendingIds :
    sessionId ∈ pendingIds server username ↔
      ∃ id ∈ server.clients, ∃ open_,
        passed (server.session id).run = some (open_, username) ∧
          open_.params.request.sessionId = sessionId := by
  simp only [pendingIds, List.mem_filterMap, Option.bind_eq_some_iff]
  refine exists_congr fun id => and_congr_right fun _ => ?_
  constructor
  · rintro ⟨⟨open_, name⟩, here, named⟩
    split at named
    case isTrue same =>
      subst same
      exact ⟨open_, here, Option.some.inj named⟩
    case isFalse => cases named
  · rintro ⟨open_, here, rfl⟩
    exact ⟨(open_, username), here, if_pos rfl⟩

theorem mem_claimed :
    sessionId ∈ claimed server username ↔
      sessionId ∈ sessionIds server.world.table username ∨
        sessionId ∈ pendingIds server username := by
  rw [claimed, List.mem_toFinset, List.mem_append]

/-- Sessions have different ids. -/
theorem nodup_sessionIds : (sessionIds table username).Nodup :=
  List.Sublist.nodup (List.Sublist.map _ List.filter_sublist)
    table.sessionToMplx.nodupKeys

theorem length_sessionIds :
    (sessionIds table username).length =
      table.getNumberActiveSessionByUsername username := by
  rw [sessionIds, List.length_map, ← List.countP_eq_length_filter,
    Table.getNumberActiveSessionByUsername, Table.sessions, values,
    List.countP_map]
  rfl

theorem count_le_claimed :
    server.world.table.getNumberActiveSessionByUsername username ≤
      (claimed server username).card := by
  rw [← length_sessionIds, ← List.toFinset_card_of_nodup nodup_sessionIds]
  refine Finset.card_le_card fun sessionId member => ?_
  exact mem_claimed.mpr (Or.inl (List.mem_toFinset.mp member))

theorem claimed_le :
    (claimed server username).card ≤
      server.world.table.getNumberActiveSessionByUsername username +
        (pendingIds server username).length := by
  calc (claimed server username).card
      ≤ (sessionIds server.world.table username ++
          pendingIds server username).length :=
        List.toFinset_card_le _
    _ = _ := by rw [List.length_append, length_sessionIds]

end Claimed

variable {config : Config} {server next : Server} {label : Server.Label}
  {username sessionId : String}

/-! ## Steps -/

/-- Sessions are allocated first, ids are used once, and clients begin when
they are accepted. -/
structure Counted (server : Server) : Prop where
  allocated : Allocated server.world.table
  unused : Unused server
  unstarted : Unstarted server

/-- A connection is added, or no session comes in. -/
theorem step_adds (unused : Unused server)
    (taken : server.step config label = some next) :
    (∃ params, tableLabel server label = some (.addConnection params) ∧
        next.world.table =
          (server.world.table.addConnection params config.clock
            server.world.tick).1) ∨
      ((∀ params,
          tableLabel server label ≠ some (.addConnection params)) ∧
        NoNewSession server.world.table next.world.table) := by
  have stepped := step_world unused taken
  cases adds : tableLabel server label with
  | none =>
      rw [adds] at stepped
      rw [show next.world = server.world from stepped]
      exact Or.inr ⟨(fun _ other => nomatch other), NoNewSession.refl⟩
  | some tableStep =>
      rw [adds] at stepped
      by_cases adding : ∃ params, tableStep = .addConnection params
      · obtain ⟨params, rfl⟩ := adding
        refine Or.inl ⟨params, rfl, ?_⟩
        simp only [TableSteps, NatTable.SessionTable.step] at stepped
        split at stepped
        · cases stepped
        · rw [← Option.some.inj stepped]
      · have notAdding (params : ConnectParams)
            (same : some tableStep = some (.addConnection params)) : False :=
          adding ⟨params, Option.some.inj same⟩
        exact
          Or.inr
            ⟨notAdding,
              step_noNewSession (fun params same =>
                adding ⟨params, same⟩) stepped⟩

theorem step_counted (counted : Counted server)
    (taken : server.step config label = some next) :
    Counted next where
  allocated := by
    rcases step_adds counted.unused taken with ⟨params, -, table⟩ |
      ⟨-, noNew⟩
    · rw [table]
      exact addConnection_allocated counted.allocated
    · exact noNew.allocated counted.allocated
  unused := step_unused counted.unused taken
  unstarted := step_unstarted counted.unused counted.unstarted taken

/-- `AddConnection` opens no session but the one which it is asked for. -/
theorem addConnection_sessionIds {table : Table} {params : ConnectParams}
    {clock : Nat → Int} {tick : Nat} (allocated : Allocated table)
    (member : sessionId ∈
      sessionIds (table.addConnection params clock tick).1 username) :
    sessionId ∈ sessionIds table username ∨
      sessionId = params.request.sessionId ∧
        params.user.username = username := by
  obtain ⟨pointer, found, user⟩ := mem_sessionIds.mp member
  by_cases opens : OpensSession table params
  · obtain ⟨fakeIpv4, fakeIpv6, opened⟩ :=
      addConnection_eq_openSession opens
    rw [opened] at found user
    rcases (lookup_insert_eq_some opens.1).mp found with
      ⟨same, here⟩ | before
    · refine Or.inr ⟨same, ?_⟩
      rw [← user, here]
      simp only [Table.openSession, Function.update_self]
      rfl
    · have old : pointer ≠ table.nextMplx :=
        Nat.ne_of_lt (allocated pointer (mem_values.mpr ⟨_, before⟩))
      refine Or.inl (mem_sessionIds.mpr ⟨pointer, before, ?_⟩)
      rw [← user]
      simp only [Table.openSession, Function.update_of_ne old]
  · have noNew :=
      @addConnection_noNewSession table clock tick params opens
    obtain ⟨before, same⟩ := noNew.lookup found
    exact
      Or.inl (mem_sessionIds.mpr ⟨pointer, before, same.symm.trans user⟩)

theorem step_sessionIds (counted : Counted server)
    (taken : server.step config label = some next)
    (member : sessionId ∈ sessionIds next.world.table username) :
    sessionId ∈ claimed server username := by
  rcases step_adds counted.unused taken with ⟨params, adds, table⟩ |
    ⟨-, noNew⟩
  · rw [table] at member
    rcases addConnection_sessionIds counted.allocated member with
      before | ⟨rfl, rfl⟩
    · exact mem_claimed.mpr (Or.inl before)
    · obtain ⟨open_, username, rfl, here, same⟩ :=
        tableLabel_addConnection adds
      have client : params.clientId ∈ server.clients := by
        by_contra notClient
        have fresh := (counted.unstarted _ notClient).1
        cases fresh.symm.trans here
      refine
        mem_claimed.mpr
          (Or.inr (mem_pendingIds.mpr ⟨_, client, open_, ?_, ?_⟩))
      · rw [here, same]
        rfl
      · rw [same]
        rfl
  · obtain ⟨pointer, found, user⟩ := mem_sessionIds.mp member
    obtain ⟨before, same⟩ := noNew.lookup found
    exact
      mem_claimed.mpr
        (Or.inl
          (mem_sessionIds.mpr ⟨pointer, before, same.symm.trans user⟩))

/-- An opening gets past the limit in one step. -/
theorem moves_passed {id : ClientID} {after : View} {open_ : OpenRequest}
    (moves : Moves config server id label after)
    (here : passed after.session.run = some (open_, username)) :
    passed (server.session id).run = some (open_, username) ∨
      passing config server label = some (open_, username) := by
  cases moves with
  | rests | readerLeaves | senderLeaves | callsBack | skipsCallback
  | testsServer | skipsErase | erased | forgotten | sweeperFinds
  | stopClears => exact Or.inl here
  | @advances _ place _ _ _ notLocking locked =>
      left
      cases place with
      | openLock other name => exact absurd rfl (notLocking other name)
      | openAdd other name =>
          rw [locked other name rfl]
          exact here
      | accepting | openTest | openValidate | openCount | openInsert
      | disableChecksum | setOpened | serving | closing | finished =>
          cases here
  | @passesLimit other name place below =>
      obtain ⟨rfl, rfl⟩ := Prod.mk.inj (Option.some.inj here)
      right
      simp only [passing, place, if_neg below]
  | @inserted _ _ _ _ there => rcases there with rfl | rfl <;> cases here
  | refused | added | disabled | opened | served | failed => cases here
  | @runCalls _ _ rest => cases rest <;> cases here
  | readerCalls _ called | senderCalls _ called | sweeperCalls _ called
  | stopCalls _ called => exact Or.inl (called.run ▸ here)

theorem step_pendingIds (counted : Counted server)
    (taken : server.step config label = some next)
    (member : sessionId ∈ pendingIds next username) :
    sessionId ∈ pendingIds server username ∨
      ∃ open_, passing config server label = some (open_, username) ∧
        open_.params.request.sessionId = sessionId := by
  obtain ⟨id, client, open_, here, asked⟩ := mem_pendingIds.mp member
  rcases moves_passed (step_moves counted.unused taken) here with
    before | passes
  · refine Or.inl (mem_pendingIds.mpr ⟨id, ?_, open_, before, asked⟩)
    by_contra notClient
    rw [(counted.unstarted id notClient).1] at before
    cases before
  · exact Or.inr ⟨open_, passes, asked⟩

/-- A step claims nothing but what passes the limit. -/
theorem step_claimed (counted : Counted server)
    (taken : server.step config label = some next) :
    claimed next username ⊆ claimed server username ∨
      ∃ open_, passing config server label = some (open_, username) ∧
        claimed next username ⊆
          insert open_.params.request.sessionId
            (claimed server username) := by
  by_cases passes : ∃ open_,
      passing config server label = some (open_, username)
  · obtain ⟨open_, asks⟩ := passes
    refine Or.inr ⟨open_, asks, fun sessionId member => ?_⟩
    rw [Finset.mem_insert]
    rcases mem_claimed.mp member with session | pending
    · exact Or.inr (step_sessionIds counted taken session)
    · rcases step_pendingIds counted taken pending with
        before | ⟨other, same, rfl⟩
      · exact Or.inr (mem_claimed.mpr (Or.inr before))
      · obtain ⟨rfl, -⟩ :=
          Prod.mk.inj (Option.some.inj (asks.symm.trans same))
        exact Or.inl rfl
  · refine Or.inl fun sessionId member => ?_
    rcases mem_claimed.mp member with session | pending
    · exact step_sessionIds counted taken session
    · rcases step_pendingIds counted taken pending with
        before | ⟨other, same, -⟩
      · exact mem_claimed.mpr (Or.inr before)
      · exact absurd ⟨other, same⟩ passes

/-- Every user claims so many sessions at most. -/
structure Bounded (limit : Nat) (server : Server) : Prop where
  counted : Counted server
  bounded : ∀ username, (claimed server username).card ≤ limit

theorem Bounded.count_le {limit : Nat} (bounded : Bounded limit server)
    (username : String) :
    server.world.table.getNumberActiveSessionByUsername username ≤
      limit :=
  Nat.le_trans count_le_claimed (bounded.bounded username)

/-- Whoever passes the limit has to find room. -/
theorem step_bounded {limit : Nat} (bounded : Bounded limit server)
    (room : ∀ asks ∈ passing config server label,
      (insert asks.1.params.request.sessionId
        (claimed server asks.2)).card ≤ limit)
    (taken : server.step config label = some next) :
    Bounded limit next where
  counted := step_counted bounded.counted taken
  bounded username := by
    rcases @step_claimed config server next label username bounded.counted
      taken with same | ⟨open_, asks, grown⟩
    · exact
        Nat.le_trans (Finset.card_le_card same) (bounded.bounded username)
    · exact
        Nat.le_trans (Finset.card_le_card grown)
          (room (open_, username) asks)

/-- The limit lets nobody pass who has more sessions than allowed. -/
theorem count_of_passing {asks : OpenRequest × String}
    (passes : asks ∈ passing config server label) :
    server.world.table.getNumberActiveSessionByUsername asks.2 ≤
      config.maxActiveSessionsPerUser := by
  unfold passing at passes
  split at passes
  · split at passes
    · split at passes
      · cases passes
      case isFalse below =>
        obtain rfl := Option.some.inj passes
        exact Nat.le_of_not_lt below
    · cases passes
  · cases passes

/-- One opening beside few others does not claim much more than allowed. -/
theorem room_of_overlaps {others : Nat}
    (overlaps : Overlaps others config server label) :
    ∀ asks ∈ passing config server label,
      (insert asks.1.params.request.sessionId
          (claimed server asks.2)).card ≤
        config.maxActiveSessionsPerUser + others + 1 := by
  intro asks passes
  calc (insert asks.1.params.request.sessionId (claimed server asks.2)).card
      ≤ (claimed server asks.2).card + 1 := Finset.card_insert_le _ _
    _ ≤ config.maxActiveSessionsPerUser + others + 1 :=
        Nat.succ_le_succ
          (Nat.le_trans claimed_le
            (Nat.add_le_add (count_of_passing passes)
              (overlaps asks passes)))

/-! ## Runs -/

variable {ipv4 : List IPv4Address} {ipv6 : List IPv6Address}

theorem start_bounded {limit : Nat} :
    Bounded limit (Server.start (World.start ipv4 ipv6)) where
  counted :=
    { allocated := fun _ member => nomatch member
      unused := fun _ _ member => nomatch member
      unstarted := fun _ _ => ⟨rfl, rfl, rfl⟩ }
  bounded _ := Nat.zero_le _

/-- A run in which nobody passes the limit without room keeps the limit in
all its states.  In every run a user has at most as many sessions more as
openings have overlapped, and one. -/
theorem run_withinLimit (config : Config) {labels : List Server.Label}
    (reached : run (Server.step config)
      (Server.start (World.start ipv4 ipv6)) labels = some server) :
    (Along (Server.step config) (LeavesRoom config)
          (Server.start (World.start ipv4 ipv6)) labels →
        Along (Server.step config)
            (fun visited _ => WithinLimit config visited)
            (Server.start (World.start ipv4 ipv6)) labels ∧
          WithinLimit config server) ∧
      ∀ others,
        Along (Server.step config) (Overlaps others config)
            (Server.start (World.start ipv4 ipv6)) labels →
          ∀ username,
            server.world.table.getNumberActiveSessionByUsername username ≤
              config.maxActiveSessionsPerUser + others + 1 := by
  constructor
  · intro rooms
    obtain ⟨visited, last⟩ :=
      run_property_of
        (fun _ _ _ (bounded : Bounded config.maxActiveSessionsPerUser _)
            room taken =>
          ⟨bounded.count_le, step_bounded bounded room taken⟩)
        start_bounded rooms reached
    exact ⟨visited, last.count_le⟩
  · intro others overlap
    have last : Bounded (config.maxActiveSessionsPerUser + others + 1)
        server :=
      run_invariant_of
        (fun _ _ _ bounded few taken =>
          step_bounded bounded (room_of_overlaps few) taken)
        start_bounded overlap reached
    exact last.count_le

/-! ## An overrun -/

/-- Opens a session of its own. -/
def requestOf (sessionId : String) : OpenRequest where
  url := kApiWebSocketUrl
  jwtAuthToken := "token"
  params := guest 0 sessionId 0
  protocol2 := true

def oneSession : Config where
  clock tick := tick
  validate _ := some "user"
  maxActiveSessionsPerUser := 1

def threeFree : World :=
  World.start
    ([0x0A000002, 0x0A000003, 0x0A000004].map
      (IPv4Address.ofValue plainText))
    ([2, 3, 4].map wholeIPv6)

/-- A client is accepted and its request passes the limit. -/
def asks (id : ClientID) (sessionId : String) : List Server.Label :=
  [.accept id, .run id (.request (requestOf sessionId)),
    .run id .proceed, .run id .proceed, .run id .proceed]

/-- The connection is added. -/
def enters (id : ClientID) : List Server.Label :=
  [.run id .proceed, .run id .proceed, .run id .proceed]

/-- The only session stays within the limit when a second connection joins
it, although the limit has been reached. -/
theorem run_withinLimit_joined :
    ∃ server,
      run (Server.step oneSession) (Server.start threeFree)
          (asks 1 "first" ++ enters 1 ++ asks 2 "first" ++ enters 2) =
        some server ∧
      WithinLimit oneSession server ∧
      server.world.table.getNumberActiveSessionByUsername "user" ≤ 2 := by
  have taken : (run (Server.step oneSession) (Server.start threeFree)
      (asks 1 "first" ++ enters 1 ++ asks 2 "first" ++
        enters 2)).isSome = true := by
    decide +kernel
  obtain ⟨server, reached⟩ := Option.isSome_iff_exists.mp taken
  have rooms : Along (Server.step oneSession) (LeavesRoom oneSession)
      (Server.start threeFree)
      (asks 1 "first" ++ enters 1 ++ asks 2 "first" ++ enters 2) := by
    decide +kernel
  have apart : Along (Server.step oneSession) (Overlaps 0 oneSession)
      (Server.start threeFree)
      (asks 1 "first" ++ enters 1 ++ asks 2 "first" ++ enters 2) := by
    decide +kernel
  obtain ⟨keeps, exceeds⟩ := run_withinLimit oneSession reached
  exact ⟨server, reached, (keeps rooms).2, exceeds 0 apart "user"⟩

/-- With a limit of one a user gets a second session, as the limit has only
been reached, and a third, which has been let in meanwhile. -/
theorem limit_overrun :
    ¬∀ (config : Config) (ipv4 : List IPv4Address)
        (ipv6 : List IPv6Address) (labels : List Server.Label)
        (server : Server),
      1 ≤ config.maxActiveSessionsPerUser →
      run (Server.step config) (Server.start (World.start ipv4 ipv6))
          labels = some server →
      WithinLimit config server := by
  intro within
  have taken : (run (Server.step oneSession) (Server.start threeFree)
      (asks 1 "first" ++ enters 1 ++ asks 2 "second" ++
        asks 3 "third" ++ enters 2 ++ enters 3)).map
        (fun server => server.world.table.getNumberActiveSessionByUsername
          "user") = some 3 := by
    decide +kernel
  obtain ⟨server, reached, three⟩ := Option.map_eq_some_iff.mp taken
  have one := within oneSession _ _ _ server (Nat.le_refl 1) reached "user"
  rw [three] at one
  exact absurd one (by decide)

end Fptn.Web.SessionLimit
