import Fptn.NatTable.SessionTable

/-!
# The web server and its sessions

`Server` keeps the sessions which have opened a connection.  The coroutines of
the sessions run on the workers of the io context and call
`HandleWsOpenConnection` and `Session::Close`, which in turn calls
`HandleWsCloseConnection`.  One more thread expires connections every second,
and another one may call `Stop`.

Every coroutine which is not suspended occupies a worker, of which there may
be any number.  A step is an access to an atomic flag, or a section under one
mutex; the server's mutex is held by name where other threads can run
meanwhile, and so is the mutex of a session, during the one `Close` which
takes effect.  The NAT table is the one of `SessionTable`.
-/

namespace Fptn.Web.WebServer

open Fptn.NatTable.Multiplexer
open Fptn.NatTable.SessionTable

/-! ## Sessions -/

deriving instance DecidableEq for Request, User, ConnectParams

/-- What a client asks for when it opens a connection. -/
structure OpenRequest where
  url : String
  jwtAuthToken : String
  params : ConnectParams
  /-- Whether `HandleWebSocket2` handles it. -/
  protocol2 : Bool
deriving DecidableEq

def kApiWebSocketUrlOld : String := "/fptn"

def kApiWebSocketUrl : String := "/api/v1/fptn"

/-- A call of `Session::Close`. -/
inductive CloseCall where
  /-- The first test of `running_`. -/
  | test
  /-- Before the session's mutex is locked. -/
  | lock
  /-- This is the call which closes the session. -/
  | inside
deriving DecidableEq

/-- How far the call has come which closes the session.  The session's mutex
is held from the first of these places until the last. -/
inductive ClosePlace where
  | notClosed
  /-- `if (ws_close_callback_ && ws_session_was_opened_)`. -/
  | callback
  /-- `HandleWsCloseConnection`, before its test of the server's `running_`. -/
  | closeTest
  /-- Before the server's mutex is locked. -/
  | closeLock
  /-- Before `DelConnectionByClientId`. -/
  | delConnection
  | closed
deriving DecidableEq

/-- Where `Session::Run` is. -/
inductive RunPlace where
  /-- Suspended, up to the end of the TLS handshake and the request. -/
  | accepting
  /-- `HandleWsOpenConnection`, before its first test of `running_`. -/
  | openTest (open_ : OpenRequest)
  /-- The tests of the URL and the token. -/
  | openValidate (open_ : OpenRequest)
  /-- The session limit. -/
  | openCount (open_ : OpenRequest) (username : String)
  /-- Before the server's mutex is locked. -/
  | openLock (open_ : OpenRequest) (username : String)
  /-- Before `AddConnection`, with the mutex. -/
  | openAdd (open_ : OpenRequest) (username : String)
  /-- Before `sessions_.insert`, with the mutex. -/
  | openInsert (open_ : OpenRequest) (pointer : MplxPtr)
  /-- `DisableChecksumCalculation`, in `HandleWebSocket2` only. -/
  | disableChecksum (pointer : MplxPtr)
  /-- Before `ws_session_was_opened_` is set. -/
  | setOpened
  /-- Suspended, while the connection is being accepted. -/
  | serving
  | closing (call : CloseCall)
  | finished
deriving DecidableEq

/-- Where `RunReader` or `RunSender` is. -/
inductive LoopPlace where
  | notStarted
  /-- In its loop, suspended or not. -/
  | looping
  | closing (call : CloseCall)
  | finished
deriving DecidableEq

structure Session where
  running : Bool
  wsSessionWasOpened : Bool
  close : ClosePlace
  run : RunPlace
  reader : LoopPlace
  sender : LoopPlace

namespace Session

/-- `Run` has set `running_`. -/
def started : Session where
  running := true
  wsSessionWasOpened := false
  close := .notClosed
  run := .accepting
  reader := .notStarted
  sender := .notStarted

variable (session : Session)

/-- The mutex of the session is held. -/
def locked : Bool :=
  session.close != .notClosed && session.close != .closed

/-- One step of a call of `Close`; `none` in the second place means that the
call returns.  The call inside goes on once the closing is done. -/
def closeCall : CloseCall → Option (Session × Option CloseCall)
  | .test =>
      if session.running then
        some (session, some .lock)
      else
        some (session, none)
  | .lock =>
      if session.locked then
        none
      else if session.running then
        some ({ session with running := false, close := .callback },
          some .inside)
      else
        some (session, none)
  | .inside =>
      if session.close = .closed then
        some (session, none)
      else
        none

end Session

/-! ## Server -/

/-- Who holds the server's mutex between two steps. -/
inductive MutexOwner where
  | opening (id : ClientID)
  | stop
deriving DecidableEq

/-- Where `Manager::RunUpdateConnectionsStatus` is. -/
inductive SweeperPlace where
  | idle
  /-- `UpdateConnectionsStatus`, between its two phases. -/
  | updating
  /-- The loop over the expired ids. -/
  | visiting (expired : List ClientID)
  /-- In `Close` of a session it has found. -/
  | closing (id : ClientID) (call : CloseCall) (expired : List ClientID)

/-- Where `Server::Stop` is. -/
inductive StopPlace where
  | idle
  /-- `running_` was set. -/
  | clear
  /-- Before the mutex is locked. -/
  | lock
  /-- The loop over the sessions, with the mutex from here on. -/
  | visiting (rest : List ClientID)
  | closing (id : ClientID) (call : CloseCall) (rest : List ClientID)
  /-- `ioc_.stop()`. -/
  | stopContext
  /-- The loop which joins the workers. -/
  | join
  | done
deriving DecidableEq

structure Config where
  /-- The steady clock of the NAT table. -/
  clock : Nat → Int
  /-- `TokenManager::Validate`: the user of a token it accepts. -/
  validate : String → Option String
  maxActiveSessionsPerUser : Nat

structure Server where
  world : World
  running : Bool
  mutex : Option MutexOwner
  /-- The keys of `sessions_`. -/
  sessions : List ClientID
  /-- The sessions which have been created. -/
  clients : List ClientID
  session : ClientID → Session
  sweeper : SweeperPlace
  stop : StopPlace
  iocStopped : Bool

namespace Server

/-- After `Start`, with full pools. -/
def start (world : World) : Server where
  world := world
  running := true
  mutex := none
  sessions := []
  clients := []
  session _ := Session.started
  sweeper := .idle
  stop := .idle
  iocStopped := false

variable (config : Config) (server : Server)

def setSession (id : ClientID) (session : Session) : Server :=
  { server with session := Function.update server.session id session }

def setRun (id : ClientID) (place : RunPlace) : Server :=
  server.setSession id { server.session id with run := place }

def setTable (table : Table) : Server :=
  { server with world := { server.world with table := table } }

/-- What happens outside of the server. -/
inductive RunChoice where
  /-- The request asks for a connection. -/
  | request (open_ : OpenRequest)
  /-- The connection has been accepted, or has failed. -/
  | served (status : Bool)
  | proceed
deriving DecidableEq

/-- The parameters with which `AddConnection` is called. -/
def modParams (id : ClientID) (open_ : OpenRequest) (username : String) :
    ConnectParams :=
  { open_.params with clientId := id, user := { username := username } }

/-- `AddConnection` under the mutex. -/
def addConnection (id : ClientID) (open_ : OpenRequest)
    (username : String) : Server :=
  let params := modParams id open_ username
  let added := server.world.table.addConnection params config.clock
    server.world.tick
  let counted := {
    server with
    world := {
      server.world with
      table := added.1
      tick := server.world.tick + 3
      used := id :: server.world.used } }
  match added.2 with
  | none => { counted with mutex := none }.setRun id (.closing .test)
  | some pointer => counted.setRun id (.openInsert open_ pointer)

/-- `sessions_.insert`, the end of the section. -/
def insertSession (id : ClientID) (open_ : OpenRequest)
    (pointer : MplxPtr) : Server :=
  let inserted := {
    server with sessions := id :: server.sessions, mutex := none }
  inserted.setRun id
    (if open_.protocol2 then .disableChecksum pointer else .setOpened)

/-- A step of a call of `Close` which a coroutine of the session makes. -/
def ownClose (id : ClientID) (call : CloseCall)
    (resume : Session → Option CloseCall → Session) : Option Server :=
  ((server.session id).closeCall call).map fun (session, rest) =>
    server.setSession id (resume session rest)

def runStep (id : ClientID) (choice : RunChoice) : Option Server :=
  match (server.session id).run, choice with
  | .accepting, .request open_ =>
      if server.iocStopped then
        none
      else
        some (server.setRun id (.openTest open_))
  | .accepting, .served _ =>
      if server.iocStopped then
        none
      else
        some (server.setRun id (.closing .test))
  | .openTest open_, .proceed =>
      if server.running then
        some (server.setRun id (.openValidate open_))
      else
        some (server.setRun id (.closing .test))
  | .openValidate open_, .proceed =>
      if open_.url ≠ kApiWebSocketUrl ∧ open_.url ≠ kApiWebSocketUrlOld then
        some (server.setRun id (.closing .test))
      else
        match config.validate open_.jwtAuthToken with
        | none => some (server.setRun id (.closing .test))
        | some username =>
            some (server.setRun id (.openCount open_ username))
  | .openCount open_ username, .proceed =>
      if config.maxActiveSessionsPerUser <
          server.world.table.getNumberActiveSessionByUsername username then
        some (server.setRun id (.closing .test))
      else
        some (server.setRun id (.openLock open_ username))
  | .openLock open_ username, .proceed =>
      if server.mutex.isSome then
        none
      else if server.running = false ∨ id ∈ server.sessions then
        some (server.setRun id (.closing .test))
      else
        some ({ server with mutex := some (.opening id) }.setRun id
          (.openAdd open_ username))
  | .openAdd open_ username, .proceed =>
      some (server.addConnection config id open_ username)
  | .openInsert open_ pointer, .proceed =>
      some (server.insertSession id open_ pointer)
  | .disableChecksum pointer, .proceed =>
      some ((server.setTable
        (server.world.table.disableChecksumCalculation pointer
          true)).setRun id .setOpened)
  | .setOpened, .proceed =>
      some (server.setSession id
        { server.session id with
          wsSessionWasOpened := true
          run := .serving })
  | .serving, .served status =>
      if server.iocStopped then
        none
      else if status then
        some (server.setSession id
          { server.session id with
            run := .finished
            reader := .looping
            sender := .looping })
      else
        some (server.setRun id (.closing .test))
  | .closing call, .proceed =>
      server.ownClose id call fun session rest =>
        { session with
          run := match rest with
            | some call => .closing call
            | none => .finished }
  | _, _ => none

/-- The next place of a reader or sender in a call of `Close`. -/
def loopAfter : Option CloseCall → LoopPlace
  | some call => .closing call
  | none => .finished

def readerStep (id : ClientID) : Option Server :=
  match (server.session id).reader with
  | .looping =>
      if server.iocStopped then
        none
      else
        some (server.setSession id
          { server.session id with reader := .closing .test })
  | .closing call =>
      server.ownClose id call fun session rest =>
        { session with reader := loopAfter rest }
  | .notStarted | .finished => none

def senderStep (id : ClientID) : Option Server :=
  match (server.session id).sender with
  | .looping =>
      if server.iocStopped then
        none
      else
        some (server.setSession id
          { server.session id with sender := .closing .test })
  | .closing call =>
      server.ownClose id call fun session rest =>
        { session with sender := loopAfter rest }
  | .notStarted | .finished => none

def setClose (id : ClientID) (place : ClosePlace) : Server :=
  server.setSession id { server.session id with close := place }

/-- The next step of the call which closes a session. -/
def closeStep (id : ClientID) : Option Server :=
  match (server.session id).close with
  | .notClosed | .closed => none
  | .callback =>
      if (server.session id).wsSessionWasOpened then
        some (server.setClose id .closeTest)
      else
        some (server.setClose id .closed)
  | .closeTest =>
      if server.running then
        some (server.setClose id .closeLock)
      else
        some (server.setClose id .delConnection)
  | .closeLock =>
      if server.mutex.isSome then
        none
      else
        some ({ server with
          sessions := server.sessions.filter (· != id) }.setClose id
            .delConnection)
  | .delConnection =>
      some ((server.setTable
        (server.world.table.delConnectionByClientId id).1).setClose id
          .closed)

/-- One more step of the sweeper; `order` is the order in which the table
visits its sessions. -/
def sweeperStep (order : List MplxPtr) : Option Server :=
  match server.sweeper with
  | .idle =>
      (NatTable.SessionTable.step config.clock server.world
        (.beginUpdate order)).map fun world =>
          { server with
            world := world
            sweeper :=
              if world.pending.isEmpty then .idle else .updating }
  | .updating =>
      match server.world.pending[0]? with
      | none => none
      | some sweep =>
          (NatTable.SessionTable.step config.clock server.world
            (.finishUpdate 0)).map fun world =>
              { server with
                world := world
                sweeper := .visiting sweep.expired }
  | .visiting [] => some { server with sweeper := .idle }
  | .visiting (id :: rest) =>
      if server.mutex.isSome then
        none
      else if id ∈ server.sessions then
        some { server with sweeper := .closing id .test rest }
      else
        some { server with sweeper := .visiting rest }
  | .closing id call rest =>
      ((server.session id).closeCall call).map fun (session, left) =>
        { server.setSession id session with
          sweeper := match left with
            | some call => .closing id call rest
            | none => .visiting rest }

/-- A coroutine occupies a worker. -/
def busyRun : RunPlace → Bool
  | .accepting | .serving | .finished => false
  | _ => true

def busyLoop : LoopPlace → Bool
  | .closing _ => true
  | _ => false

def busy (session : Session) : Bool :=
  busyRun session.run || busyLoop session.reader ||
    busyLoop session.sender

def stopStep : Option Server :=
  match server.stop with
  | .idle => if server.running then
      some { server with stop := .clear } else none
  | .clear => some { server with running := false, stop := .lock }
  | .lock =>
      if server.mutex.isSome then
        none
      else
        some { server with
          mutex := some .stop
          stop := .visiting server.sessions }
  | .visiting [] =>
      some { server with sessions := [], stop := .stopContext }
  | .visiting (id :: rest) =>
      some { server with stop := .closing id .test rest }
  | .closing id call rest =>
      ((server.session id).closeCall call).map fun (session, left) =>
        { server.setSession id session with
          stop := match left with
            | some call => .closing id call rest
            | none => .visiting rest }
  | .stopContext => some { server with iocStopped := true, stop := .join }
  | .join =>
      if server.clients.any fun id => busy (server.session id) then
        none
      else
        some { server with mutex := none, stop := .done }
  | .done => none

inductive Label where
  /-- The listener creates a session and starts `Run`. -/
  | accept (id : ClientID)
  | run (id : ClientID) (choice : RunChoice)
  | reader (id : ClientID)
  | sender (id : ClientID)
  | close (id : ClientID)
  | sweeper (order : List MplxPtr)
  | stop
deriving DecidableEq

def step (server : Server) : Label → Option Server
  | .accept id =>
      if id ∈ server.clients ∨ server.iocStopped = true then
        none
      else
        some { server with clients := id :: server.clients }
  | .run id choice =>
      if id ∈ server.clients then server.runStep config id choice else none
  | .reader id => server.readerStep id
  | .sender id => server.senderStep id
  | .close id => server.closeStep id
  | .sweeper order => server.sweeperStep config order
  | .stop => server.stopStep

end Server

/-! ## What a step does to the NAT table -/

section Table

variable {config : Config} {server next : Server} {id : ClientID}

/-- The places of `Run` before `AddConnection`. -/
def beforeAdd : RunPlace → Bool
  | .accepting | .openTest _ | .openValidate _ | .openCount _ _
  | .openLock _ _ | .openAdd _ _ => true
  | _ => false

/-- A session which has not called `AddConnection` is new to the table. -/
def Unused (server : Server) : Prop :=
  ∀ id, beforeAdd (server.session id).run = true →
    id ∉ server.world.used

/-- The step of the table which is part of a step of the server. -/
def tableLabel (server : Server) :
    Server.Label → Option NatTable.SessionTable.Label
  | .run id .proceed =>
      match (server.session id).run with
      | .openAdd open_ username =>
          some (.addConnection (Server.modParams id open_ username))
      | .disableChecksum pointer =>
          some (.disableChecksumCalculation pointer true)
      | _ => none
  | .close id =>
      match (server.session id).close with
      | .delConnection => some (.delConnectionByClientId id)
      | _ => none
  | .sweeper order =>
      match server.sweeper with
      | .idle => some (.beginUpdate order)
      | .updating => some (.finishUpdate 0)
      | _ => none
  | _ => none

/-- The table is left alone, or makes a step of its own. -/
def TableSteps (config : Config) (before after : World) :
    Option NatTable.SessionTable.Label → Prop
  | none => after = before
  | some label =>
      NatTable.SessionTable.step config.clock before label = some after

theorem ownClose_world {call : CloseCall}
    {resume : Session → Option CloseCall → Session}
    (taken : server.ownClose id call resume = some next) :
    next.world = server.world := by
  obtain ⟨_, _, rfl⟩ := Option.map_eq_some_iff.mp taken
  rfl

theorem addConnection_world {open_ : OpenRequest} {username : String} :
    (server.addConnection config id open_ username).world =
      { server.world with
        table := (server.world.table.addConnection
          (Server.modParams id open_ username) config.clock
          server.world.tick).1
        tick := server.world.tick + 3
        used := id :: server.world.used } := by
  simp only [Server.addConnection]
  split <;> rfl

theorem runStep_world {choice : Server.RunChoice} (unused : Unused server)
    (taken : server.runStep config id choice = some next) :
    TableSteps config server.world next.world
      (tableLabel server (.run id choice)) := by
  unfold Server.runStep at taken
  cases place : (server.session id).run with
  | finished =>
      rw [place] at taken
      cases taken
  | accepting | serving =>
      rw [place] at taken
      cases choice with
      | proceed => cases taken
      | request | served =>
          simp only at taken
          repeat' split at taken
          all_goals cases taken
          all_goals rfl
  | openTest | openValidate | openCount | openLock | openInsert
  | setOpened =>
      rw [place] at taken
      cases choice with
      | request | served => cases taken
      | proceed =>
          simp only [tableLabel, place]
          simp only at taken
          repeat' split at taken
          all_goals cases taken
          all_goals rfl
  | openAdd open_ username =>
      rw [place] at taken
      cases choice with
      | request | served => cases taken
      | proceed =>
          cases taken
          have new : id ∉ server.world.used := unused id (by rw [place]; rfl)
          simp only [tableLabel, place, TableSteps, addConnection_world]
          exact if_neg new
  | disableChecksum pointer =>
      rw [place] at taken
      cases choice with
      | request | served => cases taken
      | proceed =>
          cases taken
          simp only [tableLabel, place]
          rfl
  | closing call =>
      rw [place] at taken
      cases choice with
      | request | served => cases taken
      | proceed =>
          simp only [tableLabel, place]
          exact ownClose_world taken

theorem closeStep_world (taken : server.closeStep id = some next) :
    TableSteps config server.world next.world
      (tableLabel server (.close id)) := by
  unfold Server.closeStep at taken
  cases place : (server.session id).close with
  | notClosed | closed =>
      rw [place] at taken
      cases taken
  | callback | closeTest | closeLock =>
      rw [place] at taken
      simp only [tableLabel, place]
      simp only at taken
      repeat' split at taken
      all_goals cases taken
      all_goals rfl
  | delConnection =>
      rw [place] at taken
      simp only [tableLabel, place]
      cases taken
      rfl

theorem sweeperStep_world {order : List MplxPtr}
    (taken : server.sweeperStep config order = some next) :
    TableSteps config server.world next.world
      (tableLabel server (.sweeper order)) := by
  unfold Server.sweeperStep at taken
  cases place : server.sweeper with
  | idle =>
      rw [place] at taken
      simp only [tableLabel, place]
      obtain ⟨world, stepped, rfl⟩ := Option.map_eq_some_iff.mp taken
      exact stepped
  | updating =>
      rw [place] at taken
      simp only [tableLabel, place]
      simp only at taken
      split at taken
      · cases taken
      · obtain ⟨world, stepped, rfl⟩ := Option.map_eq_some_iff.mp taken
        exact stepped
  | visiting expired =>
      rw [place] at taken
      simp only [tableLabel, place]
      cases expired with
      | nil =>
          cases taken
          rfl
      | cons id rest =>
          simp only at taken
          repeat' split at taken
          all_goals cases taken
          all_goals rfl
  | closing id call rest =>
      rw [place] at taken
      simp only [tableLabel, place]
      obtain ⟨_, _, rfl⟩ := Option.map_eq_some_iff.mp taken
      rfl

theorem loopStep_world
    (taken : server.readerStep id = some next ∨
      server.senderStep id = some next) :
    next.world = server.world := by
  rcases taken with taken | taken
  · unfold Server.readerStep at taken
    split at taken
    · split at taken <;> cases taken
      rfl
    · exact ownClose_world taken
    all_goals cases taken
  · unfold Server.senderStep at taken
    split at taken
    · split at taken <;> cases taken
      rfl
    · exact ownClose_world taken
    all_goals cases taken

theorem stopStep_world (taken : server.stopStep = some next) :
    next.world = server.world := by
  unfold Server.stopStep at taken
  split at taken
  case h_6 =>
    obtain ⟨_, _, rfl⟩ := Option.map_eq_some_iff.mp taken
    rfl
  all_goals try split at taken
  all_goals cases taken
  all_goals rfl

/-- The server's table is a NAT table: it makes steps of that only. -/
theorem step_world {label : Server.Label} (unused : Unused server)
    (taken : server.step config label = some next) :
    TableSteps config server.world next.world
      (tableLabel server label) := by
  cases label with
  | accept id =>
      simp only [Server.step] at taken
      split at taken <;> cases taken
      rfl
  | run id choice =>
      simp only [Server.step] at taken
      split at taken
      · exact runStep_world unused taken
      · cases taken
  | reader id => exact loopStep_world (Or.inl taken)
  | sender id => exact loopStep_world (Or.inr taken)
  | close id => exact closeStep_world taken
  | sweeper order => exact sweeperStep_world taken
  | stop => exact stopStep_world taken

end Table

end Fptn.Web.WebServer
