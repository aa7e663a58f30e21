import Fptn.Lib.KeyedList
import Fptn.Lib.PartialRun
import Mathlib.Logic.Function.Basic

/-!
# The pool strategies of the client

`BrowserMimicry` keeps its connections in three vectors of shared pointers:
all of them, those in sending mode and those in receiving mode.  The contexts
they point to live in a heap, since the vectors share them.  Every operation
which holds the mutex is one step; the clock, the websocket clients and the
random choices are arbitrary.

`ParallelTunnels` keeps one vector, scanned from a port or a round-robin cursor
on.
-/

namespace Fptn.Connection.PoolStrategies

open Fptn.KeyedList

/-- A point in time of `system_clock`. -/
abbrev TimePoint := Int

/-! ## WebsocketClient -/

/-- The flags of a websocket client. -/
structure WebsocketClient where
  running : Bool
  wasConnected : Bool
  wasStopped : Bool
deriving DecidableEq

namespace WebsocketClient

def create : WebsocketClient where
  running := false
  wasConnected := false
  wasStopped := false

def isStarted (client : WebsocketClient) : Bool :=
  client.running && client.wasConnected

def isStopped (client : WebsocketClient) : Bool :=
  client.wasStopped

def run (client : WebsocketClient) : WebsocketClient :=
  { client with running := true }

def stop (client : WebsocketClient) : WebsocketClient :=
  if client.running then
    { running := false, wasConnected := false, wasStopped := true }
  else
    client

end WebsocketClient

/-! ## BrowserMimicry -/

inductive ConnectionStatus where
  | creating
  | sending
  | receiving
  | error
deriving DecidableEq

abbrev ConnectionId := BitVec 64

structure ConnectionContext where
  connectionId : ConnectionId
  status : ConnectionStatus
  sendModeUntil : TimePoint
  expireAfter : TimePoint
  client : WebsocketClient

namespace ConnectionContext

variable (context : ConnectionContext) (now : TimePoint)

def sendTimeExpired : Bool :=
  decide (context.sendModeUntil ≤ now)

def isExpired : Bool :=
  decide (context.expireAfter ≤ now)

/-- What `RemoveExpiredConnections` calls dead. -/
def dead : Bool :=
  context.isExpired now || decide (context.status = .error)

end ConnectionContext

/-- A `shared_ptr` to a context. -/
abbrev ContextPtr := Nat

structure BrowserMimicry where
  running : Bool
  /-- The counter of the constructor, shared by all strategies. -/
  connectionIdCounter : ConnectionId
  nextContext : ContextPtr
  context : ContextPtr → ConnectionContext
  allConnections : List ContextPtr
  gettingDataConnections : List ContextPtr
  sendingDataConnections : List ContextPtr
  /-- The connection on which `CreateNewConnection` waits. -/
  connecting : Option ContextPtr
  /-- The connection it has returned to `CreateMissingConnections`. -/
  created : Option ContextPtr
  /-- What the detached coroutines of the sweeps still have to stop. -/
  closing : List ContextPtr

namespace BrowserMimicry

/-- A strategy which has not been started. -/
def create (connectionIdCounter : ConnectionId) : BrowserMimicry where
  running := false
  connectionIdCounter := connectionIdCounter
  nextContext := 0
  context _ := {
    connectionId := 0
    status := .creating
    sendModeUntil := 0
    expireAfter := 0
    client := .create }
  allConnections := []
  gettingDataConnections := []
  sendingDataConnections := []
  connecting := none
  created := none
  closing := []

variable (pool : BrowserMimicry)

def idOf (connection : ContextPtr) : ConnectionId :=
  (pool.context connection).connectionId

def statusOf (connection : ContextPtr) : ConnectionStatus :=
  (pool.context connection).status

def isStarted (connection : ContextPtr) : Bool :=
  (pool.context connection).client.isStarted

def setContext (connection : ContextPtr) (context : ConnectionContext) :
    BrowserMimicry :=
  { pool with context := Function.update pool.context connection context }

def setStatus (connection : ContextPtr) (status : ConnectionStatus) :
    BrowserMimicry :=
  pool.setContext connection
    { pool.context connection with status := status }

def setClient (connection : ContextPtr) (client : WebsocketClient) :
    BrowserMimicry :=
  pool.setContext connection
    { pool.context connection with client := client }

/-- `RemoveFromConnectionList`. -/
def removeFromConnectionList (connections : List ContextPtr)
    (id : ConnectionId) : List ContextPtr :=
  eraseKey pool.idOf id connections

/-- Remove an id from the getting and the sending list. -/
def removeFromLists (id : ConnectionId) : BrowserMimicry :=
  { pool with
    gettingDataConnections :=
      pool.removeFromConnectionList pool.gettingDataConnections id
    sendingDataConnections :=
      pool.removeFromConnectionList pool.sendingDataConnections id }

/-- The id which is read through `connection` after the erasure: the
reference still denotes the slot, to which the following element has moved.
Behind the last element there is only the destroyed slot, and `destroyed` is
what is read from it. -/
def readAfterErase (destroyed : ConnectionId) :
    List ContextPtr → ConnectionId
  | [] => destroyed
  | following :: _ => pool.idOf following

/-- The loop of `RemoveExpiredConnections`, between the connections already
kept and those still to visit.  `clock` gives the time read at each of them. -/
def removeExpiredLoop (clock : ContextPtr → TimePoint)
    (destroyed : ConnectionId) (pool : BrowserMimicry)
    (kept : List ContextPtr) : List ContextPtr → BrowserMimicry
  | [] => { pool with allConnections := kept }
  | connection :: rest =>
      if (pool.context connection).dead (clock connection) then
        let erased := { pool with closing := pool.closing ++ [connection] }
        removeExpiredLoop clock destroyed
          (erased.removeFromLists (pool.readAfterErase destroyed rest))
          kept rest
      else
        removeExpiredLoop clock destroyed pool (kept ++ [connection]) rest

def removeExpiredConnections (clock : ContextPtr → TimePoint)
    (destroyed : ConnectionId) : BrowserMimicry :=
  removeExpiredLoop clock destroyed pool [] pool.allConnections

/-- The status which `UpdateConnectionsStatus` gives to a connection. -/
def updatedStatus (now clock : TimePoint) (context : ConnectionContext) :
    ConnectionStatus :=
  if context.status = .sending ∧ context.sendTimeExpired clock then
    .receiving
  else if context.status = .creating ∧ context.client.isStarted then
    if now < context.sendModeUntil then .sending else .receiving
  else
    context.status

/-- Put a connection into the list of its status. -/
def pushToList (connection : ContextPtr) :
    ConnectionStatus → BrowserMimicry
  | .sending =>
      { pool with
        sendingDataConnections :=
          pool.sendingDataConnections ++ [connection] }
  | .receiving =>
      { pool with
        gettingDataConnections :=
          pool.gettingDataConnections ++ [connection] }
  | _ => pool

/-- One round of the loop of `UpdateConnectionsStatus`. -/
def updateConnection (now : TimePoint) (clock : ContextPtr → TimePoint)
    (pool : BrowserMimicry) (connection : ContextPtr) : BrowserMimicry :=
  let status :=
    updatedStatus now (clock connection) (pool.context connection)
  if status = pool.statusOf connection then
    pool
  else
    let updated := pool.setStatus connection status
    (updated.removeFromLists (pool.idOf connection)).pushToList
      connection status

def updateConnectionsStatus (now : TimePoint)
    (clock : ContextPtr → TimePoint) : BrowserMimicry :=
  pool.allConnections.foldl (updateConnection now clock) pool

/-- The start of `CreateNewConnection`: the context gets the next id. -/
def createNewConnection (now sendingMode ttl : TimePoint) :
    BrowserMimicry :=
  let id := pool.connectionIdCounter + 1
  let counted := {
    pool with
    connectionIdCounter := id
    nextContext := pool.nextContext + 1
    connecting := some pool.nextContext }
  counted.setContext pool.nextContext
    { connectionId := id
      status := .creating
      sendModeUntil := now + sendingMode
      expireAfter := now + ttl
      client := WebsocketClient.create.run }

/-- `Stop` for one connection. -/
def stopConnection (pool : BrowserMimicry) (connection : ContextPtr) :
    BrowserMimicry :=
  pool.setContext connection
    { pool.context connection with
      status := .error
      client := (pool.context connection).client.stop }

def stop : BrowserMimicry :=
  let stopped :=
    pool.allConnections.foldl stopConnection { pool with running := false }
  { stopped with
    allConnections := []
    gettingDataConnections := []
    sendingDataConnections := [] }

/-- The steps under the mutex, and what may happen between them. -/
inductive Label where
  /-- `Start`, before it enters the event loop. -/
  | start
  | stop
  /-- `SetRunningStatus(false)` of the coroutine. -/
  | poolEmpty
  | removeExpiredConnections (clock : ContextPtr → TimePoint)
      (destroyed : ConnectionId)
  /-- The detached coroutine of a sweep stops its next client. -/
  | stopClosed
  | updateConnectionsStatus (now : TimePoint)
      (clock : ContextPtr → TimePoint)
  | createNewConnection (now sendingMode ttl : TimePoint)
  | connectionReady
  | connectionFailed
  /-- The push at the end of `CreateMissingConnections`. -/
  | pushConnection
  /-- Another strategy constructs a context. -/
  | otherContext
  /-- The client of a connection changes by itself, or is stopped by its
  watchdog. -/
  | clientChanges (connection : ContextPtr) (client : WebsocketClient)

def step (pool : BrowserMimicry) : Label → Option BrowserMimicry
  | .start => some { pool with running := true }
  | .stop => some pool.stop
  | .poolEmpty =>
      if pool.allConnections = [] then
        some { pool with running := false }
      else
        none
  | .removeExpiredConnections clock destroyed =>
      some (pool.removeExpiredConnections clock destroyed)
  | .stopClosed =>
      match pool.closing with
      | [] => none
      | connection :: rest =>
          some ({ pool with closing := rest }.setClient connection
            (pool.context connection).client.stop)
  | .updateConnectionsStatus now clock =>
      some (pool.updateConnectionsStatus now clock)
  | .createNewConnection now sendingMode ttl =>
      if pool.connecting = none ∧ pool.created = none then
        some (pool.createNewConnection now sendingMode ttl)
      else
        none
  | .connectionReady =>
      match pool.connecting with
      | none => none
      | some connection =>
          if pool.isStarted connection then
            some ({ pool with
              connecting := none
              created := some connection }.setStatus connection .creating)
          else
            none
  | .connectionFailed =>
      match pool.connecting with
      | none => none
      | some connection =>
          some ({ pool with connecting := none }.stopConnection connection)
  | .pushConnection =>
      match pool.created with
      | none => none
      | some connection =>
          some { pool with
            created := none
            allConnections := pool.allConnections ++ [connection] }
  | .otherContext =>
      some { pool with
        connectionIdCounter := pool.connectionIdCounter + 1 }
  | .clientChanges connection client =>
      some (pool.setClient connection client)

/-- The list from which `Send` draws. -/
def sendPool : List ContextPtr :=
  if pool.sendingDataConnections ≠ [] then
    pool.sendingDataConnections
  else
    pool.gettingDataConnections

/-- `Send`: the connection whose client is given the packet.  `index` is what
`GetRandomInt` has drawn. -/
def send (index : Nat) : Option ContextPtr :=
  if pool.running then pool.sendPool[index]? else none

end BrowserMimicry

/-! ## ParallelTunnels -/

structure Channel where
  connectionId : ConnectionId
  closeAt : TimePoint
  client : WebsocketClient

/-- What `Send` looks at in a packet. -/
inductive PacketKind where
  | tcp (sourcePort : BitVec 16)
  | udp (sourcePort : BitVec 16)
  | other

structure ParallelTunnels where
  running : Bool
  roundRobinCursor : Nat
  connections : List Channel

namespace ParallelTunnels

variable (sizeRange : Nat) (tunnels : ParallelTunnels)

/-- Where the scan of `Send` starts. -/
def startOf : PacketKind → Nat
  | .tcp sourcePort => sourcePort.toNat
  | .udp sourcePort => sourcePort.toNat
  | .other => tunnels.roundRobinCursor

/-- `(start + i) % count`, added up as `std::size_t`. -/
def slot (start count i : Nat) : Nat :=
  (start + i) % sizeRange % count

/-- The loop of `Send` from round `i` on: the first connection whose client
is started. -/
def scan (connections : List Channel) (start i : Nat) : Nat → Option Nat
  | 0 => none
  | rounds + 1 =>
      let index := slot sizeRange start connections.length i
      if connections[index]?.any (·.client.isStarted) then
        some index
      else
        scan connections start (i + 1) rounds

/-- The cursor after `fetch_add(1)`, which only other packets call. -/
def advance (tunnels : ParallelTunnels) : PacketKind → ParallelTunnels
  | .other =>
      { tunnels with
        roundRobinCursor := (tunnels.roundRobinCursor + 1) % sizeRange }
  | _ => tunnels

/-- `Send`: the index of the connection whose client is given the packet, and
the strategy afterwards. -/
def send (packet : PacketKind) : Option Nat × ParallelTunnels :=
  if tunnels.running = false ∨ tunnels.connections = [] then
    (none, tunnels)
  else
    (scan sizeRange tunnels.connections (tunnels.startOf packet) 0
        tunnels.connections.length,
      tunnels.advance sizeRange packet)

end ParallelTunnels

end Fptn.Connection.PoolStrategies
