import Fptn.Connection.Rolling
import Fptn.Connection.TunnelLifetimes

/-!
# The pool of parallel tunnels

`ParallelTunnels` keeps some connections to the server, closes each of them at
its own time and opens another in its place.  As with `RollingTunnel`, its
coroutine and the handlers of the websocket clients run on the thread of the
event loop, and `Stop` is called from others.
-/

namespace Fptn.Connection.TunnelPool

open Fptn.Connection.PoolStrategies (Channel ConnectionId TimePoint
  WebsocketClient)
open Fptn.Connection.Rolling
open Fptn.Connection.TunnelLifetimes
open Fptn.Connection.TunnelLifetimes.Parameters

/-- A `Channel`, whose client is shared. -/
structure PoolChannel where
  connectionId : ConnectionId
  closeAt : TimePoint
  client : ClientPtr
deriving DecidableEq

/-- How often `CreateNewConnection` looks whether its client is started. -/
def kConnectAttempts : Nat := 10

/-- Where `ManageCoroutine` is, the coroutines it awaits included. -/
inductive Place where
  /-- It has not been spawned. -/
  | absent
  | whileStarted
  | removeClosedConnections
  /-- The first test of `CreateMissingConnections`. -/
  | checkStarted
  | countHealthy
  | checkSize
  | checkSpawnTime
  | createNewConnection
  | awaitStarted (channel : PoolChannel) (attempt : Nat)
  | stopFailed (channel : PoolChannel)
  | pushChannel (channel : PoolChannel)
  | checkEmpty
  /-- `SetRunningStatus(false)` before the loop is left. -/
  | giveUp
  | notifyConnectedOnce
  | setNotified
  | finished
deriving DecidableEq

structure ParallelTunnels where
  running : Bool
  connectedNotified : Bool
  connectionIdCounter : ConnectionId
  lastSpawnTime : TimePoint
  connections : List PoolChannel
  nextClient : ClientPtr
  client : ClientPtr → WebsocketClient
  place : Place
  suspended : Bool
  loop : LoopPlace
  /-- The clients which a `Stop` at work has not yet come to.  The mutex is
  taken exactly while there is one. -/
  stopping : Option (List ClientPtr)
  /-- What the detached coroutines will stop, each of them in one go. -/
  closing : List (List ClientPtr)
  /-- How often the connection has been announced. -/
  notifications : Nat

/-- What a step reads from the clocks.  `created` is the time from which a new
connection is counted. -/
structure Clocks where
  system : TimePoint
  steady : TimePoint
  created : TimePoint

namespace ParallelTunnels

/-- A pool which has not been started. -/
def create : ParallelTunnels where
  running := false
  connectedNotified := false
  connectionIdCounter := 0
  lastSpawnTime := 0
  connections := []
  nextClient := 0
  client _ := .create
  place := .absent
  suspended := false
  loop := .notStarted
  stopping := none
  closing := []
  notifications := 0

variable (parameters : Parameters) (pool : ParallelTunnels)

/-- A channel with the flags of its client. -/
def channel (entry : PoolChannel) : Channel where
  connectionId := entry.connectionId
  closeAt := entry.closeAt
  client := pool.client entry.client

def channels : List (Option Channel) :=
  pool.connections.map fun entry => some (pool.channel entry)

/-- What `RemoveClosedConnections` calls dead. -/
def dead (now : TimePoint) (entry : PoolChannel) : Bool :=
  (pool.client entry.client).isStopped || decide (now ≥ entry.closeAt)

def healthyCount (now : TimePoint) : Nat :=
  let deadline :=
    now + kReplacementLeadSeconds * parameters.ticksPerSecond
  pool.connections.countP fun entry =>
    (pool.client entry.client).isStarted &&
      decide (entry.closeAt > deadline)

def isConnected : Bool :=
  pool.connections.any fun entry => (pool.client entry.client).isStarted

def setClient (connection : ClientPtr) (client : WebsocketClient) :
    ParallelTunnels :=
  { pool with client := Function.update pool.client connection client }

/-- `Stop` of a websocket client. -/
def stopClient (pool : ParallelTunnels) (connection : ClientPtr) :
    ParallelTunnels :=
  pool.setClient connection (pool.client connection).stop

def goto (place : Place) : ParallelTunnels :=
  { pool with place := place }

/-- The handler of the coroutine returns to the event loop. -/
def suspend (place : Place) : ParallelTunnels :=
  { pool with place := place, suspended := true, loop := .testing }

def removeClosedConnections (now : TimePoint) : ParallelTunnels :=
  let deadConnections := pool.connections.filter (pool.dead now)
  let remaining := pool.connections.filter fun entry =>
    !pool.dead now entry
  let removed := { pool with connections := remaining }
  if deadConnections = [] then
    removed
  else
    { removed with
      closing :=
        pool.closing ++ [deadConnections.map PoolChannel.client] }

/-- The start of `CreateNewConnection`, up to its first `co_await`. -/
def createNewConnection (created : TimePoint) (lifetimeSeconds : Int) :
    ParallelTunnels :=
  let id := pool.connectionIdCounter + 1
  let counted := {
    pool with
    connectionIdCounter := id
    nextClient := pool.nextClient + 1 }
  (counted.setClient pool.nextClient WebsocketClient.create.run).suspend
    (.awaitStarted {
      connectionId := id
      closeAt := parameters.closeAtOf created lifetimeSeconds
      client := pool.nextClient } 0)

/-- The next step of the coroutine.  It has none while it waits for the mutex,
or if a lifetime is out of range. -/
def manageStep (clocks : Clocks) : Option ParallelTunnels :=
  match pool.place with
  | .absent | .finished => none
  | .whileStarted =>
      if pool.running then
        some (pool.suspend .removeClosedConnections)
      else
        some (pool.suspend .finished)
  | .removeClosedConnections =>
      if pool.stopping.isSome then
        none
      else
        some ((pool.removeClosedConnections clocks.system).goto
          .checkStarted)
  | .checkStarted =>
      if pool.running then
        some (pool.goto .countHealthy)
      else
        some (pool.goto .checkEmpty)
  | .countHealthy =>
      if pool.stopping.isSome then
        none
      else if pool.healthyCount parameters clocks.system ≥
          parameters.connectionCount then
        some (pool.goto .checkEmpty)
      else
        some (pool.goto .checkSize)
  | .checkSize =>
      if pool.stopping.isSome then
        none
      else if pool.connections.length ≥ parameters.kMaxConnections then
        some (pool.goto .checkEmpty)
      else
        some (pool.goto .checkSpawnTime)
  | .checkSpawnTime =>
      if parameters.staggerSeconds > 0 ∧
          clocks.steady - pool.lastSpawnTime <
            parameters.staggerSeconds * parameters.ticksPerSecond then
        some (pool.goto .checkEmpty)
      else
        some (pool.goto .createNewConnection)
  | .createNewConnection =>
      if pool.stopping.isSome then
        none
      else
        (parameters.nextLifetimeSeconds pool.channels clocks.system).map
          (pool.createNewConnection parameters clocks.created)
  | .awaitStarted entry attempt =>
      if attempt < kConnectAttempts then
        if (pool.client entry.client).isStarted then
          some (pool.goto (.pushChannel entry))
        else if (pool.client entry.client).isStopped then
          some (pool.goto (.stopFailed entry))
        else
          some (pool.suspend (.awaitStarted entry (attempt + 1)))
      else
        some (pool.goto (.stopFailed entry))
  | .stopFailed entry =>
      some ((pool.stopClient entry.client).goto .checkEmpty)
  | .pushChannel entry =>
      if pool.stopping.isSome then
        none
      else
        some ({ pool with
          connections := pool.connections ++ [entry]
          lastSpawnTime := clocks.steady }.goto .checkEmpty)
  | .checkEmpty =>
      if pool.stopping.isSome then
        none
      else if pool.connections = [] then
        some (pool.goto .giveUp)
      else
        some (pool.goto .notifyConnectedOnce)
  | .giveUp =>
      some ({ pool with running := false }.suspend .finished)
  | .notifyConnectedOnce =>
      if pool.connectedNotified then
        some (pool.suspend .whileStarted)
      else if pool.stopping.isSome then
        none
      else if pool.isConnected then
        some (pool.goto .setNotified)
      else
        some (pool.suspend .whileStarted)
  | .setNotified =>
      some ({ pool with
        connectedNotified := true
        notifications := pool.notifications + 1 }.suspend .whileStarted)

/-- The next step of a thread inside `Stop`. -/
def stopStep : ParallelTunnels :=
  match pool.stopping with
  | none =>
      { pool with
        running := false
        stopping := some (pool.connections.map PoolChannel.client) }
  | some (connection :: rest) =>
      { pool.stopClient connection with stopping := some rest }
  | some [] => { pool with connections := [], stopping := none }

inductive Label where
  /-- `Start`, which is called once. -/
  | start
  /-- `RunEventLoop` tests the flag. -/
  | test
  /-- No handler is ready. -/
  | idle
  /-- The handler which resumes the coroutine. -/
  | resume
  | manage (clocks : Clocks)
  /-- A handler of a websocket client. -/
  | client (connection : ClientPtr) (event : ClientEvent)
  /-- A detached coroutine stops the clients which it was given. -/
  | stopClosed
  | stop

/-- `poll_one` takes the next handler. -/
def Polls : Prop :=
  pool.loop = .polling ∧ pool.suspended = true

instance : Decidable pool.Polls :=
  inferInstanceAs (Decidable (_ ∧ _))

def step (pool : ParallelTunnels) : Label → Option ParallelTunnels
  | .start =>
      if pool.place = .absent then
        some ({ pool with running := true }.suspend .whileStarted)
      else
        none
  | .test =>
      if pool.loop = .testing then
        if pool.running then
          some { pool with loop := .polling }
        else
          some { pool with loop := .left }
      else
        none
  | .idle =>
      if pool.Polls then
        some { pool with loop := .testing }
      else
        none
  | .resume =>
      if pool.Polls then
        some { pool with suspended := false }
      else
        none
  | .manage clocks =>
      if pool.loop = .polling ∧ pool.suspended = false then
        pool.manageStep parameters clocks
      else
        none
  | .client connection event =>
      if pool.Polls ∧ connection < pool.nextClient then
        some { pool.setClient connection
            (event.apply (pool.client connection)) with
          loop := .testing }
      else
        none
  | .stopClosed =>
      if pool.Polls then
        match pool.closing with
        | [] => none
        | closed :: rest =>
            some { closed.foldl stopClient pool with
              closing := rest
              loop := .testing }
      else
        none
  | .stop => some pool.stopStep

end ParallelTunnels

end Fptn.Connection.TunnelPool
