import Fptn.Connection.PoolStrategies
import Fptn.Lib.PartialRun

/-!
# RollingTunnel

`RollingTunnel` keeps one connection to the server and brings up a new one
every few minutes.  Its coroutine runs on the thread of the event loop, which
polls one handler at a time; the handlers of the websocket clients run on the
same thread, while `Stop` is called from others.  What holds the mutex without
interruption is one step, and so is each access to an atomic.
-/

namespace Fptn.Connection.Rolling

open Fptn.Connection.PoolStrategies

/-- A `shared_ptr` to a websocket client. -/
abbrev ClientPtr := Nat

def kRenewAfterSeconds : Int := 540

def kConnectBudgetSeconds : Int := 60

/-- Where `ManageCoroutine` is, the coroutines it awaits included. -/
inductive Place where
  /-- It has not been spawned. -/
  | absent
  | whileStarted
  | checkStopped
  | checkRenew
  | createNewConnection
  /-- Before the deadline is set. -/
  | startWaiting (connection : ClientPtr)
  | awaitStarted (connection : ClientPtr) (deadline : TimePoint)
  /-- `Stop` of a connection which has not come up. -/
  | stopFailed (connection : ClientPtr)
  /-- `RenewConnection` before it takes the mutex. -/
  | switchOver (connection : ClientPtr)
  /-- `RenewConnection` before it spawns the `Stop` of the old connection. -/
  | spawnStop (previous : Option ClientPtr)
  | notifyConnectedOnce
  | setNotified
  /-- `SetRunningStatus(false)` before the loop is left. -/
  | giveUp
  | finished
deriving DecidableEq

/-- Where `RunEventLoop` is. -/
inductive LoopPlace where
  | notStarted
  /-- `while (running_)`. -/
  | testing
  /-- `poll_one`, until its handler returns or is suspended. -/
  | polling
  | left
deriving DecidableEq

/-- Where a thread which holds the mutex is inside `Stop`. -/
inductive StopPlace where
  | stopConnection
  | reset
deriving DecidableEq

structure RollingTunnel where
  running : Bool
  connectedNotified : Bool
  connectionIdCounter : ConnectionId
  activeConnection : Option ClientPtr
  renewAt : TimePoint
  nextClient : ClientPtr
  client : ClientPtr → WebsocketClient
  place : Place
  suspended : Bool
  loop : LoopPlace
  /-- The mutex is taken exactly while a `Stop` is at work. -/
  stopping : Option StopPlace
  /-- The old connections which the detached coroutines will stop. -/
  closing : List ClientPtr
  /-- How often the connection has been announced. -/
  notifications : Nat

/-- What the handlers of a websocket client do to its flags. -/
inductive ClientEvent where
  /-- `Connect` has come to its end. -/
  | connected
  /-- The reader or the sender ends. -/
  | lost
  /-- `Stop` of the watchdog, or after a failed `RunInternal`. -/
  | stops

def ClientEvent.apply (client : WebsocketClient) :
    ClientEvent → WebsocketClient
  | .connected => { client with wasConnected := true }
  | .lost => { client with wasConnected := false }
  | .stops => client.stop

namespace RollingTunnel

/-- A tunnel which has not been started. -/
def create : RollingTunnel where
  running := false
  connectedNotified := false
  connectionIdCounter := 0
  activeConnection := none
  renewAt := 0
  nextClient := 0
  client _ := .create
  place := .absent
  suspended := false
  loop := .notStarted
  stopping := none
  closing := []
  notifications := 0

variable (second : TimePoint) (tunnel : RollingTunnel)

def hasActiveConnection : Bool :=
  tunnel.activeConnection.isSome

def activeConnectionIsStopped : Bool :=
  tunnel.activeConnection.any fun connection =>
    (tunnel.client connection).isStopped

def isConnected : Bool :=
  tunnel.activeConnection.any fun connection =>
    (tunnel.client connection).isStarted

def setClient (connection : ClientPtr) (client : WebsocketClient) :
    RollingTunnel :=
  { tunnel with client := Function.update tunnel.client connection client }

/-- `Stop` of a websocket client. -/
def stopClient (connection : ClientPtr) : RollingTunnel :=
  tunnel.setClient connection (tunnel.client connection).stop

def goto (place : Place) : RollingTunnel :=
  { tunnel with place := place }

/-- The handler of the coroutine returns to the event loop. -/
def suspend (place : Place) : RollingTunnel :=
  { tunnel with place := place, suspended := true, loop := .testing }

/-- The start of `CreateNewConnection`, up to its first `co_await`. -/
def createNewConnection : RollingTunnel :=
  let connection := tunnel.nextClient
  let counted := {
    tunnel with
    connectionIdCounter := tunnel.connectionIdCounter + 1
    nextClient := connection + 1 }
  (counted.setClient connection WebsocketClient.create.run).suspend
    (.startWaiting connection)

/-- The part of `RenewConnection` under the mutex. -/
def switchOver (connection : ClientPtr) (now : TimePoint) :
    RollingTunnel :=
  { tunnel with
    activeConnection := some connection
    renewAt := now + kRenewAfterSeconds * second
    place := .spawnStop tunnel.activeConnection }

/-- The next step of the coroutine, and what it reads from the clocks. -/
def manageStep (systemNow steadyNow : TimePoint) :
    Option RollingTunnel :=
  match tunnel.place with
  | .absent | .finished => none
  | .whileStarted =>
      if tunnel.running then
        some (tunnel.suspend .checkStopped)
      else
        some (tunnel.suspend .finished)
  | .checkStopped =>
      if tunnel.stopping.isSome then
        none
      else if tunnel.activeConnectionIsStopped then
        some (tunnel.goto .giveUp)
      else
        some (tunnel.goto .checkRenew)
  | .checkRenew =>
      if tunnel.stopping.isSome then
        none
      else if !tunnel.hasActiveConnection || tunnel.renewAt ≤ systemNow then
        some (tunnel.goto .createNewConnection)
      else
        some (tunnel.goto .notifyConnectedOnce)
  | .createNewConnection => some tunnel.createNewConnection
  | .startWaiting connection =>
      some (tunnel.goto (.awaitStarted connection
        (steadyNow + kConnectBudgetSeconds * second)))
  | .awaitStarted connection deadline =>
      if steadyNow < deadline then
        if (tunnel.client connection).isStarted then
          some (tunnel.goto (.switchOver connection))
        else if (tunnel.client connection).isStopped then
          some (tunnel.goto (.stopFailed connection))
        else
          some (tunnel.suspend (.awaitStarted connection deadline))
      else
        some (tunnel.goto (.stopFailed connection))
  | .stopFailed connection =>
      some ((tunnel.stopClient connection).goto .giveUp)
  | .switchOver connection =>
      if tunnel.stopping.isSome then
        none
      else
        some (tunnel.switchOver second connection systemNow)
  | .spawnStop previous =>
      some ({ tunnel with
        closing := tunnel.closing ++ previous.toList }.goto
          .notifyConnectedOnce)
  | .notifyConnectedOnce =>
      if tunnel.connectedNotified then
        some (tunnel.suspend .whileStarted)
      else if tunnel.stopping.isSome then
        none
      else if tunnel.isConnected then
        some (tunnel.goto .setNotified)
      else
        some (tunnel.suspend .whileStarted)
  | .setNotified =>
      some ({ tunnel with
        connectedNotified := true
        notifications := tunnel.notifications + 1 }.suspend .whileStarted)
  | .giveUp =>
      some ({ tunnel with running := false }.suspend .finished)

/-- The next step of a thread inside `Stop`. -/
def stopStep : RollingTunnel :=
  match tunnel.stopping with
  | none =>
      { tunnel with running := false, stopping := some .stopConnection }
  | some .stopConnection =>
      match tunnel.activeConnection with
      | none => { tunnel with stopping := some .reset }
      | some connection =>
          { tunnel.stopClient connection with stopping := some .reset }
  | some .reset =>
      { tunnel with activeConnection := none, stopping := none }

inductive Label where
  /-- `Start`, which is called once. -/
  | start
  /-- `RunEventLoop` tests the flag. -/
  | test
  /-- No handler is ready. -/
  | idle
  /-- The handler which resumes the coroutine. -/
  | resume
  | manage (systemNow steadyNow : TimePoint)
  /-- A handler of a websocket client. -/
  | client (connection : ClientPtr) (event : ClientEvent)
  /-- The detached coroutine which stops an old connection. -/
  | stopPrevious
  | stop

/-- `poll_one` takes the next handler. -/
def Polls : Prop :=
  tunnel.loop = .polling ∧ tunnel.suspended = true

instance : Decidable tunnel.Polls :=
  inferInstanceAs (Decidable (_ ∧ _))

def step (tunnel : RollingTunnel) : Label → Option RollingTunnel
  | .start =>
      if tunnel.place = .absent then
        some ({ tunnel with running := true }.suspend .whileStarted)
      else
        none
  | .test =>
      if tunnel.loop = .testing then
        if tunnel.running then
          some { tunnel with loop := .polling }
        else
          some { tunnel with loop := .left }
      else
        none
  | .idle =>
      if tunnel.Polls then
        some { tunnel with loop := .testing }
      else
        none
  | .resume =>
      if tunnel.Polls then
        some { tunnel with suspended := false }
      else
        none
  | .manage systemNow steadyNow =>
      if tunnel.loop = .polling ∧ tunnel.suspended = false then
        tunnel.manageStep second systemNow steadyNow
      else
        none
  | .client connection event =>
      if tunnel.Polls ∧ connection < tunnel.nextClient then
        some { tunnel.setClient connection
            (event.apply (tunnel.client connection)) with
          loop := .testing }
      else
        none
  | .stopPrevious =>
      if tunnel.Polls then
        match tunnel.closing with
        | [] => none
        | connection :: rest =>
            some { tunnel.stopClient connection with
              closing := rest
              loop := .testing }
      else
        none
  | .stop => some tunnel.stopStep

end RollingTunnel

end Fptn.Connection.Rolling
