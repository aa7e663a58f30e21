import Fptn.Connection.PoolStrategies

/-!
# The connection manager and its supervisor

`ConnectionManager` runs its strategies in the thread `th_`, while another
thread calls `Start`, `Stop` and the destructor.  `VpnManager` is that other
thread: its supervisor restarts a manager which is no longer running, and its
owner stops and destroys it.

A step is what one thread does between two points where another one can come
in: an access to an atomic flag, or a section under a mutex.  A place says
which step of a function comes next.  `std::terminate` ends the program.
-/

namespace Fptn.Connection.Manager

open Fptn.Connection.PoolStrategies (WebsocketClient)

/-! ## The strategies -/

inductive ConnectionStrategy where
  | persistentTunnel
  | browserMimicry
  | dualTunnel
  | tripleTunnel
  | rollingTunnel
deriving DecidableEq

/-- What `strategy_connection_` points to.  Only `PersistentTunnel` keeps a
client of its own; the others are driven by `RunEventLoop`. -/
structure Strategy where
  kind : ConnectionStrategy
  runningStatus : Bool
  websocketClient : Option WebsocketClient
deriving DecidableEq

namespace Strategy

def create (kind : ConnectionStrategy) : Strategy where
  kind := kind
  runningStatus := false
  websocketClient := none

def setRunningStatus (strategy : Strategy) (value : Bool) : Strategy :=
  { strategy with runningStatus := value }

/-- `Stop`, under the mutex of the strategy. -/
def stop (strategy : Strategy) : Strategy :=
  { strategy with
    runningStatus := false
    websocketClient := strategy.websocketClient.map (·.stop) }

/-- The start of `PersistentTunnel::Start` creates the client. -/
def createClient (strategy : Strategy) : Strategy :=
  if strategy.kind = .persistentTunnel then
    { strategy with websocketClient := some .create }
  else
    strategy

def runClient (strategy : Strategy) : Strategy :=
  { strategy with
    websocketClient := strategy.websocketClient.map (·.run) }

/-- The test of the event loop. -/
def loops (strategy : Strategy) : Bool :=
  strategy.runningStatus &&
    (strategy.kind != .persistentTunnel ||
      strategy.websocketClient.any fun client => !client.isStopped)

/-- What follows the event loop: only `PersistentTunnel` clears its flag. -/
def leaveLoop (strategy : Strategy) : Strategy :=
  if strategy.kind = .persistentTunnel then
    strategy.setRunningStatus false
  else
    strategy

end Strategy

/-! ## ConnectionManager -/

/-- Where `Run` is, in the thread `th_`. -/
inductive RunPlace where
  | begin
  /-- `while (running_ && reconnection_attempts_ < max_reconnection)`. -/
  | loopTest
  /-- The section which creates the strategy. -/
  | create
  /-- `if (running_ && strategy_connection_)`. -/
  | startTest
  /-- The strategy's `Start` has been called. -/
  | strategyStart
  /-- `SetRunningStatus(true)` comes next. -/
  | setRunning
  | runClient
  /-- The test of the event loop. -/
  | eventLoop
  /-- `poll_one`. -/
  | poll
  | leaveLoop
  /-- `if (!running_)` after the strategy. -/
  | afterStart
  | clean
  | count
  /-- The last statement, `running_ = false`. -/
  | ended
  /-- The thread has finished, but has not been joined. -/
  | finished
deriving DecidableEq

/-- What the thread which controls the manager is calling. -/
inductive Call where
  | idle
  /-- `Start`, before `running_ = true`. -/
  | start
  /-- `Start`, before the assignment to `th_`. -/
  | startThread
  /-- `Stop`, before the first test of `running_`. -/
  | stop
  /-- The section which clears `running_`. -/
  | stopLock
  | stopStrategy
  | stopJoin
  | stopReset
  /-- The destructor. -/
  | destroy
deriving DecidableEq

structure Config where
  strategyType : ConnectionStrategy
  maxReconnections : Nat

structure ConnectionManager where
  running : Bool
  reconnectionAttempts : Nat
  strategyConnection : Option Strategy
  /-- The thread of `th_`, which is joinable until it has been joined. -/
  thread : Option RunPlace
  call : Call
  destroyed : Bool
  /-- `std::terminate` has been called. -/
  terminated : Bool
deriving DecidableEq

namespace ConnectionManager

def init : ConnectionManager where
  running := false
  reconnectionAttempts := 0
  strategyConnection := none
  thread := none
  call := .idle
  destroyed := false
  terminated := false

variable (config : Config) (manager : ConnectionManager)

def goto (place : RunPlace) : ConnectionManager :=
  { manager with thread := some place }

def setStrategy (strategy : Strategy) : ConnectionManager :=
  { manager with strategyConnection := some strategy }

/-- The next step of `Run`.  `elapsed` says whether the time window is over
when the attempts are counted. -/
def runStep (elapsed : Bool) : Option ConnectionManager :=
  match manager.thread, manager.strategyConnection with
  | some .begin, _ =>
      some ({ manager with reconnectionAttempts := 0 }.goto .loopTest)
  | some .loopTest, _ =>
      if manager.running = true ∧
          manager.reconnectionAttempts < config.maxReconnections then
        some (manager.goto .create)
      else
        some (manager.goto .ended)
  | some .create, _ =>
      if manager.running then
        some ((manager.setStrategy
          (Strategy.create config.strategyType)).goto .startTest)
      else
        some (manager.goto .startTest)
  | some .startTest, strategy =>
      if manager.running = true ∧ strategy.isSome = true then
        some (manager.goto .strategyStart)
      else
        some (manager.goto .afterStart)
  | some .strategyStart, some strategy =>
      some ((manager.setStrategy strategy.createClient).goto .setRunning)
  | some .setRunning, some strategy =>
      some ((manager.setStrategy
        (strategy.setRunningStatus true)).goto .runClient)
  | some .runClient, some strategy =>
      some ((manager.setStrategy strategy.runClient).goto .eventLoop)
  | some .eventLoop, some strategy =>
      if strategy.loops then
        some (manager.goto .poll)
      else
        some (manager.goto .leaveLoop)
  | some .poll, some _ => some (manager.goto .eventLoop)
  | some .leaveLoop, some strategy =>
      some ((manager.setStrategy strategy.leaveLoop).goto .afterStart)
  | some .afterStart, _ =>
      if manager.running then
        some (manager.goto .clean)
      else
        some (manager.goto .ended)
  | some .clean, _ =>
      if manager.running then
        some ({ manager with strategyConnection := none }.goto .count)
      else
        some (manager.goto .count)
  | some .count, _ =>
      let attempts :=
        if elapsed then 0 else manager.reconnectionAttempts + 1
      some
        ({ manager with reconnectionAttempts := attempts }.goto .loopTest)
  | some .ended, _ =>
      some ({ manager with running := false }.goto .finished)
  | some .finished, _ => none
  | some .strategyStart, none | some .setRunning, none
  | some .runClient, none | some .eventLoop, none
  | some .poll, none | some .leaveLoop, none => none
  | none, _ => none

/-- The next step of the call. -/
def callStep : Option ConnectionManager :=
  match manager.call with
  | .idle => none
  | .start =>
      some { manager with running := true, call := .startThread }
  | .startThread =>
      if manager.thread.isSome then
        some { manager with terminated := true }
      else
        some { manager with thread := some .begin, call := .idle }
  | .stop =>
      if manager.running then
        some { manager with call := .stopLock }
      else
        some { manager with call := .idle }
  | .stopLock =>
      if manager.running then
        some { manager with running := false, call := .stopStrategy }
      else
        some { manager with call := .idle }
  | .stopStrategy =>
      some { manager with
        strategyConnection := manager.strategyConnection.map (·.stop)
        call := .stopJoin }
  | .stopJoin =>
      match manager.thread with
      | some .finished =>
          some { manager with thread := none, call := .stopReset }
      | none => some { manager with call := .stopReset }
      | some _ => none
  | .stopReset =>
      some { manager with strategyConnection := none, call := .idle }
  | .destroy =>
      if manager.thread.isSome then
        some { manager with terminated := true }
      else
        some { manager with
          strategyConnection := none
          destroyed := true
          call := .idle }

/-- What happens to the strategy while `Run` polls: its client changes, or its
coroutine finds the pool empty. -/
inductive StrategyEvent where
  | clientChanges (client : WebsocketClient)
  | clearRunning

def strategyStep (event : StrategyEvent) : Option ConnectionManager :=
  match manager.strategyConnection with
  | none => none
  | some strategy =>
      match event with
      | .clientChanges client =>
          if strategy.websocketClient.isSome then
            some (manager.setStrategy
              { strategy with websocketClient := some client })
          else
            none
      | .clearRunning =>
          if manager.thread = some .poll then
            some (manager.setStrategy (strategy.setRunningStatus false))
          else
            none

/-- Steps of the manager which nobody has to ask for. -/
inductive Label where
  | run (elapsed : Bool)
  | call
  | strategy (event : StrategyEvent)

def internalStep : Label → Option ConnectionManager
  | .run elapsed => runStep config manager elapsed
  | .call => callStep manager
  | .strategy event => strategyStep manager event

/-- Nothing happens after `std::terminate`, or without the object. -/
def step (label : Label) : Option ConnectionManager :=
  if manager.terminated = true ∨ manager.destroyed = true then
    none
  else
    internalStep config manager label

end ConnectionManager

/-! ## VpnManager -/

/-- Where `Supervise` is. -/
inductive SupervisorPlace where
  | notStarted
  | loopTest
  /-- The wait of two seconds. -/
  | wait
  | checkRunning
  | checkConnected
  | checkStarted
  | restart
  /-- In `http_client->Stop()`. -/
  | stopping
  /-- The wait for the next attempt, and the test of `running_`. -/
  | backoff
  /-- In `http_client->Start()`. -/
  | starting
  | done
deriving DecidableEq

/-- Where the thread is which starts and stops the `VpnManager`. -/
inductive OwnerPlace where
  | created
  /-- In `http_client->Start()`. -/
  | starting
  | started
  /-- `Stop` joins the supervisor. -/
  | joining
  /-- In `http_client->Stop()`. -/
  | stopping
  /-- In the `Stop` of `~Client`. -/
  | clientStop
  /-- In `~ConnectionManager`. -/
  | destroying
  | stopped
deriving DecidableEq

structure VpnManager where
  manager : ConnectionManager
  running : Bool
  fullRestartCount : Nat
  supervisor : SupervisorPlace
  owner : OwnerPlace
deriving DecidableEq

namespace VpnManager

def init : VpnManager where
  manager := .init
  running := false
  fullRestartCount := 0
  supervisor := .notStarted
  owner := .created

variable (config : Config) (maxFullRestarts : Int) (vpn : VpnManager)

/-- Call a function of the manager. -/
def begin (call : Call) : VpnManager :=
  { vpn with manager := { vpn.manager with call := call } }

/-- The next step of `Supervise`.  `connected` is what `IsConnected` answers:
only a running manager with a strategy can be connected. -/
def superviseStep (connected : Bool) : Option VpnManager :=
  match vpn.supervisor with
  | .notStarted | .done => none
  | .loopTest =>
      if vpn.running then
        some { vpn with supervisor := .wait }
      else
        some { vpn with supervisor := .done }
  | .wait => some { vpn with supervisor := .checkRunning }
  | .checkRunning =>
      if vpn.running then
        some { vpn with supervisor := .checkConnected }
      else
        some { vpn with supervisor := .done }
  | .checkConnected =>
      if connected = true ∧ vpn.manager.running = true ∧
          vpn.manager.strategyConnection.isSome = true then
        some { vpn with fullRestartCount := 0, supervisor := .loopTest }
      else
        some { vpn with supervisor := .checkStarted }
  | .checkStarted =>
      if vpn.manager.running then
        some { vpn with supervisor := .loopTest }
      else
        some { vpn with supervisor := .restart }
  | .restart =>
      if 0 < maxFullRestarts ∧
          maxFullRestarts ≤ vpn.fullRestartCount then
        some { vpn with supervisor := .done }
      else
        some ({ vpn with
          fullRestartCount := vpn.fullRestartCount + 1
          supervisor := .stopping }.begin .stop)
  | .stopping =>
      if vpn.manager.call = .idle then
        some { vpn with supervisor := .backoff }
      else
        none
  | .backoff =>
      if vpn.running then
        some ({ vpn with supervisor := .starting }.begin .start)
      else
        some { vpn with supervisor := .done }
  | .starting =>
      if vpn.manager.call = .idle then
        some { vpn with supervisor := .loopTest }
      else
        none

/-- What the owner of a `VpnManager` decides. -/
inductive OwnerChoice where
  /-- `Start`, with or without a TUN device. -/
  | start (tunOpened : Bool)
  /-- `Stop`, also as called by the destructor. -/
  | stop
  /-- The destructor of a manager which has never been started. -/
  | destroy
  /-- Go on with the function it is in. -/
  | proceed
deriving DecidableEq

def ownerStep (choice : OwnerChoice) : Option VpnManager :=
  match vpn.owner, choice with
  | .created, .start true =>
      some ({ vpn with running := true, owner := .starting }.begin .start)
  | .created, .start false =>
      some { vpn with running := true, owner := .started }
  | .created, .destroy =>
      some ({ vpn with owner := .clientStop }.begin .stop)
  | .starting, .proceed =>
      if vpn.manager.call = .idle then
        some { vpn with supervisor := .loopTest, owner := .started }
      else
        none
  | .started, .stop =>
      some { vpn with running := false, owner := .joining }
  | .joining, .proceed =>
      if vpn.supervisor = .notStarted ∨ vpn.supervisor = .done then
        some ({ vpn with owner := .stopping }.begin .stop)
      else
        none
  | .stopping, .proceed =>
      if vpn.manager.call = .idle then
        some ({ vpn with owner := .clientStop }.begin .stop)
      else
        none
  | .clientStop, .proceed =>
      if vpn.manager.call = .idle then
        some ({ vpn with owner := .destroying }.begin .destroy)
      else
        none
  | .destroying, .proceed =>
      if vpn.manager.call = .idle then
        some { vpn with owner := .stopped }
      else
        none
  | _, _ => none

inductive Label where
  | manager (label : ConnectionManager.Label)
  | supervise (connected : Bool)
  | owner (choice : OwnerChoice)

def step (vpn : VpnManager) : Label → Option VpnManager
  | .manager label =>
      (vpn.manager.step config label).map fun manager =>
        { vpn with manager := manager }
  | .supervise connected =>
      if vpn.manager.terminated then
        none
      else
        vpn.superviseStep maxFullRestarts connected
  | .owner choice =>
      if vpn.manager.terminated then none else vpn.ownerStep choice

end VpnManager

end Fptn.Connection.Manager
