import Fptn.Lib.PartialRun

/-!
# The supervisor of the client

`VpnManager::Supervise` watches the connection manager of the client.  When
the manager has given up, the supervisor restarts it with the routes taken
back in between, and waits a little longer before each restart.  A restart
count which is not reset by a connection ends its attempts.

The answers of the connection manager are arbitrary, and `Stop` may come at
any time.
-/

namespace Fptn.Vpn.Supervisor

open Fptn.PartialRun

/-! ## VpnManager -/

structure Config where
  maxFullRestarts : Int
  hasRouteManager : Bool

/-- What the manager asks of the routes and of the client. -/
inductive Call where
  | apply
  | clean
  | start
  | stop
deriving DecidableEq

def Config.unlimited (config : Config) : Bool :=
  config.maxFullRestarts ≤ 0

/-- A call to the route manager, if there is one. -/
def Config.routes (config : Config) (call : Call) : List Call :=
  if config.hasRouteManager then [call] else []

/-- In seconds. -/
def reconnectBackoff : Nat → Nat
  | 1 => 2
  | 2 => 5
  | 3 => 15
  | _ => 30

/-- How `Supervise` has ended. -/
inductive Ending where
  | stopped
  /-- In front of a restart. -/
  | stoppedInBackoff
  | gaveUp
deriving DecidableEq

/-- Where `Supervise` is. -/
inductive Place where
  /-- `while (running_)`. -/
  | loop
  /-- In the wait for the client to give up. -/
  | waiting
  /-- Behind it. -/
  | woken
  | givingUp
  /-- In front of `http_client->Stop()`. -/
  | stopping
  | backoff
  /-- In front of `Apply`. -/
  | applying
  | done (ending : Ending)
deriving DecidableEq

structure VpnManager where
  running : Bool
  everConnected : Bool
  gaveUp : Bool
  reconnecting : Bool
  reconnectAttempt : Nat
  fullRestartCount : Nat
  place : Place
  calls : List Call
  /-- How long the backoffs have lasted since a connection was last seen. -/
  waited : Nat
deriving DecidableEq

inductive Label where
  /-- `Stop`, until `running_` is false. -/
  | stop
  | loop
  /-- The wait is over. -/
  | wake
  /-- What `IsConnected` and then `IsStarted` answer. -/
  | check (connected started : Bool)
  | giveUp
  | restart
  /-- The backoff is over after so many seconds. -/
  | backoff (elapsed : Nat)
  | resume
deriving DecidableEq

namespace VpnManager

/-- `Start` has opened the interface and starts the supervisor. -/
def start (config : Config) : VpnManager where
  running := true
  everConnected := false
  gaveUp := false
  reconnecting := false
  reconnectAttempt := 0
  fullRestartCount := 0
  place := .loop
  calls := config.routes .apply ++ [.start]
  waited := 0

variable (manager : VpnManager)

/-- `IsStarted`, by the answer of the client. -/
def isStarted (clientStarted : Bool) : Bool :=
  if !manager.running then false
  else if manager.gaveUp then false
  else if manager.everConnected then true
  else clientStarted

/-- The client has been seen connected. -/
def connected : VpnManager :=
  { manager with
    everConnected := true
    fullRestartCount := 0
    reconnecting := false
    reconnectAttempt := 0
    waited := 0
    place := .loop }

/-- A restart comes next, unless there have been too many. -/
def giveUpOrRestart (config : Config) : VpnManager :=
  if !config.unlimited &&
      decide (config.maxFullRestarts ≤ manager.fullRestartCount) then
    { manager with place := .givingUp }
  else
    { manager with
      fullRestartCount := manager.fullRestartCount + 1
      reconnectAttempt := manager.fullRestartCount + 1
      place := .stopping }

end VpnManager

def VpnManager.step (config : Config) (manager : VpnManager) :
    Label → Option VpnManager
  | .stop => some { manager with running := false }
  | .loop =>
      if manager.place = .loop then
        some
          { manager with
            place := if manager.running then .waiting else .done .stopped }
      else
        none
  | .wake =>
      if manager.place = .waiting then
        some { manager with place := .woken }
      else
        none
  | .check connected started =>
      if manager.place = .woken then
        if !manager.running then
          some { manager with place := .done .stopped }
        else if connected then
          some manager.connected
        else
          let watched :=
            { manager with
              reconnecting := manager.reconnecting || manager.everConnected }
          if started then
            some { watched with place := .loop }
          else
            some (watched.giveUpOrRestart config)
      else
        none
  | .giveUp =>
      if manager.place = .givingUp then
        some
          { manager with
            calls := manager.calls ++ config.routes .clean
            reconnecting := false
            gaveUp := true
            place := .done .gaveUp }
      else
        none
  | .restart =>
      if manager.place = .stopping then
        some
          { manager with
            calls := manager.calls ++ (.stop :: config.routes .clean)
            place := .backoff }
      else
        none
  | .backoff elapsed =>
      if manager.place = .backoff then
        if !manager.running then
          some { manager with place := .done .stoppedInBackoff }
        else if reconnectBackoff manager.fullRestartCount ≤ elapsed then
          some
            { manager with
              place := .applying, waited := manager.waited + elapsed }
        else
          none
      else
        none
  | .resume =>
      if manager.place = .applying then
        some
          { manager with
            calls := manager.calls ++ (config.routes .apply ++ [.start])
            place := .loop }
      else
        none

/-! ## Restarts -/

/-- How long the first backoffs last in all. -/
def totalBackoff : Nat → Nat
  | 0 => 0
  | count + 1 => totalBackoff count + reconnectBackoff (count + 1)

namespace Config

variable (config : Config)

def begin_ : List Call := config.routes .apply ++ [.start]

/-- The first half of a restart. -/
def takeBack : List Call := .stop :: config.routes .clean

/-- What comes behind the last restart which is complete. -/
def lastCalls : Place → List Call
  | .backoff | .applying | .done .stoppedInBackoff => config.takeBack
  | .done .gaveUp => config.routes .clean
  | .loop | .waiting | .woken | .givingUp | .stopping | .done .stopped => []

/-- So many restarts, one after the other. -/
def restarts (count : Nat) : List Call :=
  (List.replicate count (config.takeBack ++ config.begin_)).flatten

end Config

/-- The calls are those of restarts and some more. -/
def Config.Made (config : Config) (calls last : List Call) : Prop :=
  ∃ count, calls = config.begin_ ++ config.restarts count ++ last

/-- The last attempt has been made. -/
def Config.Exhausted (config : Config) (fullRestartCount : Nat) : Prop :=
  config.unlimited = false ∧
    (fullRestartCount : Int) = config.maxFullRestarts

/-- What has been done and waited for at a place. -/
def AtPlace (config : Config) (manager : VpnManager) : Prop :=
  let count := manager.fullRestartCount
  match manager.place with
  | .loop | .waiting | .woken | .done .stopped =>
      config.Made manager.calls [] ∧ totalBackoff count ≤ manager.waited
  | .givingUp =>
      config.Made manager.calls [] ∧
        totalBackoff count ≤ manager.waited ∧ config.Exhausted count
  | .stopping =>
      config.Made manager.calls [] ∧ 0 < count ∧
        totalBackoff (count - 1) ≤ manager.waited
  | .backoff | .done .stoppedInBackoff =>
      config.Made manager.calls config.takeBack ∧ 0 < count ∧
        totalBackoff (count - 1) ≤ manager.waited
  | .applying =>
      config.Made manager.calls config.takeBack ∧
        totalBackoff count ≤ manager.waited
  | .done .gaveUp =>
      config.Made manager.calls (config.routes .clean) ∧
        totalBackoff count ≤ manager.waited ∧ config.Exhausted count

structure Supervised (config : Config) (manager : VpnManager) : Prop where
  here : AtPlace config manager
  attempt : manager.reconnectAttempt = manager.fullRestartCount
  few : config.unlimited = false →
    (manager.fullRestartCount : Int) ≤ config.maxFullRestarts
  gaveUp : manager.gaveUp = true → manager.place = .done .gaveUp
  reconnecting : manager.reconnecting = true → manager.everConnected = true

section Steps

variable {config : Config} {manager next : VpnManager}
  {calls last : List Call}

theorem limited_iff :
    config.unlimited = false ↔ 0 < config.maxFullRestarts := by
  rw [Config.unlimited, decide_eq_false_iff_not, Int.not_le]

theorem made_begin : config.Made config.begin_ [] := by
  refine ⟨0, ?_⟩
  show config.begin_ = config.begin_ ++ [] ++ []
  rw [List.append_nil, List.append_nil]

theorem Config.Made.append (made : config.Made calls []) :
    config.Made (calls ++ last) last := by
  obtain ⟨count, rfl⟩ := made
  refine ⟨count, ?_⟩
  rw [List.append_nil]

/-- Another restart is complete. -/
theorem Config.Made.again (made : config.Made calls config.takeBack) :
    config.Made (calls ++ config.begin_) [] := by
  obtain ⟨count, rfl⟩ := made
  refine ⟨count + 1, ?_⟩
  rw [Config.restarts, Config.restarts, List.replicate_succ',
    List.flatten_append, List.flatten_singleton]
  simp only [List.append_assoc, List.append_nil]

theorem supervised_start : Supervised config (.start config) where
  here := ⟨made_begin, Nat.le_refl _⟩
  attempt := rfl
  few limited := Int.le_of_lt (limited_iff.mp limited)
  gaveUp gaveUp := by cases gaveUp
  reconnecting reconnecting := by cases reconnecting

/-- The supervisor moves on without a restart. -/
theorem Supervised.move {place : Place}
    (supervised : Supervised config manager)
    (before : manager.place ≠ .done .gaveUp)
    (here : AtPlace config { manager with place := place }) :
    Supervised config { manager with place := place } where
  here := here
  attempt := supervised.attempt
  few := supervised.few
  gaveUp gaveUp := absurd (supervised.gaveUp gaveUp) before
  reconnecting := supervised.reconnecting

theorem Supervised.connected (supervised : Supervised config manager)
    (woken : manager.place = .woken) :
    Supervised config manager.connected where
  here := by
    have here := supervised.here
    rw [AtPlace, woken] at here
    exact ⟨here.1, Nat.zero_le _⟩
  attempt := rfl
  few limited := Int.le_of_lt (limited_iff.mp limited)
  gaveUp gaveUp := by
    have place := supervised.gaveUp gaveUp
    rw [woken] at place
    cases place
  reconnecting reconnecting := by cases reconnecting

theorem Supervised.watch (supervised : Supervised config manager) :
    Supervised config
      { manager with
        reconnecting := manager.reconnecting || manager.everConnected } where
  here := supervised.here
  attempt := supervised.attempt
  few := supervised.few
  gaveUp := supervised.gaveUp
  reconnecting reconnecting := by
    rcases Bool.or_eq_true_iff.mp reconnecting with before | ever
    · exact supervised.reconnecting before
    · exact ever

theorem Supervised.giveUpOrRestart (supervised : Supervised config manager)
    (woken : manager.place = .woken) :
    Supervised config (manager.giveUpOrRestart config) := by
  have here := supervised.here
  rw [AtPlace, woken] at here
  have going : manager.place ≠ .done .gaveUp := by
    rw [woken]
    rintro ⟨⟩
  rw [VpnManager.giveUpOrRestart]
  split
  case isTrue exhausted =>
    rw [Bool.and_eq_true, Bool.not_eq_true', decide_eq_true_iff] at exhausted
    obtain ⟨limited, many⟩ := exhausted
    exact
      supervised.move going
        ⟨here.1, here.2, limited,
          Int.le_antisymm (supervised.few limited) many⟩
  case isFalse left =>
    refine
      ⟨⟨here.1, Nat.succ_pos _, here.2⟩, rfl, fun limited => ?_,
        fun gaveUp => absurd (supervised.gaveUp gaveUp) going,
        supervised.reconnecting⟩
    rw [limited, Bool.not_false, Bool.true_and, decide_eq_true_iff,
      Int.not_le] at left
    exact left

theorem Supervised.going (supervised : Supervised config manager)
    (before : manager.place ≠ .done .gaveUp) : manager.gaveUp ≠ true :=
  fun gaveUp => before (supervised.gaveUp gaveUp)

theorem step_loop (supervised : Supervised config manager)
    (taken : manager.step config .loop = some next) :
    Supervised config next := by
  rw [VpnManager.step] at taken
  split at taken
  case isFalse => cases taken
  case isTrue place =>
    cases taken
    have here := supervised.here
    rw [AtPlace, place] at here
    refine supervised.move (by rw [place]; rintro ⟨⟩) ?_
    cases running : manager.running with
    | true => exact here
    | false => exact here

theorem step_wake (supervised : Supervised config manager)
    (taken : manager.step config .wake = some next) :
    Supervised config next := by
  rw [VpnManager.step] at taken
  split at taken
  case isFalse => cases taken
  case isTrue place =>
    cases taken
    have here := supervised.here
    rw [AtPlace, place] at here
    exact supervised.move (by rw [place]; rintro ⟨⟩) here

theorem step_check {connected started : Bool}
    (supervised : Supervised config manager)
    (taken : manager.step config (.check connected started) = some next) :
    Supervised config next := by
  rw [VpnManager.step] at taken
  split at taken
  case isFalse => cases taken
  case isTrue place =>
    have here := supervised.here
    rw [AtPlace, place] at here
    have going : manager.place ≠ .done .gaveUp := by
      rw [place]
      rintro ⟨⟩
    split at taken
    case isTrue =>
      cases taken
      exact supervised.move going here
    case isFalse =>
      split at taken
      case isTrue =>
        cases taken
        exact supervised.connected place
      case isFalse =>
        simp only at taken
        split at taken
        case isTrue =>
          cases taken
          exact supervised.watch.move going here
        case isFalse =>
          cases taken
          exact supervised.watch.giveUpOrRestart place

theorem step_giveUp (supervised : Supervised config manager)
    (taken : manager.step config .giveUp = some next) :
    Supervised config next := by
  rw [VpnManager.step] at taken
  split at taken
  case isFalse => cases taken
  case isTrue place =>
    cases taken
    have here := supervised.here
    rw [AtPlace, place] at here
    exact
      ⟨⟨here.1.append, here.2⟩, supervised.attempt, supervised.few,
        fun _ => rfl, fun reconnecting => by cases reconnecting⟩

theorem step_restart (supervised : Supervised config manager)
    (taken : manager.step config .restart = some next) :
    Supervised config next := by
  rw [VpnManager.step] at taken
  split at taken
  case isFalse => cases taken
  case isTrue place =>
    cases taken
    have here := supervised.here
    rw [AtPlace, place] at here
    exact
      ⟨⟨here.1.append, here.2⟩, supervised.attempt, supervised.few,
        fun gaveUp =>
          absurd gaveUp (supervised.going (by rw [place]; rintro ⟨⟩)),
        supervised.reconnecting⟩

theorem step_backoff {elapsed : Nat}
    (supervised : Supervised config manager)
    (taken : manager.step config (.backoff elapsed) = some next) :
    Supervised config next := by
  rw [VpnManager.step] at taken
  split at taken
  case isFalse => cases taken
  case isTrue place =>
    have here := supervised.here
    rw [AtPlace, place] at here
    have going : manager.place ≠ .done .gaveUp := by
      rw [place]
      rintro ⟨⟩
    split at taken
    case isTrue =>
      cases taken
      exact supervised.move going here
    case isFalse =>
      split at taken
      case isFalse => cases taken
      case isTrue long =>
        cases taken
        obtain ⟨made, positive, waited⟩ := here
        refine
          ⟨⟨made, ?_⟩, supervised.attempt, supervised.few,
            fun gaveUp => absurd gaveUp (supervised.going going),
            supervised.reconnecting⟩
        show totalBackoff manager.fullRestartCount ≤
          manager.waited + elapsed
        rw [← Nat.sub_add_cancel positive, totalBackoff,
          Nat.sub_add_cancel positive]
        exact Nat.add_le_add waited long

theorem step_resume (supervised : Supervised config manager)
    (taken : manager.step config .resume = some next) :
    Supervised config next := by
  rw [VpnManager.step] at taken
  split at taken
  case isFalse => cases taken
  case isTrue place =>
    cases taken
    have here := supervised.here
    rw [AtPlace, place] at here
    exact
      ⟨⟨here.1.again, here.2⟩, supervised.attempt, supervised.few,
        fun gaveUp =>
          absurd gaveUp (supervised.going (by rw [place]; rintro ⟨⟩)),
        supervised.reconnecting⟩

/-- Each step keeps it. -/
theorem step_supervised {label : Label}
    (supervised : Supervised config manager)
    (taken : manager.step config label = some next) :
    Supervised config next := by
  cases label with
  | stop =>
      cases taken
      exact
        ⟨supervised.here, supervised.attempt, supervised.few,
          supervised.gaveUp, supervised.reconnecting⟩
  | loop => exact step_loop supervised taken
  | wake => exact step_wake supervised taken
  | check => exact step_check supervised taken
  | giveUp => exact step_giveUp supervised taken
  | restart => exact step_restart supervised taken
  | backoff => exact step_backoff supervised taken
  | resume => exact step_resume supervised taken

theorem run_supervised {labels : List Label}
    (reached : run (VpnManager.step config) (.start config) labels =
      some manager) : Supervised config manager :=
  run_invariant (fun _ _ _ => step_supervised) supervised_start reached

/-- The routes are taken back in front of each restart and at its end. -/
theorem AtPlace.made (here : AtPlace config manager) :
    config.Made manager.calls (config.lastCalls manager.place) := by
  rw [AtPlace] at here
  split at here
  all_goals
    rename_i place
    rw [place]
    exact here.1

/-- A supervisor which has given up does nothing more. -/
theorem step_gaveUp {label : Label}
    (before : manager.place = .done .gaveUp ∧ manager.gaveUp = true ∧
      manager.calls = calls)
    (taken : manager.step config label = some next) :
    next.place = .done .gaveUp ∧ next.gaveUp = true ∧ next.calls = calls := by
  cases label with
  | stop =>
      cases taken
      exact before
  | loop | wake | check | giveUp | restart | backoff | resume =>
      rw [VpnManager.step, before.1] at taken
      cases taken

end Steps

/-- The restarts of a client: its routes are in place whenever it is started,
and taken back while the supervisor waits for the next restart.  It gives up
after as many restarts as it may make without having seen a connection, with
all of their backoffs behind, and leaves the routes taken back; then the
client counts as stopped for good. -/
theorem restarts_supervised (config : Config) (labels : List Label)
    (manager : VpnManager)
    (reached : run (VpnManager.step config) (.start config) labels =
      some manager) :
    (∃ count, manager.calls =
      config.begin_ ++ config.restarts count ++
        config.lastCalls manager.place) ∧
      manager.reconnectAttempt = manager.fullRestartCount ∧
      (config.unlimited = false →
        (manager.fullRestartCount : Int) ≤ config.maxFullRestarts) ∧
      (manager.reconnecting = true → manager.everConnected = true) ∧
      (manager.gaveUp = true →
        manager.place = .done .gaveUp ∧ config.unlimited = false ∧
          (manager.fullRestartCount : Int) = config.maxFullRestarts ∧
          totalBackoff manager.fullRestartCount ≤ manager.waited ∧
          ∀ more later,
            run (VpnManager.step config) manager more = some later →
              later.place = .done .gaveUp ∧ later.calls = manager.calls ∧
                ∀ started, later.isStarted started = false) := by
  have supervised := run_supervised reached
  refine
    ⟨supervised.here.made, supervised.attempt, supervised.few,
      supervised.reconnecting, fun gaveUp => ?_⟩
  have place := supervised.gaveUp gaveUp
  have here := supervised.here
  rw [AtPlace, place] at here
  obtain ⟨-, waited, limited, all⟩ := here
  refine ⟨place, limited, all, waited, fun more later reachedLater => ?_⟩
  obtain ⟨there, still, same⟩ :=
    run_invariant (fun _ _ _ => step_gaveUp)
      (⟨place, gaveUp, rfl⟩ : _ ∧ _ ∧ manager.calls = manager.calls)
      reachedLater
  refine ⟨there, same, fun started => ?_⟩
  rw [VpnManager.isStarted, still]
  split
  · rfl
  · rfl

def oneRestart : Config where
  maxFullRestarts := 1
  hasRouteManager := true

/-- The client never connects. -/
def neverConnects : List Label :=
  [.loop, .wake, .check false false, .restart, .backoff 2, .resume,
    .loop, .wake, .check false false, .giveUp]

theorem restarts_supervised_once :
    ∃ manager,
      run (VpnManager.step oneRestart) (.start oneRestart) neverConnects =
          some manager ∧
        manager.gaveUp = true ∧ manager.place = .done .gaveUp ∧
        2 ≤ manager.waited ∧
        ∀ started, manager.isStarted started = false := by
  have taken : (run (VpnManager.step oneRestart) (.start oneRestart)
      neverConnects).map (fun manager =>
        (manager.gaveUp, manager.fullRestartCount)) = some (true, 1) := by
    decide
  obtain ⟨manager, reached, found⟩ := Option.map_eq_some_iff.mp taken
  obtain ⟨gaveUp, once⟩ := Prod.mk.inj found
  obtain ⟨-, -, -, -, atEnd⟩ :=
    restarts_supervised oneRestart neverConnects manager reached
  obtain ⟨place, -, -, waited, later⟩ := atEnd gaveUp
  rw [once] at waited
  exact
    ⟨manager, reached, gaveUp, place, waited, (later [] manager rfl).2.2⟩

end Fptn.Vpn.Supervisor
