import Fptn.Connection.ThreadLife

/-!
# Stopping while the strategy starts

`Stop` clears the flag of the strategy and then joins the thread.  `Run` tests
`running_` before it calls `Start` of the strategy, and `Start` sets the flag
without a test.  A stop takes effect when it does not fall between these two;
then the flag stays cleared and the thread comes to its end.
-/

namespace Fptn.Connection.StopRace

open Fptn.PartialRun
open Fptn.Connection.Manager
open Fptn.Connection.ThreadLife

variable {config : Config} {manager next : ConnectionManager}

/-- A step of the manager, or the start of a call by the one thread which
controls it. -/
inductive Event where
  | internal (label : ConnectionManager.Label)
  | start
  | stop
  | destroy

/-- The thread is free for another call. -/
def beginCall (manager : ConnectionManager) (call : Call) :
    Option ConnectionManager :=
  if manager.call = .idle then
    some { manager with call := call }
  else
    none

def step (config : Config) (manager : ConnectionManager) :
    Event → Option ConnectionManager
  | .internal label => manager.step config label
  | .start => beginCall manager .start
  | .stop => beginCall manager .stop
  | .destroy => beginCall manager .destroy

/-! ## What a stop achieves -/

/-- The flag of the strategy is cleared. -/
def StatusCleared (manager : ConnectionManager) : Prop :=
  ∀ strategy ∈ manager.strategyConnection, strategy.runningStatus = false

def isRun : ConnectionManager.Label → Bool
  | .run _ => true
  | _ => false

/-- A run of the other threads while the join is waiting. -/
def isOther : ConnectionManager.Label → Bool
  | .call => false
  | _ => true

/-- Whatever else happens, the thread has at most five steps to go, and can
take them. -/
def JoinReturns (config : Config) (manager : ConnectionManager) : Prop :=
  ∀ labels last, (∀ label ∈ labels, isOther label = true) →
    run (ConnectionManager.step config) manager labels = some last →
      labels.countP isRun ≤ 5 ∧
        (last.thread = none ∨ last.thread = some .finished ∨
          ∀ elapsed, (ConnectionManager.runStep config last
            elapsed).isSome = true)

/-- Once `Stop` waits in `join`, the strategy does not run and the thread
ends. -/
structure StopTakesEffect (config : Config) (manager : ConnectionManager) :
    Prop where
  statusCleared : manager.call = .stopJoin → StatusCleared manager
  joinReturns : manager.call = .stopJoin → JoinReturns config manager

/-! ## The window of the race -/

/-- `Run` is about to set the flag of the strategy. -/
def AboutToRun (manager : ConnectionManager) : Prop :=
  manager.thread = some .strategyStart ∨ manager.thread = some .setRunning

/-- `Run` is inside the strategy's `Start`. -/
def InStrategy : RunPlace → Bool
  | .strategyStart | .setRunning | .runClient | .eventLoop | .poll
  | .leaveLoop => true
  | _ => false

/-- The strategy's `Stop` is not called while `Run` is about to start it. -/
def Timely (manager : ConnectionManager) : Event → Prop
  | .internal .call =>
      manager.call = .stopStrategy → ¬AboutToRun manager
  | _ => True

structure Invariant (manager : ConnectionManager) : Prop where
  strategyPresent : ∀ place, manager.thread = some place →
    InStrategy place = true → manager.strategyConnection.isSome = true
  /-- `Start` and `Stop` set `running_` in turns. -/
  stopped : manager.call = .stopStrategy ∨ manager.call = .stopJoin →
    manager.running = false
  cleared : manager.call = .stopJoin →
    StatusCleared manager ∧ ¬AboutToRun manager
  joined : manager.call = .stopReset → manager.thread = none

theorem init_invariant : Invariant ConnectionManager.init where
  strategyPresent _ found := by cases found
  stopped calling := by
    rcases calling with calling | calling <;> cases calling
  cleared joining := by cases joining
  joined resetting := by cases resetting

theorem runStep_strategyPresent {elapsed : Bool}
    (invariant : Invariant manager)
    (taken : ConnectionManager.runStep config manager elapsed =
      some next) :
    ∀ place, next.thread = some place →
      InStrategy place = true → next.strategyConnection.isSome = true := by
  have present := invariant.strategyPresent
  unfold ConnectionManager.runStep at taken
  split at taken
  all_goals try split at taken
  all_goals
    cases taken
  all_goals
    simp_all [ConnectionManager.goto, ConnectionManager.setStrategy,
      InStrategy]

@[simp]
theorem runClient_runningStatus (strategy : Strategy) :
    strategy.runClient.runningStatus = strategy.runningStatus :=
  rfl

theorem leaveLoop_runningStatus {strategy : Strategy}
    (cleared : strategy.runningStatus = false) :
    strategy.leaveLoop.runningStatus = false := by
  unfold Strategy.leaveLoop
  split
  · rfl
  · exact cleared

theorem not_loops {strategy : Strategy}
    (cleared : strategy.runningStatus = false) :
    ¬strategy.loops = true := by
  rw [Strategy.loops, cleared, Bool.false_and]
  decide

/-- The steps which a thread has to go once `running_` and the flag of the
strategy are cleared. -/
def stepsToGo : RunPlace → Nat
  | .poll | .runClient => 5
  | .create | .clean | .eventLoop => 4
  | .begin | .startTest | .count | .leaveLoop => 3
  | .loopTest | .afterStart => 2
  | .ended => 1
  | .strategyStart | .setRunning | .finished => 0

/-- The flags are cleared, and the thread is not about to set one. -/
structure Quiet (manager : ConnectionManager) : Prop where
  stopped : manager.running = false
  cleared : StatusCleared manager
  outside : ¬AboutToRun manager

/-- A thread which finds the flags cleared comes closer to its end. -/
theorem runStep_quiet {elapsed : Bool} {place : RunPlace}
    (quiet : Quiet manager) (at_place : manager.thread = some place)
    (taken : ConnectionManager.runStep config manager elapsed =
      some next) :
    Quiet next ∧ ∃ later, next.thread = some later ∧
      stepsToGo later < stepsToGo place := by
  obtain ⟨stopped, cleared, outside⟩ := quiet
  have notStart : place ≠ .strategyStart := fun same =>
    outside (Or.inl (same ▸ at_place))
  have notSet : place ≠ .setRunning := fun same =>
    outside (Or.inr (same ▸ at_place))
  unfold ConnectionManager.runStep at taken
  cases place with
  | strategyStart => exact absurd rfl notStart
  | setRunning => exact absurd rfl notSet
  | finished =>
      rw [at_place] at taken
      cases taken
  | begin | loopTest | create | startTest | afterStart | clean | count
  | ended =>
      simp only [at_place, stopped] at taken
      cases taken
      refine ⟨⟨?_, cleared, ?_⟩, _, rfl, by decide⟩
      · first | rfl | exact stopped
      · rintro (h | h) <;> cases h
  | runClient | eventLoop | poll | leaveLoop =>
      cases found : manager.strategyConnection with
      | none =>
          rw [at_place, found] at taken
          cases taken
      | some strategy =>
          have off : strategy.runningStatus = false := cleared strategy found
          have loops := not_loops off
          have left := leaveLoop_runningStatus off
          simp only [at_place, found, loops] at taken
          cases taken
          refine ⟨⟨stopped, ?_, ?_⟩, _, rfl, by decide⟩
          · intro other same
            first
            | exact cleared other same
            | obtain rfl := Option.some.inj same
              first | exact off | exact left
          · rintro (h | h) <;> cases h

/-- Strategies only clear their own flag, or change their client. -/
theorem strategyStep_quiet {event : ConnectionManager.StrategyEvent}
    (quiet : Quiet manager)
    (taken : ConnectionManager.strategyStep manager event = some next) :
    Quiet next ∧ next.thread = manager.thread := by
  unfold ConnectionManager.strategyStep at taken
  split at taken
  case h_1 => cases taken
  case h_2 strategy found =>
    have off := quiet.cleared strategy found
    split at taken
    all_goals split at taken
    all_goals cases taken
    all_goals
      refine ⟨⟨quiet.stopped, ?_, quiet.outside⟩, rfl⟩
      intro other same
      obtain rfl := Option.some.inj same
      first | exact off | rfl

/-! ## Invariants of all runs -/

theorem strategyStep_invariant {event : ConnectionManager.StrategyEvent}
    (invariant : Invariant manager)
    (taken : ConnectionManager.strategyStep manager event = some next) :
    Invariant next := by
  obtain ⟨strategy, rfl⟩ := strategyStep_effect taken
  exact
    { strategyPresent := fun _ _ _ => rfl
      stopped := invariant.stopped
      cleared := fun joining => by
        have quiet : Quiet manager :=
          ⟨invariant.stopped (Or.inr joining),
            (invariant.cleared joining).1, (invariant.cleared joining).2⟩
        have after := (strategyStep_quiet quiet taken).1
        exact ⟨after.cleared, after.outside⟩
      joined := invariant.joined }

theorem runStep_invariant {elapsed : Bool} (invariant : Invariant manager)
    (taken : ConnectionManager.runStep config manager elapsed =
      some next) :
    Invariant next := by
  have effect := runStep_effect taken
  constructor
  case strategyPresent => exact runStep_strategyPresent invariant taken
  case stopped =>
    rw [effect.call]
    intro calling
    have stopped := invariant.stopped calling
    by_cases ended : manager.thread = some .ended
    · rw [ConnectionManager.runStep, ended] at taken
      cases taken
      rfl
    · exact (effect.running ended).trans stopped
  case cleared =>
    rw [effect.call]
    intro joining
    obtain ⟨place, at_place⟩ := Option.isSome_iff_exists.mp effect.thread.2
    have quiet : Quiet manager :=
      ⟨invariant.stopped (Or.inr joining), (invariant.cleared joining).1,
        (invariant.cleared joining).2⟩
    have after := (runStep_quiet quiet at_place taken).1
    exact ⟨after.cleared, after.outside⟩
  case joined =>
    rw [effect.call]
    intro resetting
    have alive := effect.thread.2
    rw [invariant.joined resetting] at alive
    cases alive

theorem callStep_invariant (invariant : Invariant manager)
    (timely : manager.call = .stopStrategy → ¬AboutToRun manager)
    (taken : ConnectionManager.callStep manager = some next) :
    Invariant next := by
  obtain ⟨present, stopped, cleared, joined⟩ := invariant
  unfold ConnectionManager.callStep at taken
  split at taken
  case h_6 calling =>
    cases taken
    refine ⟨?_, fun _ => stopped (Or.inl calling), fun _ => ⟨?_, ?_⟩,
      fun resetting => by cases resetting⟩
    · intro place at_place inside
      have some := present place at_place inside
      rw [Option.isSome_map]
      exact some
    · intro strategy found
      obtain ⟨old, -, rfl⟩ := Option.map_eq_some_iff.mp found
      rfl
    · exact timely calling
  all_goals try split at taken
  all_goals cases taken
  all_goals
    refine ⟨?_, ?_, ?_, ?_⟩
  all_goals simp_all [InStrategy]

theorem beginCall_invariant {call : Call} (invariant : Invariant manager)
    (begins : call ≠ .stopStrategy ∧ call ≠ .stopJoin ∧ call ≠ .stopReset)
    (taken : beginCall manager call = some next) :
    Invariant next := by
  unfold beginCall at taken
  split at taken
  case isFalse => cases taken
  case isTrue =>
    cases taken
    exact
      { strategyPresent := invariant.strategyPresent
        stopped := fun calling => by
          rcases calling with calling | calling
          · exact absurd calling begins.1
          · exact absurd calling begins.2.1
        cleared := fun joining => absurd joining begins.2.1
        joined := fun resetting => absurd resetting begins.2.2 }

theorem internalStep_of_step {label : ConnectionManager.Label}
    (taken : manager.step config label = some next) :
    manager.internalStep config label = some next := by
  unfold ConnectionManager.step at taken
  split at taken
  · cases taken
  · exact taken

theorem step_preserves (manager : ConnectionManager) (event : Event)
    (next : ConnectionManager) (invariant : Invariant manager)
    (timely : Timely manager event)
    (taken : step config manager event = some next) :
    Invariant next := by
  cases event with
  | internal label =>
      have taken := internalStep_of_step taken
      cases label with
      | run elapsed => exact runStep_invariant invariant taken
      | call => exact callStep_invariant invariant timely taken
      | strategy event => exact strategyStep_invariant invariant taken
  | start | stop | destroy =>
      exact beginCall_invariant invariant (by decide) taken

/-! ## The join -/

theorem runStep_isSome {place : RunPlace}
    (present : InStrategy place = true →
      manager.strategyConnection.isSome = true)
    (at_place : manager.thread = some place) (unfinished : place ≠ .finished)
    (elapsed : Bool) :
    (ConnectionManager.runStep config manager elapsed).isSome = true := by
  unfold ConnectionManager.runStep
  cases place with
  | finished => exact absurd rfl unfinished
  | begin | count | ended => simp only [at_place]; rfl
  | loopTest | create | startTest | afterStart | clean =>
      simp only [at_place]
      split <;> rfl
  | strategyStart | setRunning | runClient | poll | leaveLoop =>
      obtain ⟨strategy, found⟩ := Option.isSome_iff_exists.mp (present rfl)
      simp only [at_place, found]
      rfl
  | eventLoop =>
      obtain ⟨strategy, found⟩ := Option.isSome_iff_exists.mp (present rfl)
      simp only [at_place, found]
      split <;> rfl

/-- With the flags cleared, a thread takes at most the steps it has to go. -/
theorem countP_isRun_le {labels : List ConnectionManager.Label}
    {last : ConnectionManager} {place : RunPlace} (quiet : Quiet manager)
    (at_place : manager.thread = some place)
    (others : ∀ label ∈ labels, isOther label = true)
    (reached : run (ConnectionManager.step config) manager labels =
      some last) :
    labels.countP isRun ≤ stepsToGo place := by
  induction labels generalizing manager place with
  | nil => exact Nat.zero_le _
  | cons label labels ih =>
      obtain ⟨next, taken, rest⟩ := run_cons_eq_some.mp reached
      have taken := internalStep_of_step taken
      have restOthers : ∀ label ∈ labels, isOther label = true :=
        fun other member => others other (List.mem_cons_of_mem label member)
      cases label with
      | run elapsed =>
          obtain ⟨after, later, at_later, closer⟩ :=
            runStep_quiet quiet at_place taken
          have few := ih after at_later restOthers rest
          rw [List.countP_cons_of_pos (by rfl)]
          omega
      | strategy event =>
          obtain ⟨after, same⟩ := strategyStep_quiet quiet taken
          rw [List.countP_cons_of_neg Bool.false_ne_true]
          exact ih after (same.trans at_place) restOthers rest
      | call => cases others .call List.mem_cons_self

theorem stepsToGo_le (place : RunPlace) : stepsToGo place ≤ 5 := by
  cases place <;> decide

/-- Without a thread, none of its steps is taken. -/
theorem countP_isRun_eq_zero {labels : List ConnectionManager.Label}
    {last : ConnectionManager} (joined : manager.thread = none)
    (others : ∀ label ∈ labels, isOther label = true)
    (reached : run (ConnectionManager.step config) manager labels =
      some last) :
    labels.countP isRun = 0 := by
  induction labels generalizing manager with
  | nil => rfl
  | cons label labels ih =>
      obtain ⟨next, taken, rest⟩ := run_cons_eq_some.mp reached
      have taken := internalStep_of_step taken
      have restOthers : ∀ label ∈ labels, isOther label = true :=
        fun other member => others other (List.mem_cons_of_mem label member)
      cases label with
      | run elapsed =>
          have alive := (runStep_effect taken).thread.2
          rw [joined] at alive
          cases alive
      | strategy event =>
          obtain ⟨strategy, rfl⟩ := strategyStep_effect taken
          rw [List.countP_cons_of_neg Bool.false_ne_true]
          exact @ih (manager.setStrategy strategy) joined restOthers rest
      | call => cases others .call List.mem_cons_self

theorem other_preserves (manager : ConnectionManager)
    (label : ConnectionManager.Label) (next : ConnectionManager)
    (invariant : Invariant manager) (other : isOther label = true)
    (taken : manager.step config label = some next) :
    Invariant next := by
  have taken := internalStep_of_step taken
  cases label with
  | run elapsed => exact runStep_invariant invariant taken
  | call => cases other
  | strategy event => exact strategyStep_invariant invariant taken

theorem along_others {labels : List ConnectionManager.Label}
    (others : ∀ label ∈ labels, isOther label = true) :
    Along (ConnectionManager.step config)
      (fun _ label => isOther label = true) manager labels := by
  induction labels generalizing manager with
  | nil => trivial
  | cons label labels ih =>
      exact
        ⟨others label List.mem_cons_self, fun next _ =>
          ih fun other member =>
            others other (List.mem_cons_of_mem label member)⟩

theorem joinReturns_of_invariant (invariant : Invariant manager)
    (joining : manager.call = .stopJoin) :
    JoinReturns config manager := by
  intro labels last others reached
  have quiet : Quiet manager :=
    ⟨invariant.stopped (Or.inr joining), (invariant.cleared joining).1,
      (invariant.cleared joining).2⟩
  constructor
  · cases at_place : manager.thread with
    | none =>
        rw [countP_isRun_eq_zero at_place others reached]
        exact Nat.zero_le 5
    | some place =>
        exact
          Nat.le_trans (countP_isRun_le quiet at_place others reached)
            (stepsToGo_le place)
  · have lastInvariant : Invariant last :=
      run_invariant_of other_preserves invariant (along_others others)
        reached
    cases at_place : last.thread with
    | none => exact Or.inl rfl
    | some place =>
        by_cases finished : place = .finished
        · exact Or.inr (Or.inl (by rw [finished]))
        · refine Or.inr (Or.inr ?_)
          exact
            runStep_isSome (lastInvariant.strategyPresent place at_place) at_place
              finished

/-- Stops which do not fall into the window of the race take effect. -/
theorem run_stopTakesEffect {events : List Event}
    {last : ConnectionManager}
    (timely : Along (step config) Timely ConnectionManager.init events)
    (reached : run (step config) ConnectionManager.init events =
      some last) :
    StopTakesEffect config last := by
  have invariant : Invariant last :=
    run_invariant_of step_preserves init_invariant timely reached
  exact
    { statusCleared := fun joining => (invariant.cleared joining).1
      joinReturns := fun joining =>
        joinReturns_of_invariant invariant joining }

/-! ## Runs in and out of the window -/

/-- Conversely, a stop inside the window can always be lost. -/
theorem lost_of_aboutToRun (invariant : Invariant manager)
    (alive : manager.terminated = false) (undestroyed : manager.destroyed = false)
    (stopping : manager.call = .stopStrategy)
    (about : AboutToRun manager) :
    ∃ events last, run (step config) manager events = some last ∧
      last.call = .stopJoin ∧ ¬StatusCleared last := by
  have lost : ∀ last : ConnectionManager, ∀ strategy : Strategy,
      last.strategyConnection = some strategy →
        strategy.runningStatus = true → ¬StatusCleared last := by
    intro last strategy found on cleared
    cases on.symm.trans (cleared strategy found)
  obtain ⟨running, attempts, connection, thread, call, destroyed,
    terminated⟩ := manager
  obtain rfl : call = .stopStrategy := stopping
  obtain rfl : terminated = false := alive
  obtain rfl : destroyed = false := undestroyed
  rcases about with at_place | at_place
  all_goals
    obtain rfl : thread = some _ := at_place
    obtain ⟨strategy, found⟩ := Option.isSome_iff_exists.mp
      (invariant.strategyPresent _ rfl rfl)
    obtain rfl : connection = some strategy := found
  · exact
      ⟨[.internal .call, .internal (.run false), .internal (.run false)],
        _, rfl, rfl, lost _ _ rfl rfl⟩
  · exact
      ⟨[.internal .call, .internal (.run false)], _, rfl, rfl,
        lost _ _ rfl rfl⟩

instance Timely.decidable (manager : ConnectionManager) :
    DecidablePred (Timely manager)
  | .internal .call =>
      inferInstanceAs
        (Decidable
          (manager.call = .stopStrategy →
            ¬(manager.thread = some .strategyStart ∨
              manager.thread = some .setRunning)))
  | .internal (.run _) | .internal (.strategy _) | .start | .stop
  | .destroy => inferInstanceAs (Decidable True)

def threadSteps (count : Nat) : List Event :=
  List.replicate count (.internal (.run false))

def callSteps (count : Nat) : List Event :=
  List.replicate count (.internal .call)

/-- A stop while the strategy polls. -/
def stopWhilePolling : List Event :=
  .start :: callSteps 2 ++ threadSteps 8 ++ .stop :: callSteps 3

theorem run_stopTakesEffect_polling :
    (run (step ⟨.persistentTunnel, 5⟩) ConnectionManager.init
      stopWhilePolling).any (fun last => last.call = .stopJoin) = true ∧
      ∀ last, run (step ⟨.persistentTunnel, 5⟩) ConnectionManager.init
        stopWhilePolling = some last →
          StopTakesEffect ⟨.persistentTunnel, 5⟩ last :=
  ⟨by decide +kernel,
    fun _ reached => run_stopTakesEffect (by decide +kernel) reached⟩

/-- A stop right after `Run` has tested `running_`: the strategy is started
after it has been stopped. -/
def stopBeforeStart : List Event :=
  .start :: callSteps 2 ++ threadSteps 4 ++ .stop :: callSteps 3 ++
    threadSteps 2

theorem stopBeforeStart_lost :
    ¬ ∀ (config : Config) (events : List Event) (last : ConnectionManager),
      run (step config) ConnectionManager.init events = some last →
        StopTakesEffect config last := by
  intro takesEffect
  have started :
      (run (step ⟨.persistentTunnel, 5⟩) ConnectionManager.init
        stopBeforeStart).map
          (fun last => (last.call, last.strategyConnection.map
            (·.runningStatus))) =
      some (.stopJoin, some true) := by
    decide +kernel
  obtain ⟨last, reached, facts⟩ := Option.map_eq_some_iff.mp started
  obtain ⟨joining, status⟩ := Prod.mk.inj facts
  obtain ⟨strategy, found, on⟩ := Option.map_eq_some_iff.mp status
  have off := (takesEffect _ _ last reached).statusCleared joining
    strategy found
  cases on.symm.trans off

end Fptn.Connection.StopRace
