import Fptn.Connection.Manager
import Fptn.Lib.PartialRun

/-!
# The life of the connection thread

A thread object which is still joinable must not be assigned to or destroyed:
that calls `std::terminate`.  `Stop` joins the thread, but only when it finds
`running_` set.  So the handle is sound as long as `Run` does not clear
`running_` by itself, that is, as long as it does not give up.
-/

namespace Fptn.Connection.ThreadLife

open Fptn.PartialRun
open Fptn.Connection.Manager

variable {config : Config} {maxFullRestarts : Int}

/-! ## Steps of the manager -/

section Manager

variable {manager next : ConnectionManager}

/-- `Run` keeps its thread, and clears `running_` with its last statement
only. -/
structure RunEffect (manager next : ConnectionManager) : Prop where
  call : next.call = manager.call
  terminated : next.terminated = manager.terminated
  destroyed : next.destroyed = manager.destroyed
  thread : next.thread.isSome = true ∧ manager.thread.isSome = true
  running : manager.thread ≠ some .ended → next.running = manager.running

theorem runStep_effect {elapsed : Bool}
    (taken : ConnectionManager.runStep config manager elapsed =
      some next) :
    RunEffect manager next := by
  unfold ConnectionManager.runStep at taken
  -- one case for each place, and for each outcome of its test
  split at taken
  all_goals try split at taken
  all_goals
    cases taken
  all_goals
    constructor
  all_goals
    simp_all [ConnectionManager.goto, ConnectionManager.setStrategy]

/-- What keeps the handle of the thread sound. -/
structure ManagerSound (manager : ConnectionManager) : Prop where
  alive : manager.terminated = false
  /-- A thread which is not running any more is about to be joined. -/
  joined : manager.thread.isSome = true → manager.running = false →
    manager.call = .stopStrategy ∨ manager.call = .stopJoin
  flagged : manager.call = .startThread → manager.running = true
  detached : manager.call = .start ∨ manager.call = .startThread ∨
    manager.call = .stopReset ∨ manager.call = .destroy →
      manager.thread = none

theorem runStep_sound {elapsed : Bool} (sound : ManagerSound manager)
    (orderly : manager.thread = some .ended → manager.running = false)
    (taken : ConnectionManager.runStep config manager elapsed =
      some next) :
    ManagerSound next := by
  have effect := runStep_effect taken
  have stays : ¬manager.thread = none := by
    intro none
    have alive := effect.thread.2
    rw [none] at alive
    cases alive
  constructor
  case alive => exact effect.terminated.trans sound.alive
  case joined =>
    intro _ cleared
    rw [effect.call]
    refine sound.joined effect.thread.2 ?_
    by_cases ended : manager.thread = some .ended
    · exact orderly ended
    · exact (effect.running ended).symm.trans cleared
  case flagged =>
    intro starting
    rw [effect.call] at starting
    exact absurd (sound.detached (Or.inr (Or.inl starting))) stays
  case detached =>
    intro calling
    rw [effect.call] at calling
    exact absurd (sound.detached calling) stays

theorem strategyStep_effect {event : ConnectionManager.StrategyEvent}
    (taken : ConnectionManager.strategyStep manager event = some next) :
    ∃ strategy, next = manager.setStrategy strategy := by
  unfold ConnectionManager.strategyStep at taken
  split at taken
  · cases taken
  · split at taken
    all_goals split at taken
    all_goals cases taken
    all_goals exact ⟨_, rfl⟩

theorem strategyStep_sound {event : ConnectionManager.StrategyEvent}
    (sound : ManagerSound manager)
    (taken : ConnectionManager.strategyStep manager event = some next) :
    ManagerSound next := by
  obtain ⟨strategy, rfl⟩ := strategyStep_effect taken
  exact ⟨sound.alive, sound.joined, sound.flagged, sound.detached⟩

/-- A call which returns leaves a thread behind only if it was `Start`. -/
theorem callStep_sound (sound : ManagerSound manager)
    (taken : ConnectionManager.callStep manager = some next) :
    ManagerSound next ∧
      (manager.call ≠ .start ∧ manager.call ≠ .startThread →
        (next.call ≠ .start ∧ next.call ≠ .startThread) ∧
          (next.call = .idle → next.thread = none)) ∧
      manager.call ≠ .idle := by
  have thread : manager.thread = none ∨
      manager.thread.isSome = true := by
    cases manager.thread <;> simp
  obtain ⟨alive, joined, flagged, detached⟩ := sound
  unfold ConnectionManager.callStep at taken
  split at taken
  all_goals try split at taken
  all_goals cases taken
  all_goals
    refine ⟨⟨?_, ?_, ?_, ?_⟩, ?_, ?_⟩
  all_goals simp_all

/-- A call begins. -/
theorem begin_sound {call : Call} (sound : ManagerSound manager)
    (idle : manager.call = .idle)
    (begins : call = .stop ∨
      (call = .start ∨ call = .destroy) ∧ manager.thread = none) :
    ManagerSound { manager with call := call } := by
  obtain ⟨alive, joined, flagged, detached⟩ := sound
  rcases begins with rfl | ⟨rfl | rfl, none⟩
  all_goals
    refine ⟨alive, ?_, ?_, ?_⟩
  all_goals simp_all

end Manager

/-! ## Steps of the VpnManager -/

section VpnManager

variable {vpn next : VpnManager}

/-- The supervisor is inside a function of the manager. -/
def SupervisorPlace.Calls (place : SupervisorPlace) : Prop :=
  place = .stopping ∨ place = .starting

def OwnerPlace.Calls (place : OwnerPlace) : Prop :=
  place = .starting ∨ place = .stopping ∨ place = .clientStop ∨
    place = .destroying

/-- The supervisor has nothing to do with the manager. -/
def SupervisorPlace.Away (place : SupervisorPlace) : Prop :=
  place = .notStarted ∨ place = .done

/-- Places from which a thread is created or the manager destroyed next. -/
def Detaches (vpn : VpnManager) : Prop :=
  vpn.supervisor = .stopping ∨ vpn.supervisor = .backoff ∨
    vpn.owner = .created ∨ vpn.owner = .stopping ∨
    vpn.owner = .clientStop

/-- The calls made from such a place do not create a thread. -/
def Stops (vpn : VpnManager) : Prop :=
  vpn.supervisor = .stopping ∨ vpn.owner = .stopping ∨
    vpn.owner = .clientStop

structure Sound (vpn : VpnManager) : Prop where
  manager : ManagerSound vpn.manager
  /-- Whoever is not in a call does not see one under way. -/
  caller : vpn.manager.call ≠ .idle →
    SupervisorPlace.Calls vpn.supervisor ∨ OwnerPlace.Calls vpn.owner
  /-- The owner calls the manager before and after the supervisor's life. -/
  turns : OwnerPlace.Calls vpn.owner ∨ vpn.owner = .created ∨
    vpn.owner = .stopped → SupervisorPlace.Away vpn.supervisor
  stops : Stops vpn →
    vpn.manager.call ≠ .start ∧ vpn.manager.call ≠ .startThread
  detached : vpn.manager.call = .idle → Detaches vpn →
    vpn.manager.thread = none

theorem init_sound : Sound VpnManager.init where
  manager :=
    { alive := rfl
      joined := fun joinable => by cases joinable
      flagged := fun starting => by cases starting
      detached := fun _ => rfl }
  caller busy := absurd rfl busy
  turns _ := Or.inl rfl
  stops _ := ⟨by decide, by decide⟩
  detached _ _ := rfl

theorem stop_notStart : Call.stop ≠ .start ∧ Call.stop ≠ .startThread := by
  decide

/-- The supervisor is alive: the owner is in no call. -/
theorem Sound.idle_of_supervising (sound : Sound vpn)
    (alive : ¬SupervisorPlace.Away vpn.supervisor)
    (outside : ¬SupervisorPlace.Calls vpn.supervisor) :
    vpn.manager.call = .idle := by
  by_contra busy
  rcases sound.caller busy with calling | calling
  · exact outside calling
  · exact alive (sound.turns (Or.inl calling))

/-- The supervisor moves on without touching the manager. -/
theorem Sound.supervisorMoves {place : SupervisorPlace} {count : Nat}
    (sound : Sound vpn) (idle : vpn.manager.call = .idle)
    (alive : ¬SupervisorPlace.Away vpn.supervisor)
    (place_ne : place ≠ .stopping)
    (backoff : place = .backoff → vpn.manager.thread = none) :
    Sound { vpn with fullRestartCount := count, supervisor := place } := by
  have owner : ¬(OwnerPlace.Calls vpn.owner ∨ vpn.owner = .created ∨
      vpn.owner = .stopped) := fun turn => alive (sound.turns turn)
  constructor
  case manager => exact sound.manager
  case caller => exact fun busy => absurd idle busy
  case turns => exact fun turn => absurd turn owner
  case stops =>
    intro _
    rw [idle]
    exact ⟨by decide, by decide⟩
  case detached =>
    rintro - (stopping | isBackoff | created | stopping | clientStop)
    · exact absurd stopping place_ne
    · exact backoff isBackoff
    · exact absurd (Or.inr (Or.inl created)) owner
    · exact absurd (Or.inl (Or.inr (Or.inl stopping))) owner
    · exact absurd (Or.inl (Or.inr (Or.inr (Or.inl clientStop)))) owner

/-- The supervisor calls `Stop` or `Start`. -/
theorem Sound.supervisorCalls {place : SupervisorPlace} {call : Call}
    {count : Nat} (sound : Sound vpn)
    (idle : vpn.manager.call = .idle)
    (alive : ¬SupervisorPlace.Away vpn.supervisor)
    (calls : place = .stopping ∧ call = .stop ∨
      place = .starting ∧ call = .start ∧ vpn.manager.thread = none) :
    Sound ({ vpn with
      fullRestartCount := count
      supervisor := place }.begin call) := by
  have owner : ¬(OwnerPlace.Calls vpn.owner ∨ vpn.owner = .created ∨
      vpn.owner = .stopped) := fun turn => alive (sound.turns turn)
  rcases calls with ⟨rfl, rfl⟩ | ⟨rfl, rfl, none⟩
  · constructor
    case manager => exact begin_sound sound.manager idle (Or.inl rfl)
    case caller => exact fun _ => Or.inl (Or.inl rfl)
    case turns => exact fun turn => absurd turn owner
    case stops => exact fun _ => stop_notStart
    case detached => exact fun isIdle => by cases isIdle
  · constructor
    case manager =>
      exact begin_sound sound.manager idle (Or.inr ⟨Or.inl rfl, none⟩)
    case caller => exact fun _ => Or.inl (Or.inr rfl)
    case turns => exact fun turn => absurd turn owner
    case stops =>
      rintro (stopping | stopping | clientStop)
      · cases stopping
      · exact absurd (Or.inl (Or.inr (Or.inl stopping))) owner
      · exact absurd (Or.inl (Or.inr (Or.inr (Or.inl clientStop)))) owner
    case detached => exact fun isIdle => by cases isIdle

theorem superviseStep_sound {connected : Bool} (sound : Sound vpn)
    (taken : VpnManager.superviseStep maxFullRestarts vpn connected =
      some next) :
    Sound next := by
  have alive : ¬SupervisorPlace.Away vpn.supervisor := by
    rintro (away | away)
    all_goals
      rw [VpnManager.superviseStep, away] at taken
      cases taken
  have moves : ∀ place count, vpn.manager.call = .idle →
      place ≠ .stopping → place ≠ .backoff →
        Sound { vpn with fullRestartCount := count, supervisor := place } :=
    fun place count idle notStopping notBackoff =>
      sound.supervisorMoves idle alive notStopping
        fun same => absurd same notBackoff
  have outside : vpn.supervisor ≠ .stopping →
      vpn.supervisor ≠ .starting → vpn.manager.call = .idle := by
    intro notStopping notStarting
    refine sound.idle_of_supervising alive ?_
    rintro (stopping | starting)
    · exact notStopping stopping
    · exact notStarting starting
  unfold VpnManager.superviseStep at taken
  cases at_place : vpn.supervisor with
  | notStarted => exact absurd (Or.inl at_place) alive
  | done => exact absurd (Or.inr at_place) alive
  | loopTest | wait | checkRunning | checkConnected | checkStarted =>
      have idle := outside (by simp [at_place]) (by simp [at_place])
      simp only [at_place] at taken
      try split at taken
      all_goals
        cases taken
        exact moves _ _ idle (by decide) (by decide)
  | restart =>
      have idle := outside (by simp [at_place]) (by simp [at_place])
      simp only [at_place] at taken
      split at taken
      · cases taken
        exact moves _ _ idle (by decide) (by decide)
      · cases taken
        exact sound.supervisorCalls idle alive (Or.inl ⟨rfl, rfl⟩)
  | stopping =>
      simp only [at_place] at taken
      split at taken
      case isTrue idle =>
        cases taken
        have none := sound.detached idle (Or.inl at_place)
        exact sound.supervisorMoves idle alive (by decide) fun _ => none
      case isFalse => cases taken
  | backoff =>
      have idle := outside (by simp [at_place]) (by simp [at_place])
      have none := sound.detached idle (Or.inr (Or.inl at_place))
      simp only [at_place] at taken
      split at taken
      · cases taken
        exact sound.supervisorCalls idle alive (Or.inr ⟨rfl, rfl, none⟩)
      · cases taken
        exact moves _ _ idle (by decide) (by decide)
  | starting =>
      simp only [at_place] at taken
      split at taken
      case isTrue idle =>
        cases taken
        exact moves _ _ idle (by decide) (by decide)
      case isFalse => cases taken

/-- The owner moves on without touching the manager. -/
theorem Sound.ownerMoves {running : Bool} {place : OwnerPlace}
    {supervisor : SupervisorPlace} (sound : Sound vpn)
    (idle : vpn.manager.call = .idle)
    (supervisor_eq : supervisor = vpn.supervisor ∨ supervisor = .loopTest)
    (place_eq : place = .started ∨ place = .joining ∨
      place = .stopped ∧ SupervisorPlace.Away supervisor) :
    Sound { vpn with
      running := running
      supervisor := supervisor
      owner := place } := by
  constructor
  case manager => exact sound.manager
  case caller => exact fun busy => absurd idle busy
  case turns =>
    rcases place_eq with rfl | rfl | ⟨rfl, away⟩
    · rintro ((h | h | h | h) | h | h) <;> cases h
    · rintro ((h | h | h | h) | h | h) <;> cases h
    · exact fun _ => away
  case stops =>
    intro _
    exact ⟨by simp [idle], by simp [idle]⟩
  case detached =>
    rintro - (stopping | backoff | owner)
    · rcases supervisor_eq with rfl | rfl
      · exact sound.detached idle (Or.inl stopping)
      · cases stopping
    · rcases supervisor_eq with rfl | rfl
      · exact sound.detached idle (Or.inr (Or.inl backoff))
      · cases backoff
    · rcases place_eq with rfl | rfl | ⟨rfl, -⟩
      all_goals rcases owner with h | h | h <;> cases h

/-- `Stop` clears the flag of the `VpnManager`, wherever the supervisor is. -/
theorem Sound.ownerJoins (sound : Sound vpn)
    (at_place : vpn.owner = .started) :
    Sound { vpn with running := false, owner := .joining } := by
  constructor
  case manager => exact sound.manager
  case caller =>
    intro busy
    rcases sound.caller busy with calling | calling
    · exact Or.inl calling
    · rw [at_place] at calling
      rcases calling with h | h | h | h <;> cases h
  case turns => rintro ((h | h | h | h) | h | h) <;> cases h
  case stops =>
    rintro (stopping | h | h)
    · exact sound.stops (Or.inl stopping)
    all_goals cases h
  case detached =>
    rintro idle (stopping | backoff | h | h | h)
    · exact sound.detached idle (Or.inl stopping)
    · exact sound.detached idle (Or.inr (Or.inl backoff))
    all_goals cases h

/-- The owner calls a function of the manager. -/
theorem Sound.ownerCalls {running : Bool} {place : OwnerPlace} {call : Call}
    (sound : Sound vpn) (idle : vpn.manager.call = .idle)
    (away : SupervisorPlace.Away vpn.supervisor)
    (calls : (place = .stopping ∨ place = .clientStop) ∧ call = .stop ∨
      (place = .starting ∧ call = .start ∨
        place = .destroying ∧ call = .destroy) ∧
          vpn.manager.thread = none) :
    Sound ({ vpn with running := running, owner := place }.begin call) := by
  have notStopping : vpn.supervisor ≠ .stopping := by
    rcases away with away | away <;> simp [away]
  constructor
  case manager =>
    rcases calls with ⟨-, rfl⟩ | ⟨⟨-, rfl⟩ | ⟨-, rfl⟩, none⟩
    · exact begin_sound sound.manager idle (Or.inl rfl)
    · exact begin_sound sound.manager idle (Or.inr ⟨Or.inl rfl, none⟩)
    · exact begin_sound sound.manager idle (Or.inr ⟨Or.inr rfl, none⟩)
  case caller =>
    intro _
    refine Or.inr ?_
    rcases calls with ⟨rfl | rfl, -⟩ | ⟨⟨rfl, -⟩ | ⟨rfl, -⟩, -⟩
    · exact Or.inr (Or.inl rfl)
    · exact Or.inr (Or.inr (Or.inl rfl))
    · exact Or.inl rfl
    · exact Or.inr (Or.inr (Or.inr rfl))
  case turns => exact fun _ => away
  case stops =>
    rintro (stopping | owner)
    · exact absurd stopping notStopping
    · rcases calls with ⟨-, rfl⟩ | ⟨⟨rfl, -⟩ | ⟨rfl, -⟩, -⟩
      · exact stop_notStart
      all_goals rcases owner with h | h <;> cases h
  case detached =>
    intro isIdle
    rcases calls with ⟨-, rfl⟩ | ⟨⟨-, rfl⟩ | ⟨-, rfl⟩, -⟩
    all_goals cases isIdle

theorem ownerStep_sound {choice : VpnManager.OwnerChoice}
    (sound : Sound vpn)
    (taken : VpnManager.ownerStep vpn choice = some next) :
    Sound next := by
  have idle_of : SupervisorPlace.Away vpn.supervisor →
      ¬OwnerPlace.Calls vpn.owner → vpn.manager.call = .idle := by
    intro away outside
    by_contra busy
    rcases sound.caller busy with (calling | calling) | calling
    · rcases away with h | h <;> cases calling.symm.trans h
    · rcases away with h | h <;> cases calling.symm.trans h
    · exact outside calling
  unfold VpnManager.ownerStep at taken
  split at taken
  case h_1 at_place =>
    have away := sound.turns (Or.inr (Or.inl at_place))
    have idle := idle_of away (by simp [OwnerPlace.Calls, at_place])
    have none := sound.detached idle (by simp [Detaches, at_place])
    cases taken
    exact
      sound.ownerCalls idle away (Or.inr ⟨Or.inl ⟨rfl, rfl⟩, none⟩)
  case h_2 at_place =>
    have away := sound.turns (Or.inr (Or.inl at_place))
    have idle := idle_of away (by simp [OwnerPlace.Calls, at_place])
    cases taken
    exact sound.ownerMoves idle (Or.inl rfl) (Or.inl rfl)
  case h_3 at_place =>
    have away := sound.turns (Or.inr (Or.inl at_place))
    have idle := idle_of away (by simp [OwnerPlace.Calls, at_place])
    cases taken
    exact sound.ownerCalls idle away (Or.inl ⟨Or.inr rfl, rfl⟩)
  case h_4 at_place =>
    split at taken
    case isTrue idle =>
      cases taken
      exact sound.ownerMoves idle (Or.inr rfl) (Or.inl rfl)
    case isFalse => cases taken
  case h_5 at_place =>
    cases taken
    exact sound.ownerJoins at_place
  case h_6 at_place =>
    split at taken
    case isTrue away =>
      have idle := idle_of away (by simp [OwnerPlace.Calls, at_place])
      cases taken
      exact sound.ownerCalls idle away (Or.inl ⟨Or.inl rfl, rfl⟩)
    case isFalse => cases taken
  case h_7 at_place =>
    have away := sound.turns (Or.inl (Or.inr (Or.inl at_place)))
    split at taken
    case isTrue idle =>
      cases taken
      exact sound.ownerCalls idle away (Or.inl ⟨Or.inr rfl, rfl⟩)
    case isFalse => cases taken
  case h_8 at_place =>
    have away := sound.turns (Or.inl (Or.inr (Or.inr (Or.inl at_place))))
    split at taken
    case isTrue idle =>
      have none := sound.detached idle (by simp [Detaches, at_place])
      cases taken
      exact
        sound.ownerCalls idle away (Or.inr ⟨Or.inr ⟨rfl, rfl⟩, none⟩)
    case isFalse => cases taken
  case h_9 at_place =>
    have away :=
      sound.turns (Or.inl (Or.inr (Or.inr (Or.inr at_place))))
    split at taken
    case isTrue idle =>
      cases taken
      exact
        sound.ownerMoves idle (Or.inl rfl) (Or.inr (Or.inr ⟨rfl, away⟩))
    case isFalse => cases taken
  case h_10 => cases taken

/-- `Run` does not give up: when it comes to its last statement, `Stop` has
cleared `running_` already. -/
def NeverGivesUp (vpn : VpnManager) : VpnManager.Label → Prop
  | .manager (.run _) =>
      vpn.manager.thread = some .ended → vpn.manager.running = false
  | _ => True

instance NeverGivesUp.decidable (vpn : VpnManager) :
    DecidablePred (NeverGivesUp vpn)
  | .manager (.run _) =>
      inferInstanceAs
        (Decidable
          (vpn.manager.thread = some .ended →
            vpn.manager.running = false))
  | .manager .call | .manager (.strategy _) | .supervise _ | .owner _ =>
      inferInstanceAs (Decidable True)

theorem managerStep_sound {label : ConnectionManager.Label}
    {manager : ConnectionManager} (sound : Sound vpn)
    (orderly : NeverGivesUp vpn (.manager label))
    (taken : vpn.manager.step config label = some manager) :
    Sound { vpn with manager := manager } := by
  unfold ConnectionManager.step at taken
  split at taken
  case isTrue => cases taken
  case isFalse =>
    cases label with
    | run elapsed =>
        have effect := runStep_effect taken
        have stays : ¬vpn.manager.thread = none := by
          intro none
          have alive := effect.thread.2
          rw [none] at alive
          cases alive
        constructor
        case manager => exact runStep_sound sound.manager orderly taken
        case caller => exact effect.call ▸ sound.caller
        case turns => exact sound.turns
        case stops => exact effect.call ▸ sound.stops
        case detached =>
          intro idle detaches
          exact
            absurd
              (sound.detached (effect.call.symm.trans idle) detaches) stays
    | strategy event =>
        obtain ⟨strategy, rfl⟩ := strategyStep_effect taken
        exact
          { manager := strategyStep_sound sound.manager taken
            caller := sound.caller
            turns := sound.turns
            stops := sound.stops
            detached := sound.detached }
    | call =>
        obtain ⟨managerSound, returns, busy⟩ :=
          callStep_sound sound.manager taken
        have calling := sound.caller busy
        constructor
        case manager => exact managerSound
        case caller => exact fun _ => calling
        case turns => exact sound.turns
        case stops => exact fun stops => (returns (sound.stops stops)).1
        case detached =>
          intro idle detaches
          -- a caller at such a place is in a `Stop`
          have stops : Stops vpn := by
            rcases detaches with here | here | here | here | here
            · exact Or.inl here
            · rcases calling with (h | h) | owner
              · cases here.symm.trans h
              · cases here.symm.trans h
              · rcases sound.turns (Or.inl owner) with h | h
                all_goals cases here.symm.trans h
            · rcases calling with calling | h | h | h | h
              · rcases sound.turns (Or.inr (Or.inl here)) with away | away
                all_goals
                  rcases calling with h | h <;> cases away.symm.trans h
              all_goals cases here.symm.trans h
            · exact Or.inr (Or.inl here)
            · exact Or.inr (Or.inr here)
          exact (returns (sound.stops stops)).2 idle

theorem step_sound (vpn : VpnManager) (label : VpnManager.Label)
    (next : VpnManager) (sound : Sound vpn) (orderly : NeverGivesUp vpn label)
    (taken : vpn.step config maxFullRestarts label = some next) :
    Sound next := by
  cases label with
  | manager label =>
      obtain ⟨manager, managerTaken, rfl⟩ :=
        Option.map_eq_some_iff.mp taken
      exact managerStep_sound sound orderly managerTaken
  | supervise connected =>
      simp only [VpnManager.step] at taken
      split at taken
      · cases taken
      · exact superviseStep_sound sound taken
  | owner choice =>
      simp only [VpnManager.step] at taken
      split at taken
      · cases taken
      · exact ownerStep_sound sound taken

/-- The program is never terminated through the handle of the thread. -/
theorem run_notTerminated {labels : List VpnManager.Label}
    {last : VpnManager}
    (orderly : Along (VpnManager.step config maxFullRestarts) NeverGivesUp
      VpnManager.init labels)
    (reached : run (VpnManager.step config maxFullRestarts) VpnManager.init
      labels = some last) :
    last.manager.terminated = false :=
  (run_invariant_of step_sound init_sound orderly reached).manager.alive

/-- `VpnManager::Start`, with the thread created. -/
def startedRun : List VpnManager.Label :=
  [.owner (.start true), .manager .call, .manager .call, .owner .proceed]

/-- Steps of `Run`, in one time window. -/
def runs (count : Nat) : List VpnManager.Label :=
  List.replicate count (.manager (.run false))

/-- `VpnManager::Stop` while the strategy is polling. -/
def stoppedRun : List VpnManager.Label :=
  startedRun ++ runs 8 ++
    [.owner .stop, .supervise false, .owner .proceed, .manager .call,
      .manager .call, .manager .call] ++
    runs 5 ++
    [.manager .call, .manager .call, .owner .proceed, .manager .call,
      .owner .proceed, .manager .call, .owner .proceed]

theorem run_notTerminated_stopped :
    (run (VpnManager.step ⟨.persistentTunnel, 5⟩ 10) VpnManager.init
      stoppedRun).any (fun last => last.owner = .stopped) = true ∧
      ∀ last, run (VpnManager.step ⟨.persistentTunnel, 5⟩ 10)
        VpnManager.init stoppedRun = some last →
          last.manager.terminated = false :=
  ⟨by decide +kernel,
    fun _ reached => run_notTerminated (by decide +kernel) reached⟩

/-- One connection of the persistent tunnel, which fails. -/
def failedConnection : List VpnManager.Label :=
  runs 7 ++
    [.manager (.strategy (.clientChanges ⟨false, false, true⟩))] ++ runs 6

/-- `Run` gives up, and the supervisor restarts the manager. -/
def givenUpRun : List VpnManager.Label :=
  startedRun ++ runs 1 ++ (List.replicate 5 failedConnection).flatten ++
    runs 2 ++ List.replicate 6 (.supervise false) ++ [.manager .call] ++
    List.replicate 2 (.supervise false) ++ [.manager .call, .manager .call]

/-- `Start` assigns to a joinable thread after five failed connections. -/
theorem givenUp_terminates :
    ¬ ∀ (config : Config) (maxFullRestarts : Int)
      (labels : List VpnManager.Label) (last : VpnManager),
      run (VpnManager.step config maxFullRestarts) VpnManager.init labels =
        some last → last.manager.terminated = false := by
  intro safe
  have terminates :
      (run (VpnManager.step ⟨.persistentTunnel, 5⟩ 10) VpnManager.init
        givenUpRun).map (fun last => last.manager.terminated) =
      some true := by
    decide +kernel
  obtain ⟨last, reached, terminated⟩ := Option.map_eq_some_iff.mp terminates
  cases terminated.symm.trans (safe _ _ _ last reached)

end VpnManager

end Fptn.Connection.ThreadLife
