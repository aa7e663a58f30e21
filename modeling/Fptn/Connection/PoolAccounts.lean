import Fptn.Connection.ClientAccounts
import Fptn.Connection.PoolSpread

/-!
# The clients of a pool

`ParallelTunnels` holds each of its clients until it has stopped it: in the
pool, in the coroutine which brings it up, or for a detached coroutine which
will stop it.  `Stop` clears the pool only when it has come to all of its
clients.
-/

namespace Fptn.Connection.PoolAccounts

open Fptn.PartialRun
open Fptn.Connection.PoolStrategies (TimePoint WebsocketClient)
open Fptn.Connection.ClientAccounts
open Fptn.Connection.Rolling (ClientPtr)
open Fptn.Connection.TunnelLifetimes
open Fptn.Connection.TunnelPool
open Fptn.Connection.TunnelPool.ParallelTunnels
open Fptn.Connection.PoolSpread

variable {parameters : Parameters} {pool next : ParallelTunnels}
  {label : Label}

/-! ## The clients which are held -/

/-- All clients which the pool holds. -/
def heldClients (pool : ParallelTunnels) : List ClientPtr :=
  (opened pool).map PoolChannel.client ++ pool.closing.flatten

structure Sound (pool : ParallelTunnels) : Prop where
  accounts : Accounts pool.client pool.nextClient (heldClients pool)
  /-- `Stop` has come to those which it does not have before it. -/
  stopping : ∀ rest, pool.stopping = some rest →
    ∀ entry ∈ pool.connections, entry.client ∈ rest ∨
      (pool.client entry.client).wasStopped = true
  notified : pool.notifications = if pool.connectedNotified then 1 else 0
  notifying : pool.place = .setNotified → pool.connectedNotified = false

theorem create_sound : Sound ParallelTunnels.create where
  accounts := {
    created := fun _ member => by cases member
    distinct := List.nodup_nil
    stopped := fun _ known => absurd known (Nat.not_lt_zero _)
    consistent := fun _ known => absurd known (Nat.not_lt_zero _) }
  stopping _ nothing := by cases nothing
  notified := rfl
  notifying nothing := by cases nothing

/-- The coroutine goes on with what it holds. -/
theorem Sound.goto {place : Place} (sound : Sound pool)
    (same : candidate place = candidate pool.place)
    (notifying : place = .setNotified → pool.connectedNotified = false) :
    Sound (pool.goto place) where
  accounts := by
    have accounts := sound.accounts
    rw [heldClients, opened, ← same] at accounts
    exact accounts
  stopping := sound.stopping
  notified := sound.notified
  notifying := notifying

theorem Sound.suspend {place : Place} (sound : Sound pool)
    (same : candidate place = candidate pool.place)
    (notifying : place ≠ .setNotified) :
    Sound (pool.suspend place) where
  accounts := (sound.goto same (absurd · notifying)).accounts
  stopping := sound.stopping
  notified := sound.notified
  notifying here := absurd here notifying

/-- A client changes while the pool stays as it is. -/
theorem Sound.change {change : WebsocketClient} {connection : ClientPtr}
    (sound : Sound pool)
    (changes : Changes (pool.client connection) change) :
    Sound (pool.setClient connection change) where
  accounts := sound.accounts.change changes
  stopping rest here entry member :=
    (sound.stopping rest here entry member).imp_right changes.update
  notified := sound.notified
  notifying := sound.notifying

theorem removeClosedConnections_held (now : TimePoint) :
    (heldClients ((pool.removeClosedConnections now).goto
      .checkStarted)).Perm
        (pool.connections.map PoolChannel.client ++
          pool.closing.flatten) := by
  have parted :
      (pool.connections.filter (pool.dead now) ++
        pool.connections.filter fun entry => !pool.dead now entry).Perm
          pool.connections :=
    List.filter_append_perm _ _
  rw [heldClients, opened]
  by_cases nothing : pool.connections.filter (pool.dead now) = []
  · rw [nothing, List.nil_append] at parted
    simp only [goto, ParallelTunnels.removeClosedConnections,
      if_pos nothing, candidate, Option.toList_none, List.append_nil]
    exact (parted.map _).append_right _
  · simp only [goto, ParallelTunnels.removeClosedConnections,
      if_neg nothing, candidate, Option.toList_none, List.append_nil,
      List.flatten_append, List.flatten_cons, List.flatten_nil]
    have clients := parted.map PoolChannel.client
    rw [List.map_append] at clients
    refine (List.perm_append_comm.append_left _).trans ?_
    rw [← List.append_assoc]
    exact (List.perm_append_comm.trans clients).append_right _

theorem removeClosedConnections_sound (now : TimePoint)
    (sound : Sound pool) (here : pool.place = .removeClosedConnections)
    (free : pool.stopping = none) :
    Sound ((pool.removeClosedConnections now).goto .checkStarted) := by
  have unchanged :
      (pool.removeClosedConnections now).client = pool.client ∧
        (pool.removeClosedConnections now).nextClient =
          pool.nextClient ∧
        (pool.removeClosedConnections now).stopping = none ∧
        (pool.removeClosedConnections now).notifications =
          (if (pool.removeClosedConnections now).connectedNotified then
            1 else 0) := by
    rw [ParallelTunnels.removeClosedConnections]
    split
    · exact ⟨rfl, rfl, free, sound.notified⟩
    · exact ⟨rfl, rfl, free, sound.notified⟩
  obtain ⟨client, count, resting, notified⟩ := unchanged
  have accounts := sound.accounts
  rw [heldClients, opened, here] at accounts
  simp only [candidate, Option.toList_none, List.append_nil] at accounts
  have removed :=
    accounts.perm (removeClosedConnections_held now)
  rw [← client, ← count] at removed
  exact {
    accounts := removed
    stopping := fun rest stopping => by
      rw [goto, resting] at stopping
      cases stopping
    notified := notified
    notifying := by rintro ⟨⟩ }

theorem createNewConnection_sound {created : TimePoint} {value : Int}
    (sound : Sound pool) (here : pool.place = .createNewConnection)
    (free : pool.stopping = none) :
    Sound (pool.createNewConnection parameters created value) where
  accounts := by
    refine sound.accounts.create.perm ?_
    rw [heldClients, opened, heldClients, opened, here]
    simp only [ParallelTunnels.createNewConnection, suspend, setClient,
      candidate, Option.toList_some, Option.toList_none, List.append_nil,
      List.map_append, List.map_cons, List.map_nil, List.append_assoc,
      List.singleton_append]
    exact List.perm_middle
  stopping rest stopping := by
    rw [ParallelTunnels.createNewConnection, suspend, setClient, free]
      at stopping
    cases stopping
  notified := sound.notified
  notifying nothing := by cases nothing

theorem stopFailed_sound {entry : PoolChannel} (sound : Sound pool)
    (here : pool.place = .stopFailed entry) :
    Sound ((pool.stopClient entry.client).goto .checkEmpty) where
  accounts := by
    refine (sound.accounts.perm ?_).stop
    rw [heldClients, opened, heldClients, opened, here]
    simp only [goto, stopClient, setClient, candidate, Option.toList_some,
      Option.toList_none, List.append_nil, List.map_append, List.map_cons,
      List.map_nil, List.append_assoc, List.singleton_append]
    exact List.perm_middle.symm
  stopping := (sound.change (changes_stop _)).stopping
  notified := sound.notified
  notifying nothing := by cases nothing

theorem pushChannel_sound {entry : PoolChannel} {now : TimePoint}
    (sound : Sound pool) (here : pool.place = .pushChannel entry)
    (free : pool.stopping = none) :
    Sound ({ pool with
      connections := pool.connections ++ [entry]
      lastSpawnTime := now }.goto .checkEmpty) where
  accounts := by
    have accounts := sound.accounts
    rw [heldClients, opened, here] at accounts
    rw [heldClients, opened]
    simp only [goto, candidate, Option.toList_none, List.append_nil]
    exact accounts
  stopping rest stopping := by
    rw [goto, free] at stopping
    cases stopping
  notified := sound.notified
  notifying nothing := by cases nothing

theorem awaitStarted_sound {clocks : Clocks} {attempt : Nat}
    (sound : Sound pool) (here : pool.place = .awaitStarted entry attempt)
    (taken : pool.manageStep parameters clocks = some next) :
    Sound next := by
  simp only [manageStep, here] at taken
  split at taken
  · split at taken
    · cases taken
      exact sound.goto (by rw [here]; rfl) (by rintro ⟨⟩)
    · split at taken <;> cases taken
      · exact sound.goto (by rw [here]; rfl) (by rintro ⟨⟩)
      · exact sound.suspend (by rw [here]; rfl) (by rintro ⟨⟩)
  · cases taken
    exact sound.goto (by rw [here]; rfl) (by rintro ⟨⟩)

theorem notifyConnectedOnce_sound {clocks : Clocks}
    (sound : Sound pool) (here : pool.place = .notifyConnectedOnce)
    (taken : pool.manageStep parameters clocks = some next) :
    Sound next := by
  simp only [manageStep, here] at taken
  split at taken
  case isTrue =>
      cases taken
      exact sound.suspend (by rw [here]; rfl) (by rintro ⟨⟩)
  case isFalse first =>
      split at taken
      · cases taken
      · split at taken <;> cases taken
        · exact
            sound.goto (by rw [here]; rfl)
              fun _ => Bool.eq_false_iff.mpr first
        · exact sound.suspend (by rw [here]; rfl) (by rintro ⟨⟩)

/-- The callback is called once: the flag has not been set before. -/
theorem setNotified_sound {clocks : Clocks}
    (sound : Sound pool) (here : pool.place = .setNotified)
    (taken : pool.manageStep parameters clocks = some next) :
    Sound next := by
  simp only [manageStep, here] at taken
  cases taken
  have counted := sound.notified
  rw [sound.notifying here] at counted
  exact {
    accounts := by
      have accounts := sound.accounts
      rw [heldClients, opened, here] at accounts
      exact accounts
    stopping := sound.stopping
    notified := congrArg (· + 1) counted
    notifying := by rintro ⟨⟩ }

theorem giveUp_sound {clocks : Clocks}
    (sound : Sound pool) (here : pool.place = .giveUp)
    (taken : pool.manageStep parameters clocks = some next) :
    Sound next := by
  simp only [manageStep, here] at taken
  cases taken
  exact {
    accounts := by
      have accounts := sound.accounts
      rw [heldClients, opened, here] at accounts
      exact accounts
    stopping := sound.stopping
    notified := sound.notified
    notifying := by rintro ⟨⟩ }

theorem manageStep_sound {clocks : Clocks} (sound : Sound pool)
    (taken : pool.manageStep parameters clocks = some next) :
    Sound next := by
  have free : ¬pool.stopping.isSome = true → pool.stopping = none :=
    fun resting => Option.not_isSome_iff_eq_none.mp resting
  cases here : pool.place with
  | absent | finished =>
      simp only [manageStep, here] at taken
      cases taken
  | removeClosedConnections =>
      simp only [manageStep, here] at taken
      split at taken
      case isTrue => cases taken
      case isFalse resting =>
          cases taken
          exact removeClosedConnections_sound _ sound here (free resting)
  | createNewConnection =>
      simp only [manageStep, here] at taken
      split at taken
      case isTrue => cases taken
      case isFalse resting =>
          obtain ⟨value, -, rfl⟩ := Option.map_eq_some_iff.mp taken
          exact createNewConnection_sound sound here (free resting)
  | stopFailed entry =>
      simp only [manageStep, here] at taken
      cases taken
      exact stopFailed_sound sound here
  | pushChannel entry =>
      simp only [manageStep, here] at taken
      split at taken
      case isTrue => cases taken
      case isFalse resting =>
          cases taken
          exact pushChannel_sound sound here (free resting)
  | setNotified => exact setNotified_sound sound here taken
  | giveUp => exact giveUp_sound sound here taken
  | awaitStarted entry attempt => exact awaitStarted_sound sound here taken
  | notifyConnectedOnce => exact notifyConnectedOnce_sound sound here taken
  | whileStarted =>
      simp only [manageStep, here] at taken
      split at taken <;> cases taken
      · exact sound.suspend (by rw [here]; rfl) (by rintro ⟨⟩)
      · exact sound.suspend (by rw [here]; rfl) (by rintro ⟨⟩)
  | checkStarted | checkSpawnTime =>
      simp only [manageStep, here] at taken
      split at taken <;> cases taken
      · exact sound.goto (by rw [here]; rfl) (by rintro ⟨⟩)
      · exact sound.goto (by rw [here]; rfl) (by rintro ⟨⟩)
  | countHealthy | checkSize | checkEmpty =>
      simp only [manageStep, here] at taken
      split at taken
      · cases taken
      · split at taken <;> cases taken
        · exact sound.goto (by rw [here]; rfl) (by rintro ⟨⟩)
        · exact sound.goto (by rw [here]; rfl) (by rintro ⟨⟩)

theorem stopStep_sound (sound : Sound pool) : Sound pool.stopStep := by
  rw [stopStep]
  split
  · refine {
      accounts := sound.accounts
      stopping := ?_
      notified := sound.notified
      notifying := sound.notifying }
    rintro _ ⟨⟩ entry member
    exact Or.inl (List.mem_map_of_mem member)
  · rename_i connection rest stopping
    have changed :=
      sound.change (changes_stop (pool.client connection))
    refine {
      accounts := changed.accounts
      stopping := ?_
      notified := sound.notified
      notifying := sound.notifying }
    rintro _ ⟨⟩ entry member
    rcases changed.stopping _ stopping entry member with waiting | stopped
    · rcases List.mem_cons.mp waiting with rfl | waiting
      · have inside : entry.client ∈ heldClients pool :=
          List.mem_append_left _
            (List.mem_map_of_mem (List.mem_append_left _ member))
        have known := sound.accounts.created _ inside
        refine Or.inr ?_
        show (Function.update pool.client entry.client _
          entry.client).wasStopped = true
        rw [Function.update_self]
        exact (sound.accounts.consistent _ known).stop
      · exact Or.inl waiting
    · exact Or.inr stopped
  · rename_i stopping
    have accounts := sound.accounts
    rw [heldClients, opened, List.map_append, List.append_assoc]
      at accounts
    refine {
      accounts := accounts.releaseAll fun client member => ?_
      stopping := by rintro _ ⟨⟩
      notified := sound.notified
      notifying := sound.notifying }
    obtain ⟨entry, inside, rfl⟩ := List.mem_map.mp member
    rcases sound.stopping [] stopping entry inside with nothing | stopped
    · cases nothing
    · exact stopped

theorem step_sound (sound : Sound pool)
    (taken : pool.step parameters label = some next) : Sound next := by
  cases label with
  | start =>
      simp only [step] at taken
      split at taken
      case isFalse => cases taken
      case isTrue here =>
          cases taken
          exact {
            accounts := by
              have accounts := sound.accounts
              rw [heldClients, opened, here] at accounts
              exact accounts
            stopping := sound.stopping
            notified := sound.notified
            notifying := by rintro ⟨⟩ }
  | test =>
      simp only [step] at taken
      split at taken
      · split at taken <;> cases taken
        · exact ⟨sound.1, sound.2, sound.3, sound.4⟩
        · exact ⟨sound.1, sound.2, sound.3, sound.4⟩
      · cases taken
  | idle | resume =>
      simp only [step] at taken
      split at taken <;> cases taken
      exact ⟨sound.1, sound.2, sound.3, sound.4⟩
  | client connection event =>
      simp only [step] at taken
      split at taken <;> cases taken
      have changed :=
        sound.change (changes_apply (pool.client connection) event)
      exact ⟨changed.1, changed.2, changed.3, changed.4⟩
  | manage =>
      simp only [step] at taken
      split at taken
      case isTrue => exact manageStep_sound sound taken
      case isFalse => cases taken
  | stopClosed =>
      simp only [step] at taken
      split at taken
      · split at taken
        case h_1 => cases taken
        case h_2 closed rest waiting =>
          cases taken
          rw [stopClients_eq]
          have accounts := sound.accounts
          rw [heldClients, waiting, List.flatten_cons] at accounts
          have before := accounts.perm (List.perm_append_comm_assoc _ _ _)
          exact {
            accounts := before.stopAll
            stopping := fun left stopping entry member =>
              (sound.stopping left stopping entry member).imp_right
                fun stopped => by
                  have known :=
                    sound.accounts.created entry.client
                      (List.mem_append_left _ (List.mem_map_of_mem
                        (List.mem_append_left _ member)))
                  exact
                    (evolves_stopAll closed _ known).2.stopped stopped
            notified := sound.notified
            notifying := sound.notifying }
      · cases taken
  | stop =>
      cases taken
      exact stopStep_sound sound

theorem run_sound {labels : List Label}
    (reached : run (step parameters) ParallelTunnels.create labels =
      some pool) : Sound pool :=
  run_invariant (fun _ _ _ sound taken => step_sound sound taken)
    create_sound reached

/-! ## Later states -/

/-- No client is taken back, and none comes up again. -/
def PoolEvolves (pool next : ParallelTunnels) : Prop :=
  Evolves pool.client pool.nextClient next.client next.nextClient

theorem removeClosedConnections_evolves (now : TimePoint) :
    PoolEvolves pool (pool.removeClosedConnections now) := by
  rw [ParallelTunnels.removeClosedConnections]
  split
  · exact evolves_refl
  · exact evolves_refl

theorem manageStep_evolves {clocks : Clocks}
    (taken : pool.manageStep parameters clocks = some next) :
    PoolEvolves pool next := by
  cases here : pool.place with
  | removeClosedConnections =>
      simp only [manageStep, here] at taken
      split at taken <;> cases taken
      exact removeClosedConnections_evolves _
  | createNewConnection =>
      simp only [manageStep, here] at taken
      split at taken
      · cases taken
      · obtain ⟨value, -, rfl⟩ := Option.map_eq_some_iff.mp taken
        exact evolves_create
  | stopFailed entry =>
      simp only [manageStep, here] at taken
      cases taken
      exact evolves_change (changes_stop _)
  | _ =>
      simp only [manageStep, here] at taken
      try split at taken
      all_goals try split at taken
      all_goals try split at taken
      all_goals
        cases taken
        try exact evolves_refl

theorem stopStep_evolves : PoolEvolves pool pool.stopStep := by
  rw [stopStep]
  split
  · exact evolves_refl
  · exact evolves_change (changes_stop _)
  · exact evolves_refl

theorem step_evolves (taken : pool.step parameters label = some next) :
    PoolEvolves pool next := by
  cases label with
  | start | idle | resume =>
      simp only [step] at taken
      split at taken <;> cases taken
      exact evolves_refl
  | test =>
      simp only [step] at taken
      split at taken
      · split at taken <;> cases taken
        · exact evolves_refl
        · exact evolves_refl
      · cases taken
  | manage =>
      simp only [step] at taken
      split at taken
      case isTrue => exact manageStep_evolves taken
      case isFalse => cases taken
  | client =>
      simp only [step] at taken
      split at taken <;> cases taken
      exact evolves_change (changes_apply _ _)
  | stopClosed =>
      simp only [step] at taken
      split at taken
      · split at taken <;> cases taken
        rw [stopClients_eq]
        exact evolves_stopAll _
      · cases taken
  | stop =>
      cases taken
      exact stopStep_evolves

theorem run_evolves {labels : List Label}
    (reached : run (step parameters) pool labels = some next) :
    PoolEvolves pool next :=
  @run_invariant _ _ (step parameters) (PoolEvolves pool)
    (fun _ _ _ sofar taken => sofar.trans (step_evolves taken))
    pool next labels evolves_refl reached

/-- A client which the pool does not hold any longer has been stopped, and
never comes up again.  Each client is held in one place only, and the pool
announces at most once that it is connected. -/
theorem clients_accounted (parameters : Parameters) (labels : List Label)
    (pool : ParallelTunnels)
    (reached : run (step parameters) ParallelTunnels.create labels =
      some pool) :
    (heldClients pool).Nodup ∧ pool.notifications ≤ 1 ∧
      ∀ connection < pool.nextClient, connection ∉ heldClients pool →
        ∀ later last, run (step parameters) pool later = some last →
          (last.client connection).wasStopped = true ∧
            (last.client connection).isStarted = false := by
  have sound := run_sound reached
  refine ⟨sound.accounts.distinct, ?_, ?_⟩
  · rw [sound.notified]
    split
    · exact Nat.le_refl _
    · exact Nat.zero_le _
  · intro connection known released later last reachedLater
    exact
      sound.accounts.released known released (run_evolves reachedLater)

/-- `Stop` comes to the only client of the pool. -/
theorem clients_accounted_stop :
    ∃ pool,
      run (step dualTunnel) ParallelTunnels.create
          (.start :: opensConnection 0 100 ++ [.stop, .stop, .stop]) =
        some pool ∧
        pool.nextClient = 1 ∧ (pool.client 0).isStarted = false := by
  have taken : (run (step dualTunnel) ParallelTunnels.create
      (.start :: opensConnection 0 100 ++ [.stop, .stop, .stop])).map
      (fun pool => (heldClients pool, pool.nextClient)) =
        some ([], 1) := by
    decide +kernel
  obtain ⟨pool, reached, found⟩ := Option.map_eq_some_iff.mp taken
  obtain ⟨holding, count⟩ := Prod.mk.inj found
  obtain ⟨-, -, released⟩ :=
    clients_accounted dualTunnel _ pool reached
  have down :=
    released 0 (by rw [count]; exact Nat.zero_lt_one)
      (by rw [holding]; exact List.not_mem_nil) [] pool rfl
  exact ⟨pool, reached, count, down.2⟩

end Fptn.Connection.PoolAccounts
