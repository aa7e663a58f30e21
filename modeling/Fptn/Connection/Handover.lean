import Fptn.Connection.ClientAccounts

/-!
# Handing over to a new connection

The active connection of a `RollingTunnel` is replaced by one which is up, and
only then is the old one told to stop.  Until somebody calls `Stop` the tunnel
therefore keeps the connection it has.

No connection is forgotten either.  The tunnel still holds each connection
which has not been stopped: as the active one, as the one it brings up, or as
one which waits for its `Stop`.
-/

namespace Fptn.Connection.Handover

open Fptn.PartialRun
open Fptn.Connection.PoolStrategies
open Fptn.Connection.ClientAccounts
open Fptn.Connection.Rolling
open Fptn.Connection.Rolling.RollingTunnel

variable {second : TimePoint} {tunnel next : RollingTunnel}
  {connection : ClientPtr} {label : Label}

/-! ## Connections and who holds them -/

/-- The connection which the coroutine holds. -/
def coroutineConnection : Place → Option ClientPtr
  | .startWaiting connection | .awaitStarted connection _
  | .stopFailed connection | .switchOver connection => some connection
  | .spawnStop previous => previous
  | _ => none

/-- All connections which the tunnel holds. -/
def held (tunnel : RollingTunnel) : List ClientPtr :=
  tunnel.activeConnection.toList ++
    (coroutineConnection tunnel.place).toList ++ tunnel.closing

/-! ## The invariant -/

structure Sound (tunnel : RollingTunnel) : Prop where
  accounts : Accounts tunnel.client tunnel.nextClient (held tunnel)
  /-- The handlers of its client cannot intervene before the switch. -/
  started : ∀ connection, tunnel.place = .switchOver connection →
    tunnel.suspended = false ∧ (tunnel.client connection).isStarted = true
  reset : tunnel.stopping = some .reset →
    ∀ connection ∈ tunnel.activeConnection,
      (tunnel.client connection).wasStopped = true
  notified : tunnel.notifications =
    if tunnel.connectedNotified then 1 else 0
  notifying : tunnel.place = .setNotified →
    tunnel.connectedNotified = false

theorem create_sound : Sound RollingTunnel.create where
  accounts := {
    created := fun _ member => by cases member
    distinct := List.nodup_nil
    stopped := fun _ known => absurd known (Nat.not_lt_zero _)
    consistent := fun _ known => absurd known (Nat.not_lt_zero _) }
  started _ nothing := by cases nothing
  reset nothing := by cases nothing
  notified := rfl
  notifying nothing := by cases nothing

/-- The coroutine goes on to a place where it holds the same connection. -/
theorem Sound.goto {place : Place} (sound : Sound tunnel)
    (same : coroutineConnection place = coroutineConnection tunnel.place)
    (started : ∀ connection, place = .switchOver connection →
      tunnel.suspended = false ∧
        (tunnel.client connection).isStarted = true)
    (notifying : place = .setNotified →
      tunnel.connectedNotified = false) :
    Sound (tunnel.goto place) where
  accounts := by
    have accounts := sound.accounts
    rw [held, ← same] at accounts
    exact accounts
  started := started
  reset := sound.reset
  notified := sound.notified
  notifying := notifying

theorem Sound.suspend {place : Place} (sound : Sound tunnel)
    (same : coroutineConnection place = coroutineConnection tunnel.place)
    (early : ∀ connection, place ≠ .switchOver connection)
    (notifying : place ≠ .setNotified) :
    Sound (tunnel.suspend place) where
  accounts := by
    have accounts := sound.accounts
    rw [held, ← same] at accounts
    exact accounts
  started connection here := absurd here (early connection)
  reset := sound.reset
  notified := sound.notified
  notifying here := absurd here notifying

theorem held_create (here : coroutineConnection tunnel.place = none) :
    (held tunnel.createNewConnection).Perm
      (tunnel.nextClient :: held tunnel) := by
  have split : held tunnel.createNewConnection =
      tunnel.activeConnection.toList ++
        tunnel.nextClient :: tunnel.closing := by
    simp [held, RollingTunnel.createNewConnection, suspend, setClient,
      coroutineConnection]
  rw [split, held, here]
  simp

theorem createNewConnection_sound (sound : Sound tunnel)
    (here : coroutineConnection tunnel.place = none) :
    Sound tunnel.createNewConnection where
  accounts := sound.accounts.create.perm (held_create here)
  started _ nothing := by cases nothing
  reset resetting connection active := by
    have holds : connection ∈ held tunnel :=
      List.mem_append_left _
        (List.mem_append_left _ (Option.mem_toList.mpr active))
    have known := sound.accounts.created connection holds
    show (Function.update tunnel.client tunnel.nextClient _
      connection).wasStopped = true
    rw [Function.update_of_ne (Nat.ne_of_lt known)]
    exact sound.reset resetting connection active
  notified := sound.notified
  notifying nothing := by cases nothing

theorem switchOver_sound {now : TimePoint} (sound : Sound tunnel)
    (here : tunnel.place = .switchOver connection)
    (free : tunnel.stopping = none) :
    Sound (tunnel.switchOver second connection now) where
  accounts := by
    refine sound.accounts.perm ?_
    simp only [held, RollingTunnel.switchOver, here, coroutineConnection,
      Option.toList_some]
    exact List.perm_append_comm.append_right _
  started _ nothing := by cases nothing
  reset resetting := by
    rw [RollingTunnel.switchOver, free] at resetting
    cases resetting
  notified := sound.notified
  notifying nothing := by cases nothing

theorem stopFailed_sound (sound : Sound tunnel)
    (here : tunnel.place = .stopFailed connection) :
    Sound ((tunnel.stopClient connection).goto .giveUp) where
  accounts := by
    refine (sound.accounts.perm ?_).stop
    simp only [held, RollingTunnel.goto, stopClient, setClient, here,
      coroutineConnection, Option.toList_none, Option.toList_some]
    simpa using List.perm_middle.symm
  started _ nothing := by cases nothing
  reset resetting other active :=
    (changes_stop _).update (sound.reset resetting other active)
  notified := sound.notified
  notifying nothing := by cases nothing

theorem spawnStop_sound {previous : Option ClientPtr}
    (sound : Sound tunnel) (here : tunnel.place = .spawnStop previous) :
    Sound ({ tunnel with
      closing := tunnel.closing ++ previous.toList }.goto
        .notifyConnectedOnce) where
  accounts := by
    refine sound.accounts.perm ?_
    simp only [held, RollingTunnel.goto, here, coroutineConnection,
      Option.toList_none, List.append_nil, List.append_assoc]
    exact List.perm_append_comm.append_left _
  started _ nothing := by cases nothing
  reset := sound.reset
  notified := sound.notified
  notifying nothing := by cases nothing

theorem awaitStarted_sound {deadline systemNow steadyNow : TimePoint}
    (sound : Sound tunnel) (awake : tunnel.suspended = false)
    (here : tunnel.place = .awaitStarted connection deadline)
    (taken : tunnel.manageStep second systemNow steadyNow = some next) :
    Sound next := by
  simp only [manageStep, here] at taken
  split at taken
  · split at taken
    case isTrue up =>
        cases taken
        refine sound.goto (by rw [here]; rfl) ?_ (by rintro ⟨⟩)
        rintro _ ⟨⟩
        exact ⟨awake, up⟩
    case isFalse =>
        split at taken <;> cases taken
        · exact sound.goto (by rw [here]; rfl) (by rintro _ ⟨⟩) (by rintro ⟨⟩)
        · exact sound.suspend (by rw [here]) (by rintro _ ⟨⟩) (by rintro ⟨⟩)
  · cases taken
    exact sound.goto (by rw [here]; rfl) (by rintro _ ⟨⟩) (by rintro ⟨⟩)

theorem notifyConnectedOnce_sound {systemNow steadyNow : TimePoint}
    (sound : Sound tunnel) (here : tunnel.place = .notifyConnectedOnce)
    (taken : tunnel.manageStep second systemNow steadyNow = some next) :
    Sound next := by
  simp only [manageStep, here] at taken
  split at taken
  case isTrue =>
      cases taken
      exact sound.suspend (by rw [here]; rfl) (by rintro _ ⟨⟩) (by rintro ⟨⟩)
  case isFalse first =>
      split at taken
      · cases taken
      · split at taken <;> cases taken
        · exact
            sound.goto (by rw [here]; rfl) (by rintro _ ⟨⟩)
              fun _ => by simpa using first
        · exact
            sound.suspend (by rw [here]; rfl) (by rintro _ ⟨⟩)
              (by rintro ⟨⟩)

/-- The callback is called once: the flag has not been set before. -/
theorem setNotified_sound {systemNow steadyNow : TimePoint}
    (sound : Sound tunnel) (here : tunnel.place = .setNotified)
    (taken : tunnel.manageStep second systemNow steadyNow = some next) :
    Sound next := by
  simp only [manageStep, here] at taken
  cases taken
  have first := sound.notifying here
  have counted := sound.notified
  rw [first] at counted
  exact {
    accounts := by
      have accounts := sound.accounts
      rw [held, here] at accounts
      exact accounts
    started := by rintro _ ⟨⟩
    reset := sound.reset
    notified := by
      show tunnel.notifications + 1 = 1
      rw [counted]
      rfl
    notifying := by rintro ⟨⟩ }

theorem giveUp_sound {systemNow steadyNow : TimePoint}
    (sound : Sound tunnel) (here : tunnel.place = .giveUp)
    (taken : tunnel.manageStep second systemNow steadyNow = some next) :
    Sound next := by
  simp only [manageStep, here] at taken
  cases taken
  exact {
    accounts := by
      have accounts := sound.accounts
      rw [held, here] at accounts
      exact accounts
    started := by rintro _ ⟨⟩
    reset := sound.reset
    notified := sound.notified
    notifying := by rintro ⟨⟩ }

theorem manageStep_sound {systemNow steadyNow : TimePoint}
    (sound : Sound tunnel) (awake : tunnel.suspended = false)
    (taken : tunnel.manageStep second systemNow steadyNow = some next) :
    Sound next := by
  cases here : tunnel.place with
  | absent | finished =>
      simp only [manageStep, here] at taken
      cases taken
  | whileStarted =>
      simp only [manageStep, here] at taken
      split at taken <;> cases taken
      · exact sound.suspend (by rw [here]; rfl) (by rintro _ ⟨⟩) (by rintro ⟨⟩)
      · exact sound.suspend (by rw [here]; rfl) (by rintro _ ⟨⟩) (by rintro ⟨⟩)
  | checkStopped | checkRenew =>
      simp only [manageStep, here] at taken
      split at taken
      · cases taken
      · split at taken <;> cases taken
        · exact sound.goto (by rw [here]; rfl) (by rintro _ ⟨⟩) (by rintro ⟨⟩)
        · exact sound.goto (by rw [here]; rfl) (by rintro _ ⟨⟩) (by rintro ⟨⟩)
  | createNewConnection =>
      simp only [manageStep, here] at taken
      cases taken
      exact createNewConnection_sound sound (by rw [here]; rfl)
  | startWaiting connection =>
      simp only [manageStep, here] at taken
      cases taken
      exact sound.goto (by rw [here]; rfl) (by rintro _ ⟨⟩) (by rintro ⟨⟩)
  | awaitStarted connection deadline =>
      exact awaitStarted_sound sound awake here taken
  | stopFailed connection =>
      simp only [manageStep, here] at taken
      cases taken
      exact stopFailed_sound sound here
  | switchOver connection =>
      simp only [manageStep, here] at taken
      split at taken
      case isTrue => cases taken
      case isFalse free =>
          cases taken
          exact switchOver_sound sound here (by simpa using free)
  | spawnStop previous =>
      simp only [manageStep, here] at taken
      cases taken
      exact spawnStop_sound sound here
  | notifyConnectedOnce => exact notifyConnectedOnce_sound sound here taken
  | setNotified => exact setNotified_sound sound here taken
  | giveUp => exact giveUp_sound sound here taken

/-- The first thing `Stop` does, and the last. -/
theorem Sound.ofStop {running : Bool} {stopping : Option StopPlace}
    (sound : Sound tunnel)
    (stopped : stopping = some .reset →
      ∀ connection ∈ tunnel.activeConnection,
        (tunnel.client connection).wasStopped = true) :
    Sound { tunnel with running := running, stopping := stopping } where
  accounts := sound.accounts
  started := sound.started
  reset := stopped
  notified := sound.notified
  notifying := sound.notifying

/-- A client changes, and none which the coroutine is about to use. -/
theorem Sound.change {change : WebsocketClient} (sound : Sound tunnel)
    (changes : Changes (tunnel.client connection) change)
    (other : ∀ next, tunnel.place = .switchOver next →
      next ≠ connection) :
    Sound (tunnel.setClient connection change) where
  accounts := sound.accounts.change changes
  started next here := by
    obtain ⟨awake, up⟩ := sound.started next here
    refine ⟨awake, ?_⟩
    show (Function.update tunnel.client connection change
      next).isStarted = true
    rwa [Function.update_of_ne (other next here)]
  reset resetting next active :=
    changes.update (sound.reset resetting next active)
  notified := sound.notified
  notifying := sound.notifying

theorem active_ne_switchOver (sound : Sound tunnel)
    (active : tunnel.activeConnection = some connection) :
    ∀ next, tunnel.place = .switchOver next → next ≠ connection := by
  rintro _ here rfl
  have distinct := sound.accounts.distinct
  simp [held, active, here, coroutineConnection] at distinct

theorem stopStep_sound (sound : Sound tunnel) :
    Sound tunnel.stopStep := by
  rw [stopStep]
  split
  · exact sound.ofStop (by rintro ⟨⟩)
  · split
    case h_1 _ nothing =>
        refine @Sound.ofStop tunnel tunnel.running _ sound
          fun _ connection active => ?_
        rw [nothing] at active
        cases active
    case h_2 _ connection active =>
        have changed :=
          sound.change (changes_stop (tunnel.client connection))
            (active_ne_switchOver sound active)
        refine @Sound.ofStop (tunnel.stopClient connection)
          tunnel.running _ changed fun _ other here => ?_
        obtain rfl : connection = other :=
          Option.some.inj (active.symm.trans here)
        have known : connection < tunnel.nextClient :=
          sound.accounts.created connection (by simp [held, active])
        show (Function.update tunnel.client connection _
          connection).wasStopped = true
        rw [Function.update_self]
        exact (sound.accounts.consistent connection known).stop
  · rename_i resetting
    have stopped := sound.reset resetting
    refine {
      accounts := ?_
      started := sound.started
      reset := by rintro ⟨⟩
      notified := sound.notified
      notifying := sound.notifying }
    have accounts := sound.accounts
    cases active : tunnel.activeConnection with
    | none =>
        rw [held, active] at accounts
        exact accounts
    | some connection =>
        rw [held, active] at accounts
        exact accounts.release (stopped connection active)

/-- While a handler runs, the coroutine does not wait for the mutex. -/
theorem Sound.resting (sound : Sound tunnel) (polls : tunnel.Polls) :
    ∀ next, tunnel.place = .switchOver next → next ≠ connection := by
  intro next here
  have awake := (sound.started next here).1
  rw [polls.2] at awake
  cases awake

/-- The event loop goes on. -/
theorem Sound.loops {loop : LoopPlace} (sound : Sound tunnel) :
    Sound { tunnel with loop := loop } where
  accounts := sound.accounts
  started := sound.started
  reset := sound.reset
  notified := sound.notified
  notifying := sound.notifying

theorem step_sound (sound : Sound tunnel)
    (taken : tunnel.step second label = some next) : Sound next := by
  cases label with
  | start =>
      simp only [step] at taken
      split at taken
      case isFalse => cases taken
      case isTrue here =>
        cases taken
        have begun : Sound { tunnel with running := true } :=
          sound.ofStop sound.reset
        exact begun.suspend (by rw [here]; rfl) (by rintro _ ⟨⟩) (by rintro ⟨⟩)
  | test =>
      simp only [step] at taken
      split at taken
      · split at taken <;> cases taken
        · exact sound.loops
        · exact sound.loops
      · cases taken
  | idle =>
      simp only [step] at taken
      split at taken <;> cases taken
      exact sound.loops
  | resume =>
      simp only [step] at taken
      split at taken
      case isFalse => cases taken
      case isTrue polls =>
        cases taken
        exact {
          accounts := sound.accounts
          started := fun connection here =>
            absurd rfl (sound.resting polls connection here)
          reset := sound.reset
          notified := sound.notified
          notifying := sound.notifying }
  | manage =>
      simp only [step] at taken
      split at taken
      case isTrue runs => exact manageStep_sound sound runs.2 taken
      case isFalse => cases taken
  | client connection event =>
      simp only [step] at taken
      split at taken
      case isFalse => cases taken
      case isTrue polls =>
        cases taken
        exact
          (sound.change (changes_apply _ event)
            (sound.resting polls.1)).loops
  | stopPrevious =>
      simp only [step] at taken
      split at taken
      case isFalse => cases taken
      case isTrue polls =>
          split at taken <;> cases taken
          case h_2 connection rest waiting =>
            have changed :=
              sound.change (changes_stop (tunnel.client connection))
                (sound.resting polls)
            exact {
              accounts := by
                have accounts := sound.accounts
                rw [held, waiting] at accounts
                exact (accounts.perm List.perm_middle.symm).stop
              started := changed.started
              reset := changed.reset
              notified := changed.notified
              notifying := changed.notifying }
  | stop =>
      cases taken
      exact stopStep_sound sound

theorem run_sound {labels : List Label}
    (reached : run (step second) RollingTunnel.create labels =
      some tunnel) : Sound tunnel :=
  run_invariant (fun _ _ _ sound taken => step_sound sound taken)
    create_sound reached

/-! ## What a step does to the active connection -/

/-- Only the handlers of its own client change the active connection. -/
structure Keeps (tunnel next : RollingTunnel) (label : Label)
    (connection : ClientPtr) : Prop where
  active : next.activeConnection = some connection
  unchanged : (∀ event, label ≠ .client connection event) →
    next.client connection = tunnel.client connection

/-- The new connection is up, and the old one has not been touched. -/
structure Replaces (tunnel next : RollingTunnel) (connection : ClientPtr) :
    Prop where
  started : ∃ fresh, fresh ≠ connection ∧
    next.activeConnection = some fresh ∧
      (next.client fresh).isStarted = true
  unchanged : next.client connection = tunnel.client connection
  waiting : coroutineConnection next.place = some connection

section Active

variable {other : ClientPtr}

/-- The active connection is held only once. -/
theorem active_ne (sound : Sound tunnel)
    (active : tunnel.activeConnection = some connection)
    (member : other ∈
      (coroutineConnection tunnel.place).toList ++ tunnel.closing) :
    connection ≠ other := by
  have distinct := sound.accounts.distinct
  rw [held, active, List.append_assoc] at distinct
  rintro rfl
  exact (List.nodup_cons.mp distinct).1 member

theorem keeps_same
    (active : tunnel.activeConnection = some connection)
    (sameActive : next.activeConnection = tunnel.activeConnection)
    (sameClient : next.client = tunnel.client) :
    Keeps tunnel next label connection where
  active := sameActive.trans active
  unchanged _ := by rw [sameClient]

/-- Another client changes. -/
theorem keeps_other {change : WebsocketClient}
    (active : tunnel.activeConnection = some connection)
    (different : connection ≠ other)
    (sameActive : next.activeConnection = tunnel.activeConnection)
    (changed : next.client =
      Function.update tunnel.client other change) :
    Keeps tunnel next label connection where
  active := sameActive.trans active
  unchanged _ := by rw [changed, Function.update_of_ne different]

theorem manageStep_hands {systemNow steadyNow : TimePoint}
    (sound : Sound tunnel)
    (active : tunnel.activeConnection = some connection)
    (taken : tunnel.manageStep second systemNow steadyNow = some next) :
    Keeps tunnel next label connection ∨
      Replaces tunnel next connection := by
  cases here : tunnel.place with
  | absent | finished =>
      simp only [manageStep, here] at taken
      cases taken
  | whileStarted | startWaiting | spawnStop | setNotified | giveUp =>
      simp only [manageStep, here] at taken
      try split at taken
      all_goals
        cases taken
        exact Or.inl (keeps_same active rfl rfl)
  | checkStopped | checkRenew | notifyConnectedOnce =>
      simp only [manageStep, here] at taken
      split at taken
      all_goals try split at taken
      all_goals try split at taken
      all_goals
        cases taken
        try exact Or.inl (keeps_same active rfl rfl)
  | awaitStarted candidate deadline =>
      simp only [manageStep, here] at taken
      split at taken
      · split at taken
        · cases taken
          exact Or.inl (keeps_same active rfl rfl)
        · split at taken <;> cases taken
          · exact Or.inl (keeps_same active rfl rfl)
          · exact Or.inl (keeps_same active rfl rfl)
      · cases taken
        exact Or.inl (keeps_same active rfl rfl)
  | createNewConnection =>
      simp only [manageStep, here] at taken
      cases taken
      have known : connection < tunnel.nextClient :=
        sound.accounts.created connection (by simp [held, active])
      exact
        Or.inl (keeps_other active (Nat.ne_of_lt known) rfl rfl)
  | stopFailed failed =>
      simp only [manageStep, here] at taken
      cases taken
      exact
        Or.inl (keeps_other active
          (active_ne sound active (by simp [here, coroutineConnection]))
          rfl rfl)
  | switchOver fresh =>
      simp only [manageStep, here] at taken
      split at taken
      case isTrue => cases taken
      case isFalse =>
          cases taken
          have different : connection ≠ fresh :=
            active_ne sound active (by simp [here, coroutineConnection])
          refine Or.inr {
            started := ⟨fresh, different.symm, rfl, ?_⟩
            unchanged := rfl
            waiting := active }
          exact (sound.started fresh here).2

/-- As long as nobody calls `Stop`, the active connection is kept or
replaced. -/
theorem step_hands (sound : Sound tunnel)
    (active : tunnel.activeConnection = some connection)
    (notStop : label ≠ .stop)
    (taken : tunnel.step second label = some next) :
    Keeps tunnel next label connection ∨
      Replaces tunnel next connection := by
  cases label with
  | start | idle | resume =>
      simp only [step] at taken
      split at taken <;> cases taken
      exact Or.inl (keeps_same active rfl rfl)
  | test =>
      simp only [step] at taken
      split at taken
      · split at taken <;> cases taken
        · exact Or.inl (keeps_same active rfl rfl)
        · exact Or.inl (keeps_same active rfl rfl)
      · cases taken
  | manage =>
      simp only [step] at taken
      split at taken
      case isTrue => exact manageStep_hands sound active taken
      case isFalse => cases taken
  | client changed event =>
      simp only [step] at taken
      split at taken <;> cases taken
      refine Or.inl ⟨active, fun foreign => ?_⟩
      have different : connection ≠ changed := by
        rintro rfl
        exact foreign event rfl
      exact Function.update_of_ne different _ _
  | stopPrevious =>
      simp only [step] at taken
      split at taken
      · split at taken <;> cases taken
        case h_2 previous rest waiting =>
          exact
            Or.inl (keeps_other active
              (active_ne sound active (by simp [waiting])) rfl rfl)
      · cases taken
  | stop => exact absurd rfl notStop

theorem step_active (sound : Sound tunnel)
    (active : tunnel.hasActiveConnection = true)
    (notStop : label ≠ .stop)
    (taken : tunnel.step second label = some next) :
    next.hasActiveConnection = true := by
  obtain ⟨connection, here⟩ := Option.isSome_iff_exists.mp active
  rcases step_hands sound here notStop taken with keeps | replaces
  · rw [hasActiveConnection, keeps.active]
    rfl
  · obtain ⟨fresh, -, now, -⟩ := replaces.started
    rw [hasActiveConnection, now]
    rfl

end Active

/-- Once there is an active connection, there is one until somebody calls
`Stop`.  It is replaced only by a connection which is up, and only the
handlers of its own client have changed it before. -/
theorem handover (second : TimePoint) (labels : List Label)
    (tunnel : RollingTunnel)
    (reached : run (step second) RollingTunnel.create labels = some tunnel)
    (connection : ClientPtr)
    (active : tunnel.activeConnection = some connection) :
    (∀ label next, label ≠ .stop →
      tunnel.step second label = some next →
        Keeps tunnel next label connection ∨
          Replaces tunnel next connection) ∧
      ∀ later last, .stop ∉ later →
        run (step second) tunnel later = some last →
          last.hasActiveConnection = true := by
  have sound := run_sound reached
  refine ⟨fun label next => step_hands sound active,
    fun later last noStop reachedLater => ?_⟩
  have begun : tunnel.hasActiveConnection = true := by
    rw [hasActiveConnection, active]
    rfl
  have kept :=
    @run_invariant_of _ _ (step second)
      (fun _ label => label ≠ .stop)
      (fun state => Sound state ∧ state.hasActiveConnection = true)
      (fun _ _ _ invariant notStop taken =>
        ⟨step_sound invariant.1 taken,
          step_active invariant.1 invariant.2 notStop taken⟩)
      tunnel last later ⟨sound, begun⟩
      (along_of_forall fun _ member => ne_of_mem_of_not_mem member noStop)
      reachedLater
  exact kept.2

/-- The first connection comes up, and is replaced after its time. -/
def renewsOnce : List Label :=
  [.start, .test, .resume, .manage 0 0, .test, .resume, .manage 0 0,
    .manage 0 0, .manage 0 0, .test, .client 0 .connected, .test, .resume,
    .manage 0 0, .manage 0 0, .manage 0 0, .manage 0 0, .manage 0 0,
    .manage 0 0, .test, .resume, .manage 600 600, .test, .resume,
    .manage 600 600, .manage 600 600, .manage 600 600, .test,
    .client 1 .connected, .test, .resume, .manage 600 600,
    .manage 600 600]

theorem handover_renewal :
    ∃ tunnel next,
      run (step 1) RollingTunnel.create renewsOnce = some tunnel ∧
        tunnel.step 1 (.manage 600 600) = some next ∧
        (Keeps tunnel next (.manage 600 600) 0 ∨ Replaces tunnel next 0) ∧
        next.activeConnection = some 1 := by
  have taken : (run (step 1) RollingTunnel.create renewsOnce).map
      (fun tunnel => (tunnel.activeConnection,
        (tunnel.step 1 (.manage 600 600)).map
          RollingTunnel.activeConnection)) =
      some (some 0, some (some 1)) := by
    decide +kernel
  obtain ⟨tunnel, reached, found⟩ := Option.map_eq_some_iff.mp taken
  obtain ⟨active, fresh⟩ := Prod.mk.inj found
  obtain ⟨next, stepped, now⟩ := Option.map_eq_some_iff.mp fresh
  have hands := (handover 1 renewsOnce tunnel reached 0 active).1
  exact
    ⟨tunnel, next, reached, stepped, hands _ next (by rintro ⟨⟩) stepped, now⟩

/-! ## What becomes of a connection -/

/-- No connection is taken back, and none comes up again. -/
def TunnelEvolves (tunnel next : RollingTunnel) : Prop :=
  Evolves tunnel.client tunnel.nextClient next.client next.nextClient

theorem manageStep_evolves {systemNow steadyNow : TimePoint}
    (taken : tunnel.manageStep second systemNow steadyNow = some next) :
    TunnelEvolves tunnel next := by
  cases here : tunnel.place with
  | createNewConnection =>
      simp only [manageStep, here] at taken
      cases taken
      exact evolves_create
  | stopFailed failed =>
      simp only [manageStep, here] at taken
      cases taken
      exact evolves_change (changes_stop _)
  | _ =>
      simp only [manageStep, here] at taken
      try split at taken
      all_goals try split at taken
      all_goals try split at taken
      all_goals
        cases taken
        try exact evolves_refl

theorem stopStep_evolves : TunnelEvolves tunnel tunnel.stopStep := by
  rw [stopStep]
  split
  · exact evolves_refl
  · split
    · exact evolves_refl
    · exact evolves_change (changes_stop _)
  · exact evolves_refl

theorem step_evolves (taken : tunnel.step second label = some next) :
    TunnelEvolves tunnel next := by
  cases label with
  | start | idle | resume =>
      simp only [step] at taken
      split at taken <;> cases taken
      exact evolves_refl
  | test =>
      simp only [step] at taken
      split at taken
      · split at taken <;> cases taken
        · exact evolves_refl
        · exact evolves_refl
      · cases taken
  | manage =>
      simp only [step] at taken
      split at taken
      case isTrue => exact manageStep_evolves taken
      case isFalse => cases taken
  | client =>
      simp only [step] at taken
      split at taken <;> cases taken
      exact evolves_change (changes_apply _ _)
  | stopPrevious =>
      simp only [step] at taken
      split at taken
      · split at taken <;> cases taken
        exact evolves_change (changes_stop _)
      · cases taken
  | stop =>
      cases taken
      exact stopStep_evolves

theorem run_evolves {labels : List Label}
    (reached : run (step second) tunnel labels = some next) :
    TunnelEvolves tunnel next :=
  @run_invariant _ _ (step second) (TunnelEvolves tunnel)
    (fun _ _ _ sofar taken => sofar.trans (step_evolves taken))
    tunnel next labels evolves_refl reached

/-- A connection which is no longer held has been stopped, and never comes up
again.  Each connection is held in one place only, and the tunnel announces at
most once that it is connected. -/
theorem connections_accounted (second : TimePoint) (labels : List Label)
    (tunnel : RollingTunnel)
    (reached : run (step second) RollingTunnel.create labels =
      some tunnel) :
    (held tunnel).Nodup ∧ tunnel.notifications ≤ 1 ∧
      ∀ connection < tunnel.nextClient, connection ∉ held tunnel →
        ∀ later last, run (step second) tunnel later = some last →
          (last.client connection).wasStopped = true ∧
            (last.client connection).isStarted = false := by
  have sound := run_sound reached
  refine ⟨sound.accounts.distinct, ?_, ?_⟩
  · rw [sound.notified]
    split <;> decide
  · intro connection known released later last reachedLater
    exact
      sound.accounts.released known released (run_evolves reachedLater)

/-- The old connection has been stopped after the renewal. -/
theorem connections_accounted_renewal :
    ∃ tunnel,
      run (step 1) RollingTunnel.create
          (renewsOnce ++ [.manage 600 600, .manage 600 600,
            .manage 600 600, .test, .stopPrevious]) = some tunnel ∧
        held tunnel = [1] ∧ (tunnel.client 0).wasStopped = true := by
  have taken : (run (step 1) RollingTunnel.create
      (renewsOnce ++ [.manage 600 600, .manage 600 600,
        .manage 600 600, .test, .stopPrevious])).map
      (fun tunnel => (held tunnel, tunnel.nextClient)) =
        some ([1], 2) := by
    decide +kernel
  obtain ⟨tunnel, reached, found⟩ := Option.map_eq_some_iff.mp taken
  obtain ⟨holding, count⟩ := Prod.mk.inj found
  obtain ⟨-, -, released⟩ := connections_accounted 1 _ tunnel reached
  have stopped :=
    released 0 (by rw [count]; decide) (by rw [holding]; decide) [] tunnel
      rfl
  exact ⟨tunnel, reached, holding, stopped.1⟩

end Fptn.Connection.Handover
