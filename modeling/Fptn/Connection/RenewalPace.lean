import Fptn.Connection.Handover
import Mathlib.Data.List.Chain

/-!
# How often a connection is renewed

`RollingTunnel` renews its connection when the time has come, or when there is
none.  There is none only at the beginning and after `Stop`, and then the
event loop is left before a new connection is up.  So two renewals are never
closer than the time between them should be, if the clock does not go back,
and no more connections are opened than there are renewals, but for one.
-/

namespace Fptn.Connection.RenewalPace

open Fptn.PartialRun
open Fptn.Connection.PoolStrategies
open Fptn.Connection.Rolling
open Fptn.Connection.Rolling.RollingTunnel
open Fptn.Connection.Handover

/-! ## Renewals -/

/-- What a step reads from the system clock. -/
def reading : Label → Option TimePoint
  | .manage systemNow _ => some systemNow
  | _ => none

/-- The renewal which a step makes. -/
def renewal (tunnel : RollingTunnel) (label : Label) : Option TimePoint :=
  match tunnel.place with
  | .switchOver _ => reading label
  | _ => none

/-- The times of all renewals of a run. -/
def renewals (second : TimePoint) :
    RollingTunnel → List Label → List TimePoint
  | _, [] => []
  | tunnel, label :: labels =>
      match tunnel.step second label with
      | none => []
      | some next =>
          (renewal tunnel label).toList ++ renewals second next labels

/-- The distance of renewals. -/
def Spaced (second earlier later : TimePoint) : Prop :=
  earlier + kRenewAfterSeconds * second ≤ later

variable {second clock last : TimePoint} {tunnel next : RollingTunnel}
  {label : Label}

/-! ## Since the last renewal -/

/-- `ManageCoroutine` is inside `RenewConnection`, and the new connection is
not active. -/
def Renews : Place → Prop
  | .createNewConnection | .startWaiting _ | .awaitStarted _ _
  | .switchOver _ => True
  | _ => False

/-- The tunnel has been stopped, and the coroutine will not be resumed behind
its next `co_await`. -/
def Doomed (tunnel : RollingTunnel) : Prop :=
  tunnel.running = false ∧
    (tunnel.place = .createNewConnection ∧ tunnel.suspended = false ∨
      tunnel.suspended = true ∧ tunnel.loop ≠ .polling)

/-- What is so after a renewal, until the next one.  The clock has not shown
a later time than `clock`. -/
structure Since (second clock last : TimePoint) (tunnel : RollingTunnel) :
    Prop where
  renewAt : tunnel.renewAt = last + kRenewAfterSeconds * second
  begun : tunnel.place ≠ .absent
  stopping : tunnel.stopping.isSome = true → tunnel.running = false
  lost : tunnel.activeConnection = none → tunnel.running = false
  due : Renews tunnel.place → tunnel.renewAt ≤ clock ∨ Doomed tunnel

theorem Since.later {now : TimePoint}
    (since : Since second clock last tunnel) (ordered : clock ≤ now) :
    Since second now last tunnel where
  renewAt := since.renewAt
  begun := since.begun
  stopping := since.stopping
  lost := since.lost
  due renews := (since.due renews).imp_left fun due =>
      Int.le_trans due ordered

/-- The coroutine goes on, and is not inside `RenewConnection` then. -/
theorem Since.calm (since : Since second clock last tunnel)
    (renewAt : next.renewAt = tunnel.renewAt)
    (active : next.activeConnection = tunnel.activeConnection)
    (stopping : next.stopping = tunnel.stopping)
    (running : tunnel.running = false → next.running = false)
    (begun : next.place ≠ .absent) (outside : ¬Renews next.place) :
    Since second clock last next where
  renewAt := renewAt.trans since.renewAt
  begun := begun
  stopping here := running (since.stopping (stopping ▸ here))
  lost here := running (since.lost (active ▸ here))
  due renews := absurd renews outside

/-- It goes on inside `RenewConnection`. -/
theorem Since.renews (since : Since second clock last tunnel)
    (renewAt : next.renewAt = tunnel.renewAt)
    (active : next.activeConnection = tunnel.activeConnection)
    (stopping : next.stopping = tunnel.stopping)
    (running : next.running = tunnel.running)
    (begun : next.place ≠ .absent)
    (due : tunnel.renewAt ≤ clock ∨ Doomed next) :
    Since second clock last next where
  renewAt := renewAt.trans since.renewAt
  begun := begun
  stopping here := by
    rw [running]
    exact since.stopping (stopping ▸ here)
  lost here := by
    rw [running]
    exact since.lost (active ▸ here)
  due _ := by rwa [renewAt]

/-- A coroutine which runs is not doomed, but at its first step. -/
theorem Since.due_of_awake (since : Since second clock last tunnel)
    (awake : tunnel.suspended = false) (renews : Renews tunnel.place)
    (further : tunnel.place ≠ .createNewConnection) :
    tunnel.renewAt ≤ clock := by
  rcases since.due renews with due | ⟨-, first | asleep⟩
  · exact due
  · exact absurd first.1 further
  · rw [awake] at asleep
    cases asleep.1

theorem manageStep_since {systemNow steadyNow : TimePoint}
    (since : Since second clock last tunnel)
    (awake : tunnel.suspended = false) (ordered : clock ≤ systemNow)
    (notYet : ∀ connection, tunnel.place ≠ .switchOver connection)
    (taken : tunnel.manageStep second systemNow steadyNow = some next) :
    Since second systemNow last next := by
  have since := since.later ordered
  cases here : tunnel.place with
  | absent | finished =>
      simp only [manageStep, here] at taken
      cases taken
  | whileStarted | checkStopped | notifyConnectedOnce =>
      simp only [manageStep, here] at taken
      split at taken
      all_goals try split at taken
      all_goals try split at taken
      all_goals
        cases taken
        try exact since.calm rfl rfl rfl id (by rintro ⟨⟩) (by rintro ⟨⟩)
  | stopFailed | spawnStop | setNotified =>
      simp only [manageStep, here] at taken
      cases taken
      exact since.calm rfl rfl rfl id (by rintro ⟨⟩) (by rintro ⟨⟩)
  | giveUp =>
      simp only [manageStep, here] at taken
      cases taken
      exact since.calm rfl rfl rfl (fun _ => rfl) (by rintro ⟨⟩) (by rintro ⟨⟩)
  | checkRenew =>
      simp only [manageStep, here] at taken
      split at taken
      · cases taken
      · split at taken
        case isTrue required =>
            cases taken
            refine since.renews rfl rfl rfl rfl (by rintro ⟨⟩) ?_
            rcases Bool.or_eq_true_iff.mp required with nothing | due
            · have none_ : tunnel.activeConnection = none := by
                simpa [hasActiveConnection] using nothing
              exact Or.inr ⟨since.lost none_, Or.inl ⟨rfl, awake⟩⟩
            · exact Or.inl (of_decide_eq_true due)
        case isFalse =>
            cases taken
            exact since.calm rfl rfl rfl id (by rintro ⟨⟩) (by rintro ⟨⟩)
  | createNewConnection =>
      simp only [manageStep, here] at taken
      cases taken
      refine since.renews rfl rfl rfl rfl (by rintro ⟨⟩) ?_
      rcases since.due (by rw [here]; trivial) with due | doomed
      · exact Or.inl due
      · exact Or.inr ⟨doomed.1, Or.inr ⟨rfl, (by rintro ⟨⟩)⟩⟩
  | startWaiting connection =>
      simp only [manageStep, here] at taken
      cases taken
      have due :=
        since.due_of_awake awake (by rw [here]; trivial)
          (by rw [here]; rintro ⟨⟩)
      exact since.renews rfl rfl rfl rfl (by rintro ⟨⟩) (Or.inl due)
  | awaitStarted connection deadline =>
      have due :=
        since.due_of_awake awake (by rw [here]; trivial)
          (by rw [here]; rintro ⟨⟩)
      simp only [manageStep, here] at taken
      split at taken
      · split at taken
        · cases taken
          exact since.renews rfl rfl rfl rfl (by rintro ⟨⟩) (Or.inl due)
        · split at taken <;> cases taken
          · exact since.calm rfl rfl rfl id (by rintro ⟨⟩) (by rintro ⟨⟩)
          · exact since.renews rfl rfl rfl rfl (by rintro ⟨⟩) (Or.inl due)
      · cases taken
        exact since.calm rfl rfl rfl id (by rintro ⟨⟩) (by rintro ⟨⟩)
  | switchOver connection => exact absurd here (notYet connection)

/-- The tunnel is stopped, whatever else happens. -/
theorem Since.stops (since : Since second clock last tunnel)
    (down : next.running = false) (renewAt : next.renewAt = tunnel.renewAt)
    (place : next.place = tunnel.place)
    (suspended : next.suspended = tunnel.suspended)
    (loop : next.loop ≠ .polling ∨ next.loop = tunnel.loop) :
    Since second clock last next where
  renewAt := renewAt.trans since.renewAt
  begun := by
    rw [place]
    exact since.begun
  stopping _ := down
  lost _ := down
  due renews := by
    rw [renewAt]
    rw [place] at renews
    refine (since.due renews).imp_right fun doomed => ⟨down, ?_⟩
    rw [place, suspended]
    refine doomed.2.imp_right fun asleep => ⟨asleep.1, ?_⟩
    rcases loop with away | same
    · exact away
    · rw [same]
      exact asleep.2

theorem stopStep_since (since : Since second clock last tunnel) :
    Since second clock last tunnel.stopStep := by
  rw [stopStep]
  split
  · exact since.stops rfl rfl rfl rfl (Or.inr rfl)
  · rename_i here
    have down := since.stopping (by rw [here]; rfl)
    split
    · exact since.stops down rfl rfl rfl (Or.inr rfl)
    · exact since.stops down rfl rfl rfl (Or.inr rfl)
  · rename_i here
    have down := since.stopping (by rw [here]; rfl)
    exact since.stops down rfl rfl rfl (Or.inr rfl)

/-- The event loop polls: either the renewal is due, or there is none. -/
theorem Since.polled (since : Since second clock last tunnel)
    (polls : tunnel.Polls) (renewAt : next.renewAt = tunnel.renewAt)
    (active : next.activeConnection = tunnel.activeConnection)
    (stopping : next.stopping = tunnel.stopping)
    (running : next.running = tunnel.running)
    (place : next.place = tunnel.place) :
    Since second clock last next where
  renewAt := renewAt.trans since.renewAt
  begun := by
    rw [place]
    exact since.begun
  stopping here := by
    rw [running]
    exact since.stopping (stopping ▸ here)
  lost here := by
    rw [running]
    exact since.lost (active ▸ here)
  due renews := by
    rw [place] at renews
    rw [renewAt]
    refine Or.inl ((since.due renews).resolve_right fun doomed => ?_)
    rcases doomed.2 with awake | away
    · rw [polls.2] at awake
      cases awake.2
    · exact away.2 polls.1

theorem step_since (since : Since second clock last tunnel)
    (ordered : ∀ now ∈ reading label, clock ≤ now)
    (notYet : renewal tunnel label = none)
    (taken : tunnel.step second label = some next) :
    Since second ((reading label).getD clock) last next := by
  cases label with
  | start =>
      simp only [step] at taken
      split at taken
      case isTrue here => exact absurd here since.begun
      case isFalse => cases taken
  | test =>
      simp only [step] at taken
      split at taken
      case isFalse => cases taken
      case isTrue testing =>
          split at taken
          case isTrue up =>
              cases taken
              exact {
                renewAt := since.renewAt
                begun := since.begun
                stopping := since.stopping
                lost := since.lost
                due := fun renews =>
                  (since.due renews).imp_right fun doomed => by
                    rw [doomed.1] at up
                    cases up }
          case isFalse down =>
              cases taken
              exact
                since.stops (by simpa using down) rfl rfl rfl
                  (Or.inl (by rintro ⟨⟩))
  | idle | resume =>
      simp only [step] at taken
      split at taken
      case isFalse => cases taken
      case isTrue polls =>
          cases taken
          exact since.polled polls rfl rfl rfl rfl rfl
  | manage systemNow steadyNow =>
      simp only [step] at taken
      split at taken
      case isFalse => cases taken
      case isTrue runs =>
          refine
            manageStep_since since runs.2 (ordered systemNow rfl)
              (fun connection here => ?_) taken
          rw [renewal, here] at notYet
          cases notYet
  | client =>
      simp only [step] at taken
      split at taken
      case isFalse => cases taken
      case isTrue polls =>
          cases taken
          exact since.polled polls.1 rfl rfl rfl rfl rfl
  | stopPrevious =>
      simp only [step] at taken
      split at taken
      case isFalse => cases taken
      case isTrue polls =>
          split at taken <;> cases taken
          exact since.polled polls rfl rfl rfl rfl rfl
  | stop =>
      cases taken
      exact stopStep_since since

/-- A renewal is made when it is due, and the next one starts from it. -/
theorem step_renewal {now : TimePoint}
    (renewed : renewal tunnel label = some now)
    (taken : tunnel.step second label = some next) :
    Since second now now next ∧
      ∀ clock last, Since second clock last tunnel → clock ≤ now →
        Spaced second last now := by
  cases here : tunnel.place with
  | switchOver connection =>
      rw [renewal, here] at renewed
      cases label with
      | manage systemNow steadyNow =>
          obtain rfl := Option.some.inj renewed
          simp only [step] at taken
          split at taken
          case isFalse => cases taken
          case isTrue runs =>
              simp only [manageStep, here] at taken
              split at taken
              case isTrue => cases taken
              case isFalse free =>
                  cases taken
                  refine ⟨?_, fun clock last since ordered => ?_⟩
                  · exact {
                      renewAt := rfl
                      begun := by rintro ⟨⟩
                      stopping := fun held => absurd held free
                      lost := by rintro ⟨⟩
                      due := fun renews => renews.elim }
                  · have due :=
                      since.due_of_awake runs.2 (by rw [here]; trivial)
                        (by rw [here]; rintro ⟨⟩)
                    rw [Spaced, ← since.renewAt]
                    exact Int.le_trans due ordered
      | _ => cases renewed
  | _ =>
      rw [renewal, here] at renewed
      cases renewed

/-! ## Connections and renewals -/

/-- The connections which have been opened so far. -/
def Counts (place : Place) (connections renewed : Nat) : Prop :=
  match place with
  | .startWaiting _ | .awaitStarted _ _ | .stopFailed _ | .switchOver _ =>
      connections = renewed + 1
  | .giveUp | .finished =>
      connections = renewed ∨ connections = renewed + 1
  | _ => connections = renewed

theorem Counts.le {place : Place} {connections renewed : Nat}
    (counts : Counts place connections renewed) :
    connections ≤ renewed + 1 := by
  cases place <;> simp only [Counts] at counts <;> omega

theorem manageStep_counts {systemNow steadyNow : TimePoint} {renewed : Nat}
    (counts : Counts tunnel.place tunnel.nextClient renewed)
    (taken : tunnel.manageStep second systemNow steadyNow = some next) :
    Counts next.place next.nextClient
      (renewed +
        (renewal tunnel (.manage systemNow steadyNow)).toList.length) := by
  cases here : tunnel.place with
  | absent | finished =>
      simp only [manageStep, here] at taken
      cases taken
  | whileStarted | notifyConnectedOnce | checkStopped | checkRenew =>
      rw [here] at counts
      simp only [manageStep, here] at taken
      rw [renewal, here]
      split at taken
      all_goals try split at taken
      all_goals try split at taken
      all_goals
        cases taken
        try exact counts
        try exact Or.inl counts
  | createNewConnection =>
      rw [here] at counts
      simp only [manageStep, here] at taken
      rw [renewal, here]
      cases taken
      exact congrArg (· + 1) counts
  | startWaiting | setNotified | spawnStop =>
      rw [here] at counts
      simp only [manageStep, here] at taken
      rw [renewal, here]
      cases taken
      exact counts
  | awaitStarted connection deadline =>
      rw [here] at counts
      simp only [manageStep, here] at taken
      rw [renewal, here]
      split at taken
      · split at taken
        · cases taken
          exact counts
        · split at taken <;> cases taken
          · exact counts
          · exact counts
      · cases taken
        exact counts
  | stopFailed connection =>
      rw [here] at counts
      simp only [manageStep, here] at taken
      rw [renewal, here]
      cases taken
      exact Or.inr counts
  | switchOver connection =>
      rw [here] at counts
      simp only [manageStep, here] at taken
      rw [renewal, here]
      split at taken <;> cases taken
      exact counts
  | giveUp =>
      rw [here] at counts
      simp only [manageStep, here] at taken
      rw [renewal, here]
      cases taken
      exact counts

theorem renewal_of_reading (unread : reading label = none) :
    renewal tunnel label = none := by
  rw [renewal]
  split
  · exact unread
  · rfl

theorem reading_of_renewal {now : TimePoint}
    (renewed : renewal tunnel label = some now) :
    reading label = some now := by
  rw [renewal] at renewed
  split at renewed
  · exact renewed
  · cases renewed

theorem step_counts {renewed : Nat}
    (counts : Counts tunnel.place tunnel.nextClient renewed)
    (taken : tunnel.step second label = some next) :
    Counts next.place next.nextClient
      (renewed + (renewal tunnel label).toList.length) := by
  cases label with
  | manage =>
      simp only [step] at taken
      split at taken
      case isTrue => exact manageStep_counts counts taken
      case isFalse => cases taken
  | start =>
      rw [renewal_of_reading rfl]
      simp only [step] at taken
      split at taken
      case isFalse => cases taken
      case isTrue here =>
          rw [here] at counts
          cases taken
          exact counts
  | test | stopPrevious =>
      rw [renewal_of_reading rfl]
      simp only [step] at taken
      split at taken
      · split at taken <;> cases taken
        all_goals exact counts
      · cases taken
  | idle | resume | client =>
      rw [renewal_of_reading rfl]
      simp only [step] at taken
      split at taken <;> cases taken
      exact counts
  | stop =>
      rw [renewal_of_reading rfl]
      cases taken
      rw [stopStep]
      split
      · exact counts
      · split
        · exact counts
        · exact counts
      · exact counts

/-! ## Runs -/

/-- The run goes on after a renewal, or without one so far. -/
theorem run_spaced {labels : List Label} {before : Option TimePoint}
    {reached : RollingTunnel}
    (since : ∀ last ∈ before, Since second clock last tunnel)
    (monotone : (clock :: labels.filterMap reading).Pairwise (· ≤ ·))
    (taken : run (step second) tunnel labels = some reached) :
    (before.toList ++ renewals second tunnel labels).IsChain
      (Spaced second) := by
  induction labels generalizing tunnel before clock with
  | nil =>
      cases before with
      | none => exact List.IsChain.nil
      | some last => exact List.IsChain.singleton last
  | cons label labels ih =>
      obtain ⟨next, here, rest⟩ := run_cons_eq_some.mp taken
      have ordered : ∀ now ∈ reading label, clock ≤ now := by
        intro now read
        rw [List.filterMap_cons_some read] at monotone
        exact List.rel_of_pairwise_cons monotone List.mem_cons_self
      have later :
          (((reading label).getD clock) ::
            labels.filterMap reading).Pairwise (· ≤ ·) := by
        cases read : reading label with
        | none =>
            rw [List.filterMap_cons_none read] at monotone
            exact monotone
        | some now =>
            rw [List.filterMap_cons_some read] at monotone
            exact monotone.of_cons
      rw [renewals, here]
      cases renewed : renewal tunnel label with
      | none =>
          exact
            ih
              (fun last known =>
                step_since (since last known) ordered renewed here)
              later rest
      | some now =>
          rw [reading_of_renewal renewed] at later
          obtain ⟨sinceNow, spaced⟩ := step_renewal renewed here
          have chain := @ih now next (some now)
            (by rintro _ ⟨⟩; exact sinceNow) later rest
          cases before with
          | none => exact chain
          | some last =>
              have now_ := ordered now (reading_of_renewal renewed)
              exact
                List.isChain_cons_cons.mpr
                  ⟨spaced clock last (since last rfl) now_, chain⟩

theorem run_counts {labels : List Label} {renewed : Nat}
    {reached : RollingTunnel}
    (counts : Counts tunnel.place tunnel.nextClient renewed)
    (taken : run (step second) tunnel labels = some reached) :
    Counts reached.place reached.nextClient
      (renewed + (renewals second tunnel labels).length) := by
  induction labels generalizing tunnel renewed with
  | nil =>
      cases taken
      exact counts
  | cons label labels ih =>
      obtain ⟨next, here, rest⟩ := run_cons_eq_some.mp taken
      rw [renewals, here]
      show Counts _ _ (renewed + (_ ++ renewals second next labels).length)
      rw [List.length_append, ← Nat.add_assoc]
      exact ih (step_counts counts here) rest

/-- If the system clock does not go back, two renewals are at least
`kRenewAfterSeconds` apart, and at most one connection has been opened which
was not for a renewal. -/
theorem renewals_spaced (second : TimePoint) (labels : List Label)
    (tunnel : RollingTunnel)
    (reached : run (step second) RollingTunnel.create labels = some tunnel)
    (monotone : (labels.filterMap reading).Pairwise (· ≤ ·)) :
    (renewals second RollingTunnel.create labels).IsChain
        (Spaced second) ∧
      tunnel.nextClient ≤
        (renewals second RollingTunnel.create labels).length + 1 := by
  constructor
  · cases readings : labels.filterMap reading with
    | nil =>
        have ordered : ((0 : TimePoint) ::
            labels.filterMap reading).Pairwise (· ≤ ·) := by
          rw [readings]
          exact List.pairwise_singleton _ _
        exact @run_spaced _ 0 _ _ none _ (by rintro _ ⟨⟩) ordered reached
    | cons first others =>
        have ordered : (first ::
            labels.filterMap reading).Pairwise (· ≤ ·) := by
          rw [readings] at monotone ⊢
          refine List.pairwise_cons.mpr ⟨fun now member => ?_, monotone⟩
          rcases List.mem_cons.mp member with rfl | member
          · exact Int.le_refl _
          · exact List.rel_of_pairwise_cons monotone member
        exact @run_spaced _ first _ _ none _ (by rintro _ ⟨⟩) ordered reached
  · have begun : Counts RollingTunnel.create.place
        RollingTunnel.create.nextClient 0 := rfl
    have counts := run_counts begun reached
    rw [Nat.zero_add] at counts
    exact counts.le

theorem renewals_spaced_once :
    (renewals 1 RollingTunnel.create
        (renewsOnce ++ [.manage 600 600])) = [0, 600] ∧
      (renewals 1 RollingTunnel.create
        (renewsOnce ++ [.manage 600 600])).IsChain (Spaced 1) := by
  have taken : (run (step 1) RollingTunnel.create
      (renewsOnce ++ [.manage 600 600])).isSome = true := by
    decide +kernel
  obtain ⟨tunnel, reached⟩ := Option.isSome_iff_exists.mp taken
  exact
    ⟨by decide +kernel,
      (renewals_spaced 1 _ tunnel reached (by decide +kernel)).1⟩

end Fptn.Connection.RenewalPace
