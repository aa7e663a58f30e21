import Fptn.Connection.ClientAccounts
import Fptn.Connection.TunnelPool

/-!
# The ends of the tunnels of a pool

Over a whole run of `ParallelTunnels` its connections stay few, and they stay
in the order in which they were opened.  Each was given its end when it was
opened, far from the ends of those which were there; so the ends stay apart,
whatever is closed or stopped in between, and the pool never has to replace
all of its connections at once.
-/

namespace Fptn.Connection.PoolSpread

open Fptn.PartialRun
open Fptn.WidestGap
open Fptn.Connection.PoolStrategies (Channel TimePoint WebsocketClient)
open Fptn.Connection.ClientAccounts
open Fptn.Connection.Rolling (ClientPtr)
open Fptn.Connection.TunnelLifetimes
open Fptn.Connection.TunnelLifetimes.Parameters
open Fptn.Connection.TunnelPool
open Fptn.Connection.TunnelPool.ParallelTunnels

/-! ## A lifetime is not too short -/

section Lifetime

variable {parameters : Parameters} {sorted : List Int} {value : Int}

theorem distance_le_searchGap {front : Int} {rest : List Int}
    (sensible : parameters.Sensible)
    (increasing : (front :: rest).Pairwise (· ≤ ·))
    (positive : 0 ≤ front)
    (few : (front :: rest).length ≤ parameters.connectionCount)
    (late : parameters.lifetimeSeconds <
      (front :: rest).getLast (List.cons_ne_nil front rest) +
        parameters.kSlotSeconds) :
    parameters.distance ≤
      searchGap front front (front.tdiv 2) rest := by
  have enough := sensible.enough
  obtain ⟨gap, wide, middle⟩ :=
    searchGap_middle (Middle.start positive) positive positive increasing
  rw [List.singleton_append] at middle
  have share :
      (parameters.lifetimeSeconds - parameters.kSlotSeconds) /
          parameters.connectionCount ≤ gap :=
    middle.share_le (by omega) (by omega) wide (by omega)
  have low := middle.low
  rw [Int.tdiv_eq_ediv_of_nonneg positive, distance_eq sensible]
  omega

theorem distance_le_nextOfSorted (sensible : parameters.Sensible)
    (increasing : sorted.Pairwise (· ≤ ·))
    (positive : ∀ left ∈ sorted, 0 < left)
    (few : sorted.length ≤ parameters.connectionCount)
    (next : parameters.nextOfSorted sorted = some value) :
    parameters.distance ≤ value := by
  have slot := distance_le_kSlotSeconds sensible
  cases sorted with
  | nil =>
      obtain rfl := Option.some.inj next
      exact slot
  | cons front rest =>
      obtain ⟨appended, fits, chosen⟩ := Option.bind_eq_some_iff.mp next
      obtain ⟨-, rfl⟩ := signed_eq_some.mp fits
      have back :=
        positive _ (List.getLast_mem (List.cons_ne_nil front rest))
      split at chosen
      · obtain rfl := Option.some.inj chosen
        omega
      · rename_i late
        obtain rfl := Option.some.inj chosen
        exact
          distance_le_searchGap sensible increasing
            (positive front List.mem_cons_self).le few
            (Int.not_le.mp late)

theorem distance_le_next {connections : List (Option Channel)}
    {now : TimePoint} (sensible : parameters.Sensible)
    (few : connections.length ≤ parameters.connectionCount)
    (next : parameters.nextLifetimeSeconds connections now =
      some value) :
    parameters.distance ≤ value := by
  obtain ⟨seconds, left, chosen⟩ := Option.bind_eq_some_iff.mp next
  refine
    distance_le_nextOfSorted sensible (pairwise_mergeSort_le seconds)
      (fun other member => ?_) ?_ chosen
  · obtain ⟨_, _, _, positive, _⟩ := (mem_sorted left).mp member
    exact positive
  · rw [List.length_mergeSort]
    exact (remaining_length left).trans few

/-- What is known of a lifetime which has been chosen. -/
theorem staggered_of_next {connections : List (Option Channel)}
    {now : TimePoint} (sensible : parameters.Sensible)
    (few : connections.length ≤ parameters.connectionCount)
    (next : parameters.nextLifetimeSeconds connections now =
      some value) :
    parameters.Staggered connections now value := by
  obtain ⟨other, same, staggered⟩ :=
    exists_staggered sensible few (inRange_of_next sensible next)
  obtain rfl := Option.some.inj (same.symm.trans next)
  exact staggered

end Lifetime

/-! ## The invariant -/

variable {parameters : Parameters} {delay clock : Int}
  {pool next : ParallelTunnels} {label : Label}

/-- The channel which the coroutine brings up. -/
def candidate : Place → Option PoolChannel
  | .awaitStarted entry _ | .stopFailed entry | .pushChannel entry =>
      some entry
  | _ => none

def opened (pool : ParallelTunnels) : List PoolChannel :=
  pool.connections ++ (candidate pool.place).toList

/-- One channel was opened after the other, and does not end close to it. -/
structure Apart (parameters : Parameters) (delay : Int)
    (earlier later : PoolChannel) : Prop where
  newer : earlier.client < later.client
  distance :
    (parameters.distance - 1) * parameters.ticksPerSecond - delay <
      (later.closeAt - earlier.closeAt).natAbs

/-- Where the coroutine knows that the pool has room for a channel. -/
def Room : Place → Prop
  | .checkSpawnTime | .createNewConnection | .awaitStarted _ _
  | .pushChannel _ => True
  | _ => False

/-- The clock has not shown a later time than `clock`. -/
structure Spread (parameters : Parameters) (delay clock : Int)
    (pool : ParallelTunnels) : Prop where
  apart : (opened pool).Pairwise (Apart parameters delay)
  known : ∀ entry ∈ opened pool, entry.client < pool.nextClient
  soon : ∀ entry ∈ opened pool,
    clock + parameters.lifetimeSeconds * parameters.ticksPerSecond ≥
      entry.closeAt
  few : pool.connections.length ≤ parameters.kMaxConnections
  room : Room pool.place →
    pool.connections.length ≤ parameters.connectionCount

theorem create_spread :
    Spread parameters delay clock ParallelTunnels.create where
  apart := List.Pairwise.nil
  known _ nothing := by cases nothing
  soon _ nothing := by cases nothing
  few := Nat.zero_le _
  room _ := Nat.zero_le _

theorem Spread.later {now : Int}
    (spread : Spread parameters delay clock pool) (ordered : clock ≤ now) :
    Spread parameters delay now pool where
  apart := spread.apart
  known := spread.known
  soon entry member := by
    have soon := spread.soon entry member
    omega
  few := spread.few
  room := spread.room

/-- Some channels are dropped, or none. -/
theorem Spread.sublist (spread : Spread parameters delay clock pool)
    (fewer : (opened next).Sublist (opened pool))
    (count : next.nextClient = pool.nextClient)
    (few : next.connections.length ≤ parameters.kMaxConnections)
    (room : Room next.place →
      next.connections.length ≤ parameters.connectionCount) :
    Spread parameters delay clock next where
  apart := spread.apart.sublist fewer
  known entry member := by
    rw [count]
    exact spread.known entry (fewer.subset member)
  soon entry member := spread.soon entry (fewer.subset member)
  few := few
  room := room

/-- The pool keeps its channels, and the coroutine the one which it brings
up. -/
theorem Spread.same (spread : Spread parameters delay clock pool)
    (connections : next.connections = pool.connections)
    (place : candidate next.place = candidate pool.place)
    (count : next.nextClient = pool.nextClient)
    (room : Room next.place → Room pool.place) :
    Spread parameters delay clock next := by
  refine spread.sublist ?_ count ?_ fun here => ?_
  · rw [opened, opened, connections, place]
  · rw [connections]
    exact spread.few
  · rw [connections]
    exact spread.room (room here)

/-- There is less than a second left to a channel. -/
theorem short_of_secondsLeft {channel : Channel} {now : Int}
    (resolution : 0 < parameters.ticksPerSecond)
    (over_ : ¬0 < parameters.secondsLeft channel now) :
    parameters.ticksPerSecond > channel.closeAt - now := by
  by_contra long
  have later : (0 : Int) ≤ channel.closeAt - now := by omega
  refine over_ ?_
  rw [secondsLeft, toSeconds, Int.tdiv_eq_ediv_of_nonneg later]
  exact Int.le_ediv_of_mul_le resolution (by omega)

/-- A new channel ends at a distance from each in the pool. -/
theorem apart_of_next {value created system : Int}
    {entry : PoolChannel} (sensible : parameters.Sensible)
    (resolution : 0 < parameters.ticksPerSecond)
    (spread : Spread parameters delay system pool)
    (few : pool.connections.length ≤ parameters.connectionCount)
    (ordered : system ≤ created) (prompt : created - system ≤ delay)
    (chosen : parameters.nextLifetimeSeconds pool.channels system =
      some value)
    (member : entry ∈ pool.connections) :
    (parameters.distance - 1) * parameters.ticksPerSecond - delay <
      (parameters.closeAtOf created value - entry.closeAt).natAbs := by
  have few : pool.channels.length ≤ parameters.connectionCount := by
    rw [channels, List.length_map]
    exact few
  have staggered := staggered_of_next sensible few chosen
  have long := distance_le_next sensible few chosen
  have inside : some (pool.channel entry) ∈ pool.channels :=
    List.mem_map_of_mem member
  by_cases positive :
      0 < parameters.secondsLeft (pool.channel entry) system
  · have soon :
        parameters.secondsLeft (pool.channel entry) system ≤
          parameters.lifetimeSeconds := by
      have low :=
        (secondsLeft_bounds resolution positive).1
      have end_ : system +
          parameters.lifetimeSeconds * parameters.ticksPerSecond ≥
            (pool.channel entry).closeAt :=
        spread.soon entry (List.mem_append_left _ member)
      refine Int.le_of_mul_le_mul_right ?_ resolution
      omega
    have apart :
        (parameters.distance - 1) * parameters.ticksPerSecond <
          (parameters.closeAtOf system value -
            entry.closeAt).natAbs :=
      closeAt_apart resolution staggered inside positive soon
    rw [closeAtOf] at apart ⊢
    omega
  · have short :
        parameters.ticksPerSecond > entry.closeAt - system :=
      short_of_secondsLeft resolution positive
    have grown :
        (parameters.distance - 1) * parameters.ticksPerSecond ≤
          (value - 1) * parameters.ticksPerSecond :=
      Int.mul_le_mul_of_nonneg_right (by omega) resolution.le
    rw [Int.sub_mul value, Int.one_mul] at grown
    rw [closeAtOf]
    omega

theorem createNewConnection_spread {value created system : Int}
    (sensible : parameters.Sensible)
    (resolution : 0 < parameters.ticksPerSecond)
    (spread : Spread parameters delay system pool)
    (here : pool.place = .createNewConnection)
    (ordered : system ≤ created) (prompt : created - system ≤ delay)
    (chosen : parameters.nextLifetimeSeconds pool.channels system =
      some value) :
    Spread parameters delay created
      (pool.createNewConnection parameters created value) := by
  have few := spread.room (by rw [here]; trivial)
  have within :=
    (staggered_of_next sensible
      (by rw [channels, List.length_map]; exact few) chosen).within
  have older : opened pool = pool.connections := by
    rw [opened, here]
    exact List.append_nil _
  have known := spread.known
  have soon := (spread.later ordered).soon
  have apart := spread.apart
  rw [older] at known soon apart
  constructor
  · refine List.pairwise_append.mpr ⟨apart, List.pairwise_singleton _ _, ?_⟩
    intro entry member fresh new
    obtain rfl := List.mem_singleton.mp new
    exact {
      newer := known entry member
      distance :=
        apart_of_next sensible resolution spread few ordered prompt chosen
          member }
  · intro entry member
    rcases List.mem_append.mp member with old | new
    · exact Nat.lt_succ_of_lt (known entry old)
    · obtain rfl := List.mem_singleton.mp new
      exact Nat.lt_succ_self _
  · intro entry member
    rcases List.mem_append.mp member with old | new
    · exact soon entry old
    · obtain rfl := List.mem_singleton.mp new
      show created +
          parameters.lifetimeSeconds * parameters.ticksPerSecond ≥
        parameters.closeAtOf created value
      have grown :=
        Int.mul_le_mul_of_nonneg_right within resolution.le
      rw [closeAtOf]
      omega
  · exact spread.few
  · exact fun _ => few

theorem removeClosedConnections_sublist (now : TimePoint) :
    (pool.removeClosedConnections now).connections.Sublist
      pool.connections := by
  rw [removeClosedConnections]
  split
  · exact List.filter_sublist
  · exact List.filter_sublist

theorem removeClosedConnections_count (now : TimePoint) :
    (pool.removeClosedConnections now).nextClient = pool.nextClient := by
  rw [removeClosedConnections]
  split
  · rfl
  · rfl

theorem manageStep_spread {clocks : Clocks}
    (sensible : parameters.Sensible)
    (resolution : 0 < parameters.ticksPerSecond)
    (spread : Spread parameters delay clock pool)
    (ordered : clock ≤ clocks.system)
    (later : clocks.system ≤ clocks.created)
    (prompt : clocks.created - clocks.system ≤ delay)
    (taken : pool.manageStep parameters clocks = some next) :
    Spread parameters delay clocks.created next := by
  have spreadNow := spread.later ordered
  have spread := spreadNow.later later
  cases here : pool.place with
  | absent | finished =>
      simp only [manageStep, here] at taken
      cases taken
  | removeClosedConnections =>
      simp only [manageStep, here] at taken
      split at taken <;> cases taken
      have fewer := @removeClosedConnections_sublist pool clocks.system
      refine
        spread.sublist ?_ (removeClosedConnections_count _)
          (fewer.length_le.trans spread.few) (by rintro ⟨⟩)
      rw [opened, opened, here]
      exact fewer.append (List.Sublist.refl _)
  | checkSize =>
      simp only [manageStep, here] at taken
      split at taken
      · cases taken
      · split at taken
        case isTrue =>
          cases taken
          exact spread.same rfl (by rw [here]; rfl) rfl (by rintro ⟨⟩)
        case isFalse few =>
          cases taken
          refine
            spread.sublist ?_ rfl spread.few
              fun _ => Nat.le_of_lt_succ (Nat.lt_of_not_le few)
          rw [opened, opened, here]
          exact List.Sublist.refl _
  | createNewConnection =>
      simp only [manageStep, here] at taken
      split at taken
      · cases taken
      · obtain ⟨value, chosen, rfl⟩ := Option.map_eq_some_iff.mp taken
        exact
          createNewConnection_spread sensible resolution spreadNow here
            later prompt chosen
  | pushChannel entry =>
      have room := spread.room (by rw [here]; trivial)
      simp only [manageStep, here] at taken
      split at taken <;> cases taken
      refine spread.sublist ?_ rfl ?_ (by rintro ⟨⟩)
      · show (pool.connections ++ [entry] ++ []).Sublist _
        rw [opened, here, List.append_nil]
        exact List.Sublist.refl _
      · show (pool.connections ++ [entry]).length ≤ _
        rw [List.length_append]
        exact Nat.succ_le_succ room
  | stopFailed entry =>
      simp only [manageStep, here] at taken
      cases taken
      refine spread.sublist ?_ rfl spread.few (by rintro ⟨⟩)
      rw [opened, opened, here]
      exact (List.Sublist.refl _).append (List.nil_sublist _)
  | awaitStarted entry attempt =>
      simp only [manageStep, here] at taken
      split at taken
      · split at taken
        · cases taken
          exact
            spread.same rfl (by rw [here]; rfl) rfl
              fun _ => by rw [here]; trivial
        · split at taken <;> cases taken
          · exact spread.same rfl (by rw [here]; rfl) rfl (by rintro ⟨⟩)
          · exact
              spread.same rfl (by rw [here]; rfl) rfl
                fun _ => by rw [here]; trivial
      · cases taken
        exact spread.same rfl (by rw [here]; rfl) rfl (by rintro ⟨⟩)
  | checkSpawnTime =>
      simp only [manageStep, here] at taken
      split at taken <;> cases taken
      · exact spread.same rfl (by rw [here]; rfl) rfl (by rintro ⟨⟩)
      · exact
          spread.same rfl (by rw [here]; rfl) rfl
            fun _ => by rw [here]; trivial
  | setNotified | giveUp =>
      simp only [manageStep, here] at taken
      cases taken
      exact spread.same rfl (by rw [here]; rfl) rfl (by rintro ⟨⟩)
  | whileStarted | checkStarted | countHealthy | checkEmpty
  | notifyConnectedOnce =>
      simp only [manageStep, here] at taken
      split at taken
      all_goals try split at taken
      all_goals try split at taken
      all_goals
        cases taken
        try exact spread.same rfl (by rw [here]; rfl) rfl (by rintro ⟨⟩)

/-- The clients are stopped, and nothing else changes. -/
theorem stopClients_eq (clients : List ClientPtr) :
    clients.foldl stopClient pool =
      { pool with client := stopAll pool.client clients } := by
  induction clients generalizing pool with
  | nil => rfl
  | cons connection rest ih => exact @ih (pool.stopClient connection)

theorem stopStep_spread (spread : Spread parameters delay clock pool) :
    Spread parameters delay clock pool.stopStep := by
  rw [stopStep]
  split
  · exact spread.same rfl rfl rfl id
  · exact spread.same rfl rfl rfl id
  · refine
      spread.sublist ?_ rfl (Nat.zero_le _) fun _ => Nat.zero_le _
    exact List.sublist_append_right _ _

/-! ## Runs -/

/-- What a step reads from the system clock. -/
def readings : Label → List Int
  | .manage clocks => [clocks.system, clocks.created]
  | _ => []

/-- The time between the choice of a lifetime and its start is short. -/
def Prompt (delay : Int) : Label → Prop
  | .manage clocks => clocks.created - clocks.system ≤ delay
  | _ => True

instance (label : Label) : Decidable (Prompt delay label) :=
  match label with
  | .manage clocks =>
      inferInstanceAs
        (Decidable (clocks.created - clocks.system ≤ delay))
  | .start | .test | .idle | .resume | .client _ _ | .stopClosed
  | .stop => inferInstanceAs (Decidable True)

/-- The clock after a step. -/
def clockAfter (clock : Int) : Label → Int
  | .manage clocks => clocks.created
  | _ => clock

theorem step_spread (sensible : parameters.Sensible)
    (resolution : 0 < parameters.ticksPerSecond)
    (spread : Spread parameters delay clock pool)
    (monotone : (clock :: readings label).Pairwise (· ≤ ·))
    (prompt : Prompt delay label)
    (taken : pool.step parameters label = some next) :
    Spread parameters delay (clockAfter clock label) next := by
  cases label with
  | start =>
      simp only [step] at taken
      split at taken
      case isFalse => cases taken
      case isTrue here =>
          cases taken
          exact spread.same rfl (by rw [here]; rfl) rfl (by rintro ⟨⟩)
  | test =>
      simp only [step] at taken
      split at taken
      · split at taken <;> cases taken
        · exact spread.same rfl rfl rfl id
        · exact spread.same rfl rfl rfl id
      · cases taken
  | idle | resume | client =>
      simp only [step] at taken
      split at taken <;> cases taken
      exact spread.same rfl rfl rfl id
  | manage clocks =>
      simp only [step] at taken
      split at taken
      case isFalse => cases taken
      case isTrue =>
          obtain ⟨first, rest⟩ := List.pairwise_cons.mp monotone
          exact
            manageStep_spread sensible resolution spread
              (first _ List.mem_cons_self)
              (List.rel_of_pairwise_cons rest List.mem_cons_self) prompt
              taken
  | stopClosed =>
      simp only [step] at taken
      split at taken
      · split at taken
        case h_1 => cases taken
        case h_2 closed rest waiting =>
          cases taken
          rw [stopClients_eq]
          exact spread.same rfl rfl rfl id
      · cases taken
  | stop =>
      cases taken
      exact stopStep_spread spread

theorem run_spread {labels : List Label} {reached : ParallelTunnels}
    (sensible : parameters.Sensible)
    (resolution : 0 < parameters.ticksPerSecond)
    (spread : Spread parameters delay clock pool)
    (monotone : (clock :: labels.flatMap readings).Pairwise (· ≤ ·))
    (prompt : ∀ label ∈ labels, Prompt delay label)
    (taken : run (step parameters) pool labels = some reached) :
    ∃ end_, Spread parameters delay end_ reached := by
  induction labels generalizing pool clock with
  | nil =>
      obtain rfl := Option.some.inj taken
      exact ⟨clock, spread⟩
  | cons label labels ih =>
      obtain ⟨next, here, rest⟩ := run_cons_eq_some.mp taken
      rw [List.flatMap_cons] at monotone
      have step :=
        step_spread sensible resolution spread
          (monotone.sublist
            ((List.sublist_append_left _ _).cons_cons clock))
          (prompt label List.mem_cons_self) here
      refine
        ih step ?_ (fun other member =>
          prompt other (List.mem_cons_of_mem _ member)) rest
      cases label with
      | manage clocks => exact monotone.of_cons.of_cons
      | _ => exact monotone

/-- In each state which is reached the pool has no more channels than it may
have.  They are in the order in which they were opened, and any two of them
end at a distance, also the one which is being opened; this holds as long as
the system clock does not go back. -/
theorem pool_staggered (parameters : Parameters)
    (sensible : parameters.Sensible)
    (resolution : 0 < parameters.ticksPerSecond) (delay : Int)
    (labels : List Label) (pool : ParallelTunnels)
    (reached : run (step parameters) ParallelTunnels.create labels =
      some pool)
    (monotone : (labels.flatMap readings).Pairwise (· ≤ ·))
    (prompt : ∀ label ∈ labels, Prompt delay label) :
    pool.connections.length ≤ parameters.kMaxConnections ∧
      (opened pool).Pairwise (Apart parameters delay) := by
  have started : ∃ clock : Int,
      (clock :: labels.flatMap readings).Pairwise (· ≤ ·) := by
    cases all : labels.flatMap readings with
    | nil => exact ⟨0, List.pairwise_singleton _ _⟩
    | cons first others =>
        rw [all] at monotone
        refine
          ⟨first, List.pairwise_cons.mpr ⟨fun now member => ?_, monotone⟩⟩
        rcases List.mem_cons.mp member with rfl | member
        · exact Int.le_refl _
        · exact List.rel_of_pairwise_cons monotone member
  obtain ⟨clock, ordered⟩ := started
  obtain ⟨_, spread⟩ :=
    run_spread sensible resolution create_spread ordered prompt reached
  exact ⟨spread.few, spread.apart⟩

/-- A second of the clock of `dualTunnel` after the epoch. -/
def clocksAt (seconds : Int) : Label :=
  .manage {
    system := seconds * 1000000000
    steady := seconds * 1000000000
    created := seconds * 1000000000 }

/-- A round of the coroutine which opens a connection. -/
def opensConnection (connection : ClientPtr) (seconds : Int) :
    List Label :=
  [.test, .resume, clocksAt seconds, .test, .resume] ++
    List.replicate 6 (clocksAt seconds) ++
    [.test, .client connection .connected, .test, .resume,
      clocksAt seconds, clocksAt seconds, clocksAt seconds]

theorem pool_staggered_dualTunnel :
    ∃ pool,
      run (step dualTunnel) ParallelTunnels.create
          (.start :: opensConnection 0 100 ++
            [clocksAt 101, clocksAt 101] ++ opensConnection 1 140) =
        some pool ∧
        (opened pool).length = 2 ∧
          (opened pool).Pairwise (Apart dualTunnel 0) := by
  have taken : (run (step dualTunnel) ParallelTunnels.create
      (.start :: opensConnection 0 100 ++
        [clocksAt 101, clocksAt 101] ++ opensConnection 1 140)).map
      (fun pool => (opened pool).length) = some 2 := by
    decide +kernel
  obtain ⟨pool, reached, two⟩ := Option.map_eq_some_iff.mp taken
  have staggered :=
    pool_staggered dualTunnel ⟨by decide, by decide, by decide⟩ (by decide)
      0 _ pool reached (by decide +kernel) (by decide +kernel)
  exact ⟨pool, reached, two, staggered.2⟩

end Fptn.Connection.PoolSpread
