import Fptn.Connection.PoolStrategies
import Fptn.Lib.WidestGap
import Mathlib.Data.List.Pairwise

/-!
# Lifetimes of parallel tunnels

How `ParallelTunnels` chooses the lifetime of a new connection.  It looks for
a slot behind the last of the connections which it has, or else for the
middle of the widest gap between their ends.

Arithmetic on signed integers is undefined in C++ where the result does not
fit, so the function here has no result then.  A shared pointer to a channel
may be null.
-/

namespace Fptn.Connection.TunnelLifetimes

open Fptn.WidestGap
open Fptn.Connection.PoolStrategies

/-! ## NextLifetimeSeconds -/

/-- A signed value whose type has this range. -/
def signed (range value : Int) : Option Int :=
  if -range ≤ value ∧ value < range then some value else none

/-- The range of `int`. -/
def intRange : Int := 2147483648

/-- The range of the clock's durations. -/
def durationRange : Int := 9223372036854775808

/-- The parameters of the template, and the clock's resolution. -/
structure Parameters where
  connectionCount : Nat
  lifetimeSeconds : Int
  staggerSeconds : Int
  ticksPerSecond : Int

namespace Parameters

variable (parameters : Parameters)

def kSlotSeconds : Int :=
  parameters.lifetimeSeconds.tdiv parameters.connectionCount

/-- `duration_cast`, which cuts off fractions. -/
def toSeconds (duration : Int) : Int :=
  duration.tdiv parameters.ticksPerSecond

/-- The lifetimes left to the channels which close soon enough. -/
def remaining (now : TimePoint) : List (Option Channel) → Option (List Int)
  | [] => some []
  | none :: connections => remaining now connections
  | some channel :: connections => do
      let duration ← signed durationRange (channel.closeAt - now)
      let seconds := parameters.toSeconds duration
      let later ← remaining now connections
      if seconds > 0 ∧ seconds ≤ parameters.lifetimeSeconds then
        some (seconds :: later)
      else
        some later

/-- The loop over neighbours. -/
def searchGap (previous widestGap lifetimeSeconds : Int) :
    List Int → Int
  | [] => lifetimeSeconds
  | next :: rest =>
      let gap := next - previous
      if gap > widestGap then
        searchGap next gap (previous + gap.tdiv 2) rest
      else
        searchGap next widestGap lifetimeSeconds rest

/-- What `NextLifetimeSeconds` returns for sorted lifetimes. -/
def nextOfSorted : List Int → Option Int
  | [] => some parameters.kSlotSeconds
  | front :: rest => do
      let back := (front :: rest).getLast (List.cons_ne_nil front rest)
      let appended ← signed intRange (back + parameters.kSlotSeconds)
      if appended ≤ parameters.lifetimeSeconds then
        some appended
      else
        some (searchGap front front (front.tdiv 2) rest)

def nextLifetimeSeconds (connections : List (Option Channel))
    (now : TimePoint) : Option Int := do
  let remaining ← parameters.remaining now connections
  parameters.nextOfSorted
    (remaining.mergeSort fun first second => decide (first ≤ second))

/-- The whole seconds left to a channel. -/
def secondsLeft (channel : Channel) (now : TimePoint) : Int :=
  parameters.toSeconds (channel.closeAt - now)

/-! ## What the lifetimes should be -/

/-- The distance which lifetimes should have. -/
def distance : Int :=
  (parameters.lifetimeSeconds -
      parameters.lifetimeSeconds / parameters.connectionCount) /
    (2 * parameters.connectionCount)

/-- A lifetime far enough from those which are left. -/
structure Staggered (connections : List (Option Channel))
    (now : TimePoint) (value : Int) : Prop where
  positive : 1 ≤ value
  within : value ≤ parameters.lifetimeSeconds
  apart : ∀ channel, some channel ∈ connections →
    0 < parameters.secondsLeft channel now →
      parameters.secondsLeft channel now ≤ parameters.lifetimeSeconds →
        parameters.distance ≤
          (value - parameters.secondsLeft channel now).natAbs

/-- No result of the arithmetic is out of range. -/
def InRange (connections : List (Option Channel)) (now : TimePoint) :
    Prop :=
  ∀ channel, some channel ∈ connections →
    (-durationRange ≤ channel.closeAt - now ∧
      channel.closeAt - now < durationRange) ∧
      (0 < parameters.secondsLeft channel now →
        parameters.secondsLeft channel now ≤ parameters.lifetimeSeconds →
          parameters.secondsLeft channel now +
            parameters.lifetimeSeconds / parameters.connectionCount <
              intRange)

/-- Parameters of the template, as far as it accepts them, with a lifetime
of some seconds for each connection. -/
structure Sensible : Prop where
  enough : 2 ≤ parameters.connectionCount
  long : 4 * parameters.connectionCount ≤ parameters.lifetimeSeconds
  isInt : parameters.lifetimeSeconds < intRange

end Parameters

open Parameters

/-! ## The lifetimes which are left -/

section Remaining

variable {parameters : Parameters} {now : TimePoint}
  {connections : List (Option Channel)} {seconds : List Int}

theorem signed_eq_some {range value result : Int} :
    signed range value = some result ↔
      (-range ≤ value ∧ value < range) ∧ value = result := by
  rw [signed]
  split
  · rename_i fits
    rw [Option.some.injEq]
    exact (and_iff_right fits).symm
  · rename_i misfit
    exact ⟨fun none_ => (by cases none_), fun both => absurd both.1 misfit⟩

/-- One channel of the loop. -/
theorem remaining_cons {channel : Channel} :
    parameters.remaining now (some channel :: connections) = some seconds ↔
      (-durationRange ≤ channel.closeAt - now ∧
        channel.closeAt - now < durationRange) ∧
        ∃ later, parameters.remaining now connections = some later ∧
          seconds =
            if 0 < parameters.secondsLeft channel now ∧
                parameters.secondsLeft channel now ≤
                  parameters.lifetimeSeconds then
              parameters.secondsLeft channel now :: later
            else
              later := by
  simp only [remaining, Option.bind_eq_bind, Option.bind_eq_some_iff,
    signed_eq_some]
  constructor
  · rintro ⟨_, ⟨fits, rfl⟩, later, rest, result⟩
    refine ⟨fits, later, rest, ?_⟩
    rw [← apply_ite some] at result
    exact (Option.some.inj result).symm
  · rintro ⟨fits, later, rest, rfl⟩
    exact ⟨_, ⟨fits, rfl⟩, later, rest, (apply_ite some _ _ _).symm⟩

/-- The lifetimes are those of the channels which close soon enough. -/
theorem mem_remaining
    (left : parameters.remaining now connections = some seconds)
    {value : Int} :
    value ∈ seconds ↔
      ∃ channel, some channel ∈ connections ∧
        parameters.secondsLeft channel now = value ∧
          0 < value ∧ value ≤ parameters.lifetimeSeconds := by
  induction connections generalizing seconds with
  | nil =>
      obtain rfl := Option.some.inj left
      simp
  | cons pointer connections ih =>
      cases pointer with
      | none =>
          rw [ih left]
          simp
      | some channel =>
          obtain ⟨-, later, rest, rfl⟩ := remaining_cons.mp left
          have behind := ih rest
          split
          · rename_i soon
            rw [List.mem_cons, behind]
            constructor
            · rintro (rfl | ⟨other, member, same⟩)
              · exact ⟨channel, List.mem_cons_self, rfl, soon⟩
              · exact ⟨other, List.mem_cons_of_mem _ member, same⟩
            · rintro ⟨other, member, same, bounds⟩
              rcases List.mem_cons.mp member with first | others
              · obtain rfl := Option.some.inj first
                exact Or.inl same.symm
              · exact Or.inr ⟨other, others, same, bounds⟩
          · rename_i notSoon
            rw [behind]
            constructor
            · rintro ⟨other, member, same⟩
              exact ⟨other, List.mem_cons_of_mem _ member, same⟩
            · rintro ⟨other, member, same, bounds⟩
              rcases List.mem_cons.mp member with first | others
              · obtain rfl := Option.some.inj first
                rw [← same] at bounds
                exact absurd bounds notSoon
              · exact ⟨other, others, same, bounds⟩

theorem remaining_length
    (left : parameters.remaining now connections = some seconds) :
    seconds.length ≤ connections.length := by
  induction connections generalizing seconds with
  | nil =>
      obtain rfl := Option.some.inj left
      exact Nat.le_refl 0
  | cons pointer connections ih =>
      cases pointer with
      | none => exact (ih left).trans (Nat.le_succ _)
      | some channel =>
          obtain ⟨-, later, rest, rfl⟩ := remaining_cons.mp left
          split
          · exact Nat.succ_le_succ (ih rest)
          · exact (ih rest).trans (Nat.le_succ _)

/-- The loop has a result if every duration has one. -/
theorem remaining_isSome_iff :
    (∃ seconds, parameters.remaining now connections = some seconds) ↔
      ∀ channel, some channel ∈ connections →
        -durationRange ≤ channel.closeAt - now ∧
          channel.closeAt - now < durationRange := by
  induction connections with
  | nil => exact ⟨fun _ _ member => (by cases member), fun _ => ⟨[], rfl⟩⟩
  | cons pointer connections ih =>
      cases pointer with
      | none => exact ih.trans (by simp)
      | some channel =>
          simp only [remaining_cons, List.mem_cons, forall_eq_or_imp,
            Option.some.injEq]
          rw [← ih]
          constructor
          · rintro ⟨_, fits, later, rest, _⟩
            exact ⟨fits, later, rest⟩
          · rintro ⟨fits, later, rest⟩
            exact ⟨_, fits, later, rest, rfl⟩

end Remaining

/-! ## The chosen lifetime -/

section Chosen

variable {parameters : Parameters} {sorted : List Int}

/-- The loop finds the middle of a gap. -/
theorem searchGap_middle {points rest : List Int}
    {previous widest lifetime : Int}
    (known : Middle points previous widest lifetime)
    (positive : 0 ≤ previous) (wide : 0 ≤ widest)
    (increasing : (previous :: rest).Pairwise (· ≤ ·)) :
    ∃ gap, 0 ≤ gap ∧
      Middle (points ++ rest)
        ((previous :: rest).getLast (List.cons_ne_nil previous rest)) gap
        (searchGap previous widest lifetime rest) := by
  induction rest generalizing points previous widest lifetime with
  | nil =>
      refine ⟨widest, wide, ?_⟩
      rw [List.append_nil]
      exact known
  | cons next rest ih =>
      obtain ⟨first, later⟩ := List.pairwise_cons.mp increasing
      have step : previous ≤ next := first next List.mem_cons_self
      rw [List.getLast_cons (List.cons_ne_nil next rest), searchGap,
        List.append_cons]
      split
      · rename_i wider
        have middle := known.widen positive wider (by omega)
        rw [Int.tdiv_eq_ediv_of_nonneg (by omega)]
        exact ih middle (by omega) (by omega) later
      · rename_i narrow
        exact ih (known.keep step (by omega)) (by omega) wide later

theorem kSlotSeconds_eq (sensible : parameters.Sensible) :
    parameters.kSlotSeconds =
      parameters.lifetimeSeconds / parameters.connectionCount := by
  have long := sensible.long
  exact Int.tdiv_eq_ediv_of_nonneg (by omega)

theorem four_le_kSlotSeconds (sensible : parameters.Sensible) :
    4 ≤ parameters.kSlotSeconds := by
  have enough := sensible.enough
  rw [kSlotSeconds_eq sensible]
  exact Int.le_ediv_of_mul_le (by omega) sensible.long

/-- At least half of the lifetime is outside of the first slot. -/
theorem two_kSlotSeconds_le (sensible : parameters.Sensible) :
    2 * parameters.kSlotSeconds ≤ parameters.lifetimeSeconds := by
  have enough := sensible.enough
  have four := four_le_kSlotSeconds sensible
  have slots :=
    @Int.mul_ediv_self_le parameters.lifetimeSeconds
      parameters.connectionCount (by omega)
  rw [← kSlotSeconds_eq sensible] at slots
  calc 2 * parameters.kSlotSeconds
      ≤ parameters.connectionCount * parameters.kSlotSeconds :=
        Int.mul_le_mul_of_nonneg_right (by omega) (by omega)
    _ ≤ parameters.lifetimeSeconds := slots

/-- The distance is half of a share of the rest of the lifetime. -/
theorem distance_eq (sensible : parameters.Sensible) :
    parameters.distance =
      (parameters.lifetimeSeconds - parameters.kSlotSeconds) /
        parameters.connectionCount / 2 := by
  rw [distance, kSlotSeconds_eq sensible, Int.mul_comm,
    Int.ediv_ediv_of_nonneg (Int.natCast_nonneg _)]

theorem distance_le_kSlotSeconds (sensible : parameters.Sensible) :
    parameters.distance ≤ parameters.kSlotSeconds := by
  have enough := sensible.enough
  have four := four_le_kSlotSeconds sensible
  have share :
      (parameters.lifetimeSeconds - parameters.kSlotSeconds) /
          parameters.connectionCount ≤ parameters.kSlotSeconds := by
    calc (parameters.lifetimeSeconds - parameters.kSlotSeconds) /
          parameters.connectionCount
        ≤ parameters.lifetimeSeconds / parameters.connectionCount :=
          Int.ediv_le_ediv (by omega) (by omega)
      _ = parameters.kSlotSeconds := (kSlotSeconds_eq sensible).symm
  rw [distance_eq sensible]
  omega

/-- A share of the rest of the lifetime is two seconds at least. -/
theorem two_le_share (sensible : parameters.Sensible) :
    2 ≤ (parameters.lifetimeSeconds - parameters.kSlotSeconds) /
      parameters.connectionCount := by
  have enough := sensible.enough
  have long := sensible.long
  have half := two_kSlotSeconds_le sensible
  exact Int.le_ediv_of_mul_le (by omega) (by omega)

/-- What a lifetime has to be for sorted lifetimes which are left. -/
structure Chosen (parameters : Parameters) (sorted : List Int)
    (value : Int) : Prop where
  positive : 1 ≤ value
  within : value ≤ parameters.lifetimeSeconds
  apart : ∀ left ∈ sorted, parameters.distance ≤ (value - left).natAbs

/-- The middle of the widest gap is far from everything, if no slot is free
behind the last connection. -/
theorem chosen_searchGap {front : Int} {rest : List Int}
    (sensible : parameters.Sensible)
    (increasing : (front :: rest).Pairwise (· ≤ ·))
    (bounds : ∀ left ∈ front :: rest,
      0 < left ∧ left ≤ parameters.lifetimeSeconds)
    (few : (front :: rest).length ≤ parameters.connectionCount)
    (late : parameters.lifetimeSeconds <
      (front :: rest).getLast (List.cons_ne_nil front rest) +
        parameters.kSlotSeconds) :
    Chosen parameters (front :: rest)
      (searchGap front front (front.tdiv 2) rest) := by
  have enough := sensible.enough
  have positive : 0 ≤ front := (bounds front List.mem_cons_self).1.le
  have last := bounds _ (List.getLast_mem (List.cons_ne_nil front rest))
  obtain ⟨gap, wide, middle⟩ :=
    searchGap_middle (Middle.start positive) positive positive increasing
  rw [List.singleton_append] at middle
  have share :
      (parameters.lifetimeSeconds - parameters.kSlotSeconds) /
          parameters.connectionCount ≤ gap :=
    middle.share_le (by omega) (by omega) wide (by omega)
  have two := two_le_share sensible
  have low := middle.low
  have high := middle.high
  rw [Int.tdiv_eq_ediv_of_nonneg positive]
  refine ⟨by omega, by omega, fun left member => ?_⟩
  have apart := middle.apart left member
  rw [distance_eq sensible]
  omega

/-- A lifetime for sorted lifetimes which are left. -/
theorem chosen_nextOfSorted (sensible : parameters.Sensible)
    (increasing : sorted.Pairwise (· ≤ ·))
    (bounds : ∀ left ∈ sorted,
      0 < left ∧ left ≤ parameters.lifetimeSeconds)
    (few : sorted.length ≤ parameters.connectionCount)
    (inRange : ∀ left ∈ sorted,
      left + parameters.kSlotSeconds < intRange) :
    ∃ value, parameters.nextOfSorted sorted = some value ∧
      Chosen parameters sorted value := by
  have four := four_le_kSlotSeconds sensible
  have half := two_kSlotSeconds_le sensible
  have apart := distance_le_kSlotSeconds sensible
  cases sorted with
  | nil =>
      refine ⟨_, rfl, by omega, by omega, fun left member => ?_⟩
      cases member
  | cons front rest =>
      let back := (front :: rest).getLast (List.cons_ne_nil front rest)
      have member : back ∈ front :: rest := List.getLast_mem _
      have positive := (bounds back member).1
      have fits : signed intRange (back + parameters.kSlotSeconds) =
          some (back + parameters.kSlotSeconds) := by
        refine signed_eq_some.mpr ⟨⟨?_, inRange back member⟩, rfl⟩
        rw [intRange]
        omega
      have result : parameters.nextOfSorted (front :: rest) =
          if back + parameters.kSlotSeconds ≤
              parameters.lifetimeSeconds then
            some (back + parameters.kSlotSeconds)
          else
            some (searchGap front front (front.tdiv 2) rest) := by
        change (signed intRange
          (back + parameters.kSlotSeconds)).bind _ = _
        rw [fits]
        rfl
      rw [result]
      split
      · rename_i early
        refine ⟨_, rfl, by omega, early, fun left inside => ?_⟩
        have below : left ≤ back := increasing.rel_getLast inside
        omega
      · rename_i late
        exact
          ⟨_, rfl, chosen_searchGap sensible increasing bounds few
            (Int.not_le.mp late)⟩

/-- There is no lifetime unless all sums are in range. -/
theorem inRange_of_nextOfSorted {value : Int}
    (increasing : sorted.Pairwise (· ≤ ·))
    (chosen : parameters.nextOfSorted sorted = some value) :
    ∀ left ∈ sorted, left + parameters.kSlotSeconds < intRange := by
  intro left member
  cases sorted with
  | nil => cases member
  | cons front rest =>
      obtain ⟨appended, fits, -⟩ := Option.bind_eq_some_iff.mp chosen
      obtain ⟨⟨-, inside⟩, -⟩ := signed_eq_some.mp fits
      have below := increasing.rel_getLast member
      omega

end Chosen

/-! ## Staggered lifetimes -/

section Staggering

variable {parameters : Parameters} {now : TimePoint}
  {connections : List (Option Channel)}

theorem pairwise_mergeSort_le (values : List Int) :
    (values.mergeSort fun first second => decide (first ≤ second)).Pairwise
      (· ≤ ·) := by
  have sorted := @List.pairwise_mergeSort _
    (fun first second : Int => decide (first ≤ second))
    (fun first second third => by
      simp only [decide_eq_true_eq]
      exact Int.le_trans)
    (fun first second => by
      simp only [Bool.or_eq_true, decide_eq_true_eq]
      exact Int.le_total first second) values
  exact sorted.imp of_decide_eq_true

/-- The sorted lifetimes are those of the channels. -/
theorem mem_sorted {seconds : List Int}
    (left : parameters.remaining now connections = some seconds)
    {value : Int} :
    (value ∈ seconds.mergeSort fun first second =>
        decide (first ≤ second)) ↔
      ∃ channel, some channel ∈ connections ∧
        parameters.secondsLeft channel now = value ∧
          0 < value ∧ value ≤ parameters.lifetimeSeconds :=
  List.mem_mergeSort.trans (mem_remaining left)

/-- Where the arithmetic stays in its range there is a good lifetime. -/
theorem exists_staggered (sensible : parameters.Sensible)
    (few : connections.length ≤ parameters.connectionCount)
    (inRange : parameters.InRange connections now) :
    ∃ value, parameters.nextLifetimeSeconds connections now = some value ∧
      parameters.Staggered connections now value := by
  obtain ⟨seconds, left⟩ := remaining_isSome_iff.mpr fun channel member =>
    (inRange channel member).1
  have count := (remaining_length left).trans few
  obtain ⟨value, next, chosen⟩ :=
    chosen_nextOfSorted sensible (pairwise_mergeSort_le seconds)
      (fun other member => by
        obtain ⟨_, _, _, bounds⟩ := (mem_sorted left).mp member
        exact bounds)
      (by rw [List.length_mergeSort]; exact count)
      (fun other member => by
        obtain ⟨channel, inside, rfl, positive, soon⟩ :=
          (mem_sorted left).mp member
        rw [kSlotSeconds_eq sensible]
        exact (inRange channel inside).2 positive soon)
  refine
    ⟨value, Option.bind_eq_some_iff.mpr ⟨seconds, left, next⟩,
      chosen.positive, chosen.within, ?_⟩
  intro channel member positive soon
  exact
    chosen.apart _
      ((mem_sorted left).mpr ⟨channel, member, rfl, positive, soon⟩)

theorem inRange_of_next {value : Int} (sensible : parameters.Sensible)
    (chosen : parameters.nextLifetimeSeconds connections now =
      some value) :
    parameters.InRange connections now := by
  obtain ⟨seconds, left, next⟩ := Option.bind_eq_some_iff.mp chosen
  intro channel member
  refine ⟨remaining_isSome_iff.mp ⟨seconds, left⟩ channel member, ?_⟩
  intro positive soon
  have fits := inRange_of_nextOfSorted (pairwise_mergeSort_le seconds) next
    _ ((mem_sorted left).mpr ⟨channel, member, rfl, positive, soon⟩)
  rw [kSlotSeconds_eq sensible] at fits
  exact fits

/-- For a pool of at most as many channels as there should be, a lifetime
exists and is far from all which are left exactly if the arithmetic does not
leave its range. -/
theorem nextLifetimeSeconds_staggered_iff (sensible : parameters.Sensible)
    (few : connections.length ≤ parameters.connectionCount) :
    (∃ value, parameters.nextLifetimeSeconds connections now = some value ∧
        parameters.Staggered connections now value) ↔
      parameters.InRange connections now := by
  constructor
  · rintro ⟨value, next, -⟩
    exact inRange_of_next sensible next
  · exact exists_staggered sensible few

/-- A slot behind the longest lifetime is still an `int`, and so is the time
until each channel closes in the clock's durations. -/
theorem inRange_of_fits
    (fits : parameters.lifetimeSeconds +
        parameters.lifetimeSeconds / parameters.connectionCount <
      intRange)
    (inClock : ∀ channel, some channel ∈ connections →
      -durationRange ≤ channel.closeAt - now ∧
        channel.closeAt - now < durationRange) :
    parameters.InRange connections now := by
  intro channel member
  refine ⟨inClock channel member, fun _ soon => ?_⟩
  omega

/-- With parameters for which no `int` overflows, a pool of at most as many
channels as there should be gets a lifetime which is far from all which are
left. -/
theorem nextLifetimeSeconds_staggered (sensible : parameters.Sensible)
    (fits : parameters.lifetimeSeconds +
        parameters.lifetimeSeconds / parameters.connectionCount <
      intRange)
    (few : connections.length ≤ parameters.connectionCount)
    (inClock : ∀ channel, some channel ∈ connections →
      -durationRange ≤ channel.closeAt - now ∧
        channel.closeAt - now < durationRange) :
    ∃ value, parameters.nextLifetimeSeconds connections now = some value ∧
      parameters.Staggered connections now value :=
  exists_staggered sensible few (inRange_of_fits fits inClock)

/-- The template as `DualTunnel` uses it, with a clock of nanoseconds. -/
def dualTunnel : Parameters where
  connectionCount := 2
  lifetimeSeconds := 600
  staggerSeconds := 30
  ticksPerSecond := 1000000000

/-- A channel which closes at a whole second. -/
def channelUntil (seconds : Int) : Channel where
  connectionId := 0
  closeAt := seconds * 1000000000
  client := .create

/-- Two channels with all of the lifetime taken up. -/
theorem dualTunnel_staggered :
    ∃ value,
      dualTunnel.nextLifetimeSeconds
          [some (channelUntil 600), some (channelUntil 300)] 0 =
        some value ∧
        dualTunnel.Staggered
          [some (channelUntil 600), some (channelUntil 300)] 0 value := by
  refine
    nextLifetimeSeconds_staggered ⟨by decide, by decide, by decide⟩
      (by decide) (by decide) ?_
  intro channel member
  rcases List.mem_pair.mp member with first | second
  · obtain rfl := Option.some.inj first
    exact ⟨by decide, by decide⟩
  · obtain rfl := Option.some.inj second
    exact ⟨by decide, by decide⟩

/-- With the longest lifetime the slot behind a channel is out of range, and
the time until a channel closes may be. -/
theorem lifetimes_overflow :
    (¬∃ value,
      (Parameters.mk 2 2147483647 30 1000000000).nextLifetimeSeconds
          [some (channelUntil 1500000000)] 0 = some value ∧
        (Parameters.mk 2 2147483647 30 1000000000).Staggered
          [some (channelUntil 1500000000)] 0 value) ∧
      ¬∃ value,
        dualTunnel.nextLifetimeSeconds [some (channelUntil 9223372036)]
            (-1000000000) = some value ∧
          dualTunnel.Staggered [some (channelUntil 9223372036)]
            (-1000000000) value := by
  constructor
  · rintro ⟨value, next, -⟩
    have inRange := inRange_of_next ⟨by decide, by decide, by decide⟩ next
    have fits := (inRange _ List.mem_cons_self).2 (by decide) (by decide)
    exact absurd fits (by decide)
  · rintro ⟨value, next, -⟩
    have inRange := inRange_of_next ⟨by decide, by decide, by decide⟩ next
    have fits := (inRange _ List.mem_cons_self).1.2
    exact absurd fits (by decide)

end Staggering

/-! ## CreateMissingConnections -/

namespace Parameters

variable (parameters : Parameters)

def kReplacementLeadSeconds : Int := 2

def kMaxConnections : Nat := parameters.connectionCount + 1

/-- Whether a connection is created; `lastSpawnTime` and the time it is
compared with are those of the steady clock. -/
def createsConnection (started : Bool)
    (connections : List (Option Channel))
    (now steadyNow lastSpawnTime : TimePoint) : Bool :=
  let deadline := now + kReplacementLeadSeconds * parameters.ticksPerSecond
  let healthyCount := connections.countP fun pointer =>
    pointer.any fun channel =>
      channel.client.isStarted && decide (channel.closeAt > deadline)
  if !started then
    false
  else if healthyCount ≥ parameters.connectionCount then
    false
  else if connections.length ≥ parameters.kMaxConnections then
    false
  else if parameters.staggerSeconds > 0 ∧
      steadyNow - lastSpawnTime <
        parameters.staggerSeconds * parameters.ticksPerSecond then
    false
  else
    true

/-- When a connection of this lifetime is to be closed. -/
def closeAtOf (now : TimePoint) (lifetimeSeconds : Int) : TimePoint :=
  now + lifetimeSeconds * parameters.ticksPerSecond

end Parameters

section Creating

variable {parameters : Parameters} {now : TimePoint}
  {connections : List (Option Channel)}

/-- A lifetime is asked for only while the pool is small enough. -/
theorem few_of_createsConnection {started : Bool}
    {steadyNow lastSpawnTime : TimePoint}
    (creates : parameters.createsConnection started connections now
      steadyNow lastSpawnTime = true) :
    connections.length ≤ parameters.connectionCount := by
  by_contra many
  have full : connections.length ≥ parameters.kMaxConnections :=
    Nat.lt_of_not_le many
  simp only [createsConnection, if_pos full] at creates
  split at creates
  · cases creates
  · split at creates <;> cases creates

/-- The duration until a channel closes, if there are whole seconds left. -/
theorem secondsLeft_bounds {channel : Channel}
    (resolution : 0 < parameters.ticksPerSecond)
    (positive : 0 < parameters.secondsLeft channel now) :
    parameters.secondsLeft channel now * parameters.ticksPerSecond ≤
        channel.closeAt - now ∧
      (parameters.secondsLeft channel now + 1) *
          parameters.ticksPerSecond >
        channel.closeAt - now := by
  have later : (0 : Int) ≤ channel.closeAt - now := by
    by_contra early
    have past : 0 ≤ (-(channel.closeAt - now)).tdiv
        parameters.ticksPerSecond :=
      Int.tdiv_nonneg (by omega) resolution.le
    rw [Int.neg_tdiv] at past
    rw [secondsLeft, toSeconds] at positive
    omega
  have seconds : parameters.secondsLeft channel now =
      (channel.closeAt - now) / parameters.ticksPerSecond :=
    Int.tdiv_eq_ediv_of_nonneg later
  rw [seconds]
  exact
    ⟨Int.ediv_mul_le _ resolution.ne',
      Int.lt_ediv_add_one_mul_self _ resolution⟩

/-- The distance of whole seconds is that of the points in time, but for a
fraction of a second. -/
theorem closeAt_apart {value : Int}
    (resolution : 0 < parameters.ticksPerSecond)
    (staggered : parameters.Staggered connections now value)
    {channel : Channel} (member : some channel ∈ connections)
    (positive : 0 < parameters.secondsLeft channel now)
    (soon : parameters.secondsLeft channel now ≤
      parameters.lifetimeSeconds) :
    (parameters.distance - 1) * parameters.ticksPerSecond <
      (parameters.closeAtOf now value - channel.closeAt).natAbs := by
  have apart := staggered.apart channel member positive soon
  obtain ⟨low, high⟩ := secondsLeft_bounds resolution positive
  rw [closeAtOf]
  rcases Int.le_total (parameters.secondsLeft channel now) value with
    behind | before
  · have grown :
        (parameters.distance - 1) * parameters.ticksPerSecond ≤
          (value - (parameters.secondsLeft channel now + 1)) *
            parameters.ticksPerSecond :=
      Int.mul_le_mul_of_nonneg_right (by omega) resolution.le
    rw [Int.sub_mul value] at grown
    omega
  · have grown :
        parameters.distance * parameters.ticksPerSecond ≤
          (parameters.secondsLeft channel now - value) *
            parameters.ticksPerSecond :=
      Int.mul_le_mul_of_nonneg_right (by omega) resolution.le
    rw [Int.sub_mul] at grown
    rw [Int.sub_mul, Int.one_mul]
    omega

/-- A connection which is created closes at another time than the others. -/
theorem created_apart {started : Bool}
    {steadyNow lastSpawnTime : TimePoint}
    (sensible : parameters.Sensible)
    (resolution : 0 < parameters.ticksPerSecond)
    (creates : parameters.createsConnection started connections now
      steadyNow lastSpawnTime = true)
    (inRange : parameters.InRange connections now) :
    ∃ value, parameters.nextLifetimeSeconds connections now = some value ∧
      ∀ channel, some channel ∈ connections →
        0 < parameters.secondsLeft channel now →
          parameters.secondsLeft channel now ≤
              parameters.lifetimeSeconds →
            parameters.closeAtOf now value ≠ channel.closeAt := by
  obtain ⟨value, next, staggered⟩ :=
    exists_staggered sensible (few_of_createsConnection creates) inRange
  refine ⟨value, next, fun channel member positive soon same => ?_⟩
  have apart := closeAt_apart resolution staggered member positive soon
  have share := two_le_share sensible
  have some_ : 0 ≤
      (parameters.distance - 1) * parameters.ticksPerSecond := by
    refine Int.mul_nonneg ?_ resolution.le
    rw [distance_eq sensible]
    omega
  rw [same] at apart
  omega

end Creating

end Fptn.Connection.TunnelLifetimes
