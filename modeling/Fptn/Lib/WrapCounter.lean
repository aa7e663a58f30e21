import Mathlib.Data.List.Nodup
import Mathlib.Data.List.Range
import Mathlib.Tactic.Common

/-!
# Counters which restart inside an interval

A counter steps through the residues of a modulus.  When the next residue does
not lie below its last value it restarts behind its start.  A pool is drawn by
stepping the counter a number of times, leaving one value out.

As long as the counter has room for the whole drawing, the pool is an interval
without the left-out value.  `sound_iff_fits` describes exactly which drawings
give duplicate-free pools of inner values.
-/

namespace Fptn.WrapCounter

/-- A counter modulo `modulus` which restarts behind `start` at `last`. -/
structure Counter where
  modulus : Nat
  start : Nat
  last : Nat

variable (counter : Counter)

def next (current : Nat) : Nat :=
  let candidate := (current + 1) % counter.modulus
  if candidate < counter.last then
    candidate
  else
    (counter.start + 1) % counter.modulus

/-- The values of successive steps. -/
def draw : Nat → Nat → List Nat
  | 0, _ => []
  | count + 1, current =>
      next counter current :: draw count (next counter current)

/-- The drawn values without the one to be skipped. -/
def pool (count : Nat) (skipped : Option Nat) : List Nat :=
  (draw counter count counter.start).filter fun value =>
    skipped ≠ some value

/-- The counter's interval lies below its modulus. -/
structure Valid : Prop where
  ordered : counter.start ≤ counter.last
  bounded : counter.last < counter.modulus

variable {counter}

/-! ## Drawing with and without room -/

theorem next_lt (positive : 0 < counter.modulus) (current : Nat) :
    next counter current < counter.modulus := by
  simp only [next]
  split
  · exact Nat.mod_lt _ positive
  · exact Nat.mod_lt _ positive

/-- The residue behind another, with and without wrapping around. -/
theorem succ_mod_cases {modulus current : Nat} (below : current < modulus) :
    (current + 1) % modulus = current + 1 ∨
      (current + 1) % modulus = 0 ∧ current + 1 = modulus := by
  have atMost : current + 1 ≤ modulus := below
  rcases Nat.lt_or_eq_of_le atMost with small | wraps
  · exact Or.inl (Nat.mod_eq_of_lt small)
  · refine Or.inr ⟨?_, wraps⟩
    rw [wraps, Nat.mod_self]

/-- The first value does not depend on where the interval ends. -/
theorem next_start :
    next counter counter.start =
      (counter.start + 1) % counter.modulus := by
  rw [next, ite_self]

theorem next_start_of_room (room : counter.start + 1 < counter.modulus) :
    next counter counter.start = counter.start + 1 := by
  rw [next_start, Nat.mod_eq_of_lt room]

/-- From the value before the modulus, a counter goes on to zero. -/
theorem next_wraps {current : Nat} (close : current + 1 = counter.modulus)
    (positive : 0 < counter.last) : next counter current = 0 := by
  rw [next, close, Nat.mod_self, if_pos positive]

theorem next_of_room (valid : Valid counter) {current : Nat}
    (room : current + 1 < counter.last) :
    next counter current = current + 1 := by
  have small : (current + 1) % counter.modulus = current + 1 :=
    Nat.mod_eq_of_lt (room.trans valid.bounded)
  rw [next, small, if_pos room]

theorem draw_of_room (valid : Valid counter) {count current : Nat}
    (room : current + count < counter.last) :
    draw counter count current = List.range' (current + 1) count := by
  induction count generalizing current with
  | zero => rfl
  | succ count ih =>
      rw [draw, next_of_room valid (by omega), ih (by omega)]
      rfl

/-- At the end of its room the counter restarts. -/
theorem next_at_end (valid : Valid counter) {current : Nat}
    (atEnd : current + 1 = counter.last)
    (inner : counter.start + 1 < counter.last) :
    next counter current = counter.start + 1 := by
  have small :
      (counter.start + 1) % counter.modulus = counter.start + 1 :=
    Nat.mod_eq_of_lt (inner.trans valid.bounded)
  have full : (current + 1) % counter.modulus = counter.last := by
    rw [atEnd]
    exact Nat.mod_eq_of_lt valid.bounded
  rw [next, full, if_neg (Nat.lt_irrefl _), small]

/-- A drawing which uses up all room goes on behind the start. -/
theorem draw_past_end (valid : Valid counter)
    (inner : counter.start + 1 < counter.last) (rest : Nat) :
    ∀ room current, current + room + 1 = counter.last →
      draw counter (room + 1 + rest) current =
        List.range' (current + 1) room ++
          (counter.start + 1) ::
            draw counter rest (counter.start + 1) := by
  intro room
  induction room with
  | zero =>
      intro current atEnd
      rw [Nat.zero_add, Nat.add_comm 1 rest, draw,
        next_at_end valid atEnd inner]
      rfl
  | succ room ih =>
      intro current atEnd
      have unfolded : room + 1 + 1 + rest = room + 1 + rest + 1 := by
        omega
      rw [unfolded, draw, next_of_room valid (by omega),
        ih (current + 1) (by omega)]
      rfl

theorem draw_fixed {value : Nat} (fixed : next counter value = value)
    (count : Nat) :
    draw counter count value = List.replicate count value := by
  induction count with
  | zero => rfl
  | succ count ih => rw [draw, fixed, ih, List.replicate_succ]

theorem mem_pool {count value : Nat} {skipped : Option Nat} :
    value ∈ pool counter count skipped ↔
      value ∈ draw counter count counter.start ∧
        skipped ≠ some value := by
  simp [pool]

/-! ## Sound pools -/

/--
Values strictly between `network` and `last`, without duplicates and without
the owner's own value.
-/
structure Sound
    (network last : Nat) (own : Option Nat) (values : List Nat) :
    Prop where
  nodup : values.Nodup
  inner : ∀ value ∈ values, network < value ∧ value < last
  foreign : ∀ value ∈ values, own ≠ some value

theorem Sound.nil {network last : Nat} {own : Option Nat} :
    Sound network last own [] where
  nodup := List.nodup_nil
  inner := by simp
  foreign := by simp

variable (counter)

/--
Either the counter has room for all values and the own value is skipped if it
is among them, or every value drawn twice or outside is the skipped one.
-/
def Fits (count : Nat) (own skipped : Option Nat) : Prop :=
  if counter.start + count < counter.last then
    ∀ value, own = some value →
      counter.start < value ∧ value ≤ counter.start + count →
        skipped = own
  else
    count = 0 ∨
      skipped = some (next counter counter.start) ∧
        (count = counter.last - counter.start - 1 + 1 ∨
          next counter (next counter counter.start) =
            next counter counter.start)

variable {counter} {network count : Nat} {own skipped : Option Nat}

theorem sound_of_room (valid : Valid counter)
    (lower : network ≤ counter.start)
    (room : counter.start + count < counter.last)
    (skips : ∀ value, own = some value →
      counter.start < value ∧ value ≤ counter.start + count →
        skipped = own) :
    Sound network counter.last own (pool counter count skipped) := by
  have drawn := draw_of_room valid room
  have interval : ∀ value ∈ pool counter count skipped,
      counter.start < value ∧ value ≤ counter.start + count := by
    intro value member
    rw [mem_pool, drawn, List.mem_range'_1] at member
    omega
  constructor
  · rw [pool, drawn]
    exact List.Nodup.filter _ List.nodup_range'
  · intro value member
    have place := interval value member
    omega
  · intro value member isOwn
    have excluded := (mem_pool.mp member).2
    rw [skips value isOwn (interval value member)] at excluded
    exact excluded isOwn

theorem skips_of_sound (valid : Valid counter)
    (skip : skipped = none ∨ skipped = own)
    (room : counter.start + count < counter.last)
    (sound :
      Sound network counter.last own (pool counter count skipped)) :
    ∀ value, own = some value →
      counter.start < value ∧ value ≤ counter.start + count →
        skipped = own := by
  intro value isOwn place
  rcases skip with nothing | skip
  · have member : value ∈ pool counter count skipped := by
      rw [mem_pool, draw_of_room valid room, List.mem_range'_1, nothing]
      exact ⟨by omega, by simp⟩
    exact absurd isOwn (sound.foreign value member)
  · exact skip

/-- Without room, the first value can only be the skipped one. -/
theorem first_skipped_of_sound (valid : Valid counter)
    (full : ¬ counter.start + count < counter.last)
    (positive : count ≠ 0)
    (sound :
      Sound network counter.last own (pool counter count skipped)) :
    skipped = some (next counter counter.start) := by
  by_contra kept
  by_cases inner : counter.start + 1 < counter.last
  · -- The first value comes again when the counter restarts.
    have first := next_of_room valid inner
    rw [first] at kept
    obtain ⟨room, atEnd⟩ :
        ∃ room, counter.start + (room + 1) + 1 = counter.last :=
      ⟨counter.last - counter.start - 2, by omega⟩
    obtain ⟨rest, split⟩ : ∃ rest, count = room + 1 + 1 + rest :=
      ⟨count - (room + 2), by omega⟩
    have drawn :=
      draw_past_end valid inner rest (room + 1) counter.start atEnd
    have duplicate := sound.nodup
    rw [pool, split, drawn] at duplicate
    simp [List.range'_succ, kept] at duplicate
  · obtain ⟨fewer, rfl⟩ : ∃ fewer, count = fewer + 1 :=
      ⟨count - 1, by omega⟩
    have member :
        next counter counter.start ∈ pool counter (fewer + 1) skipped :=
      mem_pool.mpr ⟨by simp [draw], kept⟩
    have bounds := sound.inner _ member
    have ordered := valid.ordered
    have bounded := valid.bounded
    rw [next_start] at bounds
    rcases succ_mod_cases (by omega : counter.start < counter.modulus) with
      stays | ⟨wraps, _⟩
    · omega
    · omega

/-- The second value comes again after the restart. -/
theorem not_nodup_of_deeper (valid : Valid counter)
    (deeper : counter.start + 2 < counter.last)
    (full : ¬ counter.start + count < counter.last)
    (longer : count ≠ counter.last - counter.start - 1 + 1)
    (kept : skipped ≠ some (counter.start + 2)) :
    ¬ (pool counter count skipped).Nodup := by
  intro duplicate
  obtain ⟨room, atEnd⟩ :
      ∃ room, counter.start + (room + 2) + 1 = counter.last :=
    ⟨counter.last - counter.start - 3, by omega⟩
  obtain ⟨rest, split⟩ : ∃ rest, count = room + 2 + 1 + (rest + 1) :=
    ⟨count - room - 4, by omega⟩
  have drawn :=
    draw_past_end valid (by omega) (rest + 1) (room + 2)
      counter.start atEnd
  rw [pool, split, drawn, draw,
    next_of_room valid (by omega)] at duplicate
  simp [List.range'_succ, kept, List.filter_cons] at duplicate
  split at duplicate <;> simp_all

/-- With nothing between start and end, a second value lies outside. -/
theorem second_outside (valid : Valid counter)
    (edge : counter.last + 1 = counter.modulus → 0 < network)
    (narrow : ¬ counter.start + 1 < counter.last)
    (moves : next counter (next counter counter.start) ≠
      next counter counter.start) :
    ¬ (network < next counter (next counter counter.start) ∧
      next counter (next counter counter.start) < counter.last) := by
  have ordered := valid.ordered
  have bounded := valid.bounded
  intro bounds
  rw [next_start] at bounds moves
  rw [next] at bounds moves
  split at bounds
  · rename_i candidate
    rcases succ_mod_cases (by omega : counter.start < counter.modulus)
      with stays | ⟨wraps, atEnd⟩
    · have small : counter.start + 1 < counter.modulus := by
        rw [← stays]
        exact Nat.mod_lt _ (by omega)
      rw [stays] at bounds
      rcases succ_mod_cases small with further | ⟨wraps, atEnd⟩
      · omega
      · omega
    · have positiveNetwork := edge (by omega)
      rw [wraps, Nat.zero_add] at bounds
      have atMost : 1 % counter.modulus ≤ 1 := Nat.mod_le _ _
      omega
  · rename_i candidate
    rw [if_neg candidate] at moves
    exact moves rfl

theorem second_repeats_of_sound (valid : Valid counter)
    (edge : counter.last + 1 = counter.modulus → 0 < network)
    (full : ¬ counter.start + count < counter.last)
    (positive : count ≠ 0)
    (first : skipped = some (next counter counter.start))
    (sound :
      Sound network counter.last own (pool counter count skipped)) :
    count = counter.last - counter.start - 1 + 1 ∨
      next counter (next counter counter.start) =
        next counter counter.start := by
  by_contra neither
  rw [not_or] at neither
  obtain ⟨longer, moves⟩ := neither
  have kept :
      skipped ≠ some (next counter (next counter counter.start)) := by
    rw [first, ne_eq, Option.some.injEq]
    exact fun same => moves same.symm
  by_cases inner : counter.start + 1 < counter.last
  · rw [next_of_room valid inner] at moves kept
    by_cases deeper : counter.start + 2 < counter.last
    · rw [next_of_room valid (by omega)] at kept
      exact not_nodup_of_deeper valid deeper full longer kept sound.nodup
    · exact moves (next_at_end valid (by omega) inner)
  · have ordered := valid.ordered
    obtain ⟨fewer, rfl⟩ : ∃ fewer, count = fewer + 2 :=
      ⟨count - 2, by omega⟩
    have member :
        next counter (next counter counter.start) ∈
          pool counter (fewer + 2) skipped :=
      mem_pool.mpr ⟨by simp [draw], kept⟩
    exact second_outside valid edge inner moves (sound.inner _ member)

theorem sound_of_restart (valid : Valid counter)
    (lower : network ≤ counter.start)
    (skip : skipped = none ∨ skipped = own)
    (first : skipped = some (next counter counter.start))
    (exact : count = counter.last - counter.start - 1 + 1) :
    Sound network counter.last own (pool counter count skipped) := by
  have isOwn : own = some (next counter counter.start) := by
    rcases skip with nothing | skip
    · rw [nothing] at first
      simp at first
    · rw [← skip, first]
  by_cases inner : counter.start + 1 < counter.last
  · have drawn :=
      draw_past_end valid inner 0 (counter.last - counter.start - 1)
        counter.start (by omega)
    rw [Nat.add_zero, ← exact] at drawn
    have values :
        pool counter count skipped =
          (List.range' (counter.start + 1)
            (counter.last - counter.start - 1)).filter
              fun value => skipped ≠ some value := by
      rw [pool, drawn, List.filter_append, first,
        next_of_room valid inner]
      simp [draw]
    rw [values]
    constructor
    · exact List.Nodup.filter _ List.nodup_range'
    · intro value member
      rw [List.mem_filter, List.mem_range'_1] at member
      omega
    · intro value member same
      rw [List.mem_filter, decide_eq_true_eq, first, ← isOwn] at member
      exact member.2 same
  · have single : count = 1 := by omega
    have empty : pool counter count skipped = [] := by
      rw [single, pool, first]
      simp [draw]
    rw [empty]
    exact Sound.nil

theorem sound_of_fixed
    (first : skipped = some (next counter counter.start))
    (fixed :
      next counter (next counter counter.start) =
        next counter counter.start) :
    Sound network counter.last own (pool counter count skipped) := by
  have empty : pool counter count skipped = [] := by
    cases count with
    | zero => rfl
    | succ count =>
        rw [pool, draw, draw_fixed fixed, ← List.replicate_succ, first]
        simp
  rw [empty]
  exact Sound.nil

/-- A pool is sound exactly when its drawing fits the counter. -/
theorem sound_iff_fits (valid : Valid counter)
    (lower : network ≤ counter.start)
    (edge : counter.last + 1 = counter.modulus → 0 < network)
    (skip : skipped = none ∨ skipped = own) :
    Sound network counter.last own (pool counter count skipped) ↔
      Fits counter count own skipped := by
  unfold Fits
  split
  · rename_i room
    constructor
    · exact skips_of_sound valid skip room
    · exact sound_of_room valid lower room
  · rename_i full
    constructor
    · intro sound
      by_cases positive : count = 0
      · exact Or.inl positive
      · have first := first_skipped_of_sound valid full positive sound
        exact
          Or.inr
            ⟨first,
              second_repeats_of_sound valid edge full positive first
                sound⟩
    · rintro (zero | ⟨first, exact | fixed⟩)
      · rw [zero]
        exact Sound.nil
      · exact sound_of_restart valid lower skip first exact
      · exact sound_of_fixed first fixed

/-! ## Staying inside an interval -/

section Stays

variable (counter) in
/--
No value but `own` is drawn outside, although the counter may be placed at the
end of its interval, or so close to its modulus that it starts again at zero.
-/
def Stays (count own : Nat) : Prop :=
  (counter.start = counter.last →
    count = 0 ∨
      own = (counter.start + 1) % counter.modulus ∧
        (counter.start + 1 < counter.modulus ∨ count = 1)) ∧
  (counter.start + 2 = counter.modulus →
    count ≤ 1 ∨ own = 0 ∧ count = 2)

/-- Behind its start and up to its last value, unless it can wrap around. -/
theorem draw_inner (valid : Valid counter)
    (less : counter.start < counter.last)
    (room : counter.start + 1 < counter.last ∨
      counter.last + 1 < counter.modulus) :
    ∀ count current, counter.start ≤ current →
      current < counter.last ∨
        current = counter.last ∧ counter.last + 1 < counter.modulus →
      ∀ value ∈ draw counter count current,
        counter.start < value ∧ value ≤ counter.last := by
  have bounded := valid.bounded
  have restart :
      (counter.start + 1) % counter.modulus = counter.start + 1 :=
    Nat.mod_eq_of_lt (by omega)
  intro count
  induction count with
  | zero =>
      intro current _ _ value member
      cases member
  | succ count ih =>
      intro current behind inside value member
      have stepped :
          counter.start < next counter current ∧
            (next counter current < counter.last ∨
              next counter current = counter.last ∧
                counter.last + 1 < counter.modulus) := by
        have candidate :
            (current + 1) % counter.modulus = current + 1 :=
          Nat.mod_eq_of_lt (by omega)
        rw [next, candidate, restart]
        split
        · omega
        · omega
      rw [draw, List.mem_cons] at member
      rcases member with rfl | later
      · omega
      · exact ih _ (by omega) stepped.2 value later

theorem draw_one : draw counter 1 counter.start =
    [next counter counter.start] := rfl

theorem draw_two : draw counter 2 counter.start =
    [next counter counter.start,
      next counter (next counter counter.start)] := rfl

theorem first_mem {count : Nat} (positive : count ≠ 0) :
    next counter counter.start ∈ draw counter count counter.start := by
  obtain ⟨rest, rfl⟩ := Nat.exists_eq_succ_of_ne_zero positive
  rw [draw]
  exact List.mem_cons_self

theorem second_mem {count : Nat} (several : 2 ≤ count) :
    next counter (next counter counter.start) ∈
      draw counter count counter.start := by
  obtain ⟨rest, rfl⟩ := Nat.exists_eq_add_of_le' several
  rw [draw, draw]
  exact List.mem_cons_of_mem _ List.mem_cons_self

theorem third_mem {count : Nat} (several : 3 ≤ count) :
    next counter (next counter (next counter counter.start)) ∈
      draw counter count counter.start := by
  obtain ⟨rest, rfl⟩ := Nat.exists_eq_add_of_le' several
  rw [draw, draw, draw]
  exact
    List.mem_cons_of_mem _ (List.mem_cons_of_mem _ List.mem_cons_self)

variable {own : Nat}

/-- From zero, a counter with some room goes on to one. -/
theorem next_zero (bounded : counter.last < counter.modulus)
    (wide : 1 < counter.last) : next counter 0 = 1 := by
  have one : (0 + 1) % counter.modulus = 1 :=
    Nat.mod_eq_of_lt (by omega)
  rw [next, one, if_pos wide]

theorem stays_of_draw (valid : Valid counter)
    (aligned : counter.start + 2 = counter.modulus →
      counter.start < counter.last)
    (edge : counter.last + 1 = counter.modulus → 1 < network)
    (wide : 1 < counter.last)
    (inside : ∀ value ∈ draw counter count counter.start,
      value ≠ own → network ≤ value ∧ value ≤ counter.last) :
    Stays counter count own := by
  have bounded := valid.bounded
  have ordered := valid.ordered
  have zero := next_zero bounded wide
  constructor
  · intro full
    by_cases none : count = 0
    · exact Or.inl none
    · have first := inside _ (first_mem none)
      rw [next_start] at first
      have isOwn : own = (counter.start + 1) % counter.modulus := by
        by_contra different
        have bounds := first (Ne.symm different)
        rcases succ_mod_cases
            (by omega : counter.start < counter.modulus) with
          stays | ⟨wraps, atEnd⟩
        · omega
        · omega
      refine Or.inr ⟨isOwn, ?_⟩
      by_contra neither
      have wrapped : counter.start + 1 = counter.modulus := by omega
      have second := inside _ (second_mem (by omega : 2 ≤ count))
      rw [next_start, wrapped, Nat.mod_self, zero] at second
      rw [wrapped, Nat.mod_self] at isOwn
      omega
  · intro close
    by_contra neither
    rw [not_or, Nat.not_le] at neither
    obtain ⟨several, different⟩ := neither
    have first : next counter counter.start = counter.start + 1 :=
      next_start_of_room (by omega)
    have atLast : counter.last = counter.start + 1 := by
      have less := aligned close
      omega
    have wraps : next counter (counter.start + 1) = 0 :=
      next_wraps close (by omega)
    have second := inside _ (second_mem several)
    rw [first, wraps] at second
    have third := inside _ (third_mem (by omega : 3 ≤ count))
    rw [first, wraps, zero] at third
    omega

theorem draw_of_stays (valid : Valid counter)
    (aligned : counter.start + 2 = counter.modulus →
      counter.start < counter.last)
    (lower : network ≤ counter.start)
    (stays : Stays counter count own) :
    ∀ value ∈ draw counter count counter.start,
      value ≠ own → network ≤ value ∧ value ≤ counter.last := by
  have bounded := valid.bounded
  have ordered := valid.ordered
  obtain ⟨whenFull, whenClose⟩ := stays
  intro value member different
  by_cases full : counter.start = counter.last
  · have first := @next_start counter
    rcases whenFull full with none | ⟨isOwn, small | single⟩
    · rw [none, draw] at member
      cases member
    · rw [Nat.mod_eq_of_lt small] at isOwn first
      have fixed :
          next counter (counter.start + 1) = counter.start + 1 := by
        have inner :
            (counter.start + 1 + 1) % counter.modulus =
              counter.start + 1 + 1 := Nat.mod_eq_of_lt (by omega)
        rw [next, inner, if_neg (by omega), Nat.mod_eq_of_lt small]
      cases count with
      | zero => cases member
      | succ rest =>
          rw [draw, first, draw_fixed fixed, ← List.replicate_succ] at member
          exact
            absurd ((List.eq_of_mem_replicate member).trans isOwn.symm)
              different
    · rw [single, draw_one, List.mem_singleton, first, ← isOwn] at member
      exact absurd member different
  · by_cases close : counter.start + 2 = counter.modulus
    · have first : next counter counter.start = counter.start + 1 :=
        next_start_of_room (by omega)
      rcases whenClose close with few | ⟨isOwn, two⟩
      · have short : count = 0 ∨ count = 1 := by omega
        rcases short with none | single
        · rw [none, draw] at member
          cases member
        · rw [single, draw_one, List.mem_singleton, first] at member
          omega
      · have wraps : next counter (counter.start + 1) = 0 :=
          next_wraps close (by omega)
        rw [two, draw_two, first, wraps, List.mem_pair] at member
        omega
    · have inner := draw_inner valid (by omega) (by omega) count
        counter.start (Nat.le_refl _) (Or.inl (by omega)) value member
      omega

/-- Values behind the interval are drawn only at its end. -/
theorem lt_or_eq_of_mem_draw {count current value : Nat}
    (member : value ∈ draw counter count current) :
    value < counter.last ∨
      value = (counter.start + 1) % counter.modulus := by
  induction count generalizing current with
  | zero => cases member
  | succ count ih =>
      rw [draw, List.mem_cons] at member
      rcases member with rfl | later
      · rw [next]
        split
        · exact Or.inl ‹_›
        · exact Or.inr rfl
      · exact ih later

theorem lt_modulus_of_mem_draw (valid : Valid counter)
    {count current value : Nat}
    (member : value ∈ draw counter count current) :
    value < counter.modulus := by
  have bounded := valid.bounded
  rcases lt_or_eq_of_mem_draw member with inner | rfl
  · exact inner.trans bounded
  · exact Nat.mod_lt _ (Nat.zero_lt_of_lt bounded)

/-- What is drawn stays inside exactly when the counter does. -/
theorem stays_iff (valid : Valid counter)
    (aligned : counter.start + 2 = counter.modulus →
      counter.start < counter.last)
    (lower : network ≤ counter.start)
    (edge : counter.last + 1 = counter.modulus → 1 < network)
    (wide : 1 < counter.last) :
    (∀ value ∈ draw counter count counter.start,
      value ≠ own → network ≤ value ∧ value ≤ counter.last) ↔
      Stays counter count own :=
  ⟨stays_of_draw valid aligned edge wide,
    draw_of_stays valid aligned lower⟩

end Stays

end Fptn.WrapCounter
