import Fptn.Lib.RateWindow
import Mathlib.Algebra.Order.Archimedean.Real.Basic
import Mathlib.Data.UInt

/-!
# The traffic shaper

A `LeakyBucket` lets packets through until the bytes of the present window
reach its limit.  A window is over one second after it was opened; the packet
which comes next opens another and is let through whatever its size.

The clock is read under the mutex, so calls see it in the order in which they
take effect.  Its readings are nanoseconds since it was started.
-/

namespace Fptn.TrafficShaper

open Fptn.RateWindow

structure LeakyBucket where
  currentAmount : UInt64
  maxBytesPerSecond : UInt64
  lastLeakTime : Int
  fullDataAmount : UInt64
deriving DecidableEq

/-- A call of `CheckSpeedLimit`, and the clock as it is read there. -/
structure Call where
  now : Int
  packetSize : UInt64
deriving DecidableEq

namespace LeakyBucket

/-- The constructor.  The limit which it is given is in bits. -/
def create (maxBitesPerSecond : UInt64) (now : Int) : LeakyBucket where
  currentAmount := 0
  maxBytesPerSecond := maxBitesPerSecond / 8
  lastLeakTime := now
  fullDataAmount := 0

/-- In milliseconds; `duration_cast` drops what is less than one. -/
def elapsed (bucket : LeakyBucket) (now : Int) : Int :=
  (now - bucket.lastLeakTime).tdiv 1000000

def checkSpeedLimit (bucket : LeakyBucket) (call : Call) :
    Bool × LeakyBucket :=
  if bucket.elapsed call.now < 1000 then
    if bucket.currentAmount + call.packetSize <
        bucket.maxBytesPerSecond then
      (true,
        { bucket with
          currentAmount := bucket.currentAmount + call.packetSize
          fullDataAmount := bucket.fullDataAmount + call.packetSize })
    else
      (false, bucket)
  else
    -- the packet which opens a window is not counted in `fullDataAmount`
    (true,
      { bucket with
        lastLeakTime := call.now
        currentAmount := call.packetSize })

/-- The calls of a history which are answered with `true`. -/
def admitted : LeakyBucket → List Call → List Call
  | _, [] => []
  | bucket, call :: calls =>
      match bucket.checkSpeedLimit call with
      | (true, next) => call :: next.admitted calls
      | (false, next) => next.admitted calls

theorem admitted_cons (bucket : LeakyBucket) (call : Call)
    (calls : List Call) :
    bucket.admitted (call :: calls) =
      if (bucket.checkSpeedLimit call).1 then
        call :: (bucket.checkSpeedLimit call).2.admitted calls
      else (bucket.checkSpeedLimit call).2.admitted calls := by
  rw [admitted]
  rcases bucket.checkSpeedLimit call with ⟨_ | _, next⟩ <;> rfl

theorem elapsed_lt_iff {bucket : LeakyBucket} {now : Int}
    (later : bucket.lastLeakTime ≤ now) :
    bucket.elapsed now < 1000 ↔
      now < bucket.lastLeakTime + 1000000000 := by
  rw [elapsed, Int.tdiv_eq_ediv_of_nonneg (by omega)]
  omega

/-! ## The bucket as a window -/

/-- What one window may let through. -/
def capacity (bucket : LeakyBucket) : Nat :=
  max bucket.maxBytesPerSecond.toNat 65536

/-- The limit is one in bits, and the present window is within it. -/
structure Bounded (bucket : LeakyBucket) : Prop where
  limit : bucket.maxBytesPerSecond.toNat < 2 ^ 61
  amount : bucket.currentAmount.toNat ≤ bucket.capacity

theorem bounded_create (maxBitesPerSecond : UInt64) (now : Int) :
    Bounded (create maxBitesPerSecond now) where
  limit := by
    have := maxBitesPerSecond.toNat_lt
    simp only [create, UInt64.toNat_div, UInt64.reduceToNat]
    omega
  amount := Nat.zero_le _

/-- The sum which is compared does not wrap. -/
theorem Bounded.toNat_add {bucket : LeakyBucket} (bounded : Bounded bucket)
    {packetSize : UInt64} (small : packetSize.toNat ≤ 65535) :
    (bucket.currentAmount + packetSize).toNat =
      bucket.currentAmount.toNat + packetSize.toNat := by
  have limit := bounded.limit
  have amount := bounded.amount
  have : bucket.capacity < 2 ^ 61 + 65536 := by
    rw [capacity]
    omega
  rw [UInt64.toNat_add]
  exact Nat.mod_eq_of_lt (by omega)

theorem checkSpeedLimit_capacity (bucket : LeakyBucket) (call : Call) :
    (bucket.checkSpeedLimit call).2.capacity = bucket.capacity := by
  rw [checkSpeedLimit]
  split
  · split <;> rfl
  · rfl

theorem Bounded.checkSpeedLimit {bucket : LeakyBucket}
    (bounded : Bounded bucket) {call : Call}
    (small : call.packetSize.toNat ≤ 65535) :
    Bounded (bucket.checkSpeedLimit call).2 := by
  rw [LeakyBucket.checkSpeedLimit]
  split
  · split
    next within =>
      have sum := bounded.toNat_add small
      have below := UInt64.lt_iff_toNat_lt.mp within
      exact
        ⟨bounded.limit, (le_of_lt below).trans (le_max_left _ _)⟩
    next => exact bounded
  · exact
      ⟨bounded.limit,
        (small.trans (by decide)).trans (le_max_right _ _)⟩

theorem checkSpeedLimit_lastLeakTime_le {bucket : LeakyBucket}
    {call : Call} (later : bucket.lastLeakTime ≤ call.now) :
    (bucket.checkSpeedLimit call).2.lastLeakTime ≤ call.now := by
  rw [checkSpeedLimit]
  split
  · split <;> exact later
  · exact le_refl _

/-- A reading of the clock in seconds. -/
noncomputable def seconds (now : Int) : ℝ :=
  now / 1000000000

noncomputable def passage (call : Call) : Passage ℝ :=
  ⟨seconds call.now, call.packetSize.toNat⟩

noncomputable def window (bucket : LeakyBucket) : Window ℝ :=
  ⟨seconds bucket.lastLeakTime, bucket.currentAmount.toNat⟩

theorem seconds_le_iff {earlier later : Int} :
    seconds earlier ≤ seconds later ↔ earlier ≤ later := by
  rw [seconds, seconds, div_le_div_iff_of_pos_right (by norm_num)]
  exact Int.cast_le

theorem seconds_add_one (now : Int) :
    seconds now + 1 = seconds (now + 1000000000) := by
  simp only [seconds, Int.cast_add, Int.cast_ofNat, add_div]
  norm_num

/-- A refused packet leaves everything as it was. -/
theorem eq_of_refused {bucket : LeakyBucket} {call : Call}
    (refused : (bucket.checkSpeedLimit call).1 = false) :
    (bucket.checkSpeedLimit call).2 = bucket := by
  rw [checkSpeedLimit] at refused ⊢
  split at refused
  next recent =>
    rw [if_pos recent]
    split at refused
    · cases refused
    next full => rw [if_neg full]
  next => cases refused

/-- An admitted packet passes the window, or opens another. -/
theorem step_of_admitted {bucket : LeakyBucket} {call : Call}
    (bounded : Bounded bucket)
    (later : bucket.lastLeakTime ≤ call.now)
    (small : call.packetSize.toNat ≤ 65535)
    (answer : (bucket.checkSpeedLimit call).1 = true) :
    Step bucket.capacity bucket.window (passage call)
      (bucket.checkSpeedLimit call).2.window := by
  have recent := elapsed_lt_iff later
  have after : seconds bucket.lastLeakTime ≤ seconds call.now :=
    seconds_le_iff.mpr later
  rw [checkSpeedLimit] at answer ⊢
  split
  next inWindow =>
    rw [if_pos inWindow] at answer
    split
    next within =>
      have sum := bounded.toNat_add small
      have below :
          (bucket.currentAmount + call.packetSize).toNat ≤
            bucket.capacity :=
        (le_of_lt (UInt64.lt_iff_toNat_lt.mp within)).trans
          (le_max_left _ _)
      have soon :
          seconds call.now < seconds bucket.lastLeakTime + 1 := by
        rw [seconds_add_one, ← not_le, seconds_le_iff, not_le]
        exact recent.mp inWindow
      rw [window, window, sum]
      exact Step.stay after soon (sum ▸ below)
    next full =>
      rw [if_neg full] at answer
      cases answer
  next inWindow =>
    have closed :
        seconds bucket.lastLeakTime + 1 ≤ seconds call.now := by
      rw [seconds_add_one, seconds_le_iff]
      exact not_lt.mp (mt recent.mpr inWindow)
    exact
      Step.next closed
        ((small.trans (by decide)).trans (le_max_right _ _))

/-- The admitted packets of a history are a run of windows. -/
theorem run_admitted {bucket : LeakyBucket} {calls : List Call}
    (bounded : Bounded bucket)
    (ordered :
      (bucket.lastLeakTime :: calls.map Call.now).Pairwise (· ≤ ·))
    (small : ∀ call ∈ calls, call.packetSize.toNat ≤ 65535) :
    Run bucket.capacity bucket.window
      ((bucket.admitted calls).map passage) := by
  induction calls generalizing bucket with
  | nil => exact Run.nil
  | cons call calls ih =>
      have callSmall := small call List.mem_cons_self
      obtain ⟨laterAll, rest⟩ := List.pairwise_cons.mp ordered
      obtain ⟨laterRest, restOrdered⟩ := List.pairwise_cons.mp rest
      have later : bucket.lastLeakTime ≤ call.now :=
        laterAll call.now List.mem_cons_self
      have afterwards :
          Run bucket.capacity (bucket.checkSpeedLimit call).2.window
            (((bucket.checkSpeedLimit call).2.admitted calls).map
              passage) := by
        rw [← checkSpeedLimit_capacity bucket call]
        apply ih (bounded.checkSpeedLimit callSmall)
        · refine List.pairwise_cons.mpr ⟨?_, restOrdered⟩
          intro now member
          exact
            (checkSpeedLimit_lastLeakTime_le later).trans
              (laterRest now member)
        · exact fun other member =>
            small other (List.mem_cons_of_mem _ member)
      rw [admitted_cons]
      split
      next answer =>
        exact
          Run.cons (step_of_admitted bounded later callSmall answer)
            afterwards
      next answer =>
        have same := eq_of_refused (Bool.eq_false_of_not_eq_true answer)
        rw [same] at afterwards ⊢
        exact afterwards

/-! ## The rate -/

/-- The bytes which are admitted while the clock is in an interval of a number
of seconds.  One window more than there are seconds may meet it, and the one
which was open before it. -/
theorem admitted_le (maxBitesPerSecond : UInt64) (created : Int)
    (calls : List Call)
    (ordered : (created :: calls.map Call.now).Pairwise (· ≤ ·))
    (small : ∀ call ∈ calls, call.packetSize.toNat ≤ 65535)
    (start length : ℝ) :
    passed start (start + length)
        (((create maxBitesPerSecond created).admitted calls).map
          passage) ≤
      (⌊length⌋₊ + 2) *
        max (create maxBitesPerSecond created).maxBytesPerSecond.toNat
          65536 := by
  have run :=
    @run_admitted (create maxBitesPerSecond created) calls
      (bounded_create maxBitesPerSecond created) ordered small
  have bound := passed_le start (start + length) run
  rw [add_sub_cancel_left] at bound
  exact bound

/-- A limit of eight bytes a second; three packets, the second of which is
refused. -/
theorem admitted_le_small :
    passed (0 : ℝ) (0 + 1)
        (((create 64 0).admitted
          [⟨0, 5⟩, ⟨500000000, 3⟩, ⟨1000000000, 1400⟩]).map passage) ≤
      (⌊(1 : ℝ)⌋₊ + 2) *
        max (create 64 0).maxBytesPerSecond.toNat 65536 :=
  admitted_le 64 0 [⟨0, 5⟩, ⟨500000000, 3⟩, ⟨1000000000, 1400⟩]
    (by decide) (by decide) 0 1

/-! ## Accounting -/

/-- The bucket behind a history. -/
def after : LeakyBucket → List Call → LeakyBucket
  | bucket, [] => bucket
  | bucket, call :: calls => (bucket.checkSpeedLimit call).2.after calls

/-- The calls of a history which open a window.  Whether one does is a matter
of its time alone. -/
def opening (lastLeakTime : Int) : List Call → List Call
  | [] => []
  | call :: calls =>
      if (call.now - lastLeakTime).tdiv 1000000 < 1000 then
        opening lastLeakTime calls
      else
        call :: opening call.now calls

/-- The bytes of some calls, in a `std::size_t`. -/
def total (calls : List Call) : UInt64 :=
  (calls.map Call.packetSize).sum

/-- The bytes of some calls. -/
def bytes (calls : List Call) : Nat :=
  (calls.map fun call => call.packetSize.toNat).sum

@[simp]
theorem total_cons (call : Call) (calls : List Call) :
    total (call :: calls) = call.packetSize + total calls :=
  rfl

@[simp]
theorem bytes_cons (call : Call) (calls : List Call) :
    bytes (call :: calls) = call.packetSize.toNat + bytes calls :=
  rfl

theorem toNat_total (calls : List Call) :
    (total calls).toNat = bytes calls % 18446744073709551616 := by
  induction calls with
  | nil => rfl
  | cons call calls ih =>
      rw [total_cons, bytes_cons, UInt64.toNat_add, ih, Nat.add_mod_mod]

theorem toNat_total_of_lt {calls : List Call}
    (small : bytes calls < 18446744073709551616) :
    (total calls).toNat = bytes calls :=
  (toNat_total calls).trans (Nat.mod_eq_of_lt small)

theorem bytes_le_of_sublist {fewer calls : List Call}
    (sublist : fewer.Sublist calls) : bytes fewer ≤ bytes calls := by
  induction sublist with
  | slnil => exact Nat.le_refl 0
  | cons call _ ih => exact Nat.le_add_left_of_le ih
  | cons_cons call _ ih => exact Nat.add_le_add_left ih _

theorem bytes_eq_zero_iff {calls : List Call} :
    bytes calls = 0 ↔ ∀ call ∈ calls, call.packetSize = 0 := by
  induction calls with
  | nil => exact iff_of_true rfl (by simp)
  | cons call calls ih =>
      rw [bytes_cons, Nat.add_eq_zero_iff, ih, List.forall_mem_cons,
        ← UInt64.toNat_inj]
      rfl

theorem admitted_sublist (bucket : LeakyBucket) (calls : List Call) :
    (bucket.admitted calls).Sublist calls := by
  induction calls generalizing bucket with
  | nil => exact List.Sublist.slnil
  | cons call calls ih =>
      rw [admitted_cons]
      split
      · exact (ih _).cons_cons call
      · exact (ih _).cons call

/-- A packet which comes in time is counted if it is admitted. -/
theorem checkSpeedLimit_recent {bucket : LeakyBucket} {call : Call}
    (recent : bucket.elapsed call.now < 1000) :
    (bucket.checkSpeedLimit call).2.lastLeakTime =
        bucket.lastLeakTime ∧
      (bucket.checkSpeedLimit call).2.fullDataAmount =
        bucket.fullDataAmount +
          if (bucket.checkSpeedLimit call).1 then
            call.packetSize
          else
            0 := by
  rw [checkSpeedLimit, if_pos recent]
  split
  · exact ⟨rfl, rfl⟩
  · exact ⟨rfl, (UInt64.add_zero _).symm⟩

/-- A packet which opens a window is admitted without being counted. -/
theorem checkSpeedLimit_late {bucket : LeakyBucket} {call : Call}
    (late : ¬bucket.elapsed call.now < 1000) :
    bucket.checkSpeedLimit call =
      (true,
        { bucket with
          lastLeakTime := call.now
          currentAmount := call.packetSize }) := by
  rw [checkSpeedLimit, if_neg late]

theorem opening_cons (bucket : LeakyBucket) (call : Call)
    (calls : List Call) :
    opening bucket.lastLeakTime (call :: calls) =
      if bucket.elapsed call.now < 1000 then
        opening bucket.lastLeakTime calls
      else
        call :: opening call.now calls :=
  rfl

theorem opening_sublist (bucket : LeakyBucket) (calls : List Call) :
    (opening bucket.lastLeakTime calls).Sublist
      (bucket.admitted calls) := by
  induction calls generalizing bucket with
  | nil => exact List.Sublist.slnil
  | cons call calls ih =>
      have later := ih (bucket.checkSpeedLimit call).2
      rw [opening_cons, admitted_cons]
      by_cases recent : bucket.elapsed call.now < 1000
      · rw [(checkSpeedLimit_recent recent).1] at later
        rw [if_pos recent]
        split
        · exact later.cons call
        · exact later
      · rw [checkSpeedLimit_late recent] at later ⊢
        rw [if_neg recent, if_pos rfl]
        exact later.cons_cons call

/-- What is counted, together with the packets which opened a window, is what
was admitted. -/
theorem fullDataAmount_after (bucket : LeakyBucket) (calls : List Call) :
    (bucket.after calls).fullDataAmount +
        total (opening bucket.lastLeakTime calls) =
      bucket.fullDataAmount + total (bucket.admitted calls) := by
  induction calls generalizing bucket with
  | nil => rfl
  | cons call calls ih =>
      have later := ih (bucket.checkSpeedLimit call).2
      rw [after, opening_cons, admitted_cons]
      by_cases recent : bucket.elapsed call.now < 1000
      · obtain ⟨same, counted⟩ := checkSpeedLimit_recent recent
        rw [same, counted] at later
        rw [if_pos recent, later, UInt64.add_assoc]
        split
        · rw [total_cons]
        · rw [UInt64.zero_add]
      · rw [checkSpeedLimit_late recent] at later ⊢
        rw [if_neg recent, if_pos rfl, total_cons, total_cons,
          add_left_comm, later, add_left_comm]

end LeakyBucket

end Fptn.TrafficShaper
