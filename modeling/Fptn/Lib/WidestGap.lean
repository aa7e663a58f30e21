import Mathlib.Algebra.Order.Ring.Int
import Mathlib.Tactic.Common

/-!
# The middle of the widest gap

A walk over increasing points, from zero on, which keeps the widest gap
between neighbours so far and the middle of it.  The middle is half of the gap
away from every point, and the gap is not narrower than the gaps are on
average.
-/

namespace Fptn.WidestGap

/-- What is known of the gap between points up to the last one. -/
structure Middle (points : List Int) (last widest middle : Int) :
    Prop where
  low : widest / 2 ≤ middle
  high : middle + widest / 2 ≤ last
  apart : ∀ point ∈ points, widest / 2 ≤ (middle - point).natAbs
  below : ∀ point ∈ points, point ≤ last
  wide : last ≤ points.length * widest

variable {points : List Int} {first last next widest middle : Int}

theorem Middle.start (positive : 0 ≤ first) :
    Middle [first] first first (first / 2) where
  low := le_refl _
  high := by omega
  apart := by
    intro point member
    obtain rfl := List.mem_singleton.mp member
    omega
  below := by
    intro point member
    exact (List.mem_singleton.mp member).le
  wide := by
    rw [List.length_singleton, Int.natCast_one, Int.one_mul]

/-- A point which opens no wider gap. -/
theorem Middle.keep (known : Middle points last widest middle)
    (increasing : last ≤ next) (narrow : next - last ≤ widest) :
    Middle (points ++ [next]) next widest middle where
  low := known.low
  high := known.high.trans increasing
  apart := by
    intro point member
    rcases List.mem_append.mp member with old | new
    · exact known.apart point old
    · obtain rfl := List.mem_singleton.mp new
      have high := known.high
      omega
  below := by
    intro point member
    rcases List.mem_append.mp member with old | new
    · exact (known.below point old).trans increasing
    · exact (List.mem_singleton.mp new).le
  wide := by
    have wide := known.wide
    rw [List.length_append, List.length_singleton, Int.natCast_add,
      Int.natCast_one, Int.add_mul, Int.one_mul]
    omega

/-- A point which opens a wider gap. -/
theorem Middle.widen (known : Middle points last widest middle)
    (positive : 0 ≤ last) (wider : widest < next - last)
    (room : 0 ≤ next - last) :
    Middle (points ++ [next]) next (next - last)
      (last + (next - last) / 2) where
  low := by omega
  high := by omega
  apart := by
    intro point member
    rcases List.mem_append.mp member with old | new
    · have below := known.below point old
      omega
    · obtain rfl := List.mem_singleton.mp new
      omega
  below := by
    intro point member
    rcases List.mem_append.mp member with old | new
    · have below := known.below point old
      omega
    · exact (List.mem_singleton.mp new).le
  wide := by
    have grown : (points.length : Int) * widest ≤
        points.length * (next - last) :=
      Int.mul_le_mul_of_nonneg_left wider.le (Int.natCast_nonneg _)
    have wide := known.wide
    rw [List.length_append, List.length_singleton, Int.natCast_add,
      Int.natCast_one, Int.add_mul, Int.one_mul]
    omega

/-- The gap is not narrower than a share of the whole. -/
theorem Middle.share_le {count total : Int}
    (known : Middle points last widest middle) (positive : 0 < count)
    (few : (points.length : Int) ≤ count) (notNegative : 0 ≤ widest)
    (far : total ≤ last) : total / count ≤ widest := by
  refine Int.ediv_le_of_le_mul positive ?_
  calc total ≤ last := far
    _ ≤ points.length * widest := known.wide
    _ ≤ count * widest := Int.mul_le_mul_of_nonneg_right few notNegative
    _ = widest * count := Int.mul_comm count widest

end Fptn.WidestGap
