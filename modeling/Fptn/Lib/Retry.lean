import Mathlib.Tactic.Common

/-!
# Attempts which are repeated

Something is attempted up to a number of times.  An attempt may end this with
a result; it changes a state in any case.  Which result there is depends on
the first attempt which has one.
-/

namespace Fptn.Retry

variable {State Result : Type}
  (attempt : Nat → State → Option Result × State)

/-- This many attempts at most, the first one with a number. -/
def retry : Nat → Nat → State → Option Result × State
  | 0, _, state => (none, state)
  | left + 1, number, state =>
      match attempt number state with
      | (some result, after) => (some result, after)
      | (none, after) => retry left (number + 1) after

/-- The state after some attempts. -/
def stateAfter (state : State) : Nat → State
  | 0 => state
  | count + 1 => (attempt count (stateAfter state count)).2

/-- The attempts before this one have had no result. -/
def Fruitless (state : State) (count : Nat) : Prop :=
  ∀ earlier < count,
    (attempt earlier (stateAfter attempt state earlier)).1 = none

variable {attempt} {state last : State} {result : Result}

theorem fruitless_succ {count : Nat} :
    Fruitless attempt state (count + 1) ↔
      Fruitless attempt state count ∧
        (attempt count (stateAfter attempt state count)).1 = none := by
  constructor
  · intro fruitless
    exact
      ⟨fun earlier before => fruitless earlier (Nat.lt_succ_of_lt before),
        fruitless count (Nat.lt_succ_self count)⟩
  · rintro ⟨fruitless, here⟩ earlier before
    rcases Nat.lt_succ_iff_lt_or_eq.mp before with less | rfl
    · exact fruitless earlier less
    · exact here

/-- Attempts without results are made, and the rest goes on behind them. -/
theorem retry_of_fruitless {count : Nat} (left : Nat)
    (fruitless : Fruitless attempt state count) :
    retry attempt (count + left) 0 state =
      retry attempt left count (stateAfter attempt state count) := by
  induction count generalizing left with
  | zero => rw [Nat.zero_add, stateAfter]
  | succ count ih =>
      obtain ⟨before, here⟩ := fruitless_succ.mp fruitless
      rw [Nat.succ_add_eq_add_succ, ih (left + 1) before, retry]
      split
      case h_1 found =>
        rw [found] at here
        cases here
      case h_2 next =>
        rw [stateAfter, next]

/-- The first attempt with a result is the last one. -/
theorem retry_of_result {count : Nat} (left : Nat)
    (fruitless : Fruitless attempt state count)
    (here : attempt count (stateAfter attempt state count) =
      (some result, last)) :
    retry attempt (count + (left + 1)) 0 state = (some result, last) := by
  rw [retry_of_fruitless _ fruitless, retry, here]

/-- Either none of some attempts has a result, or one is the first. -/
theorem fruitless_or_first (attempt : Nat → State → Option Result × State)
    (state : State) (most : Nat) :
    Fruitless attempt state most ∨
      ∃ count < most, Fruitless attempt state count ∧
        ∃ result last, attempt count (stateAfter attempt state count) =
          (some result, last) := by
  induction most with
  | zero => exact Or.inl fun earlier before => by cases before
  | succ most ih =>
      rcases ih with before | ⟨count, within, first⟩
      · rcases here : attempt most (stateAfter attempt state most) with
          ⟨_ | result, last⟩
        · refine Or.inl (fruitless_succ.mpr ⟨before, ?_⟩)
          rw [here]
        · exact
            Or.inr ⟨most, Nat.lt_succ_self most, before, result, last, here⟩
      · exact Or.inr ⟨count, Nat.lt_succ_of_lt within, first⟩

theorem retry_all {most : Nat} (fruitless : Fruitless attempt state most) :
    retry attempt most 0 state = (none, stateAfter attempt state most) := by
  have all := retry_of_fruitless 0 fruitless
  rwa [Nat.add_zero, retry] at all

/-- There is a result exactly if one of the attempts is the first to have
it. -/
theorem retry_eq_some_iff {most : Nat} :
    retry attempt most 0 state = (some result, last) ↔
      ∃ count < most, Fruitless attempt state count ∧
        attempt count (stateAfter attempt state count) =
          (some result, last) := by
  constructor
  · intro ended
    rcases fruitless_or_first attempt state most with
      all | ⟨count, within, before, other, after, here⟩
    · rw [retry_all all] at ended
      cases ended
    · obtain ⟨left, rfl⟩ := Nat.exists_eq_add_of_lt within
      have same := retry_of_result left before here
      rw [← Nat.add_assoc, ended] at same
      exact ⟨count, within, before, here.trans same.symm⟩
  · rintro ⟨count, within, fruitless, here⟩
    obtain ⟨left, rfl⟩ := Nat.exists_eq_add_of_lt within
    exact retry_of_result left fruitless here

/-- Otherwise all attempts have been made. -/
theorem retry_eq_none_iff {most : Nat} :
    retry attempt most 0 state = (none, last) ↔
      Fruitless attempt state most ∧ stateAfter attempt state most = last := by
  constructor
  · intro ended
    rcases fruitless_or_first attempt state most with
      all | ⟨count, within, before, other, after, here⟩
    · rw [retry_all all] at ended
      exact ⟨all, (Prod.mk.inj ended).2⟩
    · have found := retry_eq_some_iff.mpr ⟨count, within, before, here⟩
      rw [ended] at found
      cases found
  · rintro ⟨fruitless, rfl⟩
    exact retry_all fruitless

end Fptn.Retry
