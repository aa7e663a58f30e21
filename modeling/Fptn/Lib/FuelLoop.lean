import Mathlib.Tactic.Common

/-!
# Loops which need not end

A loop whose body ends it with a result or goes on from another state, run
for a number of rounds.  It ends if a measure gets smaller in every round, and
it does not end if it stays among states from which it goes on.
-/

namespace Fptn.FuelLoop

variable {State Result : Type} (body : State → Result ⊕ State)

/-- The result of a loop, if it has one after this many rounds. -/
def loop : Nat → State → Option Result
  | 0, _ => none
  | rounds + 1, state =>
      match body state with
      | .inl result => some result
      | .inr next => loop rounds next

/-- Whether a loop has a result after some number of rounds. -/
def Ends (state : State) : Prop :=
  ∃ rounds result, loop body rounds state = some result

variable {body}

theorem ends_of_result {state : State} {result : Result}
    (done : body state = .inl result) : Ends body state := by
  refine ⟨1, result, ?_⟩
  rw [loop, done]

theorem ends_of_next {state next : State} (more : body state = .inr next)
    (ends : Ends body next) : Ends body state := by
  obtain ⟨rounds, result, reached⟩ := ends
  refine ⟨rounds + 1, result, ?_⟩
  rw [loop, more]
  exact reached

/-- A loop ends if each round which goes on makes a measure smaller. -/
theorem ends_of_measure {invariant : State → Prop}
    (measure : State → Nat)
    (smaller : ∀ state next, invariant state → body state = .inr next →
      invariant next ∧ measure next < measure state)
    (state : State) (start : invariant state) : Ends body state := by
  induction size : measure state using Nat.strongRecOn
    generalizing state with
  | ind size ih =>
      cases round : body state with
      | inl result => exact ends_of_result round
      | inr next =>
          obtain ⟨kept, less⟩ := smaller state next start round
          rw [size] at less
          exact ends_of_next round (ih _ less next kept rfl)

/-- A loop which stays among states from which it goes on does not end. -/
theorem not_ends_of_invariant {invariant : State → Prop}
    (goesOn : ∀ state, invariant state →
      ∃ next, body state = .inr next ∧ invariant next)
    {state : State} (start : invariant state) : ¬ Ends body state := by
  rintro ⟨rounds, result, reached⟩
  induction rounds generalizing state with
  | zero => cases reached
  | succ rounds ih =>
      obtain ⟨next, more, kept⟩ := goesOn state start
      rw [loop, more] at reached
      exact ih kept reached

end Fptn.FuelLoop
