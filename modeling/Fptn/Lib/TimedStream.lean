import Mathlib.Tactic.Common

/-!
# Streams which arrive in pieces

The pieces of a stream, each some time after the one before, and the end of
the stream or an error.  What has been received can only grow.
-/

namespace Fptn.TimedStream

inductive Ending where
  | eof
  | error
deriving DecidableEq

/-- What arrives next, and how long after the one before. -/
inductive Arrival (α : Type) where
  | piece (after : Nat) (elements : List α)
  | ending (after : Nat) (how : Ending)

variable {α : Type}

/-- All that has arrived by some time; nothing follows an ending. -/
def received : List (Arrival α) → Nat → List α
  | [], _ => []
  | .piece after elements :: later, now =>
      if now < after then [] else elements ++ received later (now - after)
  | .ending _ _ :: _, _ => []

def ended : List (Arrival α) → Nat → Option Ending
  | [], _ => none
  | .piece after _ :: later, now =>
      if now < after then none else ended later (now - after)
  | .ending after how :: _, now =>
      if now < after then none else some how

variable {arrivals : List (Arrival α)} {early late : Nat}

theorem received_grows (order : early ≤ late) :
    received arrivals early <+: received arrivals late := by
  induction arrivals generalizing early late with
  | nil => exact List.prefix_rfl
  | cons first later ih =>
      cases first with
      | ending after how => exact List.prefix_rfl
      | piece after elements =>
          rw [received, received]
          by_cases soon : early < after
          · rw [if_pos soon]
            exact List.nil_prefix
          · have alsoLate : ¬ late < after := by omega
            rw [if_neg soon, if_neg alsoLate]
            exact
              (List.prefix_append_right_inj elements).mpr
                (ih (Nat.sub_le_sub_right order after))

end Fptn.TimedStream
