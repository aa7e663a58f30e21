import Mathlib.Algebra.Order.Floor.Semiring
import Mathlib.Tactic.Common
import Mathlib.Tactic.Linarith
import Mathlib.Tactic.Ring

/-!
# Limiting a rate by windows

A limiter which opens a window when something arrives after the last window
is over, and lets through no more than a capacity in each of them.  Times are
counted in lengths of a window.  The windows are not those of a fixed grid, so
an interval may meet one more of them than its length suggests, and one which
was opened before it.

The bound on what passes during an interval is that of a potential: what may
still pass during it from a window on.  Each passage is paid for by it.
-/

namespace Fptn.RateWindow

section Windows

variable {Time : Type} [LinearOrder Time]

/-- The window which is open, and what it has let through. -/
structure Window (Time : Type) where
  opened : Time
  amount : Nat

/-- An arrival, and how much of it is let through. -/
structure Passage (Time : Type) where
  time : Time
  amount : Nat

/-- What passes between two moments, both of them counted. -/
def passed (first last : Time) (passages : List (Passage Time)) : Nat :=
  ((passages.filter fun passage =>
    decide (first ≤ passage.time ∧ passage.time ≤ last)).map
      Passage.amount).sum

@[simp]
theorem passed_nil (first last : Time) : passed first last [] = 0 :=
  rfl

theorem passed_cons (first last : Time) (passage : Passage Time)
    (passages : List (Passage Time)) :
    passed first last (passage :: passages) =
      (if first ≤ passage.time ∧ passage.time ≤ last
        then passage.amount else 0) + passed first last passages := by
  by_cases inside : first ≤ passage.time ∧ passage.time ≤ last <;>
    simp [passed, inside]

theorem passed_eq_zero {first last : Time} (empty : last < first)
    (passages : List (Passage Time)) : passed first last passages = 0 := by
  induction passages with
  | nil => rfl
  | cons passage passages ih =>
      have outside : ¬(first ≤ passage.time ∧ passage.time ≤ last) :=
        fun inside =>
          absurd (inside.1.trans inside.2) (not_le.mpr empty)
      rw [passed_cons, if_neg outside, ih]

/-! ## Steps -/

variable [Field Time]

/-- An arrival passes the window which is open, or opens the next one. -/
inductive Step (capacity : Nat) :
    Window Time → Passage Time → Window Time → Prop
  | stay {window : Window Time} {passage : Passage Time}
      (later : window.opened ≤ passage.time)
      (open_ : passage.time < window.opened + 1)
      (fits : window.amount + passage.amount ≤ capacity) :
      Step capacity window passage
        ⟨window.opened, window.amount + passage.amount⟩
  | next {window : Window Time} {passage : Passage Time}
      (closed : window.opened + 1 ≤ passage.time)
      (fits : passage.amount ≤ capacity) :
      Step capacity window passage ⟨passage.time, passage.amount⟩

/-- The passages of a history, in their order. -/
inductive Run (capacity : Nat) : Window Time → List (Passage Time) → Prop
  | nil {window : Window Time} : Run capacity window []
  | cons {window next : Window Time} {passage : Passage Time}
      {passages : List (Passage Time)}
      (step : Step capacity window passage next)
      (rest : Run capacity next passages) :
      Run capacity window (passage :: passages)

/-! ## The potential -/

variable [FloorSemiring Time]

/-- How many windows may still be opened between two moments. -/
def windowsLeft (first last opened : Time) : Nat :=
  ⌊last + 1 - max (opened + 1) first⌋₊

/-- What may still pass between two moments. -/
def potential (capacity : Nat) (first last : Time)
    (window : Window Time) : Nat :=
  if last < window.opened then 0
  else
    (if window.opened + 1 < first then capacity
      else capacity - window.amount) +
        capacity * windowsLeft first last window.opened

/-- A passage in the window which is open takes from what that still has. -/
theorem potential_le_of_stay {capacity : Nat} {first last : Time}
    {window : Window Time} {passage : Passage Time}
    (open_ : passage.time < window.opened + 1)
    (later : window.opened ≤ passage.time)
    (fits : window.amount + passage.amount ≤ capacity) :
    (if first ≤ passage.time ∧ passage.time ≤ last
        then passage.amount else 0) +
      potential capacity first last
        ⟨window.opened, window.amount + passage.amount⟩ ≤
      potential capacity first last window := by
  simp only [potential]
  by_cases over_ : last < window.opened
  · have outside : ¬(first ≤ passage.time ∧ passage.time ≤ last) :=
      fun inside => absurd (later.trans inside.2) (not_le.mpr over_)
    simp only [if_pos over_, if_neg outside, Nat.zero_add, le_refl]
  · simp only [if_neg over_]
    by_cases before : window.opened + 1 < first
    · have outside : ¬(first ≤ passage.time ∧ passage.time ≤ last) :=
        fun inside =>
          absurd (before.trans_le inside.1) (not_lt.mpr open_.le)
      simp only [if_pos before, if_neg outside, Nat.zero_add, le_refl]
    · simp only [if_neg before]
      split <;> omega

variable [IsStrictOrderedRing Time]

theorem windowsLeft_antitone (first last : Time) :
    Antitone (windowsLeft first last) := by
  intro earlier later ordered
  apply Nat.floor_mono
  have : max (earlier + 1) first ≤ max (later + 1) first :=
    max_le_max (by linarith) le_rfl
  linarith

/-- A window which is opened inside the interval is one of those left. -/
theorem windowsLeft_succ_le {first last opened time : Time}
    (closed : opened + 1 ≤ time)
    (later : first ≤ time) (sooner : time ≤ last) :
    windowsLeft first last time + 1 ≤ windowsLeft first last opened := by
  have here : windowsLeft first last time = ⌊last - time⌋₊ := by
    rw [windowsLeft, max_eq_left (by linarith)]
    ring_nf
  rw [here, ← Nat.floor_add_one (by linarith)]
  apply Nat.floor_mono
  have : max (opened + 1) first ≤ time := max_le closed later
  linarith

theorem windowsLeft_le (first last opened : Time)
    (ordered : first ≤ last) :
    windowsLeft first last opened ≤ ⌊last - first⌋₊ + 1 := by
  rw [← Nat.floor_add_one (by linarith)]
  apply Nat.floor_mono
  have : first ≤ max (opened + 1) first := le_max_right _ _
  linarith

/-- At most one window more than fit, and the one which is open. -/
theorem potential_le (capacity : Nat) (first last : Time)
    (window : Window Time) (ordered : first ≤ last) :
    potential capacity first last window ≤
      (⌊last - first⌋₊ + 2) * capacity := by
  have left := windowsLeft_le first last window.opened ordered
  have windows :
      capacity * windowsLeft first last window.opened ≤
        capacity * (⌊last - first⌋₊ + 1) :=
    Nat.mul_le_mul_left capacity left
  have total :
      (⌊last - first⌋₊ + 2) * capacity =
        capacity + capacity * (⌊last - first⌋₊ + 1) := by
    ring
  rw [potential, total]
  split
  · exact Nat.zero_le _
  · split
    · exact Nat.add_le_add_left windows capacity
    · exact Nat.add_le_add (Nat.sub_le _ _) windows

/-! ## What passes is paid for -/

theorem potential_le_of_next {capacity : Nat} {first last : Time}
    {window : Window Time} {passage : Passage Time}
    (closed : window.opened + 1 ≤ passage.time)
    (fits : passage.amount ≤ capacity) :
    (if first ≤ passage.time ∧ passage.time ≤ last
        then passage.amount else 0) +
      potential capacity first last ⟨passage.time, passage.amount⟩ ≤
      potential capacity first last window := by
  by_cases late : last < passage.time
  · have outside : ¬(first ≤ passage.time ∧ passage.time ≤ last) :=
      fun inside => absurd inside.2 (not_le.mpr late)
    simp only [potential, if_pos late, if_neg outside]
    exact Nat.zero_le _
  have sooner : passage.time ≤ last := not_lt.mp late
  have started : ¬last < window.opened := by
    apply not_lt.mpr
    linarith
  simp only [potential, if_neg late, if_neg started]
  by_cases inside : first ≤ passage.time
  · have notBefore : ¬passage.time + 1 < first := by
      apply not_lt.mpr
      linarith
    have left :
        capacity * (windowsLeft first last passage.time + 1) ≤
          capacity * windowsLeft first last window.opened :=
      Nat.mul_le_mul_left capacity
        (windowsLeft_succ_le closed inside sooner)
    rw [Nat.mul_add, Nat.mul_one] at left
    simp only [if_pos (And.intro inside sooner), if_neg notBefore]
    omega
  · have before : window.opened + 1 < first :=
      closed.trans_lt (not_le.mp inside)
    have left :
        capacity * windowsLeft first last passage.time ≤
          capacity * windowsLeft first last window.opened :=
      Nat.mul_le_mul_left capacity
        (windowsLeft_antitone first last (by linarith))
    have outside : ¬(first ≤ passage.time ∧ passage.time ≤ last) :=
      fun both => inside both.1
    simp only [if_pos before, if_neg outside]
    split <;> omega

/-- Each step takes from the potential what it lets through. -/
theorem step_le {capacity : Nat} (first last : Time)
    {window next : Window Time} {passage : Passage Time}
    (step : Step capacity window passage next) :
    (if first ≤ passage.time ∧ passage.time ≤ last
        then passage.amount else 0) +
      potential capacity first last next ≤
      potential capacity first last window := by
  cases step with
  | stay later open_ fits => exact potential_le_of_stay open_ later fits
  | next closed fits => exact potential_le_of_next closed fits

theorem passed_le_potential {capacity : Nat} (first last : Time)
    {window : Window Time} {passages : List (Passage Time)}
    (run : Run capacity window passages) :
    passed first last passages ≤ potential capacity first last window := by
  induction run with
  | nil => exact Nat.zero_le _
  | cons step _ ih =>
      rw [passed_cons]
      exact (Nat.add_le_add_left ih _).trans (step_le first last step)

/-- During an interval no more passes than two windows let through, and one
for each length of a window which is in it. -/
theorem passed_le {capacity : Nat} (first last : Time)
    {window : Window Time} {passages : List (Passage Time)}
    (run : Run capacity window passages) :
    passed first last passages ≤ (⌊last - first⌋₊ + 2) * capacity := by
  rcases le_or_gt first last with ordered | empty
  · exact
      (passed_le_potential first last run).trans
        (potential_le capacity first last window ordered)
  · rw [passed_eq_zero empty]
    exact Nat.zero_le _

end Windows

end Fptn.RateWindow
