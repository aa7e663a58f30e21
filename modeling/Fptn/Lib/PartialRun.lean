import Mathlib.Tactic.Common

/-!
# Runs of partial transition functions

A transition function which may refuse a label, and the state reached by a
list of labels.  A property which holds at the start and is preserved by every
accepted step holds at the end; `run_invariant_of` also lets each step be
restricted by a condition on the state and label it starts from.
-/

namespace Fptn.PartialRun

variable {State Label : Type}

/-- The state reached by a list of labels, if all of them are accepted. -/
def run (step : State → Label → Option State) :
    State → List Label → Option State
  | state, [] => some state
  | state, label :: labels =>
      match step state label with
      | none => none
      | some next => run step next labels

/-- Every step of the run starts from a state and label as required. -/
def Along (step : State → Label → Option State)
    (condition : State → Label → Prop) :
    State → List Label → Prop
  | _, [] => True
  | state, label :: labels =>
      condition state label ∧
        ∀ next, step state label = some next →
          Along step condition next labels

instance Along.decidable {step : State → Label → Option State}
    {condition : State → Label → Prop}
    [∀ state label, Decidable (condition state label)] (state : State) :
    (labels : List Label) → Decidable (Along step condition state labels)
  | [] => inferInstanceAs (Decidable True)
  | label :: labels =>
      match taken : step state label with
      | none =>
          decidable_of_iff (condition state label)
            ⟨fun here => ⟨here, fun _ other => by simp [taken] at other⟩,
              And.left⟩
      | some next =>
          have := @Along.decidable step condition _ next labels
          decidable_of_iff
            (condition state label ∧ Along step condition next labels)
            (and_congr_right fun _ =>
              ⟨fun rest _ other =>
                Option.some.inj (taken.symm.trans other) ▸ rest,
                fun rest => rest next taken⟩)

variable {step : State → Label → Option State}

theorem run_cons_eq_some {state last : State} {label : Label}
    {labels : List Label} :
    run step state (label :: labels) = some last ↔
      ∃ next, step state label = some next ∧
        run step next labels = some last := by
  rw [run]
  cases taken : step state label with
  | none => simp
  | some next => simp

/-- A run of two lists of labels, one after the other. -/
theorem run_append {state middle : State} {first second : List Label}
    (reached : run step state first = some middle) :
    run step state (first ++ second) = run step middle second := by
  induction first generalizing state with
  | nil =>
      obtain rfl := Option.some.inj reached
      rfl
  | cons label labels ih =>
      obtain ⟨next, taken, rest⟩ := run_cons_eq_some.mp reached
      rw [List.cons_append, run, taken]
      exact ih rest

theorem Along.of_append {condition : State → Label → Prop}
    {state middle : State} {first second : List Label}
    (along : Along step condition state (first ++ second))
    (reached : run step state first = some middle) :
    Along step condition middle second := by
  induction first generalizing state with
  | nil =>
      obtain rfl := Option.some.inj reached
      exact along
  | cons label labels ih =>
      obtain ⟨next, taken, rest⟩ := run_cons_eq_some.mp reached
      exact ih (along.2 next taken) rest

/-- A run's condition, one accepted step at a time. -/
theorem along_cons {condition : State → Label → Prop} {state next : State}
    {label : Label} {labels : List Label}
    (taken : step state label = some next)
    (here : condition state label)
    (rest : Along step condition next labels) :
    Along step condition state (label :: labels) := by
  refine ⟨here, fun other otherTaken => ?_⟩
  obtain rfl := Option.some.inj (taken.symm.trans otherTaken)
  exact rest

/-- A condition on the labels alone. -/
theorem along_of_forall {condition : Label → Prop} {state : State}
    {labels : List Label} (all : ∀ label ∈ labels, condition label) :
    Along step (fun _ label => condition label) state labels := by
  induction labels generalizing state with
  | nil => trivial
  | cons label labels ih =>
      exact
        ⟨all label List.mem_cons_self, fun _ _ =>
          ih fun other member => all other (List.mem_cons_of_mem _ member)⟩

/-- A run which meets a condition meets a weaker one. -/
theorem Along.mono {condition weaker : State → Label → Prop}
    (weakens : ∀ state label, condition state label → weaker state label)
    {state : State} {labels : List Label}
    (along : Along step condition state labels) :
    Along step weaker state labels := by
  induction labels generalizing state with
  | nil => trivial
  | cons label labels ih =>
      exact
        ⟨weakens state label along.1, fun next taken =>
          ih (along.2 next taken)⟩

/-- An invariant of all steps which meet a condition. -/
theorem run_invariant_of
    {condition : State → Label → Prop} {invariant : State → Prop}
    (preserved : ∀ state label next,
      invariant state → condition state label →
        step state label = some next → invariant next)
    {state last : State} {labels : List Label}
    (start : invariant state)
    (along : Along step condition state labels)
    (reached : run step state labels = some last) :
    invariant last := by
  induction labels generalizing state with
  | nil =>
      obtain rfl := Option.some.inj reached
      exact start
  | cons label labels ih =>
      obtain ⟨next, taken, rest⟩ := run_cons_eq_some.mp reached
      exact
        ih (preserved state label next start along.1 taken)
          (along.2 next taken) rest

/-- What an invariant says of each step which meets a condition holds all
along the run. -/
theorem run_property_of
    {condition property : State → Label → Prop} {invariant : State → Prop}
    (preserved : ∀ state label next,
      invariant state → condition state label →
        step state label = some next →
          property state label ∧ invariant next)
    {state last : State} {labels : List Label}
    (start : invariant state)
    (along : Along step condition state labels)
    (reached : run step state labels = some last) :
    Along step property state labels ∧ invariant last := by
  induction labels generalizing state with
  | nil =>
      obtain rfl := Option.some.inj reached
      exact ⟨trivial, start⟩
  | cons label labels ih =>
      obtain ⟨next, taken, rest⟩ := run_cons_eq_some.mp reached
      obtain ⟨here, kept⟩ :=
        preserved state label next start along.1 taken
      obtain ⟨later, end_⟩ := ih kept (along.2 next taken) rest
      exact ⟨along_cons taken here later, end_⟩

/-- An invariant of all steps. -/
theorem run_invariant {invariant : State → Prop}
    (preserved : ∀ state label next,
      invariant state → step state label = some next → invariant next)
    {state last : State} {labels : List Label}
    (start : invariant state)
    (reached : run step state labels = some last) :
    invariant last := by
  induction labels generalizing state with
  | nil =>
      obtain rfl := Option.some.inj reached
      exact start
  | cons label labels ih =>
      obtain ⟨next, taken, rest⟩ := run_cons_eq_some.mp reached
      exact ih (preserved state label next start taken) rest

/-- A run stays in the good states exactly if its steps meet a condition,
where this is so of each single step. -/
theorem run_along_iff
    {condition : State → Label → Prop} {invariant good : State → Prop}
    (preserved : ∀ state label next,
      invariant state → step state label = some next → invariant next)
    (exact_ : ∀ state label next,
      invariant state → good state → step state label = some next →
        (good next ↔ condition state label))
    {state last : State} {labels : List Label}
    (start : invariant state) (startGood : good state)
    (reached : run step state labels = some last) :
    Along step (fun visited _ => good visited) state labels ∧ good last ↔
      Along step condition state labels := by
  induction labels generalizing state with
  | nil =>
      obtain rfl := Option.some.inj reached
      exact ⟨fun _ => trivial, fun _ => ⟨trivial, startGood⟩⟩
  | cons label labels ih =>
      obtain ⟨next, taken, rest⟩ := run_cons_eq_some.mp reached
      have step_ := exact_ state label next start startGood taken
      have later (nextGood : good next) :=
        ih (preserved state label next start taken) nextGood rest
      constructor
      · rintro ⟨⟨-, along⟩, lastGood⟩
        have nextGood : good next := by
          cases labels with
          | nil =>
              obtain rfl := Option.some.inj rest
              exact lastGood
          | cons other others => exact (along next taken).1
        exact
          along_cons taken (step_.mp nextGood)
            ((later nextGood).mp ⟨along next taken, lastGood⟩)
      · rintro ⟨here, along⟩
        obtain ⟨visited, lastGood⟩ :=
          (later (step_.mpr here)).mpr (along next taken)
        exact ⟨along_cons taken startGood visited, lastGood⟩

end Fptn.PartialRun
