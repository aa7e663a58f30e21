import Mathlib.Tactic.Common

/-!
# Calls which may throw

A call reads and changes a state, and either returns or throws.  What it has
stored before it throws stays, also when the exception is caught.

A statement throws at a point before it takes effect, or not at all.  A list
of statements ends with the first one which throws, and leaves behind what the
statements before it have stored.
-/

namespace Fptn.Throwing

variable {Point State α β : Type}

/-- A call which throws at one of the points. -/
abbrev Call (Point State α : Type) := ExceptT Point (StateM State) α

/-- The value or the point of the exception, and the state left behind. -/
def ends (call : Call Point State α) (state : State) :
    Except Point α × State :=
  call.run state

/-- A statement which throws before it takes effect. -/
def attempt (throws : Point → Bool) (point : Point)
    (effect : State → State) : Call Point State Unit :=
  if throws point then throw point else modify effect

/-- One statement after the other. -/
def attemptAll (throws : Point → Bool) :
    List (Point × (State → State)) → Call Point State Unit
  | [] => pure ()
  | statement :: rest => do
      attempt throws statement.1 statement.2
      attemptAll throws rest

/-- What statements which do not throw make of a state. -/
def applyAll (statements : List (Point × (State → State)))
    (state : State) : State :=
  statements.foldl (fun state statement => statement.2 state) state

/-! ## Ends of calls -/

section Ends

variable (state : State)

theorem ends_pure (value : α) :
    ends (pure value : Call Point State α) state = (.ok value, state) :=
  rfl

theorem ends_get :
    ends (get : Call Point State State) state = (.ok state, state) :=
  rfl

theorem ends_modify (effect : State → State) :
    ends (modify effect : Call Point State Unit) state =
      (.ok (), effect state) :=
  rfl

theorem ends_bind (call : Call Point State α)
    (next : α → Call Point State β) :
    ends (call >>= next) state =
      match ends call state with
      | (.ok value, after) => ends (next value) after
      | (.error point, after) => (.error point, after) := by
  show ExceptT.bindCont next (call.run state).1 (call.run state).2 = _
  rw [ends]
  rcases call.run state with ⟨_ | _, after⟩
  · rfl
  · rfl

theorem ends_tryCatch (call : Call Point State α)
    (handler : Point → Call Point State α) :
    ends (tryCatch call handler) state =
      match ends call state with
      | (.ok value, after) => (.ok value, after)
      | (.error point, after) => ends (handler point) after := by
  have caught :
      ends (tryCatch call handler) state =
        (match (call.run state).1 with
          | .ok value => (pure (.ok value) : StateM State (Except Point α))
          | .error point => (handler point).run) (call.run state).2 :=
    rfl
  rw [caught, ends]
  rcases call.run state with ⟨_ | _, after⟩
  · rfl
  · rfl

theorem ends_attempt (throws : Point → Bool) (point : Point)
    (effect : State → State) :
    ends (attempt throws point effect) state =
      if throws point then
        (.error point, state)
      else
        (.ok (), effect state) := by
  rw [attempt]
  split
  · rfl
  · rfl

theorem ends_get_bind (next : State → Call Point State β) :
    ends (get >>= next) state = ends (next state) state := by
  rw [ends_bind, ends_get]

variable {state}

/-- What returns has returned from each of its parts. -/
theorem ends_bind_eq_ok {call : Call Point State α}
    {next : α → Call Point State β} {result : β} {after : State} :
    ends (call >>= next) state = (.ok result, after) ↔
      ∃ value middle, ends call state = (.ok value, middle) ∧
        ends (next value) middle = (.ok result, after) := by
  rw [ends_bind]
  rcases ends call state with ⟨point | value, middle⟩
  · constructor
    · intro impossible
      cases impossible
    · rintro ⟨_, _, impossible, -⟩
      cases impossible
  · constructor
    · intro returned
      exact ⟨value, middle, rfl, returned⟩
    · rintro ⟨_, _, same, returned⟩
      cases same
      exact returned

theorem ends_pure_eq_ok {value result : α} {after : State} :
    ends (pure value : Call Point State α) state = (.ok result, after) ↔
      value = result ∧ state = after := by
  rw [ends_pure, Prod.mk.injEq, Except.ok.injEq]

end Ends

/-! ## Statements in a row -/

section Statements

variable {throws : Point → Bool}
  {statements : List (Point × (State → State))} {state : State}

/-- The first statement which throws ends all of them. -/
theorem ends_attemptAll :
    ends (attemptAll throws statements) state =
      match statements.find? fun statement => throws statement.1 with
      | none => (.ok (), applyAll statements state)
      | some statement =>
          (.error statement.1,
            applyAll
              (statements.takeWhile fun statement => !throws statement.1)
              state) := by
  induction statements generalizing state with
  | nil => rfl
  | cons statement rest ih =>
      rw [attemptAll, ends_bind, ends_attempt]
      cases thrown : throws statement.1 with
      | true => simp [thrown, applyAll]
      | false =>
          simp only [thrown, Bool.false_eq_true, if_false, List.find?_cons,
            List.takeWhile_cons, Bool.not_false, if_true]
          exact ih

theorem applyAll_cons (statement : Point × (State → State)) :
    applyAll (statement :: statements) state =
      applyAll statements (statement.2 state) :=
  rfl

/-- What each statement keeps, some of them keep as well. -/
theorem applyAll_keeps {Keeps : State → Prop}
    (kept : ∀ statement ∈ statements, ∀ state,
      Keeps state → Keeps (statement.2 state))
    (here : Keeps state) : Keeps (applyAll statements state) := by
  induction statements generalizing state with
  | nil => exact here
  | cons statement rest ih =>
      exact ih
        (fun other member => kept other (List.mem_cons_of_mem _ member))
        (kept statement List.mem_cons_self state here)

end Statements

end Fptn.Throwing
