import Mathlib.Control.Monad.Writer
import Mathlib.Tactic.Common

/-!
# Programs which log events

Straight-line code which records what it does next to what it computes: bytes
read, arithmetic carried out.  `Every` states that all recorded events of a
program satisfy a condition.  It distributes over sequential composition, in
both directions, so a condition on the whole log can be read off the program
text and, conversely, a violated event is never hidden by what follows it.
-/

namespace Fptn.EventLog

/-- Programs with a log of events. -/
abbrev Logged (ε : Type) := Writer (List ε)

variable {ε α β : Type}

def record (event : ε) : Logged ε Unit := tell [event]

/-- The result of a program. -/
def value (program : Logged ε α) : α := (Id.run program.run).1

/-- The events of a program, in order. -/
def events (program : Logged ε α) : List ε := (Id.run program.run).2

@[simp]
theorem value_pure (result : α) :
    value (pure result : Logged ε α) = result :=
  rfl

@[simp]
theorem events_pure (result : α) :
    events (pure result : Logged ε α) = [] :=
  rfl

@[simp]
theorem value_bind (first : Logged ε α) (next : α → Logged ε β) :
    value (first >>= next) = value (next (value first)) :=
  rfl

@[simp]
theorem events_bind (first : Logged ε α) (next : α → Logged ε β) :
    events (first >>= next) =
      events first ++ events (next (value first)) :=
  rfl

@[simp]
theorem value_record (event : ε) : value (record event) = () :=
  rfl

@[simp]
theorem events_record (event : ε) : events (record event) = [event] :=
  rfl

/-- Every recorded event satisfies the condition. -/
def Every (holds : ε → Prop) (program : Logged ε α) : Prop :=
  ∀ event ∈ events program, holds event

variable {holds : ε → Prop}

@[simp]
theorem every_pure (result : α) :
    Every holds (pure result : Logged ε α) ↔ True := by
  simp [Every]

@[simp]
theorem every_record (event : ε) :
    Every holds (record event) ↔ holds event := by
  simp [Every]

theorem every_bind (first : Logged ε α) (next : α → Logged ε β) :
    Every holds (first >>= next) ↔
      Every holds first ∧ Every holds (next (value first)) := by
  constructor
  · intro every
    exact
      ⟨fun event member => every event (List.mem_append_left _ member),
        fun event member => every event (List.mem_append_right _ member)⟩
  · rintro ⟨firstEvery, nextEvery⟩ event member
    rcases List.mem_append.mp member with early | late
    · exact firstEvery event early
    · exact nextEvery event late

/-! ## Conditions on what has happened before -/

/-- Every event meets a condition on the events before it. -/
def Follows (condition : List ε → ε → Prop) : List ε → List ε → Prop
  | _, [] => True
  | earlier, event :: rest =>
      condition earlier event ∧
        Follows condition (earlier ++ [event]) rest

variable {condition : List ε → ε → Prop} {earlier : List ε}

theorem follows_append {front back : List ε} :
    Follows condition earlier (front ++ back) ↔
      Follows condition earlier front ∧
        Follows condition (earlier ++ front) back := by
  induction front generalizing earlier with
  | nil => simp [Follows]
  | cons event rest ih =>
      simp only [List.cons_append, Follows, ih, and_assoc,
        List.append_assoc, List.nil_append]

/-- Each place of the log, read with what is in front of it. -/
theorem follows_iff {log : List ε} :
    Follows condition earlier log ↔
      ∀ front event back, log = front ++ event :: back →
        condition (earlier ++ front) event := by
  constructor
  · rintro follows front event back rfl
    exact (follows_append.mp follows).2.1
  · intro every
    induction log generalizing earlier with
    | nil => trivial
    | cons event rest ih =>
        refine ⟨?_, ih fun front other back same => ?_⟩
        · simpa using every [] event rest rfl
        · simpa using every (event :: front) other back (by rw [same]; rfl)

/-- The events of a program meet the condition, after earlier ones. -/
def Justified (condition : List ε → ε → Prop) (earlier : List ε)
    (program : Logged ε α) : Prop :=
  Follows condition earlier (events program)

@[simp]
theorem justified_pure (result : α) :
    Justified condition earlier (pure result : Logged ε α) ↔ True :=
  Iff.rfl

@[simp]
theorem justified_record (event : ε) :
    Justified condition earlier (record event) ↔
      condition earlier event := by
  simp [Justified, Follows]

theorem justified_bind (first : Logged ε α) (next : α → Logged ε β) :
    Justified condition earlier (first >>= next) ↔
      Justified condition earlier first ∧
        Justified condition (earlier ++ events first)
          (next (value first)) :=
  follows_append

end Fptn.EventLog
