import Mathlib.Tactic.Common

/-!
# Reading a stream field by field

A reader which takes a stream one field at a time, and looks at a field only
when all of its symbols are there.  A front of a stream is undecided as long
as no field has ended the stream or been found wrong; once it is decided,
nothing behind it matters.
-/

namespace Fptn.FieldReader

/-- What a reader has found in the front of a stream. -/
inductive Verdict where
  /-- Neither the end of the stream nor an error, in all complete fields. -/
  | undecided
  /-- The end of the stream. -/
  | ended
  /-- A complete field which is in error. -/
  | failed
deriving DecidableEq

/-- What a field leads to. -/
inductive Outcome (Place : Type) where
  | next (place : Place)
  | ended
  | failed

structure Reader (Symbol Place : Type) where
  start : Place
  /-- The length of the field at a place, which is at least one. -/
  width : Place → Nat
  read : Place → List Symbol → Outcome Place

namespace Reader

variable {Symbol Place : Type} (reader : Reader Symbol Place)

/-- The verdict on what follows, where some of the field has been taken. -/
def verdictFrom : Place → List Symbol → List Symbol → Verdict
  | _, _, [] => .undecided
  | place, taken, symbol :: rest =>
      let field := taken ++ [symbol]
      if field.length < reader.width place then
        verdictFrom place field rest
      else
        match reader.read place field with
        | .next next => verdictFrom next [] rest
        | .ended => .ended
        | .failed => .failed

def verdict (symbols : List Symbol) : Verdict :=
  reader.verdictFrom reader.start [] symbols

variable {reader} {place : Place} {taken front back : List Symbol}

theorem verdictFrom_append
    (decided : reader.verdictFrom place taken front ≠ .undecided) :
    reader.verdictFrom place taken (front ++ back) =
      reader.verdictFrom place taken front := by
  induction front generalizing place taken with
  | nil => exact absurd rfl decided
  | cons symbol front ih =>
      rw [List.cons_append, verdictFrom, verdictFrom]
      rw [verdictFrom] at decided
      split
      case isTrue incomplete =>
        rw [if_pos incomplete] at decided
        exact ih decided
      case isFalse complete =>
        rw [if_neg complete] at decided
        cases read : reader.read place (taken ++ [symbol]) with
        | next next =>
            rw [read] at decided
            exact ih decided
        | ended | failed => rfl

/-- What has been decided stays so. -/
theorem verdict_append (decided : reader.verdict front ≠ .undecided) :
    reader.verdict (front ++ back) = reader.verdict front :=
  verdictFrom_append decided

/-- A field which is not complete decides nothing. -/
theorem verdictFrom_of_short
    (short : taken.length + front.length < reader.width place) :
    reader.verdictFrom place taken front = .undecided := by
  induction front generalizing taken with
  | nil => rfl
  | cons symbol front ih =>
      have longer : (taken ++ [symbol]).length + front.length <
          reader.width place := by
        rw [List.length_append, List.length_singleton]
        rw [List.length_cons] at short
        omega
      rw [verdictFrom, if_pos (by omega)]
      exact ih longer

/-- A reader whose fields do not end the stream does not find its end. -/
theorem verdictFrom_ne_ended
    (endless : ∀ place field, reader.read place field ≠ .ended) :
    reader.verdictFrom place taken front ≠ .ended := by
  induction front generalizing place taken with
  | nil => exact Verdict.noConfusion
  | cons symbol front ih =>
      rw [verdictFrom]
      split
      · exact ih
      · cases read : reader.read place (taken ++ [symbol]) with
        | next next => exact ih
        | ended => exact absurd read (endless _ _)
        | failed => exact Verdict.noConfusion

end Reader

end Fptn.FieldReader
