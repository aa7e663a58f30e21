import Mathlib.Data.Multiset.AddSub

/-!
# Tables of rules

A table to which commands add a rule or from which they remove an equal one,
as they do with the rules of a packet filter or with routes.  Rules may be
there more than once.  What has been added is gone after a removal of the same
rules, in whatever order.
-/

namespace Fptn.RuleTable

inductive Change (Rule : Type) where
  | add (rule : Rule)
  /-- One equal rule, if there is any. -/
  | remove (rule : Rule)
deriving DecidableEq

variable {Rule : Type} [DecidableEq Rule]

def change (table : Multiset Rule) : Change Rule → Multiset Rule
  | .add rule => rule ::ₘ table
  | .remove rule => table.erase rule

def execute (table : Multiset Rule) (changes : List (Change Rule)) :
    Multiset Rule :=
  changes.foldl change table

variable {table : Multiset Rule} {rules added removed : List Rule}

@[simp]
theorem execute_nil : execute table [] = table := rfl

@[simp]
theorem execute_cons {first : Change Rule} {rest : List (Change Rule)} :
    execute table (first :: rest) = execute (change table first) rest :=
  rfl

theorem execute_add :
    execute table (rules.map .add) = table + (rules : Multiset Rule) := by
  induction rules generalizing table with
  | nil => simp
  | cons rule rest ih =>
      rw [List.map_cons, execute_cons, ih, change, ← Multiset.cons_coe,
        Multiset.cons_add, Multiset.add_cons]

theorem execute_remove :
    execute table (rules.map .remove) = table - (rules : Multiset Rule) := by
  induction rules generalizing table with
  | nil => simp
  | cons rule rest ih =>
      rw [List.map_cons, execute_cons, ih, change, ← Multiset.cons_coe,
        Multiset.sub_cons]

/-- Nothing is left of a table if all its rules are removed. -/
theorem execute_remove_of_le (all : table ≤ (removed : Multiset Rule)) :
    execute table (removed.map .remove) = 0 := by
  rw [execute_remove, ← Multiset.le_zero, Multiset.sub_le_iff_le_add,
    Multiset.zero_add]
  exact all

end Fptn.RuleTable
