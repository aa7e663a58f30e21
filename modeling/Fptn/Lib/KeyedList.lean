import Mathlib.Data.List.Nodup

/-!
# Removing one element by its key

The erase idiom of C++ containers: find the first element with a given key and
erase it.  On a list of distinct elements whose keys are told apart, exactly
the element with that key goes.
-/

namespace Fptn.KeyedList

variable {α κ : Type} [DecidableEq κ] {keyOf : α → κ} {list : List α}

/-- Erase the first element with this key. -/
def eraseKey (keyOf : α → κ) (key : κ) (list : List α) : List α :=
  list.eraseP fun element => keyOf element == key

/-- The keys of the elements are told apart. -/
def Distinct (keyOf : α → κ) (list : List α) : Prop :=
  ∀ first ∈ list, ∀ second ∈ list,
    keyOf first = keyOf second → first = second

omit [DecidableEq κ] in
theorem Distinct.subset {large : List α} (distinct : Distinct keyOf large)
    (inside : list ⊆ large) :
    Distinct keyOf list :=
  fun first firstMem second secondMem =>
    distinct first (inside firstMem) second (inside secondMem)

omit [DecidableEq κ] in
/-- An element with a new key may be pushed at the end. -/
theorem Distinct.push {element : α} (distinct : Distinct keyOf list)
    (fresh : ∀ old ∈ list, keyOf old ≠ keyOf element) :
    Distinct keyOf (list ++ [element]) := by
  intro first firstMem second secondMem same
  rw [List.mem_append, List.mem_singleton] at firstMem secondMem
  rcases firstMem with firstOld | rfl
  · rcases secondMem with secondOld | rfl
    · exact distinct first firstOld second secondOld same
    · exact absurd same (fresh first firstOld)
  · rcases secondMem with secondOld | rfl
    · exact absurd same.symm (fresh second secondOld)
    · rfl

theorem eraseKey_subset {key : κ} : eraseKey keyOf key list ⊆ list :=
  List.eraseP_subset

theorem eraseKey_nodup {key : κ} (nodup : list.Nodup) :
    (eraseKey keyOf key list).Nodup :=
  nodup.sublist List.eraseP_sublist

/-- Exactly the element with the key goes. -/
theorem mem_eraseKey {key : κ} {element : α} (nodup : list.Nodup)
    (distinct : Distinct keyOf list) :
    element ∈ eraseKey keyOf key list ↔
      element ∈ list ∧ keyOf element ≠ key := by
  induction list with
  | nil => simp [eraseKey]
  | cons head tail ih =>
      obtain ⟨notMem, tailNodup⟩ := List.nodup_cons.mp nodup
      have tailDistinct : Distinct keyOf tail :=
        distinct.subset (List.subset_cons_self head tail)
      by_cases found : keyOf head = key
      · have erased : eraseKey keyOf key (head :: tail) = tail := by
          rw [eraseKey, List.eraseP_cons_of_pos (by simpa using found)]
        rw [erased, List.mem_cons]
        constructor
        · intro member
          refine ⟨Or.inr member, fun same => notMem ?_⟩
          have headIsElement : head = element :=
            distinct head List.mem_cons_self element
              (List.mem_cons_of_mem head member) (found.trans same.symm)
          exact headIsElement ▸ member
        · rintro ⟨rfl | member, different⟩
          · exact absurd found different
          · exact member
      · have kept : eraseKey keyOf key (head :: tail) =
            head :: eraseKey keyOf key tail := by
          rw [eraseKey, List.eraseP_cons_of_neg (by simpa using found)]
          rfl
        rw [kept, List.mem_cons, List.mem_cons, ih tailNodup tailDistinct]
        constructor
        · rintro (rfl | ⟨member, different⟩)
          · exact ⟨Or.inl rfl, found⟩
          · exact ⟨Or.inr member, different⟩
        · rintro ⟨rfl | member, different⟩
          · exact Or.inl rfl
          · exact Or.inr ⟨member, different⟩

/-- Erase several keys, one after the other. -/
def eraseKeys (keyOf : α → κ) (keys : List κ) (list : List α) : List α :=
  keys.foldl (fun left key => eraseKey keyOf key left) list

theorem eraseKeys_cons {key : κ} {keys : List κ} :
    eraseKeys keyOf (key :: keys) list =
      eraseKeys keyOf keys (eraseKey keyOf key list) :=
  rfl

theorem eraseKeys_nodup {keys : List κ} (nodup : list.Nodup) :
    (eraseKeys keyOf keys list).Nodup := by
  induction keys generalizing list with
  | nil => exact nodup
  | cons key keys ih => exact ih (eraseKey_nodup nodup)

theorem mem_eraseKeys {keys : List κ} {element : α} (nodup : list.Nodup)
    (distinct : Distinct keyOf list) :
    element ∈ eraseKeys keyOf keys list ↔
      element ∈ list ∧ keyOf element ∉ keys := by
  induction keys generalizing list with
  | nil => simp [eraseKeys]
  | cons key keys ih =>
      rw [eraseKeys_cons,
        ih (eraseKey_nodup nodup) (distinct.subset eraseKey_subset),
        mem_eraseKey nodup distinct, List.mem_cons, not_or, and_assoc]

end Fptn.KeyedList
