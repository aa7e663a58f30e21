import Mathlib.Data.Nat.Digits.Defs
import Mathlib.Tactic.Common

/-!
# Numbers printed in separated groups

A number of fixed width is cut into groups, most significant first, and each
group is printed without leading zeros in some digit base, as in `10.0.0.1` or
`fd00:1:2:3:4:5:6:7`.  Parsing what was printed gives the number back.
-/

namespace Fptn.GroupText

/-- How a number is printed. -/
structure Format where
  separator : Char
  base : Nat
  /-- Every group is below this bound. -/
  limit : Nat
  count : Nat

/-! ## Groups -/

/-- The groups of a number, least significant first. -/
def groups (limit : Nat) : Nat → Nat → List Nat
  | 0, _ => []
  | count + 1, number =>
      number % limit :: groups limit count (number / limit)

theorem length_groups (limit count number : Nat) :
    (groups limit count number).length = count := by
  induction count generalizing number with
  | zero => rfl
  | succ count ih => rw [groups, List.length_cons, ih]

theorem lt_of_mem_groups {limit count number group : Nat}
    (positive : 0 < limit) (member : group ∈ groups limit count number) :
    group < limit := by
  induction count generalizing number with
  | zero => simp [groups] at member
  | succ count ih =>
      rcases List.mem_cons.mp member with rfl | rest
      · exact Nat.mod_lt _ positive
      · exact ih rest

theorem ofDigits_groups {limit count number : Nat}
    (small : number < limit ^ count) :
    Nat.ofDigits limit (groups limit count number) = number := by
  induction count generalizing number with
  | zero =>
      have zero : number = 0 := by
        rw [Nat.pow_zero] at small
        omega
      rw [zero]
      rfl
  | succ count ih =>
      have quotient : number / limit < limit ^ count := by
        refine Nat.div_lt_of_lt_mul ?_
        rwa [Nat.mul_comm, ← Nat.pow_succ]
      rw [groups, Nat.ofDigits_cons, ih quotient]
      exact Nat.mod_add_div number limit

/-! ## Digits -/

def digitValue (digit : Char) : Option Nat :=
  if '0' ≤ digit ∧ digit ≤ '9' then
    some (digit.toNat - '0'.toNat)
  else if 'a' ≤ digit ∧ digit ≤ 'f' then
    some (digit.toNat - 'a'.toNat + 10)
  else
    none

theorem digitValue_digitChar :
    ∀ digit < 16, digitValue (Nat.digitChar digit) = some digit := by
  decide

/-- One group, printed in the given base. -/
def printGroup (base group : Nat) : List Char :=
  if group = 0 then
    ['0']
  else
    ((Nat.digits base group).map Nat.digitChar).reverse

/-- Read a group's digits, the least significant one first. -/
def readDigits : List Char → Option (List Nat)
  | [] => some []
  | digit :: rest =>
      match digitValue digit, readDigits rest with
      | some value, some values => some (value :: values)
      | _, _ => none

def readGroup (format : Format) (chars : List Char) : Option Nat :=
  if chars = [] then
    none
  else
    match readDigits chars.reverse with
    | none => none
    | some digits =>
      let group := Nat.ofDigits format.base digits
      if group < format.limit then some group else none

theorem readDigits_map {digits : List Nat}
    (small : ∀ digit ∈ digits, digit < 16) :
    readDigits (digits.map Nat.digitChar) = some digits := by
  induction digits with
  | nil => rfl
  | cons digit rest ih =>
      have head := digitValue_digitChar digit (small digit (by simp))
      have tail := ih fun other member =>
        small other (List.mem_cons_of_mem _ member)
      simp only [List.map_cons, readDigits, head, tail]

/-- A base between two and sixteen. -/
structure Format.Printable (format : Format) : Prop where
  lower : 1 < format.base
  upper : format.base ≤ 16
  separated : ∀ digit < 16, Nat.digitChar digit ≠ format.separator
  positive : 0 < format.limit
  nonempty : 0 < format.count

variable {format : Format}

theorem readGroup_printGroup (printable : format.Printable)
    {group : Nat} (small : group < format.limit) :
    readGroup format (printGroup format.base group) = some group := by
  by_cases zero : group = 0
  · subst zero
    have read : readDigits ['0'] = some [0] := by decide
    simp [readGroup, printGroup, read, small]
  · have digitsSmall :
        ∀ digit ∈ Nat.digits format.base group, digit < 16 :=
      fun digit member =>
        (Nat.digits_lt_base printable.lower member).trans_le
          printable.upper
    have nonempty : Nat.digits format.base group ≠ [] :=
      Nat.digits_ne_nil_iff_ne_zero.mpr zero
    have notNil : printGroup format.base group ≠ [] := by
      simp [printGroup, zero, nonempty]
    rw [readGroup, if_neg notNil, printGroup, if_neg zero,
      List.reverse_reverse, readDigits_map digitsSmall]
    simp only [Nat.ofDigits_digits]
    rw [if_pos small]

theorem separator_notMem (printable : format.Printable) (group : Nat) :
    format.separator ∉ printGroup format.base group := by
  have separated := printable.separated
  by_cases zero : group = 0
  · have different := separated 0 (by decide)
    simpa [printGroup, zero] using fun same => different same.symm
  · rw [printGroup, if_neg zero, List.mem_reverse, List.mem_map]
    rintro ⟨digit, member, same⟩
    have small :=
      (Nat.digits_lt_base printable.lower member).trans_le
        printable.upper
    exact separated digit small same

/-! ## Whole texts -/

def print (format : Format) (number : Nat) : String :=
  String.ofList
    (List.intercalate [format.separator]
      ((groups format.limit format.count number).reverse.map
        (printGroup format.base)))

/-- Read all groups; each must be printable in the format. -/
def readGroups (format : Format) : List (List Char) → Option (List Nat)
  | [] => some []
  | chars :: rest =>
      match readGroup format chars, readGroups format rest with
      | some group, some others => some (group :: others)
      | _, _ => none

def parse (format : Format) (text : String) : Option Nat :=
  let parts := text.toList.splitOn format.separator
  if parts.length = format.count then
    (readGroups format parts).map fun numbers =>
      Nat.ofDigits format.limit numbers.reverse
  else
    none

theorem readGroups_map (printable : format.Printable)
    {numbers : List Nat}
    (small : ∀ number ∈ numbers, number < format.limit) :
    readGroups format (numbers.map (printGroup format.base)) =
      some numbers := by
  induction numbers with
  | nil => rfl
  | cons number rest ih =>
      have head :=
        readGroup_printGroup printable (small number (by simp))
      have tail := ih fun other member =>
        small other (List.mem_cons_of_mem _ member)
      simp only [List.map_cons, readGroups, head, tail]

/-- Printed text parses back. -/
theorem parse_print (printable : format.Printable) {number : Nat}
    (small : number < format.limit ^ format.count) :
    parse format (print format number) = some number := by
  have nonempty :
      (groups format.limit format.count number).reverse.map
          (printGroup format.base) ≠ [] := by
    intro empty
    have length := congrArg List.length empty
    rw [List.length_map, List.length_reverse, length_groups,
      List.length_nil] at length
    have positive := printable.nonempty
    omega
  have separated :
      ∀ part ∈
        (groups format.limit format.count number).reverse.map
          (printGroup format.base), format.separator ∉ part := by
    intro part member
    obtain ⟨group, _, rfl⟩ := List.mem_map.mp member
    exact separator_notMem printable group
  have split :
      (print format number).toList.splitOn format.separator =
        (groups format.limit format.count number).reverse.map
          (printGroup format.base) := by
    rw [print, String.toList_ofList]
    exact List.splitOn_intercalate _ separated nonempty
  have read :
      readGroups format
          ((groups format.limit format.count number).reverse.map
            (printGroup format.base)) =
        some (groups format.limit format.count number).reverse :=
    readGroups_map printable fun group member =>
      lt_of_mem_groups printable.positive (List.mem_reverse.mp member)
  rw [parse, split]
  simp only [List.length_map, List.length_reverse, length_groups,
    if_true, read, Option.map_some, List.reverse_reverse,
    ofDigits_groups small]

end Fptn.GroupText
