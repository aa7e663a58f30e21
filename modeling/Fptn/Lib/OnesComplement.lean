import Mathlib.Algebra.BigOperators.Group.List.Basic
import Mathlib.Data.Nat.ModEq
import Mathlib.Tactic.Ring

/-!
# One's-complement sums of sixteen-bit words

Internet checksums add sixteen-bit words with an end-around carry.  The result
of such a sum is determined by the ordinary sum of the words: it is the unique
representative modulo `65535` in `1 … 65535`, except that the sum of zeros only
is zero.  This module defines the end-around addition, that representative, and
the acceptance test of a receiver, and connects the three.

Byte strings are read as big-endian words, an odd last byte being padded with a
zero byte on its right.
-/

namespace Fptn.OnesComplement

/-- Addition of two sixteen-bit words with an end-around carry. -/
def add (left right : Nat) : Nat :=
  if left + right < 2 ^ 16 then left + right else left + right - 65535

/-- The one's-complement sum of a list of words. -/
def sum (words : List Nat) : Nat :=
  words.foldl add 0

/-- The big-endian words of a byte string. -/
def wordsOf : List UInt8 → List Nat
  | high :: low :: rest => (high.toNat * 256 + low.toNat) :: wordsOf rest
  | [last] => [last.toNat * 256]
  | [] => []

/-- A receiver accepts a byte string whose words sum to negative zero. -/
def Verifies (bytes : List UInt8) : Prop :=
  sum (wordsOf bytes) = 0xFFFF

instance (bytes : List UInt8) : Decidable (Verifies bytes) :=
  inferInstanceAs (Decidable (_ = _))

/-! ## The representative of a sum -/

/-- The end-around representative of an ordinary sum. -/
def normal (total : Nat) : Nat :=
  if total = 0 then 0 else (total - 1) % 65535 + 1

theorem normal_le (total : Nat) : normal total ≤ 65535 := by
  unfold normal
  split
  · omega
  · omega

theorem normal_eq_self {word : Nat} (bound : word < 2 ^ 16) :
    normal word = word := by
  unfold normal
  split <;> omega

theorem normal_pos {total : Nat} (positive : 0 < total) :
    0 < normal total := by
  unfold normal
  split <;> omega

theorem normal_modEq (total : Nat) : normal total ≡ total [MOD 65535] := by
  unfold normal Nat.ModEq
  split <;> omega

/-- Two positive sums congruent modulo `65535` have one representative. -/
theorem normal_congr {left right : Nat}
    (leftPositive : 0 < left) (rightPositive : 0 < right)
    (congruent : left ≡ right [MOD 65535]) :
    normal left = normal right := by
  unfold Nat.ModEq at congruent
  unfold normal
  rw [if_neg (by omega), if_neg (by omega)]
  omega

theorem normal_add_normal (left right : Nat) :
    normal (left + normal right) = normal (left + right) := by
  by_cases zero : right = 0
  · subst right
    simp [normal]
  · have positive : 0 < normal right := normal_pos (by omega)
    exact
      normal_congr (by omega) (by omega)
        (Nat.ModEq.add_left left (normal_modEq right))

/-- End-around addition computes the representative of the ordinary sum. -/
theorem add_eq_normal {left right : Nat}
    (leftBound : left < 2 ^ 16) (rightBound : right < 2 ^ 16) :
    add left right = normal (left + right) := by
  unfold add normal
  split <;> split <;> omega

theorem foldl_add_eq_normal
    (words : List Nat) (start : Nat)
    (startBound : start < 2 ^ 16)
    (bounds : ∀ word ∈ words, word < 2 ^ 16) :
    words.foldl add start = normal (start + words.sum) := by
  induction words generalizing start with
  | nil =>
      simpa using (normal_eq_self startBound).symm
  | cons word rest ih =>
      have wordBound : word < 2 ^ 16 := bounds word (by simp)
      have nextEq : add start word = normal (start + word) :=
        add_eq_normal startBound wordBound
      have nextBound : add start word < 2 ^ 16 := by
        rw [nextEq]
        exact Nat.lt_of_le_of_lt (normal_le _) (by decide)
      have restBounds : ∀ other ∈ rest, other < 2 ^ 16 :=
        fun other member => bounds other (List.mem_cons_of_mem _ member)
      calc
        (word :: rest).foldl add start =
            normal (add start word + rest.sum) :=
          ih (add start word) nextBound restBounds
        _ = normal (rest.sum + normal (start + word)) := by
          rw [nextEq, Nat.add_comm]
        _ = normal (start + (word :: rest).sum) := by
          rw [normal_add_normal, List.sum_cons]
          congr 1
          omega

theorem sum_eq_normal {words : List Nat}
    (bounds : ∀ word ∈ words, word < 2 ^ 16) :
    sum words = normal words.sum := by
  simpa [sum] using foldl_add_eq_normal words 0 (by decide) bounds

/-! ## Byte strings -/

theorem wordsOf_lt (bytes : List UInt8) :
    ∀ word ∈ wordsOf bytes, word < 2 ^ 16 := by
  induction bytes using wordsOf.induct with
  | case1 high low rest ih =>
      intro word member
      rw [wordsOf, List.mem_cons] at member
      have highBound := high.toNat_lt
      have lowBound := low.toNat_lt
      rcases member with rfl | tail
      · omega
      · exact ih word tail
  | case2 last =>
      intro word member
      have lastBound := last.toNat_lt
      simp only [wordsOf, List.mem_singleton] at member
      omega
  | case3 => simp [wordsOf]

/-- An even prefix does not disturb the word boundaries of what follows. -/
theorem wordsOf_append (front back : List UInt8)
    (even : front.length % 2 = 0) :
    wordsOf (front ++ back) = wordsOf front ++ wordsOf back := by
  induction front using wordsOf.induct with
  | case1 high low rest ih =>
      have restEven : rest.length % 2 = 0 := by
        simp only [List.length_cons] at even
        omega
      simp [wordsOf, ih restEven]
  | case2 last => simp at even
  | case3 => simp [wordsOf]

theorem sum_wordsOf_le (bytes : List UInt8) :
    (wordsOf bytes).sum ≤ (bytes.length + 1) / 2 * 65535 := by
  induction bytes using wordsOf.induct with
  | case1 high low rest ih =>
      have highBound := high.toNat_lt
      have lowBound := low.toNat_lt
      simp only [wordsOf, List.sum_cons, List.length_cons]
      omega
  | case2 last =>
      have lastBound := last.toNat_lt
      simp only [wordsOf, List.sum_cons, List.sum_nil, List.length_cons,
        List.length_nil]
      omega
  | case3 => simp [wordsOf]

/-- Acceptance, in terms of the ordinary sum of the words. -/
theorem verifies_iff (bytes : List UInt8) :
    Verifies bytes ↔
      0 < (wordsOf bytes).sum ∧ (wordsOf bytes).sum % 65535 = 0 := by
  rw [Verifies, sum_eq_normal (wordsOf_lt bytes)]
  unfold normal
  split <;> omega

/--
Adding the complement of a sum to that sum gives negative zero.  A complement
of zero may be transmitted as `0xFFFF` instead.
-/
theorem complement_closes
    {total checksum : Nat}
    (complement :
      checksum = 65535 - normal total ∨
        normal total = 65535 ∧ checksum = 65535) :
    0 < total + checksum ∧ (total + checksum) % 65535 = 0 := by
  have le := normal_le total
  have congruent := normal_modEq total
  unfold Nat.ModEq at congruent
  by_cases zero : total = 0
  · subst zero
    simp only [normal, if_pos] at complement
    omega
  · rcases complement with rfl | ⟨full, rfl⟩ <;> omega

end Fptn.OnesComplement
