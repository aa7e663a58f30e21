import Mathlib.Data.List.TakeWhile
import Mathlib.Data.Nat.Digits.Defs
import Mathlib.Tactic.Common

/-!
# Decimal numbers in byte texts

What streams and conversion functions read from the front of a text: words
which end at a space, and integers which may follow spaces and a sign.  An
integer which is printed is read again, up to whatever follows its digits.
-/

namespace Fptn.NumberText

/-! ## Bytes -/

/-- `isspace` in the C locale. -/
def isSpace (byte : UInt8) : Bool :=
  byte == 0x20 || decide (0x09 ≤ byte ∧ byte ≤ 0x0D)

def isDigit (byte : UInt8) : Bool :=
  decide (0x30 ≤ byte ∧ byte ≤ 0x39)

def digitByte (digit : Nat) : UInt8 :=
  UInt8.ofNat (0x30 + digit)

def digitValue (byte : UInt8) : Nat :=
  byte.toNat - 0x30

theorem isDigit_digitByte :
    ∀ digit < 10, isDigit (digitByte digit) = true := by
  decide

theorem digitValue_digitByte :
    ∀ digit < 10, digitValue (digitByte digit) = digit := by
  decide

theorem isSpace_of_isDigit {byte : UInt8} (digit : isDigit byte = true) :
    isSpace byte = false := by
  simp only [isDigit, decide_eq_true_eq, UInt8.le_iff_toNat_le,
    UInt8.reduceToNat] at digit
  have notSpace : byte ≠ 0x20 := by
    rintro rfl
    exact absurd digit.1 (by decide)
  simp only [isSpace, Bool.or_eq_false_iff, beq_eq_false_iff_ne,
    decide_eq_false_iff_not, UInt8.le_iff_toNat_le, UInt8.reduceToNat]
  exact ⟨notSpace, by omega⟩

/-! ## Words -/

/-- A text without spaces. -/
def Unspaced (text : List UInt8) : Prop :=
  ∀ byte ∈ text, isSpace byte = false

instance (text : List UInt8) : Decidable (Unspaced text) :=
  inferInstanceAs (Decidable (∀ byte ∈ text, isSpace byte = false))

def skipSpaces (text : List UInt8) : List UInt8 :=
  text.dropWhile isSpace

def notSpace (byte : UInt8) : Bool := !isSpace byte

/-- The next word, and what follows it. -/
def readWord (text : List UInt8) : Option (List UInt8 × List UInt8) :=
  let word := (skipSpaces text).takeWhile notSpace
  if word = [] then
    none
  else
    some (word, (skipSpaces text).dropWhile notSpace)

theorem readWord_eq_some {text word rest : List UInt8}
    (found : readWord text = some (word, rest)) :
    word ≠ [] ∧ Unspaced word := by
  rw [readWord] at found
  split at found
  · cases found
  next nonempty =>
    obtain ⟨rfl, rfl⟩ := Prod.mk.inj (Option.some.inj found)
    refine ⟨nonempty, fun byte member => ?_⟩
    have word := List.mem_takeWhile_imp member
    rwa [notSpace, Bool.not_eq_true'] at word

theorem skipSpaces_of_unspaced {word : List UInt8} (nonempty : word ≠ [])
    (unspaced : Unspaced word) (rest : List UInt8) :
    skipSpaces (word ++ rest) = word ++ rest := by
  cases word with
  | nil => exact absurd rfl nonempty
  | cons byte word =>
      have first := unspaced byte List.mem_cons_self
      rw [skipSpaces, List.cons_append, List.dropWhile_cons_of_neg]
      simp [first]

theorem skipSpaces_space (text : List UInt8) :
    skipSpaces (0x20 :: text) = skipSpaces text := by
  rfl

/-- A word which is followed by a space. -/
theorem readWord_append {word : List UInt8} (nonempty : word ≠ [])
    (unspaced : Unspaced word) (rest : List UInt8) :
    readWord (word ++ 0x20 :: rest) = some (word, 0x20 :: rest) := by
  have all (byte : UInt8) (member : byte ∈ word) :
      notSpace byte = true := by
    rw [notSpace, unspaced byte member]
    rfl
  have stops : notSpace 0x20 = false := by decide
  rw [readWord, skipSpaces_of_unspaced nonempty unspaced,
    List.takeWhile_append_of_pos all, List.dropWhile_append_of_pos all,
    List.takeWhile_cons_of_neg (by simp [stops]),
    List.dropWhile_cons_of_neg (by simp [stops]), List.append_nil,
    if_neg nonempty]

/-- A word at the end of a text. -/
theorem readWord_end {word : List UInt8} (nonempty : word ≠ [])
    (unspaced : Unspaced word) : readWord word = some (word, []) := by
  have all (byte : UInt8) (member : byte ∈ word) :
      notSpace byte = true := by
    rw [notSpace, unspaced byte member]
    rfl
  have start := skipSpaces_of_unspaced nonempty unspaced []
  rw [List.append_nil] at start
  rw [readWord, start, List.takeWhile_eq_self_iff.mpr all,
    List.dropWhile_eq_nil_iff.mpr all, if_neg nonempty]

theorem readWord_space (text : List UInt8) :
    readWord (0x20 :: text) = readWord text :=
  rfl

/-! ## Integers -/

/-- The number which digits stand for, the most significant one first. -/
def valueOfDigits (digits : List UInt8) : Nat :=
  Nat.ofDigits 10 (digits.reverse.map digitValue)

/-- Whether a text begins with a minus sign, and what follows a sign. -/
def readSign : List UInt8 → Bool × List UInt8
  | 0x2D :: rest => (true, rest)
  | 0x2B :: rest => (false, rest)
  | text => (false, text)

/-- An integer at the front of a text. -/
structure Reading where
  negative : Bool
  magnitude : Nat
  rest : List UInt8
deriving DecidableEq

def readInteger (text : List UInt8) : Option Reading :=
  let signed := readSign (skipSpaces text)
  let digits := signed.2.takeWhile isDigit
  if digits = [] then
    none
  else
    some ⟨signed.1, valueOfDigits digits, signed.2.dropWhile isDigit⟩

def Reading.value (reading : Reading) : Int :=
  if reading.negative then -reading.magnitude else reading.magnitude

/-- `stoull` in base ten: the value, and how many bytes it has taken; `none`
is an exception.  A number after a minus sign is negated modulo the range. -/
def stoull (text : List UInt8) : Option (UInt64 × Nat) := do
  let reading ← readInteger text
  if reading.magnitude < 18446744073709551616 then
    return (UInt64.ofInt reading.value,
      text.length - reading.rest.length)
  else
    none

/-- `operator>>` for an `int`; `none` is a failure. -/
def extractInt (text : List UInt8) : Option Int32 := do
  let reading ← readInteger text
  if -2147483648 ≤ reading.value ∧ reading.value < 2147483648 then
    return Int32.ofInt reading.value
  else
    none

/-! ## Printed integers -/

def printNat (number : Nat) : List UInt8 :=
  if number = 0 then
    [0x30]
  else
    ((Nat.digits 10 number).map digitByte).reverse

/-- `operator<<` for an `int`. -/
def printInt (number : Int) : List UInt8 :=
  if number < 0 then
    0x2D :: printNat number.natAbs
  else
    printNat number.natAbs

theorem printNat_ne_nil (number : Nat) : printNat number ≠ [] := by
  rw [printNat]
  split
  · exact List.cons_ne_nil _ _
  next positive =>
    simpa [Nat.digits_eq_nil_iff_eq_zero] using positive

theorem isDigit_printNat (number : Nat) :
    ∀ byte ∈ printNat number, isDigit byte = true := by
  intro byte member
  rw [printNat] at member
  split at member
  · obtain rfl := List.mem_singleton.mp member
    decide
  · obtain ⟨digit, digits, rfl⟩ :=
      List.mem_map.mp (List.mem_reverse.mp member)
    exact
      isDigit_digitByte digit (Nat.digits_lt_base (by decide) digits)

theorem valueOfDigits_printNat (number : Nat) :
    valueOfDigits (printNat number) = number := by
  rw [printNat]
  split
  next zero =>
    subst zero
    decide
  · have same :
        (Nat.digits 10 number).map (digitValue ∘ digitByte) =
          Nat.digits 10 number := by
      conv_rhs => rw [← List.map_id (Nat.digits 10 number)]
      exact
        List.map_congr_left fun digit member =>
          digitValue_digitByte digit
            (Nat.digits_lt_base (by decide) member)
    rw [valueOfDigits, List.reverse_reverse, List.map_map, same,
      Nat.ofDigits_digits]

theorem readSign_printNat (number : Nat) :
    readSign (printNat number) = (false, printNat number) := by
  have digits := isDigit_printNat number
  cases printed : printNat number with
  | nil => exact absurd printed (printNat_ne_nil number)
  | cons byte rest =>
      have digit := digits byte (by simp [printed])
      rw [readSign]
      · intro _ minus
        obtain ⟨rfl, -⟩ := List.cons.inj minus
        cases digit
      · intro _ plus
        obtain ⟨rfl, -⟩ := List.cons.inj plus
        cases digit

theorem readInteger_digits {text : List UInt8} {negative : Bool}
    {number : Nat}
    (signed :
      readSign (skipSpaces text) = (negative, printNat number)) :
    readInteger text = some ⟨negative, number, []⟩ := by
  have digits := isDigit_printNat number
  have taken : (printNat number).takeWhile isDigit = printNat number := by
    rw [List.takeWhile_eq_self_iff]
    exact digits
  have dropped : (printNat number).dropWhile isDigit = [] := by
    rw [List.dropWhile_eq_nil_iff]
    exact digits
  rw [readInteger, signed]
  simp only [taken, dropped, if_neg (printNat_ne_nil number),
    valueOfDigits_printNat]

theorem unspaced_printNat (number : Nat) : Unspaced (printNat number) :=
  fun byte member => isSpace_of_isDigit (isDigit_printNat number byte member)

theorem printInt_ne_nil (number : Int) : printInt number ≠ [] := by
  rw [printInt]
  split
  · exact List.cons_ne_nil _ _
  · exact printNat_ne_nil _

theorem unspaced_printInt (number : Int) : Unspaced (printInt number) := by
  have digits := unspaced_printNat number.natAbs
  rw [printInt]
  split
  · intro byte member
    rcases List.mem_cons.mp member with rfl | digit
    · rfl
    · exact digits byte digit
  · exact digits

/-- What has been printed is read again. -/
theorem readInteger_printInt (number : Int) :
    (readInteger (0x20 :: printInt number)).map Reading.value =
      some number := by
  by_cases negative : number < 0
  · have signed :
        readSign (skipSpaces (0x20 :: printInt number)) =
          (true, printNat number.natAbs) := by
      rw [printInt, if_pos negative]
      rfl
    rw [readInteger_digits signed, Option.map_some, Reading.value,
      if_pos rfl]
    congr 1
    show -(number.natAbs : Int) = number
    omega
  · have signed :
        readSign (skipSpaces (0x20 :: printInt number)) =
          (false, printNat number.natAbs) := by
      have there :=
        skipSpaces_of_unspaced (printNat_ne_nil number.natAbs)
          (unspaced_printNat number.natAbs) []
      rw [List.append_nil] at there
      rw [printInt, if_neg negative, skipSpaces_space, there,
        readSign_printNat]
    rw [readInteger_digits signed, Option.map_some, Reading.value,
      if_neg Bool.false_ne_true]
    congr 1
    show (number.natAbs : Int) = number
    omega

theorem extractInt_printInt (number : Int32) :
    extractInt (0x20 :: printInt number.toInt) = some number := by
  obtain ⟨reading, read, value⟩ :=
    Option.map_eq_some_iff.mp (readInteger_printInt number.toInt)
  have lower := number.le_toInt
  have upper := number.toInt_lt
  rw [extractInt, read]
  show (if _ then _ else _) = _
  rw [value, if_pos ⟨lower, upper⟩, Int32.ofInt_toInt]
  rfl

end Fptn.NumberText
