import Fptn.Lib.OnesComplement
import Fptn.Network.IPUtils

/-!
# What the checksum routines compute

Every routine of `IPUtils` is described by the value it returns and by the
memory it leaves, both as plain functions of the memory it starts from.  Later
modules reason with these descriptions and never unfold a routine again.
-/

namespace Fptn.Network.ChecksumValue

open Fptn.TracedMemory
open Fptn.Network.IPUtils

/-! ## Words of a memory -/

/-- The big-endian word stored at an offset. -/
def word (memory : Nat → UInt8) (p : Nat) : Nat :=
  (memory p).toNat * 256 + (memory (p + 1)).toNat

/-- Memory after storing a word. -/
def putWord (memory : Nat → UInt8) (p v : Nat) : Nat → UInt8 :=
  Function.update
    (Function.update memory p (UInt8.ofNat (v >>> 8)))
    (p + 1) (UInt8.ofNat (v &&& 0xFF))

/-- The bytes of a memory segment. -/
def bytesAt (memory : Nat → UInt8) (start : Nat) : Nat → List UInt8
  | 0 => []
  | len + 1 => memory start :: bytesAt memory (start + 1) len

theorem shiftLeft_or_byte (high low : UInt8) :
    high.toNat <<< 8 ||| low.toNat = high.toNat * 256 + low.toNat := by
  have lowBound : low.toNat < 2 ^ 8 := low.toNat_lt
  rw [← Nat.shiftLeft_add_eq_or_of_lt lowBound, Nat.shiftLeft_eq]

theorem word_lt (memory : Nat → UInt8) (p : Nat) :
    word memory p < 2 ^ 16 := by
  have high := (memory p).toNat_lt
  have low := (memory (p + 1)).toNat_lt
  unfold word
  omega

theorem word_congr {left right : Nat → UInt8} {p : Nat}
    (first : left p = right p) (second : left (p + 1) = right (p + 1)) :
    word left p = word right p := by
  rw [word, word, first, second]

theorem putWord_of_ne {memory : Nat → UInt8} {p v offset : Nat}
    (notFirst : offset ≠ p) (notSecond : offset ≠ p + 1) :
    putWord memory p v offset = memory offset := by
  simp [putWord, notFirst, notSecond]

theorem word_putWord {v : Nat} (memory : Nat → UInt8) (p : Nat)
    (bound : v < 2 ^ 16) :
    word (putWord memory p v) p = v := by
  have low : v &&& 0xFF = v % 2 ^ 8 := Nat.and_two_pow_sub_one_eq_mod v 8
  have high : v >>> 8 = v / 2 ^ 8 := Nat.shiftRight_eq_div_pow v 8
  simp only [word, putWord, Function.update_self]
  rw [Function.update_of_ne (by omega), Function.update_self,
    UInt8.toNat_ofNat', UInt8.toNat_ofNat', low, high]
  omega

/-- Storing the word which is already there changes nothing. -/
theorem putWord_word (memory : Nat → UInt8) (p : Nat) :
    putWord memory p (word memory p) = memory := by
  have highBound := (memory p).toNat_lt
  have lowBound := (memory (p + 1)).toNat_lt
  have low : word memory p &&& 0xFF = (memory (p + 1)).toNat := by
    rw [Nat.and_two_pow_sub_one_eq_mod (word memory p) 8]
    unfold word
    omega
  have high : word memory p >>> 8 = (memory p).toNat := by
    rw [Nat.shiftRight_eq_div_pow]
    unfold word
    omega
  funext offset
  unfold putWord
  rw [low, high, UInt8.ofNat_toNat, UInt8.ofNat_toNat]
  simp

/-- A second store at the same offset hides the first. -/
theorem putWord_putWord (memory : Nat → UInt8) (p first second : Nat) :
    putWord (putWord memory p first) p second =
      putWord memory p second := by
  funext offset
  by_cases atFirst : offset = p
  · subst atFirst
    simp [putWord]
  · by_cases atSecond : offset = p + 1
    · subst atSecond
      simp [putWord]
    · simp [putWord, atFirst, atSecond]

@[simp]
theorem length_bytesAt (memory : Nat → UInt8) (start len : Nat) :
    (bytesAt memory start len).length = len := by
  induction len generalizing start with
  | zero => rfl
  | succ len ih => simp [bytesAt, ih]

theorem bytesAt_congr {left right : Nat → UInt8} {start len : Nat}
    (agree : ∀ offset, start ≤ offset → offset < start + len →
      left offset = right offset) :
    bytesAt left start len = bytesAt right start len := by
  induction len generalizing start with
  | zero => rfl
  | succ len ih =>
      simp only [bytesAt, List.cons.injEq]
      constructor
      · exact agree start (Nat.le_refl _) (by omega)
      · exact ih fun offset lower upper =>
          agree offset (by omega) (by omega)

/-! ## Sums of a segment -/

/-- The exact sum of the words of a segment, the last one padded. -/
def wordSum (memory : Nat → UInt8) (start : Nat) : Nat → Nat
  | 0 => 0
  | 1 => (memory start).toNat * 256
  | len + 2 => word memory start + wordSum memory (start + 2) len

theorem wordSum_eq_wordsOf (memory : Nat → UInt8) (start len : Nat) :
    wordSum memory start len =
      (OnesComplement.wordsOf (bytesAt memory start len)).sum := by
  induction start, len using wordSum.induct with
  | case1 start => simp [wordSum, bytesAt, OnesComplement.wordsOf]
  | case2 start => simp [wordSum, bytesAt, OnesComplement.wordsOf]
  | case3 start len ih =>
      simp [wordSum, bytesAt, OnesComplement.wordsOf, word, ih,
        Nat.add_assoc]

theorem wordSum_le (memory : Nat → UInt8) (start len : Nat) :
    wordSum memory start len ≤ (len + 1) / 2 * 65535 := by
  rw [wordSum_eq_wordsOf]
  simpa using
    OnesComplement.sum_wordsOf_le (bytesAt memory start len)

theorem wordSum_congr {left right : Nat → UInt8} {start len : Nat}
    (agree : ∀ offset, start ≤ offset → offset < start + len →
      left offset = right offset) :
    wordSum left start len = wordSum right start len := by
  rw [wordSum_eq_wordsOf, wordSum_eq_wordsOf, bytesAt_congr agree]

/-- Storing a word at an even distance inside the segment adds to its sum. -/
theorem wordSum_putWord
    {memory : Nat → UInt8} {v : Nat} (bound : v < 2 ^ 16)
    (start len index : Nat) (inside : 2 * index + 1 < len) :
    wordSum (putWord memory (start + 2 * index) v) start len =
      wordSum (putWord memory (start + 2 * index) 0) start len + v := by
  induction index generalizing start len with
  | zero =>
      obtain ⟨rest, rfl⟩ : ∃ rest, len = rest + 2 :=
        ⟨len - 2, by omega⟩
      have tailEq : ∀ stored,
          wordSum (putWord memory start stored) (start + 2) rest =
            wordSum memory (start + 2) rest :=
        fun stored => wordSum_congr fun offset lower _ =>
          putWord_of_ne (by omega) (by omega)
      simp only [Nat.mul_zero, Nat.add_zero, wordSum, tailEq]
      rw [word_putWord memory start bound,
        word_putWord memory start (by decide)]
      omega
  | succ index ih =>
      obtain ⟨rest, rfl⟩ : ∃ rest, len = rest + 2 :=
        ⟨len - 2, by omega⟩
      have shifted :
          start + 2 * (index + 1) = start + 2 + 2 * index := by
        ring
      have headEq : ∀ stored,
          word (putWord memory (start + 2 + 2 * index) stored) start =
            word memory start :=
        fun stored => word_congr
          (putWord_of_ne (by omega) (by omega))
          (putWord_of_ne (by omega) (by omega))
      have tailEq := ih (start + 2) rest (by omega)
      rw [shifted]
      simp only [wordSum, headEq, tailEq]
      omega

/-! ## Elementary routines -/

section Routines

variable (store : Store)

@[simp]
theorem readU16Be_value (p : Nat) :
    (readU16Be p store).1 = word store.memory p := by
  have bound : (store.memory p).toNat <<< 8 < 2 ^ 16 := by
    have := (store.memory p).toNat_lt
    rw [Nat.shiftLeft_eq]
    omega
  change
    (store.memory p).toNat <<< 8 % 2 ^ 16 ||| (store.memory (p + 1)).toNat =
      _
  rw [Nat.mod_eq_of_lt bound, shiftLeft_or_byte]
  rfl

@[simp]
theorem readU16Be_memory (p : Nat) :
    (readU16Be p store).2.memory = store.memory :=
  rfl

@[simp]
theorem writeU16Be_memory (p v : Nat) :
    (writeU16Be p v store).2.memory = putWord store.memory p v :=
  rfl

@[simp]
theorem copyBytes_value (source count : Nat) :
    (copyBytes source count store).1 =
      bytesAt store.memory source count := by
  induction count generalizing source store with
  | zero => rfl
  | succ count ih => simp [copyBytes, bytesAt, ih]

@[simp]
theorem copyBytes_memory (source count : Nat) :
    (copyBytes source count store).2.memory = store.memory := by
  induction count generalizing source store with
  | zero => rfl
  | succ count ih => simp [copyBytes, ih]

@[simp]
theorem rfc1071Sum_memory (data len sum : Nat) :
    (rfc1071Sum data len sum store).2.memory = store.memory := by
  induction data, len, sum using rfc1071Sum.induct generalizing store with
  | case1 data sum => rfl
  | case2 data sum => rfl
  | case3 data len sum ih =>
      exact
        ih (store.memory data) (store.memory (data + 1))
          (load (data + 1) (load data store).2).2

/-- The accumulator holds the exact sum reduced to 32 bits. -/
theorem rfc1071Sum_value (data len : Nat) {sum : Nat}
    (bound : sum < 2 ^ 32) :
    (rfc1071Sum data len sum store).1 =
      (sum + wordSum store.memory data len) % 2 ^ 32 := by
  induction data, len, sum using rfc1071Sum.induct generalizing store with
  | case1 data sum =>
      simp only [rfc1071Sum, wordSum, pure_apply, Nat.add_zero]
      exact (Nat.mod_eq_of_lt bound).symm
  | case2 data sum =>
      simp [rfc1071Sum, wordSum, Nat.shiftLeft_eq]
  | case3 data len sum ih =>
      have step :=
        ih (store.memory data) (store.memory (data + 1))
          (load (data + 1) (load data store).2).2
          (Nat.mod_lt _ (by decide))
      simp only [load_memory, shiftLeft_or_byte] at step
      simp only [rfc1071Sum, bind_apply, load_value, load_memory,
        shiftLeft_or_byte, step, wordSum, word]
      rw [Nat.mod_add_mod, Nat.add_assoc]

@[simp]
theorem rfc1071_memory (data len sum : Nat) :
    (rfc1071 data len sum store).2.memory = store.memory := by
  simp [rfc1071]

end Routines

/-- Carry folding computes the end-around representative. -/
theorem foldCarry_eq_normal (sum : Nat) :
    foldCarry sum = OnesComplement.normal sum := by
  induction sum using foldCarry.induct with
  | case1 sum carry ih =>
      rw [foldCarry, if_pos carry, ih]
      have low : sum &&& 0xFFFF = sum % 2 ^ 16 :=
        Nat.and_two_pow_sub_one_eq_mod sum 16
      have high : sum >>> 16 = sum / 2 ^ 16 :=
        Nat.shiftRight_eq_div_pow sum 16
      rw [high] at carry
      rw [low, high]
      exact
        OnesComplement.normal_congr (by omega) (by omega)
          (by unfold Nat.ModEq; omega)
  | case2 sum noCarry =>
      rw [foldCarry, if_neg noCarry]
      have high : sum >>> 16 = sum / 2 ^ 16 :=
        Nat.shiftRight_eq_div_pow sum 16
      rw [high] at noCarry
      exact
        (OnesComplement.normal_eq_self (by omega)).symm

/-- `Rfc1071` as a function of memory. -/
def checksumOf (memory : Nat → UInt8) (data len seed : Nat) : Nat :=
  65535 - OnesComplement.normal ((seed + wordSum memory data len) % 2 ^ 32)

theorem checksumOf_lt (memory : Nat → UInt8) (data len seed : Nat) :
    checksumOf memory data len seed < 2 ^ 16 := by
  unfold checksumOf
  omega

/-- Without wrap-around the checksum complements the exact sum. -/
theorem checksumOf_exact {memory : Nat → UInt8} {data len seed : Nat}
    (bound : seed + wordSum memory data len < 2 ^ 32) :
    checksumOf memory data len seed =
      65535 -
        OnesComplement.normal (seed + wordSum memory data len) := by
  rw [checksumOf, Nat.mod_eq_of_lt bound]

theorem rfc1071_value (store : Store) (data len : Nat) {seed : Nat}
    (bound : seed < 2 ^ 32) :
    (rfc1071 data len seed store).1 =
      checksumOf store.memory data len seed := by
  have le :=
    OnesComplement.normal_le
      ((seed + wordSum store.memory data len) % 2 ^ 32)
  simp only [rfc1071, bind_apply, pure_apply, rfc1071Sum_value _ _ _ bound,
    foldCarry_eq_normal, checksumOf]
  omega

theorem sumWords_eq : ∀ (bytes : List UInt8) (sum : Nat),
    bytes.length % 2 = 0 → sum + bytes.length * 65535 < 2 ^ 32 →
      sumWords bytes sum = sum + (OnesComplement.wordsOf bytes).sum
  | [], sum, _, _ => by simp [sumWords, OnesComplement.wordsOf]
  | [last], _, even, _ => by simp at even
  | high :: low :: rest, sum, even, bound => by
      have highBound := high.toNat_lt
      have lowBound := low.toNat_lt
      simp only [List.length_cons] at even bound
      have exact :
          (sum + (high.toNat * 256 + low.toNat)) % 2 ^ 32 =
            sum + (high.toNat * 256 + low.toNat) :=
        Nat.mod_eq_of_lt (by omega)
      rw [sumWords, shiftLeft_or_byte, exact,
        sumWords_eq rest _ (by omega) (by omega)]
      simp only [OnesComplement.wordsOf, List.sum_cons]
      omega

end Fptn.Network.ChecksumValue
