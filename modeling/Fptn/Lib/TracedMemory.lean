import Mathlib.Logic.Function.Basic
import Mathlib.Tactic.Common

/-!
# Byte memory with an access trace

A small state monad for code which reads and writes single bytes at computed
offsets.  Offsets are counted from the first byte of one buffer, and nothing
stops a program from leaving that buffer: an offset beyond it simply names
whatever memory lies there.  Every access is recorded, so that one definition
of a program answers both what it computes and where it has been.

Three judgements are derived from the trace and the memory.  `Within` bounds
the offsets which a program touches, and `Frame` lists what it leaves alone.
Both are stated at one starting state and have a rule for sequential
composition.  `Reads` is for programs which only read, and bounds the number
of their accesses too.
-/

namespace Fptn.TracedMemory

/-- Memory seen from the first byte of a buffer, and the offsets used so far. -/
structure Store where
  memory : Nat → UInt8
  touched : List Nat

/-- Programs over traced memory. -/
abbrev Mem := StateM Store

/-- Read one byte. -/
def load (offset : Nat) : Mem UInt8 := fun store =>
  (store.memory offset,
    { store with touched := offset :: store.touched })

/-- Write one byte. -/
def save (offset : Nat) (value : UInt8) : Mem Unit := fun store =>
  ((), {
    memory := Function.update store.memory offset value
    touched := offset :: store.touched })

/-- A store whose trace is still empty. -/
def Store.start (memory : Nat → UInt8) : Store := ⟨memory, []⟩

/-- The memory left by a program. -/
def memoryAfter (program : Mem α) (memory : Nat → UInt8) : Nat → UInt8 :=
  (program (Store.start memory)).2.memory

/-- The offsets touched by a program. -/
def touchedBy (program : Mem α) (memory : Nat → UInt8) : List Nat :=
  (program (Store.start memory)).2.touched

section Runs

variable {α β : Type}

@[simp]
theorem load_value (offset : Nat) (store : Store) :
    (load offset store).1 = store.memory offset :=
  rfl

@[simp]
theorem load_memory (offset : Nat) (store : Store) :
    (load offset store).2.memory = store.memory :=
  rfl

@[simp]
theorem load_touched (offset : Nat) (store : Store) :
    (load offset store).2.touched = offset :: store.touched :=
  rfl

@[simp]
theorem save_memory (offset : Nat) (value : UInt8) (store : Store) :
    (save offset value store).2.memory =
      Function.update store.memory offset value :=
  rfl

@[simp]
theorem save_touched (offset : Nat) (value : UInt8) (store : Store) :
    (save offset value store).2.touched = offset :: store.touched :=
  rfl

@[simp]
theorem pure_apply (value : α) (store : Store) :
    (pure value : Mem α) store = (value, store) :=
  rfl

@[simp]
theorem bind_apply
    (first : Mem α) (next : α → Mem β) (store : Store) :
    (first >>= next) store = next (first store).1 (first store).2 :=
  rfl

@[simp]
theorem map_apply (transform : α → β) (program : Mem α) (store : Store) :
    (transform <$> program) store =
      (transform (program store).1, (program store).2) :=
  rfl

@[simp]
theorem ite_apply_store
    (condition : Prop) [Decidable condition]
    (left right : Mem α) (store : Store) :
    (if condition then left else right) store =
      if condition then left store else right store := by
  split <;> rfl

end Runs

/-! ## Bounded access -/

/-- From `store`, every new access of `program` lies below `bound`. -/
def Within (bound : Nat) (program : Mem α) (store : Store) : Prop :=
  ∀ offset ∈ (program store).2.touched,
    offset ∈ store.touched ∨ offset < bound

namespace Within

variable {α β : Type} {bound : Nat} {store : Store}

theorem pure (value : α) :
    Within bound (Pure.pure value : Mem α) store := by
  intro offset member
  exact Or.inl member

theorem load {offset : Nat} (inside : offset < bound) :
    Within bound (load offset) store := by
  intro other member
  rcases List.mem_cons.mp member with rfl | earlier
  · exact Or.inr inside
  · exact Or.inl earlier

theorem save {offset : Nat} (value : UInt8) (inside : offset < bound) :
    Within bound (save offset value) store := by
  intro other member
  rcases List.mem_cons.mp member with rfl | earlier
  · exact Or.inr inside
  · exact Or.inl earlier

/-- Sequential composition: the second program starts where the first ended. -/
theorem bind {first : Mem α} {next : α → Mem β}
    (firstWithin : Within bound first store)
    (nextWithin :
      Within bound (next (first store).1) (first store).2) :
    Within bound (first >>= next) store := by
  intro offset member
  rcases nextWithin offset member with middle | inside
  · exact firstWithin offset middle
  · exact Or.inr inside

theorem ite {condition : Prop} [Decidable condition]
    {left right : Mem α}
    (leftWithin : condition → Within bound left store)
    (rightWithin : ¬ condition → Within bound right store) :
    Within bound (if condition then left else right) store := by
  split
  · exact leftWithin ‹_›
  · exact rightWithin ‹_›

theorem mono {smaller : Nat} {program : Mem α}
    (within : Within smaller program store) (le : smaller ≤ bound) :
    Within bound program store := by
  intro offset member
  exact
    (within offset member).imp_right fun inside =>
      Nat.lt_of_lt_of_le inside le

/-- From an empty trace, the judgement is about every access made. -/
theorem iff_touchedBy {program : Mem α} {memory : Nat → UInt8} :
    Within bound program (Store.start memory) ↔
      ∀ offset ∈ touchedBy program memory, offset < bound := by
  simp [Within, Store.start, touchedBy]

end Within

/-- A program never forgets an access. -/
def Extends (program : Mem α) : Prop :=
  ∀ store, store.touched ⊆ (program store).2.touched

namespace Extends

variable {α β : Type}

theorem pure (value : α) : Extends (Pure.pure value : Mem α) :=
  fun _ => List.Subset.refl _

theorem load (offset : Nat) : Extends (load offset) :=
  fun _ => List.subset_cons_self _ _

theorem save (offset : Nat) (value : UInt8) : Extends (save offset value) :=
  fun _ => List.subset_cons_self _ _

theorem bind {first : Mem α} {next : α → Mem β}
    (firstExtends : Extends first)
    (nextExtends : ∀ value, Extends (next value)) :
    Extends (first >>= next) :=
  fun store =>
    List.Subset.trans (firstExtends store) (nextExtends _ (first store).2)

theorem ite {condition : Prop} [Decidable condition]
    {left right : Mem α}
    (leftExtends : Extends left) (rightExtends : Extends right) :
    Extends (if condition then left else right) := by
  split
  · exact leftExtends
  · exact rightExtends

end Extends

/-! ## Frames -/

/-- From `store`, the program leaves every offset satisfying `kept` as it was. -/
def Frame (kept : Nat → Prop) (program : Mem α) (store : Store) : Prop :=
  ∀ offset, kept offset →
    (program store).2.memory offset = store.memory offset

namespace Frame

variable {α β : Type} {kept : Nat → Prop} {store : Store}

theorem pure (value : α) :
    Frame kept (Pure.pure value : Mem α) store :=
  fun _ _ => rfl

theorem load (offset : Nat) : Frame kept (load offset) store :=
  fun _ _ => rfl

theorem save {offset : Nat} (value : UInt8) (released : ¬ kept offset) :
    Frame kept (save offset value) store := by
  intro other keptOther
  have distinct : other ≠ offset := by
    rintro rfl
    exact released keptOther
  simp [distinct]

theorem bind {first : Mem α} {next : α → Mem β}
    (firstFrame : Frame kept first store)
    (nextFrame : Frame kept (next (first store).1) (first store).2) :
    Frame kept (first >>= next) store := by
  intro offset keptOffset
  calc
    ((first >>= next) store).2.memory offset =
        (first store).2.memory offset := nextFrame offset keptOffset
    _ = store.memory offset := firstFrame offset keptOffset

end Frame

/-! ## Programs which only read -/

/-- On this memory the program ends with `result` and leaves the memory as it
is.  It makes at most `count` accesses, all of them below `bound`. -/
def Reads (bound count : Nat) (program : Mem α) (memory : Nat → UInt8)
    (result : α) : Prop :=
  ∀ earlier, ∃ accesses : List Nat,
    program ⟨memory, earlier⟩ = (result, ⟨memory, accesses ++ earlier⟩) ∧
      accesses.length ≤ count ∧ ∀ offset ∈ accesses, offset < bound

namespace Reads

variable {α β : Type} {bound count : Nat} {memory : Nat → UInt8}
  {program : Mem α} {result : α}

theorem pure (value : α) :
    Reads bound count (Pure.pure value : Mem α) memory value :=
  fun _ => ⟨[], rfl, Nat.zero_le count, fun _ none => nomatch none⟩

theorem load {offset : Nat} (inside : offset < bound) :
    Reads bound 1 (load offset) memory (memory offset) := by
  intro earlier
  refine ⟨[offset], rfl, Nat.le_refl 1, ?_⟩
  intro other member
  rw [List.mem_singleton.mp member]
  exact inside

/-- Sequential composition: the accesses of both programs are counted. -/
theorem bind {first : Mem α} {next : α → Mem β} {middle : α} {last : β}
    {firstCount nextCount : Nat}
    (firstReads : Reads bound firstCount first memory middle)
    (nextReads : Reads bound nextCount (next middle) memory last) :
    Reads bound (firstCount + nextCount) (first >>= next) memory last := by
  intro earlier
  obtain ⟨front, firstRun, firstFew, firstInside⟩ := firstReads earlier
  obtain ⟨back, nextRun, nextFew, nextInside⟩ :=
    nextReads (front ++ earlier)
  refine ⟨back ++ front, ?_, ?_, ?_⟩
  · rw [bind_apply, firstRun, nextRun, List.append_assoc]
  · rw [List.length_append, Nat.add_comm]
    exact Nat.add_le_add firstFew nextFew
  · intro offset member
    exact
      (List.mem_append.mp member).elim (nextInside offset)
        (firstInside offset)

theorem ite {condition : Prop} [Decidable condition]
    {left right : Mem α} {leftResult rightResult : α}
    (leftReads : condition → Reads bound count left memory leftResult)
    (rightReads :
      ¬condition → Reads bound count right memory rightResult) :
    Reads bound count (if condition then left else right) memory
      (if condition then leftResult else rightResult) := by
  split
  · exact leftReads ‹_›
  · exact rightReads ‹_›

theorem mono {fewer : Nat} (reads : Reads bound fewer program memory result)
    (le : fewer ≤ count) : Reads bound count program memory result := by
  intro earlier
  obtain ⟨accesses, run, few, inside⟩ := reads earlier
  exact ⟨accesses, run, Nat.le_trans few le, inside⟩

/-- What is returned in the end costs nothing. -/
theorem bindPure (reads : Reads bound count program memory result)
    (transform : α → β) :
    Reads bound count
      (program >>= fun value => Pure.pure (transform value)) memory
      (transform result) :=
  @bind α β bound memory program _ result (transform result) count 0 reads
    (pure (transform result))

theorem value (reads : Reads bound count program memory result) :
    (program (Store.start memory)).1 = result := by
  obtain ⟨accesses, run, _⟩ := reads []
  exact congrArg Prod.fst run

theorem touchedBy_length (reads : Reads bound count program memory result) :
    (touchedBy program memory).length ≤ count := by
  obtain ⟨accesses, run, few, _⟩ := reads []
  rw [touchedBy, Store.start, run, List.append_nil]
  exact few

theorem touchedBy_inside (reads : Reads bound count program memory result) :
    ∀ offset ∈ touchedBy program memory, offset < bound := by
  obtain ⟨accesses, run, _, inside⟩ := reads []
  rw [touchedBy, Store.start, run, List.append_nil]
  exact inside

end Reads

end Fptn.TracedMemory
