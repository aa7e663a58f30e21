import Mathlib.Tactic.Common

/-!
# Scanning a buffer for records

A decoder which looks for a record at increasing offsets of its input buffer.
What it thinks of an offset is a parameter, and so is the size a window must
have for that; the decoder extracts at most one record at a time.
-/

namespace Fptn.RecordScan

/-- What the bytes at an offset are taken for. -/
inductive Verdict where
  /-- No header; try the next offset. -/
  | skip
  /-- Not a stream of records at all. -/
  | pass
  /-- A header whose record is incomplete. -/
  | wait
  /-- A record of this size. -/
  | record (payload : List UInt8) (size : Nat)

/-- Where a search has ended. -/
inductive Found where
  | stopped (offset : Nat)
  | passed
  | record (offset : Nat) (payload : List UInt8) (size : Nat)

variable (headerSize : Nat) (inspect : Nat → List UInt8 → Verdict)

/-- The search loop; `remaining` is the length of the window. -/
def search : List UInt8 → Nat → Nat → Found
  | [], _, offset => .stopped offset
  | byte :: rest, remaining, offset =>
      if remaining < headerSize then
        .stopped offset
      else
        match inspect offset (byte :: rest) with
        | .skip => search rest (remaining - 1) (offset + 1)
        | .pass => .passed
        | .wait => .stopped offset
        | .record payload size => .record offset payload size

/-- The decoded bytes, unless there are none, and what stays buffered. -/
def decode (buffer : List UInt8) : Option (List UInt8) × List UInt8 :=
  match search headerSize inspect buffer buffer.length 0 with
  | .stopped offset => (none, buffer.drop offset)
  | .passed => (some buffer, [])
  | .record offset payload size =>
      (if payload.isEmpty then none else some payload,
        buffer.take offset ++ buffer.drop (offset + size))

variable {headerSize} {inspect} {buffer payload : List UInt8} {size : Nat}

/-- A buffer shorter than a header is kept. -/
theorem decode_of_short (short : buffer.length < headerSize) :
    decode headerSize inspect buffer = (none, buffer) := by
  cases buffer with
  | nil => rfl
  | cons byte rest =>
      rw [decode, search, if_pos short]
      rfl

section Long

variable (positive : 0 < headerSize) (long : headerSize ≤ buffer.length)

include positive long

/-- With a complete header the search begins by inspecting the buffer. -/
theorem search_start :
    search headerSize inspect buffer buffer.length 0 =
      match inspect 0 buffer with
      | .skip =>
          search headerSize inspect buffer.tail (buffer.length - 1) 1
      | .pass => .passed
      | .wait => .stopped 0
      | .record payload size => .record 0 payload size := by
  cases buffer with
  | nil =>
      rw [List.length_nil] at long
      omega
  | cons byte rest =>
      rw [search, if_neg (Nat.not_lt.mpr long)]
      rfl

theorem decode_of_wait (waits : inspect 0 buffer = .wait) :
    decode headerSize inspect buffer = (none, buffer) := by
  rw [decode, search_start positive long, waits]
  rfl

theorem decode_of_pass (passes : inspect 0 buffer = .pass) :
    decode headerSize inspect buffer = (some buffer, []) := by
  rw [decode, search_start positive long, passes]

/-- A record at the front is taken out. -/
theorem decode_of_front
    (found : inspect 0 buffer = .record payload size) :
    decode headerSize inspect buffer =
      (if payload.isEmpty then none else some payload,
        buffer.drop size) := by
  rw [decode, search_start positive long, found]
  simp

/-- A record at the front is extracted. -/
theorem decode_of_record (found : inspect 0 buffer = .record payload size)
    (nonempty : payload ≠ []) :
    decode headerSize inspect buffer =
      (some payload, buffer.drop size) := by
  rw [decode_of_front positive long found]
  simp [nonempty]

end Long

/-- A search which finds nothing stops short of a header. -/
theorem search_of_skip (positive : 0 < headerSize)
    {window : List UInt8} {offset : Nat}
    (skips : ∀ place later, later <:+ window →
      headerSize ≤ later.length → inspect place later = .skip) :
    ∃ passed,
      search headerSize inspect window window.length offset =
          .stopped (offset + passed) ∧
        (window.drop passed).length < headerSize := by
  induction window generalizing offset with
  | nil => exact ⟨0, rfl, positive⟩
  | cons byte rest ih =>
      rw [search]
      split
      · rename_i short
        exact ⟨0, rfl, short⟩
      · rename_i long
        rw [skips offset _ (List.suffix_refl _) (Nat.not_lt.mp long)]
        obtain ⟨passed, stopped, short⟩ :=
          ih fun place later ends =>
            skips place later (ends.trans (List.suffix_cons byte rest))
        refine ⟨passed + 1, ?_, short⟩
        rw [List.length_cons, Nat.add_sub_cancel]
        refine (stopped.trans ?_)
        congr 1
        omega

/-- A buffer in which nothing is taken for a header is dropped, up to what
is shorter than a header. -/
theorem decode_of_skip (positive : 0 < headerSize)
    (skips : ∀ place later, later <:+ buffer →
      headerSize ≤ later.length → inspect place later = .skip) :
    ∃ kept, decode headerSize inspect buffer = (none, kept) ∧
      kept.length < headerSize := by
  obtain ⟨passed, stopped, short⟩ := search_of_skip positive skips
  refine ⟨buffer.drop passed, ?_, short⟩
  rw [decode, stopped, Nat.zero_add]

/-! ## Where a search ends -/

section Ends

variable (headerSize inspect)

/-- The first place of a buffer which is not skipped, and what it is taken
for. -/
structure Decides (buffer : List UInt8) (place : Nat) (verdict : Verdict) :
    Prop where
  long : headerSize ≤ (buffer.drop place).length
  found : inspect place (buffer.drop place) = verdict
  skipped : ∀ earlier < place,
    inspect earlier (buffer.drop earlier) = .skip

/-- What has to be so where a search ends. -/
def EndsAt (buffer : List UInt8) : Found → Prop
  | .stopped place =>
      (buffer.drop place).length < headerSize ∨
        Decides headerSize inspect buffer place .wait
  | .passed => ∃ place, Decides headerSize inspect buffer place .pass
  | .record place payload size =>
      Decides headerSize inspect buffer place (.record payload size)

variable {headerSize inspect}

theorem endsAt_search_from (positive : 0 < headerSize) {place : Nat}
    {window : List UInt8} (here : buffer.drop place = window)
    (skipped : ∀ earlier < place,
      inspect earlier (buffer.drop earlier) = .skip) :
    EndsAt headerSize inspect buffer
      (search headerSize inspect window window.length place) := by
  induction window generalizing place with
  | nil =>
      refine Or.inl ?_
      rw [here]
      exact positive
  | cons byte rest ih =>
      rw [search]
      split
      · rename_i short
        refine Or.inl ?_
        rw [here]
        exact short
      · rename_i long
        have enough : headerSize ≤ (buffer.drop place).length := by
          rw [here]
          exact Nat.not_lt.mp long
        have next : buffer.drop (place + 1) = rest := by
          rw [← List.drop_drop, here, List.drop_succ_cons, List.drop_zero]
        split
        · rename_i skip
          rw [List.length_cons, Nat.add_sub_cancel]
          refine ih next fun earlier before => ?_
          rcases Nat.lt_succ_iff_lt_or_eq.mp before with sooner | rfl
          · exact skipped earlier sooner
          · rw [here]
            exact skip
        · rename_i pass
          exact ⟨place, enough, by rw [here]; exact pass, skipped⟩
        · rename_i wait
          exact Or.inr ⟨enough, by rw [here]; exact wait, skipped⟩
        · rename_i payload size record
          exact ⟨enough, by rw [here]; exact record, skipped⟩

theorem endsAt_search (positive : 0 < headerSize) (buffer : List UInt8) :
    EndsAt headerSize inspect buffer
      (search headerSize inspect buffer buffer.length 0) :=
  endsAt_search_from positive rfl fun _ before =>
    absurd before (Nat.not_lt_zero _)

/-- A decoding which finds no data. -/
theorem decode_none (positive : 0 < headerSize) {rest : List UInt8}
    (nothing : decode headerSize inspect buffer = (none, rest)) :
    rest.length < headerSize ∨
      (∃ place, Decides headerSize inspect buffer place .wait ∧
        rest = buffer.drop place) ∨
      ∃ place size,
        Decides headerSize inspect buffer place (.record [] size) ∧
          rest = buffer.take place ++ buffer.drop (place + size) := by
  have ends := @endsAt_search headerSize inspect positive buffer
  rw [decode] at nothing
  cases found : search headerSize inspect buffer buffer.length 0 with
  | stopped place =>
      rw [found] at ends nothing
      obtain ⟨_, rfl⟩ := Prod.mk.inj nothing
      exact ends.imp_right fun waits => Or.inl ⟨place, waits, rfl⟩
  | passed =>
      rw [found] at nothing
      cases nothing
  | record place payload size =>
      rw [found] at ends nothing
      obtain ⟨empty, rfl⟩ := Prod.mk.inj nothing
      have noPayload : payload = [] := by
        by_contra some_
        rw [if_neg (by simpa using some_)] at empty
        cases empty
      subst noPayload
      exact Or.inr (Or.inr ⟨place, size, ends, rfl⟩)

/-- A decoding which finds data and leaves nothing has found the one record
which is the buffer, or has passed it on. -/
theorem decode_all (positive : 0 < headerSize) {output : List UInt8}
    (found : decode headerSize inspect buffer = (some output, [])) :
    (output = buffer ∧
        ∃ place, Decides headerSize inspect buffer place .pass) ∨
      output ≠ [] ∧
        ∃ size, Decides headerSize inspect buffer 0 (.record output size) := by
  have ends := @endsAt_search headerSize inspect positive buffer
  rw [decode] at found
  cases ended : search headerSize inspect buffer buffer.length 0 with
  | stopped place =>
      rw [ended] at found
      cases found
  | passed =>
      rw [ended] at ends found
      obtain ⟨same, _⟩ := Prod.mk.inj found
      exact Or.inl ⟨(Option.some.inj same).symm, ends⟩
  | record place payload size =>
      rw [ended] at ends found
      obtain ⟨same, nothing⟩ := Prod.mk.inj found
      have some_ : payload ≠ [] := by
        rintro rfl
        cases same
      rw [if_neg (by simpa using some_)] at same
      obtain rfl := Option.some.inj same
      have long := ends.long
      have front := congrArg List.length
        (List.append_eq_nil_iff.mp nothing).1
      rw [List.length_drop] at long
      rw [List.length_take, List.length_nil] at front
      obtain rfl : place = 0 := by omega
      exact Or.inr ⟨some_, size, ends⟩

/-- A decoding takes something, if records have a size, unless it waits. -/
theorem decode_progress (positive : 0 < headerSize)
    (sized : ∀ place payload size,
      Decides headerSize inspect buffer place (.record payload size) →
        0 < size ∧ place + size ≤ buffer.length)
    (long : headerSize ≤ buffer.length) :
    (decode headerSize inspect buffer).2.length < buffer.length ∨
      Decides headerSize inspect buffer 0 .wait := by
  have ends := @endsAt_search headerSize inspect positive buffer
  rw [decode]
  cases found : search headerSize inspect buffer buffer.length 0 with
  | stopped place =>
      rw [found] at ends
      cases place with
      | zero =>
          refine Or.inr (ends.resolve_left ?_)
          rw [List.drop_zero]
          exact Nat.not_lt.mpr long
      | succ place =>
          refine Or.inl ?_
          change (buffer.drop (place + 1)).length < _
          rw [List.length_drop]
          omega
  | passed =>
      exact Or.inl (Nat.lt_of_lt_of_le positive long)
  | record place payload size =>
      rw [found] at ends
      obtain ⟨some_, inside⟩ := sized place payload size ends
      refine Or.inl ?_
      change (buffer.take place ++ buffer.drop (place + size)).length < _
      rw [List.length_append, List.length_take, List.length_drop]
      omega

/-- Nothing is made up. -/
theorem decode_length_le :
    (decode headerSize inspect buffer).2.length ≤ buffer.length := by
  rw [decode]
  cases search headerSize inspect buffer buffer.length 0 with
  | stopped place =>
      change (buffer.drop place).length ≤ _
      rw [List.length_drop]
      omega
  | passed => exact Nat.zero_le _
  | record place payload size =>
      change (buffer.take place ++ buffer.drop (place + size)).length ≤ _
      rw [List.length_append, List.length_take, List.length_drop]
      omega

end Ends

end Fptn.RecordScan
