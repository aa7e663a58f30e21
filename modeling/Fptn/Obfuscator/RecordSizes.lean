import Fptn.Obfuscator.Methods

/-!
# Records of any size

`Obfuscate` does not look at the size of its data.  The header has sixteen
bits for the content's length and for the payload's, and a larger number is
cut.  What a decoder then makes of the record differs between the methods:
one compares both numbers, the other does not.  `write_some` passes on
buffers of any size.
-/

namespace Fptn.Obfuscator.RecordSizes

open Fptn.BigEndian
open Fptn.RecordScan
open Fptn.Obfuscator.Methods

/-! ## Preparing and feeding a record -/

/-- What `Obfuscate` returns. -/
def prepared (method : Method) (draw : Draw) (now : UInt32)
    (data : List UInt8) : Option (List UInt8) :=
  let result := method.obfuscator.obfuscate draw now data
  if !result.isEmpty then
    some result
  else
    none

/-- What `write_some` puts on the wire, and the count which it returns. -/
def writeSome (method : Method) (draw : Draw) (now : UInt32)
    (plainData : List UInt8) : Option (List UInt8 × Nat) :=
  match prepared method draw now plainData with
  | none => none
  | some obfuscated => some (obfuscated, plainData.length)

/-- The input buffer of a fresh decoder which has been given chunks. -/
def feed (method : Method) (chunks : List (List UInt8)) : List UInt8 :=
  chunks.foldl
    (fun buffer chunk => (method.obfuscator.addData buffer chunk).1) []

/-- The content's length as a header should have it. -/
def contentLength : Method → Nat → Nat → Nat
  | .tls, size, padding => 8 + 2 + 1 + 1 + 2 + 1 + size + padding
  | .tls2, size, padding => 8 + 4 + 1 + 2 + 2 + size + padding

/-- The payload's length in a header. -/
def payloadField : Method → List UInt8 → Nat
  | .tls, record => field 17 2 record
  | .tls2, record => field 18 2 record

/-- `Obfuscate` fails, or a fresh decoder returns the data and keeps nothing,
however the record comes, and no number of the header is cut. -/
def FailsOrRestores (method : Method) (draw : Draw) (stamp : UInt32)
    (now : Nat → UInt32) (data : List UInt8) : Prop :=
  ∀ record, prepared method draw stamp data = some record →
    (∀ chunks : List (List UInt8), chunks.flatten = record →
      method.obfuscator.deobfuscate now (feed method chunks) =
        (some data, [])) ∧
      field 3 2 record =
        contentLength method data.length draw.padding.length ∧
      payloadField method record = data.length

/-- The sizes for which a record can be decoded. -/
def Fits : Method → Nat → Nat → Prop
  | .tls, size, padding =>
      20 + size + padding ≤ tlsObfuscator.kMaxBufferSize
  | .tls2, size, padding => contentLength .tls2 size padding < 65536

section Preparing

variable {method : Method} {draw : Draw} {stamp : UInt32}
  {data : List UInt8}

theorem obfuscate_size :
    (method.obfuscator.obfuscate draw stamp data).length =
      method.obfuscator.headerSize + data.length + draw.padding.length :=
  method.recognises.obfuscate_length

/-- `Obfuscate` never fails. -/
theorem prepared_eq :
    prepared method draw stamp data =
      some (method.obfuscator.obfuscate draw stamp data) := by
  refine if_pos ?_
  have size := @obfuscate_size method draw stamp data
  have positive := method.recognises.positive
  cases same : method.obfuscator.obfuscate draw stamp data with
  | nil =>
      rw [same, List.length_nil] at size
      omega
  | cons byte rest => rfl

/-- `write_some` reports all of the data as written, whatever their size. -/
theorem writeSome_eq :
    writeSome method draw stamp data =
      some (method.obfuscator.obfuscate draw stamp data, data.length) := by
  rw [writeSome, prepared_eq]

theorem take_take_append (count : Nat) (front back : List UInt8) :
    (front.take count ++ back).take count = (front ++ back).take count := by
  by_cases few : front.length ≤ count
  · rw [List.take_of_length_le few]
  · have many : count ≤ front.length := Nat.le_of_not_le few
    rw [List.take_append_of_le_length many,
      List.take_append_of_le_length
        (List.length_take_of_le many).ge, List.take_take, Nat.min_self]

/-- The chunks of a record are all added, as far as there is room. -/
theorem feed_eq_take (chunks : List (List UInt8)) :
    feed method chunks =
      chunks.flatten.take method.obfuscator.kMaxBufferSize := by
  have added : ∀ buffer : List UInt8,
      buffer.length ≤ method.obfuscator.kMaxBufferSize →
        chunks.foldl
            (fun buffer chunk =>
              (method.obfuscator.addData buffer chunk).1) buffer =
          (buffer ++ chunks.flatten).take
            method.obfuscator.kMaxBufferSize := by
    induction chunks with
    | nil =>
        intro buffer within
        rw [List.flatten_nil, List.append_nil,
          List.take_of_length_le within]
        rfl
    | cons chunk chunks ih =>
        intro buffer within
        rw [List.foldl_cons, method.obfuscator.addData_eq_take within,
          ih _ (List.length_take_le _ _), take_take_append,
          List.append_assoc, List.flatten_cons]
  exact added [] (Nat.zero_le _)

end Preparing

/-! ## The front of a record -/

/-- Whether a decoder takes a written header for one. -/
def Accepts (method : Method) (stamp now : UInt32) (size padding : Nat) :
    Prop :=
  match method with
  | .tls => 15 ≤ contentLength .tls size padding % 65536
  | .tls2 =>
      Timely stamp now ∧
        17 + size % 65536 + padding ≤
          contentLength .tls2 size padding % 65536

section Front

variable {method : Method} {draw : Draw} {stamp : UInt32} {size : Nat}
  {now : Nat → UInt32}

/-- The decoder goes by the size which is left of the payload's length. -/
theorem inspect_of_accepts
    (padded : draw.padding.length ≤ method.obfuscator.maxPadding)
    (accepts : Accepts method stamp (now 0) size draw.padding.length)
    (tail : List UInt8) :
    method.obfuscator.inspect now 0
        (method.obfuscator.header draw stamp size ++ tail) =
      if tail.length < size % 65536 + draw.padding.length then
        .wait
      else
        .record (applyXorTransform draw.xorKey (tail.take (size % 65536)))
          (method.obfuscator.headerSize + size % 65536 +
            draw.padding.length) := by
  cases method with
  | tls =>
      simp only [Method.obfuscator, tlsObfuscator]
      exact TlsObfuscator.inspect_header padded accepts stamp now tail
  | tls2 =>
      simp only [Method.obfuscator, tlsObfuscator2]
      exact TlsObfuscator2.inspect_header padded accepts.1 accepts.2 tail

/-- A header whose numbers were cut in this way is skipped. -/
theorem inspect_of_not_accepts
    (padded : draw.padding.length ≤ method.obfuscator.maxPadding)
    (rejects : ¬ Accepts method stamp (now 0) size draw.padding.length)
    (tail : List UInt8) :
    method.obfuscator.inspect now 0
        (method.obfuscator.header draw stamp size ++ tail) = .skip := by
  cases method with
  | tls =>
      have content :
          ¬ 15 ≤ (8 + 2 + 1 + 1 + 2 + 1 + size + draw.padding.length) %
            256 ^ 2 := rejects
      have written := TlsObfuscator.header_written draw stamp size tail
      have ours :=
        TlsObfuscator.isFptnProtocol_header draw stamp size tail
      simp only [Method.obfuscator, tlsObfuscator, TlsObfuscator.inspect]
      rw [ours, written.contentLength, if_neg (by simp), if_pos]
      omega
  | tls2 =>
      have paddedFew : draw.padding.length ≤ 8192 := padded
      have written := TlsObfuscator2.header_written draw stamp size tail
      have padding : draw.padding.length % 256 ^ 2 = draw.padding.length :=
        Nat.mod_eq_of_lt (by omega)
      simp only [Method.obfuscator, tlsObfuscator2,
        TlsObfuscator2.inspect]
      rw [TlsObfuscator2.isFptnProtocol_header]
      cases valid : TlsObfuscator2.isValidTimestamp (now 0) stamp with
      | false => rfl
      | true =>
          have cut : ¬ 17 + size % 65536 + draw.padding.length ≤
              contentLength .tls2 size draw.padding.length % 65536 :=
            fun content => rejects ⟨isValidTimestamp_iff.mp valid, content⟩
          rw [written.payloadLength, written.paddingLength, padding,
            written.contentLength, if_neg (by simp), if_pos]
          exact Nat.not_le.mp cut

/-- The second method never passes on bytes as they are. -/
theorem inspect_ne_pass (place : Nat) (window : List UInt8) :
    tlsObfuscator2.inspect now place window ≠ .pass := by
  intro passes
  simp only [tlsObfuscator2, TlsObfuscator2.inspect] at passes
  split at passes
  · cases passes
  split at passes
  · cases passes
  split at passes
  · cases passes
  · cases passes

end Front

/-! ## What a fresh decoder makes of a record -/

section Decoding

variable {method : Method} {draw : Draw} {stamp : UInt32}
  {now : Nat → UInt32} {data : List UInt8}

/-- What of a record fits the input buffer. -/
def fedTail (method : Method) (draw : Draw) (data : List UInt8) :
    List UInt8 :=
  (applyXorTransform draw.xorKey data ++ draw.padding).take
    (method.obfuscator.kMaxBufferSize - method.obfuscator.headerSize)

theorem headerSize_le : method.obfuscator.headerSize ≤
    method.obfuscator.kMaxBufferSize := by
  cases method <;> decide

theorem take_obfuscate :
    (method.obfuscator.obfuscate draw stamp data).take
        method.obfuscator.kMaxBufferSize =
      method.obfuscator.header draw stamp data.length ++
        fedTail method draw data := by
  have size := method.recognises.headerLength draw stamp data.length
  rw [IObfuscator.obfuscate, List.take_append, size,
    List.take_of_length_le]
  · rfl
  · rw [size]
    exact headerSize_le

theorem fedTail_length :
    (fedTail method draw data).length =
      min
        (method.obfuscator.kMaxBufferSize - method.obfuscator.headerSize)
        (data.length + draw.padding.length) := by
  rw [fedTail, List.length_take, List.length_append,
    applyXorTransform_length]

/-- A record which the decoder takes is not passed on instead. -/
theorem not_passed
    (padded : draw.padding.length ≤ method.obfuscator.maxPadding)
    (same : data =
      method.obfuscator.header draw stamp data.length ++
        fedTail method draw data)
    {place : Nat}
    (passes : Decides method.obfuscator.headerSize
      (method.obfuscator.inspect now)
      (method.obfuscator.header draw stamp data.length ++
        fedTail method draw data) place .pass) : False := by
  cases method with
  | tls2 => exact inspect_ne_pass _ _ passes.found
  | tls =>
      have paddedFew : draw.padding.length ≤ 255 := padded
      have length := congrArg List.length same
      rw [List.length_append, (Method.recognises .tls).headerLength,
        fedTail_length] at length
      have size : data.length = 65536 := by
        change data.length =
          20 + min (65536 - 20) (data.length + draw.padding.length)
          at length
        omega
      have accepts : Accepts .tls stamp (now 0) data.length
          draw.padding.length := by
        change 15 ≤ (8 + 2 + 1 + 1 + 2 + 1 + data.length +
          draw.padding.length) % 65536
        omega
      have front := inspect_of_accepts padded accepts
        (fedTail .tls draw data)
      cases place with
      | zero =>
          have found := passes.found
          rw [List.drop_zero, front] at found
          split at found <;> cases found
      | succ place =>
          have skipped := passes.skipped 0 (Nat.succ_pos place)
          rw [List.drop_zero, front] at skipped
          split at skipped <;> cases skipped

/-- Where the decoder returns the data, it has accepted the header, and
neither the size nor the record was cut. -/
theorem accepts_of_deobfuscate
    (padded : draw.padding.length ≤ method.obfuscator.maxPadding)
    (restored :
      method.obfuscator.deobfuscate now
          (method.obfuscator.header draw stamp data.length ++
            fedTail method draw data) =
        (some data, [])) :
    data ≠ [] ∧
      Accepts method stamp (now 0) data.length draw.padding.length ∧
      data.length < 65536 ∧
      method.obfuscator.headerSize + data.length + draw.padding.length ≤
        method.obfuscator.kMaxBufferSize := by
  rcases decode_all method.recognises.positive restored with
    ⟨same, place, passes⟩ | ⟨nonempty, size, record⟩
  · exact (not_passed padded same passes).elim
  · have found := record.found
    rw [List.drop_zero] at found
    have accepts : Accepts method stamp (now 0) data.length
        draw.padding.length := by
      by_contra rejects
      rw [inspect_of_not_accepts padded rejects] at found
      cases found
    rw [inspect_of_accepts padded accepts] at found
    split at found
    · cases found
    · rename_i whole
      obtain ⟨payload, _⟩ := Verdict.record.inj found
      have length := congrArg List.length payload
      rw [applyXorTransform_length, List.length_take] at length
      have within := @headerSize_le method
      rw [fedTail_length] at whole length
      refine ⟨nonempty, accepts, ?_, ?_⟩
      · omega
      · omega

/-- In that case it returns them. -/
theorem deobfuscate_of_accepts
    (padded : draw.padding.length ≤ method.obfuscator.maxPadding)
    (nonempty : data ≠ [])
    (accepts : Accepts method stamp (now 0) data.length
      draw.padding.length)
    (small : data.length < 65536) :
    method.obfuscator.deobfuscate now
        (method.obfuscator.obfuscate draw stamp data) =
      (some data, []) := by
  have found := inspect_of_accepts padded accepts
    (applyXorTransform draw.xorKey data ++ draw.padding)
  have size : data.length % 65536 = data.length :=
    Nat.mod_eq_of_lt small
  rw [size, if_neg (by simp), List.take_left' (applyXorTransform_length _ _),
    applyXorTransform_twice, ← IObfuscator.obfuscate] at found
  rw [IObfuscator.deobfuscate,
    decode_of_record method.recognises.positive ?_ found nonempty,
    ← obfuscate_size, List.drop_length]
  rw [obfuscate_size]
  omega

/-- The numbers of a header are not cut if they fit. -/
theorem fields_of_small
    (small : contentLength method data.length draw.padding.length < 65536) :
    field 3 2 (method.obfuscator.obfuscate draw stamp data) =
        contentLength method data.length draw.padding.length ∧
      payloadField method (method.obfuscator.obfuscate draw stamp data) =
        data.length := by
  have size : data.length < 65536 := by
    refine Nat.lt_of_le_of_lt ?_ small
    cases method <;> simp only [contentLength] <;> omega
  cases method with
  | tls =>
      have written := TlsObfuscator.header_written draw stamp data.length
        (applyXorTransform draw.xorKey data ++ draw.padding)
      exact
        ⟨written.contentLength.trans (Nat.mod_eq_of_lt small),
          written.payloadLength.trans (Nat.mod_eq_of_lt size)⟩
  | tls2 =>
      have written := TlsObfuscator2.header_written draw stamp data.length
        (applyXorTransform draw.xorKey data ++ draw.padding)
      exact
        ⟨written.contentLength.trans (Nat.mod_eq_of_lt small),
          written.payloadLength.trans (Nat.mod_eq_of_lt size)⟩

end Decoding

/-! ## When nothing is lost -/

section Sizes

variable {method : Method} {draw : Draw} {stamp : UInt32}
  {now : Nat → UInt32} {data : List UInt8}

/-- The sizes which are neither cut nor too large for the buffer. -/
theorem fits_iff
    (padded : draw.padding.length ≤ method.obfuscator.maxPadding) :
    Accepts method stamp (now 0) data.length draw.padding.length ∧
        data.length < 65536 ∧
        method.obfuscator.headerSize + data.length + draw.padding.length ≤
          method.obfuscator.kMaxBufferSize ↔
      method.InTime stamp (now 0) ∧
        Fits method data.length draw.padding.length := by
  cases method with
  | tls =>
      have paddedFew : draw.padding.length ≤ 255 := padded
      change 15 ≤ (8 + 2 + 1 + 1 + 2 + 1 + data.length +
          draw.padding.length) % 65536 ∧ data.length < 65536 ∧
            20 + data.length + draw.padding.length ≤ 65536 ↔
        True ∧ 20 + data.length + draw.padding.length ≤ 65536
      constructor
      · rintro ⟨-, -, whole⟩
        exact ⟨trivial, whole⟩
      · rintro ⟨-, whole⟩
        rw [Nat.mod_eq_of_lt (by omega)]
        exact ⟨by omega, by omega, whole⟩
  | tls2 =>
      have paddedFew : draw.padding.length ≤ 8192 := padded
      change (Timely stamp (now 0) ∧
          17 + data.length % 65536 + draw.padding.length ≤
            (8 + 4 + 1 + 2 + 2 + data.length + draw.padding.length) %
              65536) ∧ data.length < 65536 ∧
          22 + data.length + draw.padding.length ≤ 262144 ↔
        Timely stamp (now 0) ∧
          8 + 4 + 1 + 2 + 2 + data.length + draw.padding.length < 65536
      constructor
      · rintro ⟨⟨inTime, content⟩, small, -⟩
        exact ⟨inTime, by omega⟩
      · rintro ⟨inTime, small⟩
        exact ⟨⟨inTime, by omega⟩, by omega, by omega⟩

theorem contentLength_of_fits
    (fits : Fits method data.length draw.padding.length) :
    contentLength method data.length draw.padding.length < 65536 := by
  cases method with
  | tls =>
      change 20 + data.length + draw.padding.length ≤ 65536 at fits
      change 8 + 2 + 1 + 1 + 2 + 1 + data.length + draw.padding.length <
        65536
      omega
  | tls2 => exact fits

/-- What has to hold for nothing to be lost. -/
theorem fits_of_restores
    (padded : draw.padding.length ≤ method.obfuscator.maxPadding)
    (restores : FailsOrRestores method draw stamp now data) :
    data ≠ [] ∧ method.InTime stamp (now 0) ∧
      Fits method data.length draw.padding.length := by
  have restored :=
    (restores _ prepared_eq).1
      [method.obfuscator.obfuscate draw stamp data] (List.append_nil _)
  rw [feed_eq_take, List.flatten_singleton, take_obfuscate] at restored
  obtain ⟨nonempty, accepted⟩ := accepts_of_deobfuscate padded restored
  exact ⟨nonempty, (fits_iff padded).mp accepted⟩

/-- A record restores its data exactly if these are not empty, the clocks
agree, and nothing in it is too large: for the first method the record has to
fit the input buffer, for the second one the content's length has to fit its
field. -/
theorem obfuscate_restores_iff
    (padded : draw.padding.length ≤ method.obfuscator.maxPadding) :
    FailsOrRestores method draw stamp now data ↔
      data ≠ [] ∧ method.InTime stamp (now 0) ∧
        Fits method data.length draw.padding.length := by
  constructor
  · exact fits_of_restores padded
  · rintro ⟨nonempty, inTime, fits⟩ record made
    rw [prepared_eq] at made
    obtain rfl := Option.some.inj made
    obtain ⟨accepts, small, whole⟩ := (fits_iff padded).mpr ⟨inTime, fits⟩
    refine ⟨fun chunks same => ?_,
      fields_of_small (contentLength_of_fits fits)⟩
    rw [feed_eq_take, same, List.take_of_length_le]
    · exact deobfuscate_of_accepts padded nonempty accepts small
    · rw [obfuscate_size]
      exact whole

theorem obfuscate_restores_short :
    FailsOrRestores .tls ⟨0, 1, List.replicate 64 0⟩ 0 (fun _ => 0)
      [1, 2, 3] := by
  have fits : 20 + 3 + 64 ≤ 65536 := by decide
  exact (obfuscate_restores_iff (by decide)).mpr ⟨by decide, trivial, fits⟩

/-- Data of 65536 bytes, and data with which the content's length is just
too large. -/
theorem obfuscate_cuts :
    ¬ FailsOrRestores .tls ⟨0, 1, List.replicate 64 0⟩ 0 (fun _ => 0)
        (List.replicate 65536 0) ∧
      ¬ FailsOrRestores .tls2 ⟨0, 1, List.replicate 4095 0⟩ 0
        (fun _ => 0) (List.replicate 61424 0) := by
  constructor
  · intro restores
    have fits := (fits_of_restores
      (by rw [List.length_replicate]; decide) restores).2.2
    rw [List.length_replicate, List.length_replicate] at fits
    exact absurd fits (by decide : ¬ 20 + 65536 + 64 ≤ 65536)
  · intro restores
    have fits := (fits_of_restores
      (by rw [List.length_replicate]; decide) restores).2.2
    rw [List.length_replicate, List.length_replicate] at fits
    exact absurd fits
      (by decide : ¬ 8 + 4 + 1 + 2 + 2 + 61424 + 4095 < 65536)

end Sizes

end Fptn.Obfuscator.RecordSizes
