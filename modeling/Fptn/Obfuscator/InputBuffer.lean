import Fptn.Obfuscator.TcpStream

/-!
# The input buffer of an obfuscator

What a peer may do to the input buffer.  The buffer has a limit, and `AddData`
drops what does not fit; nobody looks at what it returns.  The read loops take
one record out of the buffer for each time they add to it, or two if the first
one has no payload.

The peer need not have an obfuscator: it may send any bytes.
-/

namespace Fptn.Obfuscator.InputBuffer

open Fptn.BigEndian
open Fptn.PartialRun
open Fptn.RecordScan
open Fptn.Obfuscator.Methods
open Fptn.Obfuscator.TcpStream

/-! ## Records in the buffer -/

/-- The size of the record of which this is the beginning. -/
def declaredSize : Method → List UInt8 → Nat
  | .tls, window => 20 + field 17 2 window + field 19 1 window
  | .tls2, window => 22 + field 18 2 window + field 20 2 window

section Records

variable {method : Method} {now : Nat → UInt32} {place size : Nat}
  {window payload buffer : List UInt8}

theorem declaredSize_of_wait
    (waits : method.obfuscator.inspect now place window = .wait) :
    window.length < declaredSize method window := by
  cases method with
  | tls =>
      simp only [Method.obfuscator, tlsObfuscator,
        TlsObfuscator.inspect] at waits
      split at waits
      · cases waits
      split at waits
      · cases waits
      split at waits
      · assumption
      · cases waits
  | tls2 =>
      simp only [Method.obfuscator, tlsObfuscator2,
        TlsObfuscator2.inspect] at waits
      split at waits
      · cases waits
      split at waits
      · cases waits
      split at waits
      · assumption
      · cases waits

theorem declaredSize_of_record
    (found : method.obfuscator.inspect now place window =
      .record payload size) :
    size = declaredSize method window ∧ size ≤ window.length := by
  cases method with
  | tls =>
      simp only [Method.obfuscator, tlsObfuscator,
        TlsObfuscator.inspect] at found
      split at found
      · cases found
      split at found
      · cases found
      split at found
      · cases found
      next whole =>
        cases found
        exact ⟨rfl, Nat.not_lt.mp whole⟩
  | tls2 =>
      simp only [Method.obfuscator, tlsObfuscator2,
        TlsObfuscator2.inspect] at found
      split at found
      · cases found
      split at found
      · cases found
      split at found
      · cases found
      next whole =>
        cases found
        exact ⟨rfl, Nat.not_lt.mp whole⟩

theorem headerSize_le_declaredSize :
    method.obfuscator.headerSize ≤ declaredSize method window := by
  cases method with
  | tls => exact (Nat.le_add_right _ _).trans (Nat.le_add_right _ _)
  | tls2 => exact (Nat.le_add_right _ _).trans (Nat.le_add_right _ _)

/-- A header in the buffer, in front of which there is none. -/
abbrev HeaderAt (method : Method) (now : Nat → UInt32) :=
  Decides method.obfuscator.headerSize (method.obfuscator.inspect now)

/-- A record which is in the buffer is taken out of it. -/
theorem sized_of_headerAt
    (found : HeaderAt method now buffer place (.record payload size)) :
    0 < size ∧ place + size ≤ buffer.length := by
  obtain ⟨same, inside⟩ := declaredSize_of_record found.found
  have positive := method.recognises.positive
  have least :=
    @headerSize_le_declaredSize method (buffer.drop place)
  have long := found.long
  rw [List.length_drop] at inside long
  omega

end Records

/-! ## Peers without an obfuscator -/

/-- A link from a peer without an obfuscator. -/
def fromAnyone : Link := { Link.start with attached := false }

/-- A write of a peer without an obfuscator, in the form of the labels. -/
def sends (method : Method) (data : List UInt8) : Label :=
  .write ⟨0, 0, List.replicate method.obfuscator.minPadding 0⟩ data 0

theorem step_sends {method : Method} {reader : Reader} {link : Link}
    {data : List UInt8} (plain : link.attached = false)
    (nonempty : data ≠ []) (small : data.length ≤ kMaxWrite) :
    step method reader link (sends method data) =
      some { link with sent := link.sent ++ [.plain data] } := by
  refine step_write.mpr ⟨⟨nonempty, small, ?_, ?_⟩, ?_⟩
  · rw [List.length_replicate]
  · rw [List.length_replicate]
    cases method <;> decide
  · rw [Link.writeSome, plain]
    rfl

/-! ## Moderate peers -/

/-- The peer begins no record which is larger. -/
def WaitsWithin (method : Method) (most : Nat) (now : Nat → UInt32)
    (buffer : List UInt8) : Prop :=
  ∀ place, HeaderAt method now buffer place .wait →
    declaredSize method (buffer.drop place) ≤ most

/-- There is not more behind a record without payload. -/
def EmptiesWithin (method : Method) (most : Nat) (now : Nat → UInt32)
    (buffer : List UInt8) : Prop :=
  ∀ place size, HeaderAt method now buffer place (.record [] size) →
    buffer.length - size ≤ most

/-- What `Deobfuscate` may find.  Before the socket is read there has to be
room for what that may return: how much will arrive is not known then. -/
def Moderate (method : Method) (reader : Reader) (link : Link) :
    Label → Prop
  | .write _ _ _ => True
  | .read now =>
      WaitsWithin method
          (method.obfuscator.kMaxBufferSize + 1 - reader.chunk) now
          link.buffer ∧
        EmptiesWithin method
          (method.obfuscator.kMaxBufferSize - reader.chunk) now
          link.buffer
  | .arrive count now =>
      WaitsWithin method method.obfuscator.kMaxBufferSize now
        (link.buffer ++ (link.wire method).take count)

/-- Nothing is dropped, and a full buffer does not stay full. -/
def Lossless (method : Method) (link : Link) : Label → Prop
  | .write _ _ _ => True
  | .read now =>
      link.buffer.length = method.obfuscator.kMaxBufferSize →
        (method.obfuscator.deobfuscate now link.buffer).2 ≠ link.buffer
  | .arrive count now =>
      let bytes := (link.wire method).take count
      method.obfuscator.addData link.buffer bytes =
          (link.buffer ++ bytes, true) ∧
        ((link.buffer ++ bytes).length =
            method.obfuscator.kMaxBufferSize →
          (method.obfuscator.deobfuscate now (link.buffer ++ bytes)).2 ≠
            link.buffer ++ bytes)

/-- The buffer is not full, and there is room while the socket is read. -/
structure Roomy (method : Method) (reader : Reader) (link : Link) :
    Prop where
  decoder : link.decoder = some link.buffer
  notFull : link.buffer.length < method.obfuscator.kMaxBufferSize
  room : link.waiting = true →
    link.buffer.length + reader.chunk ≤ method.obfuscator.kMaxBufferSize

section Run

variable {method : Method} {reader : Reader} {link next : Link}
  {now : Nat → UInt32} {buffer rest : List UInt8}

theorem roomy_fromAnyone (method : Method) (reader : Reader) :
    Roomy method reader fromAnyone where
  decoder := rfl
  notFull := by cases method <;> decide
  room := fun waiting => by cases waiting

/-- What is left where nothing was found leaves room. -/
theorem room_of_none
    (fits : reader.chunk + method.obfuscator.headerSize ≤
      method.obfuscator.kMaxBufferSize + 1)
    (waits : WaitsWithin method
      (method.obfuscator.kMaxBufferSize + 1 - reader.chunk) now buffer)
    (empties : EmptiesWithin method
      (method.obfuscator.kMaxBufferSize - reader.chunk) now buffer)
    (nothing : method.obfuscator.deobfuscate now buffer = (none, rest)) :
    rest.length + reader.chunk ≤ method.obfuscator.kMaxBufferSize := by
  have positive := method.recognises.positive
  rcases decode_none positive nothing with
    short | ⟨place, found, rfl⟩ | ⟨place, size, found, rfl⟩
  · omega
  · have small := waits place found
    have cut := declaredSize_of_wait found.found
    omega
  · have few := empties place size found
    obtain ⟨_, inside⟩ := sized_of_headerAt found
    rw [List.length_append, List.length_take, List.length_drop]
    omega

/-- A full buffer does not stay as it is, unless it waits for a record which
cannot come. -/
theorem deobfuscate_of_full
    (waits : WaitsWithin method method.obfuscator.kMaxBufferSize now
      buffer)
    (full : buffer.length = method.obfuscator.kMaxBufferSize) :
    (method.obfuscator.deobfuscate now buffer).2.length <
      buffer.length := by
  have positive := method.recognises.positive
  have long : method.obfuscator.headerSize ≤ buffer.length := by
    rw [full]
    cases method <;> decide
  refine (decode_progress positive (fun _ _ _ => sized_of_headerAt)
    long).resolve_right fun found => ?_
  have small := waits 0 found
  have cut := declaredSize_of_wait found.found
  rw [List.drop_zero] at small cut
  omega

/-- Handing over what was decoded leaves a buffer which is not full. -/
theorem roomy_handOver {after : Link} {otherwise : Bool}
    (shorter : (method.obfuscator.deobfuscate now buffer).2.length <
      method.obfuscator.kMaxBufferSize)
    (room : ∀ rest,
      method.obfuscator.deobfuscate now buffer = (none, rest) →
        otherwise = true →
          rest.length + reader.chunk ≤ method.obfuscator.kMaxBufferSize) :
    Roomy method reader
      (after.handOver reader (method.obfuscator.deobfuscate now buffer)
        otherwise) := by
  cases decoded : method.obfuscator.deobfuscate now buffer with
  | mk output rest =>
      rw [decoded] at shorter
      cases output with
      | none => exact ⟨rfl, shorter, room rest decoded⟩
      | some output => exact ⟨rfl, shorter, fun waiting => by cases waiting⟩

/-- All which arrives is added, and a full buffer is consumed. -/
theorem arrive_lossless {link next : Link} {count : Nat}
    {now : Nat → UInt32} (roomy : Roomy method reader link)
    (moderate : Moderate method reader link (.arrive count now))
    (taken : step method reader link (.arrive count now) = some next) :
    Lossless method link (.arrive count now) ∧
      Roomy method reader next := by
  obtain ⟨⟨waiting, positive, available, few⟩, rfl⟩ :=
    step_arrive.mp taken
  have size : ((link.wire method).take count).length = count :=
    List.length_take_of_le available
  have chunk : count ≤ reader.chunk := by
    rw [Link.limit, roomy.decoder] at few
    exact few
  have room := roomy.room waiting
  have some_ : (link.wire method).take count ≠ [] := by
    rw [← List.length_pos_iff, size]
    exact positive
  have added := @addData_of_fits method link.buffer _ some_ (by omega)
  have full := @deobfuscate_of_full method now
    (link.buffer ++ (link.wire method).take count) moderate
  constructor
  · refine ⟨added, fun isFull same => ?_⟩
    have shorter := full isFull
    rw [same] at shorter
    exact Nat.lt_irrefl _ shorter
  · simp only [Link.readSocket, roomy.decoder, added]
    refine roomy_handOver ?_ fun _ _ again => by cases again
    have within := @decode_length_le method.obfuscator.headerSize
      (method.obfuscator.inspect now)
      (link.buffer ++ (link.wire method).take count)
    by_cases isFull :
        (link.buffer ++ (link.wire method).take count).length =
          method.obfuscator.kMaxBufferSize
    · exact (full isFull).trans_eq isFull
    · refine Nat.lt_of_le_of_lt within ?_
      rw [List.length_append, size] at isFull ⊢
      omega

theorem step_lossless
    (fits : reader.chunk + method.obfuscator.headerSize ≤
      method.obfuscator.kMaxBufferSize + 1)
    (link : Link) (label : Label) (next : Link)
    (roomy : Roomy method reader link)
    (moderate : Moderate method reader link label)
    (taken : step method reader link label = some next) :
    (link.buffer.length < method.obfuscator.kMaxBufferSize ∧
        Lossless method link label) ∧ Roomy method reader next := by
  have notFull := roomy.notFull
  cases label with
  | write draw data stamp =>
      obtain ⟨_, rfl⟩ := step_write.mp taken
      exact ⟨⟨notFull, trivial⟩, roomy.decoder, notFull, roomy.room⟩
  | read now =>
      obtain ⟨idle, rfl⟩ := step_read.mp taken
      obtain ⟨waits, empties⟩ := moderate
      refine ⟨⟨notFull, fun full => absurd full (Nat.ne_of_lt notFull)⟩, ?_⟩
      by_cases empty : link.buffer = []
      · rw [readBuffered_of_empty empty]
        refine ⟨roomy.decoder, notFull, fun _ => ?_⟩
        have positive := method.recognises.positive
        change link.buffer.length + _ ≤ _
        rw [empty, List.length_nil]
        omega
      · rw [readBuffered_of_filled empty]
        refine roomy_handOver ?_ fun rest nothing _ =>
          room_of_none fits waits empties nothing
        exact Nat.lt_of_le_of_lt decode_length_le notFull
  | arrive count now =>
      obtain ⟨lossless, kept⟩ := arrive_lossless roomy moderate taken
      exact ⟨⟨notFull, lossless⟩, kept⟩

/-- Whatever a peer sends, and however it comes, nothing of it is dropped as
long as the records which it begins are not too large, and no record without
payload has too much behind it when the socket is read. -/
theorem run_lossless
    (fits : reader.chunk + method.obfuscator.headerSize ≤
      method.obfuscator.kMaxBufferSize + 1)
    {labels : List Label} {last : Link}
    (along : Along (step method reader) (Moderate method reader)
      fromAnyone labels)
    (reached : run (step method reader) fromAnyone labels = some last) :
    Along (step method reader)
        (fun link label =>
          link.buffer.length < method.obfuscator.kMaxBufferSize ∧
            Lossless method link label) fromAnyone labels ∧
      last.buffer.length < method.obfuscator.kMaxBufferSize := by
  obtain ⟨lossless, roomy⟩ :=
    run_property_of (step_lossless fits) (roomy_fromAnyone method reader)
      along reached
  exact ⟨lossless, roomy.notFull⟩

/-- A short message of a peer without an obfuscator. -/
def shortLabels : List Label :=
  [sends .tls [1, 2, 3], .read fun _ => 0, .arrive 3 fun _ => 0]

def shortSent : Link :=
  { fromAnyone with sent := [.plain [1, 2, 3]] }

def shortWaits : Link := { shortSent with waiting := true }

def shortLast : Link :=
  { shortSent with taken := 3, decoder := some [1, 2, 3] }

theorem run_lossless_short :
    Along (step .tls (readSome 1))
        (fun link label =>
          link.buffer.length < Method.tls.obfuscator.kMaxBufferSize ∧
            Lossless .tls link label) fromAnyone shortLabels ∧
      shortLast.buffer.length < Method.tls.obfuscator.kMaxBufferSize := by
  have sent : step .tls (readSome 1) fromAnyone (sends .tls [1, 2, 3]) =
      some shortSent := step_sends rfl (by decide) (by decide)
  have waits : step .tls (readSome 1) shortSent (.read fun _ => 0) =
      some shortWaits := step_read.mpr ⟨rfl, rfl⟩
  have last : step .tls (readSome 1) shortWaits (.arrive 3 fun _ => 0) =
      some shortLast :=
    step_arrive.mpr ⟨⟨rfl, by decide, by decide, by decide⟩, rfl⟩
  have noHeader : ∀ (buffer : List UInt8) (place : Nat) (verdict : Verdict),
      buffer.length < 20 →
        ¬ HeaderAt .tls (fun _ => 0) buffer place verdict := by
    intro buffer place verdict short header
    have long : 20 ≤ (buffer.drop place).length := header.long
    rw [List.length_drop] at long
    omega
  refine
    run_lossless (by decide)
      (along_cons sent trivial
        (along_cons waits ⟨fun place header => ?_,
          fun place size header => ?_⟩
          (along_cons last (fun place header => ?_) trivial)))
      (run_cons_eq_some.mpr
        ⟨_, sent, run_cons_eq_some.mpr
          ⟨_, waits, run_cons_eq_some.mpr ⟨_, last, rfl⟩⟩⟩)
  · exact absurd header (noHeader _ _ _ (by decide))
  · exact absurd header (noHeader _ _ _ (by decide))
  · exact absurd header (noHeader _ _ _ (by decide))

end Run

/-! ## Peers which fill the buffer -/

section Peers

variable {method : Method} {reader : Reader} {link : Link}

theorem run_sends {data : List UInt8} (plain : link.attached = false)
    (nonempty : data ≠ []) (small : data.length ≤ kMaxWrite)
    (count : Nat) (labels : List Label) :
    run (step method reader) link
        (List.replicate count (sends method data) ++ labels) =
      run (step method reader)
        { link with
          sent := link.sent ++ List.replicate count (.plain data) }
        labels := by
  induction count generalizing link with
  | zero => simp
  | succ count ih =>
      have sent : link.sent ++ List.replicate (count + 1) (.plain data) =
          link.sent ++ [.plain data] ++
            List.replicate count (.plain data) := by
        rw [List.replicate_succ, ← List.append_cons]
      rw [List.replicate_succ, List.cons_append, run,
        step_sends plain nonempty small, sent]
      exact @ih { link with sent := link.sent ++ [.plain data] } plain

/-- A number of reads of the socket, each of this many bytes. -/
def rounds (count : Nat) : Nat → List Label
  | 0 => []
  | times + 1 =>
      .arrive count (fun _ => 0) :: .read (fun _ => 0) ::
        rounds count times

/-- A link whose decoder waits for the socket. -/
def waitingLink (sent : List Segment) (taken : Nat)
    (buffer : List UInt8) : Link where
  attached := false
  sent := sent
  taken := taken
  decoder := some buffer
  waiting := true
  received := []

/-- Two decodings which find nothing. -/
theorem run_round {sent : List Segment} {taken count : Nat}
    {buffer middle rest : List UInt8} {labels : List Label}
    (positive : 0 < count) (few : count ≤ reader.chunk)
    (available : taken + count ≤ (Segment.allBytes method sent).length)
    (fits : buffer.length + count ≤ method.obfuscator.kMaxBufferSize)
    (first : method.obfuscator.deobfuscate (fun _ => 0)
      (buffer ++ ((Segment.allBytes method sent).drop taken).take count) =
        (none, middle))
    (nonempty : middle ≠ [])
    (second : method.obfuscator.deobfuscate (fun _ => 0) middle =
      (none, rest)) :
    run (step method reader) (waitingLink sent taken buffer)
        (.arrive count (fun _ => 0) :: .read (fun _ => 0) :: labels) =
      run (step method reader) (waitingLink sent (taken + count) rest)
        labels := by
  have size :
      (((Segment.allBytes method sent).drop taken).take count).length =
        count := by
    rw [List.length_take, List.length_drop]
    omega
  have some_ :
      ((Segment.allBytes method sent).drop taken).take count ≠ [] := by
    rw [← List.length_pos_iff, size]
    exact positive
  have added := congrArg Prod.fst
    (@addData_of_fits method buffer _ some_ (by omega))
  have arrives : step method reader (waitingLink sent taken buffer)
      (.arrive count fun _ => 0) =
        some
          { waitingLink sent (taken + count) middle with
            waiting := false } := by
    refine step_arrive.mpr ⟨⟨rfl, positive, ?_, few⟩, ?_⟩
    · change count ≤ ((Segment.allBytes method sent).drop taken).length
      rw [List.length_drop]
      omega
    · change Link.handOver _ _
        (method.obfuscator.deobfuscate _
          (method.obfuscator.addData buffer
            (((Segment.allBytes method sent).drop taken).take count)).1)
        false = _
      rw [added, first]
      rfl
  have reads : step method reader
      { waitingLink sent (taken + count) middle with waiting := false }
      (.read fun _ => 0) =
        some (waitingLink sent (taken + count) rest) := by
    have filled : Link.buffer
        { waitingLink sent (taken + count) middle with
          waiting := false } ≠ [] := nonempty
    refine step_read.mpr ⟨rfl, ?_⟩
    rw [readBuffered_of_filled filled]
    change Link.handOver _ _
      (method.obfuscator.deobfuscate _ middle) true = _
    rw [second]
    rfl
  rw [run, arrives]
  simp only
  rw [run, reads]

end Peers

/-! ### Records without payload -/

section Flood

variable {method : Method} {reader : Reader}

/-- A record without payload and padding. -/
def emptyRecord (method : Method) : List UInt8 :=
  method.obfuscator.obfuscate ⟨0, 0, []⟩ 0 []

def emptyRecords (method : Method) (count : Nat) : List UInt8 :=
  (List.replicate count (emptyRecord method)).flatten

theorem emptyRecord_length :
    (emptyRecord method).length = method.obfuscator.headerSize :=
  method.recognises.obfuscate_length

@[simp]
theorem emptyRecords_length (count : Nat) :
    (emptyRecords method count).length =
      count * method.obfuscator.headerSize := by
  rw [emptyRecords, List.length_flatten, List.map_replicate,
    List.sum_replicate_nat, emptyRecord_length]

theorem emptyRecords_append (first second : Nat) :
    emptyRecords method first ++ emptyRecords method second =
      emptyRecords method (first + second) := by
  rw [emptyRecords, emptyRecords, emptyRecords, ← List.flatten_append,
    List.replicate_append_replicate]

theorem emptyRecords_ne_nil (count : Nat) :
    emptyRecords method (count + 1) ≠ [] := by
  rw [← List.length_pos_iff, emptyRecords_length]
  exact Nat.mul_pos (Nat.succ_pos count) method.recognises.positive

/-- Some records of a longer sequence. -/
theorem take_emptyRecords {taken count total : Nat}
    (inside : taken + count ≤ total) :
    ((emptyRecords method total).drop
        (taken * method.obfuscator.headerSize)).take
        (count * method.obfuscator.headerSize) =
      emptyRecords method count := by
  obtain ⟨rest, rfl⟩ := Nat.exists_eq_add_of_le inside
  rw [Nat.add_assoc, ← emptyRecords_append,
    List.drop_left' (emptyRecords_length taken), ← emptyRecords_append,
    List.take_left' (emptyRecords_length count)]

/-- One record is taken out, and there are no data in it. -/
theorem deobfuscate_emptyRecords (count : Nat) :
    method.obfuscator.deobfuscate (fun _ => 0)
        (emptyRecords method (count + 1)) =
      (none, emptyRecords method count) := by
  have positive := method.recognises.positive
  have shape : emptyRecords method (count + 1) =
      method.obfuscator.header ⟨0, 0, []⟩ 0 0 ++
        emptyRecords method count := by
    have first : emptyRecord method =
        method.obfuscator.header ⟨0, 0, []⟩ 0 0 := List.append_nil _
    rw [← first]
    exact List.flatten_cons
  have inTime : method.InTime 0 0 := by
    cases method with
    | tls => trivial
    | tls2 => exact ⟨by decide, by decide, by decide, by decide⟩
  have found :
      method.obfuscator.inspect (fun _ => 0) 0
          (method.obfuscator.header ⟨0, 0, []⟩ 0 0 ++
            emptyRecords method count) =
        .record [] method.obfuscator.headerSize :=
    (method.recognises.header ⟨0, 0, []⟩ 0 0 (fun _ => 0)
      (emptyRecords method count) (Nat.zero_le _) (Nat.zero_le _)
      inTime).trans (if_neg (Nat.not_lt_zero _))
  rw [IObfuscator.deobfuscate, shape,
    decode_of_front positive ?_ found]
  · rw [List.drop_left' (method.recognises.headerLength _ _ _)]
    rfl
  · rw [List.length_append, method.recognises.headerLength]
    exact Nat.le_add_right _ _

/-- A round leaves all but two of the records which came. -/
theorem run_emptyRound {sent : List Segment} {total more : Nat}
    {labels : List Label}
    (stream : Segment.allBytes method sent = emptyRecords method total)
    (chunk : (more + 2) * method.obfuscator.headerSize ≤ reader.chunk)
    {passed kept : Nat} (available : (passed + 1) * (more + 2) ≤ total)
    (fits : (kept + (more + 2)) * method.obfuscator.headerSize ≤
      method.obfuscator.kMaxBufferSize) :
    run (step method reader)
        (waitingLink sent
          (passed * (more + 2) * method.obfuscator.headerSize)
          (emptyRecords method kept))
        (.arrive ((more + 2) * method.obfuscator.headerSize) (fun _ => 0) ::
          .read (fun _ => 0) :: labels) =
      run (step method reader)
        (waitingLink sent
          ((passed + 1) * (more + 2) * method.obfuscator.headerSize)
          (emptyRecords method (kept + more)))
        labels := by
  have here : passed * (more + 2) + (more + 2) ≤ total := by
    rw [Nat.add_mul, Nat.one_mul] at available
    exact available
  have covered : passed * (more + 2) * method.obfuscator.headerSize +
      (more + 2) * method.obfuscator.headerSize ≤
        (Segment.allBytes method sent).length := by
    rw [stream, emptyRecords_length, ← Nat.add_mul]
    exact Nat.mul_le_mul_right _ here
  have room : (emptyRecords method kept).length +
      (more + 2) * method.obfuscator.headerSize ≤
        method.obfuscator.kMaxBufferSize := by
    rw [emptyRecords_length, ← Nat.add_mul]
    exact fits
  have first : method.obfuscator.deobfuscate (fun _ => 0)
      (emptyRecords method kept ++
        ((Segment.allBytes method sent).drop
          (passed * (more + 2) * method.obfuscator.headerSize)).take
            ((more + 2) * method.obfuscator.headerSize)) =
        (none, emptyRecords method (kept + more + 1)) := by
    rw [stream, take_emptyRecords here, emptyRecords_append]
    exact deobfuscate_emptyRecords (kept + more + 1)
  rw [run_round (Nat.mul_pos (Nat.succ_pos _) method.recognises.positive)
      chunk covered room first (emptyRecords_ne_nil _)
      (deobfuscate_emptyRecords (kept + more)),
    ← Nat.add_mul, Nat.add_mul passed 1, Nat.one_mul]

/-- Each round leaves all but two of the records which came. -/
theorem run_flood {sent : List Segment} {total more : Nat}
    {labels : List Label}
    (stream : Segment.allBytes method sent = emptyRecords method total)
    (chunk : (more + 2) * method.obfuscator.headerSize ≤ reader.chunk)
    {times passed kept : Nat}
    (available : (passed + times) * (more + 2) ≤ total)
    (fits : (kept + times * more + 2) * method.obfuscator.headerSize ≤
      method.obfuscator.kMaxBufferSize) :
    run (step method reader)
        (waitingLink sent
          (passed * (more + 2) * method.obfuscator.headerSize)
          (emptyRecords method kept))
        (rounds ((more + 2) * method.obfuscator.headerSize) times ++
          labels) =
      run (step method reader)
        (waitingLink sent
          ((passed + times) * (more + 2) * method.obfuscator.headerSize)
          (emptyRecords method (kept + times * more)))
        labels := by
  induction times generalizing passed kept with
  | zero =>
      simp only [rounds, List.nil_append, Nat.zero_mul, Nat.add_zero]
  | succ times ih =>
      have passedNext : passed + 1 + times = passed + (times + 1) := by
        omega
      have keptNext :
          kept + more + times * more = kept + (times + 1) * more := by
        rw [Nat.add_mul]
        omega
      have here : (passed + 1) * (more + 2) ≤ total :=
        (Nat.mul_le_mul_right _ (by omega)).trans available
      have room : (kept + (more + 2)) * method.obfuscator.headerSize ≤
          method.obfuscator.kMaxBufferSize := by
        refine (Nat.mul_le_mul_right _ ?_).trans fits
        omega
      rw [rounds, List.cons_append, List.cons_append,
        run_emptyRound stream chunk here room,
        ih (by rw [passedNext]; exact available)
          (by rw [keptNext]; exact fits),
        passedNext, keptNext]

/-- Writes of such records, and reads until the buffer is almost full. -/
def floodLabels (method : Method) (more times : Nat) : List Label :=
  List.replicate (times + 1)
      (sends method (emptyRecords method (more + 2))) ++
    .read (fun _ => 0) ::
      rounds ((more + 2) * method.obfuscator.headerSize) times

def floodSent (method : Method) (more times : Nat) : List Segment :=
  List.replicate (times + 1) (.plain (emptyRecords method (more + 2)))

theorem allBytes_floodSent (more times : Nat) :
    Segment.allBytes method (floodSent method more times) =
      emptyRecords method ((times + 1) * (more + 2)) := by
  rw [floodSent, Segment.allBytes, List.flatMap_replicate]
  generalize times + 1 = count
  induction count with
  | zero =>
      rw [Nat.zero_mul]
      rfl
  | succ count ih =>
      rw [List.replicate_succ, List.flatten_cons, ih, Segment.bytes,
        emptyRecords_append, Nat.add_mul, Nat.one_mul, Nat.add_comm]

theorem run_floodLabels {more times : Nat}
    (small : (more + 2) * method.obfuscator.headerSize ≤ kMaxWrite)
    (chunk : (more + 2) * method.obfuscator.headerSize ≤ reader.chunk)
    (fits : (times * more + 2) * method.obfuscator.headerSize ≤
      method.obfuscator.kMaxBufferSize) :
    run (step method reader) fromAnyone (floodLabels method more times) =
      some
        (waitingLink (floodSent method more times)
          (times * (more + 2) * method.obfuscator.headerSize)
          (emptyRecords method (times * more))) := by
  have reads : step method reader
      { fromAnyone with sent := floodSent method more times }
      (.read fun _ => 0) =
        some (waitingLink (floodSent method more times) 0 []) :=
    step_read.mpr ⟨rfl, rfl⟩
  have flooded := @run_flood method reader (floodSent method more times)
    _ more [] (allBytes_floodSent more times) chunk times 0 0
    (Nat.mul_le_mul_right _ (by omega))
    (by rw [Nat.zero_add]; exact fits)
  rw [Nat.zero_add, Nat.zero_add, Nat.zero_mul, Nat.zero_mul,
    List.append_nil] at flooded
  rw [floodLabels,
    run_sends rfl (emptyRecords_ne_nil _)
      (by rw [emptyRecords_length]; exact small)]
  change run _ { fromAnyone with sent := floodSent method more times } _ = _
  rw [run, reads]
  exact flooded

theorem addData_length_le {buffer data : List UInt8}
    (within : buffer.length ≤ method.obfuscator.kMaxBufferSize) :
    (method.obfuscator.addData buffer data).1.length ≤
      method.obfuscator.kMaxBufferSize := by
  rw [method.obfuscator.addData_eq_take within]
  exact List.length_take_le _ _

/-- The next read drops bytes. -/
theorem flood_drops {more times : Nat}
    (small : (more + 2) * method.obfuscator.headerSize ≤ kMaxWrite)
    (chunk : (more + 2) * method.obfuscator.headerSize ≤ reader.chunk)
    (fits : (times * more + 2) * method.obfuscator.headerSize ≤
      method.obfuscator.kMaxBufferSize)
    (full : method.obfuscator.kMaxBufferSize <
      (times * more + (more + 2)) * method.obfuscator.headerSize) :
    ∃ labels last,
      run (step method reader) fromAnyone labels = some last ∧
        ¬ Along (step method reader) (Lossless method) fromAnyone
          labels := by
  have positive := method.recognises.positive
  have reached := run_floodLabels small chunk fits
  let link := waitingLink (floodSent method more times)
    (times * (more + 2) * method.obfuscator.headerSize)
    (emptyRecords method (times * more))
  let count := (more + 2) * method.obfuscator.headerSize
  have wire : link.wire method = emptyRecords method (more + 2) := by
    change (Segment.allBytes method (floodSent method more times)).drop
      (times * (more + 2) * method.obfuscator.headerSize) = _
    rw [allBytes_floodSent, Nat.add_mul, Nat.one_mul,
      ← emptyRecords_append, List.drop_left' (emptyRecords_length _)]
  have arrives : step method reader link (.arrive count fun _ => 0) =
      some (link.readSocket method reader count fun _ => 0) := by
    refine step_arrive.mpr ⟨⟨rfl, ?_, ?_, chunk⟩, rfl⟩
    · exact Nat.mul_pos (Nat.succ_pos _) positive
    · rw [wire, emptyRecords_length]
  refine
    ⟨floodLabels method more times ++ [.arrive count fun _ => 0],
      link.readSocket method reader count fun _ => 0, ?_, fun along => ?_⟩
  · rw [run_append reached, run, arrives]
    rfl
  · have lossless := (along.of_append reached).1.1
    have whole : (link.buffer ++ (link.wire method).take count).length =
        (times * more + (more + 2)) * method.obfuscator.headerSize := by
      rw [wire, List.take_of_length_le (emptyRecords_length _).le,
        Nat.add_mul, List.length_append, emptyRecords_length]
      exact congrArg (· + _) (emptyRecords_length _)
    have within : link.buffer.length ≤ method.obfuscator.kMaxBufferSize := by
      refine (@emptyRecords_length method _).le.trans (le_trans ?_ fits)
      exact Nat.mul_le_mul_right _ (Nat.le_add_right _ _)
    have few := @addData_length_le method link.buffer
      ((link.wire method).take count) within
    rw [lossless] at few
    change (link.buffer ++ (link.wire method).take count).length ≤ _ at few
    rw [whole] at few
    exact Nat.not_lt.mpr few full

end Flood

/-! ### A record which does not fit -/

/-- A header which announces 65535 bytes and a padding of 255. -/
def hugeHeader : List UInt8 :=
  [0x17, 0x03, 0x03, 0xFF, 0xFF, 0, 0, 0, 0, 0, 0, 0, 0, 0x97, 0x63, 0x01,
    0, 0xFF, 0xFF, 0xFF]

/-- The decoder waits for the rest of the record, whatever follows. -/
theorem deobfuscate_huge (now : Nat → UInt32) {tail : List UInt8}
    (short : tail.length < 65790) :
    Method.tls.obfuscator.deobfuscate now (hugeHeader ++ tail) =
      (none, hugeHeader ++ tail) := by
  have length : (hugeHeader ++ tail).length = 20 + tail.length :=
    List.length_append
  refine decode_of_wait (by decide) ?_ ?_
  · rw [length]
    exact Nat.le_add_right 20 _
  · have ours : TlsObfuscator.isFptnProtocol (hugeHeader ++ tail) =
        true := by
      simp only [TlsObfuscator.isFptnProtocol,
        field_append_left _ (show 13 + 2 ≤ hugeHeader.length by decide),
        field_append_left _ (show 15 + 1 ≤ hugeHeader.length by decide),
        field_append_left _ (show 1 + 1 ≤ hugeHeader.length by decide),
        field_append_left _ (show 2 + 1 ≤ hugeHeader.length by decide)]
      decide
    have content : field 3 2 (hugeHeader ++ tail) = 65535 := by
      rw [field_append_left _ (by decide)]
      decide
    have payload : field 17 2 (hugeHeader ++ tail) = 65535 := by
      rw [field_append_left _ (by decide)]
      decide
    have padding : field 19 1 (hugeHeader ++ tail) = 255 := by
      rw [field_append_left _ (by decide)]
      decide
    simp only [Method.obfuscator, tlsObfuscator, TlsObfuscator.inspect]
    rw [ours, content, payload, padding, if_neg (by simp),
      if_neg (by decide), length, if_pos (by omega)]

/-- The record, and more bytes than it needs to fill the buffer. -/
def hugeStream : List UInt8 := hugeHeader ++ List.replicate (4 * 16384) 0

theorem hugeStream_length : hugeStream.length = 20 + 4 * 16384 := by
  rw [hugeStream, List.length_append, List.length_replicate]
  rfl

theorem deobfuscate_hugeStream (now : Nat → UInt32) (count : Nat) :
    Method.tls.obfuscator.deobfuscate now (hugeStream.take count) =
      (none, hugeStream.take count) := by
  by_cases short : count < 20
  · refine decode_of_short ?_
    change (hugeStream.take count).length < 20
    rw [List.length_take]
    omega
  · have header : hugeHeader.length = 20 := rfl
    have tail : hugeStream.take count =
        hugeHeader ++
          (List.replicate (4 * 16384) 0).take (count - 20) := by
      rw [hugeStream, List.take_append, header,
        List.take_of_length_le (by omega)]
    rw [tail]
    refine deobfuscate_huge now ?_
    rw [List.length_take, List.length_replicate]
    omega

/-- Whatever is read is kept. -/
theorem run_huge {reader : Reader} {sent : List Segment} {count : Nat}
    (stream : Segment.allBytes .tls sent = hugeStream)
    (positive : 0 < count) (few : count ≤ reader.chunk)
    {times passed : Nat} (fits : (passed + times) * count ≤ 4 * 16384) :
    run (step .tls reader)
        (waitingLink sent (passed * count)
          (hugeStream.take (passed * count)))
        (rounds count times) =
      some
        (waitingLink sent ((passed + times) * count)
          (hugeStream.take ((passed + times) * count))) := by
  induction times generalizing passed with
  | zero => rfl
  | succ times ih =>
      have next : passed + 1 + times = passed + (times + 1) := by
        omega
      have taken : passed * count + count = (passed + 1) * count := by
        rw [Nat.add_mul, Nat.one_mul]
      have here : passed * count + count ≤ 4 * 16384 := by
        rw [taken]
        exact (Nat.mul_le_mul_right _ (by omega)).trans fits
      have whole : hugeStream.length = 20 + 4 * 16384 := hugeStream_length
      have kept : hugeStream.take (passed * count + count) ≠ [] := by
        rw [← List.length_pos_iff, List.length_take, whole]
        omega
      have round := @run_round .tls reader sent (passed * count) count
        (hugeStream.take (passed * count))
        (hugeStream.take (passed * count + count))
        (hugeStream.take (passed * count + count)) (rounds count times)
        positive few
        (by rw [stream, whole]; omega)
        (by
          rw [List.length_take, whole]
          change _ ≤ 65536
          omega)
        (by
          rw [stream, ← List.take_add]
          exact deobfuscate_hugeStream _ _)
        kept (deobfuscate_hugeStream _ _)
      rw [rounds, round, taken, ih (by rw [next]; exact fits), next]

def zeros : List UInt8 := List.replicate 16384 0

/-- What the peer writes; each write fits what it may pass on at once. -/
def hugeSent : List Segment :=
  .plain hugeHeader :: List.replicate 4 (.plain zeros)

theorem allBytes_hugeSent :
    Segment.allBytes .tls hugeSent = hugeStream := by
  rw [hugeSent, Segment.allBytes, List.flatMap_cons,
    List.flatMap_replicate]
  exact congrArg (hugeHeader ++ ·) List.flatten_replicate_replicate

/-- A buffer can be full of a record which cannot be completed. -/
theorem huge_fills :
    ∃ labels last,
      run (step .tls (readSome 1)) fromAnyone labels = some last ∧
        last.buffer.length = Method.tls.obfuscator.kMaxBufferSize ∧
          ∀ now,
            (Method.tls.obfuscator.deobfuscate now last.buffer).2 =
              last.buffer := by
  have writes : step .tls (readSome 1) fromAnyone (sends .tls hugeHeader) =
      some { fromAnyone with sent := [.plain hugeHeader] } :=
    step_sends rfl (by decide) (by decide)
  have reads : step .tls (readSome 1) { fromAnyone with sent := hugeSent }
      (.read fun _ => 0) = some (waitingLink hugeSent 0 []) :=
    step_read.mpr ⟨rfl, rfl⟩
  have filled := @run_huge (readSome 1) hugeSent 16384 allBytes_hugeSent
    (by decide) (by decide) 4 0 (by decide)
  have nonempty : zeros ≠ [] := by
    rw [zeros, ← List.length_pos_iff, List.length_replicate]
    decide
  have small : zeros.length ≤ kMaxWrite := by
    rw [zeros, List.length_replicate]
    decide
  refine
    ⟨sends .tls hugeHeader ::
        (List.replicate 4 (sends .tls zeros) ++
          .read (fun _ => 0) :: rounds 16384 4),
      waitingLink hugeSent (4 * 16384) (hugeStream.take (4 * 16384)),
      ?_, ?_, fun now => ?_⟩
  · refine run_cons_eq_some.mpr ⟨_, writes, ?_⟩
    rw [run_sends rfl nonempty small]
    exact run_cons_eq_some.mpr ⟨_, reads, filled⟩
  · change (hugeStream.take (4 * 16384)).length = 65536
    rw [List.length_take, hugeStream_length]
    omega
  · change (Method.tls.obfuscator.deobfuscate now
      (hugeStream.take (4 * 16384))).2 = hugeStream.take (4 * 16384)
    rw [deobfuscate_hugeStream]

/-- Either method drops bytes, and the first one also gets stuck. -/
theorem decoder_discards :
    (∃ labels last,
        run (step .tls (readSome 1)) fromAnyone labels = some last ∧
          ¬ Along (step .tls (readSome 1)) (Lossless .tls) fromAnyone
            labels) ∧
      (∃ labels last,
        run (step .tls2 (readSome 1)) fromAnyone labels = some last ∧
          ¬ Along (step .tls2 (readSome 1)) (Lossless .tls2) fromAnyone
            labels) ∧
        ∃ labels last,
          run (step .tls (readSome 1)) fromAnyone labels = some last ∧
            last.buffer.length = Method.tls.obfuscator.kMaxBufferSize ∧
              ∀ now,
                (Method.tls.obfuscator.deobfuscate now last.buffer).2 =
                  last.buffer := by
  refine ⟨?_, ?_, huge_fills⟩
  · exact
      @flood_drops .tls (readSome 1) 817 4 (by decide) (by decide)
        (by decide) (by decide)
  · exact
      @flood_drops .tls2 (readSome 1) 742 16 (by decide) (by decide)
        (by decide) (by decide)

end Fptn.Obfuscator.InputBuffer
