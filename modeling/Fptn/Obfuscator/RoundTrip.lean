import Fptn.Obfuscator.TcpStream

/-!
# The round trip through the obfuscated stream

Links which keep an obfuscator at both ends.  As long as every record is
decoded close to its time stamp, the reader gets exactly what has been
written, in order, and the input buffer never overflows; and a reader which
keeps reading gets everything that has arrived after finitely many steps.
-/

namespace Fptn.Obfuscator.RoundTrip

open Fptn.BigEndian
open Fptn.PartialRun
open Fptn.RecordScan
open Fptn.Obfuscator.Methods
open Fptn.Obfuscator.TcpStream
open Fptn.Obfuscator.TcpStream.Segment

/-- The largest caller's buffer for which a read never overfills the
input buffer. -/
def maxRoom : Method → Nat
  | .tls => 47854
  | .tls2 => 236523

/-- The read calls and buffers under consideration. -/
def Serves (method : Method) (reader : Reader) : Prop :=
  ∃ room, kMaxWrite ≤ room ∧
    (reader = readSome room ∨
      reader = asyncReadSome room ∧ room ≤ maxRoom method)

theorem Serves.roomy {method : Method} {reader : Reader}
    (serves : Serves method reader) : kMaxWrite ≤ reader.room := by
  obtain ⟨room, roomy, rfl | ⟨rfl, _⟩⟩ := serves
  · exact roomy
  · exact roomy

theorem Serves.chunk {method : Method} {reader : Reader}
    (serves : Serves method reader) :
    0 < reader.chunk ∧
      method.maxRecord + reader.chunk ≤
        method.obfuscator.kMaxBufferSize + 1 := by
  obtain ⟨room, roomy, rfl | ⟨rfl, fits⟩⟩ := serves
  · change 0 < 16 * 1024 ∧ method.maxRecord + 16 * 1024 ≤ _
    cases method <;> decide
  · have positive : 0 < kMaxWrite := by decide
    refine ⟨Nat.lt_of_lt_of_le positive roomy, ?_⟩
    cases method with
    | tls =>
        change 17683 + room ≤ 65536 + 1
        change room ≤ 47854 at fits
        omega
    | tls2 =>
        change 25622 + room ≤ 262144 + 1
        change room ≤ 236523 at fits
        omega

/-- Each record is decoded at a time which is close to its time stamp. -/
def ClocksAgree (method : Method) (link : Link) : Label → Prop
  | .write _ _ _ => True
  | .read now | .arrive _ now =>
      ∀ draw stamp data later,
        link.pending = .record draw stamp data :: later →
          method.InTime stamp (now 0)

/-- A link with an obfuscator at both ends. -/
structure Obfuscated (method : Method) (link : Link) : Prop where
  sound : Sound method link
  attached : link.attached = true
  decoder : link.decoder ≠ none

variable {method : Method} {reader : Reader} {link : Link}

theorem Obfuscated.readyFor (obfuscated : Obfuscated method link)
    {now : Nat → UInt32} {total : List UInt8}
    (agree : ∀ draw stamp data later,
      link.pending = .record draw stamp data :: later →
        method.InTime stamp (now 0)) :
    ReadyFor method reader now total link.pending := by
  have records : ∀ segment ∈ link.pending, segment.isPlain = false :=
    forall_skip (fun _ _ isRecord _ => by rwa [behind_isPlain])
      (obfuscated.sound.attached obfuscated.attached)
  cases pending : link.pending with
  | nil => trivial
  | cons head later =>
      cases head with
      | record draw stamp data => exact agree draw stamp data later pending
      | plain data =>
          have record :=
            records (.plain data) (pending ▸ List.mem_cons_self)
          cases record

/-- While a read waits, what it may get fits into the input buffer. -/
theorem Obfuscated.fits (serves : Serves method reader)
    (obfuscated : Obfuscated method link)
    (waiting : link.waiting = true) {count : Nat}
    (limited : count ≤ link.limit reader) :
    link.buffer.length + count ≤ method.obfuscator.kMaxBufferSize := by
  obtain ⟨_, chunk⟩ := serves.chunk
  have limit : link.limit reader = reader.chunk := by
    rw [Link.limit, if_pos (Option.isSome_iff_ne_none.mpr obfuscated.decoder)]
  rw [limit] at limited
  have shortBuffer : link.buffer.length + 1 ≤ method.maxRecord := by
    rcases obfuscated.sound.waits waiting with empty | ⟨draw, stamp, data,
      later, pending, short⟩
    · rw [empty]
      cases method <;> decide
    · have regular :=
        obfuscated.sound.pending_regular (.record draw stamp data)
          (pending ▸ List.mem_cons_self)
      have small : data.length ≤ kMaxWrite := regular.2.1
      have padded := regular.2.2 draw stamp data rfl
      rw [method.recognises.obfuscate_length] at short
      rw [Method.maxRecord]
      omega
  omega

/-- Steps at agreeing clocks are ready. -/
theorem Obfuscated.ready (serves : Serves method reader)
    (obfuscated : Obfuscated method link) {label : Label}
    (agree : ClocksAgree method link label) {next : Link}
    (taken : step method reader link label = some next) :
    Ready method reader link label := by
  cases label with
  | write => exact fun _ => obfuscated.decoder
  | read now => exact fun _ => obfuscated.readyFor agree
  | arrive count now =>
      obtain ⟨⟨waiting, -, -, limited⟩, -⟩ := step_arrive.mp taken
      exact fun _ =>
        ⟨obfuscated.fits serves waiting limited,
          obfuscated.readyFor agree⟩

theorem Obfuscated.step (serves : Serves method reader)
    (obfuscated : Obfuscated method link) {label : Label}
    (agree : ClocksAgree method link label) {next : Link}
    (taken : TcpStream.step method reader link label = some next) :
    Obfuscated method next := by
  have ready := obfuscated.ready serves agree taken
  obtain ⟨attached, decoder⟩ := step_sameEnds taken
  exact
    { sound := step_sound serves.roomy obfuscated.sound ready taken
      attached := attached.trans obfuscated.attached
      decoder := fun off => obfuscated.decoder (decoder.mp off) }

theorem start_obfuscated (method : Method) :
    Obfuscated method Link.start where
  sound := start_sound method
  attached := rfl
  decoder := Option.some_ne_none _

/-- What the reader gets from a link. -/
structure Delivers (method : Method) (reader : Reader) (link : Link) :
    Prop where
  inOrder : link.received <+: link.written
  /-- A reader which can do nothing more has received everything. -/
  complete :
    (∀ label : Label, label.isRead = true →
      TcpStream.step method reader link label = none) →
        link.received = link.written
  /-- Keeping on reading comes to an end. -/
  progress : ∀ labels last,
    (∀ label ∈ labels, Label.isRead label = true) →
    Along (TcpStream.step method reader) (ClocksAgree method) link labels →
    run (TcpStream.step method reader) link labels = some last →
      labels.length ≤ link.work method
  capacity : ∀ count now next,
    TcpStream.step method reader link (.arrive count now) = some next →
      link.buffer.length + count ≤ method.obfuscator.kMaxBufferSize

/-- Each step of the reader uses up some of the work. -/
theorem Obfuscated.progress (serves : Serves method reader)
    (obfuscated : Obfuscated method link) {labels : List Label}
    {last : Link}
    (reads : ∀ label ∈ labels, Label.isRead label = true)
    (along :
      Along (TcpStream.step method reader) (ClocksAgree method) link
        labels)
    (reached :
      run (TcpStream.step method reader) link labels = some last) :
    labels.length ≤ link.work method := by
  induction labels generalizing link with
  | nil => exact Nat.zero_le _
  | cons label labels ih =>
      obtain ⟨next, taken, rest⟩ := run_cons_eq_some.mp reached
      have less : next.work method < link.work method :=
        step_work serves.roomy obfuscated.sound
          (reads label List.mem_cons_self)
          (obfuscated.ready serves along.1 taken) taken
      have bound : labels.length ≤ next.work method :=
        ih (obfuscated.step serves along.1 taken)
          (fun other member => reads other (List.mem_cons_of_mem _ member))
          (along.2 next taken) rest
      rw [List.length_cons]
      omega

theorem Obfuscated.delivers (serves : Serves method reader)
    (obfuscated : Obfuscated method link) :
    Delivers method reader link := by
  constructor
  · exact obfuscated.sound.delivered
  · exact
      received_of_stuck serves.chunk.1 serves.roomy obfuscated.sound
  · exact fun _ _ => obfuscated.progress serves
  · intro count now next taken
    obtain ⟨⟨waiting, -, -, limited⟩, -⟩ := step_arrive.mp taken
    exact obfuscated.fits serves waiting limited

/-- Whatever is written reaches the reader, however it is segmented. -/
theorem run_delivers (serves : Serves method reader)
    {labels : List Label}
    (along :
      Along (TcpStream.step method reader) (ClocksAgree method)
        Link.start labels)
    (reached :
      run (TcpStream.step method reader) Link.start labels = some link) :
    Delivers method reader link :=
  Obfuscated.delivers serves
    (run_invariant_of
      (fun _ _ _ obfuscated agree taken =>
        obfuscated.step serves agree taken)
      (start_obfuscated method) along reached)

/-! ## Runs at one moment -/

/-- All clocks show the same time. -/
def AllAt (clock : UInt32) : Label → Prop
  | .write _ _ now => now = clock
  | .read now | .arrive _ now => ∀ reading, now reading = clock

/-- All records have been stamped at the same time. -/
def StampedAt (clock : UInt32) (link : Link) : Prop :=
  ∀ segment ∈ link.sent, ∀ draw stamp data,
    segment = .record draw stamp data → stamp = clock

theorem handOver_sent {decoded : Option (List UInt8) × List UInt8}
    {otherwise : Bool} :
    (link.handOver reader decoded otherwise).sent = link.sent := by
  obtain ⟨_ | output, rest⟩ := decoded <;> rfl

theorem step_stampedAt {clock : UInt32} (stamped : StampedAt clock link)
    {label : Label} (atOnce : AllAt clock label) {next : Link}
    (taken : TcpStream.step method reader link label = some next) :
    StampedAt clock next := by
  cases label with
  | write draw data stamp =>
      obtain ⟨-, rfl⟩ := step_write.mp taken
      intro segment member other otherStamp otherData same
      rcases List.mem_append.mp member with before | here
      · exact stamped segment before other otherStamp otherData same
      · rw [List.mem_singleton.mp here] at same
        split at same
        · cases same
          exact atOnce
        · cases same
  | read now =>
      obtain ⟨-, rfl⟩ := step_read.mp taken
      have sent :
          (link.readBuffered method reader now).sent = link.sent := by
        by_cases empty : link.buffer = []
        · rw [readBuffered_of_empty empty]
        · rw [readBuffered_of_filled empty, handOver_sent]
      rw [StampedAt, sent]
      exact stamped
  | arrive count now =>
      obtain ⟨-, rfl⟩ := step_arrive.mp taken
      have sent :
          (link.readSocket method reader count now).sent =
            link.sent := by
        unfold Link.readSocket
        simp only
        split
        · rfl
        · rw [handOver_sent]
      rw [StampedAt, sent]
      exact stamped

/-- Clocks which show the same time agree. -/
theorem along_of_allAt {clock : UInt32}
    (inTime : method.InTime clock clock) {labels : List Label}
    (stamped : StampedAt clock link)
    (atOnce : ∀ label ∈ labels, AllAt clock label) :
    Along (TcpStream.step method reader) (ClocksAgree method) link
      labels := by
  induction labels generalizing link with
  | nil => trivial
  | cons label labels ih =>
      have pendingStamped : ∀ draw stamp data later,
          link.pending = .record draw stamp data :: later →
            stamp = clock := by
        intro draw stamp data later pending
        refine
          forall_skip ?_ stamped (.record draw stamp data)
            (pending ▸ List.mem_cons_self) draw stamp data rfl
        intro segment count own _ other otherStamp otherData same
        cases segment with
        | record =>
            cases same
            exact own _ _ _ rfl
        | plain => cases same
      have now := atOnce label List.mem_cons_self
      refine ⟨?_, fun next taken => ?_⟩
      · cases label with
        | write => trivial
        | read reading | arrive _ reading =>
            intro draw stamp data later pending
            rw [pendingStamped draw stamp data later pending, now 0]
            exact inTime
      · exact
          ih (step_stampedAt stamped now taken) fun other member =>
            atOnce other (List.mem_cons_of_mem _ member)

/-- A draw whose padding consists of zeros. -/
def zeroDraw (padding : Nat) : Draw :=
  ⟨0, 0x5A, List.replicate padding 0⟩

/-- A write of two bytes arrives in two pieces. -/
def twoPieces : List Label :=
  [.write (zeroDraw 4095) [1, 2] 1000, .read fun _ => 1000,
    .arrive 21 fun _ => 1000, .read fun _ => 1000,
    .arrive 4098 fun _ => 1000, .read fun _ => 1000]

theorem run_delivers_twoPieces :
    ∃ link,
      run (TcpStream.step .tls2 (asyncReadSome 17408)) Link.start
          twoPieces = some link ∧
        Delivers .tls2 (asyncReadSome 17408) link := by
  have taken :
      (run (TcpStream.step .tls2 (asyncReadSome 17408)) Link.start
        twoPieces).isSome = true := by
    decide +kernel
  obtain ⟨link, reached⟩ := Option.isSome_iff_exists.mp taken
  have serves : Serves .tls2 (asyncReadSome 17408) :=
    ⟨17408, Nat.le_refl _, Or.inr ⟨rfl, by decide⟩⟩
  have along :
      Along (TcpStream.step .tls2 (asyncReadSome 17408))
        (ClocksAgree .tls2) Link.start twoPieces := by
    have inTime : Method.tls2.InTime 1000 1000 := by
      unfold Method.InTime Timely
      decide
    refine along_of_allAt inTime (by simp [StampedAt, Link.start]) ?_
    simp [twoPieces, AllAt]
  exact ⟨link, reached, run_delivers serves along reached⟩

/-! ## Links which lose data -/

/-- Two clocks at most ten seconds apart. -/
def Near (left right : UInt32) : Prop :=
  left.toNat ≤ right.toNat + 10 ∧ right.toNat ≤ left.toNat + 10

instance (left right : UInt32) : Decidable (Near left right) :=
  inferInstanceAs (Decidable (_ ∧ _))

/-- A step while the sender's clock shows the given time and the receiver's
clock is near it. -/
def Label.At (sender : UInt32) : Label → Prop
  | .write _ _ now => now = sender
  | .read now | .arrive _ now => ∀ reading, Near sender (now reading)

/-- The sender's clock shows the given times, one for each step. -/
def InStep : (Nat → UInt32) → List Label → Prop
  | _, [] => True
  | sender, label :: rest =>
      Label.At (sender 0) label ∧
        InStep (fun place => sender (place + 1)) rest

/-- All runs at these times deliver what is written. -/
def DeliversAt (method : Method) (reader : Reader)
    (sender : Nat → UInt32) : Prop :=
  ∀ labels link, InStep sender labels →
    run (TcpStream.step method reader) Link.start labels = some link →
      Delivers method reader link

/-- The reader waits, nothing is on the wire, and something is missing. -/
def loses (method : Method) (link : Link) : Bool :=
  link.waiting && (link.wire method).isEmpty &&
    link.received != link.written

theorem not_deliversAt_of_loses {sender : Nat → UInt32}
    {labels : List Label} (inStep : InStep sender labels)
    (lost :
      (run (TcpStream.step method reader) Link.start labels).any
        (loses method) = true) :
    ¬ DeliversAt method reader sender := by
  intro delivers
  cases reached :
      run (TcpStream.step method reader) Link.start labels with
  | none =>
      rw [reached] at lost
      cases lost
  | some link =>
      rw [reached, Option.any_some, loses, Bool.and_eq_true,
        Bool.and_eq_true, List.isEmpty_iff, bne_iff_ne] at lost
      obtain ⟨⟨waiting, arrived⟩, missing⟩ := lost
      refine missing ((delivers labels link inStep reached).complete ?_)
      intro label reads
      cases label with
      | write => cases reads
      | read now => simp [TcpStream.step, waiting]
      | arrive count now =>
          simp only [TcpStream.step, arrived, List.length_nil]
          refine if_neg ?_
          omega

/-- An accepted write while the sender has an obfuscator. -/
theorem step_write {draw : Draw} {data : List UInt8} {stamp : UInt32}
    (on : link.attached = true)
    (nonempty : data ≠ []) (small : data.length ≤ kMaxWrite)
    (atLeast : method.obfuscator.minPadding ≤ draw.padding.length)
    (atMost : draw.padding.length ≤ method.obfuscator.maxPadding) :
    TcpStream.step method reader link (.write draw data stamp) =
      some
        { link with
          sent := link.sent ++ [.record draw stamp data] } := by
  rw [TcpStream.step, if_pos ⟨nonempty, small, atLeast, atMost⟩,
    Link.writeSome, on, if_pos rfl]

/-- A write, and one read of all that it puts on the wire. -/
def writeAndRead (method : Method) (draw : Draw) (data : List UInt8)
    (sent got : UInt32) : List Label :=
  [.write draw data sent, .read fun _ => got,
    .arrive (method.obfuscator.obfuscate draw sent data).length
      fun _ => got,
    .read fun _ => got]

theorem writeAndRead_inStep {draw : Draw} {data : List UInt8}
    {sender : Nat → UInt32} {got : UInt32}
    (near : ∀ place, 0 < place → Near (sender place) got) :
    InStep sender (writeAndRead method draw data (sender 0) got) :=
  ⟨rfl, fun _ => near 1 (by decide), fun _ => near 2 (by decide),
    fun _ => near 3 (by decide), trivial⟩

/-- A link on which one record has been written. -/
def writtenRecord (draw : Draw) (data : List UInt8) (sent : UInt32) :
    Link :=
  { Link.start with sent := [.record draw sent data] }

/-- That link when the record has arrived and nothing has been decoded. -/
def lostRecord (method : Method) (draw : Draw) (data : List UInt8)
    (sent : UInt32) (kept : List UInt8) : Link :=
  { writtenRecord draw data sent with
    taken := (method.obfuscator.obfuscate draw sent data).length
    decoder := some kept }

section Ignored

variable {draw : Draw} {data : List UInt8} {sent got : UInt32}
  {kept : List UInt8}

theorem wire_writtenRecord :
    (writtenRecord draw data sent).wire method =
      method.obfuscator.obfuscate draw sent data :=
  List.append_nil _

theorem wire_lostRecord :
    (lostRecord method draw data sent kept).wire method = [] := by
  change ((writtenRecord draw data sent).wire method).drop
    (method.obfuscator.obfuscate draw sent data).length = []
  rw [wire_writtenRecord, List.drop_length]

theorem obfuscate_length_pos (nonempty : data ≠ []) :
    0 < (method.obfuscator.obfuscate draw sent data).length := by
  have some_ := List.length_pos_iff.mpr nonempty
  rw [method.recognises.obfuscate_length]
  omega

/-- The whole record arrives, and is not recognised. -/
theorem arrive_ignored (nonempty : data ≠ [])
    (chunk : (method.obfuscator.obfuscate draw sent data).length ≤
      reader.chunk)
    (fits : (method.obfuscator.obfuscate draw sent data).length ≤
      method.obfuscator.kMaxBufferSize)
    (ignored :
      method.obfuscator.deobfuscate (fun _ => got)
        (method.obfuscator.obfuscate draw sent data) = (none, kept)) :
    TcpStream.step method reader
        { writtenRecord draw data sent with waiting := true }
        (.arrive (method.obfuscator.obfuscate draw sent data).length
          fun _ => got) =
      some (lostRecord method draw data sent kept) := by
  have positive :
      0 < (method.obfuscator.obfuscate draw sent data).length :=
    obfuscate_length_pos nonempty
  have accepted :
      true = true ∧
        0 < (method.obfuscator.obfuscate draw sent data).length ∧
        (method.obfuscator.obfuscate draw sent data).length ≤
          ((writtenRecord draw data sent).wire method).length ∧
        (method.obfuscator.obfuscate draw sent data).length ≤
          reader.chunk := by
    rw [wire_writtenRecord]
    exact ⟨rfl, positive, Nat.le_refl _, chunk⟩
  have added :
      (method.obfuscator.addData []
          (((writtenRecord draw data sent).wire method).take
            (method.obfuscator.obfuscate draw sent data).length)).1 =
        method.obfuscator.obfuscate draw sent data := by
    rw [wire_writtenRecord, List.take_length]
    refine congrArg Prod.fst (addData_of_fits ?_ ?_)
    · exact List.length_pos_iff.mp positive
    · simpa using fits
  refine (if_pos accepted).trans ?_
  change
    some
        (Link.handOver reader
          { writtenRecord draw data sent with
            taken :=
              0 + (method.obfuscator.obfuscate draw sent data).length }
          (method.obfuscator.deobfuscate (fun _ => got)
            (method.obfuscator.addData []
              (((writtenRecord draw data sent).wire method).take
                (method.obfuscator.obfuscate draw sent
                  data).length)).1) false) = _
  rw [added, ignored, Nat.zero_add]
  rfl

/-- What is left is too short for a header, so the next read waits again. -/
theorem read_ignored (short : kept.length < method.obfuscator.headerSize) :
    TcpStream.step method reader (lostRecord method draw data sent kept)
        (.read fun _ => got) =
      some
        { lostRecord method draw data sent kept with
          waiting := true } := by
  change some ((lostRecord method draw data sent kept).readBuffered
    method reader fun _ => got) = _
  by_cases empty : (lostRecord method draw data sent kept).buffer = []
  · rw [readBuffered_of_empty empty]
  · have same :
        method.obfuscator.deobfuscate (fun _ => got)
            (lostRecord method draw data sent kept).buffer =
          (none, (lostRecord method draw data sent kept).buffer) :=
      decode_of_short short
    rw [readBuffered_of_filled empty, same]
    rfl

/-- A record which is not recognised is lost. -/
theorem writeAndRead_loses
    (nonempty : data ≠ []) (small : data.length ≤ kMaxWrite)
    (padded : method.obfuscator.minPadding ≤ draw.padding.length ∧
      draw.padding.length ≤ method.obfuscator.maxPadding)
    (chunk : (method.obfuscator.obfuscate draw sent data).length ≤
      reader.chunk)
    (fits : (method.obfuscator.obfuscate draw sent data).length ≤
      method.obfuscator.kMaxBufferSize)
    (ignored :
      method.obfuscator.deobfuscate (fun _ => got)
        (method.obfuscator.obfuscate draw sent data) = (none, kept))
    (short : kept.length < method.obfuscator.headerSize) :
    (run (TcpStream.step method reader) Link.start
        (writeAndRead method draw data sent got)).any
      (loses method) = true := by
  have write :
      TcpStream.step method reader Link.start (.write draw data sent) =
        some (writtenRecord draw data sent) :=
    step_write rfl nonempty small padded.1 padded.2
  have wait :
      TcpStream.step method reader (writtenRecord draw data sent)
          (.read fun _ => got) =
        some { writtenRecord draw data sent with waiting := true } := rfl
  have reached :
      run (TcpStream.step method reader) Link.start
          (writeAndRead method draw data sent got) =
        some
          { lostRecord method draw data sent kept with
            waiting := true } :=
    run_cons_eq_some.mpr
      ⟨_, write, run_cons_eq_some.mpr
        ⟨_, wait, run_cons_eq_some.mpr
          ⟨_, arrive_ignored nonempty chunk fits ignored,
            run_cons_eq_some.mpr ⟨_, read_ignored short, rfl⟩⟩⟩⟩
  have written : (lostRecord method draw data sent kept).written = data :=
    List.append_nil _
  have arrived :
      (lostRecord method draw data sent kept).wire method = [] :=
    wire_lostRecord
  rw [reached, Option.any_some, loses, Bool.and_eq_true,
    Bool.and_eq_true, List.isEmpty_iff, bne_iff_ne]
  refine ⟨⟨rfl, arrived⟩, fun same => nonempty ?_⟩
  exact written.symm.trans same.symm

end Ignored

/-- A caller's buffer with less room than a write has data. -/
theorem not_deliversAt_little_room :
    ¬ DeliversAt .tls (readSome 1) fun _ => 0 := by
  have inStep :
      InStep (fun _ => 0) (writeAndRead .tls (zeroDraw 64) [1, 2] 0 0) :=
    writeAndRead_inStep fun _ _ => by decide
  exact not_deliversAt_of_loses inStep (by decide +kernel)

/-- The only record of a run in which it is not recognised. -/
def ignoredRecord (stamp : UInt32) : List UInt8 :=
  tlsObfuscator2.obfuscate (zeroDraw 4095) stamp [1]

theorem not_deliversAt_of_ignored {sender : Nat → UInt32} {got : UInt32}
    (near : ∀ place, 0 < place → Near (sender place) got)
    (invalid : ∀ window, window <:+ ignoredRecord (sender 0) →
      22 ≤ window.length →
        TlsObfuscator2.isFptnProtocol got window = false) :
    ¬ DeliversAt .tls2 (asyncReadSome 17408) sender := by
  have length : (ignoredRecord (sender 0)).length = 4118 := by
    rw [ignoredRecord, tlsObfuscator2_recognises.obfuscate_length,
      zeroDraw, List.length_replicate]
    rfl
  obtain ⟨kept, ignored, short⟩ :
      ∃ kept,
        tlsObfuscator2.deobfuscate (fun _ => got)
            (ignoredRecord (sender 0)) = (none, kept) ∧
          kept.length < tlsObfuscator2.headerSize := by
    refine decode_of_skip (by decide) fun place window ends long => ?_
    change TlsObfuscator2.inspect (fun _ => got) place window = .skip
    simp only [TlsObfuscator2.inspect]
    rw [invalid window ends long]
    rfl
  refine
    not_deliversAt_of_loses (writeAndRead_inStep near)
      (writeAndRead_loses (by decide) (by decide) ?_ ?_ ?_ ignored short)
  · rw [zeroDraw, List.length_replicate]
    decide
  · exact Nat.le_trans (Nat.le_of_eq length) (by decide)
  · exact Nat.le_trans (Nat.le_of_eq length) (by decide)

/-- Which time stamps are valid, when the clock does not wrap around. -/
theorem isValidTimestamp_iff {now stamp : UInt32}
    (small : now.toNat < 2 ^ 32 - 10) :
    TlsObfuscator2.isValidTimestamp now stamp = true ↔
      stamp.toNat ≤ now.toNat + 10 ∧
        now.toNat ≤ (stamp.toNat + 10) % 2 ^ 32 := by
  have sum : (now + TlsObfuscator2.kTimeShiftSeconds).toNat =
      now.toNat + 10 := by
    rw [UInt32.toNat_add]
    refine Nat.mod_eq_of_lt ?_
    change now.toNat + 10 < 2 ^ 32
    omega
  rw [TlsObfuscator2.isValidTimestamp, Bool.and_eq_true,
    decide_eq_true_eq, decide_eq_true_eq, ge_iff_le,
    UInt32.le_iff_toNat_le, UInt32.le_iff_toNat_le, sum,
    UInt32.toNat_add]
  rfl

/-- In the last second before the wrap no time stamp is valid. -/
theorem not_deliversAt_last_second :
    ¬ DeliversAt .tls2 (asyncReadSome 17408) fun _ => 4294967295 := by
  have never : ∀ stamp : UInt32,
      TlsObfuscator2.isValidTimestamp 4294967295 stamp = false := by
    intro stamp
    have last : (4294967295 : UInt32).toNat = 4294967295 := by decide
    have shift : TlsObfuscator2.kTimeShiftSeconds.toNat = 10 := by decide
    rw [Bool.eq_false_iff, ne_eq, TlsObfuscator2.isValidTimestamp,
      Bool.and_eq_true, decide_eq_true_eq, decide_eq_true_eq,
      ge_iff_le, UInt32.le_iff_toNat_le, UInt32.le_iff_toNat_le,
      UInt32.toNat_add, UInt32.toNat_add, last, shift]
    omega
  have near : ∀ place : Nat, 0 < place →
      Near 4294967295 4294967295 := fun _ _ => by decide
  refine not_deliversAt_of_ignored near ?_
  intro window _ _
  rw [TlsObfuscator2.isFptnProtocol, never]
  rfl

/-- A record which arrives late, although the clocks agree. -/
theorem not_deliversAt_late :
    ¬ DeliversAt .tls2 (asyncReadSome 17408)
      fun place => if place = 0 then 100 else 200 := by
  have near : ∀ place : Nat, 0 < place →
      Near (if place = 0 then 100 else 200) 200 := by
    intro place positive
    rw [if_neg (Nat.ne_of_gt positive)]
    decide
  have bytes : ∀ byte ∈ ignoredRecord 100,
      byte.toNat < 190 ∨ 210 < byte.toNat := by
    have header :
        ∀ byte ∈ tlsObfuscator2.header (zeroDraw 4095) 100 [1].length,
          byte.toNat < 190 ∨ 210 < byte.toNat := by
      decide +kernel
    have payload : ∀ byte ∈ applyXorTransform 0x5A [1],
        byte.toNat < 190 ∨ 210 < byte.toNat := by
      decide +kernel
    intro byte member
    rcases List.mem_append.mp member with inHeader | behindHeader
    · exact header byte inHeader
    · rcases List.mem_append.mp behindHeader with inPayload | padding
      · exact payload byte inPayload
      · rw [List.eq_of_mem_replicate padding]
        decide
  refine not_deliversAt_of_ignored near ?_
  intro window ends long
  obtain ⟨byte, member, same⟩ :
      ∃ byte ∈ window, byte.toNat = field 13 4 window % 256 :=
    exists_mem_of_field (by decide) (by omega)
  have outside := bytes byte (ends.subset member)
  have small : field 13 4 window < 2 ^ 32 := by
    refine Nat.lt_of_lt_of_le (valueOf_lt _) ?_
    have bound : 256 ^ ((window.drop 13).take 4).length ≤ 256 ^ 4 :=
      Nat.pow_le_pow_right (by decide) (List.length_take_le _ _)
    exact bound
  have invalid :
      TlsObfuscator2.isValidTimestamp 200
        (UInt32.ofNat (field 13 4 window)) = false := by
    rw [Bool.eq_false_iff, ne_eq, isValidTimestamp_iff (by decide)]
    rw [UInt32.toNat_ofNat', Nat.mod_eq_of_lt small]
    have clock : (200 : UInt32).toNat = 200 := rfl
    rw [clock]
    omega
  rw [TlsObfuscator2.isFptnProtocol, invalid]
  rfl

theorem inStep_of_forall {clock : UInt32} {labels : List Label}
    (at_ : ∀ label ∈ labels, Label.At clock label) :
    InStep (fun _ => clock) labels := by
  induction labels with
  | nil => trivial
  | cons label labels ih =>
      exact
        ⟨at_ label List.mem_cons_self, ih fun other member =>
          at_ other (List.mem_cons_of_mem _ member)⟩

section Full

/-- The longest write, with the shortest padding. -/
def fullWrite (method : Method) : Label :=
  .write (zeroDraw method.obfuscator.minPadding)
    (List.replicate kMaxWrite 0) 0

def fullRecord (method : Method) : Segment :=
  .record (zeroDraw method.obfuscator.minPadding) 0
    (List.replicate kMaxWrite 0)

theorem run_fullWrites (on : link.attached = true) (count : Nat)
    (labels : List Label) :
    run (TcpStream.step method reader) link
        (List.replicate count (fullWrite method) ++ labels) =
      run (TcpStream.step method reader)
        { link with
          sent := link.sent ++ List.replicate count (fullRecord method) }
        labels := by
  induction count generalizing link with
  | zero => simp
  | succ count ih =>
      have padded :
          (zeroDraw method.obfuscator.minPadding).padding.length =
            method.obfuscator.minPadding := List.length_replicate
      have accepted :
          TcpStream.step method reader link (fullWrite method) =
            some { link with sent := link.sent ++ [fullRecord method] } := by
        refine step_write on ?_ ?_ (Nat.le_of_eq padded.symm) ?_
        · rw [← List.length_pos_iff, List.length_replicate]
          decide
        · exact Nat.le_of_eq List.length_replicate
        · rw [padded]
          cases method <;> decide
      have rest :=
        @ih { link with sent := link.sent ++ [fullRecord method] } on
      have sent :
          link.sent ++ List.replicate (count + 1) (fullRecord method) =
            link.sent ++ [fullRecord method] ++
              List.replicate count (fullRecord method) := by
        rw [List.replicate_succ, ← List.append_cons]
      rw [List.replicate_succ, List.cons_append, run, accepted, sent]
      exact rest

/-- Enough long writes overfill the input buffer through a large caller's
buffer. -/
theorem not_deliversAt_of_fullWrites (count : Nat)
    (enough : method.obfuscator.kMaxBufferSize + 1 ≤
      count *
        (method.obfuscator.headerSize + kMaxWrite +
          method.obfuscator.minPadding)) :
    ¬ DeliversAt method
        (asyncReadSome (method.obfuscator.kMaxBufferSize + 1))
        fun _ => 0 := by
  intro delivers
  let full : Link :=
    { Link.start with
      sent := List.replicate count (fullRecord method)
      waiting := true }
  have inStep :
      InStep (fun _ => 0)
        (List.replicate count (fullWrite method) ++
          [.read fun _ => 0]) := by
    refine inStep_of_forall fun label member => ?_
    rcases List.mem_append.mp member with write | read
    · rw [List.eq_of_mem_replicate write]
      rfl
    · have near : Near 0 0 := by decide
      rw [List.mem_singleton.mp read]
      exact fun _ => near
  have reached :
      run
          (TcpStream.step method
            (asyncReadSome (method.obfuscator.kMaxBufferSize + 1)))
          Link.start
          (List.replicate count (fullWrite method) ++
            [.read fun _ => 0]) = some full := by
    rw [run_fullWrites rfl]
    rfl
  have length :
      (full.wire method).length =
        count *
          (method.obfuscator.headerSize + kMaxWrite +
            method.obfuscator.minPadding) := by
    have record :
        ((fullRecord method).bytes method).length =
          method.obfuscator.headerSize + kMaxWrite +
            method.obfuscator.minPadding := by
      rw [fullRecord, Segment.bytes, method.recognises.obfuscate_length,
        zeroDraw, List.length_replicate, List.length_replicate]
    change
      (List.flatMap (Segment.bytes method)
        (List.replicate count (fullRecord method))).length = _
    rw [List.length_flatMap, List.map_replicate, List.sum_replicate_nat,
      record]
  have accepted :
      true = true ∧ 0 < method.obfuscator.kMaxBufferSize + 1 ∧
        method.obfuscator.kMaxBufferSize + 1 ≤
          (full.wire method).length ∧
        method.obfuscator.kMaxBufferSize + 1 ≤
          method.obfuscator.kMaxBufferSize + 1 := by
    rw [length]
    exact ⟨rfl, Nat.succ_pos _, enough, Nat.le_refl _⟩
  have bound :=
    (delivers _ full inStep reached).capacity
      (method.obfuscator.kMaxBufferSize + 1) (fun _ => 0) _
      (if_pos accepted)
  exact Nat.not_succ_le_self _ (Nat.le_trans (Nat.le_add_left _ _) bound)

end Full

/-- Four ways to lose data: a caller's buffer which is too large, one which
is too small, clocks about to wrap around, and a record which is late. -/
theorem deliversAt_fails :
    (∃ room, kMaxWrite ≤ room ∧
        ¬ DeliversAt .tls (asyncReadSome room) fun _ => 0) ∧
      (∃ room, kMaxWrite ≤ room ∧
        ¬ DeliversAt .tls2 (asyncReadSome room) fun _ => 0) ∧
      (∃ room, ¬ DeliversAt .tls (readSome room) fun _ => 0) ∧
      (¬ DeliversAt .tls2 (asyncReadSome kMaxWrite)
        fun _ => 4294967295) ∧
      ¬ DeliversAt .tls2 (asyncReadSome kMaxWrite)
        fun place => if place = 0 then 100 else 200 :=
  ⟨⟨65537, by decide, not_deliversAt_of_fullWrites 4 (by decide)⟩,
    ⟨262145, by decide, not_deliversAt_of_fullWrites 13 (by decide)⟩,
    ⟨1, not_deliversAt_little_room⟩, not_deliversAt_last_second,
    not_deliversAt_late⟩

end Fptn.Obfuscator.RoundTrip
