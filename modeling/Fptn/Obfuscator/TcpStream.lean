import Fptn.Lib.PartialRun
import Fptn.Obfuscator.Methods
import Mathlib.Data.List.Basic

/-!
# The obfuscated stream

One direction of a `TcpStream`: what the sender has written, how many of the
bytes on the wire the receiver's socket has returned, the input buffer of the
receiver's obfuscator, and the bytes handed to the reader.  Either end may
have no obfuscator, and then reads and writes go straight through.

A read call of the source is a loop.  It first decodes what is buffered, and
waits for the socket only when that gives nothing; once bytes arrive, it
decodes again and either returns or starts over.  Each pass is two steps here,
so that other steps may come in between while the call waits.
-/

namespace Fptn.Obfuscator.TcpStream

open Fptn.PartialRun
open Fptn.RecordScan
open Fptn.Obfuscator.Methods

/-! ## Segments -/

/-- One write, and how it has been put on the wire. -/
inductive Segment where
  | record (draw : Draw) (stamp : UInt32) (data : List UInt8)
  | plain (data : List UInt8)

namespace Segment

def data : Segment → List UInt8
  | record _ _ data => data
  | plain data => data

def bytes (method : Method) : Segment → List UInt8
  | record draw stamp data => method.obfuscator.obfuscate draw stamp data
  | plain data => data

def isPlain : Segment → Bool
  | record _ _ _ => false
  | plain _ => true

/-- What is left of a segment's data. -/
def behind (count : Nat) : Segment → Segment
  | record draw stamp data => record draw stamp (data.drop count)
  | plain data => plain (data.drop count)

/-- Writes which the stream accepts. -/
def Regular (method : Method) (segment : Segment) : Prop :=
  segment.data ≠ [] ∧ segment.data.length ≤ kMaxWrite ∧
    ∀ draw stamp data, segment = record draw stamp data →
      draw.padding.length ≤ method.obfuscator.maxPadding

/-- The segments without the first bytes of their data. -/
def skip : Nat → List Segment → List Segment
  | _, [] => []
  | count, segment :: rest =>
      if segment.data.length ≤ count then
        skip (count - segment.data.length) rest
      else
        segment.behind count :: rest

def allData (segments : List Segment) : List UInt8 :=
  segments.flatMap data

def allBytes (method : Method) (segments : List Segment) : List UInt8 :=
  segments.flatMap (bytes method)

end Segment

open Segment

/-! ## Links -/

/-- The sizes which bound a read: what one read of the socket returns at most
while there is an obfuscator, and the room in the caller's buffers. -/
structure Reader where
  chunk : Nat
  room : Nat

/-- `read_some`, which reads into a buffer of its own. -/
def readSome (room : Nat) : Reader := ⟨16 * 1024, room⟩

/-- `async_read_some`, which reads into the caller's buffers. -/
def asyncReadSome (room : Nat) : Reader := ⟨room, room⟩

structure Link where
  /-- Whether the sender has an obfuscator. -/
  attached : Bool
  sent : List Segment
  /-- The number of bytes which the receiver's socket has returned. -/
  taken : Nat
  /-- The input buffer of the receiver's obfuscator, if there is one. -/
  decoder : Option (List UInt8)
  /-- Whether a read call waits for the socket. -/
  waiting : Bool
  received : List UInt8

/-- A new link with an obfuscator at both ends. -/
def Link.start : Link where
  attached := true
  sent := []
  taken := 0
  decoder := some []
  waiting := false
  received := []

inductive Label where
  /-- `write_some` or `async_write_some`, at the sender's time. -/
  | write (draw : Draw) (data : List UInt8) (now : UInt32)
  /-- The beginning of a pass through the read loop. -/
  | read (now : Nat → UInt32)
  /-- The socket returns some bytes to a waiting read. -/
  | arrive (count : Nat) (now : Nat → UInt32)

namespace Link

variable (method : Method) (reader : Reader) (link : Link)

def written : List UInt8 := allData link.sent

/-- The bytes sent which the receiver's socket has not returned yet. -/
def wire : List UInt8 := (allBytes method link.sent).drop link.taken

def buffer : List UInt8 := link.decoder.getD []

/-- The segments which have not been handed to the reader yet. -/
def pending : List Segment := skip link.received.length link.sent

def writeSome (draw : Draw) (data : List UInt8) (now : UInt32) : Link :=
  { link with
    sent :=
      link.sent ++
        [if link.attached then .record draw now data else .plain data] }

/-- Hand decoded bytes to the reader, as far as there is room for them. -/
def handOver (decoded : Option (List UInt8) × List UInt8)
    (otherwise : Bool) : Link :=
  match decoded with
  | (some output, rest) =>
      { link with
        decoder := some rest
        waiting := false
        received := link.received ++ output.take reader.room }
  | (none, rest) =>
      { link with decoder := some rest, waiting := otherwise }

/-- Decode what is buffered, or else wait for the socket. -/
def readBuffered (now : Nat → UInt32) : Link :=
  match link.decoder with
  | none => { link with waiting := true }
  | some buffer =>
      if IObfuscator.hasPendingData buffer then
        link.handOver reader (method.obfuscator.deobfuscate now buffer)
          true
      else
        { link with waiting := true }

/-- Process what the socket has returned. -/
def readSocket (count : Nat) (now : Nat → UInt32) : Link :=
  let chunk := (link.wire method).take count
  let after :=
    { link with taken := link.taken + count, waiting := false }
  match link.decoder with
  | none => { after with received := link.received ++ chunk }
  | some buffer =>
      after.handOver reader
        (method.obfuscator.deobfuscate now
          (method.obfuscator.addData buffer chunk).1)
        false

/-- How many bytes a read of the socket may return. -/
def limit : Nat :=
  if link.decoder.isSome then reader.chunk else reader.room

end Link

/-- One step; a waiting read gets at least one byte. -/
def step (method : Method) (reader : Reader) (link : Link) :
    Label → Option Link
  | .write draw data now =>
      if data ≠ [] ∧ data.length ≤ kMaxWrite ∧
          method.obfuscator.minPadding ≤ draw.padding.length ∧
          draw.padding.length ≤ method.obfuscator.maxPadding then
        some (link.writeSome draw data now)
      else
        none
  | .read now =>
      if link.waiting then
        none
      else
        some (link.readBuffered method reader now)
  | .arrive count now =>
      if link.waiting = true ∧ 0 < count ∧
          count ≤ (link.wire method).length ∧
          count ≤ link.limit reader then
        some (link.readSocket method reader count now)
      else
        none

/-! ## Skipping data -/

namespace Segment

variable {method : Method} {segment : Segment} {segments : List Segment}
  {count : Nat}

@[simp]
theorem behind_data :
    (segment.behind count).data = segment.data.drop count := by
  cases segment <;> rfl

@[simp]
theorem behind_isPlain :
    (segment.behind count).isPlain = segment.isPlain := by
  cases segment <;> rfl

theorem Regular.behind (regular : segment.Regular method)
    (some : count < segment.data.length) :
    (segment.behind count).Regular method := by
  obtain ⟨_, small, padded⟩ := regular
  refine ⟨?_, ?_, ?_⟩
  · rw [behind_data]
    simpa using some
  · rw [behind_data, List.length_drop]
    omega
  · intro draw stamp data same
    cases segment with
    | record own _ _ =>
        cases same
        exact padded _ _ _ rfl
    | plain _ => cases same

theorem bytes_of_isPlain (plain : segment.isPlain = true) :
    segment.bytes method = segment.data := by
  cases segment with
  | record => cases plain
  | plain data => rfl

theorem allBytes_of_isPlain
    (plain : ∀ segment ∈ segments, segment.isPlain = true) :
    allBytes method segments = allData segments :=
  List.flatMap_congr fun segment member =>
    bytes_of_isPlain (plain segment member)

/-- A regular write puts at least one byte on the wire. -/
theorem bytes_ne_nil (regular : segment.Regular method) :
    segment.bytes method ≠ [] := by
  cases segment with
  | record draw stamp data =>
      intro nothing
      have length := congrArg List.length nothing
      have positive := method.recognises.positive
      rw [bytes, method.recognises.obfuscate_length,
        List.length_nil] at length
      omega
  | plain data => exact regular.1

theorem allData_skip :
    allData (skip count segments) = (allData segments).drop count := by
  induction segments generalizing count with
  | nil => simp [skip, allData]
  | cons segment rest ih =>
      rw [skip]
      split
      · rename_i passed
        rw [ih]
        simp [allData, List.drop_append, List.drop_of_length_le passed]
      · rename_i within
        simp only [allData, List.flatMap_cons, behind_data]
        rw [List.drop_append_of_le_length (by omega)]

/-- What holds of all segments and of their ends holds after skipping. -/
theorem forall_skip {property : Segment → Prop}
    (cut : ∀ segment count, property segment →
      count < segment.data.length → property (segment.behind count))
    (all : ∀ segment ∈ segments, property segment) :
    ∀ segment ∈ skip count segments, property segment := by
  induction segments generalizing count with
  | nil => simp [skip]
  | cons head rest ih =>
      have restAll : ∀ segment ∈ rest, property segment :=
        fun segment member =>
          all segment (List.mem_cons_of_mem _ member)
      rw [skip]
      split
      · exact ih restAll
      · rename_i within
        intro segment member
        rcases List.mem_cons.mp member with rfl | later
        · exact
            cut head count (all head List.mem_cons_self)
              (Nat.not_le.mp within)
        · exact restAll segment later

theorem regular_skip
    (regular : ∀ segment ∈ segments, segment.Regular method) :
    ∀ segment ∈ skip count segments, segment.Regular method :=
  forall_skip (fun _ _ => Regular.behind) regular

theorem isPlain_skip
    (plain : ∀ segment ∈ segments, segment.isPlain = true) :
    ∀ segment ∈ skip count segments, segment.isPlain = true :=
  forall_skip (fun _ _ isPlain _ => by rwa [behind_isPlain]) plain

theorem skip_zero
    (regular : ∀ segment ∈ segments, segment.Regular method) :
    skip 0 segments = segments := by
  cases segments with
  | nil => rfl
  | cons head rest =>
      have nonempty : ¬ head.data.length ≤ 0 := by
        simpa using (regular head List.mem_cons_self).1
      rw [skip, if_neg nonempty]
      cases head <;> rfl

/-- Skipping in two steps. -/
theorem skip_skip {more : Nat} :
    skip more (skip count segments) = skip (count + more) segments := by
  induction segments generalizing count with
  | nil => rfl
  | cons head rest ih =>
      rw [skip]
      split
      · rename_i passed
        rw [ih, skip, if_pos (by omega)]
        congr 1
        omega
      · rename_i within
        rw [skip, skip, behind_data, List.length_drop]
        split
        · rename_i passed
          rw [if_pos (by omega)]
          congr 1
          omega
        · rename_i stillWithin
          rw [if_neg (by omega)]
          cases head <;> simp [behind]

/-- Skipping data which has been written leaves later segments alone. -/
theorem skip_append {later : List Segment}
    (regular : ∀ segment ∈ later, segment.Regular method)
    (inside : count ≤ (allData segments).length) :
    skip count (segments ++ later) = skip count segments ++ later := by
  induction segments generalizing count with
  | nil =>
      obtain rfl : count = 0 := by simpa [allData] using inside
      exact skip_zero regular
  | cons head rest ih =>
      have length :
          (allData (head :: rest)).length =
            head.data.length + (allData rest).length := by
        simp [allData]
      rw [List.cons_append, skip, skip]
      split
      · exact ih (by omega)
      · rfl

/-- Skipping exactly the first segment. -/
theorem skip_head
    (regular : ∀ segment ∈ segments, segment.Regular method) :
    skip segment.data.length (segment :: segments) = segments := by
  rw [skip, if_pos (Nat.le_refl _), Nat.sub_self, skip_zero regular]

/-- Plain segments are skipped byte by byte. -/
theorem allBytes_skip_of_isPlain
    (plain : ∀ segment ∈ segments, segment.isPlain = true) :
    allBytes method (skip count segments) =
      (allBytes method segments).drop count := by
  rw [allBytes_of_isPlain (isPlain_skip plain), allData_skip,
    allBytes_of_isPlain plain]

/-- Segments without obfuscation stay at the end. -/
def Ordered (segments : List Segment) : Prop :=
  segments.Pairwise fun earlier later =>
    earlier.isPlain = true → later.isPlain = true

theorem Ordered.skip (ordered : Ordered segments) :
    Ordered (skip count segments) := by
  induction segments generalizing count with
  | nil => exact List.Pairwise.nil
  | cons head rest ih =>
      obtain ⟨headOrdered, restOrdered⟩ := List.pairwise_cons.mp ordered
      rw [Segment.skip]
      split
      · exact ih restOrdered
      · refine List.pairwise_cons.mpr ⟨?_, restOrdered⟩
        rw [behind_isPlain]
        exact headOrdered

theorem Ordered.isPlain_of_head (ordered : Ordered (segment :: segments))
    (plain : segment.isPlain = true) :
    ∀ other ∈ segment :: segments, other.isPlain = true := by
  intro other member
  rcases List.mem_cons.mp member with rfl | later
  · exact plain
  · exact (List.pairwise_cons.mp ordered).1 other later plain

end Segment

/-! ## One decoding -/

section Decoding

variable {method : Method} {reader : Reader} {now : Nat → UInt32}
  {pending : List Segment} {total rest : List UInt8}

/-- What has to hold of a decoding, for what comes next in the stream.  Plain
bytes which are fewer than a header would wait in the buffer, for good if no
more come. -/
def ReadyFor (method : Method) (reader : Reader) (now : Nat → UInt32)
    (total : List UInt8) : List Segment → Prop
  | [] => True
  | .record _ stamp _ :: _ => method.InTime stamp (now 0)
  | .plain _ :: _ =>
      method.PassesThrough total ∧ total.length ≤ reader.room

/-- An input buffer which does not contain a whole record. -/
def Incomplete (method : Method) (total : List UInt8)
    (pending : List Segment) : Prop :=
  total = [] ∨ ∃ draw stamp data later,
    pending = .record draw stamp data :: later ∧
      total.length < (method.obfuscator.obfuscate draw stamp data).length

/-- What a successful decoding hands over. -/
structure Extracted (method : Method) (reader : Reader)
    (pending : List Segment) (total wire output rest : List UInt8) :
    Prop where
  room : output.length ≤ reader.room
  inOrder : output <+: allData pending
  remaining :
    rest ++ wire = allBytes method (skip output.length pending)
  shorter : rest.length < total.length

/-- A whole record at the front is taken out. -/
theorem extracted_record (roomy : kMaxWrite ≤ reader.room)
    {draw : Draw} {stamp : UInt32} {data rest wire : List UInt8}
    {later : List Segment} (small : data.length ≤ kMaxWrite)
    (laterRegular : ∀ segment ∈ later, segment.Regular method)
    (spread :
      method.obfuscator.obfuscate draw stamp data ++ rest ++ wire =
        method.obfuscator.obfuscate draw stamp data ++
          allBytes method later) :
    Extracted method reader (.record draw stamp data :: later)
      (method.obfuscator.obfuscate draw stamp data ++ rest) wire data
      rest := by
  constructor
  · exact Nat.le_trans small roomy
  · exact List.prefix_append _ _
  · have skipped :
        skip data.length (.record draw stamp data :: later) = later :=
      skip_head laterRegular
    rw [skipped]
    rw [List.append_assoc] at spread
    exact List.append_cancel_left spread
  · have positive := method.recognises.positive
    rw [List.length_append, method.recognises.obfuscate_length]
    omega

/-- Decoding either hands over the next bytes or keeps everything. -/
theorem deobfuscate_pending (roomy : kMaxWrite ≤ reader.room)
    {wire : List UInt8}
    (regular : ∀ segment ∈ pending, segment.Regular method)
    (ordered : Ordered pending)
    (split : total ++ wire = allBytes method pending)
    (ready : ReadyFor method reader now total pending) :
    (∃ output rest,
      method.obfuscator.deobfuscate now total = (some output, rest) ∧
        Extracted method reader pending total wire output rest) ∨
      method.obfuscator.deobfuscate now total = (none, total) ∧
        Incomplete method total pending := by
  have recognises := method.recognises
  cases pending with
  | nil =>
      right
      obtain ⟨rfl, _⟩ := List.append_eq_nil_iff.mp split
      exact ⟨decode_of_short recognises.positive, Or.inl rfl⟩
  | cons head later =>
      have headRegular := regular head List.mem_cons_self
      have laterRegular : ∀ segment ∈ later, segment.Regular method :=
        fun segment member =>
          regular segment (List.mem_cons_of_mem _ member)
      obtain ⟨nonempty, small, padded⟩ := headRegular
      cases head with
      | record draw stamp data =>
          have fits := padded draw stamp data rfl
          have spread :
              total ++ wire =
                method.obfuscator.obfuscate draw stamp data ++
                  allBytes method later := split
          by_cases short :
              total.length <
                (method.obfuscator.obfuscate draw stamp data).length
          · right
            refine
              ⟨recognises.deobfuscate_partial fits small ready ?_ short,
                Or.inr ⟨draw, stamp, data, later, rfl, short⟩⟩
            refine
              List.prefix_of_prefix_length_le
                (List.prefix_append total wire) ?_ (Nat.le_of_lt short)
            rw [spread]
            exact List.prefix_append _ _
          · left
            obtain ⟨rest, rfl⟩ :
                method.obfuscator.obfuscate draw stamp data <+: total := by
              refine
                List.prefix_of_prefix_length_le ?_
                  (List.prefix_append total wire) (Nat.not_lt.mp short)
              rw [spread]
              exact List.prefix_append _ _
            exact
              ⟨data, rest,
                recognises.deobfuscate_record fits nonempty small ready
                  rest,
                extracted_record roomy small laterRegular spread⟩
      | plain data =>
          left
          obtain ⟨passes, fits⟩ := ready
          have plain := ordered.isPlain_of_head rfl
          have same : total ++ wire = allData (.plain data :: later) := by
            rw [split, allBytes_of_isPlain plain]
          refine
            ⟨total, [], Method.deobfuscate_of_passesThrough passes now, ?_⟩
          constructor
          · exact fits
          · exact ⟨wire, same⟩
          · rw [allBytes_skip_of_isPlain plain, ← split, List.drop_left]
            rfl
          · exact passes.length_pos

end Decoding

/-! ## The invariant of a link -/

/-- What the receiver holds and what is on the wire is what is pending. -/
structure Sound (method : Method) (link : Link) : Prop where
  regular : ∀ segment ∈ link.sent, segment.Regular method
  ordered : Ordered link.sent
  attached : link.attached = true →
    ∀ segment ∈ link.sent, segment.isPlain = false
  taken : link.taken ≤ (allBytes method link.sent).length
  delivered : link.received <+: link.written
  inFlight :
    link.buffer ++ link.wire method = allBytes method link.pending
  detached : link.decoder = none →
    ∀ segment ∈ link.pending, segment.isPlain = true
  waits : link.waiting = true →
    Incomplete method link.buffer link.pending

theorem start_sound (method : Method) : Sound method Link.start := by
  constructor
  · simp [Link.start]
  · exact List.Pairwise.nil
  · simp [Link.start]
  · exact Nat.zero_le _
  · exact List.nil_prefix
  · rfl
  · simp [Link.start]
  · simp [Link.start]

namespace Sound

variable {method : Method} {link : Link}

theorem received_length (sound : Sound method link) :
    link.received.length ≤ (allData link.sent).length :=
  sound.delivered.length_le

theorem pending_regular (sound : Sound method link) :
    ∀ segment ∈ link.pending, segment.Regular method :=
  regular_skip sound.regular

theorem pending_ordered (sound : Sound method link) :
    Ordered link.pending := sound.ordered.skip

/-- What has been received and what is pending is what was written. -/
theorem written_eq (sound : Sound method link) :
    link.written = link.received ++ allData link.pending := by
  obtain ⟨rest, whole⟩ := sound.delivered
  have written : allData link.sent = link.received ++ rest := whole.symm
  rw [Link.pending, allData_skip, written, List.drop_left]
  exact whole.symm

/-- A waiting reader has got everything which has arrived. -/
theorem complete (sound : Sound method link)
    (waiting : link.waiting = true) (arrived : link.wire method = []) :
    link.received = link.written := by
  have inFlight := sound.inFlight
  rw [arrived, List.append_nil] at inFlight
  have nothing : link.pending = [] := by
    rcases sound.waits waiting with empty | ⟨draw, stamp, data, later,
      here, short⟩
    · rw [empty] at inFlight
      cases pendingHere : link.pending with
      | nil => rfl
      | cons head later =>
          rw [pendingHere] at inFlight
          have regular :=
            sound.pending_regular head
              (pendingHere ▸ List.mem_cons_self)
          have both := List.append_eq_nil_iff.mp inFlight.symm
          exact absurd both.1 (bytes_ne_nil regular)
    · rw [inFlight, here] at short
      have length :
          (allBytes method (.record draw stamp data :: later)).length =
            (method.obfuscator.obfuscate draw stamp data).length +
              (allBytes method later).length := List.length_append
      omega
  rw [sound.written_eq, nothing]
  exact (List.append_nil _).symm

end Sound

/-! ## Steps -/

section Steps

variable {method : Method} {reader : Reader} {link : Link}
  {now : Nat → UInt32}

section Append

variable {segment : Segment}

theorem regular_singleton (regular : segment.Regular method) :
    ∀ other ∈ [segment], other.Regular method := by
  intro other member
  rw [List.mem_singleton.mp member]
  exact regular

theorem pending_append (sound : Sound method link)
    (regular : segment.Regular method) :
    Link.pending { link with sent := link.sent ++ [segment] } =
      link.pending ++ [segment] :=
  skip_append (regular_singleton regular) sound.received_length

theorem allBytes_append :
    allBytes method (link.sent ++ [segment]) =
      allBytes method link.sent ++ segment.bytes method := by
  simp [allBytes]

theorem wire_append (sound : Sound method link) :
    Link.wire method { link with sent := link.sent ++ [segment] } =
      link.wire method ++ segment.bytes method := by
  change (allBytes method (link.sent ++ [segment])).drop link.taken = _
  rw [allBytes_append, List.drop_append_of_le_length sound.taken]
  rfl

/-- A segment of the writer's kind is appended to everything. -/
theorem sound_append (sound : Sound method link)
    (regular : segment.Regular method)
    (kind : segment.isPlain = !link.attached)
    (listening : link.attached = true → link.decoder ≠ none) :
    Sound method { link with sent := link.sent ++ [segment] } := by
  have pending := pending_append sound regular
  have wire := @wire_append method link segment sound
  constructor
  · intro other member
    rcases List.mem_append.mp member with before | here
    · exact sound.regular other before
    · exact regular_singleton regular other here
  · refine List.pairwise_append.mpr
      ⟨sound.ordered, List.pairwise_singleton _ _, ?_⟩
    intro other before last here plain
    rw [List.mem_singleton.mp here, kind]
    cases on : link.attached with
    | false => rfl
    | true =>
        have record := sound.attached on other before
        rw [plain] at record
        cases record
  · intro on other member
    rcases List.mem_append.mp member with before | here
    · exact sound.attached on other before
    · rw [List.mem_singleton.mp here, kind,
        show link.attached = true from on]
      rfl
  · refine Nat.le_trans sound.taken ?_
    simp [allBytes]
  · refine sound.delivered.trans ?_
    refine ⟨segment.data, ?_⟩
    simp [Link.written, allData]
  · rw [pending, wire]
    change link.buffer ++ _ = _
    rw [← List.append_assoc, sound.inFlight]
    simp [allBytes]
  · intro off other member
    rw [pending] at member
    rcases List.mem_append.mp member with before | here
    · exact sound.detached off other before
    · rw [List.mem_singleton.mp here, kind]
      cases on : link.attached with
      | false => rfl
      | true => exact absurd off (listening on)
  · intro waiting
    rw [pending]
    rcases sound.waits waiting with empty | ⟨other, otherStamp, otherData,
      later, here, short⟩
    · exact Or.inl empty
    · refine
        Or.inr
          ⟨other, otherStamp, otherData, later ++ [segment], ?_, short⟩
      rw [here]
      rfl

end Append

/-- A write appends one segment to everything. -/
theorem writeSome_sound {draw : Draw} {data : List UInt8} {stamp : UInt32}
    (sound : Sound method link)
    (nonempty : data ≠ []) (small : data.length ≤ kMaxWrite)
    (padded : draw.padding.length ≤ method.obfuscator.maxPadding)
    (listening : link.attached = true → link.decoder ≠ none) :
    Sound method (link.writeSome draw data stamp) := by
  rw [Link.writeSome]
  split
  · rename_i on
    refine sound_append sound ⟨nonempty, small, ?_⟩ ?_ listening
    · intro other otherStamp otherData same
      cases same
      exact padded
    · rw [on]
      rfl
  · rename_i off
    refine sound_append sound ⟨nonempty, small, ?_⟩ ?_ listening
    · intro other otherStamp otherData same
      cases same
    · rw [Bool.eq_false_iff.mpr off]
      rfl

/-- What remains to be done for the reader, as a bound on its steps. -/
def Link.work (method : Method) (link : Link) : Nat :=
  4 * (link.wire method).length + 2 * link.buffer.length +
    if link.waiting then 0 else 1

/-- The outcome of decoding an input buffer. -/
structure HandedOver (method : Method) (link : Link)
    (total : List UInt8) (otherwise : Bool) (next : Link) : Prop where
  sound : Sound method next
  sent : next.sent = link.sent
  taken : next.taken = link.taken
  attached : next.attached = link.attached
  decoder : next.decoder ≠ none
  progress :
    next.waiting = false ∧ next.buffer.length < total.length ∨
      next.waiting = otherwise ∧ next.buffer = total

/-- Decoding the whole input buffer and handing over the result. -/
theorem handOver_sound (roomy : kMaxWrite ≤ reader.room)
    {total : List UInt8} {otherwise : Bool}
    (sound :
      Sound method { link with decoder := some total, waiting := false })
    (ready : ReadyFor method reader now total link.pending) :
    HandedOver method link total otherwise
      (link.handOver reader (method.obfuscator.deobfuscate now total)
        otherwise) := by
  have split :
      total ++ link.wire method = allBytes method link.pending :=
    sound.inFlight
  rcases deobfuscate_pending roomy sound.pending_regular
      sound.pending_ordered split ready with
    ⟨output, rest, decoded, extracted⟩ | ⟨decoded, incomplete⟩
  · rw [decoded, Link.handOver, List.take_of_length_le extracted.room]
    have pending :
        skip (link.received ++ output).length link.sent =
          skip output.length link.pending := by
      rw [Link.pending, skip_skip, List.length_append]
    refine
      { sound := ?_
        sent := rfl
        taken := rfl
        attached := rfl
        decoder := Option.some_ne_none rest
        progress := Or.inl ⟨rfl, extracted.shorter⟩ }
    constructor
    · exact sound.regular
    · exact sound.ordered
    · exact sound.attached
    · exact sound.taken
    · have whole : link.written = link.received ++ allData link.pending :=
        sound.written_eq
      change link.received ++ output <+: link.written
      rw [whole]
      exact (List.prefix_append_right_inj _).mpr extracted.inOrder
    · change rest ++ link.wire method = allBytes method (skip _ link.sent)
      rw [pending]
      exact extracted.remaining
    · intro off
      cases off
    · intro waiting
      cases waiting
  · rw [decoded, Link.handOver]
    refine
      { sound := ?_
        sent := rfl
        taken := rfl
        attached := rfl
        decoder := Option.some_ne_none total
        progress := Or.inr ⟨rfl, rfl⟩ }
    exact {
      regular := sound.regular
      ordered := sound.ordered
      attached := sound.attached
      taken := sound.taken
      delivered := sound.delivered
      inFlight := sound.inFlight
      detached := sound.detached
      waits := fun _ => incomplete }

/-- What a step needs, so that nothing is lost. -/
def Ready (method : Method) (reader : Reader) (link : Link) :
    Label → Prop
  | .write _ _ _ => link.attached = true → link.decoder ≠ none
  | .read now =>
      link.buffer ≠ [] →
        ReadyFor method reader now link.buffer link.pending
  | .arrive count now =>
      link.decoder ≠ none →
        link.buffer.length + count ≤ method.obfuscator.kMaxBufferSize ∧
          ReadyFor method reader now
            (link.buffer ++ (link.wire method).take count) link.pending

theorem readBuffered_of_empty (empty : link.buffer = []) :
    link.readBuffered method reader now = { link with waiting := true } := by
  unfold Link.readBuffered
  split
  · rfl
  · rename_i buffer decoder
    have nothing : buffer = [] := by simpa [Link.buffer, decoder] using empty
    rw [nothing]
    rfl

theorem readBuffered_of_filled (filled : link.buffer ≠ []) :
    link.readBuffered method reader now =
      link.handOver reader
        (method.obfuscator.deobfuscate now link.buffer) true := by
  unfold Link.readBuffered
  split
  · rename_i off
    exact absurd (by rw [Link.buffer, off]; rfl) filled
  · rename_i buffer decoder
    have same : link.buffer = buffer := by simp [Link.buffer, decoder]
    rw [same] at filled
    rw [same, IObfuscator.hasPendingData, if_pos (by simpa using filled)]

theorem readBuffered_sound (roomy : kMaxWrite ≤ reader.room)
    (sound : Sound method link) (idle : link.waiting = false)
    (ready : Ready method reader link (.read now)) :
    Sound method (link.readBuffered method reader now) ∧
      (link.readBuffered method reader now).work method <
        link.work method := by
  by_cases empty : link.buffer = []
  · rw [readBuffered_of_empty empty]
    constructor
    · exact { sound with waits := fun _ => Or.inl empty }
    · simp [Link.work, Link.wire, Link.buffer, idle]
  · rw [readBuffered_of_filled empty]
    have base :
        Sound method
          { link with decoder := some link.buffer, waiting := false } :=
      { regular := sound.regular
        ordered := sound.ordered
        attached := sound.attached
        taken := sound.taken
        delivered := sound.delivered
        inFlight := sound.inFlight
        detached := fun off => by cases off
        waits := fun waiting => by cases waiting }
    have handed :
        HandedOver method link link.buffer true
          (link.handOver reader
            (method.obfuscator.deobfuscate now link.buffer) true) :=
      handOver_sound roomy base (ready empty)
    refine ⟨handed.sound, ?_⟩
    rw [Link.work, Link.work, Link.wire, handed.sent, handed.taken, idle]
    change 4 * (link.wire method).length + _ + _ < _
    rcases handed.progress with ⟨waiting, shorter⟩ | ⟨waiting, same⟩
    · rw [waiting]
      simp only [Bool.false_eq_true, if_false]
      omega
    · rw [waiting, same]
      simp

/-- Bytes which fit are added to the input buffer. -/
theorem addData_of_fits {buffer data : List UInt8}
    (nonempty : data ≠ [])
    (fits :
      buffer.length + data.length ≤ method.obfuscator.kMaxBufferSize) :
    method.obfuscator.addData buffer data = (buffer ++ data, true) := by
  have notEmpty : ¬ data.isEmpty = true := by simpa using nonempty
  rw [IObfuscator.addData, if_neg notEmpty, if_neg (Nat.not_lt.mpr fits)]

section Socket

variable {count : Nat}

/-- Without an obfuscator the reader gets the bytes themselves. -/
theorem readSocket_sound_of_detached (sound : Sound method link)
    (off : link.decoder = none)
    (available : count ≤ (link.wire method).length) :
    Sound method (link.readSocket method reader count now) := by
  have inside :
      link.taken + count ≤ (allBytes method link.sent).length := by
    have taken := sound.taken
    rw [Link.wire, List.length_drop] at available
    omega
  have plain := sound.detached off
  have empty : link.buffer = [] := by
    rw [Link.buffer, off]
    rfl
  have wire : link.wire method = allBytes method link.pending := by
    have inFlight := sound.inFlight
    rw [empty] at inFlight
    exact inFlight
  have chunk : ((link.wire method).take count).length = count :=
    List.length_take_of_le available
  have pending :
      skip (link.received ++ (link.wire method).take count).length
          link.sent =
        skip count link.pending := by
    rw [Link.pending, skip_skip, List.length_append, chunk]
  simp only [Link.readSocket, off]
  constructor
  · exact sound.regular
  · exact sound.ordered
  · exact sound.attached
  · exact inside
  · change _ <+: link.written
    rw [sound.written_eq, ← allBytes_of_isPlain plain, ← wire]
    exact (List.prefix_append_right_inj _).mpr (List.take_prefix _ _)
  · change
      [] ++ (allBytes method link.sent).drop (link.taken + count) =
        allBytes method (skip _ link.sent)
    rw [pending, allBytes_skip_of_isPlain plain, ← wire, Link.wire,
      List.drop_drop]
    rfl
  · intro _
    change ∀ segment ∈ skip _ link.sent, segment.isPlain = true
    rw [pending]
    exact isPlain_skip plain
  · intro waiting
    cases waiting

/-- With an obfuscator the bytes are added to what it holds. -/
theorem readSocket_handedOver (roomy : kMaxWrite ≤ reader.room)
    (sound : Sound method link) (on : link.decoder ≠ none)
    (positive : 0 < count)
    (available : count ≤ (link.wire method).length)
    (ready : Ready method reader link (.arrive count now)) :
    HandedOver method { link with taken := link.taken + count }
      (link.buffer ++ (link.wire method).take count) false
      (link.readSocket method reader count now) := by
  have inside :
      link.taken + count ≤ (allBytes method link.sent).length := by
    have taken := sound.taken
    rw [Link.wire, List.length_drop] at available
    omega
  have chunk : ((link.wire method).take count).length = count :=
    List.length_take_of_le available
  obtain ⟨fits, readyFor⟩ := ready on
  have added :
      (method.obfuscator.addData link.buffer
          ((link.wire method).take count)).1 =
        link.buffer ++ (link.wire method).take count := by
    refine congrArg Prod.fst
      (addData_of_fits ?_ (by rw [chunk]; exact fits))
    rw [← List.length_pos_iff, chunk]
    exact positive
  have base :
      Sound method
        { link with
          taken := link.taken + count
          decoder := some (link.buffer ++ (link.wire method).take count)
          waiting := false } := by
    constructor
    · exact sound.regular
    · exact sound.ordered
    · exact sound.attached
    · exact inside
    · exact sound.delivered
    · change
        link.buffer ++ (link.wire method).take count ++
            (allBytes method link.sent).drop (link.taken + count) =
          allBytes method link.pending
      rw [← sound.inFlight, List.append_assoc, ← List.drop_drop]
      exact
        congrArg (link.buffer ++ ·)
          (List.take_append_drop count (link.wire method))
    · intro off
      cases off
    · intro waiting
      cases waiting
  obtain ⟨buffer, decoder⟩ := Option.ne_none_iff_exists'.mp on
  have same : link.buffer = buffer := by simp [Link.buffer, decoder]
  simp only [Link.readSocket, decoder, ← same]
  rw [added]
  exact handOver_sound roomy base readyFor

theorem readSocket_sound (roomy : kMaxWrite ≤ reader.room)
    (sound : Sound method link) (positive : 0 < count)
    (available : count ≤ (link.wire method).length)
    (ready : Ready method reader link (.arrive count now)) :
    Sound method (link.readSocket method reader count now) := by
  by_cases off : link.decoder = none
  · exact readSocket_sound_of_detached sound off available
  · exact
      (readSocket_handedOver roomy sound off positive available
        ready).sound

/-- Reading from the socket is progress, too. -/
theorem readSocket_work (roomy : kMaxWrite ≤ reader.room)
    (sound : Sound method link) (waiting : link.waiting = true)
    (positive : 0 < count)
    (available : count ≤ (link.wire method).length)
    (ready : Ready method reader link (.arrive count now)) :
    (link.readSocket method reader count now).work method <
      link.work method := by
  have wire :
      ((allBytes method link.sent).drop (link.taken + count)).length =
        (link.wire method).length - count := by
    rw [Link.wire, List.length_drop, List.length_drop]
    omega
  by_cases off : link.decoder = none
  · have empty : link.buffer = [] := by
      rw [Link.buffer, off]
      rfl
    simp only [Link.readSocket, off]
    change
      4 * ((allBytes method link.sent).drop (link.taken + count)).length +
          0 + 1 < _
    rw [wire, Link.work, waiting, empty]
    simp only [List.length_nil, if_true]
    omega
  · have handed :=
      readSocket_handedOver roomy sound off positive available ready
    rw [Link.work, Link.work, Link.wire, handed.sent, handed.taken,
      wire, waiting]
    have bound :
        (link.readSocket method reader count now).buffer.length ≤
          link.buffer.length + count := by
      have chunk : ((link.wire method).take count).length = count :=
        List.length_take_of_le available
      rcases handed.progress with ⟨_, shorter⟩ | ⟨_, same⟩
      · rw [List.length_append, chunk] at shorter
        omega
      · rw [same, List.length_append, chunk]
    have few :
        (if (link.readSocket method reader count now).waiting then 0
          else 1) ≤ 1 := by
      split <;> decide
    simp only [if_true]
    omega

end Socket

/-! ## Steps -/

section Steps

variable {next : Link}

theorem step_write {draw : Draw} {data : List UInt8} {stamp : UInt32} :
    step method reader link (.write draw data stamp) = some next ↔
      (data ≠ [] ∧ data.length ≤ kMaxWrite ∧
        method.obfuscator.minPadding ≤ draw.padding.length ∧
        draw.padding.length ≤ method.obfuscator.maxPadding) ∧
        link.writeSome draw data stamp = next := by
  rw [step, Option.ite_none_right_eq_some, Option.some.injEq]

theorem step_read {now : Nat → UInt32} :
    step method reader link (.read now) = some next ↔
      link.waiting = false ∧ link.readBuffered method reader now = next := by
  rw [step, Option.ite_none_left_eq_some, Option.some.injEq,
    Bool.not_eq_true]

theorem step_arrive {count : Nat} {now : Nat → UInt32} :
    step method reader link (.arrive count now) = some next ↔
      (link.waiting = true ∧ 0 < count ∧
        count ≤ (link.wire method).length ∧ count ≤ link.limit reader) ∧
        link.readSocket method reader count now = next := by
  rw [step, Option.ite_none_right_eq_some, Option.some.injEq]

end Steps

/-- Every step which is ready keeps the link sound. -/
theorem step_sound (roomy : kMaxWrite ≤ reader.room)
    (sound : Sound method link) {label : Label}
    (ready : Ready method reader link label) {next : Link}
    (taken : step method reader link label = some next) :
    Sound method next := by
  cases label with
  | write draw data stamp =>
      obtain ⟨⟨nonempty, small, -, padded⟩, rfl⟩ := step_write.mp taken
      exact writeSome_sound sound nonempty small padded ready
  | read now =>
      obtain ⟨idle, rfl⟩ := step_read.mp taken
      exact (readBuffered_sound roomy sound idle ready).1
  | arrive count now =>
      obtain ⟨⟨-, positive, available, -⟩, rfl⟩ := step_arrive.mp taken
      exact readSocket_sound roomy sound positive available ready

/-- Whether a step leaves both obfuscators where they are. -/
def SameEnds (link next : Link) : Prop :=
  next.attached = link.attached ∧
    (next.decoder = none ↔ link.decoder = none)

theorem handOver_sameEnds {after : Link}
    {decoded : Option (List UInt8) × List UInt8} {otherwise : Bool}
    (attached : after.attached = link.attached)
    (on : link.decoder ≠ none) :
    SameEnds link (after.handOver reader decoded otherwise) := by
  obtain ⟨_ | output, rest⟩ := decoded
  · exact ⟨attached, iff_of_false (Option.some_ne_none rest) on⟩
  · exact ⟨attached, iff_of_false (Option.some_ne_none rest) on⟩

theorem step_sameEnds {label : Label} {next : Link}
    (taken : step method reader link label = some next) :
    SameEnds link next := by
  cases label with
  | write draw data stamp =>
      obtain ⟨-, rfl⟩ := step_write.mp taken
      exact ⟨rfl, Iff.rfl⟩
  | read now =>
      obtain ⟨-, rfl⟩ := step_read.mp taken
      by_cases empty : link.buffer = []
      · rw [readBuffered_of_empty empty]
        exact ⟨rfl, Iff.rfl⟩
      · rw [readBuffered_of_filled empty]
        refine handOver_sameEnds rfl fun off => empty ?_
        rw [Link.buffer, off]
        rfl
  | arrive count now =>
      obtain ⟨-, rfl⟩ := step_arrive.mp taken
      cases decoder : link.decoder with
      | none =>
          simp only [Link.readSocket, decoder]
          exact ⟨rfl, iff_of_true rfl decoder⟩
      | some buffer =>
          simp only [Link.readSocket, decoder]
          exact handOver_sameEnds rfl (by rw [decoder]; simp)

def Label.isRead : Label → Bool
  | .write _ _ _ => false
  | .read _ => true
  | .arrive _ _ => true

/-- Every step of the reader is progress. -/
theorem step_work (roomy : kMaxWrite ≤ reader.room)
    (sound : Sound method link) {label : Label}
    (reads : label.isRead = true)
    (ready : Ready method reader link label) {next : Link}
    (taken : step method reader link label = some next) :
    next.work method < link.work method := by
  cases label with
  | write draw data stamp => cases reads
  | read now =>
      obtain ⟨idle, rfl⟩ := step_read.mp taken
      exact (readBuffered_sound roomy sound idle ready).2
  | arrive count now =>
      obtain ⟨⟨waiting, positive, available, -⟩, rfl⟩ :=
        step_arrive.mp taken
      exact readSocket_work roomy sound waiting positive available ready

/-- A reader which can do nothing more has received everything. -/
theorem received_of_stuck (positive : 0 < reader.chunk)
    (roomy : kMaxWrite ≤ reader.room) (sound : Sound method link)
    (stuck : ∀ label : Label, label.isRead = true →
      step method reader link label = none) :
    link.received = link.written := by
  have waiting : link.waiting = true := by
    have refused := stuck (.read fun _ => 0) rfl
    simp only [step] at refused
    split at refused
    · assumption
    · cases refused
  have limited : 0 < link.limit reader := by
    rw [Link.limit]
    split
    · exact positive
    · exact Nat.lt_of_lt_of_le (by decide) roomy
  refine sound.complete waiting (List.length_eq_zero_iff.mp ?_)
  by_contra more
  have refused := stuck (.arrive 1 fun _ => 0) rfl
  simp only [step] at refused
  rw [if_pos ⟨waiting, by decide, by omega, limited⟩] at refused
  cases refused

end Steps

end Fptn.Obfuscator.TcpStream
