import Fptn.Lib.FieldReader
import Fptn.Lib.FuelLoop

/-!
# Decompression of a response's body

`DecompressGzip` of the API client calls `inflate` of zlib until that says
that the stream has ended, or fails.  zlib is a parameter here; what its
documentation says of `inflate` is a structure of its own, relative to what
a reader of the gzip format, which takes the stream field by field, has found
in the bytes.
-/

namespace Fptn.Https.DecompressGzip

open Fptn.FieldReader
open Fptn.FuelLoop

/-! ## zlib -/

/-- The return codes of `inflate`. -/
inductive Code where
  | ok
  | streamEnd
  | needDict
  | streamError
  | dataError
  | memError
  | bufError
deriving DecidableEq

/-- What a call of `inflate` does. -/
structure Reply (State : Type) where
  code : Code
  state : State
  /-- The number of bytes by which `next_in` is moved on. -/
  consumed : Nat
  output : List UInt8

structure Zlib (State : Type) where
  /-- `inflateInit2` for the gzip format, if it returns `Z_OK`. -/
  inflateInit2 : Option State
  /-- `inflate`, given the input and the room for output. -/
  inflate : State → List UInt8 → Nat → Reply State

/-- Where a reader of a gzip stream is. -/
inductive GzipPlace (Rest : Type) where
  /-- In front of the magic number. -/
  | magic
  /-- In front of the method and the flags. -/
  | method
  /-- In the remaining header, the compressed data or the trailer. -/
  | rest (place : Rest)

/-- The flags which the format reserves. -/
def reservedFlags : UInt8 := 0xE0

/-- A reader of gzip streams.  The magic number is a field of two bytes, and
so are the method, which is 8, and the flags together. -/
def gzipReader {Rest : Type} (rest : Reader UInt8 Rest) :
    Reader UInt8 (GzipPlace Rest) where
  start := .magic
  width
    | .magic | .method => 2
    | .rest place => rest.width place
  read
    | .magic, field =>
        if field = [0x1F, 0x8B] then .next .method else .failed
    | .method, field =>
        if field[0]? = some 8 ∧
            field[1]?.all (· &&& reservedFlags == 0) then
          .next (.rest rest.start)
        else
          .failed
    | .rest place, field =>
        match rest.read place field with
        | .next next => .next (.rest next)
        | .ended => .ended
        | .failed => .failed

/-- The documented behaviour of `inflate`.  `fed` and `produced` are the bytes
which a state has consumed and the number of those which it has returned. -/
structure Documented {State Rest : Type} (zlib : Zlib State)
    (rest : Reader UInt8 Rest) (fed : State → List UInt8)
    (produced : State → Nat) : Prop where
  init : ∀ state, zlib.inflateInit2 = some state →
    fed state = [] ∧ produced state = 0
  /-- Input is consumed from the front, and output fits the room. -/
  consumes : ∀ state input room,
    (zlib.inflate state input room).consumed ≤ input.length ∧
      (zlib.inflate state input room).output.length ≤ room ∧
      fed (zlib.inflate state input room).state =
        fed state ++
          input.take (zlib.inflate state input room).consumed ∧
      produced (zlib.inflate state input room).state =
        produced state + (zlib.inflate state input room).output.length
  /-- The factor of compression is at most 1032. -/
  bounded : ∀ state, produced state ≤ 1032 * (fed state).length
  /-- `Z_OK` stands for some progress. -/
  progress : ∀ state input room,
    (zlib.inflate state input room).code = .ok →
      0 < (zlib.inflate state input room).consumed ∨
        (zlib.inflate state input room).output ≠ []
  /-- No progress is possible only without input, where neither the end of
  the stream nor an error has been read. -/
  starved : ∀ state input room, 0 < room →
    (zlib.inflate state input room).code = .bufError →
      input = [] ∧ (gzipReader rest).verdict (fed state) = .undecided
  endOfStream : ∀ state input room,
    (zlib.inflate state input room).code = .streamEnd →
      (gzipReader rest).verdict
        (fed (zlib.inflate state input room).state) = .ended
  invalid : ∀ state input room,
    (zlib.inflate state input room).code = .dataError →
      (gzipReader rest).verdict (fed state ++ input) = .failed
  /-- A gzip stream needs no dictionary, the state is consistent, and there
  is enough memory. -/
  regular : ∀ state input room,
    (zlib.inflate state input room).code ≠ .needDict ∧
      (zlib.inflate state input room).code ≠ .streamError ∧
      (zlib.inflate state input room).code ≠ .memError

/-! ## DecompressGzip -/

def kChunkSize : Nat := 4096

/-- What the loop works on. -/
structure Inflating (State : Type) where
  state : State
  nextIn : List UInt8
  decompressed : List UInt8

variable {State : Type} (zlib : Zlib State)

/-- One round of the loop. -/
def round (strm : Inflating State) : List UInt8 ⊕ Inflating State :=
  let ret := zlib.inflate strm.state strm.nextIn kChunkSize
  if ret.code = .streamError ∨ ret.code = .dataError ∨
      ret.code = .memError then
    .inl []
  else
    let decompressed := strm.decompressed ++ ret.output
    if ret.code ≠ .streamEnd then
      .inr ⟨ret.state, strm.nextIn.drop ret.consumed, decompressed⟩
    else
      .inl decompressed

/-- `avail_in` is an unsigned int. -/
def availableIn (compressed : List UInt8) : List UInt8 :=
  compressed.take (compressed.length % 4294967296)

/-- The result after a number of rounds of the loop. -/
def decompressGzip (rounds : Nat) (compressed : List UInt8) :
    Option (List UInt8) :=
  match zlib.inflateInit2 with
  | none => some []
  | some state =>
      loop (round zlib) rounds ⟨state, availableIn compressed, []⟩

def getHttpBody (rounds : Nat) (contentEncoding : String)
    (body : List UInt8) : Option (List UInt8) :=
  if contentEncoding = "gzip" then
    decompressGzip zlib rounds body
  else
    some body

/-- Whether a body is decompressed in the end. -/
def Terminates (compressed : List UInt8) : Prop :=
  ∃ rounds result, decompressGzip zlib rounds compressed = some result

/-! ## Rounds of the loop -/

section Rounds

variable {zlib} {Rest : Type} {rest : Reader UInt8 Rest}
  {fed : State → List UInt8} {produced : State → Nat}
  {strm next : Inflating State}

/-- A round which goes on. -/
theorem round_next (more : round zlib strm = .inr next) :
    next.state = (zlib.inflate strm.state strm.nextIn kChunkSize).state ∧
      next.nextIn =
        strm.nextIn.drop
          (zlib.inflate strm.state strm.nextIn kChunkSize).consumed := by
  rw [round] at more
  split at more
  · cases more
  · split at more
    · obtain rfl := Sum.inr.inj more
      exact ⟨rfl, rfl⟩
    · cases more

/-- A round goes on with every code but four. -/
theorem exists_next_iff :
    (∃ next, round zlib strm = .inr next) ↔
      (zlib.inflate strm.state strm.nextIn kChunkSize).code = .ok ∨
        (zlib.inflate strm.state strm.nextIn kChunkSize).code = .needDict ∨
        (zlib.inflate strm.state strm.nextIn kChunkSize).code =
          .bufError := by
  rw [round]
  cases (zlib.inflate strm.state strm.nextIn kChunkSize).code <;> simp

/-- What has been consumed and what has not make up the input. -/
theorem fed_next (documented : Documented zlib rest fed produced)
    (more : round zlib strm = .inr next) :
    fed next.state ++ next.nextIn = fed strm.state ++ strm.nextIn := by
  obtain ⟨state, nextIn⟩ := round_next more
  obtain ⟨-, -, grown, -⟩ :=
    documented.consumes strm.state strm.nextIn kChunkSize
  rw [state, nextIn, grown, List.append_assoc, List.take_append_drop]

/-- What is left to consume and to return. -/
def leftOver (fed : State → List UInt8) (produced : State → Nat)
    (strm : Inflating State) : Nat :=
  strm.nextIn.length +
    (1032 * (fed strm.state ++ strm.nextIn).length - produced strm.state)

/-- Where the input decides the stream, only progress lets a round go on. -/
theorem ok_of_next (documented : Documented zlib rest fed produced)
    (decided : (gzipReader rest).verdict
      (fed strm.state ++ strm.nextIn) ≠ .undecided)
    (more : round zlib strm = .inr next) :
    (zlib.inflate strm.state strm.nextIn kChunkSize).code = .ok := by
  rcases exists_next_iff.mp ⟨next, more⟩ with ok | dictionary | starved
  · exact ok
  · exact
      absurd dictionary
        (documented.regular strm.state strm.nextIn kChunkSize).1
  · obtain ⟨nothing, undecided⟩ :=
      documented.starved _ _ _ (by decide) starved
    rw [nothing, List.append_nil] at decided
    exact absurd undecided decided

theorem leftOver_next (documented : Documented zlib rest fed produced)
    (decided : (gzipReader rest).verdict
      (fed strm.state ++ strm.nextIn) ≠ .undecided)
    (more : round zlib strm = .inr next) :
    leftOver fed produced next < leftOver fed produced strm := by
  have ok := ok_of_next documented decided more
  obtain ⟨state, nextIn⟩ := round_next more
  obtain ⟨within, -, -, counted⟩ :=
    documented.consumes strm.state strm.nextIn kChunkSize
  have bounded := documented.bounded next.state
  have same := congrArg List.length (fed_next documented more)
  have rest := congrArg List.length nextIn
  rw [List.length_drop] at rest
  rw [state] at bounded
  rw [leftOver, leftOver, fed_next documented more, state]
  rw [List.length_append] at same
  rw [state] at same
  rcases documented.progress _ _ _ ok with some_ | some_
  · omega
  · have positive := List.length_pos_iff.mpr some_
    omega

/-- With an input which decides nothing every round goes on. -/
theorem exists_next (documented : Documented zlib rest fed produced)
    (undecided : (gzipReader rest).verdict
      (fed strm.state ++ strm.nextIn) = .undecided) :
    ∃ next, round zlib strm = .inr next := by
  refine exists_next_iff.mpr ?_
  obtain ⟨-, consistent, memory⟩ :=
    documented.regular strm.state strm.nextIn kChunkSize
  cases code : (zlib.inflate strm.state strm.nextIn kChunkSize).code with
  | ok => exact Or.inl rfl
  | needDict => exact Or.inr (Or.inl rfl)
  | bufError => exact Or.inr (Or.inr rfl)
  | streamError => exact absurd code consistent
  | memError => exact absurd code memory
  | dataError =>
      rw [documented.invalid _ _ _ code] at undecided
      cases undecided
  | streamEnd =>
      have ended := documented.endOfStream _ _ _ code
      obtain ⟨-, -, grown, -⟩ :=
        documented.consumes strm.state strm.nextIn kChunkSize
      rw [grown] at ended
      have later :=
        @Reader.verdict_append _ _ (gzipReader rest) _
          (strm.nextIn.drop
            (zlib.inflate strm.state strm.nextIn kChunkSize).consumed)
          (by rw [ended]; exact Verdict.noConfusion)
      rw [List.append_assoc, List.take_append_drop, undecided,
        ended] at later
      cases later

end Rounds

/-! ## When the loop ends -/

section Ending

variable {zlib} {Rest : Type} {rest : Reader UInt8 Rest}
  {fed : State → List UInt8} {produced : State → Nat}
  {compressed : List UInt8}

theorem terminates_iff_ends {state : State}
    (init : zlib.inflateInit2 = some state) :
    Terminates zlib compressed ↔
      Ends (round zlib) ⟨state, availableIn compressed, []⟩ := by
  simp only [Terminates, decompressGzip, init]
  rfl

/-- With bytes which decide nothing the loop does not end. -/
theorem not_terminates_of_undecided
    (documented : Documented zlib rest fed produced) {state : State}
    (init : zlib.inflateInit2 = some state)
    (undecided :
      (gzipReader rest).verdict (availableIn compressed) = .undecided) :
    ¬ Terminates zlib compressed := by
  have nothing := (documented.init state init).1
  rw [terminates_iff_ends init]
  refine @not_ends_of_invariant _ _ (round zlib)
    (fun strm => (gzipReader rest).verdict (fed strm.state ++ strm.nextIn) =
      .undecided)
    (fun strm kept => ?_) _ ?_
  · obtain ⟨next, more⟩ := exists_next documented kept
    exact ⟨next, more, by rw [fed_next documented more]; exact kept⟩
  · rw [nothing]
    exact undecided

/-- With any other input it ends. -/
theorem terminates_of_decided
    (documented : Documented zlib rest fed produced) {state : State}
    (init : zlib.inflateInit2 = some state)
    (decided :
      (gzipReader rest).verdict (availableIn compressed) ≠ .undecided) :
    Terminates zlib compressed := by
  have nothing := (documented.init state init).1
  rw [terminates_iff_ends init]
  refine @ends_of_measure _ _ (round zlib)
    (fun strm => (gzipReader rest).verdict (fed strm.state ++ strm.nextIn) ≠
      .undecided)
    (leftOver fed produced) (fun strm next kept more => ?_) _ ?_
  · refine ⟨?_, leftOver_next documented kept more⟩
    rw [fed_next documented more]
    exact kept
  · rw [nothing]
    exact decided

/-- The loop ends exactly if the end of the stream or an error can be read in
the input. -/
theorem terminates_iff (documented : Documented zlib rest fed produced) :
    Terminates zlib compressed ↔
      zlib.inflateInit2 = none ∨
        (gzipReader rest).verdict (availableIn compressed) ≠
          .undecided := by
  cases init : zlib.inflateInit2 with
  | none =>
      refine ⟨fun _ => Or.inl rfl, fun _ => ⟨0, [], ?_⟩⟩
      rw [decompressGzip, init]
  | some state =>
      constructor
      · exact fun ends => Or.inr fun undecided =>
          not_terminates_of_undecided documented init undecided ends
      · rintro (failed | decided)
        · cases failed
        · exact terminates_of_decided documented init decided

/-- One byte, whichever it is, keeps the loop going. -/
theorem not_terminates_of_short
    (documented : Documented zlib rest fed produced) {state : State}
    (init : zlib.inflateInit2 = some state)
    (short : compressed.length < 2) :
    ¬ Terminates zlib compressed := by
  refine not_terminates_of_undecided documented init ?_
  refine Reader.verdictFrom_of_short ?_
  have less : (availableIn compressed).length ≤ compressed.length :=
    List.length_take_le' _ _
  exact Nat.lt_of_le_of_lt (by rw [List.length_nil]; omega) short

/-- A body is returned unless it is encoded and its decompression hangs. -/
theorem getHttpBody_returns_iff {contentEncoding : String} :
    (∃ rounds result,
        getHttpBody zlib rounds contentEncoding compressed =
          some result) ↔
      (contentEncoding = "gzip" → Terminates zlib compressed) := by
  by_cases gzip : contentEncoding = "gzip"
  · simp only [getHttpBody, gzip, forall_const]
    rfl
  · refine ⟨fun _ same => absurd same gzip, fun _ => ⟨0, compressed, ?_⟩⟩
    rw [getHttpBody, if_neg gzip]

/-! ### A decoder of the first four bytes -/

/-- All that follows is read, and nothing is found in it. -/
def unendingReader : Reader UInt8 Unit where
  start := ()
  width _ := 1
  read _ _ := .next ()

/-- The verdict as far as the first four bytes go. -/
def verdictOf (bytes : List UInt8) : Verdict :=
  (gzipReader unendingReader).verdict bytes

/-- What zlib does with bytes which are no more than the beginning of a
header, or no gzip stream at all. -/
def headerZlib : Zlib (List UInt8) where
  inflateInit2 := some []
  inflate fed input _ :=
    if verdictOf (fed ++ input) = .failed then
      ⟨.dataError, fed ++ input, input.length, []⟩
    else if input = [] then
      ⟨.bufError, fed, 0, []⟩
    else
      ⟨.ok, fed ++ input, input.length, []⟩

theorem verdictOf_undecided {bytes : List UInt8}
    (notFailed : verdictOf bytes ≠ .failed) :
    verdictOf bytes = .undecided := by
  have notEnded : verdictOf bytes ≠ .ended := by
    refine Reader.verdictFrom_ne_ended fun place field => ?_
    cases place with
    | magic | method =>
        simp only [gzipReader]
        split <;> simp
    | rest => simp [gzipReader, unendingReader]
  cases found : verdictOf bytes with
  | undecided => rfl
  | ended => exact absurd found notEnded
  | failed => exact absurd found notFailed

theorem headerZlib_documented :
    Documented headerZlib unendingReader id fun _ => 0 where
  init state made := ⟨(Option.some.inj made).symm, rfl⟩
  consumes state input room := by
    simp only [headerZlib]
    split
    · simp
    · split <;> simp_all
  bounded _ := Nat.zero_le _
  progress state input room := by
    simp only [headerZlib]
    split
    · exact fun code => (by cases code)
    · split
      · exact fun code => (by cases code)
      · rename_i some_
        exact fun _ => Or.inl (List.length_pos_iff.mpr some_)
  starved state input room _ := by
    simp only [headerZlib]
    split
    · exact fun code => (by cases code)
    · rename_i notFailed
      split
      · rename_i nothing
        intro _
        rw [nothing, List.append_nil] at notFailed
        exact ⟨nothing, verdictOf_undecided notFailed⟩
      · exact fun code => (by cases code)
  endOfStream state input room := by
    simp only [headerZlib]
    split
    · exact fun code => (by cases code)
    · split <;> exact fun code => (by cases code)
  invalid state input room := by
    simp only [headerZlib]
    split
    · rename_i failed
      exact fun _ => failed
    · split <;> exact fun code => (by cases code)
  regular state input room := by
    simp only [headerZlib]
    split
    · simp
    · split <;> simp

/-- The loop ends for a body which is no gzip stream. -/
theorem terminates_foreign : Terminates headerZlib [0x50, 0x4B] :=
  (terminates_iff headerZlib_documented).mpr (Or.inr (by decide))

/-- An empty body, a header which is cut off, and bytes which cannot become a
header but do not fill a field keep the loop going. -/
theorem undecided_hangs :
    ¬ Terminates headerZlib [] ∧ ¬ Terminates headerZlib [0x1F, 0x8B] ∧
      ¬ Terminates headerZlib [0x00] ∧
        ¬ Terminates headerZlib [0x1F, 0x8B, 0x09] :=
  ⟨not_terminates_of_short headerZlib_documented rfl (by decide),
    not_terminates_of_undecided headerZlib_documented rfl (by decide),
    not_terminates_of_short headerZlib_documented rfl (by decide),
    not_terminates_of_undecided headerZlib_documented rfl (by decide)⟩

end Ending

end Fptn.Https.DecompressGzip
