import Fptn.Network.ServerFlight

/-!
# What the readers of the server's flight return

A reader looks at its socket every 50 ms and takes all that is there, in pieces
of the size of its buffer.  It tests the bytes after each piece, so a larger
buffer can jump over the place where the flight is complete.

The result is decided at the first look at which the reader stops.
-/

namespace Fptn.Network.FlightReaders

open Fptn.TimedStream
open Fptn.Network.ServerFlight

/-! ## Looks at the socket -/

section Looks

variable (socket : Socket)

/-- The time of the look with this number. -/
def poll (look : Nat) : Nat := kPollInterval * look

/-- All that has come by a look. -/
def heard (look : Nat) : List UInt8 :=
  received socket.arrivals (poll look)

/-- How much has been read before a look. -/
def alreadyRead : Nat → Nat
  | 0 => 0
  | look + 1 => (heard socket look).length

/-- Reading on from the first `taken` bytes finds a complete flight. -/
def CompletesIn (size taken : Nat) (bytes : List UInt8) : Prop :=
  ∃ place, taken < place ∧ place ≤ bytes.length ∧
    (place = bytes.length ∨ size ∣ place - taken) ∧
      isServerHelloComplete (bytes.take place) = true

/-- Some piece up to this look has completed the flight. -/
def CompleteBy (size look : Nat) : Prop :=
  ∃ earlier ≤ look,
    CompletesIn size (alreadyRead socket earlier) (heard socket earlier)

/-- Nothing has come for 150 ms. -/
def Quiet (look : Nat) : Prop :=
  3 ≤ look ∧ heard socket (look - 3) = heard socket look

instance (look : Nat) : Decidable (Quiet socket look) :=
  inferInstanceAs (Decidable (_ ∧ _))

def Stops (size look : Nat) : Prop :=
  (socket.noticed (poll look)).isSome = true ∨
    (Quiet socket look ∧ CompleteBy socket size look)

/-- The first look at which a reader stops, in time. -/
structure FirstStop (size : Nat) (drainTimeout : Int) (look : Nat) :
    Prop where
  inTime : poll look < drainTimeout
  stops : Stops socket size look
  first : ∀ earlier < look, ¬ Stops socket size earlier

/-- The result of a reader which stops. -/
def verdict (reader : Reader) (look : Nat) : TlsData :=
  match socket.noticed (poll look) with
  | some .eof => reader.atEof (heard socket look)
  | some .error => none
  | none => some (heard socket look)

end Looks

variable {socket : Socket} {size taken look earlier : Nat}
  {reader : Reader} {drainTimeout : Int}

theorem heard_grows (order : earlier ≤ look) :
    heard socket earlier <+: heard socket look :=
  received_grows (Nat.mul_le_mul_left _ order)

theorem heard_eq_of_length
    (order : earlier ≤ look)
    (same : (heard socket look).length ≤ (heard socket earlier).length) :
    heard socket earlier = heard socket look :=
  (heard_grows order).eq_of_length_le same

/-! ## Reading all that is there -/

theorem not_completesIn_of_read {bytes : List UInt8}
    (nothing : bytes.length ≤ taken) : ¬ CompletesIn size taken bytes := by
  rintro ⟨place, after, inside, _⟩
  omega

/-- Reading on, one piece at a time. -/
theorem completesIn_next {bytes : List UInt8} (positive : 0 < size)
    (unread : taken < bytes.length) :
    CompletesIn size taken bytes ↔
      isServerHelloComplete (bytes.take (taken + size)) = true ∨
        CompletesIn size (bytes.take (taken + size)).length bytes := by
  rw [List.length_take]
  constructor
  · rintro ⟨place, after, inside, boundary, complete⟩
    by_cases near : place ≤ taken + size
    · refine Or.inl ?_
      cases boundary with
      | inl whole =>
          rw [whole, List.take_length] at complete
          rw [List.take_of_length_le (by omega)]
          exact complete
      | inr blocks =>
          have atLeast := Nat.le_of_dvd (by omega) blocks
          have here : place = taken + size := by omega
          rw [here] at complete
          exact complete
    · refine Or.inr ⟨place, by omega, inside, ?_, complete⟩
      refine boundary.imp id fun blocks => ?_
      rw [Nat.min_eq_left (by omega), Nat.sub_add_eq]
      exact Nat.dvd_sub blocks (Nat.dvd_refl size)
  · rintro (complete | ⟨place, after, inside, boundary, complete⟩)
    · by_cases whole : bytes.length ≤ taken + size
      · rw [List.take_of_length_le whole] at complete
        refine ⟨bytes.length, unread, Nat.le_refl _, Or.inl rfl, ?_⟩
        rw [List.take_length]
        exact complete
      · refine ⟨taken + size, by omega, by omega, Or.inr ?_, complete⟩
        rw [Nat.add_sub_cancel_left]
    · refine ⟨place, by omega, inside, ?_, complete⟩
      refine boundary.imp id fun blocks => ?_
      have apart :
          place - taken =
            place - min (taken + size) bytes.length + size := by
        omega
      rw [apart]
      exact Nat.dvd_add blocks (Nat.dvd_refl size)

/-- Smaller pieces find all that larger ones find. -/
theorem completesIn_of_dvd {large : Nat} {bytes : List UInt8}
    (finer : size ∣ large) (found : CompletesIn large taken bytes) :
    CompletesIn size taken bytes := by
  obtain ⟨place, after, inside, boundary, complete⟩ := found
  exact
    ⟨place, after, inside, boundary.imp id (Nat.dvd_trans finer), complete⟩

/-- A reader takes the next piece. -/
theorem run_piece (reader : Reader) {progress : Progress}
    (inTime : progress.now < drainTimeout)
    (front : progress.data <+: received socket.arrivals progress.now)
    (unread : progress.data.length <
      (received socket.arrivals progress.now).length) :
    ∃ next : Progress,
      reader.run socket drainTimeout progress =
          reader.run socket drainTimeout next ∧
        next.now = progress.now ∧
        next.data = (received socket.arrivals progress.now).take
          (progress.data.length + reader.bufferSize) ∧
        next.helloComplete =
          (progress.helloComplete || isServerHelloComplete next.data) ∧
        next.lastDataTime = progress.now := by
  let bytes := received socket.arrivals progress.now
  let piece := (bytes.drop progress.data.length).take reader.bufferSize
  have positive := reader.bufferSize_pos
  have joined :
      progress.data ++ piece =
        bytes.take (progress.data.length + reader.bufferSize) := by
    rw [List.take_add, ← List.prefix_iff_eq_take.mp front]
  have nonempty : ¬ piece.isEmpty = true := by
    have some_ : 0 < bytes.length - progress.data.length :=
      Nat.sub_pos_of_lt unread
    rw [List.isEmpty_iff_length_eq_zero, List.length_take,
      List.length_drop]
    omega
  refine ⟨progress.append piece, ?_, Reader.append_now, ?_, ?_, ?_⟩
  · exact Reader.run_of_again (Reader.round_of_unread inTime unread)
  · rw [Progress.append, if_neg nonempty, joined]
  · rw [Progress.append, if_neg nonempty]
  · rw [Progress.append, if_neg nonempty]

/-- Without sleeping, a reader gets to where it has read everything. -/
theorem run_reads (reader : Reader) {progress : Progress}
    (inTime : progress.now < drainTimeout)
    (front : progress.data <+: received socket.arrivals progress.now) :
    ∃ later : Progress,
      reader.run socket drainTimeout progress =
          reader.run socket drainTimeout later ∧
        later.now = progress.now ∧
        later.data = received socket.arrivals progress.now ∧
        (later.helloComplete = true ↔
          progress.helloComplete = true ∨
            CompletesIn reader.bufferSize progress.data.length
              (received socket.arrivals progress.now)) ∧
        later.lastDataTime =
          if (received socket.arrivals progress.now).length ≤
              progress.data.length then
            progress.lastDataTime
          else
            progress.now := by
  induction gap : (received socket.arrivals progress.now).length -
      progress.data.length using Nat.strong_induction_on
      generalizing progress with
  | _ amount ih =>
      have positive := reader.bufferSize_pos
      by_cases nothing :
          (received socket.arrivals progress.now).length ≤
            progress.data.length
      · refine
          ⟨progress, rfl, rfl, front.eq_of_length_le nothing, ?_,
            (if_pos nothing).symm⟩
        simp [not_completesIn_of_read nothing]
      · have unread := Nat.lt_of_not_le nothing
        obtain ⟨next, goesOn, here, more, completeNow, timeNow⟩ :=
          run_piece reader inTime front unread
        have nearer :
            (received socket.arrivals next.now).length -
                next.data.length < amount := by
          rw [here, more, List.length_take]
          omega
        obtain ⟨later, same, now, data, complete, lastData⟩ :=
          ih _ nearer (by rw [here]; exact inTime)
            (by rw [here, more]; exact List.take_prefix _ _) rfl
        rw [here] at now data complete lastData
        refine ⟨later, goesOn.trans same, now, data, ?_, ?_⟩
        · rw [complete, completesIn_next positive unread, ← more,
            completeNow, Bool.or_eq_true, or_assoc]
        · rw [lastData, if_neg nothing, timeNow]
          exact ite_self _

/-! ## One look after the other -/

/-- A reader which has read everything at a look. -/
structure Drained (reader : Reader) (socket : Socket) (look : Nat)
    (progress : Progress) : Prop where
  now : progress.now = poll look
  data : progress.data = heard socket look
  complete : progress.helloComplete = true ↔
    CompleteBy socket reader.bufferSize look
  lastData : ∃ last ≤ look, progress.lastDataTime = poll last ∧
    heard socket last = heard socket look ∧
      ∀ earlier < last, heard socket earlier ≠ heard socket look

theorem drained_start (reader : Reader) (inTime : 0 < drainTimeout) :
    ∃ progress,
      reader.run socket drainTimeout .start =
          reader.run socket drainTimeout progress ∧
        Drained reader socket 0 progress := by
  have begins : (Progress.start.now : Int) < drainTimeout := inTime
  have front :
      Progress.start.data <+:
        received socket.arrivals Progress.start.now :=
    List.nil_prefix
  obtain ⟨progress, same, now, data, complete, lastData⟩ :=
    run_reads reader begins front
  refine ⟨progress, same, now, data, ?_, 0, Nat.le_refl _, ?_, rfl, ?_⟩
  · rw [complete]
    constructor
    · rintro (already | found)
      · cases already
      · exact ⟨0, Nat.le_refl _, found⟩
    · rintro ⟨earlier, notLater, found⟩
      obtain rfl := Nat.le_zero.mp notLater
      exact Or.inr found
  · rw [lastData]
    exact ite_self _
  · intro earlier before
    exact absurd before (Nat.not_lt_zero _)

theorem completeBy_next :
    CompleteBy socket size (look + 1) ↔
      CompleteBy socket size look ∨
        CompletesIn size (heard socket look).length
          (heard socket (look + 1)) := by
  constructor
  · rintro ⟨earlier, notLater, found⟩
    cases Nat.le_or_eq_of_le_succ notLater with
    | inl before => exact Or.inl ⟨earlier, before, found⟩
    | inr now =>
        rw [now] at found
        exact Or.inr found
  · rintro (⟨earlier, before, found⟩ | found)
    · exact ⟨earlier, Nat.le_succ_of_le before, found⟩
    · exact ⟨look + 1, Nat.le_refl _, found⟩

/-- Quiet by the timer of a reader. -/
theorem Drained.quiet_iff {progress : Progress}
    (drained : Drained reader socket look progress) :
    progress.lastDataTime + kQuietMs ≤ progress.now ↔
      Quiet socket look := by
  obtain ⟨last, notLater, time, same, first⟩ := drained.lastData
  have three : progress.lastDataTime + kQuietMs ≤ progress.now ↔
      last + 3 ≤ look := by
    rw [time, drained.now, poll, poll, kQuietMs, kPollInterval]
    omega
  rw [three]
  constructor
  · intro long
    have grows : (heard socket last).length ≤
        (heard socket (look - 3)).length :=
      (heard_grows (by omega)).length_le
    rw [same] at grows
    exact ⟨by omega, heard_eq_of_length (Nat.sub_le _ _) grows⟩
  · rintro ⟨late, still⟩
    by_contra recent
    exact first (look - 3) (by omega) still

theorem Drained.nothing {progress : Progress}
    (drained : Drained reader socket look progress) :
    (received socket.arrivals progress.now).length ≤
      progress.data.length := by
  rw [drained.data, drained.now]
  exact Nat.le_refl _

/-- A reader which stops returns what the look decides. -/
theorem Drained.stop {progress : Progress}
    (drained : Drained reader socket look progress)
    (inTime : poll look < drainTimeout)
    (stops : Stops socket reader.bufferSize look) :
    reader.run socket drainTimeout progress =
      verdict socket reader look := by
  rw [← drained.now] at inTime
  refine Reader.run_of_done ?_
  rw [Reader.round_of_read inTime drained.nothing, verdict, drained.now,
    drained.data]
  cases seen : socket.noticed (poll look) with
  | some how => cases how <;> rfl
  | none =>
      obtain ⟨quiet, complete⟩ := stops.resolve_left (by simp [seen])
      have returns := drained.quiet_iff.mpr quiet
      rw [drained.now] at returns
      exact if_pos ⟨drained.complete.mpr complete, returns⟩

/-- A reader which does not stop sleeps until the next look. -/
theorem Drained.sleep {progress : Progress}
    (drained : Drained reader socket look progress)
    (inTime : poll look < drainTimeout)
    (goesOn : ¬ Stops socket reader.bufferSize look) :
    reader.run socket drainTimeout progress =
      reader.run socket drainTimeout
        { progress with now := poll (look + 1) } := by
  have unseen : socket.noticed progress.now = none := by
    rw [← Option.not_isSome_iff_eq_none, drained.now]
    exact fun seen => goesOn (Or.inl seen)
  have waits : ¬ (progress.helloComplete = true ∧
      progress.lastDataTime + kQuietMs ≤ progress.now) := by
    rintro ⟨complete, quiet⟩
    exact goesOn
      (Or.inr ⟨drained.quiet_iff.mp quiet, drained.complete.mp complete⟩)
  have later : progress.now + kPollInterval = poll (look + 1) := by
    rw [drained.now]
    rfl
  rw [← drained.now] at inTime
  refine Reader.run_of_again ?_
  rw [Reader.round_of_read inTime drained.nothing, unseen, ← later]
  exact if_neg waits

theorem Drained.next {progress : Progress}
    (drained : Drained reader socket look progress)
    (goesOn : ¬ Stops socket reader.bufferSize look)
    (inTime : poll (look + 1) < drainTimeout) :
    ∃ later,
      reader.run socket drainTimeout progress =
          reader.run socket drainTimeout later ∧
        Drained reader socket (look + 1) later := by
  have earlier : (poll look : Int) < drainTimeout := by
    simp only [poll, kPollInterval] at inTime ⊢
    omega
  let woken : Progress := { progress with now := poll (look + 1) }
  have front :
      woken.data <+: received socket.arrivals woken.now := by
    have grows : heard socket look <+: heard socket (look + 1) :=
      heard_grows (Nat.le_succ look)
    rw [← drained.data] at grows
    exact grows
  obtain ⟨later, same, now, data, complete, lastData⟩ :=
    run_reads reader inTime front
  refine
    ⟨later, (drained.sleep earlier goesOn).trans same, now, data, ?_, ?_⟩
  · rw [complete, drained.complete, drained.data, completeBy_next]
    rfl
  · rw [lastData, drained.data]
    split
    · rename_i nothing
      have still := heard_eq_of_length (Nat.le_succ look) nothing
      obtain ⟨last, notLater, time, same, first⟩ := drained.lastData
      rw [still] at same first
      exact ⟨last, Nat.le_succ_of_le notLater, time, same, first⟩
    · rename_i more
      refine ⟨look + 1, Nat.le_refl _, rfl, rfl, ?_⟩
      intro earlier before same
      refine more ?_
      show (heard socket (look + 1)).length ≤ (heard socket look).length
      rw [← same]
      exact (heard_grows (Nat.le_of_lt_succ before)).length_le

theorem Drained.timeout {progress : Progress}
    (drained : Drained reader socket look progress)
    (inTime : poll look < drainTimeout)
    (goesOn : ¬ Stops socket reader.bufferSize look)
    (late : drainTimeout ≤ poll (look + 1)) :
    reader.run socket drainTimeout progress = none := by
  rw [drained.sleep inTime goesOn]
  refine Reader.run_of_done ?_
  rw [Reader.round, if_pos late]

/-- A reader gets to every look before which it does not stop. -/
theorem drained_at (reader : Reader)
    (inTime : poll look < drainTimeout)
    (goesOn : ∀ earlier < look, ¬ Stops socket reader.bufferSize earlier) :
    ∃ progress,
      reader.run socket drainTimeout .start =
          reader.run socket drainTimeout progress ∧
        Drained reader socket look progress := by
  induction look with
  | zero => exact drained_start reader inTime
  | succ look ih =>
      have earlier : (poll look : Int) < drainTimeout := by
        simp only [poll, kPollInterval] at inTime ⊢
        omega
      obtain ⟨progress, same, drained⟩ :=
        ih earlier fun before less =>
          goesOn before (Nat.lt_succ_of_lt less)
      obtain ⟨later, next, drainedLater⟩ :=
        drained.next (goesOn look (Nat.lt_succ_self look)) inTime
      exact ⟨later, same.trans next, drainedLater⟩

theorem exists_firstStop (inTime : poll look < drainTimeout)
    (stops : Stops socket size look) :
    ∃ earlier, FirstStop socket size drainTimeout earlier := by
  induction look using Nat.strong_induction_on with
  | _ look ih =>
      by_cases before : ∃ earlier < look, Stops socket size earlier
      · obtain ⟨earlier, less, stopped⟩ := before
        have sooner : (poll earlier : Int) < drainTimeout := by
          simp only [poll, kPollInterval] at inTime ⊢
          omega
        exact ih earlier less sooner stopped
      · exact
          ⟨look, inTime, stops, fun earlier less stopped =>
            before ⟨earlier, less, stopped⟩⟩

/-! ## The result -/

/-- The first look at which a reader stops decides its result. -/
theorem run_of_firstStop
    (stop : FirstStop socket reader.bufferSize drainTimeout look) :
    reader.run socket drainTimeout .start = verdict socket reader look := by
  obtain ⟨progress, same, drained⟩ :=
    drained_at reader stop.inTime stop.first
  rw [same, drained.stop stop.inTime stop.stops]

/-- Without such a look the time runs out. -/
theorem run_of_no_stop
    (never : ¬ ∃ look,
      FirstStop socket reader.bufferSize drainTimeout look) :
    reader.run socket drainTimeout .start = none := by
  have goesOn : ∀ look, (poll look : Int) < drainTimeout →
      ¬ Stops socket reader.bufferSize look :=
    fun look inTime stops => never (exists_firstStop inTime stops)
  by_cases noTime : drainTimeout ≤ 0
  · refine Reader.run_of_done ?_
    rw [Reader.round, if_pos]
    exact noTime
  · obtain ⟨last, before, behind⟩ :
        ∃ last, (poll last : Int) < drainTimeout ∧
          drainTimeout ≤ poll (last + 1) := by
      refine ⟨(drainTimeout.toNat - 1) / 50, ?_, ?_⟩
      · simp only [poll, kPollInterval]
        omega
      · simp only [poll, kPollInterval]
        omega
    obtain ⟨progress, same, drained⟩ :=
      drained_at reader before fun earlier less => by
        refine goesOn earlier ?_
        simp only [poll, kPollInterval] at before ⊢
        omega
    rw [same, drained.timeout before (goesOn last before) behind]

/-! ## Both readers -/

/-- What both readers make of the first look at which the coroutine stops. -/
structure SameOutcome (socket : Socket) (look : Nat) : Prop where
  /-- At the end of the stream nothing has been received. -/
  atEof : socket.noticed (poll look) = some .eof → heard socket look = []
  /-- The larger buffer has not jumped over the place where the flight is
  complete. -/
  found : socket.noticed (poll look) = none →
    CompleteBy socket blocking.bufferSize look

theorem completeBy_coroutine
    (complete : CompleteBy socket blocking.bufferSize look) :
    CompleteBy socket coroutine.bufferSize look := by
  obtain ⟨earlier, notLater, found⟩ := complete
  exact ⟨earlier, notLater, completesIn_of_dvd (by decide) found⟩

theorem stops_coroutine (stops : Stops socket blocking.bufferSize look) :
    Stops socket coroutine.bufferSize look :=
  stops.imp id (And.imp id completeBy_coroutine)

/-- A flight completed later is a longer one. -/
theorem heard_ne_of_completeBy {later : Nat}
    (notYet : ¬ CompleteBy socket size look)
    (complete : CompleteBy socket size later) :
    heard socket later ≠ heard socket look := by
  intro same
  obtain ⟨earlier, notLater, found⟩ := complete
  by_cases before : earlier ≤ look
  · exact notYet ⟨earlier, before, found⟩
  · obtain ⟨place, after, inside, _⟩ := found
    cases earlier with
    | zero => exact before (Nat.zero_le _)
    | succ earlier =>
        have low : (heard socket look).length ≤
            (heard socket earlier).length :=
          (heard_grows (by omega)).length_le
        have high : (heard socket (earlier + 1)).length ≤
            (heard socket later).length :=
          (heard_grows notLater).length_le
        rw [same] at high
        have after : (heard socket earlier).length < place := after
        omega

theorem FirstStop.unique {other : Nat}
    (stop : FirstStop socket size drainTimeout look)
    (otherStop : FirstStop socket size drainTimeout other) :
    other = look := by
  apply Nat.le_antisymm
  · exact Nat.le_of_not_lt fun less => otherStop.first _ less stop.stops
  · exact Nat.le_of_not_lt fun less => stop.first _ less otherStop.stops

/-- Where the coroutine stops first, the other reader may stop too. -/
theorem FirstStop.both
    (stop : FirstStop socket coroutine.bufferSize drainTimeout look)
    (stops : Stops socket blocking.bufferSize look) :
    waitForServerTlsHello socket drainTimeout =
      verdict socket blocking look :=
  run_of_firstStop
    { inTime := stop.inTime
      stops := stops
      first := fun earlier before stopped =>
        stop.first earlier before (stops_coroutine stopped) }

/-- A reader which has missed the place does not return these bytes. -/
theorem waitForServerTlsHello_ne
    (notYet : ¬ CompleteBy socket blocking.bufferSize look) :
    waitForServerTlsHello socket drainTimeout ≠
      some (heard socket look) := by
  by_cases stopped : ∃ later,
      FirstStop socket blocking.bufferSize drainTimeout later
  · obtain ⟨later, stop⟩ := stopped
    rw [waitForServerTlsHello, run_of_firstStop stop, verdict]
    cases seen : socket.noticed (poll later) with
    | some how => cases how <;> exact Option.some_ne_none _ |>.symm
    | none =>
        have complete := (stop.stops.resolve_left (by simp [seen])).2
        intro same
        exact
          heard_ne_of_completeBy notYet complete (Option.some.inj same)
  · rw [waitForServerTlsHello, run_of_no_stop stopped]
    exact (Option.some_ne_none _).symm

theorem agree_iff_of_firstStop
    (stop : FirstStop socket coroutine.bufferSize drainTimeout look) :
    waitForServerTlsHello socket drainTimeout =
        waitForServerTlsHelloAsync socket drainTimeout ↔
      SameOutcome socket look := by
  have result : waitForServerTlsHelloAsync socket drainTimeout =
      verdict socket coroutine look :=
    run_of_firstStop stop
  rw [result]
  cases seen : socket.noticed (poll look) with
  | some how =>
      rw [stop.both (Or.inl (by simp [seen])), verdict, verdict, seen]
      cases how with
      | error =>
          refine iff_of_true rfl ⟨?_, ?_⟩ <;> simp [seen]
      | eof =>
          constructor
          · intro same
            refine ⟨fun _ => ?_, by simp [seen]⟩
            by_contra nonempty
            simp [blocking, coroutine, nonempty] at same
          · intro agree
            simp [blocking, coroutine, agree.atEof seen]
  | none =>
      obtain ⟨quiet, _⟩ := stop.stops.resolve_left (by simp [seen])
      by_cases complete : CompleteBy socket blocking.bufferSize look
      · rw [stop.both (Or.inr ⟨quiet, complete⟩), verdict, verdict, seen]
        exact iff_of_true rfl ⟨by simp [seen], fun _ => complete⟩
      · rw [verdict, seen]
        exact
          iff_of_false (waitForServerTlsHello_ne complete)
            fun agree => complete (agree.found seen)

/-- The readers return the same exactly if they do at the first look at which
the coroutine stops. -/
theorem readers_agree_iff (socket : Socket) (drainTimeout : Int) :
    waitForServerTlsHello socket drainTimeout =
        waitForServerTlsHelloAsync socket drainTimeout ↔
      ∀ look, FirstStop socket coroutine.bufferSize drainTimeout look →
        SameOutcome socket look := by
  by_cases stopped : ∃ look,
      FirstStop socket coroutine.bufferSize drainTimeout look
  · obtain ⟨look, stop⟩ := stopped
    rw [agree_iff_of_firstStop stop]
    constructor
    · intro same other otherStop
      rw [stop.unique otherStop]
      exact same
    · intro all
      exact all look stop
  · have neither : ¬ ∃ look,
        FirstStop socket blocking.bufferSize drainTimeout look := by
      rintro ⟨look, stop⟩
      exact
        stopped (exists_firstStop stop.inTime (stops_coroutine stop.stops))
    refine iff_of_true ?_ fun look stop => absurd ⟨look, stop⟩ stopped
    rw [waitForServerTlsHello, waitForServerTlsHelloAsync,
      run_of_no_stop neither, run_of_no_stop stopped]

/-! ## An alert behind the flight -/

/-- A ServerHello of TLS 1.3 and an encrypted record: 4096 bytes. -/
def flightOfOneBuffer : List UInt8 :=
  [0x16, 0x03, 0x03, 0x00, 0x32, 0x02, 0x00, 0x00, 0x2E, 0x03, 0x03] ++
    List.replicate 32 0x5A ++
    [0x00, 0x13, 0x01, 0x00, 0x00, 0x06, 0x00, 0x2B, 0x00, 0x02, 0x03,
      0x04] ++
    [0x17, 0x03, 0x03, 0x0F, 0xC4] ++ List.replicate 4036 0x5A

/-- The server closes the connection behind its flight. -/
def flightAndAlert : List UInt8 :=
  flightOfOneBuffer ++ [0x15, 0x03, 0x03, 0x00, 0x02, 0x01, 0x00]

def alertBehindFlight : Socket where
  arrivals := [.piece 0 flightAndAlert]
  reportsEnding := false

theorem heard_alertBehindFlight (look : Nat) :
    heard alertBehindFlight look = flightAndAlert := by
  rw [heard, alertBehindFlight, received, if_neg (Nat.not_lt_zero _)]
  exact List.append_nil _

theorem firstStop_alertBehindFlight :
    FirstStop alertBehindFlight coroutine.bufferSize 5000 3 where
  inTime := by decide
  stops := by
    refine Or.inr ⟨⟨Nat.le_refl _, ?_⟩, 0, Nat.zero_le _, 4096, ?_⟩
    · rw [heard_alertBehindFlight, heard_alertBehindFlight]
    · rw [heard_alertBehindFlight]
      exact
        ⟨by decide, by decide +kernel, Or.inr (Nat.dvd_refl _),
          by decide +kernel⟩
  first := by
    rintro earlier before (seen | ⟨⟨late, _⟩, _⟩)
    · cases seen
    · omega

theorem not_completeBy_alertBehindFlight (look : Nat) :
    ¬ CompleteBy alertBehindFlight blocking.bufferSize look := by
  have length : flightAndAlert.length = 4103 := by decide +kernel
  have incomplete : isServerHelloComplete flightAndAlert = false := by
    decide +kernel
  rintro ⟨earlier, _, found⟩
  cases earlier with
  | succ earlier =>
      refine not_completesIn_of_read ?_ found
      rw [alreadyRead, heard_alertBehindFlight, heard_alertBehindFlight]
  | zero =>
      obtain ⟨place, after, inside, boundary, complete⟩ := found
      rw [heard_alertBehindFlight] at inside boundary complete
      cases boundary with
      | inl whole =>
          rw [whole, List.take_length, incomplete] at complete
          cases complete
      | inr blocks =>
          have atLeast := Nat.le_of_dvd (Nat.sub_pos_of_lt after) blocks
          simp only [blocking, alreadyRead, length] at atLeast inside
          omega

/-- The coroutine returns the bytes and the other reader does not. -/
theorem waitForServerTlsHello_ne_async :
    waitForServerTlsHello alertBehindFlight 5000 ≠
      waitForServerTlsHelloAsync alertBehindFlight 5000 := by
  intro same
  have agree :=
    (agree_iff_of_firstStop firstStop_alertBehindFlight).mp same
  exact not_completeBy_alertBehindFlight 3 (agree.found rfl)

end Fptn.Network.FlightReaders
