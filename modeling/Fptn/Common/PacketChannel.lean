import Fptn.Lib.PartialRun
import Mathlib.Data.UInt

/-!
# The packet channel

`Channel` is a queue of packets under a mutex, with two kinds of producers and
two kinds of consumers.  A consumer which finds the queue empty waits, and
tests it again whenever it has been woken up or its time is over.  Each section
under the mutex is one step, and a consumer may be woken up at any time.

What the callers have asked for and been given is noted in a history.
-/

namespace Fptn.Common.PacketChannel

open Fptn.PartialRun

variable {Packet : Type}

structure Channel (Packet : Type) where
  maxCapacity : Nat
  queue : List Packet
  isFull : Bool
  dropped : UInt64
deriving DecidableEq

namespace Channel

def create (maxCapacity : Nat) : Channel Packet where
  maxCapacity := maxCapacity
  queue := []
  isFull := false
  dropped := 0

variable (channel : Channel Packet)

/-- A packet or a batch is dropped. -/
def reject (count : Nat) : Channel Packet :=
  { channel with
    dropped := channel.dropped + UInt64.ofNat count
    isFull := true }

/-- The channel is no longer full. -/
def resume : Channel Packet :=
  if channel.isFull then
    { channel with isFull := false, dropped := 0 }
  else
    channel

def push (packet : Packet) : Channel Packet × Bool :=
  if channel.queue.length ≤ channel.maxCapacity then
    ({ channel.resume with queue := channel.queue ++ [packet] }, true)
  else
    (channel.reject 1, false)

def pushBatch (packets : List Packet) : Channel Packet × Bool :=
  if channel.maxCapacity ≤ channel.queue.length then
    (channel.reject packets.length, false)
  else
    ({ channel.resume with queue := channel.queue ++ packets }, true)

/-- The first packet is taken. -/
def takePacket : Channel Packet × Option Packet :=
  match channel.queue with
  | [] => (channel, none)
  | packet :: rest => ({ channel with queue := rest }, some packet)

/-- Packets are taken until the queue is empty or the batch is full. -/
def takePackets (maxBatchSize : Nat) : Channel Packet × List Packet :=
  ({ channel with queue := channel.queue.drop maxBatchSize },
    channel.queue.take maxBatchSize)

end Channel

/-! ## Calls -/

abbrev CallId := Nat

inductive Wait where
  /-- `WaitForPacket`. -/
  | packet
  /-- `WaitForPackets`. -/
  | packets (maxBatchSize : Nat)
deriving DecidableEq

inductive Label (Packet : Type) where
  | push (packet : Packet)
  | pushBatch (packets : List Packet)
  /-- A consumer calls, and locks the mutex for the first time. -/
  | wait (call : CallId) (wait : Wait)
  /-- A waiting consumer has the mutex again. -/
  | wake (call : CallId) (timedOut : Bool)
deriving DecidableEq

/-- What a step returns to its caller. -/
inductive Reply (Packet : Type) where
  | pushed (accepted : Bool)
  | packet (packet : Option Packet)
  | packets (batch : List Packet)
  /-- The call waits. -/
  | waits
deriving DecidableEq

structure System (Packet : Type) where
  channel : Channel Packet
  waiting : CallId → Option Wait
  history : List (Label Packet × Reply Packet)

namespace System

def start (maxCapacity : Nat) : System Packet where
  channel := .create maxCapacity
  waiting _ := none
  history := []

variable (system : System Packet)

/-- What a consumer takes. -/
def take : Wait → Channel Packet × Reply Packet
  | .packet =>
      let (channel, packet) := system.channel.takePacket
      (channel, .packet packet)
  | .packets maxBatchSize =>
      let (channel, batch) := system.channel.takePackets maxBatchSize
      (channel, .packets batch)

def note (label : Label Packet) (reply : Reply Packet) : System Packet :=
  { system with history := system.history ++ [(label, reply)] }

def produce (label : Label Packet) (result : Channel Packet × Bool) :
    System Packet :=
  { system with channel := result.1 }.note label (.pushed result.2)

/-- A consumer returns with what is there, if anything. -/
def finish (label : Label Packet) (call : CallId) (wait : Wait) :
    System Packet :=
  let (channel, reply) := system.take wait
  { system with
    channel := channel
    waiting := Function.update system.waiting call none }.note label reply

def suspend (label : Label Packet) (call : CallId) (wait : Wait) :
    System Packet :=
  { system with
    waiting := Function.update system.waiting call (some wait) }.note label
      .waits

def step : Label Packet → Option (System Packet)
  | .push packet =>
      some (system.produce (.push packet) (system.channel.push packet))
  | .pushBatch packets =>
      some (system.produce (.pushBatch packets)
        (system.channel.pushBatch packets))
  | .wait call wait =>
      if (system.waiting call).isSome then
        none
      else if system.channel.queue.isEmpty then
        some (system.suspend (.wait call wait) call wait)
      else
        some (system.finish (.wait call wait) call wait)
  | .wake call timedOut =>
      match system.waiting call with
      | none => none
      | some wait =>
          if system.channel.queue.isEmpty && !timedOut then
            some (system.suspend (.wake call timedOut) call wait)
          else
            some (system.finish (.wake call timedOut) call wait)

end System

/-! ## Delivery -/

/-- The packets which a call has been promised to deliver. -/
def acceptedBy : Label Packet × Reply Packet → List Packet
  | (.push packet, .pushed true) => [packet]
  | (.pushBatch packets, .pushed true) => packets
  | _ => []

/-- The packets which a call has returned. -/
def returnedBy : Label Packet × Reply Packet → List Packet
  | (_, .packet packet) => packet.toList
  | (_, .packets batch) => batch
  | _ => []

/-- The accepted packets are those which have been returned and then those
which are queued, in this order. -/
def Delivers (system : System Packet) : Prop :=
  system.history.flatMap acceptedBy =
    system.history.flatMap returnedBy ++ system.channel.queue

variable {system next : System Packet}

theorem takePacket_queue {channel : Channel Packet} :
    channel.queue =
      channel.takePacket.2.toList ++ channel.takePacket.1.queue := by
  unfold Channel.takePacket
  cases queue : channel.queue with
  | nil => simp [queue]
  | cons packet rest => rfl

theorem takePackets_queue {channel : Channel Packet} {maxBatchSize : Nat} :
    channel.queue =
      (channel.takePackets maxBatchSize).2 ++
        (channel.takePackets maxBatchSize).1.queue :=
  (List.take_append_drop maxBatchSize channel.queue).symm

/-- A call which returns has taken the front of the queue. -/
theorem take_queue {label : Label Packet} {wait : Wait} :
    system.channel.queue =
        returnedBy (label, (system.take wait).2) ++
          (system.take wait).1.queue ∧
      acceptedBy (label, (system.take wait).2) = [] := by
  cases wait with
  | packet => exact ⟨takePacket_queue, by cases label <;> rfl⟩
  | packets maxBatchSize =>
      exact ⟨takePackets_queue, by cases label <;> rfl⟩

theorem finish_delivers {label : Label Packet} {call : CallId} {wait : Wait}
    (delivers : Delivers system) :
    Delivers (system.finish label call wait) := by
  obtain ⟨taken, nothing⟩ := @take_queue _ system label wait
  unfold Delivers at delivers ⊢
  simp only [System.finish, System.note, List.flatMap_append,
    List.flatMap_singleton, nothing, List.append_nil]
  rw [delivers, taken, List.append_assoc]

theorem suspend_delivers {label : Label Packet} {call : CallId}
    {wait : Wait} (delivers : Delivers system) :
    Delivers (system.suspend label call wait) := by
  have nothing : acceptedBy (label, Reply.waits) = ([] : List Packet) := by
    cases label <;> rfl
  unfold Delivers at delivers ⊢
  simp only [System.suspend, System.note, List.flatMap_append,
    List.flatMap_singleton, nothing, returnedBy, List.append_nil]
  exact delivers

/-- An accepted packet is queued last, and a rejected one is not. -/
theorem push_queue {channel : Channel Packet} {packet : Packet} :
    (channel.push packet).1.queue =
      channel.queue ++
        acceptedBy (.push packet, .pushed (channel.push packet).2) := by
  unfold Channel.push
  split
  · rfl
  · exact (List.append_nil _).symm

theorem pushBatch_queue {channel : Channel Packet}
    {packets : List Packet} :
    (channel.pushBatch packets).1.queue =
      channel.queue ++
        acceptedBy
          (.pushBatch packets, .pushed (channel.pushBatch packets).2) := by
  unfold Channel.pushBatch
  split
  · exact (List.append_nil _).symm
  · rfl

theorem produce_delivers {label : Label Packet}
    {result : Channel Packet × Bool} (delivers : Delivers system)
    (queue : result.1.queue =
      system.channel.queue ++ acceptedBy (label, .pushed result.2)) :
    Delivers (system.produce label result) := by
  unfold Delivers at delivers ⊢
  simp only [System.produce, System.note, List.flatMap_append,
    List.flatMap_singleton, returnedBy, List.append_nil]
  rw [delivers, queue, List.append_assoc]

/-- A consumer waits, or returns with what is there. -/
theorem step_wait {call : CallId} {wait : Wait}
    (taken : system.step (.wait call wait) = some next) :
    next = system.suspend (.wait call wait) call wait ∨
      next = system.finish (.wait call wait) call wait := by
  simp only [System.step] at taken
  split at taken
  · cases taken
  · split at taken
    · exact Or.inl (Option.some.inj taken).symm
    · exact Or.inr (Option.some.inj taken).symm

theorem step_wake {call : CallId} {timedOut : Bool}
    (taken : system.step (.wake call timedOut) = some next) :
    ∃ wait,
      next = system.suspend (.wake call timedOut) call wait ∨
        next = system.finish (.wake call timedOut) call wait := by
  simp only [System.step] at taken
  split at taken
  · cases taken
  · rename_i wait _
    refine ⟨wait, ?_⟩
    split at taken
    · exact Or.inl (Option.some.inj taken).symm
    · exact Or.inr (Option.some.inj taken).symm

theorem step_delivers {label : Label Packet} (delivers : Delivers system)
    (taken : system.step label = some next) : Delivers next := by
  cases label with
  | push packet =>
      cases taken
      exact produce_delivers delivers push_queue
  | pushBatch packets =>
      cases taken
      exact produce_delivers delivers pushBatch_queue
  | wait call wait =>
      rcases step_wait taken with rfl | rfl
      · exact suspend_delivers delivers
      · exact finish_delivers delivers
  | wake call timedOut =>
      rcases step_wake taken with ⟨wait, rfl | rfl⟩
      · exact suspend_delivers delivers
      · exact finish_delivers delivers

theorem start_delivers {maxCapacity : Nat} :
    Delivers (System.start maxCapacity : System Packet) :=
  rfl

/-- Whatever the calls and their order, each accepted packet has been returned
once or is still queued, and packets are returned in the order in which they
have been accepted. -/
theorem run_delivers_packets {maxCapacity : Nat}
    {labels : List (Label Packet)}
    (reached : run System.step (System.start maxCapacity) labels =
      some system) :
    Delivers system :=
  run_invariant (fun _ _ _ delivers taken => step_delivers delivers taken)
    start_delivers reached

/-- A consumer waits, is woken up in vain and then served, and another one
takes a batch of two. -/
def mixedCalls : List (Label Nat) :=
  [.wait 1 .packet, .wake 1 false, .push 10, .pushBatch [11, 12, 13],
    .wake 1 false, .wait 2 (.packets 2)]

/-- The last packet is still queued. -/
theorem run_delivers_packets_mixed :
    ∃ system, run System.step (System.start 8) mixedCalls = some system ∧
      system.history.flatMap returnedBy = [10, 11, 12] ∧
        Delivers system := by
  have taken : (run System.step (System.start 8) mixedCalls).map
      (fun system => system.history.flatMap returnedBy) =
        some [10, 11, 12] := by
    decide
  obtain ⟨system, reached, returned⟩ := Option.map_eq_some_iff.mp taken
  exact ⟨system, reached, returned, run_delivers_packets reached⟩

/-! ## Capacity -/

def Bounded (system : System Packet) : Prop :=
  system.channel.queue.length ≤ system.channel.maxCapacity

/-- No packet comes when the queue is exactly full, and no batch which is
accepted is larger than the room which is left. -/
def HasRoom (system : System Packet) : Label Packet → Prop
  | .push _ => system.channel.queue.length ≠ system.channel.maxCapacity
  | .pushBatch packets =>
      system.channel.queue.length < system.channel.maxCapacity →
        system.channel.queue.length + packets.length ≤
          system.channel.maxCapacity
  | .wait _ _ | .wake _ _ => True

instance (system : System Packet) (label : Label Packet) :
    Decidable (HasRoom system label) :=
  match label with
  | .push _ => inferInstanceAs (Decidable (_ ≠ _))
  | .pushBatch _ => inferInstanceAs (Decidable (_ → _))
  | .wait _ _ | .wake _ _ => isTrue trivial

@[simp]
theorem resume_maxCapacity {channel : Channel Packet} :
    channel.resume.maxCapacity = channel.maxCapacity := by
  unfold Channel.resume
  split <;> rfl

theorem push_bounded_iff {packet : Packet} (bounded : Bounded system) :
    Bounded (system.produce (.push packet) (system.channel.push packet)) ↔
      HasRoom system (.push packet) := by
  unfold Bounded at bounded ⊢
  simp only [System.produce, System.note, Channel.push, if_pos bounded,
    resume_maxCapacity, List.length_append, List.length_singleton, HasRoom]
  omega

theorem pushBatch_bounded_iff {packets : List Packet}
    (bounded : Bounded system) :
    Bounded (system.produce (.pushBatch packets)
        (system.channel.pushBatch packets)) ↔
      HasRoom system (.pushBatch packets) := by
  unfold Bounded at bounded ⊢
  simp only [System.produce, System.note, Channel.pushBatch, HasRoom]
  split
  case isTrue full =>
    have notLess := Nat.not_lt.mpr full
    exact ⟨fun _ less => absurd less notLess, fun _ => bounded⟩
  case isFalse less =>
    simp only [resume_maxCapacity, List.length_append]
    exact ⟨fun fits _ => fits, fun fits => fits (Nat.not_le.mp less)⟩

theorem finish_bounded {label : Label Packet} {call : CallId} {wait : Wait}
    (bounded : Bounded system) :
    Bounded (system.finish label call wait) := by
  obtain ⟨taken, -⟩ := @take_queue _ system label wait
  have shorter := congrArg List.length taken
  rw [List.length_append] at shorter
  have same : (system.take wait).1.maxCapacity =
      system.channel.maxCapacity := by
    cases wait with
    | packet =>
        simp only [System.take, Channel.takePacket]
        split <;> rfl
    | packets => rfl
  unfold Bounded at bounded ⊢
  simp only [System.finish, System.note, same]
  omega

theorem step_bounded_iff {label : Label Packet} (bounded : Bounded system)
    (taken : system.step label = some next) :
    Bounded next ↔ HasRoom system label := by
  cases label with
  | push packet =>
      cases taken
      exact push_bounded_iff bounded
  | pushBatch packets =>
      cases taken
      exact pushBatch_bounded_iff bounded
  | wait call wait =>
      apply iff_of_true ?_ trivial
      rcases step_wait taken with rfl | rfl
      · exact bounded
      · exact finish_bounded bounded
  | wake call timedOut =>
      apply iff_of_true ?_ trivial
      rcases step_wake taken with ⟨wait, rfl | rfl⟩
      · exact bounded
      · exact finish_bounded bounded

/-- The queue stays within its capacity exactly if there is room for whatever
is accepted. -/
theorem run_bounded_iff {maxCapacity : Nat} {labels : List (Label Packet)}
    (reached : run System.step (System.start maxCapacity) labels =
      some system) :
    Along System.step (fun visited _ => Bounded visited)
          (System.start maxCapacity) labels ∧ Bounded system ↔
      Along System.step HasRoom (System.start maxCapacity) labels :=
  @run_along_iff _ _ _ _ (fun _ => True) Bounded
    (fun _ _ _ _ _ => trivial)
    (fun _ _ _ _ bounded taken => step_bounded_iff bounded taken)
    _ _ _ trivial (Nat.zero_le _) reached

/-- A batch and a packet fill the queue. -/
theorem run_bounded_full :
    ∃ system, run System.step (System.start 3)
        [.pushBatch [10, 11], .push 12] = some system ∧
      Bounded system := by
  have taken : (run System.step (System.start 3)
      [.pushBatch [10, 11], .push 12]).isSome = true := by
    decide
  obtain ⟨system, reached⟩ := Option.isSome_iff_exists.mp taken
  exact ⟨system, reached, ((run_bounded_iff reached).mpr (by decide)).2⟩

/-- A channel for one packet takes two, and a batch of any size. -/
theorem push_overflows :
    ¬∀ (maxCapacity : Nat) (labels : List (Label Nat))
        (system : System Nat),
      run System.step (System.start maxCapacity) labels = some system →
        Bounded system := by
  intro bounded
  have taken : (run System.step (System.start 1)
      [.push 10, .push 11]).map
        (fun system => system.channel.queue) = some [10, 11] := by
    decide
  obtain ⟨system, reached, queue⟩ := Option.map_eq_some_iff.mp taken
  have capacity : system.channel.maxCapacity = 1 := by
    have same : (run System.step (System.start 1) [.push 10, .push 11]).map
        (fun system => system.channel.maxCapacity) = some 1 := by
      decide
    rw [reached] at same
    exact Option.some.inj same
  have one := bounded 1 _ system reached
  rw [Bounded, queue, capacity] at one
  exact absurd one (by decide)

end Fptn.Common.PacketChannel
