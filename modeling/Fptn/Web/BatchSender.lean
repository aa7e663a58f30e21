import Fptn.Lib.PartialRun
import Fptn.Network.Packet
import Mathlib.Algebra.Group.Action.Defs
import Mathlib.Algebra.Order.BigOperators.Group.List

/-!
# The sender of a session

`RunSender` collects packets from the channel of a session, serializes them
and writes each batch as one message.  A batch ends when it has enough packets
or the channel is empty.  The client does not read messages which are longer
than its limit.

Packets may come into the channel at any time.  The libraries which write the
messages are given by the lengths of what they write.
-/

namespace Fptn.Web.BatchSender

open Fptn.PartialRun
open Fptn.Network.Packet

/-! ## Serializing -/

/-- A pointer to a packet, which may be null. -/
abbrev IPPacketPtr := Option IPPacket

def FPTN_IP_PACKET_MAX_SIZE : Nat := 1400

def kMinPaddingBytes : Nat := 64

def kMaxPaddingBytes : Nat := 128

/-- The size of the random padding; `ts` is the time on the clock. -/
def paddingSize (size ts : Nat) : Nat :=
  if size < FPTN_IP_PACKET_MAX_SIZE then
    min (kMinPaddingBytes + ts % (kMaxPaddingBytes - kMinPaddingBytes))
      (FPTN_IP_PACKET_MAX_SIZE - size)
  else
    0

/-- The lengths of the messages which a library writes.  No message is shorter
than what it holds, and a batch does not get shorter by more packets or by
longer ones. -/
structure Serializer where
  /-- A message with one packet, by the sizes of payload and padding. -/
  packetMessage : Nat → Nat → Nat
  /-- A message with a batch, by the lengths of its packets' messages. -/
  batchMessage : List Nat → Nat
  payload_le : ∀ payload padding,
    payload + padding ≤ packetMessage payload padding
  packets_le : ∀ lengths, lengths.sum ≤ batchMessage lengths
  batch_le : ∀ lengths count longest, lengths.length ≤ count →
    (∀ length ∈ lengths, length ≤ longest) →
      batchMessage lengths ≤ batchMessage (List.replicate count longest)

/-- A message without bytes counts as a failure. -/
def serialized (length : Nat) : Option Nat :=
  if length = 0 then none else some length

namespace Serializer

variable (serializer : Serializer)

def serializeIPPacket (packet : IPPacketPtr) (ts : Nat) : Option Nat :=
  match packet with
  | none => none
  | some packet =>
      if packet.data.size = 0 then
        none
      else
        serialized
          (serializer.packetMessage packet.data.size
            (paddingSize packet.data.size ts))

/-- The clock is read for each packet of the batch. -/
def serializeBatchIPPacket (packets : List IPPacketPtr)
    (clock : Nat → Nat) : Option Nat :=
  let lengths := packets.zipIdx.filterMap fun (packet, index) =>
    serializer.serializeIPPacket packet (clock index)
  if lengths = [] then none
  else serialized (serializer.batchMessage lengths)

end Serializer

/-! ## RunSender -/

/-- How a session sends, which is settled by the handshake. -/
structure Settings where
  supportBatchSending : Bool
  useYaffSerializer : Bool
  yaff : Serializer
  protobuf : Serializer

def Settings.serializer (settings : Settings) : Serializer :=
  if settings.useYaffSerializer then settings.yaff else settings.protobuf

/-- Where `RunSender` is. -/
inductive Sender where
  /-- At the head of the loop. -/
  | receiving
  /-- At the head of the inner loop. -/
  | collecting (packets : List IPPacketPtr)
  | batch (packets : List IPPacketPtr)
  | single (packet : IPPacketPtr)
  | done

structure Session where
  running : Bool
  /-- The write channel has been closed. -/
  closed : Bool
  fullQueue : Bool
  writeChannel : List IPPacketPtr
  sender : Sender
  /-- The lengths of the messages which have been written. -/
  messages : List Nat

def Session.start : Session where
  running := true
  closed := false
  fullQueue := false
  writeChannel := []
  sender := .receiving
  messages := []

inductive Label where
  | send (packet : IPPacketPtr)
  | close
  /-- `async_receive` completes, possibly with an error. -/
  | receive (failed : Bool)
  | tryReceive
  | write (clock : Nat → Nat)
  /-- An exception leaves the loop, and the session is closed. -/
  | fail

def channelCapacity : Nat := 1024

def kMaxBatchSize : Nat := 64

namespace Session

variable (session : Session)

/-- `Session::Send`. -/
def send (packet : IPPacketPtr) : Session :=
  if !session.running && packet.isSome then
    session
  else if !session.closed &&
      decide (session.writeChannel.length < channelCapacity) then
    { session with writeChannel := session.writeChannel ++ [packet] }
  else
    { session with fullQueue := true }

def close : Session :=
  { session with running := false, closed := true }

/-- A message is written, if there is one, and the loop goes on. -/
def write (message : Option Nat) : Session :=
  { session with
    sender := .receiving
    messages := session.messages ++ message.toList }

end Session

namespace Settings

variable (settings : Settings)

/-- What is done with the packet which `async_receive` returns. -/
def received (packet : IPPacketPtr) : Sender :=
  if packet.isNone then
    .receiving
  else if settings.supportBatchSending then
    .collecting [packet]
  else
    .single packet

def step (session : Session) : Label → Option Session
  | .send packet => some (session.send packet)
  | .close => some session.close
  | .receive failed =>
      match session.sender with
      | .receiving =>
          if !session.running then
            some { session with sender := .done }
          else if failed then
            some session
          else
            match session.writeChannel with
            | [] => none
            | packet :: rest =>
                some
                  { session with
                    writeChannel := rest
                    sender := settings.received packet }
      | _ => none
  | .tryReceive =>
      match session.sender with
      | .collecting packets =>
          if packets.length < kMaxBatchSize then
            match session.writeChannel with
            | [] => some { session with sender := .batch packets }
            | packet :: rest =>
                some
                  { session with
                    writeChannel := rest
                    sender :=
                      .collecting (packets ++ packet.toList.map some) }
          else
            some { session with sender := .batch packets }
      | _ => none
  | .write clock =>
      match session.sender with
      | .batch packets =>
          some
            (session.write
              (settings.serializer.serializeBatchIPPacket packets clock))
      | .single packet =>
          some
            (session.write
              (settings.protobuf.serializeIPPacket packet (clock 0)))
      | _ => none
  | .fail => some { session.close with sender := .done }

end Settings

/-! ## Packets of a device -/

/-- A packet which `RunReader` reads with this MTU.  On its way to the session
its addresses may be changed, not its size. -/
def FromDevice (mtu : Int) (packet : IPPacket) : Prop :=
  ∃ buffer clientId, 0 < buffer.size ∧ (buffer.size : Int) ≤ mtu ∧
    (parse buffer clientId).isSome ∧ packet.data.size = buffer.size

/-- Only packets which come from a device of this MTU are sent. -/
def SendsFrom (mtu : Int) : Label → Prop
  | .send packet => ∃ data, packet = some data ∧ FromDevice mtu data
  | _ => True

/-- What the client passes to `read_message_max`. -/
def readMessageMax : Nat := 256 * 1024

namespace Settings

variable (settings : Settings) (mtu : Int)

/-- No message is too long for the client, whatever a device of this MTU
delivers. -/
def MessagesFit : Prop :=
  ∀ labels last, (∀ label ∈ labels, SendsFrom mtu label) →
    run settings.step Session.start labels = some last →
      ∀ message ∈ last.messages, message ≤ readMessageMax

/-- The length of a message with as many packets of a size as it may have. -/
def fullMessage (size ts : Nat) : Nat :=
  let length (serializer : Serializer) :=
    serializer.packetMessage size (paddingSize size ts)
  if settings.supportBatchSending then
    settings.serializer.batchMessage
      (List.replicate kMaxBatchSize (length settings.serializer))
  else
    length settings.protobuf

/-- Full messages fit, for all sizes which a packet may have. -/
def FullMessagesFit : Prop :=
  ∀ size : Nat, kMinIPv4 ≤ size → (size : Int) ≤ mtu →
    ∀ ts, settings.fullMessage size ts ≤ readMessageMax

end Settings

open Settings

/-! ## Sizes -/

/-- Any packet of a size which a device of this MTU may deliver. -/
theorem fromDevice_iff {mtu : Int} {packet : IPPacket} :
    FromDevice mtu packet ↔
      kMinIPv4 ≤ packet.data.size ∧ (packet.data.size : Int) ≤ mtu := by
  constructor
  · rintro ⟨buffer, clientId, -, small, parsed, same⟩
    obtain ⟨read, parsed⟩ := Option.isSome_iff_exists.mp parsed
    rw [same]
    exact ⟨(parse_eq_some_iff.mp parsed).1.1, small⟩
  · rintro ⟨large, small⟩
    have four : version (fun _ => 0x45) = 4 := by decide
    have parsed :
        parse ⟨packet.data.size, fun _ => 0x45⟩ packet.clientId =
          some ⟨⟨packet.data.size, fun _ => 0x45⟩, packet.clientId⟩ :=
      parse_eq_some_iff.mpr ⟨⟨large, Or.inl four⟩, rfl⟩
    exact
      ⟨⟨packet.data.size, fun _ => 0x45⟩, packet.clientId,
        Nat.lt_of_lt_of_le (by decide) large, small,
        Option.isSome_iff_exists.mpr ⟨_, parsed⟩, rfl⟩

/-- The padding does not make a packet larger than packets may be. -/
theorem add_paddingSize_le (size ts : Nat) :
    size + paddingSize size ts ≤ max size FPTN_IP_PACKET_MAX_SIZE := by
  rw [paddingSize]
  split
  · rename_i short
    have room := Nat.min_le_right
      (kMinPaddingBytes + ts % (kMaxPaddingBytes - kMinPaddingBytes))
      (FPTN_IP_PACKET_MAX_SIZE - size)
    exact (show _ ≤ FPTN_IP_PACKET_MAX_SIZE by omega).trans
      (Nat.le_max_right _ _)
  · exact Nat.le_max_left _ _

theorem FromDevice.size_pos {mtu : Int} {packet : IPPacket}
    (read : FromDevice mtu packet) : 0 < packet.data.size :=
  Nat.lt_of_lt_of_le (by decide) (fromDevice_iff.mp read).1

section Lengths

variable {serializer : Serializer} {packet : IPPacketPtr}
  {packets : List IPPacketPtr} {ts length : Nat} {clock : Nat → Nat}

theorem serialized_eq_some {result : Nat} :
    serialized length = some result ↔ 0 < length ∧ result = length := by
  rw [serialized]
  split
  · simp_all
  · rename_i some_
    rw [Option.some.injEq, and_iff_right (Nat.pos_of_ne_zero some_),
      eq_comm]

/-- What a message with one packet consists of. -/
theorem serializeIPPacket_eq_some
    (message : serializer.serializeIPPacket packet ts = some length) :
    ∃ data, packet = some data ∧
      length =
        serializer.packetMessage data.data.size
          (paddingSize data.data.size ts) := by
  cases packet with
  | none => cases message
  | some data =>
      rw [Serializer.serializeIPPacket] at message
      split at message
      · cases message
      · exact ⟨data, rfl, (serialized_eq_some.mp message).2⟩

/-- A packet with data is always serialized. -/
theorem serializeIPPacket_of_pos {data : IPPacket}
    (some_ : 0 < data.data.size) :
    serializer.serializeIPPacket (some data) ts =
      some
        (serializer.packetMessage data.data.size
          (paddingSize data.data.size ts)) := by
  have long := serializer.payload_le data.data.size
    (paddingSize data.data.size ts)
  rw [Serializer.serializeIPPacket, if_neg (Nat.pos_iff_ne_zero.mp some_)]
  exact serialized_eq_some.mpr ⟨by omega, rfl⟩

/-- A batch is not longer than one full of its longest packet. -/
theorem serializeBatchIPPacket_le {count : Nat}
    (few : packets.length ≤ count)
    (message :
      serializer.serializeBatchIPPacket packets clock = some length) :
    ∃ data ts, some data ∈ packets ∧
      length ≤
        serializer.batchMessage
          (List.replicate count
            (serializer.packetMessage data.data.size
              (paddingSize data.data.size ts))) := by
  rw [Serializer.serializeBatchIPPacket] at message
  generalize each : packets.zipIdx.filterMap (fun (packet, index) =>
    serializer.serializeIPPacket packet (clock index)) = lengths
    at message
  have fewer : lengths.length ≤ count := by
    rw [← each]
    refine (List.length_filterMap_le _ _).trans ?_
    rw [List.length_zipIdx]
    exact few
  cases most : lengths.max? with
  | none =>
      rw [List.max?_eq_none_iff.mp most] at message
      cases message
  | some longest =>
      obtain ⟨member, bound⟩ := List.max?_eq_some_iff.mp most
      rw [if_neg (List.ne_nil_of_mem member)] at message
      obtain ⟨-, rfl⟩ := serialized_eq_some.mp message
      rw [← each] at member
      obtain ⟨⟨packet, index⟩, inside, same⟩ :=
        List.mem_filterMap.mp member
      obtain ⟨data, rfl, rfl⟩ := serializeIPPacket_eq_some same
      exact
        ⟨data, clock index, List.fst_mem_of_mem_zipIdx inside,
          serializer.batch_le lengths count _ fewer bound⟩

/-- A batch of copies of one packet, all serialized at one time. -/
theorem serializeBatchIPPacket_replicate {data : IPPacket} {count : Nat}
    (some_ : 0 < data.data.size) (pos : 0 < count) :
    serializer.serializeBatchIPPacket
        (List.replicate count (some data)) (fun _ => ts) =
      some
        (serializer.batchMessage
          (List.replicate count
            (serializer.packetMessage data.data.size
              (paddingSize data.data.size ts)))) := by
  have each : (List.replicate count (some data)).zipIdx.filterMap
      (fun (packet, _) => serializer.serializeIPPacket packet ts) =
        List.replicate count
          (serializer.packetMessage data.data.size
            (paddingSize data.data.size ts)) := by
    calc
      _ = ((List.replicate count (some data)).zipIdx.map
            Prod.fst).filterMap
              fun packet => serializer.serializeIPPacket packet ts :=
        List.filterMap_map.symm
      _ = _ := by
        rw [List.zipIdx_map_fst]
        exact
          List.filterMap_replicate_of_some (serializeIPPacket_of_pos some_)
  have long : 0 < serializer.packetMessage data.data.size
      (paddingSize data.data.size ts) :=
    Nat.lt_of_lt_of_le (Nat.add_pos_left some_ _)
      (serializer.payload_le _ _)
  have batch := serializer.packets_le
    (List.replicate count
      (serializer.packetMessage data.data.size
        (paddingSize data.data.size ts)))
  rw [List.sum_replicate, smul_eq_mul] at batch
  rw [Serializer.serializeBatchIPPacket, each,
    if_neg (by
      rw [List.replicate_eq_nil_iff]
      exact Nat.pos_iff_ne_zero.mp pos)]
  exact
    serialized_eq_some.mpr
      ⟨Nat.lt_of_lt_of_le (Nat.mul_pos pos long) batch, rfl⟩

end Lengths

/-! ## What a step does -/

section Steps

variable {settings : Settings} {session next : Session}
  {packet : IPPacketPtr} {packets rest : List IPPacketPtr}
  {data : IPPacket} {length : Nat} {clock : Nat → Nat} {failed : Bool}

theorem received_batch (mode : settings.supportBatchSending = true) :
    settings.received (some data) = .collecting [some data] := by
  rw [received, mode]
  rfl

theorem received_single (mode : settings.supportBatchSending = false) :
    settings.received (some data) = .single (some data) := by
  rw [received, mode]
  rfl

/-- The loop ends, or goes round, or a packet is taken. -/
theorem step_receive_eq_some
    (taken : settings.step session (.receive failed) = some next) :
    next = { session with sender := .done } ∨ next = session ∨
      ∃ packet rest, session.writeChannel = packet :: rest ∧
        next =
          { session with
            writeChannel := rest
            sender := settings.received packet } := by
  rw [step] at taken
  split at taken
  · split at taken
    · exact Or.inl (Option.some.inj taken).symm
    · split at taken
      · exact Or.inr (Or.inl (Option.some.inj taken).symm)
      · split at taken
        · cases taken
        · rename_i packet rest first
          exact
            Or.inr (Or.inr
              ⟨packet, rest, first, (Option.some.inj taken).symm⟩)
  · cases taken

/-- The batch ends, or it has room for the packet which is taken. -/
theorem step_tryReceive_eq_some
    (taken : settings.step session .tryReceive = some next) :
    ∃ packets, session.sender = .collecting packets ∧
      (next = { session with sender := .batch packets } ∨
        packets.length < kMaxBatchSize ∧
          ∃ packet rest, session.writeChannel = packet :: rest ∧
            next =
              { session with
                writeChannel := rest
                sender :=
                  .collecting (packets ++ packet.toList.map some) }) := by
  rw [step] at taken
  split at taken
  · rename_i packets place
    refine ⟨packets, place, ?_⟩
    split at taken
    · rename_i few
      split at taken
      · exact Or.inl (Option.some.inj taken).symm
      · rename_i packet rest first
        exact
          Or.inr
            ⟨few, packet, rest, first, (Option.some.inj taken).symm⟩
    · exact Or.inl (Option.some.inj taken).symm
  · cases taken

/-- What is written is what the sender has. -/
theorem step_write_eq_some
    (taken : settings.step session (.write clock) = some next) :
    (∃ packets, session.sender = .batch packets ∧
      next =
        session.write
          (settings.serializer.serializeBatchIPPacket packets clock)) ∨
      ∃ packet, session.sender = .single packet ∧
        next =
          session.write
            (settings.protobuf.serializeIPPacket packet (clock 0)) := by
  rw [step] at taken
  split at taken
  · rename_i packets place
    exact Or.inl ⟨packets, place, (Option.some.inj taken).symm⟩
  · rename_i packet place
    exact Or.inr ⟨packet, place, (Option.some.inj taken).symm⟩
  · cases taken

theorem step_receive (running : session.running = true)
    (place : session.sender = .receiving)
    (first : session.writeChannel = packet :: rest) :
    settings.step session (.receive false) =
      some
        { session with
          writeChannel := rest
          sender := settings.received packet } := by
  rw [step, place, running, first]
  rfl

theorem step_full (place : session.sender = .collecting packets)
    (full : kMaxBatchSize ≤ packets.length) :
    settings.step session .tryReceive =
      some { session with sender := .batch packets } := by
  rw [step, place]
  exact if_neg (Nat.not_lt.mpr full)

theorem step_batch (place : session.sender = .batch packets)
    (message : settings.serializer.serializeBatchIPPacket packets clock =
      some length) :
    settings.step session (.write clock) =
      some (session.write (some length)) := by
  rw [step, place, ← message]

theorem step_single (place : session.sender = .single packet)
    (message : settings.protobuf.serializeIPPacket packet (clock 0) =
      some length) :
    settings.step session (.write clock) =
      some (session.write (some length)) := by
  rw [step, place, ← message]

end Steps

/-! ## Messages which fit -/

/-- The packets which the sender has taken out of the channel. -/
def Sender.packets : Sender → List IPPacketPtr
  | .receiving | .done => []
  | .collecting packets | .batch packets => packets
  | .single packet => [packet]

/-- The sender is in the branch for its mode. -/
def Sender.Suits (supportBatchSending : Bool) : Sender → Prop
  | .receiving | .done => True
  | .collecting _ | .batch _ => supportBatchSending = true
  | .single _ => supportBatchSending = false

/-- All packets come from the device, and what has been written fits. -/
structure Kept (settings : Settings) (mtu : Int) (session : Session) :
    Prop where
  queued : ∀ packet, some packet ∈ session.writeChannel →
    FromDevice mtu packet
  held : ∀ packet, some packet ∈ session.sender.packets →
    FromDevice mtu packet
  few : session.sender.packets.length ≤ kMaxBatchSize
  suits : session.sender.Suits settings.supportBatchSending
  fit : ∀ message ∈ session.messages, message ≤ readMessageMax

section Keeps

variable {settings : Settings} {mtu : Int} {session next : Session}
  {packet : IPPacketPtr} {packets rest : List IPPacketPtr}
  {sender : Sender} {ts length : Nat} {clock : Nat → Nat}

theorem single_fits (fits : settings.FullMessagesFit mtu)
    (mode : settings.supportBatchSending = false)
    (held : ∀ data, packet = some data → FromDevice mtu data)
    (message :
      settings.protobuf.serializeIPPacket packet ts = some length) :
    length ≤ readMessageMax := by
  obtain ⟨data, same, rfl⟩ := serializeIPPacket_eq_some message
  obtain ⟨large, small⟩ := fromDevice_iff.mp (held data same)
  have full := fits _ large small ts
  rw [fullMessage, mode] at full
  exact full

theorem batch_fits (fits : settings.FullMessagesFit mtu)
    (mode : settings.supportBatchSending = true)
    (held : ∀ data, some data ∈ packets → FromDevice mtu data)
    (few : packets.length ≤ kMaxBatchSize)
    (message :
      settings.serializer.serializeBatchIPPacket packets clock =
        some length) :
    length ≤ readMessageMax := by
  obtain ⟨data, ts, member, bound⟩ := serializeBatchIPPacket_le few message
  obtain ⟨large, small⟩ := fromDevice_iff.mp (held data member)
  have full := fits _ large small ts
  rw [fullMessage, mode] at full
  exact bound.trans full

theorem kept_start : Kept settings mtu Session.start where
  queued := fun _ member => by cases member
  held := fun _ member => by cases member
  few := Nat.zero_le _
  suits := trivial
  fit := fun _ member => by cases member

theorem Kept.close (kept : Kept settings mtu session) :
    Kept settings mtu session.close :=
  ⟨kept.queued, kept.held, kept.few, kept.suits, kept.fit⟩

theorem Kept.send (kept : Kept settings mtu session) {data : IPPacket}
    (read : FromDevice mtu data) :
    Kept settings mtu (session.send (some data)) := by
  rw [Session.send]
  split
  · exact kept
  · split
    · refine ⟨fun other member => ?_, kept.held, kept.few, kept.suits,
        kept.fit⟩
      rcases List.mem_append.mp member with old | new
      · exact kept.queued other old
      · obtain rfl := Option.some.inj (List.mem_singleton.mp new)
        exact read
    · exact ⟨kept.queued, kept.held, kept.few, kept.suits, kept.fit⟩

/-- The sender takes packets out of the channel. -/
theorem Kept.take (kept : Kept settings mtu session)
    (left : ∀ packet ∈ rest, packet ∈ session.writeChannel)
    (taken : ∀ data, some data ∈ sender.packets →
      some data ∈ session.sender.packets ∨
        some data ∈ session.writeChannel)
    (few : sender.packets.length ≤ kMaxBatchSize)
    (suits : sender.Suits settings.supportBatchSending) :
    Kept settings mtu
      { session with writeChannel := rest, sender := sender } where
  queued := fun data member => kept.queued data (left _ member)
  held := fun data member =>
    (taken data member).elim (kept.held data) (kept.queued data)
  few := few
  suits := suits
  fit := kept.fit

/-- The sender only goes on. -/
theorem Kept.move (kept : Kept settings mtu session)
    (same : sender.packets = [] ∨ sender.packets = session.sender.packets)
    (suits : sender.Suits settings.supportBatchSending) :
    Kept settings mtu { session with sender := sender } := by
  refine kept.take (fun _ member => member) (fun data member => ?_) ?_ suits
  · rcases same with none_ | same
    · rw [none_] at member
      cases member
    · exact Or.inl (same ▸ member)
  · rcases same with none_ | same
    · rw [none_]
      exact Nat.zero_le _
    · rw [same]
      exact kept.few

theorem Kept.write {message : Option Nat}
    (kept : Kept settings mtu session)
    (fits : ∀ length, message = some length → length ≤ readMessageMax) :
    Kept settings mtu (session.write message) where
  queued := kept.queued
  held := fun _ member => by cases member
  few := Nat.zero_le _
  suits := trivial
  fit := by
    intro length member
    rcases List.mem_append.mp member with old | new
    · exact kept.fit length old
    · exact fits length (Option.mem_toList.mp new)

theorem Kept.receive (kept : Kept settings mtu session)
    (first : session.writeChannel = packet :: rest) :
    Kept settings mtu
      { session with
        writeChannel := rest
        sender := settings.received packet } := by
  have left : ∀ other ∈ rest, other ∈ session.writeChannel :=
    fun _ member => first ▸ List.mem_cons_of_mem _ member
  have here (data : IPPacket) (member : some data ∈ [packet]) :
      some data ∈ session.writeChannel := by
    rw [List.mem_singleton.mp member, first]
    exact List.mem_cons_self
  have one : 1 ≤ kMaxBatchSize := by decide
  cases packet with
  | none =>
      exact
        kept.take left (fun _ member => by cases member) (Nat.zero_le _)
          trivial
  | some data =>
      cases mode : settings.supportBatchSending with
      | true =>
          rw [received_batch mode]
          exact
            kept.take left (fun data member => Or.inr (here data member))
              one mode
      | false =>
          rw [received_single mode]
          exact
            kept.take left (fun data member => Or.inr (here data member))
              one mode

theorem Kept.collect (kept : Kept settings mtu session)
    (collecting : session.sender = .collecting packets)
    (few : packets.length < kMaxBatchSize)
    (first : session.writeChannel = packet :: rest) :
    Kept settings mtu
      { session with
        writeChannel := rest
        sender := .collecting (packets ++ packet.toList.map some) } := by
  have suits := kept.suits
  rw [collecting] at suits
  refine kept.take (fun _ member => first ▸ List.mem_cons_of_mem _ member)
    (fun data member => ?_) ?_ suits
  · rcases List.mem_append.mp member with old | new
    · rw [collecting]
      exact Or.inl old
    · obtain ⟨inner, inside, same⟩ := List.mem_map.mp new
      obtain rfl := Option.some.inj same
      rw [first, Option.mem_toList.mp inside]
      exact Or.inr List.mem_cons_self
  · have short : (packet.toList.map some).length ≤ 1 := by
      cases packet with
      | none => exact Nat.zero_le _
      | some data => exact Nat.le_refl _
    show (packets ++ packet.toList.map some).length ≤ kMaxBatchSize
    rw [List.length_append]
    omega

/-- Each step keeps it. -/
theorem kept_step (fits : settings.FullMessagesFit mtu) {label : Label}
    (kept : Kept settings mtu session) (sends : SendsFrom mtu label)
    (taken : settings.step session label = some next) :
    Kept settings mtu next := by
  have held := kept.held
  have few := kept.few
  have suits := kept.suits
  cases label with
  | send packet =>
      obtain ⟨data, rfl, read⟩ := sends
      obtain rfl := Option.some.inj taken
      exact kept.send read
  | close =>
      obtain rfl := Option.some.inj taken
      exact kept.close
  | receive failed =>
      rcases step_receive_eq_some taken with
        rfl | rfl | ⟨packet, rest, first, rfl⟩
      · exact kept.move (Or.inl rfl) trivial
      · exact kept
      · exact kept.receive first
  | tryReceive =>
      obtain ⟨packets, place, rfl | ⟨short, packet, rest, first, rfl⟩⟩ :=
        step_tryReceive_eq_some taken
      · rw [place] at suits
        exact kept.move (Or.inr (place ▸ rfl)) suits
      · exact kept.collect place short first
  | write clock =>
      rcases step_write_eq_some taken with
        ⟨packets, place, rfl⟩ | ⟨packet, place, rfl⟩
      · rw [place] at held few suits
        exact
          kept.write fun _ message =>
            batch_fits fits suits held few message
      · rw [place] at held suits
        refine kept.write fun _ message =>
          single_fits fits suits (fun data same => ?_) message
        exact held data (List.mem_singleton.mpr same.symm)
  | fail =>
      obtain rfl := Option.some.inj taken
      exact kept.close.move (Or.inl rfl) trivial

/-- Every run keeps it. -/
theorem kept_run (fits : settings.FullMessagesFit mtu) {last : Session}
    {labels : List Label} (kept : Kept settings mtu session)
    (sends : ∀ label ∈ labels, SendsFrom mtu label)
    (reached : run settings.step session labels = some last) :
    Kept settings mtu last := by
  have along : Along settings.step (fun _ label => SendsFrom mtu label)
      session labels := along_of_forall sends
  exact
    run_invariant_of
      (fun _ _ _ kept sends taken => kept_step fits kept sends taken) kept
      along reached

theorem messagesFit_of_fullMessagesFit
    (fits : settings.FullMessagesFit mtu) : settings.MessagesFit mtu :=
  fun _ _ sends reached => (kept_run fits kept_start sends reached).fit

end Keeps

/-! ## Full messages -/

section Full

variable {settings : Settings} {mtu : Int} {session : Session}
  {packets : List IPPacketPtr} {data : IPPacket} {count ts : Nat}

/-- Copies of a packet come into the channel. -/
theorem run_sends (running : session.running = true)
    (isOpen : session.closed = false)
    (room : session.writeChannel.length + count ≤ channelCapacity) :
    run settings.step session
        (List.replicate count (.send (some data))) =
      some
        { session with
          writeChannel :=
            session.writeChannel ++ List.replicate count (some data) } := by
  induction count generalizing session with
  | zero => simp [run]
  | succ count ih =>
      have sent : session.send (some data) =
          { session with
            writeChannel := session.writeChannel ++ [some data] } := by
        rw [Session.send, running, isOpen]
        exact if_pos (decide_eq_true (by omega))
      have less : (session.writeChannel ++ [some data]).length + count ≤
          channelCapacity := by
        rw [List.length_append, List.length_singleton]
        omega
      have rest := @ih
        { session with writeChannel := session.writeChannel ++ [some data] }
        running isOpen less
      rw [List.append_assoc, List.singleton_append,
        ← List.replicate_succ] at rest
      exact run_cons_eq_some.mpr ⟨_, rfl, sent ▸ rest⟩

/-- All that is in the channel goes into the batch. -/
theorem run_collects (collecting : session.sender = .collecting packets)
    (queued : session.writeChannel = List.replicate count (some data))
    (few : packets.length + count ≤ kMaxBatchSize) :
    run settings.step session (List.replicate count .tryReceive) =
      some
        { session with
          writeChannel := []
          sender :=
            .collecting (packets ++ List.replicate count (some data)) } := by
  induction count generalizing session packets with
  | zero =>
      rw [List.replicate_zero] at queued
      rw [List.replicate_zero, List.replicate_zero, List.append_nil,
        ← collecting, ← queued]
      rfl
  | succ count ih =>
      rw [List.replicate_succ] at queued
      have taken : settings.step session .tryReceive =
          some
            { session with
              writeChannel := List.replicate count (some data)
              sender := .collecting (packets ++ [some data]) } := by
        rw [step, collecting, queued]
        exact if_pos (by omega)
      have fewer : (packets ++ [some data]).length + count ≤
          kMaxBatchSize := by
        rw [List.length_append, List.length_singleton]
        omega
      have rest := @ih
        { session with
          writeChannel := List.replicate count (some data)
          sender := .collecting (packets ++ [some data]) }
        (packets ++ [some data]) rfl rfl fewer
      rw [List.append_assoc, List.singleton_append,
        ← List.replicate_succ] at rest
      exact run_cons_eq_some.mpr ⟨_, taken, rest⟩

/-- A run in which only one packet is sent. -/
theorem sendsFrom_of_only {labels : List Label}
    (read : FromDevice mtu data)
    (only : ∀ packet, .send packet ∈ labels → packet = some data) :
    ∀ label ∈ labels, SendsFrom mtu label := by
  intro label member
  cases label with
  | send packet => exact ⟨data, only packet member, read⟩
  | close | receive | tryReceive | write | fail => trivial

/-- A batch is collected out of the channel. -/
theorem run_receives (mode : settings.supportBatchSending = true)
    (running : session.running = true)
    (place : session.sender = .receiving)
    (queued : session.writeChannel = List.replicate (count + 1) (some data))
    (few : count + 1 ≤ kMaxBatchSize) :
    run settings.step session
        (.receive false :: List.replicate count .tryReceive) =
      some
        { session with
          writeChannel := []
          sender :=
            .collecting (List.replicate (count + 1) (some data)) } := by
  have received_ := @step_receive settings session (some data)
    (List.replicate count (some data)) running place queued
  rw [received_batch mode] at received_
  refine run_cons_eq_some.mpr ⟨_, received_, ?_⟩
  have filled := @run_collects settings
    { session with
      writeChannel := List.replicate count (some data)
      sender := .collecting [some data] }
    [some data] data count rfl rfl (by
      rw [List.length_singleton, Nat.add_comm]
      exact few)
  rw [List.singleton_append, ← List.replicate_succ] at filled
  exact filled

/-- A message full of copies of one packet is written. -/
theorem batch_reached (mode : settings.supportBatchSending = true)
    (read : FromDevice mtu data) :
    ∃ labels last, (∀ label ∈ labels, SendsFrom mtu label) ∧
      run settings.step Session.start labels = some last ∧
        last.messages = [settings.fullMessage data.data.size ts] := by
  obtain ⟨others, same⟩ : ∃ others, kMaxBatchSize = others + 1 := ⟨63, rfl⟩
  have room : Session.start.writeChannel.length + kMaxBatchSize ≤
      channelCapacity := by decide
  have sent := @run_sends settings Session.start data kMaxBatchSize rfl rfl
    room
  have received_ := @run_receives settings
    { Session.start with
      writeChannel := [] ++ List.replicate kMaxBatchSize (some data) }
    data others mode rfl rfl (by rw [List.nil_append, same]) same.ge
  rw [← same] at received_
  have ended := @step_full settings
    { Session.start with
      sender := .collecting (List.replicate kMaxBatchSize (some data)) }
    _ rfl List.length_replicate.ge
  have message : settings.serializer.serializeBatchIPPacket
      (List.replicate kMaxBatchSize (some data)) (fun _ => ts) =
        some (settings.fullMessage data.data.size ts) := by
    rw [fullMessage, mode]
    exact serializeBatchIPPacket_replicate read.size_pos (by decide)
  let labels : List Label :=
    List.replicate kMaxBatchSize (Label.send (some data)) ++
      ((Label.receive false :: List.replicate others Label.tryReceive) ++
        [Label.tryReceive, Label.write fun _ => ts])
  refine
    ⟨labels,
      Session.start.write (some (settings.fullMessage data.data.size ts)),
      sendsFrom_of_only read fun packet member => ?_, ?_, rfl⟩
  · simp [labels, List.mem_replicate] at member
    exact member.2
  · refine (run_append sent).trans ((run_append received_).trans ?_)
    exact
      run_cons_eq_some.mpr
        ⟨_, ended, run_cons_eq_some.mpr
          ⟨_, step_batch rfl message, rfl⟩⟩

/-- A message with one packet is written. -/
theorem single_reached (mode : settings.supportBatchSending = false)
    (read : FromDevice mtu data) :
    ∃ labels last, (∀ label ∈ labels, SendsFrom mtu label) ∧
      run settings.step Session.start labels = some last ∧
        last.messages = [settings.fullMessage data.data.size ts] := by
  let queued : Session :=
    { Session.start with writeChannel := [some data] }
  have received_ : settings.step queued (.receive false) =
      some { Session.start with sender := .single (some data) } := by
    rw [step_receive rfl rfl rfl, received_single mode]
    rfl
  have message : settings.protobuf.serializeIPPacket (some data) ts =
      some (settings.fullMessage data.data.size ts) := by
    rw [fullMessage, mode]
    exact serializeIPPacket_of_pos read.size_pos
  refine
    ⟨[.send (some data), .receive false, .write fun _ => ts],
      Session.start.write (some (settings.fullMessage data.data.size ts)),
      sendsFrom_of_only read fun packet member => ?_, ?_, rfl⟩
  · simpa using member
  · exact
      run_cons_eq_some.mpr
        ⟨queued, rfl, run_cons_eq_some.mpr
          ⟨_, received_, run_cons_eq_some.mpr
            ⟨_, step_single rfl message, rfl⟩⟩⟩

theorem fullMessagesFit_of_messagesFit
    (fits : settings.MessagesFit mtu) : settings.FullMessagesFit mtu := by
  intro size large small ts
  let data : IPPacket := ⟨⟨size, fun _ => 0x45⟩, 0⟩
  have read : FromDevice mtu data := fromDevice_iff.mpr ⟨large, small⟩
  obtain ⟨labels, last, sends, reached, messages⟩ :
      ∃ labels last, (∀ label ∈ labels, SendsFrom mtu label) ∧
        run settings.step Session.start labels = some last ∧
          last.messages = [settings.fullMessage size ts] := by
    cases mode : settings.supportBatchSending with
    | true => exact batch_reached mode read
    | false => exact single_reached mode read
  apply fits labels last sends reached
  rw [messages]
  exact List.mem_cons_self

end Full

/-! ## When every message fits -/

/-- The client reads every message exactly if it reads the full ones. -/
theorem messagesFit_iff (settings : Settings) (mtu : Int) :
    settings.MessagesFit mtu ↔ settings.FullMessagesFit mtu :=
  ⟨fullMessagesFit_of_messagesFit, messagesFit_of_fullMessagesFit⟩

/-- With more than this, packets without their headers are too long. -/
theorem not_messagesFit {settings : Settings} {mtu : Int}
    (mode : settings.supportBatchSending = true) (large : 4096 < mtu) :
    ¬ settings.MessagesFit mtu := by
  intro fits
  have full := fullMessagesFit_of_messagesFit fits 4097 (by decide)
    (by omega) 0
  have packets := settings.serializer.packets_le
    (List.replicate kMaxBatchSize
      (settings.serializer.packetMessage 4097 (paddingSize 4097 0)))
  have payload := settings.serializer.payload_le 4097 (paddingSize 4097 0)
  rw [fullMessage, mode] at full
  rw [List.sum_replicate, smul_eq_mul] at packets
  have limit : readMessageMax < kMaxBatchSize * 4097 := by decide
  have long := Nat.mul_le_mul_left kMaxBatchSize
    ((Nat.le_add_right _ _).trans payload)
  exact
    Nat.lt_irrefl _
      (Nat.lt_of_lt_of_le limit (long.trans (packets.trans full)))

/-- With an overhead for each packet and message, an MTU is small enough. -/
theorem fullMessagesFit_of_overhead {settings : Settings} {mtu : Int}
    {largest added : Nat} (mode : settings.supportBatchSending = true)
    (packet : ∀ payload padding,
      settings.serializer.packetMessage payload padding ≤
        payload + padding + added)
    (batch : ∀ lengths,
      settings.serializer.batchMessage lengths ≤
        lengths.sum + added * (lengths.length + 1))
    (padded : FPTN_IP_PACKET_MAX_SIZE ≤ largest) (small : mtu ≤ largest)
    (room : kMaxBatchSize * (largest + 2 * added) + added ≤
      readMessageMax) :
    settings.FullMessagesFit mtu := by
  intro size _ within ts
  have payload : size + paddingSize size ts ≤ largest :=
    (add_paddingSize_le size ts).trans (Nat.max_le.mpr ⟨by omega, padded⟩)
  have message := packet size (paddingSize size ts)
  have full := batch
    (List.replicate kMaxBatchSize
      (settings.serializer.packetMessage size (paddingSize size ts)))
  rw [List.sum_replicate, smul_eq_mul, List.length_replicate] at full
  rw [fullMessage, mode]
  refine full.trans (le_trans ?_ room)
  calc
    _ ≤ kMaxBatchSize * (largest + added) + added * (kMaxBatchSize + 1) :=
      Nat.add_le_add_right (Nat.mul_le_mul_left _ (by omega)) _
    _ = kMaxBatchSize * (largest + 2 * added) + added := by ring

/-- A library which adds nothing to what it is given. -/
def plain : Serializer where
  packetMessage payload padding := payload + padding
  batchMessage lengths := lengths.sum
  payload_le _ _ := Nat.le_refl _
  packets_le _ := Nat.le_refl _
  batch_le := by
    intro lengths count longest few bound
    rw [List.sum_replicate, smul_eq_mul]
    have sum := List.sum_le_card_nsmul lengths longest bound
    rw [smul_eq_mul] at sum
    exact sum.trans (Nat.mul_le_mul_right _ few)

/-- Jumbo frames fill a message which the client does not read. -/
theorem jumboFrames_tooLong :
    ¬ MessagesFit ⟨true, true, plain, plain⟩ 9000 :=
  not_messagesFit rfl (by decide)

end Fptn.Web.BatchSender
