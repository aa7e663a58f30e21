import Fptn.Vpn.ClientTunnel

/-!
# The packets of a connection

Both ends of a connection work alike.  `Send` puts packets into a channel,
`RunSender` collects them into batches and writes each batch as one message,
and the `RunReader` of the other end takes the messages apart and hands the
packets over one by one.  The four loops, `Stop` and `Close` run in any order,
and the connection may fail at any time.

The websocket carries whole messages in their order.  The library which
writes the messages is given by what it reads of them.
-/

namespace Fptn.Vpn.TunnelStream

open Fptn.PartialRun
open Fptn.Network.AddressRewrite (Shaped)
open Fptn.Network.ChecksumValue
open Fptn.Network.IPAddress
open Fptn.Network.Packet
open Fptn.Network.SourceAddress
open Fptn.Vpn.AnswerPath (Forwarded)
open Fptn.Vpn.ClientTunnel
open Fptn.Vpn.FromClient (forged)
open Fptn.Web.BatchSender (IPPacketPtr)

/-! ## Messages -/

/-- The bytes of a packet. -/
abbrev Payload := List UInt8

abbrev Message := List UInt8

def payloadOf (data : IPPacketData) : Payload :=
  bytesAt data.memory 0 data.size

def dataOf (payload : Payload) : IPPacketData where
  size := payload.length
  memory := putBytes (fun _ => 0) 0 payload

/-- What the library writes at a time, which decides on the padding.  It reads
what it has written, and of a message which has been cut off no more than the
first packets. -/
structure Codec where
  write : Nat → List Payload → Message
  read : Message → List Payload
  read_write : ∀ time payloads, write time payloads ≠ [] →
    read (write time payloads) = payloads
  read_cut : ∀ time payloads count,
    read ((write time payloads).take count) <+: payloads

namespace Codec

variable (codec : Codec)

/-- Packets without data are left out. -/
def serializeBatchIPPacket (time : Nat) (packets : List IPPacketData) :
    Option Message :=
  let payloads := (packets.map payloadOf).filter (· ≠ [])
  if payloads = [] then
    none
  else if codec.write time payloads = [] then
    none
  else
    some (codec.write time payloads)

def deserializeBatchIPPacket (buffer : Message) : List Payload :=
  if buffer = [] then []
  else (codec.read buffer).filter (· ≠ [])

end Codec

/-! ## The two ends -/

/-- `WebsocketClient` and `Session`. -/
inductive Peer where
  | client
  | session
deriving DecidableEq

inductive Way where
  | up
  | down
deriving DecidableEq

def Way.sender : Way → Peer
  | .up => .client
  | .down => .session

def Way.reader : Way → Peer
  | .up => .session
  | .down => .client

structure Setting where
  text : AddressText
  codec : Codec
  /-- `client_id_` of the session. -/
  clientId : UInt64
  assigned : Addresses
  tunInterfaceAddress : Addresses

namespace Setting

variable (setting : Setting)

/-- What `RunSender` does with a packet. -/
def prepare : Peer → IPPacket → Option IPPacketData
  | .client, packet => sendPacket setting.text setting.assigned packet.data
  | .session, packet => some packet.data

/-- What `RunReader` hands over. -/
def receive : Peer → Payload → Option IPPacket
  | .client, payload =>
      (receivePacket setting.text setting.tunInterfaceAddress
        (dataOf payload)).map fun data => ⟨data, MAX_CLIENT_ID⟩
  | .session, payload => parse (dataOf payload) setting.clientId

/-- What becomes of a packet between `Send` and the other end. -/
def travel (way : Way) (packet : IPPacket) : Option IPPacket :=
  (setting.prepare way.sender packet).bind fun data =>
    setting.receive way.reader (payloadOf data)

end Setting

/-- The sizes of the write channels: `kMaxSizeOutQueue_` of the client. -/
def channelCapacity : Peer → Nat
  | .client => 256
  | .session => 1024

def kMaxBatchSize : Peer → Nat
  | .client => 32
  | .session => 64

/-- Where a `RunSender` is. -/
inductive Sender where
  /-- At the head of the loop. -/
  | testing
  /-- In `async_receive`. -/
  | receiving
  /-- At the head of the inner loop. -/
  | collecting (packets : List IPPacketData)
  | writing (packets : List IPPacketData)
  | done (unwritten : List IPPacketData)

/-- Where a `RunReader` is. -/
inductive Reader where
  | testing
  /-- In `async_read`. -/
  | reading
  | handing (payloads : List Payload)
  /-- The message has been cut off, and the rest of it is lost. -/
  | handingLast (payloads lost : List Payload)
  | done (unread : List Payload)

/-- One way of the connection. -/
structure Stream where
  /-- What `Send` has accepted, apart from null pointers. -/
  accepted : List IPPacket
  writeChannel : List IPPacketPtr
  sender : Sender
  /-- What has been written and not been read. -/
  wire : List Message
  reader : Reader
  handed : List IPPacket
  /-- A batch could not be serialized. -/
  unserialized : Bool

structure Connection where
  running : Peer → Bool
  wasConnected : Bool
  stream : Way → Stream

def Stream.start : Stream where
  accepted := []
  writeChannel := []
  sender := .testing
  wire := []
  reader := .testing
  handed := []
  unserialized := false

/-- The client has received its addresses, and the loops begin. -/
def Connection.start : Connection where
  running _ := true
  wasConnected := true
  stream _ := .start

inductive Label where
  /-- `Send`; `SendBatch` is one for each of its packets. -/
  | send (way : Way) (packet : IPPacketPtr)
  /-- `Stop` of the client, `Close` of the session. -/
  | stop (peer : Peer)
  | testSender (way : Way) (isOpen : Bool)
  /-- `async_receive` completes, possibly with an error. -/
  | receive (way : Way) (failed : Bool)
  /-- A closed channel may report its error to the handler. -/
  | tryReceive (way : Way) (reported : Bool)
  | write (way : Way) (time : Nat)
  /-- The message may have been written all the same. -/
  | writeFails (way : Way) (time : Nat) (written : Bool)
  | testReader (way : Way) (isOpen : Bool)
  | read (way : Way)
  /-- The bytes of a message which have come before the error. -/
  | readFails (way : Way) (count : Nat)
  | hand (way : Way)

namespace Connection

variable (connection : Connection)

def setStream (way : Way) (stream : Stream) : Connection :=
  { connection with
    stream := Function.update connection.stream way stream }

/-- `Send` of a closed channel fails. -/
def accepts (way : Way) : Bool :=
  let room := decide
    ((connection.stream way).writeChannel.length <
      channelCapacity way.sender)
  match way.sender with
  | .client =>
      connection.running .client && connection.wasConnected && room
  | .session => connection.running .session && room

def stop : Peer → Connection
  | .client =>
      { connection with
        running := Function.update connection.running .client false
        wasConnected := false }
  | .session =>
      { connection with
        running := Function.update connection.running .session false }

/-- The conditions of the loops. -/
def goesOn (isOpen : Bool) : Peer → Bool
  | .client =>
      connection.running .client && connection.wasConnected && isOpen
  | .session => connection.running .session

/-- What is done behind a loop: the session is closed. -/
def leave : Peer → Connection
  | .client => { connection with wasConnected := false }
  | .session => connection.stop .session

end Connection

namespace Setting

variable (setting : Setting)

def prepared (peer : Peer) (packet : IPPacketPtr) : List IPPacketData :=
  (packet.bind (setting.prepare peer)).toList

/-- The client stops before what has been cut off, the session takes it. -/
def cutOff (peer : Peer) (count : Nat) : List Message → List Payload
  | [] => []
  | message :: _ =>
      match peer with
      | .client => []
      | .session =>
          setting.codec.deserializeBatchIPPacket (message.take count)

def step (connection : Connection) : Label → Option Connection
  | .send way packet =>
      let stream := connection.stream way
      if connection.accepts way then
        some (connection.setStream way
          { stream with
            accepted := stream.accepted ++ packet.toList
            writeChannel := stream.writeChannel ++ [packet] })
      else
        some connection
  | .stop peer => some (connection.stop peer)
  | .testSender way isOpen =>
      let stream := connection.stream way
      match stream.sender with
      | .testing =>
          if connection.goesOn isOpen way.sender then
            some (connection.setStream way
              { stream with sender := .receiving })
          else
            some ((connection.leave way.sender).setStream way
              { stream with sender := .done [] })
      | _ => none
  | .receive way failed =>
      let stream := connection.stream way
      match stream.sender with
      | .receiving =>
          if failed then
            some (connection.setStream way { stream with sender := .testing })
          else
            match stream.writeChannel with
            | [] => none
            | packet :: rest =>
                let packets := setting.prepared way.sender packet
                some (connection.setStream way
                  { stream with
                    writeChannel := rest
                    sender :=
                      if packets = [] then .testing
                      else .collecting packets })
      | _ => none
  | .tryReceive way reported =>
      let stream := connection.stream way
      match stream.sender with
      | .collecting packets =>
          if packets.length < kMaxBatchSize way.sender then
            match stream.writeChannel with
            | [] =>
                if !reported then
                  some (connection.setStream way
                    { stream with sender := .writing packets })
                else if !connection.running way.sender then
                  some connection
                else
                  none
            | packet :: rest =>
                some (connection.setStream way
                  { stream with
                    writeChannel := rest
                    sender := .collecting
                      (packets ++ setting.prepared way.sender packet) })
          else
            some (connection.setStream way
              { stream with sender := .writing packets })
      | _ => none
  | .write way time =>
      let stream := connection.stream way
      match stream.sender with
      | .writing packets =>
          match setting.codec.serializeBatchIPPacket time packets with
          | none =>
              some (connection.setStream way
                { stream with sender := .testing, unserialized := true })
          | some message =>
              some (connection.setStream way
                { stream with
                  sender := .testing, wire := stream.wire ++ [message] })
      | _ => none
  | .writeFails way time written =>
      let stream := connection.stream way
      match stream.sender with
      | .writing packets =>
          match setting.codec.serializeBatchIPPacket time packets with
          | none => none
          | some message =>
              some ((connection.leave way.sender).setStream way
                (if written then
                  { stream with
                    sender := .done [], wire := stream.wire ++ [message] }
                else
                  { stream with sender := .done packets }))
      | _ => none
  | .testReader way isOpen =>
      let stream := connection.stream way
      match stream.reader with
      | .testing =>
          if connection.goesOn isOpen way.reader then
            some (connection.setStream way { stream with reader := .reading })
          else
            some ((connection.leave way.reader).setStream way
              { stream with reader := .done [] })
      | _ => none
  | .read way =>
      let stream := connection.stream way
      match stream.reader, stream.wire with
      | .reading, message :: rest =>
          let payloads := setting.codec.deserializeBatchIPPacket message
          -- The session tests `running_` for the message as a whole.
          if way.reader = .session ∧ connection.running .session = false then
            some ((connection.leave way.reader).setStream way
              { stream with wire := rest, reader := .done payloads })
          else
            some (connection.setStream way
              { stream with wire := rest, reader := .handing payloads })
      | _, _ => none
  | .readFails way count =>
      let stream := connection.stream way
      match stream.reader with
      | .reading =>
          let payloads := setting.cutOff way.reader count stream.wire
          if payloads = [] ∨ connection.running way.reader = false then
            some ((connection.leave way.reader).setStream way
              { stream with reader := .done [] })
          else
            let whole :=
              stream.wire.head?.toList.flatMap
                setting.codec.deserializeBatchIPPacket
            some (connection.setStream way
              { stream with
                wire := stream.wire.tail
                reader :=
                  .handingLast payloads (whole.drop payloads.length) })
      | _ => none
  | .hand way =>
      let stream := connection.stream way
      match stream.reader with
      | .handing [] =>
          some (connection.setStream way { stream with reader := .testing })
      | .handing (payload :: rest) =>
          -- The client tests `running_` for each packet; once it is false
          -- the rest is skipped, and the loop ends.
          if way.reader = .client ∧ connection.running .client = false then
            some ((connection.leave way.reader).setStream way
              { stream with reader := .done (payload :: rest) })
          else
            some (connection.setStream way
              { stream with
                handed := stream.handed ++
                  (setting.receive way.reader payload).toList
                reader := .handing rest })
      | .handingLast [] lost =>
          some ((connection.leave way.reader).setStream way
            { stream with reader := .done lost })
      | .handingLast (payload :: rest) lost =>
          some (connection.setStream way
            { stream with
              handed := stream.handed ++
                (setting.receive way.reader payload).toList
              reader := .handingLast rest lost })
      | _ => none

end Setting

/-! ## What is on its way -/

def Sender.held : Sender → List IPPacketData
  | .testing | .receiving => []
  | .collecting packets | .writing packets | .done packets => packets

def Reader.held : Reader → List Payload
  | .testing | .reading => []
  | .handing payloads | .done payloads => payloads
  | .handingLast payloads lost => payloads ++ lost

namespace Setting

variable (setting : Setting) (way : Way)

/-- What has been accepted but not been handed over, the oldest first. -/
def onTheWay (stream : Stream) : List Payload :=
  stream.reader.held ++
    stream.wire.flatMap setting.codec.deserializeBatchIPPacket ++
    (stream.sender.held ++
      stream.writeChannel.flatMap (setting.prepared way.sender)).map
        payloadOf

/-- What has been handed over and what might still be. -/
def flow (stream : Stream) : List IPPacket :=
  stream.handed ++
    (setting.onTheWay way stream).filterMap (setting.receive way.reader)

/-- All messages on the wire have been written by the library. -/
def Written (stream : Stream) : Prop :=
  ∀ message ∈ stream.wire, ∃ time payloads,
    message = setting.codec.write time payloads

/-- A way keeps the order, and loses nothing but what is not serialized. -/
structure Carries (stream : Stream) : Prop where
  written : setting.Written stream
  order : (setting.flow way stream).Sublist
    (stream.accepted.filterMap (setting.travel way))
  whole : stream.unserialized = false →
    setting.flow way stream = stream.accepted.filterMap (setting.travel way)

/-- What a step does to a way. -/
structure Moved (stream next : Stream) : Prop where
  written : setting.Written next
  flow :
    (∃ added : List IPPacket,
      next.accepted = stream.accepted ++ added ∧
        setting.flow way next =
          setting.flow way stream ++
            added.filterMap (setting.travel way) ∧
        next.unserialized = stream.unserialized) ∨
    next.accepted = stream.accepted ∧
      (setting.flow way next).Sublist (setting.flow way stream) ∧
      next.unserialized = true

end Setting

section Steps

variable {setting : Setting} {way : Way} {stream next : Stream}
  {connection : Connection}

theorem receive_nil {peer : Peer} : setting.receive peer [] = none := by
  cases peer with
  | client => rfl
  | session => rfl

theorem carries_start : setting.Carries way Stream.start where
  written _ member := absurd member List.not_mem_nil
  order := List.Sublist.refl _
  whole _ := rfl

theorem Setting.Moved.carries (moved : setting.Moved way stream next)
    (carries : setting.Carries way stream) : setting.Carries way next := by
  rcases moved.flow with
    ⟨added, accepted, flow, serialized⟩ | ⟨accepted, less, dropped⟩
  · refine ⟨moved.written, ?_, fun all => ?_⟩
    · rw [accepted, flow, List.filterMap_append]
      exact carries.order.append_right _
    · rw [accepted, flow, List.filterMap_append,
        carries.whole (serialized ▸ all)]
  · refine ⟨moved.written, ?_, fun all => ?_⟩
    · rw [accepted]
      exact less.trans carries.order
    · rw [dropped] at all
      cases all

/-- Only the place of a packet changes. -/
theorem moved_of_flow (written : setting.Written next)
    (accepted : next.accepted = stream.accepted)
    (serialized : next.unserialized = stream.unserialized)
    (same : setting.flow way next = setting.flow way stream) :
    setting.Moved way stream next where
  written := written
  flow := by
    refine Or.inl ⟨[], ?_, ?_, serialized⟩
    · rw [accepted, List.append_nil]
    · rw [same, List.filterMap_nil, List.append_nil]

theorem moved_refl (written : setting.Written stream) :
    setting.Moved way stream stream :=
  moved_of_flow written rfl rfl rfl

/-- What `Send` accepts goes to the end of the channel. -/
theorem moved_send (written : setting.Written stream)
    (packet : IPPacketPtr) :
    setting.Moved way stream
      { stream with
        accepted := stream.accepted ++ packet.toList
        writeChannel := stream.writeChannel ++ [packet] } where
  written := written
  flow := by
    refine Or.inl ⟨packet.toList, rfl, ?_, rfl⟩
    have last :
        ((setting.prepared way.sender packet).map payloadOf).filterMap
            (setting.receive way.reader) =
          packet.toList.filterMap (setting.travel way) := by
      cases packet with
      | none => rfl
      | some packet =>
          rw [Option.toList_some, List.filterMap_cons, List.filterMap_nil,
            Setting.travel, Setting.prepared, Option.bind_some]
          cases setting.prepare way.sender packet with
          | none => rfl
          | some data => rfl
    simp only [Setting.flow, Setting.onTheWay, List.flatMap_append,
      List.flatMap_singleton, List.map_append, List.filterMap_append,
      List.append_assoc, last]

/-- The sender goes on with the packets which it holds. -/
theorem moved_sender {sender : Sender} (written : setting.Written stream)
    (held : sender.held = stream.sender.held) :
    setting.Moved way stream { stream with sender := sender } := by
  refine moved_of_flow written rfl rfl ?_
  simp only [Setting.flow, Setting.onTheWay, held]

/-- The sender takes a packet out of the channel. -/
theorem moved_take {packet : IPPacketPtr} {rest : List IPPacketPtr}
    {sender : Sender} (written : setting.Written stream)
    (first : stream.writeChannel = packet :: rest)
    (held : sender.held =
      stream.sender.held ++ setting.prepared way.sender packet) :
    setting.Moved way stream
      { stream with writeChannel := rest, sender := sender } := by
  refine moved_of_flow written rfl rfl ?_
  simp only [Setting.flow, Setting.onTheWay, held, first,
    List.flatMap_cons, List.append_assoc]

/-- The reader goes on with the payloads which it holds. -/
theorem moved_reader {reader : Reader} (written : setting.Written stream)
    (held : reader.held = stream.reader.held) :
    setting.Moved way stream { stream with reader := reader } := by
  refine moved_of_flow written rfl rfl ?_
  simp only [Setting.flow, Setting.onTheWay, held]

/-- The reader takes a message from the wire. -/
theorem moved_message {message : Message} {rest : List Message}
    {reader : Reader} (written : setting.Written stream)
    (first : stream.wire = message :: rest)
    (before : stream.reader.held = [])
    (held : reader.held =
      setting.codec.deserializeBatchIPPacket message) :
    setting.Moved way stream
      { stream with wire := rest, reader := reader } := by
  apply moved_of_flow
  · exact fun each member =>
      written each (first ▸ List.mem_cons_of_mem _ member)
  · rfl
  · rfl
  · simp only [Setting.flow, Setting.onTheWay, held, before, first,
      List.flatMap_cons, List.nil_append, List.append_assoc]

/-- The reader hands a packet over. -/
theorem moved_hand {payload : Payload} {reader : Reader}
    (written : setting.Written stream)
    (held : stream.reader.held = payload :: reader.held) :
    setting.Moved way stream
      { stream with
        handed := stream.handed ++
          (setting.receive way.reader payload).toList
        reader := reader } := by
  refine moved_of_flow written rfl rfl ?_
  simp only [Setting.flow, Setting.onTheWay, held, List.cons_append,
    List.filterMap_cons, List.append_assoc]
  cases setting.receive way.reader payload with
  | none => rfl
  | some packet => rfl

/-! ### Messages -/

theorem filterMap_nonempty {peer : Peer} (payloads : List Payload) :
    (payloads.filter (· ≠ [])).filterMap (setting.receive peer) =
      payloads.filterMap (setting.receive peer) := by
  induction payloads with
  | nil => rfl
  | cons payload rest ih =>
      cases payload with
      | nil =>
          rw [List.filterMap_cons, receive_nil]
          exact ih
      | cons byte bytes =>
          rw [List.filter_cons_of_pos (by simp), List.filterMap_cons,
            List.filterMap_cons, ih]

/-- What has been serialized is read again. -/
theorem deserialize_serialized {time : Nat} {packets : List IPPacketData}
    {message : Message} {peer : Peer}
    (serialized :
      setting.codec.serializeBatchIPPacket time packets = some message) :
    (∃ payloads, message = setting.codec.write time payloads) ∧
      (setting.codec.deserializeBatchIPPacket message).filterMap
          (setting.receive peer) =
        (packets.map payloadOf).filterMap (setting.receive peer) := by
  simp only [Codec.serializeBatchIPPacket] at serialized
  split at serialized
  case isTrue => cases serialized
  case isFalse =>
    split at serialized
    case isTrue => cases serialized
    case isFalse some_ =>
      obtain rfl := Option.some.inj serialized
      refine ⟨⟨_, rfl⟩, ?_⟩
      rw [Codec.deserializeBatchIPPacket, if_neg some_,
        setting.codec.read_write _ _ some_, filterMap_nonempty,
        filterMap_nonempty]

/-- Of a message which is cut off its first packets are read, if any. -/
theorem deserialize_cut {time count : Nat} {payloads : List Payload} :
    setting.codec.deserializeBatchIPPacket
        ((setting.codec.write time payloads).take count) <+:
      setting.codec.deserializeBatchIPPacket
        (setting.codec.write time payloads) := by
  by_cases nothing : setting.codec.write time payloads = []
  · rw [nothing, List.take_nil]
  · rw [Codec.deserializeBatchIPPacket, Codec.deserializeBatchIPPacket,
      if_neg nothing, setting.codec.read_write _ _ nothing]
    split
    · exact List.nil_prefix
    · exact (setting.codec.read_cut time payloads count).filter _

theorem written_append {message : Message} {time : Nat}
    {payloads : List Payload} (written : setting.Written stream)
    (new : message = setting.codec.write time payloads) :
    ∀ each ∈ stream.wire ++ [message], ∃ time payloads,
      each = setting.codec.write time payloads := by
  intro each member
  rcases List.mem_append.mp member with old | last
  · exact written each old
  · exact ⟨time, payloads, (List.mem_singleton.mp last).trans new⟩

/-- A batch is written as a message. -/
theorem moved_write {time : Nat} {packets : List IPPacketData}
    {message : Message} {sender : Sender}
    (written : setting.Written stream)
    (held : stream.sender.held = packets) (nothing : sender.held = [])
    (serialized :
      setting.codec.serializeBatchIPPacket time packets = some message) :
    setting.Moved way stream
      { stream with
        sender := sender, wire := stream.wire ++ [message] } := by
  obtain ⟨⟨payloads, new⟩, same⟩ :=
    @deserialize_serialized setting time packets message way.reader
      serialized
  refine moved_of_flow (written_append written new) rfl rfl ?_
  simp only [Setting.flow, Setting.onTheWay, held, nothing,
    List.flatMap_append, List.flatMap_singleton, List.map_append,
    List.filterMap_append, List.append_assoc, List.nil_append, same]

/-- A batch is lost. -/
theorem moved_unserialized (written : setting.Written stream) :
    setting.Moved way stream
      { stream with sender := .testing, unserialized := true } where
  written := written
  flow := by
    refine Or.inr ⟨rfl, ?_, rfl⟩
    simp only [Setting.flow, Setting.onTheWay, List.map_append]
    refine (List.Sublist.filterMap _ ?_).append_left _
    exact ((List.nil_sublist _).append_right _).append_left _

/-- A message is cut off. -/
theorem moved_cutOff {peer : Peer} {count : Nat}
    (written : setting.Written stream) (before : stream.reader.held = []) :
    let payloads := setting.cutOff peer count stream.wire
    let whole :=
      stream.wire.head?.toList.flatMap
        setting.codec.deserializeBatchIPPacket
    setting.Moved way stream
      { stream with
        wire := stream.wire.tail
        reader := .handingLast payloads (whole.drop payloads.length) } := by
  match first : stream.wire with
  | [] =>
      refine moved_of_flow ?_ rfl rfl ?_
      · exact fun each member => absurd member List.not_mem_nil
      · rw [Setting.flow, Setting.flow, Setting.onTheWay,
          Setting.onTheWay, before, first]
        rfl
  | message :: rest =>
      have inside : setting.cutOff peer count (message :: rest) <+:
          setting.codec.deserializeBatchIPPacket message := by
        cases peer with
        | client => exact List.nil_prefix
        | session =>
            obtain ⟨time, payloads, rfl⟩ :=
              written message (first ▸ List.mem_cons_self)
            exact deserialize_cut
      refine moved_message written first before ?_
      rw [Reader.held, List.head?_cons, Option.toList_some,
        List.flatMap_singleton]
      obtain ⟨others, whole⟩ := inside
      rw [← whole, List.drop_left]

/-! ### Steps -/

theorem leave_stream {peer : Peer} :
    (connection.leave peer).stream = connection.stream := by
  cases peer with
  | client => rfl
  | session => rfl

theorem stop_stream {peer : Peer} :
    (connection.stop peer).stream = connection.stream := by
  cases peer with
  | client => rfl
  | session => rfl

/-- A step moves at most one way. -/
structure Advanced (setting : Setting) (connection after : Connection)
    (way : Way) (changed : Stream) : Prop where
  streams : after.stream = Function.update connection.stream way changed
  moved : setting.Written (connection.stream way) →
    setting.Moved way (connection.stream way) changed

theorem advanced_same {after : Connection}
    (same : after.stream = connection.stream) :
    Advanced setting connection after way (connection.stream way) where
  streams := by rw [same, Function.update_eq_self]
  moved := moved_refl

theorem advanced_set {changed : Stream}
    (moved : setting.Written (connection.stream way) →
      setting.Moved way (connection.stream way) changed) :
    Advanced setting connection (connection.setStream way changed) way
      changed where
  streams := rfl
  moved := moved

theorem advanced_leave {changed : Stream} {peer : Peer}
    (moved : setting.Written (connection.stream way) →
      setting.Moved way (connection.stream way) changed) :
    Advanced setting connection
      ((connection.leave peer).setStream way changed) way changed where
  streams := by rw [Connection.setStream, leave_stream]
  moved := moved

theorem held_prepared (packets : List IPPacketData) :
    (if packets = [] then Sender.testing
      else Sender.collecting packets).held = packets := by
  split
  case isTrue nothing => exact nothing.symm
  case isFalse => rfl

section Labels

variable {after : Connection}

theorem send_advanced {packet : IPPacketPtr}
    (taken : setting.step connection (.send way packet) = some after) :
    ∃ changed, Advanced setting connection after way changed := by
  simp only [Setting.step] at taken
  split at taken
  case isTrue =>
    cases taken
    exact ⟨_, advanced_set fun known => moved_send known packet⟩
  case isFalse =>
    cases taken
    exact ⟨_, advanced_same rfl⟩

theorem testSender_advanced {isOpen : Bool}
    (taken : setting.step connection (.testSender way isOpen) = some after) :
    ∃ changed, Advanced setting connection after way changed := by
  simp only [Setting.step] at taken
  split at taken
  case h_2 => cases taken
  case h_1 here =>
    split at taken
    case isTrue =>
      cases taken
      exact
        ⟨_, advanced_set fun known =>
          moved_sender known (by rw [here]; rfl)⟩
    case isFalse =>
      cases taken
      exact
        ⟨_, advanced_leave fun known =>
          moved_sender known (by rw [here]; rfl)⟩

theorem receive_advanced {failed : Bool}
    (taken : setting.step connection (.receive way failed) = some after) :
    ∃ changed, Advanced setting connection after way changed := by
  simp only [Setting.step] at taken
  split at taken
  case h_2 => cases taken
  case h_1 here =>
    split at taken
    case isTrue =>
      cases taken
      exact
        ⟨_, advanced_set fun known =>
          moved_sender known (by rw [here]; rfl)⟩
    case isFalse =>
      split at taken
      case h_1 => cases taken
      case h_2 packet rest first =>
        cases taken
        exact
          ⟨_, advanced_set fun known =>
            moved_take known first (by
              rw [here, held_prepared]
              rfl)⟩

theorem tryReceive_advanced {reported : Bool}
    (taken : setting.step connection (.tryReceive way reported) = some after) :
    ∃ changed, Advanced setting connection after way changed := by
  simp only [Setting.step] at taken
  split at taken
  case h_2 => cases taken
  case h_1 packets here =>
    split at taken
    case isFalse =>
      cases taken
      exact
        ⟨_, advanced_set fun known =>
          moved_sender known (by rw [here]; rfl)⟩
    case isTrue =>
      split at taken
      case h_2 packet rest first =>
        cases taken
        exact
          ⟨_, advanced_set fun known =>
            moved_take known first (by rw [here]; rfl)⟩
      case h_1 =>
        split at taken
        case isTrue =>
          cases taken
          exact
            ⟨_, advanced_set fun known =>
              moved_sender known (by rw [here]; rfl)⟩
        case isFalse =>
          split at taken
          case isTrue =>
            cases taken
            exact ⟨_, advanced_same rfl⟩
          case isFalse => cases taken

theorem write_advanced {time : Nat}
    (taken : setting.step connection (.write way time) = some after) :
    ∃ changed, Advanced setting connection after way changed := by
  simp only [Setting.step] at taken
  split at taken
  case h_2 => cases taken
  case h_1 packets here =>
    split at taken
    case h_1 =>
      cases taken
      exact ⟨_, advanced_set moved_unserialized⟩
    case h_2 message serialized =>
      cases taken
      exact
        ⟨_, advanced_set fun known =>
          moved_write known (by rw [here]; rfl) rfl serialized⟩

theorem writeFails_advanced {time : Nat} {written : Bool}
    (taken : setting.step connection (.writeFails way time written) =
      some after) :
    ∃ changed, Advanced setting connection after way changed := by
  simp only [Setting.step] at taken
  split at taken
  case h_2 => cases taken
  case h_1 packets here =>
    split at taken
    case h_1 => cases taken
    case h_2 message serialized =>
      cases taken
      cases written with
      | true =>
          exact
            ⟨_, advanced_leave fun known =>
              moved_write known (by rw [here]; rfl) rfl serialized⟩
      | false =>
          exact
            ⟨_, advanced_leave fun known =>
              moved_sender known (by rw [here]; rfl)⟩

theorem testReader_advanced {isOpen : Bool}
    (taken : setting.step connection (.testReader way isOpen) = some after) :
    ∃ changed, Advanced setting connection after way changed := by
  simp only [Setting.step] at taken
  split at taken
  case h_2 => cases taken
  case h_1 here =>
    split at taken
    case isTrue =>
      cases taken
      exact
        ⟨_, advanced_set fun known =>
          moved_reader known (by rw [here]; rfl)⟩
    case isFalse =>
      cases taken
      exact
        ⟨_, advanced_leave fun known =>
          moved_reader known (by rw [here]; rfl)⟩

theorem read_advanced
    (taken : setting.step connection (.read way) = some after) :
    ∃ changed, Advanced setting connection after way changed := by
  simp only [Setting.step] at taken
  split at taken
  case h_2 => cases taken
  case h_1 message rest here first =>
    split at taken
    case isTrue =>
      cases taken
      exact
        ⟨_, advanced_leave fun known =>
          moved_message known first (by rw [here]; rfl) rfl⟩
    case isFalse =>
      cases taken
      exact
        ⟨_, advanced_set fun known =>
          moved_message known first (by rw [here]; rfl) rfl⟩

theorem readFails_advanced {count : Nat}
    (taken : setting.step connection (.readFails way count) = some after) :
    ∃ changed, Advanced setting connection after way changed := by
  simp only [Setting.step] at taken
  split at taken
  case h_2 => cases taken
  case h_1 here =>
    split at taken
    case isTrue =>
      cases taken
      exact
        ⟨_, advanced_leave fun known =>
          moved_reader known (by rw [here]; rfl)⟩
    case isFalse =>
      cases taken
      exact
        ⟨_, advanced_set fun known =>
          moved_cutOff known (by rw [here]; rfl)⟩

theorem hand_advanced
    (taken : setting.step connection (.hand way) = some after) :
    ∃ changed, Advanced setting connection after way changed := by
  simp only [Setting.step] at taken
  split at taken
  case h_1 here =>
    cases taken
    exact
      ⟨_, advanced_set fun known =>
        moved_reader known (by rw [here]; rfl)⟩
  case h_2 payload rest here =>
    split at taken
    case isTrue =>
      cases taken
      exact
        ⟨_, advanced_leave fun known =>
          moved_reader known (by rw [here]; rfl)⟩
    case isFalse =>
      cases taken
      exact
        ⟨_, advanced_set fun known =>
          moved_hand known (by rw [here]; rfl)⟩
  case h_3 lost here =>
    cases taken
    exact
      ⟨_, advanced_leave fun known =>
        moved_reader known (by rw [here]; rfl)⟩
  case h_4 payload rest lost here =>
    cases taken
    exact
      ⟨_, advanced_set fun known =>
        moved_hand known (by rw [here]; rfl)⟩
  case h_5 => cases taken

end Labels

/-- What each label does to its way. -/
theorem step_advanced {label : Label} {after : Connection}
    (taken : setting.step connection label = some after) :
    ∃ way changed, Advanced setting connection after way changed := by
  cases label with
  | send way _ => exact ⟨way, send_advanced taken⟩
  | stop peer =>
      cases taken
      exact ⟨.up, _, advanced_same stop_stream⟩
  | testSender way _ => exact ⟨way, testSender_advanced taken⟩
  | receive way _ => exact ⟨way, receive_advanced taken⟩
  | tryReceive way _ => exact ⟨way, tryReceive_advanced taken⟩
  | write way _ => exact ⟨way, write_advanced taken⟩
  | writeFails way _ _ => exact ⟨way, writeFails_advanced taken⟩
  | testReader way _ => exact ⟨way, testReader_advanced taken⟩
  | read way => exact ⟨way, read_advanced taken⟩
  | readFails way _ => exact ⟨way, readFails_advanced taken⟩
  | hand way => exact ⟨way, hand_advanced taken⟩

/-- Both ways carry what they are given. -/
theorem step_carries {label : Label} {after : Connection}
    (carries : ∀ way, setting.Carries way (connection.stream way))
    (taken : setting.step connection label = some after) (way : Way) :
    setting.Carries way (after.stream way) := by
  obtain ⟨changedWay, changed, advanced⟩ := step_advanced taken
  rw [advanced.streams]
  by_cases same : way = changedWay
  · subst same
    rw [Function.update_self]
    exact
      (advanced.moved (carries way).written).carries (carries way)
  · rw [Function.update_of_ne same]
    exact carries way

theorem run_carries {labels : List Label} {last : Connection}
    (reached : run setting.step Connection.start labels = some last)
    (way : Way) : setting.Carries way (last.stream way) :=
  run_invariant (fun _ _ _ carries taken => step_carries carries taken)
    (fun _ => carries_start :
      ∀ way, setting.Carries way (Connection.start.stream way))
    reached way

end Steps

/-! ## Packets -/

section Packets

variable {setting : Setting} {data : IPPacketData} {packet : IPPacket}

theorem payloadOf_dataOf (payload : Payload) :
    payloadOf (dataOf payload) = payload :=
  bytesAt_putBytes

theorem dataOf_first (nonempty : 0 < data.size) :
    (dataOf (payloadOf data)).memory 0 = data.memory 0 := by
  have same : bytesAt (dataOf (payloadOf data)).memory 0 data.size =
      bytesAt data.memory 0 data.size := by
    have there := payloadOf_dataOf (payloadOf data)
    rw [payloadOf, dataOf, payloadOf, length_bytesAt] at there
    exact there
  obtain ⟨size, memory⟩ := data
  cases size with
  | zero => cases nonempty
  | succ size => exact (List.cons.inj same).1

/-- The other end accepts what this end has. -/
theorem accepted_dataOf (accepted : Accepted data) :
    Accepted (dataOf (payloadOf data)) := by
  have sized : (dataOf (payloadOf data)).size = data.size :=
    length_bytesAt _ _ _
  have nonempty : 0 < data.size :=
    Nat.lt_of_lt_of_le (by decide) accepted.1
  refine @accepted_congr (dataOf (payloadOf data)).size data.memory _ ?_
    (dataOf_first nonempty)
  rw [sized]
  exact accepted

theorem shaped_dataOf (accepted : Accepted data) (shaped : Shaped data) :
    Shaped (dataOf (payloadOf data)) := by
  have sized : (dataOf (payloadOf data)).size = data.size :=
    length_bytesAt _ _ _
  have first := dataOf_first (Nat.lt_of_lt_of_le (by decide) accepted.1)
  rw [Shaped, version_congr first, first, sized]
  exact shaped

/-- A packet comes to the server with the assigned address. -/
theorem travel_up {place : Nat} {address : List UInt8}
    (accepted : Accepted packet.data) (shaped : Shaped packet.data)
    (known : writtenAddress setting.text 12 8 setting.assigned
      packet.data = some (place, address)) :
    ∃ sent, Forwarded packet.data sent place address ∧
      setting.travel .up packet =
        some ⟨dataOf (payloadOf sent), setting.clientId⟩ := by
  obtain ⟨sent, changed⟩ :=
    @exists_changeAddress setting.text 12 8 setting.assigned packet.data
      accepted
  have first :=
    changeAddress_first (by decide) (by decide) accepted shaped changed known
  have forwarded :=
    changeAddress_forwarded (by decide) (by decide) accepted shaped changed
      known
  have still : Accepted sent := by
    refine @accepted_congr sent.size packet.data.memory _ ?_ first
    rw [forwarded.size]
    exact accepted
  refine ⟨sent, forwarded, ?_⟩
  rw [Setting.travel, Way.sender, Setting.prepare, sendPacket, changed]
  exact parse_eq_some_iff.mpr ⟨accepted_dataOf still, rfl⟩

/-- A packet comes to the client with the address of the tunnel. -/
theorem travel_down {place : Nat} {address : List UInt8}
    (accepted : Accepted packet.data) (shaped : Shaped packet.data)
    (known : writtenAddress setting.text 16 24 setting.tunInterfaceAddress
      (dataOf (payloadOf packet.data)) = some (place, address)) :
    ∃ received,
      Forwarded (dataOf (payloadOf packet.data)) received place address ∧
        setting.travel .down packet = some ⟨received, MAX_CLIENT_ID⟩ := by
  have there := accepted_dataOf accepted
  obtain ⟨received, changed⟩ :=
    @exists_changeAddress setting.text 16 24 setting.tunInterfaceAddress _
      there
  have forwarded :=
    changeAddress_forwarded (by decide) (by decide) there
      (shaped_dataOf accepted shaped) changed known
  have parsed :=
    parse_eq_some_iff.mpr
      ⟨there, (rfl : (⟨_, MAX_CLIENT_ID⟩ : IPPacket) = _)⟩
  have receives :
      receivePacket setting.text setting.tunInterfaceAddress
        (dataOf (payloadOf packet.data)) = some received := by
    rw [receivePacket, parsed]
    exact changed
  refine ⟨received, forwarded, ?_⟩
  rw [Setting.travel, Way.sender, Setting.prepare, Option.bind_some,
    Way.reader, Setting.receive, receives, Option.map_some]

end Packets

/-- Each end hands over what `Send` of the other one has accepted, in the same
order and each packet once.  Nothing is missing as long as all batches have
been serialized but what is on its way or has been left behind when a loop has
ended.  A packet gets to the server with the assigned address and to the client
with the one of the tunnel, with checksums which belong to it and otherwise as
it was. -/
theorem packets_in_order (setting : Setting) (labels : List Label)
    (connection : Connection)
    (reached : run setting.step Connection.start labels = some connection)
    (way : Way) :
    let stream := connection.stream way
    stream.handed.Sublist
        (stream.accepted.filterMap (setting.travel way)) ∧
      (stream.unserialized = false →
        stream.handed ++
            (setting.onTheWay way stream).filterMap
              (setting.receive way.reader) =
          stream.accepted.filterMap (setting.travel way)) ∧
      ∀ packet, Accepted packet.data → Shaped packet.data →
        (∀ place address,
          writtenAddress setting.text 12 8 setting.assigned packet.data =
              some (place, address) →
            ∃ sent, Forwarded packet.data sent place address ∧
              setting.travel .up packet =
                some ⟨dataOf (payloadOf sent), setting.clientId⟩) ∧
          ∀ place address,
            writtenAddress setting.text 16 24 setting.tunInterfaceAddress
                (dataOf (payloadOf packet.data)) = some (place, address) →
              ∃ received,
                Forwarded (dataOf (payloadOf packet.data)) received place
                    address ∧
                  setting.travel .down packet =
                    some ⟨received, MAX_CLIENT_ID⟩ := by
  have carries := run_carries reached way
  exact
    ⟨(List.sublist_append_left _ _).trans carries.order, carries.whole,
      fun packet accepted shaped =>
        ⟨fun place address known => travel_up accepted shaped known,
          fun place address known => travel_down accepted shaped known⟩⟩

/-! ## A plain library -/

/-- A byte follows a mark, and a zero ends a payload. -/
def plainWrite (payloads : List Payload) : Message :=
  payloads.flatMap fun payload =>
    payload.flatMap (fun byte => [1, byte]) ++ [0]

def plainRead (payload : Payload) : Message → List Payload
  | [] => []
  | [mark] => if mark = 0 then [payload] else []
  | mark :: byte :: rest =>
      if mark = 0 then payload :: plainRead [] (byte :: rest)
      else plainRead (payload ++ [byte]) rest

theorem plainRead_end (payload : Payload) (rest : Message) :
    plainRead payload (0 :: rest) = payload :: plainRead [] rest := by
  cases rest with
  | nil => rfl
  | cons byte rest => rfl

theorem plainRead_payload (before payload : Payload) (rest : Message) :
    plainRead before
        ((payload.flatMap fun byte => [1, byte]) ++ 0 :: rest) =
      (before ++ payload) :: plainRead [] rest := by
  induction payload generalizing before with
  | nil =>
      rw [List.append_nil]
      exact plainRead_end before rest
  | cons byte bytes ih =>
      have step := ih (before ++ [byte])
      rw [List.append_assoc, List.singleton_append] at step
      exact step

theorem plainRead_plainWrite (payloads : List Payload) :
    plainRead [] (plainWrite payloads) = payloads := by
  induction payloads with
  | nil => rfl
  | cons payload rest ih =>
      have first := plainRead_payload [] payload (plainWrite rest)
      rw [ih] at first
      rw [plainWrite, List.flatMap_cons, List.append_assoc]
      exact first

theorem plainRead_take (payload : Payload) (message : Message)
    (count : Nat) :
    plainRead payload (message.take count) <+: plainRead payload message := by
  fun_induction plainRead payload message generalizing count with
  | case1 =>
      rw [List.take_nil]
      exact List.prefix_refl _
  | case2 payload =>
      cases count with
      | zero => exact List.nil_prefix
      | succ count =>
          rw [List.take_succ_cons, List.take_nil]
          exact List.prefix_refl _
  | case3 payload mark other =>
      cases count with
      | zero => exact List.nil_prefix
      | succ count =>
          rw [List.take_succ_cons, List.take_nil, plainRead, if_neg other]
  | case4 payload byte rest ih =>
      cases count with
      | zero => exact List.nil_prefix
      | succ count =>
          rw [List.take_succ_cons, plainRead_end]
          exact List.cons_prefix_cons.mpr ⟨rfl, ih count⟩
  | case5 payload mark byte rest other ih =>
      match count with
      | 0 => exact List.nil_prefix
      | 1 =>
          show plainRead payload [mark] <+: _
          rw [plainRead, if_neg other]
          exact List.nil_prefix
      | count + 2 =>
          rw [List.take_succ_cons, List.take_succ_cons, plainRead,
            if_neg other]
          exact ih count

def plainCodec : Codec where
  write _ := plainWrite
  read := plainRead []
  read_write _ payloads _ := plainRead_plainWrite payloads
  read_cut _ payloads count := by
    have before := plainRead_take [] (plainWrite payloads) count
    rw [plainRead_plainWrite] at before
    exact before

/-- The tunnel has the addresses `172.30.0.1` and `fd01:1:1:1:1:1:1:1`. -/
def plainSetting : Setting where
  text := plainText
  codec := plainCodec
  clientId := 1
  assigned :=
    ⟨IPv4Address.ofValue plainText 0xAC140002,
      wholeIPv6 2⟩
  tunInterfaceAddress :=
    ⟨IPv4Address.ofValue plainText 0xAC1E0001,
      wholeIPv6 1⟩

/-- Two packets go up as one message. -/
def goesUp : List Label :=
  [.send .up (some ⟨forged 0x45 64, 0⟩),
    .send .up (some ⟨forged 0x45 63, 0⟩),
    .testSender .up true, .receive .up false, .tryReceive .up false,
    .tryReceive .up false, .write .up 0, .testReader .up true, .read .up,
    .hand .up, .hand .up]

theorem packets_in_order_up :
    ∃ connection,
      run plainSetting.step Connection.start goesUp = some connection ∧
        (connection.stream .up).handed.length = 2 ∧
        (connection.stream .up).handed =
          (connection.stream .up).accepted.filterMap
            (plainSetting.travel .up) := by
  have taken : (run plainSetting.step Connection.start goesUp).map
      (fun connection =>
        ((connection.stream .up).handed.length,
          (connection.stream .up).unserialized,
          decide (plainSetting.onTheWay .up (connection.stream .up) = []))) =
      some (2, false, true) := by
    decide +kernel
  obtain ⟨connection, reached, found⟩ := Option.map_eq_some_iff.mp taken
  simp only [Prod.mk.injEq, decide_eq_true_eq] at found
  obtain ⟨two, all, nothing⟩ := found
  have whole :=
    (packets_in_order plainSetting goesUp connection reached .up).2.1 all
  rw [nothing, List.filterMap_nil, List.append_nil] at whole
  exact ⟨connection, reached, two, whole⟩

end Fptn.Vpn.TunnelStream
