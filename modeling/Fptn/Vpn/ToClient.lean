import Fptn.NatTable.Ipv6Keys
import Fptn.NatTable.Members
import Fptn.Network.AddressRewrite
import Fptn.Vpn.FromClient
import Fptn.Web.BatchSender

/-!
# Packets to clients

`Manager::RunToClient` runs on any number of threads.  Each takes packets from
the network interface, finds the session which has the destination address,
chooses one of its receiving connections and collects the packets for each
connection.  Then it hands the batches over to the sessions of the web server,
which queue them.

The threads run beside the web server, whose sessions come and go at any
time.  A step is an access to the NAT table, to an object of it or to a
session.  What a thread has taken and passed on is kept as a history, and so
is what `AddConnection` has answered.
-/

namespace Fptn.Vpn.ToClient

open Fptn.TracedMemory
open Fptn.UnorderedMap
open Fptn.NatTable.Members
open Fptn.NatTable.Multiplexer
open Fptn.NatTable.SessionTable
open Fptn.Network.IPAddress
open Fptn.Network.Packet
open Fptn.Vpn.Filter
open Fptn.Web.WebServer

/-! ## Multiplexers -/

/-- The connection which is to receive a packet, and the cursor afterwards. -/
def nextReceiverClientId (mplx : ConnectionMultiplexer)
    (roundRobinCursor : UInt64) (packet : IPPacket) :
    Option ClientID × UInt64 :=
  let receiving := mplx.buckets.receiving
  if receiving.isEmpty then
    (none, roundRobinCursor)
  else
    let (start, cursor) :=
      if read isTCP packet then
        (read getTcpDstPort packet, roundRobinCursor)
      else if read isUDP packet then
        (read getUdpDstPort packet, roundRobinCursor)
      else
        (roundRobinCursor.toNat, roundRobinCursor + 1)
    ((receiving[start % receiving.length]?).map ClientConnection.clientId,
      cursor)

/-- The addresses which the client has on its own interface. -/
def setDstAddress (text : AddressText) (request : Request) (size : Nat) :
    Mem Unit := do
  let v4 ← isIPv4 size
  if v4 then
    setDstIPv4Address size request.clientTunVpnIpv4
  else
    let v6 ← isIPv6 size
    if v6 then
      setDstIPv6Address size text request.clientTunVpnIpv6
    else
      return ()

def setClientAddress (text : AddressText) (request : Request)
    (size : Nat) : Mem Unit := do
  setDstAddress text request size
  computeCalculateFields size

/-- `SetClientId`. -/
def setClientId (id : ClientID) (packet : IPPacket) : IPPacket :=
  { packet with clientId := id }

/-- The packet with the addresses of a request. -/
def withClientAddress (text : AddressText) (request : Request)
    (packet : IPPacket) : IPPacket :=
  { packet with
    data := {
      packet.data with
      memory :=
        memoryAfter (setClientAddress text request packet.data.size)
          packet.data.memory } }

/-- `ChangeIPAddressToClientIP` behind its test of the flag. -/
def changeIPAddressToClientIP (text : AddressText)
    (mplx : ConnectionMultiplexer) (packet : IPPacket) (id : ClientID) :
    Option IPPacket :=
  (findByClientId mplx.buckets.receiving id).map fun connection =>
    withClientAddress text connection.params.request (setClientId id packet)

/-! ## Threads -/

/-- A packet with its place among those which a thread has taken. -/
structure Taken where
  number : Nat
  packet : IPPacket

/-- A packet in a batch, and the one from which it was made. -/
structure Outgoing where
  taken : Taken
  sent : IPPacket

abbrev Batches := Map ClientID (List Outgoing)

/-- `batches[id].push_back(packet)`. -/
def pushBack (id : ClientID) (outgoing : Outgoing) (batches : Batches) :
    Batches :=
  AList.insert id ((batches.lookup id).getD [] ++ [outgoing]) batches

def numbered : Nat → List (Option IPPacket) → List (Option Taken)
  | _, [] => []
  | number, packet :: rest =>
      packet.map (Taken.mk number) :: numbered (number + 1) rest

/-- Where a thread is. -/
inductive Place where
  | waiting
  /-- The loop over the packets. -/
  | handling (rest : List (Option Taken))
  /-- A session has been found. -/
  | limiting (pointer : MplxPtr) (taken : Taken)
      (rest : List (Option Taken))
  /-- Before `NextReceiverClientId`. -/
  | choosing (pointer : MplxPtr) (taken : Taken)
      (rest : List (Option Taken))
  /-- The test of `disable_checksum_calculation_`. -/
  | testing (pointer : MplxPtr) (id : ClientID) (taken : Taken)
      (rest : List (Option Taken))
  /-- Before the lock in `ChangeIPAddressToClientIP`. -/
  | rewriting (pointer : MplxPtr) (id : ClientID) (taken : Taken)
      (rest : List (Option Taken))
  /-- The loop over the batches. -/
  | delivering
  /-- `SendBatch` of a session which has been found. -/
  | testRunning (id : ClientID) (batch : List Outgoing)
  | trySend (id : ClientID) (batch : List Outgoing)

structure Thread where
  place : Place
  batches : Batches
  /-- All packets which the thread has taken from the interface. -/
  input : List (Option IPPacket)
  /-- All packets which it has put into a batch. -/
  pushed : List Outgoing

def Thread.start : Thread where
  place := .waiting
  batches := ∅
  input := []
  pushed := []

def Thread.at_ (thread : Thread) (place : Place) : Thread :=
  { thread with place := place }

/-- The packet goes into the batch of a connection. -/
def Thread.push (thread : Thread) (id : ClientID) (outgoing : Outgoing)
    (rest : List (Option Taken)) : Thread :=
  { thread with
    place := .handling rest
    batches := pushBack id outgoing thread.batches
    pushed := thread.pushed ++ [outgoing] }

/-! ## Runs -/

abbrev ThreadId := Nat

/-- What is outside of the program. -/
structure Setting where
  text : AddressText
  /-- `inet_ntop` for the bytes of an IPv6 address. -/
  inetNtop : List UInt8 → String
  config : Config

structure System where
  server : Server
  /-- The cursors of the multiplexers. -/
  cursor : MplxPtr → UInt64
  thread : ThreadId → Thread
  /-- The write channels of the sessions, each packet with the thread which
  has sent it. -/
  writeChannel : ClientID → List (ThreadId × Outgoing)
  /-- What the senders of the sessions have taken from their channels. -/
  received : ClientID → List (ThreadId × Outgoing)
  joins : Joins

def System.start (world : World) : System where
  server := Server.start world
  cursor _ := 0
  thread _ := Thread.start
  writeChannel _ := []
  received _ := []
  joins _ := none

inductive Action where
  /-- `WaitForPackets`, some of which may be null. -/
  | waitForPackets (packets : List (Option IPPacket))
  /-- The answer of the traffic shaper; there may be none. -/
  | checkSpeedLimit (passes : Bool)
  /-- The next batch, in the order of the map. -/
  | getSessionById (id : ClientID)
  /-- Whether the channel has been closed. -/
  | trySend (closed : Bool)
  | proceed

inductive Label where
  | server (label : Server.Label)
  | thread (thread : ThreadId) (action : Action)
  /-- The sender of a session takes a packet. -/
  | receive (id : ClientID)

def maxBatchSize : Nat := 256

namespace System

variable (setting : Setting) (system : System)

def setThread (t : ThreadId) (thread : Thread) : System :=
  { system with thread := Function.update system.thread t thread }

/-- The session with the destination address of a packet. -/
def natSession (packet : IPPacket) : Option MplxPtr :=
  let table := system.server.world.table
  if read isIPv4 packet then
    table.getMultiplexerByFakeIPv4
      (Network.AddressRewrite.getDstIPv4Address packet.data setting.text)
  else if read isIPv6 packet then
    table.getMultiplexerByFakeIPv6
      (NatTable.Ipv6Keys.getDstIPv6Address setting.text setting.inetNtop
        packet.data)
  else
    none

def mplx (pointer : MplxPtr) : ConnectionMultiplexer :=
  system.server.world.table.heap pointer

/-- Where a thread is once a receiver has been looked for. -/
def chosenPlace (pointer : MplxPtr) (taken : Taken)
    (rest : List (Option Taken)) : Option ClientID → Place
  | none => .handling rest
  | some id => .testing pointer id taken rest

/-- `NextReceiverClientId` for the packet of a thread. -/
def chooseReceiver (t : ThreadId) (pointer : MplxPtr) (taken : Taken)
    (rest : List (Option Taken)) : System :=
  let chosen :=
    nextReceiverClientId (system.mplx pointer) (system.cursor pointer)
      taken.packet
  let next :=
    system.setThread t
      ((system.thread t).at_ (chosenPlace pointer taken rest chosen.1))
  { next with
    cursor := Function.update system.cursor pointer chosen.2 }

/-- `GetSessionById` for the next batch. -/
def getSessionById (t : ThreadId) (id : ClientID)
    (batch : List Outgoing) : Option System :=
  let thread := {
    system.thread t with batches := (system.thread t).batches.erase id }
  if system.server.mutex.isSome then
    none
  else if id ∈ system.server.sessions then
    some (system.setThread t (thread.at_ (.testRunning id batch)))
  else
    some (system.setThread t thread)

/-- `try_send`, which fails if the channel is closed or full. -/
def trySend (t : ThreadId) (id : ClientID) (outgoing : Outgoing)
    (rest : List Outgoing) (closed : Bool) : Option System :=
  let channel := system.writeChannel id
  let next :=
    system.setThread t ((system.thread t).at_ (.trySend id rest))
  if closed && (system.server.session id).running then
    none
  else if !closed &&
      decide (channel.length < Web.BatchSender.channelCapacity) then
    some { next with
      writeChannel :=
        Function.update system.writeChannel id
          (channel ++ [(t, outgoing)]) }
  else
    some next

def threadStep (t : ThreadId) (action : Action) : Option System :=
  let thread := system.thread t
  let goTo place := some (system.setThread t (thread.at_ place))
  match thread.place, action with
  | .waiting, .waitForPackets packets =>
      if packets.length ≤ maxBatchSize then
        some (system.setThread t
          { thread with
            place := .handling (numbered thread.input.length packets)
            input := thread.input ++ packets })
      else
        none
  | .handling [], .proceed => goTo .delivering
  | .handling (none :: rest), .proceed => goTo (.handling rest)
  | .handling (some taken :: rest), .proceed =>
      if !read isIPv4 taken.packet && !read isIPv6 taken.packet then
        goTo (.handling rest)
      else
        match system.natSession setting taken.packet with
        | none => goTo (.handling rest)
        | some pointer => goTo (.limiting pointer taken rest)
  | .limiting pointer taken rest, .checkSpeedLimit passes =>
      if passes then
        goTo (.choosing pointer taken rest)
      else
        goTo (.handling rest)
  | .choosing pointer taken rest, .proceed =>
      some (system.chooseReceiver t pointer taken rest)
  | .testing pointer id taken rest, .proceed =>
      if (system.mplx pointer).disableChecksumCalculation then
        some (system.setThread t
          (thread.push id ⟨taken, setClientId id taken.packet⟩ rest))
      else
        goTo (.rewriting pointer id taken rest)
  | .rewriting pointer id taken rest, .proceed =>
      match changeIPAddressToClientIP setting.text (system.mplx pointer)
        taken.packet id with
      | none => goTo (.handling rest)
      | some sent =>
          some (system.setThread t (thread.push id ⟨taken, sent⟩ rest))
  | .delivering, .proceed =>
      if thread.batches.entries.isEmpty then goTo .waiting else none
  | .delivering, .getSessionById id =>
      match thread.batches.lookup id with
      | none => none
      | some batch => system.getSessionById t id batch
  | .testRunning id batch, .proceed =>
      if (system.server.session id).running then
        goTo (.trySend id batch)
      else
        goTo .delivering
  | .trySend _ [], .proceed => goTo .delivering
  | .trySend id (outgoing :: rest), .trySend closed =>
      system.trySend t id outgoing rest closed
  | _, _ => none

/-- The answer of `AddConnection`, where a step of the server calls it. -/
def serverAnswer (label : Server.Label) : Option Joined :=
  (tableLabel system.server label).bind
    (answer setting.config.clock system.server.world)

def step (system : System) : Label → Option System
  | .server label =>
      (system.server.step setting.config label).map fun server =>
        { system with
          server := server
          joins := note system.joins (system.serverAnswer setting label) }
  | .thread t action => system.threadStep setting t action
  | .receive id =>
      match system.writeChannel id with
      | [] => none
      | outgoing :: rest =>
          some { system with
            writeChannel := Function.update system.writeChannel id rest
            received :=
              Function.update system.received id
                (system.received id ++ [outgoing]) }

end System

end Fptn.Vpn.ToClient
