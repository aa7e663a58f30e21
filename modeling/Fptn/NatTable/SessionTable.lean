import Fptn.Lib.PartialRun
import Fptn.Lib.UnorderedMap
import Fptn.NatTable.Multiplexer

/-!
# The NAT table

The class `Table` and its runs.  Multiplexers are shared objects, which other
threads may keep after the table has dropped them; they live in a heap and the
table's four maps hold pointers.  The free lists are vectors whose last element
is the next one to be taken.

`UpdateConnectionsStatus` holds the table's lock twice, first shared and then
exclusively.  Both phases are steps of their own, so that any other operation
can run in between; a sweep which has finished its first phase only is pending.
-/

namespace Fptn.NatTable.SessionTable

open Fptn.PartialRun
open Fptn.UnorderedMap
open Fptn.Network.IPAddress
open Fptn.NatTable.Multiplexer

/-- The address of a multiplexer object. -/
abbrev MplxPtr := Nat

structure Table where
  freeIpv4 : List IPv4Address
  freeIpv6 : List IPv6Address
  sessionToMplx : Map String MplxPtr
  ipv4ToMplx : Map (BitVec 32) MplxPtr
  ipv6ToMplx : Map String MplxPtr
  clientToMplx : Map ClientID MplxPtr
  heap : MplxPtr → ConnectionMultiplexer
  /-- The next address at which an object will be created. -/
  nextMplx : MplxPtr

/-- A table with full pools and no sessions. -/
def Table.start (ipv4 : List IPv4Address) (ipv6 : List IPv6Address) :
    Table where
  freeIpv4 := ipv4
  freeIpv6 := ipv6
  sessionToMplx := ∅
  ipv4ToMplx := ∅
  ipv6ToMplx := ∅
  clientToMplx := ∅
  heap _ := ConnectionMultiplexer.unused
  nextMplx := 0

/-- What a sweep carries from its first phase to its second. -/
structure Sweep where
  expired : List ClientID
  emptied : List MplxPtr

namespace Table

variable (table : Table)

/-- The pointers of all sessions, in some order. -/
def sessions : List MplxPtr := values table.sessionToMplx

/-! ## Operations -/

/-- Join a session which already exists. -/
def joinSession (pointer : MplxPtr) (params : ConnectParams)
    (clock : Nat → Int) (tick : Nat) : Table × Option MplxPtr :=
  let mplx := table.heap pointer
  if mplx.username ≠ params.user.username then
    (table, none)
  else
    match mplx.addClientConnection params clock tick with
    | none => (table, none)
    | some added =>
      ({ table with
          heap := Function.update table.heap pointer added
          clientToMplx :=
            insert params.clientId pointer table.clientToMplx },
        some pointer)

/-- Open a session with the last free address of each kind. -/
def openSession (fakeIpv4 : IPv4Address) (fakeIpv6 : IPv6Address)
    (params : ConnectParams) (clock : Nat → Int) (tick : Nat) :
    Table × Option MplxPtr :=
  let pointer := table.nextMplx
  ({ freeIpv4 := table.freeIpv4.dropLast
     freeIpv6 := table.freeIpv6.dropLast
     sessionToMplx :=
       insert params.request.sessionId pointer table.sessionToMplx
     ipv4ToMplx := insert fakeIpv4.toInt pointer table.ipv4ToMplx
     ipv6ToMplx := insert fakeIpv6.ip pointer table.ipv6ToMplx
     clientToMplx := insert params.clientId pointer table.clientToMplx
     heap :=
       Function.update table.heap pointer
         (create params fakeIpv4 fakeIpv6 clock tick)
     nextMplx := pointer + 1 },
    some pointer)

def addConnection (params : ConnectParams)
    (clock : Nat → Int) (tick : Nat) : Table × Option MplxPtr :=
  match table.sessionToMplx.lookup params.request.sessionId with
  | some pointer => table.joinSession pointer params clock tick
  | none =>
    match table.freeIpv4.getLast?, table.freeIpv6.getLast? with
    | some fakeIpv4, some fakeIpv6 =>
      table.openSession fakeIpv4 fakeIpv6 params clock tick
    | _, _ => (table, none)

/-- Take an existing session out of all maps and return its addresses. -/
def releaseSession (pointer : MplxPtr) : Table :=
  let mplx := table.heap pointer
  { table with
    freeIpv4 := table.freeIpv4 ++ [mplx.fakeClientIpv4]
    freeIpv6 := table.freeIpv6 ++ [mplx.fakeClientIpv6]
    ipv4ToMplx := table.ipv4ToMplx.erase mplx.fakeClientIpv4.toInt
    ipv6ToMplx := table.ipv6ToMplx.erase mplx.fakeClientIpv6.ip
    sessionToMplx := table.sessionToMplx.erase mplx.sessionId }

/-- A session is torn down once its last connection is gone. -/
def releaseSessionIfEmpty (pointer : MplxPtr) : Table :=
  let mplx := table.heap pointer
  if !mplx.empty then
    table
  else if table.sessionToMplx.lookup mplx.sessionId ≠ some pointer then
    table
  else
    table.releaseSession pointer

/-- Erase a client and its connection. -/
def dropClient (pointer : MplxPtr) (id : ClientID) : Table :=
  { table with
    clientToMplx := table.clientToMplx.erase id
    heap :=
      Function.update table.heap pointer
        ((table.heap pointer).delConnectionByClientId id) }

def delConnectionByClientId (id : ClientID) : Table × Bool :=
  match table.clientToMplx.lookup id with
  | none => (table, false)
  | some pointer =>
    ((table.dropClient pointer id).releaseSessionIfEmpty pointer, true)

def getMultiplexerByFakeIPv4 (ip : IPv4Address) : Option MplxPtr :=
  table.ipv4ToMplx.lookup ip.toInt

def getMultiplexerByFakeIPv6 (ip : IPv6Address) : Option MplxPtr :=
  table.ipv6ToMplx.lookup ip.ip

def getMultiplexerByClientId (id : ClientID) : Option MplxPtr :=
  table.clientToMplx.lookup id

def getNumberActiveSessionByUsername (username : String) : Nat :=
  table.sessions.countP fun pointer =>
    (table.heap pointer).username == username

/-- `DisableChecksumCalculation` on a multiplexer. -/
def disableChecksumCalculation (pointer : MplxPtr) (value : Bool) :
    Table :=
  { table with
    heap :=
      Function.update table.heap pointer
        { table.heap pointer with disableChecksumCalculation := value } }

/-! ## The two phases of a sweep -/

/-- The outcome of the first phase. -/
structure Swept where
  sweep : Sweep
  heap : MplxPtr → ConnectionMultiplexer
  tick : Nat

/-- Update one multiplexer after the other. -/
def sweepEach (clock : Nat → Int) :
    List MplxPtr → (MplxPtr → ConnectionMultiplexer) → Nat → Swept
  | [], heap, tick => ⟨⟨[], []⟩, heap, tick⟩
  | pointer :: rest, heap, tick =>
      let updated := (heap pointer).updateConnectionsStatus clock tick
      let done :=
        sweepEach clock rest
          (Function.update heap pointer updated.multiplexer) updated.tick
      { done with
        sweep := {
          expired := updated.expired ++ done.sweep.expired
          emptied :=
            if updated.multiplexer.empty then
              pointer :: done.sweep.emptied
            else
              done.sweep.emptied } }

def eraseClients (clients : List ClientID) : Table :=
  { table with
    clientToMplx := clients.foldl (fun map id => map.erase id)
      table.clientToMplx }

def releaseEmptied : List MplxPtr → Table → Table
  | [], table => table
  | pointer :: rest, table =>
      releaseEmptied rest (table.releaseSessionIfEmpty pointer)

/-- The second phase. -/
def finishSweep (sweep : Sweep) : Table :=
  releaseEmptied sweep.emptied (table.eraseClients sweep.expired)

end Table

/-! ## Runs -/

/-- The table, the clock's tick, pending sweeps, and all ids used so far. -/
structure World where
  table : Table
  tick : Nat
  pending : List Sweep
  used : List ClientID

def World.start (ipv4 : List IPv4Address) (ipv6 : List IPv6Address) :
    World where
  table := Table.start ipv4 ipv6
  tick := 0
  pending := []
  used := []

inductive Label where
  | addConnection (params : ConnectParams)
  | delConnectionByClientId (id : ClientID)
  | disableChecksumCalculation (pointer : MplxPtr) (value : Bool)
  /-- The first phase, visiting the sessions in the given order. -/
  | beginUpdate (order : List MplxPtr)
  /-- The second phase of the sweep pending at the given place. -/
  | finishUpdate (place : Nat)

/-- One step; a client id is never given to two connections. -/
def step (clock : Nat → Int) (world : World) : Label → Option World
  | .addConnection params =>
      if params.clientId ∈ world.used then
        none
      else
        some { world with
          table :=
            (world.table.addConnection params clock world.tick).1
          tick := world.tick + 3
          used := params.clientId :: world.used }
  | .delConnectionByClientId id =>
      some { world with
        table := (world.table.delConnectionByClientId id).1 }
  | .disableChecksumCalculation pointer value =>
      some { world with
        table := world.table.disableChecksumCalculation pointer value }
  | .beginUpdate order =>
      if order.Perm world.table.sessions then
        let swept :=
          Table.sweepEach clock order world.table.heap world.tick
        some { world with
          table := { world.table with heap := swept.heap }
          tick := swept.tick
          pending :=
            if swept.sweep.expired.isEmpty &&
                swept.sweep.emptied.isEmpty then
              world.pending
            else
              world.pending ++ [swept.sweep] }
      else
        none
  | .finishUpdate place =>
      match world.pending[place]? with
      | none => none
      | some sweep =>
        some { world with
          table := world.table.finishSweep sweep
          pending := world.pending.eraseIdx place }

end Fptn.NatTable.SessionTable
