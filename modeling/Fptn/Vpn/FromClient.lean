import Fptn.NatTable.Assignment
import Fptn.Vpn.Filter
import Fptn.Web.SessionMoves

/-!
# Packets from clients

`Manager::RunFromClient` takes the packets which clients have sent and passes
them on to the network interface.  A packet gets the address of its session
as its source, so that no client can send in the name of another.  This is
left to the client itself for sessions of the second protocol, of which
`HandleWebSocket2` disables the calculation.
-/

namespace Fptn.Vpn.FromClient

open Fptn.PartialRun
open Fptn.TracedMemory
open Fptn.NatTable.Assignment
open Fptn.NatTable.Multiplexer
open Fptn.NatTable.SessionTable
open Fptn.Network.ChecksumFrame
open Fptn.Network.ChecksumValue
open Fptn.Network.IPAddress
open Fptn.Network.Packet
open Fptn.Network.PacketBounds
open Fptn.Network.SourceAddress
open Fptn.Vpn.Filter
open Fptn.Web.WebServer

/-- `SetSrcIPv4Address` or `SetSrcIPv6Address`. -/
def setSrcAddress (text : AddressText) (mplx : ConnectionMultiplexer)
    (size : Nat) : Mem Unit := do
  let v4 ← isIPv4 size
  if v4 then
    setSrcIPv4Address size mplx.fakeClientIpv4
  else
    let v6 ← isIPv6 size
    if v6 then
      setSrcIPv6Address size text mplx.fakeClientIpv6
    else
      return ()

/-- Followed by `ComputeCalculateFields`. -/
def setFakeAddress (text : AddressText) (mplx : ConnectionMultiplexer)
    (size : Nat) : Mem Unit := do
  setSrcAddress text mplx size
  computeCalculateFields size

def changeIPAddressToFakeIP (text : AddressText)
    (mplx : ConnectionMultiplexer) (packet : IPPacket) : IPPacket :=
  if mplx.disableChecksumCalculation then
    packet
  else
    { packet with
      data := {
        packet.data with
        memory :=
          memoryAfter (setFakeAddress text mplx packet.data.size)
            packet.data.memory } }

/-- What is passed on of one packet.  The session is looked up in a table
which may have changed by the time it changes the address; `checkSpeedLimit`
is the answer of its traffic shaper. -/
def runFromClient (text : AddressText) (filters : List BaseFilter)
    (table later : Table) (checkSpeedLimit : MplxPtr → Nat → Bool)
    (packet : IPPacket) : Option IPPacket :=
  if !read isIPv4 packet && !read isIPv6 packet then
    none
  else
    match table.getMultiplexerByClientId packet.clientId with
    | none => none
    | some pointer =>
        if checkSpeedLimit pointer packet.data.size then
          match Manager.apply filters packet with
          | none => none
          | some packet =>
              some
                (changeIPAddressToFakeIP text (later.heap pointer) packet)
        else
          none

/-! ## The source address -/

/-- The source address is the one of the session. -/
def HasSource (mplx : ConnectionMultiplexer) (data : IPPacketData) : Prop :=
  (version data.memory = 4 →
    bytesAt data.memory 12 4 =
      networkBytes 4 mplx.fakeClientIpv4.toInt.toNat) ∧
  (version data.memory = 6 →
    ∃ value, mplx.fakeClientIpv6.impl = some value ∧
      bytesAt data.memory 8 16 = networkBytes 16 value.toNat)

/-- The setters do not skip the packet, and a checksum does not overwrite the
address. -/
def Changeable (data : IPPacketData) : Prop :=
  version data.memory = 4 → data.memory 8 ≠ 0 ∧ ¬Clobbered data

variable {text : AddressText} {mplx : ConnectionMultiplexer}
  {packet sent : IPPacket} {data : IPPacketData}

theorem computeCalculateFields_memory {size : Nat} {store : Store}
    (accepted : Accepted ⟨size, store.memory⟩) :
    (computeCalculateFields size store).2.memory =
      recalculated ⟨size, store.memory⟩ := by
  rw [computeCalculateFields, if_neg (Nat.not_lt.mpr accepted.1)]
  exact recalculateChecksums_memory accepted

section Setting

variable {size : Nat} {store : Store}

theorem setSrcAddress_ipv4 (accepted : Accepted ⟨size, store.memory⟩)
    (v4 : version store.memory = 4) (ttl : store.memory 8 ≠ 0) :
    (setSrcAddress text mplx size store).2.memory =
      recalculated
        ⟨size, putBytes store.memory 12
          (networkBytes 4 mplx.fakeClientIpv4.toInt.toNat)⟩ := by
  rw [setSrcAddress, bind_apply,
    isIPv4_value (nonempty_of_accepted accepted), v4]
  simp only [BEq.rfl, if_true, setSrcIPv4Address]
  rw [setIPv4Address_memory, isIPv4_memory]
  all_goals first | rwa [isIPv4_memory] | decide

theorem setSrcAddress_ipv6 {value : BitVec 128}
    (accepted : Accepted ⟨size, store.memory⟩)
    (v6 : version store.memory = 6)
    (parsed : text.inetPtonV6 mplx.fakeClientIpv6.ip = some value) :
    (setSrcAddress text mplx size store).2.memory =
      recalculated
        ⟨size, putBytes store.memory 8
          (networkBytes 16 value.toNat)⟩ := by
  have nonempty := nonempty_of_accepted accepted
  rw [setSrcAddress, bind_apply, isIPv4_value nonempty, v6]
  simp only [Nat.reduceBEq, Bool.false_eq_true, if_false, bind_apply,
    isIPv6_value nonempty, isIPv4_memory, v6, BEq.rfl, if_true,
    setSrcIPv6Address]
  rw [setIPv6Address_memory, isIPv6_memory, isIPv4_memory]
  all_goals
    first
      | rwa [isIPv6_memory, isIPv4_memory]
      | exact parsed
      | decide

/-- Bytes which a calculation of the checksums keeps are kept when it is done
once more, after the setter. -/
theorem setFakeAddress_memory {kept : Nat → Prop} {written : Nat → UInt8}
    (accepted : Accepted ⟨size, written⟩)
    (set : (setSrcAddress text mplx size store).2.memory =
      recalculated ⟨size, written⟩)
    (first : kept 0)
    (keeps : ∀ memory : Nat → UInt8,
      (∀ offset, kept offset → memory offset = written offset) →
        ∀ offset, kept offset →
          recalculated ⟨size, memory⟩ offset = memory offset)
    {offset : Nat} (here : kept offset) :
    (setFakeAddress text mplx size store).2.memory offset =
      written offset := by
  have once := keeps written fun _ _ => rfl
  have again := keeps (recalculated ⟨size, written⟩) once
  rw [setFakeAddress, bind_apply, computeCalculateFields_memory, set,
    again offset here]
  · exact once offset here
  · rw [set]
    exact accepted_congr accepted (once 0 first)

end Setting

theorem setFakeAddress_ipv4 (accepted : Accepted data)
    (v4 : version data.memory = 4) (ttl : data.memory 8 ≠ 0)
    (whole : ¬Clobbered data) :
    HasSource mplx
      { data with
        memory := memoryAfter (setFakeAddress text mplx data.size)
          data.memory } := by
  let address := networkBytes 4 mplx.fakeClientIpv4.toInt.toNat
  let written := putBytes data.memory 12 address
  have before {offset : Nat} (less : offset < 12) :
      written offset = data.memory offset :=
    putBytes_of_lt less
  have writtenAccepted : Accepted ⟨data.size, written⟩ :=
    accepted_congr accepted (before (by decide))
  have final {offset : Nat} (here : Kept offset) :
      memoryAfter (setFakeAddress text mplx data.size) data.memory
        offset = written offset := by
    refine @setFakeAddress_memory text mplx data.size
      (Store.start data.memory) Kept written writtenAccepted
      (setSrcAddress_ipv4 accepted v4 ttl) (Or.inl rfl)
      (fun memory same offset here => ?_) offset here
    have first : memory 0 = data.memory 0 :=
      (same 0 (Or.inl rfl)).trans (before (by decide))
    have protocol : memory 9 = data.memory 9 :=
      (same 9 (by simp [Kept])).trans (before (by decide))
    refine recalculated_kept_ipv4 (accepted_congr accepted first) ?_ ?_ here
    · exact (version_congr first).trans v4
    · simpa only [Clobbered, version, first, protocol] using whole
  constructor
  · intro _
    calc bytesAt _ 12 4
        = bytesAt written 12 4 :=
          bytesAt_congr fun offset lower upper =>
            final (Or.inr (Or.inr (Or.inr ⟨lower, by omega⟩)))
      _ = address := by
          have length : address.length = 4 := length_networkBytes _ _
          rw [← length]
          exact bytesAt_putBytes
  · intro v6
    have same := (final (Or.inl rfl)).trans (before (by decide))
    cases v4.symm.trans ((version_congr same).symm.trans v6)

theorem setFakeAddress_ipv6 {value : BitVec 128}
    (accepted : Accepted data) (v6 : version data.memory = 6)
    (parsed : text.inetPtonV6 mplx.fakeClientIpv6.ip = some value)
    (numeric : mplx.fakeClientIpv6.impl = some value) :
    HasSource mplx
      { data with
        memory := memoryAfter (setFakeAddress text mplx data.size)
          data.memory } := by
  let address := networkBytes 16 value.toNat
  let written := putBytes data.memory 8 address
  have first : written 0 = data.memory 0 := putBytes_of_lt (by decide)
  have final {offset : Nat} (header : offset < 40) :
      memoryAfter (setFakeAddress text mplx data.size) data.memory
        offset = written offset := by
    refine @setFakeAddress_memory text mplx data.size
      (Store.start data.memory) (· < 40) written
      (accepted_congr accepted first)
      (setSrcAddress_ipv6 accepted v6 parsed) (by decide)
      (fun memory same offset header => ?_) offset header
    have zero : memory 0 = data.memory 0 :=
      (same 0 (by decide)).trans first
    exact
      recalculated_kept_ipv6 (accepted_congr accepted zero)
        ((version_congr zero).trans v6) header
  constructor
  · intro v4
    have same := (final (by decide)).trans first
    cases ((version_congr same).symm.trans v4).symm.trans v6
  · intro _
    refine ⟨value, numeric, ?_⟩
    calc bytesAt _ 8 16
        = bytesAt written 8 16 :=
          bytesAt_congr fun offset _ upper => final (by omega)
      _ = address := by
          have length : address.length = 16 := length_networkBytes _ _
          rw [← length]
          exact bytesAt_putBytes

/-! ## Packets of a session -/

theorem changeIPAddressToFakeIP_source (accepted : Accepted packet.data)
    (changeable : Changeable packet.data)
    (rewrites : mplx.disableChecksumCalculation = false)
    (printed : ∃ value,
      mplx.fakeClientIpv6 = IPv6Address.ofValue text value) :
    HasSource mplx
      (changeIPAddressToFakeIP text mplx packet).data := by
  rw [changeIPAddressToFakeIP, if_neg (by simp [rewrites])]
  rcases accepted.2 with v4 | ⟨v6, -⟩
  · exact
      setFakeAddress_ipv4 accepted v4 (changeable v4).1 (changeable v4).2
  · obtain ⟨value, address⟩ := printed
    refine @setFakeAddress_ipv6 text mplx packet.data value accepted v6 ?_
      ?_
    · rw [address]
      exact text.inetPtonV6_toString value
    · rw [address]
      exact IPv6Address.ofValue_impl text value

section Runs

variable {config : Config} {server next : Server}
  {label : Server.Label} {pointer : MplxPtr} {ipv6 : List IPv6Address}

/-- The step does not disable the calculation of a session, as
`HandleWebSocket2` does. -/
def LeavesFlag (pointer : MplxPtr) (server : Server)
    (label : Server.Label) : Prop :=
  tableLabel server label ≠
    some (.disableChecksumCalculation pointer true)

deriving instance DecidableEq for NatTable.SessionTable.Label

instance (pointer : MplxPtr) (server : Server) (label : Server.Label) :
    Decidable (LeavesFlag pointer server label) :=
  inferInstanceAs (Decidable (_ ≠ _))

/-- The clients of the server are new, and its addresses from the pool. -/
structure Supplied (ipv6 : List IPv6Address) (server : Server) : Prop where
  unused : Unused server
  fromPool : FromPool ipv6 server.world.table

/-- The table is left alone, or makes a step of its own. -/
theorem step_table (supplied : Supplied ipv6 server)
    (taken : server.step config label = some next) :
    next.world = server.world ∨
      ∃ tableStep, tableLabel server label = some tableStep ∧
        NatTable.SessionTable.step config.clock server.world tableStep =
          some next.world := by
  have stepped := step_world supplied.unused taken
  cases adds : tableLabel server label with
  | none =>
      rw [adds] at stepped
      exact Or.inl stepped
  | some tableStep =>
      rw [adds] at stepped
      exact Or.inr ⟨tableStep, rfl, stepped⟩

theorem step_supplied (supplied : Supplied ipv6 server)
    (taken : server.step config label = some next) :
    Supplied ipv6 next := by
  refine ⟨Web.SessionMoves.step_unused supplied.unused taken, ?_⟩
  rcases step_table supplied taken with same | ⟨tableStep, -, stepped⟩
  · rw [same]
    exact supplied.fromPool
  · exact step_fromPool supplied.fromPool stepped

theorem step_nextMplx (supplied : Supplied ipv6 server)
    (taken : server.step config label = some next) :
    server.world.table.nextMplx ≤ next.world.table.nextMplx := by
  rcases step_table supplied taken with same | ⟨tableStep, -, stepped⟩
  · rw [same]
  · exact step_made stepped

theorem step_leaves (supplied : Supplied ipv6 server)
    (rewrites : Rewrites pointer server.world.table)
    (leaves : LeavesFlag pointer server label)
    (taken : server.step config label = some next) :
    Rewrites pointer next.world.table := by
  rcases step_table supplied taken with same | ⟨tableStep, here, stepped⟩
  · rwa [same]
  · refine step_rewrites rewrites (fun disables => leaves ?_) stepped
    rw [here, disables]

variable {ipv4 : List IPv4Address}

theorem start_supplied :
    Supplied ipv6 (Server.start (World.start ipv4 ipv6)) where
  unused _ _ member := nomatch member
  fromPool := start_fromPool ipv4

/-- The flag of a session stays as it is while no step disables it. -/
theorem run_leaves {labels : List Server.Label}
    (supplied : Supplied ipv6 server)
    (rewrites : Rewrites pointer server.world.table)
    (leaves : Along (Server.step config) (LeavesFlag pointer) server labels)
    (reached : run (Server.step config) server labels = some next) :
    Rewrites pointer next.world.table :=
  (run_invariant_of
    (fun _ _ _ (invariant : Supplied ipv6 _ ∧ Rewrites pointer _) leaves
      taken =>
        ⟨step_supplied invariant.1 taken,
          step_leaves invariant.1 invariant.2 leaves taken⟩)
    ⟨supplied, rewrites⟩ leaves reached).2

theorem run_supplied {labels : List Server.Label}
    (supplied : Supplied ipv6 server)
    (reached : run (Server.step config) server labels = some next) :
    Supplied ipv6 next ∧
      server.world.table.nextMplx ≤ next.world.table.nextMplx :=
  run_invariant
    (fun _ _ _ (invariant : Supplied ipv6 _ ∧ _ ≤ _) taken =>
      ⟨step_supplied invariant.1 taken,
        Nat.le_trans invariant.2 (step_nextMplx invariant.1 taken)⟩)
    ⟨supplied, Nat.le_refl _⟩ reached

/-- A packet of a session which has not disabled the calculation goes out
with the address of the session, and otherwise as it came. -/
theorem runFromClient_source (text : AddressText) (config : Config)
    (ipv4 : List IPv4Address) (ipv6 : List IPv6Address)
    (printed : ∀ ip ∈ ipv6, ∃ value, ip = IPv6Address.ofValue text value)
    (labels later : List Server.Label) (server after : Server)
    (reached : run (Server.step config)
      (Server.start (World.start ipv4 ipv6)) labels = some server)
    (reachedLater : run (Server.step config) server later = some after)
    (filters : List BaseFilter) (checkSpeedLimit : MplxPtr → Nat → Bool)
    (buffer : IPPacketData) (clientId : ClientID) (packet sent : IPPacket)
    (parsed : parse buffer clientId = some packet)
    (passed : runFromClient text filters server.world.table
      after.world.table checkSpeedLimit packet = some sent) :
    ∃ pointer,
      server.world.table.getMultiplexerByClientId clientId =
          some pointer ∧
        (Along (Server.step config) (LeavesFlag pointer)
            (Server.start (World.start ipv4 ipv6)) labels →
          Along (Server.step config) (LeavesFlag pointer) server later →
          Changeable buffer →
            HasSource (after.world.table.heap pointer) sent.data) ∧
        ((after.world.table.heap pointer).disableChecksumCalculation =
            true → sent = packet) := by
  obtain ⟨accepted, rfl⟩ := parse_eq_some_iff.mp parsed
  obtain ⟨supplied, -⟩ := run_supplied start_supplied reached
  obtain ⟨suppliedLater, grown⟩ := run_supplied supplied reachedLater
  simp only [runFromClient] at passed
  split at passed
  · cases passed
  · split at passed
    · cases passed
    case h_2 pointer found =>
      split at passed
      case isFalse => cases passed
      split at passed
      · cases passed
      case h_2 unchanged applied =>
        obtain rfl := Manager.apply_eq_some applied
        cases passed
        refine ⟨pointer, found, fun leaves leavesLater changeable => ?_,
          fun disabled => if_pos disabled⟩
        have rewrites : Rewrites pointer after.world.table :=
          run_leaves supplied
            (run_leaves start_supplied rfl leaves reached)
            leavesLater reachedLater
        have made : pointer < after.world.table.nextMplx :=
          Nat.lt_of_lt_of_le
            (supplied.fromPool.clients clientId pointer found) grown
        exact
          changeIPAddressToFakeIP_source accepted changeable rewrites
            (printed _ (suppliedLater.fromPool.made pointer made))

end Runs

/-! ## Packets with a foreign source -/

def oneUser : Config where
  clock tick := tick
  validate _ := some "user"
  maxActiveSessionsPerUser := 1

def onePool : World :=
  World.start [IPv4Address.ofValue plainText 0x0A000002]
    [wholeIPv6 2]

/-- A client opens a connection by one of the two protocols. -/
def connects (protocol2 : Bool) : List Server.Label :=
  [.accept 1,
    .run 1 (.request {
      url := kApiWebSocketUrl
      jwtAuthToken := "token"
      params := NatTable.TableInvariant.guest 0 "first" 0
      protocol2 := protocol2 })] ++
    List.replicate (if protocol2 then 8 else 7) (.run 1 .proceed)

/-- A UDP packet from `192.0.2.99`, with this first byte and TTL. -/
def forged (first ttl : UInt8) : IPPacketData where
  size := 28
  memory offset :=
    [first, 0, 0, 28, 0, 0, 0, 0, ttl, 17, 0, 0, 192, 0, 2, 99, 8, 8, 8, 8,
      0, 53, 0, 53, 0, 8, 0, 0].getD offset 0

/-- The packet after the connection has been opened. -/
def passedOn (server : Server) (first ttl : UInt8) : Option IPPacket :=
  runFromClient plainText [] server.world.table server.world.table
    (fun _ _ => true) ⟨forged first ttl, 1⟩

theorem runFromClient_source_udp :
    ∃ server sent,
      run (Server.step oneUser) (Server.start onePool) (connects false) =
          some server ∧
        passedOn server 0x45 64 = some sent ∧
        HasSource (server.world.table.heap 0) sent.data := by
  have taken : (run (Server.step oneUser) (Server.start onePool)
      (connects false)).map (fun server =>
        ((passedOn server 0x45 64).isSome,
          server.world.table.getMultiplexerByClientId 1)) =
      some (true, some 0) := by
    decide +kernel
  obtain ⟨server, reached, found⟩ := Option.map_eq_some_iff.mp taken
  rw [Prod.mk.injEq] at found
  obtain ⟨sent, passed⟩ := Option.isSome_iff_exists.mp found.1
  have printed : ∀ ip ∈ [wholeIPv6 2],
      ∃ value, ip = IPv6Address.ofValue plainText value := fun ip member =>
    ⟨_, List.mem_singleton.mp member⟩
  obtain ⟨pointer, here, source, -⟩ :=
    runFromClient_source plainText oneUser _ _ printed (connects false) []
      server server reached rfl [] (fun _ _ => true) (forged 0x45 64) 1
      ⟨forged 0x45 64, 1⟩ sent rfl passed
  obtain rfl := Option.some.inj (here.symm.trans found.2)
  have leaves : Along (Server.step oneUser) (LeavesFlag 0)
      (Server.start onePool) (connects false) := by
    decide +kernel
  refine ⟨server, sent, reached, passed,
    source leaves trivial fun _ => ⟨by decide, by decide⟩⟩

/-- The packet goes out with an address which is not that of its session. -/
def Escapes (protocol2 : Bool) (first ttl : UInt8) : Prop :=
  ∃ server sent pointer,
    run (Server.step oneUser) (Server.start onePool)
        (connects protocol2) = some server ∧
      parse (forged first ttl) 1 = some ⟨forged first ttl, 1⟩ ∧
      passedOn server first ttl = some sent ∧
      server.world.table.getMultiplexerByClientId 1 = some pointer ∧
      ¬HasSource (server.world.table.heap pointer) sent.data

/-- What can be computed of a packet which goes out. -/
def sourceOf (server : Server) (first ttl : UInt8) :
    Option (Nat × List UInt8 × List UInt8) :=
  (passedOn server first ttl).bind fun sent =>
    (server.world.table.getMultiplexerByClientId 1).map fun pointer =>
      (version sent.data.memory, bytesAt sent.data.memory 12 4,
        networkBytes 4
          (server.world.table.heap pointer).fakeClientIpv4.toInt.toNat)

theorem escapes_of_source {protocol2 : Bool} {first ttl : UInt8}
    {source : List UInt8}
    (parsed : parse (forged first ttl) 1 = some ⟨forged first ttl, 1⟩)
    (other : source ≠ [10, 0, 0, 2])
    (taken : (run (Server.step oneUser) (Server.start onePool)
      (connects protocol2)).map (sourceOf · first ttl) =
        some (some (4, source, [10, 0, 0, 2]))) :
    Escapes protocol2 first ttl := by
  obtain ⟨server, reached, found⟩ := Option.map_eq_some_iff.mp taken
  obtain ⟨sent, passed, rest⟩ := Option.bind_eq_some_iff.mp found
  obtain ⟨pointer, here, values⟩ := Option.map_eq_some_iff.mp rest
  simp only [Prod.mk.injEq] at values
  obtain ⟨v4, bytes, address⟩ := values
  refine ⟨server, sent, pointer, reached, parsed, passed, here,
    fun source_ => other ?_⟩
  rw [← bytes, source_.1 v4, address]

/-- By the second protocol, with a TTL of zero, and with a header of eight
bytes. -/
theorem forged_escapes :
    Escapes true 0x45 64 ∧ Escapes false 0x45 0 ∧
      Escapes false 0x42 64 :=
  ⟨@escapes_of_source _ _ _ [192, 0, 2, 99] rfl (by decide)
      (by decide +kernel),
    @escapes_of_source _ _ _ [192, 0, 2, 99] rfl (by decide)
      (by decide +kernel),
    @escapes_of_source _ _ _ [10, 0, 66, 30] rfl (by decide)
      (by decide +kernel)⟩

end Fptn.Vpn.FromClient
