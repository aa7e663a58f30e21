import Fptn.Vpn.AnswerPath

/-!
# The addresses of a websocket client

A client of the second protocol changes the addresses itself.  The server
assigns it the addresses of its session and leaves its packets alone.
`RunSender` writes the assigned address as the source of what comes from the
tunnel, and `RunReader` writes the address of the tunnel as the destination of
what comes from the server.
-/

namespace Fptn.Vpn.ClientTunnel

open Fptn.BigEndian
open Fptn.PartialRun
open Fptn.TracedMemory
open Fptn.NatTable.Ipv6Keys
open Fptn.NatTable.Multiplexer
open Fptn.NatTable.SessionTable
open Fptn.NatTable.TableInvariant
open Fptn.Network.AddressRewrite
open Fptn.Network.ChecksumValue
open Fptn.Network.IPAddress
open Fptn.Network.Packet
open Fptn.Network.PacketBounds
open Fptn.Network.SourceAddress
open Fptn.Vpn.AnswerPath
open Fptn.Vpn.Delivery
open Fptn.Vpn.Filter
open Fptn.Vpn.FromClient
open Fptn.Vpn.ToClient

/-! ## WebsocketClient -/

/-- The client of packets which have not come from a client of the server. -/
def MAX_CLIENT_ID : UInt64 := 0xFFFFFFFFFFFFFFFF

/-- The addresses of a connection. -/
structure Addresses where
  ipv4 : IPv4Address
  ipv6 : IPv6Address

/-- What `ReceiveIPAssignment` makes of the two texts of a message. -/
def receiveIPAssignment (text : AddressText) (ipv4Str ipv6Str : String) :
    Option Addresses :=
  if ipv4Str = "" ∨ ipv6Str = "" then
    none
  else
    some {
      ipv4 := IPv4Address.ofString text ipv4Str
      ipv6 := IPv6Address.ofString text ipv6Str }

/-- A packet with an address of its own version. -/
def changeAddress (text : AddressText) (place4 place6 : Nat)
    (addresses : Addresses) (data : IPPacketData) : Option IPPacketData :=
  let changed (setter : Mem Unit) : IPPacketData :=
    { data with memory := memoryAfter setter data.memory }
  if (isIPv4 data.size (Store.start data.memory)).1 then
    some (changed (setIPv4Address data.size place4 addresses.ipv4))
  else if (isIPv6 data.size (Store.start data.memory)).1 then
    some (changed (setIPv6Address data.size text place6 addresses.ipv6))
  else
    none

/-- What `RunSender` makes of a packet of the tunnel: `SetSrcIPv4Address` or
`SetSrcIPv6Address`. -/
def sendPacket (text : AddressText) (assigned : Addresses)
    (data : IPPacketData) : Option IPPacketData :=
  changeAddress text 12 8 assigned data

/-- What `RunReader` makes of a packet of a batch: `SetDstIPv4Address` or
`SetDstIPv6Address`. -/
def receivePacket (text : AddressText) (tunInterfaceAddress : Addresses)
    (raw : IPPacketData) : Option IPPacketData :=
  (parse raw MAX_CLIENT_ID).bind fun packet =>
    changeAddress text 16 24 tunInterfaceAddress packet.data

/-- Where an address is written, and its bytes; `none` if the setters skip
the packet. -/
def writtenAddress (text : AddressText) (place4 place6 : Nat)
    (addresses : Addresses) (data : IPPacketData) :
    Option (Nat × List UInt8) :=
  if version data.memory = 4 then
    if data.memory 8 = 0 then
      none
    else
      some (place4, networkBytes 4 addresses.ipv4.toInt.toNat)
  else
    (text.inetPtonV6 addresses.ipv6.ip).map fun value =>
      (place6, networkBytes 16 value.toNat)

section Change

variable {text : AddressText} {place4 place6 place : Nat}
  {addresses : Addresses} {data after : IPPacketData} {bytes : List UInt8}

theorem exists_changeAddress (accepted : Accepted data) :
    ∃ after,
      changeAddress text place4 place6 addresses data = some after := by
  unfold changeAddress
  rw [isIPv4_value (nonempty_of_accepted accepted),
    isIPv6_value (nonempty_of_accepted accepted)]
  rcases accepted.2 with v4 | ⟨v6, -⟩
  · exact ⟨_, if_pos (beq_iff_eq.mpr v4)⟩
  · refine ⟨_, (if_neg ?_).trans (if_pos (beq_iff_eq.mpr v6))⟩
    intro v4
    cases (beq_iff_eq.mp v4).symm.trans v6

theorem changeAddress_ipv4 (accepted : Accepted data)
    (v4 : version data.memory = 4)
    (changed :
      changeAddress text place4 place6 addresses data = some after) :
    after = {
      data with
      memory := memoryAfter
        (setIPv4Address data.size place4 addresses.ipv4) data.memory } := by
  have isV4 : (isIPv4 data.size (Store.start data.memory)).1 = true := by
    rw [isIPv4_value (nonempty_of_accepted accepted)]
    exact beq_iff_eq.mpr v4
  rw [changeAddress, if_pos isV4] at changed
  exact (Option.some.inj changed).symm

theorem changeAddress_ipv6 (accepted : Accepted data)
    (v6 : version data.memory = 6)
    (changed :
      changeAddress text place4 place6 addresses data = some after) :
    after = {
      data with
      memory := memoryAfter
        (setIPv6Address data.size text place6 addresses.ipv6)
        data.memory } := by
  have nonempty := nonempty_of_accepted accepted
  have notV4 : (isIPv4 data.size (Store.start data.memory)).1 = false := by
    rw [isIPv4_value nonempty]
    change (version data.memory == 4) = false
    rw [v6]
    rfl
  have isV6 : (isIPv6 data.size (Store.start data.memory)).1 = true := by
    rw [isIPv6_value nonempty]
    exact beq_iff_eq.mpr v6
  rw [changeAddress, if_neg (by rw [notV4]; decide), if_pos isV6] at changed
  exact (Option.some.inj changed).symm

/-- The address is written where the header has one. -/
theorem addressPlace_of_written (inside4 : 12 ≤ place4 ∧ place4 + 4 ≤ 20)
    (inside6 : 8 ≤ place6 ∧ place6 + 16 ≤ 40) (accepted : Accepted data)
    (known : writtenAddress text place4 place6 addresses data =
      some (place, bytes)) :
    AddressPlace data place bytes.length := by
  unfold writtenAddress at known
  split at known
  case isTrue v4 =>
    split at known
    · cases known
    · obtain ⟨rfl, rfl⟩ := Prod.mk.inj (Option.some.inj known)
      rw [length_networkBytes]
      exact Or.inl ⟨v4, inside4⟩
  case isFalse notV4 =>
    obtain ⟨value, -, same⟩ := Option.map_eq_some_iff.mp known
    obtain ⟨rfl, rfl⟩ := Prod.mk.inj same
    rw [length_networkBytes]
    exact Or.inr ⟨(accepted.2.resolve_left notV4).1, inside6⟩

theorem changeAddress_eq_rewritten (behind4 : 0 < place4)
    (behind6 : 0 < place6) (accepted : Accepted data)
    (changed :
      changeAddress text place4 place6 addresses data = some after)
    (known : writtenAddress text place4 place6 addresses data =
      some (place, bytes)) :
    after = rewritten data place bytes := by
  unfold writtenAddress at known
  split at known
  case isTrue v4 =>
    split at known
    · cases known
    case isFalse ttl =>
      obtain ⟨rfl, rfl⟩ := Prod.mk.inj (Option.some.inj known)
      rw [changeAddress_ipv4 accepted v4 changed]
      exact congrArg (IPPacketData.mk data.size)
        (@setIPv4Address_memory (Store.start data.memory) data.size _ _
          accepted v4 ttl behind4)
  case isFalse notV4 =>
    have v6 := (accepted.2.resolve_left notV4).1
    obtain ⟨value, parsed, same⟩ := Option.map_eq_some_iff.mp known
    obtain ⟨rfl, rfl⟩ := Prod.mk.inj same
    rw [changeAddress_ipv6 accepted v6 changed]
    exact congrArg (IPPacketData.mk data.size)
      (@setIPv6Address_memory (Store.start data.memory) data.size _ _ _ _
        accepted v6 parsed behind6)

theorem changeAddress_forwarded (inside4 : 12 ≤ place4 ∧ place4 + 4 ≤ 20)
    (inside6 : 8 ≤ place6 ∧ place6 + 16 ≤ 40) (accepted : Accepted data)
    (shaped : Shaped data)
    (changed :
      changeAddress text place4 place6 addresses data = some after)
    (known : writtenAddress text place4 place6 addresses data =
      some (place, bytes)) :
    Forwarded data after place bytes := by
  rw [changeAddress_eq_rewritten (by omega) (by omega) accepted changed
    known]
  exact
    forwarded_of_rewritten
      (addressPlace_of_written inside4 inside6 accepted known) accepted
      shaped

theorem not_written_first (shaped : Shaped data) : ¬Written data 0 := by
  rcases shaped with ⟨v4, long, -⟩ | v6
  · exact not_written_ipv4 v4 long (by decide) (by decide) (by decide)
  · exact not_written_ipv6 v6 (by decide)

/-- The first byte of a packet, with its version, stays. -/
theorem changeAddress_first (inside4 : 12 ≤ place4 ∧ place4 + 4 ≤ 20)
    (inside6 : 8 ≤ place6 ∧ place6 + 16 ≤ 40) (accepted : Accepted data)
    (shaped : Shaped data)
    (changed :
      changeAddress text place4 place6 addresses data = some after)
    (known : writtenAddress text place4 place6 addresses data =
      some (place, bytes)) :
    after.memory 0 = data.memory 0 := by
  have inside := addressPlace_of_written inside4 inside6 accepted known
  rw [changeAddress_eq_rewritten (by omega) (by omega) accepted changed
    known]
  refine
    rewritten_outside inside accepted (Or.inl ?_) (not_written_first shaped)
  rcases inside with ⟨-, lower, -⟩ | ⟨-, lower, -⟩
  all_goals omega

end Change

/-! ## The assigned addresses -/

section Assigned

variable {text : AddressText} {mplx : ConnectionMultiplexer}
  {assigned : Addresses} {data sent : IPPacketData}
  {ipv4 : List IPv4Address} {ipv6 : List IPv6Address}

theorem ofString_ofValue_ipv4 (value : BitVec 32) :
    IPv4Address.ofString text (IPv4Address.ofValue text value).ip =
      IPv4Address.ofValue text value :=
  rfl

theorem ofString_ofValue_ipv6 (value : BitVec 128) :
    IPv6Address.ofString text (IPv6Address.ofValue text value).ip =
      IPv6Address.ofValue text value :=
  rfl

/-- The addresses survive their texts. -/
theorem receiveIPAssignment_eq
    (printed4 : ∃ value, mplx.fakeClientIpv4 = IPv4Address.ofValue text value)
    (printed6 : ∃ value, mplx.fakeClientIpv6 = IPv6Address.ofValue text value)
    (assignment : receiveIPAssignment text mplx.fakeClientIpv4.ip
      mplx.fakeClientIpv6.ip = some assigned) :
    assigned = ⟨mplx.fakeClientIpv4, mplx.fakeClientIpv6⟩ := by
  obtain ⟨value4, isPrinted4⟩ := printed4
  obtain ⟨value6, isPrinted6⟩ := printed6
  unfold receiveIPAssignment at assignment
  split at assignment
  · cases assignment
  · rw [isPrinted4, isPrinted6, ofString_ofValue_ipv4,
      ofString_ofValue_ipv6] at assignment
    rw [isPrinted4, isPrinted6]
    exact (Option.some.inj assignment).symm

theorem writtenAddress_ipv4 {place4 place6 : Nat} {addresses : Addresses}
    (v4 : version data.memory = 4) (ttl : data.memory 8 ≠ 0) :
    writtenAddress text place4 place6 addresses data =
      some (place4, networkBytes 4 addresses.ipv4.toInt.toNat) := by
  rw [writtenAddress, if_pos v4, if_neg ttl]

theorem writtenAddress_ipv6 {place4 place6 : Nat} {addresses : Addresses}
    {value : BitVec 128} (v6 : version data.memory = 6)
    (parsed : text.inetPtonV6 addresses.ipv6.ip = some value) :
    writtenAddress text place4 place6 addresses data =
      some (place6, networkBytes 16 value.toNat) := by
  rw [writtenAddress, if_neg (by rw [v6]; decide), parsed, Option.map_some]

/-- What a client sends has the assigned address as its source. -/
theorem sendPacket_source (accepted : Accepted data) (shaped : Shaped data)
    (ttl : version data.memory = 4 → data.memory 8 ≠ 0)
    (printed6 : ∃ value, mplx.fakeClientIpv6 = IPv6Address.ofValue text value)
    (changed : sendPacket text ⟨mplx.fakeClientIpv4, mplx.fakeClientIpv6⟩
      data = some sent) :
    HasSource mplx sent ∧ ∃ place address,
      writtenAddress text 12 8
          ⟨mplx.fakeClientIpv4, mplx.fakeClientIpv6⟩ data =
        some (place, address) ∧ Forwarded data sent place address := by
  have sets {place : Nat} {address : List UInt8}
      (known : writtenAddress text 12 8
        ⟨mplx.fakeClientIpv4, mplx.fakeClientIpv6⟩ data =
          some (place, address)) :
      Forwarded data sent place address ∧
        version sent.memory = version data.memory :=
    ⟨changeAddress_forwarded (by decide) (by decide) accepted shaped changed
        known,
      version_congr
        (changeAddress_first (by decide) (by decide) accepted shaped changed
          known)⟩
  rcases accepted.2 with v4 | ⟨v6, -⟩
  · have known := @writtenAddress_ipv4 text data 12 8
      ⟨mplx.fakeClientIpv4, mplx.fakeClientIpv6⟩ v4 (ttl v4)
    obtain ⟨forwarded, same⟩ := sets known
    refine ⟨⟨fun _ => ?_, fun v6 => ?_⟩, _, _, known, forwarded⟩
    · have written := forwarded.written
      rw [length_networkBytes] at written
      exact written
    · cases (same.trans v4).symm.trans v6
  · obtain ⟨value, isPrinted⟩ := printed6
    have parsed : text.inetPtonV6 mplx.fakeClientIpv6.ip = some value := by
      rw [isPrinted]
      exact text.inetPtonV6_toString value
    have known := @writtenAddress_ipv6 text data 12 8
      ⟨mplx.fakeClientIpv4, mplx.fakeClientIpv6⟩ value v6 parsed
    obtain ⟨forwarded, same⟩ := sets known
    refine ⟨⟨fun v4 => ?_, fun _ => ⟨value, ?_, ?_⟩⟩, _, _, known,
      forwarded⟩
    · cases (same.trans v6).symm.trans v4
    · rw [isPrinted, IPv6Address.ofValue_impl]
    · have written := forwarded.written
      rw [length_networkBytes] at written
      exact written

end Assigned

/-! ## There and back -/

section Server

variable {setting : Setting} {system : System} {pointer : MplxPtr}
  {ipv4 : List IPv4Address} {ipv6 : List IPv6Address}

/-- The server leaves the packets of such a session as they are. -/
theorem changeIPAddressToFakeIP_disabled {text : AddressText}
    {mplx : ConnectionMultiplexer} {packet : IPPacket}
    (disabled : mplx.disableChecksumCalculation = true) :
    changeIPAddressToFakeIP text mplx packet = packet :=
  if_pos disabled

theorem threadStep_disabled {t : ThreadId} {id : ClientID} {taken : Taken}
    {rest : List (Option Taken)} {next : System}
    (disabled : (system.mplx pointer).disableChecksumCalculation = true)
    (here : (system.thread t).place = .testing pointer id taken rest)
    (stepped : system.threadStep setting t .proceed = some next) :
    (next.thread t).pushed =
      (system.thread t).pushed ++ [⟨taken, setClientId id taken.packet⟩] := by
  simp only [System.threadStep, here, disabled, if_true,
    Option.some.injEq] at stepped
  rw [← stepped]
  simp only [System.setThread, Function.update_self, Thread.push]

/-- The addresses of a session come from the pools, and so they have been
printed. -/
theorem fakeClient_printed
    (addresses :
      NatTable.TableInvariant.Addresses ipv4 ipv6 system.server.world.table)
    (pools : CanonicalPools setting.text ipv4 ipv6)
    (session : pointer ∈ system.server.world.table.sessions) :
    (∃ value, (system.mplx pointer).fakeClientIpv4 =
        IPv4Address.ofValue setting.text value) ∧
      ∃ value, (system.mplx pointer).fakeClientIpv6 =
        IPv6Address.ofValue setting.text value :=
  ⟨pools.ipv4Printed _ (addresses.ipv4Leased.held_mem session),
    pools.ipv6Printed _ (addresses.ipv6Leased.held_mem session)⟩

/-- What the client makes of a packet which the server accepts. -/
theorem receivePacket_forwarded {tun : Addresses} {answer : IPPacketData}
    {place : Nat} {address : List UInt8} (accepted : Accepted answer)
    (shaped : Shaped answer)
    (known : writtenAddress setting.text 16 24 tun answer =
      some (place, address)) :
    ∃ received, receivePacket setting.text tun answer = some received ∧
      Forwarded answer received place address := by
  have parsed : parse answer MAX_CLIENT_ID = some ⟨answer, MAX_CLIENT_ID⟩ :=
    parse_eq_some_iff.mpr ⟨accepted, rfl⟩
  obtain ⟨received, changed⟩ :=
    @exists_changeAddress setting.text 16 24 tun answer accepted
  refine ⟨received, ?_, ?_⟩
  · rw [receivePacket, parsed]
    exact changed
  · exact
      changeAddress_forwarded (by decide) (by decide) accepted shaped
        changed known

end Server

/-- An answer comes back to the session of a client, and through it to a
client of the same user who has opened the same session. -/
structure Returns (setting : Setting) (system : System) (pointer : MplxPtr)
    (params : ConnectParams) (answer : IPPacket) : Prop where
  session : system.natSession setting answer = some pointer
  receiver : ∀ id,
    (nextReceiverClientId (system.mplx pointer) (system.cursor pointer)
        answer).1 = some id →
      ∃ back, system.joins id = some (pointer, back) ∧
        back.request.sessionId = params.request.sessionId ∧
          back.user.username = params.user.username
  unchanged : ∀ t id number rest next,
    (system.thread t).place = .testing pointer id ⟨number, answer⟩ rest →
      system.threadStep setting t .proceed = some next →
        (next.thread t).pushed =
          (system.thread t).pushed ++
            [⟨⟨number, answer⟩, setClientId id answer⟩]

/-- A client which has been told the addresses of its session sends its
packets with them, and the server passes these on as they are.  As long as the
session exists, an answer comes back to it unchanged, and the client hands it
to its tunnel with the tunnel's own address. -/
theorem tunnel_round_trip (setting : Setting)
    (sameText : ∀ bytes : List UInt8, bytes.length = 16 →
      setting.inetNtop bytes =
        setting.text.toStringV6 (addressOfBytes bytes))
    (ipv4 : List IPv4Address) (ipv6 : List IPv6Address)
    (pools : CanonicalPools setting.text ipv4 ipv6)
    (monotone : Monotone setting.config.clock)
    (labels later more last : List ToClient.Label)
    (system between after final : System)
    (reached : run (System.step setting)
      (System.start (World.start ipv4 ipv6)) labels = some system)
    (reachedBetween :
      run (System.step setting) system later = some between)
    (reachedAfter : run (System.step setting) between more = some after)
    (reachedFinal : run (System.step setting) after last = some final)
    (id : ClientID) (pointer : MplxPtr) (params : ConnectParams)
    (joined : system.joins id = some (pointer, params))
    (session : pointer ∈ system.server.world.table.sessions)
    (disabled : (system.mplx pointer).disableChecksumCalculation = true)
    (assigned : Addresses)
    (assignment : receiveIPAssignment setting.text
      (system.mplx pointer).fakeClientIpv4.ip
      (system.mplx pointer).fakeClientIpv6.ip = some assigned)
    (data sent : IPPacketData) (accepted : Accepted data)
    (shaped : Shaped data)
    (ttl : version data.memory = 4 → data.memory 8 ≠ 0)
    (changed : sendPacket setting.text assigned data = some sent)
    (filters : List BaseFilter) (checkSpeedLimit : MplxPtr → Nat → Bool)
    (packet out : IPPacket) (parsed : parse sent id = some packet)
    (passed : runFromClient setting.text filters
      between.server.world.table after.server.world.table checkSpeedLimit
      packet = some out) :
    out.data = sent ∧
      (∃ place address,
        writtenAddress setting.text 12 8 assigned data =
            some (place, address) ∧
          Forwarded data sent place address) ∧
      (pointer ∈ final.server.world.table.sessions →
        ∀ answer : IPPacket, Accepted answer.data →
          Answers out.data answer.data →
            Returns setting final pointer params answer ∧
              (Shaped answer.data → ∀ tun place address,
                writtenAddress setting.text 16 24 tun answer.data =
                    some (place, address) →
                  ∃ received,
                    receivePacket setting.text tun answer.data =
                        some received ∧
                      Forwarded answer.data received place address)) := by
  have first := reached_delivers monotone pools reached
  obtain ⟨second, kept⟩ := run_later monotone pools first reachedBetween
  obtain ⟨third, keptThen⟩ := run_later monotone pools second reachedAfter
  obtain ⟨fourth, keptLast⟩ := run_later monotone pools third reachedFinal
  have whole := kept.trans (keptThen.trans keptLast)
  have made := (first.sound.recorded.entered id pointer params joined).2.1
  have printed :=
    fakeClient_printed first.sound.table.addresses pools session
  obtain rfl := receiveIPAssignment_eq printed.1 printed.2 assignment
  obtain ⟨source, place, address, known, forwarded⟩ :=
    sendPacket_source accepted shaped ttl printed.2 changed
  -- The session which the server finds is the one the client has joined.
  obtain ⟨-, rfl⟩ := parse_eq_some_iff.mp parsed
  obtain ⟨found, here, rfl⟩ := runFromClient_eq_some passed
  obtain ⟨_, joinedBetween⟩ := second.sound.recorded.clients id found here
  obtain ⟨rfl, rfl⟩ :=
    Prod.mk.inj (Option.some.inj
      ((kept.joins id _ joined).symm.trans joinedBetween))
  have unchanged :
      changeIPAddressToFakeIP setting.text
          (after.server.world.table.heap pointer) ⟨sent, id⟩ =
        ⟨sent, id⟩ :=
    changeIPAddressToFakeIP_disabled
      ((kept.trans keptThen).disabled pointer made disabled)
  rw [unchanged]
  refine ⟨rfl, ⟨place, address, known, forwarded⟩,
    fun sessionThen answer acceptedAnswer answers =>
      ⟨⟨?_, fun other => ?_, fun t other number rest next => ?_⟩,
        fun shapedAnswer tun place address =>
          receivePacket_forwarded acceptedAnswer shapedAnswer⟩⟩
  · have same := whole.session pointer made
    refine
      natSession_of_source fourth.sound.table.addresses pools sameText
        sessionThen ?_ acceptedAnswer answers
    unfold HasSource at source ⊢
    rw [same.fakeClientIpv4, same.fakeClientIpv6]
    exact source
  · exact receiver_of_session fourth.sound.recorded (whole.joins id _ joined)
  · exact threadStep_disabled (whole.disabled pointer made disabled)

/-- What the only client makes of its first packet. -/
def firstSent (system : System) : Option IPPacketData :=
  (receiveIPAssignment plainText (system.mplx 0).fakeClientIpv4.ip
    (system.mplx 0).fakeClientIpv6.ip).bind fun assigned =>
      sendPacket plainText assigned (forged 0x45 64)

theorem tunnel_round_trip_first :
    ∃ system sent received,
      run (System.step plainSetting) (System.start onePool)
          ((connects true).map .server) = some system ∧
        firstSent system = some sent ∧
        system.natSession plainSetting ⟨answerPacket, 0⟩ = some 0 ∧
        receivePacket plainText
            ⟨IPv4Address.ofValue plainText 0xAC1E0001,
              wholeIPv6 1⟩ answerPacket =
          some received ∧
        bytesAt received.memory 16 4 = [172, 30, 0, 1] := by
  have taken : (run (System.step plainSetting) (System.start onePool)
      ((connects true).map .server)).map (fun system =>
        ((firstSent system).map fun sent =>
          (runFromClient plainText [] system.server.world.table
              system.server.world.table (fun _ _ => true) ⟨sent, 1⟩).map
            fun out => decide (Accepted sent ∧
              Answers out.data answerPacket),
          (system.joins 1).map Prod.fst,
          (system.mplx 0).disableChecksumCalculation,
          decide (0 ∈ system.server.world.table.sessions))) =
      some (some (some true), some 0, true, true) := by
    decide +kernel
  obtain ⟨system, reached, found⟩ := Option.map_eq_some_iff.mp taken
  simp only [Prod.mk.injEq] at found
  obtain ⟨sends, joins, disabled, session⟩ := found
  obtain ⟨sent, sends, passes⟩ := Option.map_eq_some_iff.mp sends
  obtain ⟨out, passed, answered⟩ := Option.map_eq_some_iff.mp passes
  obtain ⟨accepted, answers⟩ := decide_eq_true_iff.mp answered
  obtain ⟨assigned, assignment, changed⟩ := Option.bind_eq_some_iff.mp sends
  obtain ⟨⟨_, params⟩, joined, rfl⟩ := Option.map_eq_some_iff.mp joins
  obtain ⟨-, -, returns⟩ :=
    tunnel_round_trip plainSetting (fun _ _ => rfl) _ _ onePool_canonical
      oneUser_monotone ((connects true).map .server) [] [] [] system system
      system system reached rfl rfl rfl 1 0 params joined
      (decide_eq_true_iff.mp session) disabled assigned assignment
      (forged 0x45 64) sent (by decide) (by decide) (fun _ => by decide)
      changed [] (fun _ _ => true) ⟨sent, 1⟩ out
      (parse_eq_some_iff.mpr ⟨accepted, rfl⟩) passed
  obtain ⟨back, receives⟩ :=
    returns (decide_eq_true_iff.mp session) ⟨answerPacket, 0⟩ (by decide)
      answers
  obtain ⟨received, there, forwarded⟩ :=
    receives (by decide)
      ⟨IPv4Address.ofValue plainText 0xAC1E0001,
        wholeIPv6 1⟩ 16 [172, 30, 0, 1]
      (by decide +kernel)
  exact
    ⟨system, sent, received, reached, sends, back.session, there,
      forwarded.written⟩

end Fptn.Vpn.ClientTunnel
