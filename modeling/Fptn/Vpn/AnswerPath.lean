import Fptn.Vpn.Delivery

/-!
# Packets there and back

The two directions of the address translation.  A packet of a client leaves
with the address of its session as its source.  An answer to it comes back to
a connection of this session, whose own address it gets as its destination.
-/

namespace Fptn.Vpn.AnswerPath

open Fptn.BigEndian
open Fptn.PartialRun
open Fptn.TracedMemory
open Fptn.NatTable.Ipv6Keys
open Fptn.NatTable.Members
open Fptn.NatTable.Multiplexer
open Fptn.NatTable.SessionTable
open Fptn.NatTable.TableInvariant
open Fptn.Network.AddressRewrite
open Fptn.Network.ChecksumFrame
open Fptn.Network.ChecksumValue
open Fptn.Network.IPAddress
open Fptn.Network.Packet
open Fptn.Network.PacketBounds
open Fptn.Network.SourceAddress
open Fptn.Vpn.Delivery
open Fptn.Vpn.Filter
open Fptn.Vpn.FromClient
open Fptn.Vpn.ToClient

/-! ## The address of a client -/

/-- Where the address of a client is written, and its bytes; `none` if the
setters skip the packet. -/
def clientAddress (text : AddressText) (request : Request)
    (data : IPPacketData) : Option (Nat × List UInt8) :=
  if version data.memory = 4 then
    if data.memory 8 = 0 then
      none
    else
      some (16, networkBytes 4 request.clientTunVpnIpv4.toInt.toNat)
  else
    (text.inetPtonV6 request.clientTunVpnIpv6.ip).map fun value =>
      (24, networkBytes 16 value.toNat)

/-- The packet has these bytes for its address, the checksums which belong to
them, and is the same otherwise. -/
structure Forwarded (before after : IPPacketData) (place : Nat)
    (address : List UInt8) : Prop where
  size : after.size = before.size
  written : bytesAt after.memory place address.length = address
  others : ∀ offset,
    offset < place ∨ place + address.length ≤ offset →
      ¬IsChecksum before offset →
        after.memory offset = before.memory offset
  checksums : recalculated after = after.memory

section Forwarded

variable {text : AddressText} {request : Request} {data : IPPacketData}
  {packet : IPPacket} {offset place : Nat} {bytes : List UInt8}

theorem forwarded_of_rewritten
    (inside : AddressPlace data offset bytes.length)
    (accepted : Accepted data) (shaped : Shaped data) :
    Forwarded data (rewritten data offset bytes) offset bytes where
  size := rfl
  written := by
    have kept (other : Nat) (lower : offset ≤ other)
        (upper : other < offset + bytes.length) :
        (rewritten data offset bytes).memory other =
          (stored data offset bytes).memory other := by
      refine
        recalculated_of_not_written (accepted_stored inside accepted)
          (mt (written_stored inside).mp ?_)
      rcases inside with ⟨v4, after, before⟩ | ⟨v6, after, before⟩
      · rcases shaped with ⟨-, long, -⟩ | v6
        · exact
            not_written_ipv4 v4 long (by omega) (by omega) (by omega)
        · cases v4.symm.trans v6
      · exact not_written_ipv6 v6 (by omega)
    calc bytesAt (rewritten data offset bytes).memory offset bytes.length
        = bytesAt (stored data offset bytes).memory offset bytes.length :=
          bytesAt_congr kept
      _ = bytes := bytesAt_putBytes
  others other outside notChecksum :=
    rewritten_outside inside accepted outside
      (mt Written.isChecksum notChecksum)
  checksums :=
    recalculated_resealed (shaped_stored inside shaped)
      (accepted_stored inside accepted)

/-- The checksums are calculated once more, which changes nothing. -/
theorem setClientAddress_memory
    (inside : AddressPlace data offset bytes.length)
    (accepted : Accepted data) (shaped : Shaped data)
    (set : memoryAfter (setDstAddress text request data.size) data.memory =
      (rewritten data offset bytes).memory) :
    memoryAfter (setClientAddress text request data.size) data.memory =
      (rewritten data offset bytes).memory := by
  have still : Accepted (rewritten data offset bytes) := by
    refine accepted_congr accepted ?_
    rcases inside with ⟨v4, after, before⟩ | ⟨v6, after, before⟩
    · rcases shaped with ⟨-, long, -⟩ | v6
      · exact
          rewritten_outside (Or.inl ⟨v4, after, before⟩) accepted
            (Or.inl (by omega))
            (not_written_ipv4 v4 long (by omega) (by omega) (by omega))
      · cases v4.symm.trans v6
    · exact
        rewritten_outside (Or.inr ⟨v6, after, before⟩) accepted
          (Or.inl (by omega)) (not_written_ipv6 v6 (by omega))
  unfold memoryAfter at set ⊢
  rw [setClientAddress, bind_apply, computeCalculateFields_memory, set]
  · exact (forwarded_of_rewritten inside accepted shaped).checksums
  · rw [set]
    exact still

section Setting

variable {size : Nat} {store : Store}

theorem setDstAddress_ipv4 (accepted : Accepted ⟨size, store.memory⟩)
    (v4 : version store.memory = 4) (ttl : store.memory 8 ≠ 0) :
    (setDstAddress text request size store).2.memory =
      (rewritten ⟨size, store.memory⟩ 16
        (networkBytes 4 request.clientTunVpnIpv4.toInt.toNat)).memory := by
  rw [setDstAddress, bind_apply,
    isIPv4_value (nonempty_of_accepted accepted), v4]
  simp only [BEq.rfl, if_true, setDstIPv4Address]
  rw [setIPv4Address_memory, isIPv4_memory]
  · rfl
  · rwa [isIPv4_memory]
  · rwa [isIPv4_memory]
  · rwa [isIPv4_memory]
  · decide

theorem setDstAddress_ipv6 {value : BitVec 128}
    (accepted : Accepted ⟨size, store.memory⟩)
    (v6 : version store.memory = 6)
    (parsed : text.inetPtonV6 request.clientTunVpnIpv6.ip = some value) :
    (setDstAddress text request size store).2.memory =
      (rewritten ⟨size, store.memory⟩ 24
        (networkBytes 16 value.toNat)).memory := by
  have nonempty := nonempty_of_accepted accepted
  rw [setDstAddress, bind_apply, isIPv4_value nonempty, v6]
  simp only [Nat.reduceBEq, Bool.false_eq_true, if_false, bind_apply,
    isIPv6_value nonempty, isIPv4_memory, v6, BEq.rfl, if_true,
    setDstIPv6Address]
  rw [setIPv6Address_memory, isIPv6_memory, isIPv4_memory]
  · rfl
  · rwa [isIPv6_memory, isIPv4_memory]
  · rwa [isIPv6_memory, isIPv4_memory]
  · exact parsed
  · decide

end Setting

theorem withClientAddress_forwarded (accepted : Accepted packet.data)
    (shaped : Shaped packet.data)
    (known : clientAddress text request packet.data = some (place, bytes)) :
    Forwarded packet.data (withClientAddress text request packet).data place
      bytes := by
  have result
      (inside : AddressPlace packet.data place bytes.length)
      (set : memoryAfter (setDstAddress text request packet.data.size)
        packet.data.memory = (rewritten packet.data place bytes).memory) :
      (withClientAddress text request packet).data =
        rewritten packet.data place bytes :=
    congrArg (IPPacketData.mk packet.data.size)
      (setClientAddress_memory inside accepted shaped set)
  unfold clientAddress at known
  split at known
  case isTrue v4 =>
    split at known
    · cases known
    case isFalse ttl =>
      obtain ⟨rfl, rfl⟩ := Prod.mk.inj (Option.some.inj known)
      have inside : AddressPlace packet.data 16
          (networkBytes 4 request.clientTunVpnIpv4.toInt.toNat).length := by
        rw [length_networkBytes]
        exact Or.inl ⟨v4, by decide, by decide⟩
      rw [result inside
        (@setDstAddress_ipv4 text request packet.data.size
          (Store.start packet.data.memory) accepted v4 ttl)]
      exact forwarded_of_rewritten inside accepted shaped
  case isFalse notV4 =>
    have v6 : version packet.data.memory = 6 :=
      (accepted.2.resolve_left notV4).1
    obtain ⟨value, parsed, same⟩ := Option.map_eq_some_iff.mp known
    obtain ⟨rfl, rfl⟩ := Prod.mk.inj same
    have inside : AddressPlace packet.data 24
        (networkBytes 16 value.toNat).length := by
      rw [length_networkBytes]
      exact Or.inr ⟨v6, by decide, by decide⟩
    rw [result inside
      (@setDstAddress_ipv6 text request packet.data.size
        (Store.start packet.data.memory) value accepted v6 parsed)]
    exact forwarded_of_rewritten inside accepted shaped

end Forwarded

/-- What comes to the channel of a client has the client's own address as its
destination and checksums which belong to it, and is otherwise as it came.
This is so unless the session leaves the addresses to its clients. -/
theorem delivered_forwarded (setting : Setting) (ipv4 : List IPv4Address)
    (ipv6 : List IPv6Address)
    (pools : CanonicalPools setting.text ipv4 ipv6)
    (monotone : Monotone setting.config.clock)
    (labels : List ToClient.Label) (system : System)
    (reached : run (System.step setting)
      (System.start (World.start ipv4 ipv6)) labels = some system)
    (id : ClientID) (entry : ThreadId × Outgoing)
    (sent : entry ∈ system.received id ++ system.writeChannel id)
    (accepted : Accepted entry.2.taken.packet.data)
    (shaped : Shaped entry.2.taken.packet.data) :
    ∃ pointer params,
      system.joins id = some (pointer, params) ∧
        ((system.mplx pointer).disableChecksumCalculation = false →
          ∀ place address,
            clientAddress setting.text params.request
                entry.2.taken.packet.data = some (place, address) →
              Forwarded entry.2.taken.packet.data entry.2.sent.data place
                address) := by
  obtain ⟨-, -, channels⟩ := reached_delivers monotone pools reached
  obtain ⟨pointer, params, joined, -, changed⟩ := channels id entry sent
  refine ⟨pointer, params, joined, fun rewrites place address known => ?_⟩
  rcases changed with ⟨disabled, -⟩ | changed
  · rw [rewrites] at disabled
    cases disabled
  · rw [changed]
    exact
      @withClientAddress_forwarded setting.text params.request
        (setClientId id entry.2.taken.packet) place address accepted shaped
        known

/-- The answer which comes to the only client carries the client's own
address. -/
theorem delivered_forwarded_answer :
    ∃ system entry,
      run (System.step plainSetting) (System.start onePool)
          deliversAnswer = some system ∧
        system.writeChannel 1 = [entry] ∧
        Forwarded entry.2.taken.packet.data entry.2.sent.data 16
          [172, 20, 0, 2] := by
  have taken : (run (System.step plainSetting) (System.start onePool)
      deliversAnswer).map (fun system =>
        ((system.writeChannel 1).map fun entry =>
            decide (Accepted entry.2.taken.packet.data ∧
              Shaped entry.2.taken.packet.data ∧
                ∀ joined ∈ system.joins 1,
                  clientAddress plainText joined.2.request
                      entry.2.taken.packet.data =
                    some (16, [172, 20, 0, 2])),
          (system.joins 1).map Prod.fst,
          (system.mplx 0).disableChecksumCalculation)) =
      some ([true], some 0, false) := by
    decide +kernel
  obtain ⟨system, reached, found⟩ := Option.map_eq_some_iff.mp taken
  simp only [Prod.mk.injEq] at found
  obtain ⟨channels, joins, rewrites⟩ := found
  obtain ⟨entry, channel, data⟩ := List.map_eq_singleton_iff.mp channels
  obtain ⟨accepted, shaped, addressed⟩ := decide_eq_true_iff.mp data
  obtain ⟨pointer, params, joined, forwards⟩ :=
    delivered_forwarded plainSetting _ _ onePool_canonical
      oneUser_monotone deliversAnswer system reached 1 entry
      (by rw [channel]; exact List.mem_append_right _ List.mem_cons_self)
      accepted shaped
  have known := addressed _ joined
  rw [joined] at joins
  obtain rfl : pointer = 0 := Option.some.inj joins
  exact ⟨system, entry, reached, channel, forwards rewrites 16 _ known⟩

/-! ## Answers -/

/-- The packet goes back to where the other one says that it has come
from. -/
def Answers (packet answer : IPPacketData) : Prop :=
  version packet.memory = 4 ∧ version answer.memory = 4 ∧
      bytesAt answer.memory 16 4 = bytesAt packet.memory 12 4 ∨
    version packet.memory = 6 ∧ version answer.memory = 6 ∧
      bytesAt answer.memory 24 16 = bytesAt packet.memory 8 16

instance (packet answer : IPPacketData) : Decidable (Answers packet answer) :=
  inferInstanceAs (Decidable (_ ∨ _))

section Answers

variable {setting : Setting} {system final : System} {pointer : MplxPtr}
  {packet : IPPacketData} {answer : IPPacket}
  {ipv4 : List IPv4Address} {ipv6 : List IPv6Address}

theorem read_isIPv4 (accepted : Accepted answer.data) :
    read isIPv4 answer = (version answer.data.memory == 4) :=
  isIPv4_value (nonempty_of_accepted accepted)

theorem read_isIPv6 (accepted : Accepted answer.data) :
    read isIPv6 answer = (version answer.data.memory == 6) :=
  isIPv6_value (nonempty_of_accepted accepted)

theorem toInt_getDstIPv4Address {address : IPv4Address}
    (accepted : Accepted answer.data)
    (v4 : version answer.data.memory = 4)
    (encodes : bytesAt answer.data.memory 16 4 =
      networkBytes 4 address.toInt.toNat) :
    (Network.AddressRewrite.getDstIPv4Address answer.data
      setting.text).toInt = address.toInt := by
  have sized := accepted.1
  have known := hasVersion_of_version (nonempty_of_accepted accepted) v4
  have small : address.toInt.toNat < 256 ^ 4 := address.toInt.isLt
  rw [Network.AddressRewrite.getDstIPv4Address,
    if_neg (by rw [known]; simpa using sized), encodes, networkBytes_eq,
    valueOf_bytesOf, Nat.mod_eq_of_lt small, BitVec.ofNat_toNat,
    BitVec.setWidth_eq, IPv4Address.toInt, IPv4Address.ofValue_impl]

/-- The address which a session has put into a packet leads back to it. -/
theorem natSession_of_source
    (addresses : Addresses ipv4 ipv6 system.server.world.table)
    (pools : CanonicalPools setting.text ipv4 ipv6)
    (sameText : ∀ bytes : List UInt8, bytes.length = 16 →
      setting.inetNtop bytes =
        setting.text.toStringV6 (addressOfBytes bytes))
    (session : pointer ∈ system.server.world.table.sessions)
    (source : HasSource (system.mplx pointer) packet)
    (accepted : Accepted answer.data)
    (answers : Answers packet answer.data) :
    system.natSession setting answer = some pointer := by
  unfold System.natSession
  rw [read_isIPv4 accepted, read_isIPv6 accepted]
  rcases answers with ⟨v4, v4Answer, same⟩ | ⟨v6, v6Answer, same⟩
  · have own := @toInt_getDstIPv4Address setting answer _ accepted v4Answer
      (same.trans (source.1 v4))
    rw [v4Answer]
    simp only [BEq.rfl, if_true]
    exact (addresses.ipv4Leased.indexed _ pointer).mpr ⟨session, own.symm⟩
  · obtain ⟨value, numeric, encoded⟩ := source.2 v6
    have encodes := same.trans encoded
    rw [networkBytes_eq] at encodes
    have destination :=
      getDstIPv6Address_eq sameText accepted v6Answer encodes
    obtain ⟨printed, isPrinted⟩ :=
      pools.ipv6Printed _ (addresses.ipv6Leased.held_mem session)
    have impl :
        (IPv6Address.ofValue setting.text printed).impl = some value := by
      rw [← isPrinted]
      exact numeric
    rw [IPv6Address.ofValue_impl] at impl
    obtain rfl := Option.some.inj impl
    rw [v6Answer]
    simp only [Nat.reduceBEq, Bool.false_eq_true, if_false, BEq.rfl,
      if_true]
    refine
      (addresses.ipv6Leased.indexed _ pointer).mpr
        ⟨session, congrArg IPv6Address.ip ?_⟩
    rw [destination, ofString_toString, isPrinted]

theorem runFromClient_eq_some {text : AddressText}
    {filters : List BaseFilter} {table after : Table}
    {checkSpeedLimit : MplxPtr → Nat → Bool} {packet sent : IPPacket}
    (passed : runFromClient text filters table after checkSpeedLimit
      packet = some sent) :
    ∃ pointer,
      table.getMultiplexerByClientId packet.clientId = some pointer ∧
        sent = changeIPAddressToFakeIP text (after.heap pointer) packet := by
  unfold runFromClient at passed
  split at passed
  · cases passed
  · split at passed
    · cases passed
    case h_2 pointer found =>
      split at passed
      case isFalse => cases passed
      case isTrue =>
        split at passed
        · cases passed
        case h_2 unchanged applied =>
          obtain rfl := Manager.apply_eq_some applied
          exact ⟨pointer, found, (Option.some.inj passed).symm⟩

theorem step_later (monotone : Monotone setting.config.clock)
    (pools : CanonicalPools setting.text ipv4 ipv6)
    (sound : Sound setting ipv4 ipv6 system) {label : ToClient.Label}
    (taken : system.step setting label = some final) :
    Later system final := by
  cases label with
  | server label =>
      obtain ⟨server, served, rfl⟩ := Option.map_eq_some_iff.mp taken
      exact (server_sound monotone pools sound served).1
  | thread t action =>
      obtain ⟨_, _, -, stepped⟩ := threadStep_moves taken
      exact later_of_same stepped.server stepped.joins
  | receive id =>
      obtain ⟨server, joins, -⟩ := receive_channel taken
      exact later_of_same server joins

theorem run_later (monotone : Monotone setting.config.clock)
    (pools : CanonicalPools setting.text ipv4 ipv6)
    (invariant : Invariant setting ipv4 ipv6 system)
    {labels : List ToClient.Label}
    (reached : run (System.step setting) system labels = some final) :
    Invariant setting ipv4 ipv6 final ∧ Later system final :=
  run_invariant
    (fun _ _ _ (kept : Invariant setting ipv4 ipv6 _ ∧ Later system _)
      taken =>
        ⟨step_delivers monotone pools kept.1 taken,
          kept.2.trans (step_later monotone pools kept.1.sound taken)⟩)
    ⟨invariant, later_of_same rfl rfl⟩ reached

theorem step_supplied_server (supplied : Supplied ipv6 system.server)
    {label : ToClient.Label}
    (taken : system.step setting label = some final) :
    Supplied ipv6 final.server := by
  cases label with
  | server label =>
      obtain ⟨server, served, rfl⟩ := Option.map_eq_some_iff.mp taken
      exact step_supplied supplied served
  | thread t action =>
      obtain ⟨_, _, -, stepped⟩ := threadStep_moves taken
      rw [stepped.server]
      exact supplied
  | receive id =>
      obtain ⟨server, -, -⟩ := receive_channel taken
      rw [server]
      exact supplied

/-- A session which has been made has got its addresses from the pools. -/
theorem run_supplied_server {labels : List ToClient.Label}
    (supplied : Supplied ipv6 system.server)
    (reached : run (System.step setting) system labels = some final) :
    Supplied ipv6 final.server :=
  @run_invariant _ _ (System.step setting)
    (fun between => Supplied ipv6 between.server)
    (fun _ _ _ kept taken => step_supplied_server kept taken)
    system final labels supplied reached

/-- Whoever is chosen has opened the same session as the same user. -/
theorem receiver_of_session {id other : ClientID} {params : ConnectParams}
    (recorded : Recorded system.joins system.server.world)
    (joined : system.joins id = some (pointer, params))
    (chosen : (nextReceiverClientId (system.mplx pointer)
      (system.cursor pointer) answer).1 = some other) :
    ∃ back, system.joins other = some (pointer, back) ∧
      back.request.sessionId = params.request.sessionId ∧
        back.user.username = params.user.username := by
  obtain ⟨connection, member, rfl⟩ := nextReceiverClientId_mem chosen
  have back := chosen_of_mem recorded member
  obtain ⟨-, -, user, own⟩ := recorded.entered id pointer params joined
  obtain ⟨-, -, backUser, backOwn⟩ :=
    recorded.entered _ pointer connection.params back
  exact
    ⟨connection.params, back, backOwn.trans own.symm,
      backUser.trans user.symm⟩

end Answers

/-- A packet of a client goes out with the address of its session, unless the
session leaves this to its clients or the setters skip the packet.  As long as
the session exists, an answer to the packet finds it, and goes to a client of
the same user who has opened the same session. -/
theorem answer_finds_session (setting : Setting)
    (sameText : ∀ bytes : List UInt8, bytes.length = 16 →
      setting.inetNtop bytes =
        setting.text.toStringV6 (addressOfBytes bytes))
    (ipv4 : List IPv4Address) (ipv6 : List IPv6Address)
    (pools : CanonicalPools setting.text ipv4 ipv6)
    (monotone : Monotone setting.config.clock)
    (labels later more : List ToClient.Label)
    (system between final : System)
    (reached : run (System.step setting)
      (System.start (World.start ipv4 ipv6)) labels = some system)
    (reachedLater :
      run (System.step setting) system later = some between)
    (reachedFinal : run (System.step setting) between more = some final)
    (filters : List BaseFilter) (checkSpeedLimit : MplxPtr → Nat → Bool)
    (buffer : IPPacketData) (id : ClientID) (packet sent : IPPacket)
    (parsed : parse buffer id = some packet)
    (changeable : Changeable buffer)
    (passed : runFromClient setting.text filters system.server.world.table
      between.server.world.table checkSpeedLimit packet = some sent) :
    ∃ pointer params,
      final.joins id = some (pointer, params) ∧
        ((between.mplx pointer).disableChecksumCalculation = false →
          HasSource (between.mplx pointer) sent.data ∧
            (pointer ∈ final.server.world.table.sessions →
              ∀ answer : IPPacket, Accepted answer.data →
                Answers sent.data answer.data →
                  final.natSession setting answer = some pointer ∧
                    ∀ other,
                      (nextReceiverClientId (final.mplx pointer)
                          (final.cursor pointer) answer).1 = some other →
                        ∃ back, final.joins other = some (pointer, back) ∧
                          back.request.sessionId =
                              params.request.sessionId ∧
                            back.user.username = params.user.username)) := by
  have first := reached_delivers monotone pools reached
  obtain ⟨second, kept⟩ := run_later monotone pools first reachedLater
  obtain ⟨third, keptThen⟩ := run_later monotone pools second reachedFinal
  have supplied : Supplied ipv6 between.server :=
    run_supplied_server (run_supplied_server start_supplied reached)
      reachedLater
  obtain ⟨accepted, rfl⟩ := parse_eq_some_iff.mp parsed
  obtain ⟨pointer, found, rfl⟩ := runFromClient_eq_some passed
  obtain ⟨params, joined⟩ := first.sound.recorded.clients id pointer found
  have joinedThen := keptThen.joins id _ (kept.joins id _ joined)
  have made := (first.sound.recorded.entered id pointer params joined).2.1
  have madeThen := Nat.lt_of_lt_of_le made kept.nextMplx
  refine ⟨pointer, params, joinedThen, fun rewrites => ?_⟩
  have source :
      HasSource (between.mplx pointer)
        (changeIPAddressToFakeIP setting.text (between.mplx pointer)
          ⟨buffer, id⟩).data :=
    changeIPAddressToFakeIP_source accepted changeable rewrites
      (pools.ipv6Printed _ (supplied.fromPool.made pointer madeThen))
  refine ⟨source, fun session answer acceptedAnswer answers => ?_⟩
  have same := keptThen.session pointer madeThen
  have sourceThen :
      HasSource (final.mplx pointer)
        (changeIPAddressToFakeIP setting.text (between.mplx pointer)
          ⟨buffer, id⟩).data := by
    unfold HasSource at source ⊢
    rw [same.fakeClientIpv4, same.fakeClientIpv6]
    exact source
  exact
    ⟨natSession_of_source third.sound.table.addresses pools sameText session
      sourceThen acceptedAnswer answers,
      fun other => receiver_of_session third.sound.recorded joinedThen⟩

/-- The first packet of the only client, and an answer to it. -/
theorem answer_finds_session_first :
    ∃ system sent,
      run (System.step plainSetting) (System.start onePool)
          ((connects false).map .server) = some system ∧
        passedOn system.server 0x45 64 = some sent ∧
        HasSource (system.mplx 0) sent.data ∧
        system.natSession plainSetting ⟨answerPacket, 0⟩ = some 0 := by
  have taken : (run (System.step plainSetting) (System.start onePool)
      ((connects false).map .server)).map (fun system =>
        ((passedOn system.server 0x45 64).map fun sent =>
            decide (Answers sent.data answerPacket),
          (system.joins 1).map Prod.fst,
          (system.mplx 0).disableChecksumCalculation,
          decide (0 ∈ system.server.world.table.sessions))) =
      some (some true, some 0, false, true) := by
    decide +kernel
  obtain ⟨system, reached, found⟩ := Option.map_eq_some_iff.mp taken
  simp only [Prod.mk.injEq] at found
  obtain ⟨passes, joins, rewrites, session⟩ := found
  obtain ⟨sent, passed, answers⟩ := Option.map_eq_some_iff.mp passes
  obtain ⟨joined, here, first⟩ := Option.map_eq_some_iff.mp joins
  obtain ⟨pointer, params, known, finds⟩ :=
    answer_finds_session plainSetting (fun _ _ => rfl) _ _
      onePool_canonical oneUser_monotone ((connects false).map .server) []
      [] system system system reached rfl rfl [] (fun _ _ => true)
      (forged 0x45 64) 1 ⟨forged 0x45 64, 1⟩ sent rfl
      (fun _ => ⟨by decide, by decide⟩) passed
  obtain rfl := Option.some.inj (here.symm.trans known)
  obtain rfl : pointer = 0 := first
  obtain ⟨source, leadsBack⟩ := finds rewrites
  obtain ⟨back, -⟩ :=
    leadsBack (decide_eq_true_iff.mp session) ⟨answerPacket, 0⟩
      (by decide) (decide_eq_true_iff.mp answers)
  exact ⟨system, sent, reached, passed, source, back⟩

end Fptn.Vpn.AnswerPath
