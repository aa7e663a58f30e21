import Fptn.Connection.PoolInvariant
import Fptn.Connection.PoolSpread
import Mathlib.Data.Fintype.EquivFin

/-!
# Sending through a pool

When a strategy is running and some pooled client is started, a packet is
expected to go to a started client.  `ParallelTunnels` scans for one.  Its
index is added up as `std::size_t`; where the sum passes the range of that, the
scan leaves out a connection, unless their number divides the range.
`BrowserMimicry` draws a connection of the preferred role without looking at
its client, so that all pooled connections of this role have to be alive.
-/

namespace Fptn.Connection.PoolSend

open Fptn.PartialRun
open Fptn.Connection.PoolStrategies
open Fptn.Connection.PoolInvariant
open Fptn.Connection.PoolSpread (opensConnection)
open Fptn.Connection.TunnelLifetimes (Parameters dualTunnel)

/-! ## ParallelTunnels -/

namespace ParallelTunnels

open PoolStrategies.ParallelTunnels

variable {sizeRange : Nat} {connections : List Channel}

/-- Whether the client at an index is started. -/
def StartedAt (connections : List Channel) (index : Nat) : Prop :=
  connections[index]?.any (·.client.isStarted) = true

/-- The packet goes to one started client, if there is one. -/
def Serves (sizeRange : Nat) (tunnels : ParallelTunnels)
    (packet : PacketKind) : Prop :=
  tunnels.running = true →
    (∃ channel ∈ tunnels.connections, channel.client.isStarted = true) →
      ∃ index, (send sizeRange tunnels packet).1 = some index ∧
        StartedAt tunnels.connections index

/-- This is so whichever of the pooled clients are started. -/
def ServesAny (sizeRange : Nat) (tunnels : ParallelTunnels)
    (packet : PacketKind) : Prop :=
  ∀ connections : List Channel,
    connections.length = tunnels.connections.length →
      Serves sizeRange { tunnels with connections := connections } packet

/-- The indices of the scan stay in the range of `std::size_t`, or it does not
matter that they do not. -/
def ScanReaches (sizeRange : Nat) (tunnels : ParallelTunnels)
    (packet : PacketKind) : Prop :=
  tunnels.running = true → tunnels.connections ≠ [] →
    tunnels.connections.length ∣ sizeRange ∨
      tunnels.startOf packet + tunnels.connections.length ≤ sizeRange

instance (tunnels : ParallelTunnels) (packet : PacketKind) :
    Decidable (ScanReaches sizeRange tunnels packet) :=
  inferInstanceAs (Decidable (_ → _ → _))

theorem startedAt_of_mem {channel : Channel}
    (member : channel ∈ connections)
    (started : channel.client.isStarted = true) :
    ∃ index < connections.length, StartedAt connections index := by
  obtain ⟨index, inside, found⟩ := List.mem_iff_getElem.mp member
  refine ⟨index, inside, ?_⟩
  rw [StartedAt, List.getElem?_eq_getElem inside, found]
  exact started

theorem exists_of_startedAt {index : Nat}
    (started : StartedAt connections index) :
    ∃ channel ∈ connections, channel.client.isStarted = true := by
  obtain ⟨channel, found, isStarted⟩ := (Option.any_eq_true _ _).mp started
  exact ⟨channel, List.mem_of_getElem? found, isStarted⟩

/-- A scan which comes across a started client picks a started client. -/
theorem scan_of_startedAt {start i rounds j : Nat} (from_i : i ≤ j)
    (below : j < i + rounds)
    (started : StartedAt connections
      (slot sizeRange start connections.length j)) :
    ∃ index, scan sizeRange connections start i rounds = some index ∧
      StartedAt connections index := by
  induction rounds generalizing i with
  | zero => exact absurd below (by omega)
  | succ rounds ih =>
      by_cases here : StartedAt connections
          (slot sizeRange start connections.length i)
      · exact ⟨_, if_pos here, here⟩
      · have later : i + 1 ≤ j := by
          refine Nat.lt_of_le_of_ne from_i ?_
          rintro rfl
          exact here started
        obtain ⟨index, found, at_index⟩ := ih later (by omega)
        exact ⟨index, (if_neg here).trans found, at_index⟩

/-- What a scan picks is a client it has come across. -/
theorem exists_of_scan {start i rounds index : Nat}
    (found : scan sizeRange connections start i rounds = some index) :
    ∃ j, i ≤ j ∧ j < i + rounds ∧
      StartedAt connections
        (slot sizeRange start connections.length j) := by
  induction rounds generalizing i with
  | zero => cases found
  | succ rounds ih =>
      by_cases here : StartedAt connections
          (slot sizeRange start connections.length i)
      · exact ⟨i, Nat.le_refl i, by omega, here⟩
      · have later : scan sizeRange connections start (i + 1) rounds =
            some index := (if_neg here).symm.trans found
        obtain ⟨j, above, below, started⟩ := ih later
        exact ⟨j, by omega, by omega, started⟩

/-- Counting on from any start, each remainder comes up within one turn. -/
theorem exists_offset {start count index : Nat} (inside : index < count) :
    ∃ i < count, (start + i) % count = index := by
  have split := Nat.div_add_mod start count
  have small := Nat.mod_lt start (Nat.zero_lt_of_lt inside)
  by_cases ahead : start % count ≤ index
  · refine ⟨index - start % count, by omega, ?_⟩
    have position : start + (index - start % count) =
        count * (start / count) + index := by omega
    rw [position, Nat.mul_add_mod, Nat.mod_eq_of_lt inside]
  · refine ⟨index + count - start % count, by omega, ?_⟩
    have position : start + (index + count - start % count) =
        count * (start / count + 1) + index := by
      rw [Nat.mul_add]
      omega
    rw [position, Nat.mul_add_mod, Nat.mod_eq_of_lt inside]

/-! ### The indices of a scan -/

section Slots

variable {start count index : Nat}

/-- A scan without overflow comes across every client, and so does one which
starts again at a multiple of their number. -/
theorem exists_slot
    (reaches : count ∣ sizeRange ∨ start + count ≤ sizeRange)
    (inside : index < count) :
    ∃ i < count, slot sizeRange start count i = index := by
  obtain ⟨i, below, here⟩ := @exists_offset start _ _ inside
  refine ⟨i, below, ?_⟩
  rcases reaches with divides | noWrap
  · rw [slot, Nat.mod_mod_of_dvd _ divides, here]
  · have small : start + i < sizeRange := by omega
    rw [slot, Nat.mod_eq_of_lt small, here]

/-- Otherwise two rounds come to the same client. -/
theorem slots_meet (below : start < sizeRange) (fits : count ≤ sizeRange)
    (wraps : sizeRange < start + count) (odd : ¬count ∣ sizeRange) :
    ∃ i j, i < j ∧ j < count ∧
      slot sizeRange start count i = slot sizeRange start count j := by
  have positive : 0 < sizeRange % count :=
    Nat.pos_of_ne_zero fun whole => odd (Nat.dvd_of_mod_eq_zero whole)
  have small : sizeRange % count < count := Nat.mod_lt _ (by omega)
  have split := Nat.div_add_mod sizeRange count
  by_cases near : sizeRange - start < sizeRange % count
  · -- the first round, and as many later as the range has too many
    have behind : start = count * (sizeRange / count) +
        (start + sizeRange % count - sizeRange) := by omega
    refine ⟨0, sizeRange % count, positive, small, ?_⟩
    have wrapped : (start + sizeRange % count) % sizeRange =
        start + sizeRange % count - sizeRange := by
      rw [Nat.mod_eq_sub_mod (by omega), Nat.mod_eq_of_lt (by omega)]
    rw [slot, slot, Nat.add_zero, Nat.mod_eq_of_lt below, wrapped]
    conv_lhs => rw [behind]
    rw [Nat.mul_add_mod]
  · -- the round at the last multiple, and the one at the range itself
    refine ⟨sizeRange - start - sizeRange % count, sizeRange - start,
      by omega, by omega, ?_⟩
    have first : start + (sizeRange - start - sizeRange % count) =
        count * (sizeRange / count) := by omega
    have second : start + (sizeRange - start) = sizeRange := by omega
    have less : count * (sizeRange / count) < sizeRange := by omega
    rw [slot, slot, first, second, Nat.mod_self, Nat.mod_eq_of_lt less,
      Nat.mul_mod_right, Nat.zero_mod]

/-- So they leave out another one. -/
theorem exists_missed (below : start < sizeRange) (some_ : 0 < count)
    (wraps : sizeRange < start + count) (odd : ¬count ∣ sizeRange) :
    ∃ index < count, ∀ i < count,
      slot sizeRange start count i ≠ index := by
  by_cases fits : count ≤ sizeRange
  · let visit (i : Fin count) : Fin count :=
      ⟨slot sizeRange start count i, Nat.mod_lt _ some_⟩
    obtain ⟨i, j, before, inside, same⟩ :=
      slots_meet below fits wraps odd
    have notInjective : ¬Function.Injective visit := by
      intro injective
      have equal := congrArg Fin.val
        (@injective ⟨i, before.trans inside⟩ ⟨j, inside⟩ (Fin.ext same))
      exact Nat.ne_of_lt before equal
    have notSurjective : ¬Function.Surjective visit :=
      mt Finite.injective_iff_surjective.mpr notInjective
    obtain ⟨index, missed⟩ := not_forall.mp notSurjective
    refine ⟨index, index.isLt, fun i inside there => missed ?_⟩
    exact ⟨⟨i, inside⟩, Fin.ext there⟩
  · refine ⟨count - 1, by omega, fun i _ there => ?_⟩
    have small : slot sizeRange start count i ≤
        (start + i) % sizeRange := Nat.mod_le _ _
    have lower := Nat.mod_lt (start + i) (Nat.zero_lt_of_lt below)
    omega

end Slots

/-! ### The scan -/

theorem send_eq_scan {tunnels : ParallelTunnels} (packet : PacketKind)
    (running : tunnels.running = true) (nonempty : tunnels.connections ≠ []) :
    (send sizeRange tunnels packet).1 =
      scan sizeRange tunnels.connections (tunnels.startOf packet) 0
        tunnels.connections.length := by
  rw [send, if_neg (by simp [running, nonempty])]

theorem serves_of_scanReaches {tunnels : ParallelTunnels}
    {packet : PacketKind} (reaches : ScanReaches sizeRange tunnels packet) :
    Serves sizeRange tunnels packet := by
  rintro running ⟨channel, member, started⟩
  have nonempty := List.ne_nil_of_mem member
  obtain ⟨index, inside, at_index⟩ := startedAt_of_mem member started
  obtain ⟨i, below, rfl⟩ := exists_slot (reaches running nonempty) inside
  rw [send_eq_scan packet running nonempty]
  exact scan_of_startedAt (Nat.zero_le i) (by omega) at_index

/-- A pool in which only the client at an index is started. -/
def onlyAt (index count : Nat) : List Channel :=
  (List.range count).map fun here =>
    { connectionId := 0
      closeAt := 0
      client := {
        running := here == index
        wasConnected := true
        wasStopped := false } }

theorem startedAt_onlyAt {index count other : Nat} :
    StartedAt (onlyAt index count) other ↔ other < count ∧ other = index := by
  by_cases inside : other < count
  · simp [StartedAt, onlyAt, WebsocketClient.isStarted, inside]
  · simp [StartedAt, onlyAt, inside]

/-- A client which the scan leaves out may be the only one which is
started. -/
theorem servesAny_iff {tunnels : ParallelTunnels} {packet : PacketKind}
    (below : tunnels.startOf packet < sizeRange) :
    ServesAny sizeRange tunnels packet ↔
      ScanReaches sizeRange tunnels packet := by
  constructor
  · intro serves running nonempty
    by_contra fails
    obtain ⟨odd, wraps⟩ := not_or.mp fails
    obtain ⟨index, inside, missed⟩ :=
      exists_missed below (List.length_pos_iff.mpr nonempty)
        (Nat.lt_of_not_le wraps) odd
    have length : (onlyAt index tunnels.connections.length).length =
        tunnels.connections.length := by simp [onlyAt]
    have here : StartedAt (onlyAt index tunnels.connections.length)
        index := startedAt_onlyAt.mpr ⟨inside, rfl⟩
    obtain ⟨picked, found, -⟩ :=
      serves _ length running (exists_of_startedAt here)
    have same :=
      @send_eq_scan sizeRange
        { tunnels with
          connections := onlyAt index tunnels.connections.length }
        packet running (by simpa [onlyAt] using nonempty)
    obtain ⟨i, -, inRange, at_i⟩ := exists_of_scan (same.symm.trans found)
    rw [length, Nat.zero_add] at inRange
    rw [length] at at_i
    exact missed i inRange (startedAt_onlyAt.mp at_i).2
  · intro reaches connections length
    refine serves_of_scanReaches fun running nonempty => ?_
    rw [length]
    refine reaches running fun empty => nonempty ?_
    exact List.length_eq_zero_iff.mp (length.trans (by rw [empty]; rfl))

end ParallelTunnels

/-! ### Sending from a pool -/

/-- The pool of `ParallelTunnels` with the cursor of its `Send`. -/
structure SendingTunnels where
  pool : TunnelPool.ParallelTunnels
  roundRobinCursor : Nat

namespace SendingTunnels

def create : SendingTunnels where
  pool := .create
  roundRobinCursor := 0

/-- What `Send` works on. -/
def tunnels (sending : SendingTunnels) : ParallelTunnels where
  running := sending.pool.running
  roundRobinCursor := sending.roundRobinCursor
  connections := sending.pool.connections.map sending.pool.channel

inductive Label where
  | pool (label : TunnelPool.ParallelTunnels.Label)
  | send (packet : PacketKind)

/-- `Send` shares the mutex, which a `Stop` at work does not leave to it. -/
def step (parameters : Parameters) (sizeRange : Nat)
    (sending : SendingTunnels) : Label → Option SendingTunnels
  | .pool label =>
      (TunnelPool.ParallelTunnels.step parameters sending.pool label).map
        fun pool => { sending with pool := pool }
  | .send packet =>
      if sending.pool.stopping.isSome then
        none
      else
        some {
          sending with
          roundRobinCursor :=
            (PoolStrategies.ParallelTunnels.send sizeRange sending.tunnels
              packet).2.roundRobinCursor }

variable {parameters : Parameters} {sizeRange : Nat}
  {sending next : SendingTunnels} {labels : List Label}

theorem step_cursor {label : Label} (positive : 0 < sizeRange)
    (below : sending.roundRobinCursor < sizeRange)
    (taken : step parameters sizeRange sending label = some next) :
    next.roundRobinCursor < sizeRange := by
  cases label with
  | pool label =>
      obtain ⟨pool, -, rfl⟩ := Option.map_eq_some_iff.mp taken
      exact below
  | send packet =>
      simp only [step] at taken
      split at taken
      · cases taken
      · cases taken
        simp only [PoolStrategies.ParallelTunnels.send]
        split
        · exact below
        · cases packet with
          | tcp | udp => exact below
          | other => exact Nat.mod_lt _ positive

/-- Ports and the cursor are in the range of `std::size_t`. -/
theorem startOf_lt (wide : 2 ^ 16 ≤ sizeRange)
    (reached : run (step parameters sizeRange) create labels =
      some sending)
    (packet : PacketKind) :
    sending.tunnels.startOf packet < sizeRange := by
  have positive : 0 < sizeRange := by omega
  cases packet with
  | tcp sourcePort => exact Nat.lt_of_lt_of_le sourcePort.isLt wide
  | udp sourcePort => exact Nat.lt_of_lt_of_le sourcePort.isLt wide
  | other =>
      exact
        run_invariant
          (fun _ _ _ below taken => step_cursor positive below taken)
          positive reached

end SendingTunnels

/-! ## BrowserMimicry -/

namespace BrowserMimicry

open PoolStrategies.BrowserMimicry

/-- Every packet goes to one started client, if there is one, whatever index
is drawn. -/
def ServesLive (pool : BrowserMimicry) : Prop :=
  pool.running = true →
    (∃ connection ∈ pool.allConnections,
      pool.isStarted connection = true) →
      ∀ index, (pool.sendPool = [] ∨ index < pool.sendPool.length) →
        ∃ connection, pool.send index = some connection ∧
          pool.isStarted connection = true

/-- The role of the connections which take packets. -/
def sendingRole (pool : BrowserMimicry) : ConnectionStatus :=
  if ∃ connection ∈ pool.allConnections,
      pool.statusOf connection = .sending then
    .sending
  else
    .receiving

/-- Some pooled connection has this role, and the clients of all of them are
started. -/
def RoleLives (pool : BrowserMimicry) : Prop :=
  pool.running = true →
    (∃ connection ∈ pool.allConnections,
      pool.isStarted connection = true) →
      (∃ connection ∈ pool.allConnections,
          pool.statusOf connection = sendingRole pool) ∧
        ∀ connection ∈ pool.allConnections,
          pool.statusOf connection = sendingRole pool →
            pool.isStarted connection = true

instance (pool : BrowserMimicry) : Decidable (RoleLives pool) :=
  inferInstanceAs (Decidable (_ → _ → _))

theorem send_of_running {pool : BrowserMimicry}
    (running : pool.running = true) (index : Nat) :
    pool.send index = pool.sendPool[index]? :=
  if_pos running

/-- The list from which `Send` draws holds the connections of this role. -/
theorem mem_sendPool {pool : BrowserMimicry} (mirrors : Mirrors pool)
    {connection : ContextPtr} :
    connection ∈ pool.sendPool ↔
      connection ∈ pool.allConnections ∧
        pool.statusOf connection = sendingRole pool := by
  rw [sendPool, sendingRole]
  by_cases sends : ∃ other ∈ pool.allConnections,
      pool.statusOf other = .sending
  · obtain ⟨other, pooled, isSending⟩ := sends
    have listed := (mirrors.sendingExactly other pooled).mpr isSending
    rw [if_pos (List.ne_nil_of_mem listed),
      if_pos ⟨other, pooled, isSending⟩]
    constructor
    · intro member
      have inside := mirrors.sendingPooled member
      exact ⟨inside, (mirrors.sendingExactly _ inside).mp member⟩
    · rintro ⟨inside, status⟩
      exact (mirrors.sendingExactly _ inside).mpr status
  · have empty : ¬pool.sendingDataConnections ≠ [] := by
      intro nonempty
      obtain ⟨other, listed⟩ := List.exists_mem_of_ne_nil _ nonempty
      have inside := mirrors.sendingPooled listed
      exact
        sends ⟨other, inside, (mirrors.sendingExactly _ inside).mp listed⟩
    rw [if_neg empty, if_neg sends]
    constructor
    · intro member
      have inside := mirrors.gettingPooled member
      exact ⟨inside, (mirrors.gettingExactly _ inside).mp member⟩
    · rintro ⟨inside, status⟩
      exact (mirrors.gettingExactly _ inside).mpr status

/-- As long as the lists mirror the roles, each client of the role may be
drawn, and no other one. -/
theorem servesLive_iff_roleLives {pool : BrowserMimicry}
    (mirrors : Mirrors pool) : ServesLive pool ↔ RoleLives pool := by
  refine forall_congr' fun running => forall_congr' fun _ => ?_
  simp only [send_of_running running]
  constructor
  · intro serves
    constructor
    · have nonempty : pool.sendPool ≠ [] := by
        intro empty
        obtain ⟨connection, found, -⟩ := serves 0 (Or.inl empty)
        rw [empty] at found
        cases found
      obtain ⟨connection, member⟩ := List.exists_mem_of_ne_nil _ nonempty
      exact ⟨connection, (mem_sendPool mirrors).mp member⟩
    · intro connection pooled status
      have member := (mem_sendPool mirrors).mpr ⟨pooled, status⟩
      obtain ⟨index, inside, here⟩ := List.mem_iff_getElem.mp member
      obtain ⟨picked, found, started⟩ := serves index (Or.inr inside)
      rw [List.getElem?_eq_getElem inside, here] at found
      obtain rfl := Option.some.inj found
      exact started
  · rintro ⟨⟨connection, takes⟩, allStarted⟩ index drawn
    have nonempty : pool.sendPool ≠ [] :=
      List.ne_nil_of_mem ((mem_sendPool mirrors).mpr takes)
    have inside : index < pool.sendPool.length :=
      drawn.resolve_left nonempty
    obtain ⟨pooled, status⟩ :=
      (mem_sendPool mirrors).mp (List.getElem_mem inside)
    exact
      ⟨pool.sendPool[index], List.getElem?_eq_getElem inside,
        allStarted _ pooled status⟩

end BrowserMimicry

/-- In each state which a pool comes to, `ParallelTunnels` serves a packet
whichever clients are started exactly if its scan reaches all of them.  In each
state which a pool comes to by harmless sweeps, `BrowserMimicry` serves every
packet exactly if the clients of the preferred role live. -/
theorem run_servesLive_iff (parameters : Parameters) {sizeRange : Nat}
    (wide : 2 ^ 16 ≤ sizeRange) :
    (∀ labels sending,
      run (SendingTunnels.step parameters sizeRange) .create labels =
          some sending →
        ∀ packet,
          (ParallelTunnels.ServesAny sizeRange sending.tunnels packet ↔
              ParallelTunnels.ScanReaches sizeRange sending.tunnels
                packet) ∧
            (ParallelTunnels.ScanReaches sizeRange sending.tunnels packet →
              ParallelTunnels.Serves sizeRange sending.tunnels packet)) ∧
      ∀ counter labels pool,
        Along PoolStrategies.BrowserMimicry.step Harmless
            (PoolStrategies.BrowserMimicry.create counter) labels →
          run PoolStrategies.BrowserMimicry.step
              (PoolStrategies.BrowserMimicry.create counter) labels =
            some pool →
            (BrowserMimicry.ServesLive pool ↔
              BrowserMimicry.RoleLives pool) := by
  constructor
  · intro labels sending reached packet
    have below := SendingTunnels.startOf_lt wide reached packet
    exact
      ⟨ParallelTunnels.servesAny_iff below,
        ParallelTunnels.serves_of_scanReaches⟩
  · intro counter labels pool harmless reached
    have invariant :=
      run_invariant_of step_invariant (create_invariant counter) harmless
        reached
    exact BrowserMimicry.servesLive_iff_roleLives invariant.mirrors

/-- Two connections, both of them in sending mode. -/
def twoSending : List PoolStrategies.BrowserMimicry.Label :=
  .start :: connect 0 60 ++ connect 1 60 ++
    [.updateConnectionsStatus 1 fun _ => 1]

/-- A tunnel which has sent a packet, and two connections in their sending
mode. -/
theorem run_servesLive_connected :
    (∃ sending,
      run (SendingTunnels.step dualTunnel (2 ^ 32)) .create
          ((.start :: opensConnection 0 100).map .pool ++
            [.send .other]) = some sending ∧
        sending.tunnels.connections.length = 1 ∧
          ParallelTunnels.Serves (2 ^ 32) sending.tunnels .other) ∧
      ∃ pool,
        run PoolStrategies.BrowserMimicry.step
            (PoolStrategies.BrowserMimicry.create 0) twoSending =
          some pool ∧
          pool.sendPool = [0, 1] ∧ BrowserMimicry.ServesLive pool := by
  obtain ⟨tunnels, mimicry⟩ :=
    @run_servesLive_iff dualTunnel (2 ^ 32) (by decide)
  constructor
  · have taken : (run (SendingTunnels.step dualTunnel (2 ^ 32)) .create
        ((.start :: opensConnection 0 100).map .pool ++
          [.send .other])).map (fun sending =>
            (sending.tunnels.connections.length,
              decide (ParallelTunnels.ScanReaches (2 ^ 32)
                sending.tunnels .other))) = some (1, true) := by
      decide +kernel
    obtain ⟨sending, reached, found⟩ := Option.map_eq_some_iff.mp taken
    obtain ⟨one, reaches⟩ := Prod.mk.inj found
    exact
      ⟨sending, reached, one,
        (tunnels _ sending reached .other).2
          (decide_eq_true_iff.mp reaches)⟩
  · have taken : (run PoolStrategies.BrowserMimicry.step
        (PoolStrategies.BrowserMimicry.create 0) twoSending).map
          (fun pool =>
            (pool.sendPool, decide (BrowserMimicry.RoleLives pool))) =
        some ([0, 1], true) := by
      decide +kernel
    obtain ⟨pool, reached, found⟩ := Option.map_eq_some_iff.mp taken
    obtain ⟨drawn, lives⟩ := Prod.mk.inj found
    exact
      ⟨pool, reached, drawn,
        (mimicry 0 _ pool (by decide +kernel) reached).mpr
          (decide_eq_true_iff.mp lives)⟩

/-- One of two sending connections dies between two sweeps, and is drawn. -/
theorem deadClient_drawn :
    ¬ ∀ (counter : ConnectionId)
      (labels : List PoolStrategies.BrowserMimicry.Label)
      (last : PoolStrategies.BrowserMimicry),
      run PoolStrategies.BrowserMimicry.step
          (PoolStrategies.BrowserMimicry.create counter) labels =
        some last → BrowserMimicry.ServesLive last := by
  intro serves
  let labels := twoSending ++ [.clientChanges 0 startedClient.stop]
  have reaches : (run PoolStrategies.BrowserMimicry.step
      (PoolStrategies.BrowserMimicry.create 0) labels).map
        (fun pool => (pool.running, pool.allConnections, pool.sendPool)) =
      some (true, [0, 1], [0, 1]) := by
    decide +kernel
  have clients : (run PoolStrategies.BrowserMimicry.step
      (PoolStrategies.BrowserMimicry.create 0) labels).map
        (fun pool => (pool.isStarted 0, pool.isStarted 1)) =
      some (false, true) := by
    decide +kernel
  obtain ⟨last, reached, lists⟩ := Option.map_eq_some_iff.mp reaches
  rw [reached] at clients
  obtain ⟨running, lists⟩ := Prod.mk.inj lists
  obtain ⟨all, drawnFrom⟩ := Prod.mk.inj lists
  obtain ⟨stopped, started⟩ := Prod.mk.inj (Option.some.inj clients)
  have live : ∃ connection ∈ last.allConnections,
      last.isStarted connection = true := ⟨1, by rw [all]; decide, started⟩
  have drawn : 0 < last.sendPool.length := by rw [drawnFrom]; decide
  obtain ⟨connection, picked, isStarted⟩ :=
    serves 0 labels last reached running live 0 (Or.inr drawn)
  rw [BrowserMimicry.send_of_running running, drawnFrom] at picked
  obtain rfl := Option.some.inj picked
  rw [stopped] at isStarted
  cases isStarted

end Fptn.Connection.PoolSend
