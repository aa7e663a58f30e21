import Fptn.NatTable.SessionCount

/-!
# Multiplexers over time

What the steps of the NAT table do to the objects of its heap.  A multiplexer
keeps the fields with which it was created, apart from its buckets and the
flag `disable_checksum_calculation_`, and its addresses are from the pools.
This holds of dropped objects as well, which other threads may still use.
-/

namespace Fptn.NatTable.Assignment

open Fptn.UnorderedMap
open Fptn.Network.IPAddress
open Fptn.NatTable.Multiplexer
open Fptn.NatTable.SessionTable
open Fptn.NatTable.SessionCount

variable {before between after table : Table} {pointer : MplxPtr}
  {clock : Nat → Int} {tick : Nat} {params : ConnectParams}
  {id : ClientID} {ipv6 : List IPv6Address}

/-- Two states of a multiplexer between which the flag was not set. -/
structure SameObject (left right : ConnectionMultiplexer) : Prop where
  fakeClientIpv4 : left.fakeClientIpv4 = right.fakeClientIpv4
  fakeClientIpv6 : left.fakeClientIpv6 = right.fakeClientIpv6
  disableChecksumCalculation :
    left.disableChecksumCalculation = right.disableChecksumCalculation

theorem SameObject.refl {mplx : ConnectionMultiplexer} :
    SameObject mplx mplx :=
  ⟨rfl, rfl, rfl⟩

theorem SameObject.trans {first second third : ConnectionMultiplexer}
    (left : SameObject first second) (right : SameObject second third) :
    SameObject first third :=
  ⟨left.fakeClientIpv4.trans right.fakeClientIpv4,
    left.fakeClientIpv6.trans right.fakeClientIpv6,
    left.disableChecksumCalculation.trans
      right.disableChecksumCalculation⟩

theorem sameObject_update {heap : MplxPtr → ConnectionMultiplexer}
    {mplx : ConnectionMultiplexer} (same : SameObject mplx (heap pointer))
    (other : MplxPtr) :
    SameObject (Function.update heap pointer mplx other) (heap other) := by
  by_cases here : other = pointer
  · subst here
    rw [Function.update_self]
    exact same
  · rw [Function.update_of_ne here]
    exact .refl

/-- No object is made and no flag is set; addresses and entries of clients
come from the sessions there are. -/
structure KeepsObjects (before after : Table) : Prop where
  nextMplx : after.nextMplx = before.nextMplx
  heap : ∀ pointer, SameObject (after.heap pointer) (before.heap pointer)
  sessions : ∀ pointer ∈ after.sessions, pointer ∈ before.sessions
  freeIpv4 : ∀ ip ∈ after.freeIpv4, ip ∈ before.freeIpv4 ∨
    ∃ pointer ∈ before.sessions,
      ip = (before.heap pointer).fakeClientIpv4
  freeIpv6 : ∀ ip ∈ after.freeIpv6, ip ∈ before.freeIpv6 ∨
    ∃ pointer ∈ before.sessions,
      ip = (before.heap pointer).fakeClientIpv6
  clients : ∀ id pointer,
    after.clientToMplx.lookup id = some pointer →
      before.clientToMplx.lookup id = some pointer ∨
        pointer ∈ before.sessions

theorem KeepsObjects.refl : KeepsObjects table table :=
  ⟨rfl, fun _ => .refl, fun _ => id, fun _ => Or.inl, fun _ => Or.inl,
    fun _ _ => Or.inl⟩

theorem KeepsObjects.trans (first : KeepsObjects before between)
    (second : KeepsObjects between after) : KeepsObjects before after where
  nextMplx := second.nextMplx.trans first.nextMplx
  heap pointer := (second.heap pointer).trans (first.heap pointer)
  sessions pointer member :=
    first.sessions pointer (second.sessions pointer member)
  freeIpv4 ip free := by
    rcases second.freeIpv4 ip free with free | ⟨pointer, member, rfl⟩
    · exact first.freeIpv4 ip free
    · exact
        Or.inr ⟨pointer, first.sessions pointer member,
          (first.heap pointer).fakeClientIpv4⟩
  freeIpv6 ip free := by
    rcases second.freeIpv6 ip free with free | ⟨pointer, member, rfl⟩
    · exact first.freeIpv6 ip free
    · exact
        Or.inr ⟨pointer, first.sessions pointer member,
          (first.heap pointer).fakeClientIpv6⟩
  clients id pointer found := by
    rcases second.clients id pointer found with found | member
    · exact first.clients id pointer found
    · exact Or.inr (first.sessions pointer member)

/-- Only objects change, and fewer clients are known. -/
theorem keepsObjects_withHeap {heap : MplxPtr → ConnectionMultiplexer}
    {clients : Map ClientID MplxPtr}
    (same : ∀ pointer, SameObject (heap pointer) (table.heap pointer))
    (fewer : ∀ id pointer, clients.lookup id = some pointer →
      table.clientToMplx.lookup id = some pointer ∨
        pointer ∈ table.sessions) :
    KeepsObjects table
      { table with heap := heap, clientToMplx := clients } :=
  ⟨rfl, same, fun _ => id, fun _ => Or.inl, fun _ => Or.inl, fewer⟩

/-! ## Operations -/

theorem joinSession_keeps {sessionId : String}
    (found : table.sessionToMplx.lookup sessionId = some pointer) :
    KeepsObjects table
      (table.joinSession pointer params clock tick).1 := by
  simp only [Table.joinSession]
  split
  · exact .refl
  · split
    · exact .refl
    case h_2 added joined =>
      refine keepsObjects_withHeap (sameObject_update ?_) ?_
      · unfold ConnectionMultiplexer.addClientConnection at joined
        split at joined <;> cases joined
        exact ⟨rfl, rfl, rfl⟩
      · intro id other known
        rcases lookup_of_insert known with old | rfl
        · exact Or.inl old
        · exact Or.inr (mem_values.mpr ⟨sessionId, found⟩)

theorem releaseSessionIfEmpty_keeps :
    KeepsObjects table (table.releaseSessionIfEmpty pointer) := by
  unfold Table.releaseSessionIfEmpty
  simp only
  split
  · exact .refl
  · split
    · exact .refl
    case isFalse registered =>
      rw [not_not] at registered
      refine ⟨rfl, fun _ => .refl, fun other member => ?_,
        fun ip free => ?_, fun ip free => ?_, fun _ _ => Or.inl⟩
      · obtain ⟨sessionId, found⟩ := mem_values.mp member
        exact
          mem_values.mpr
            ⟨sessionId, (lookup_erase_eq_some.mp found).2⟩
      · rcases List.mem_append.mp free with old | released
        · exact Or.inl old
        · exact
            Or.inr ⟨pointer, mem_values.mpr ⟨_, registered⟩,
              List.mem_singleton.mp released⟩
      · rcases List.mem_append.mp free with old | released
        · exact Or.inl old
        · exact
            Or.inr ⟨pointer, mem_values.mpr ⟨_, registered⟩,
              List.mem_singleton.mp released⟩

theorem delConnectionByClientId_keeps :
    KeepsObjects table (table.delConnectionByClientId id).1 := by
  unfold Table.delConnectionByClientId
  split
  · exact .refl
  case h_2 pointer _ =>
    have dropped : KeepsObjects table (table.dropClient pointer id) :=
      keepsObjects_withHeap (sameObject_update ⟨rfl, rfl, rfl⟩)
        fun _ _ found => Or.inl (lookup_erase_eq_some.mp found).2
    exact dropped.trans releaseSessionIfEmpty_keeps

theorem sweepEach_sameObject {order : List MplxPtr}
    {heap : MplxPtr → ConnectionMultiplexer} (other : MplxPtr) :
    SameObject ((Table.sweepEach clock order heap tick).heap other)
      (heap other) := by
  induction order generalizing heap tick with
  | nil => exact .refl
  | cons pointer rest ih =>
      simp only [Table.sweepEach]
      refine ih.trans (sameObject_update ?_ other)
      exact ⟨rfl, rfl, rfl⟩

theorem releaseEmptied_keeps {emptied : List MplxPtr} :
    KeepsObjects table (Table.releaseEmptied emptied table) := by
  induction emptied generalizing table with
  | nil => exact .refl
  | cons pointer rest ih =>
      exact releaseSessionIfEmpty_keeps.trans ih

theorem finishSweep_keeps {sweep : Sweep} :
    KeepsObjects table (table.finishSweep sweep) := by
  have erased : KeepsObjects table (table.eraseClients sweep.expired) :=
    keepsObjects_withHeap (fun _ => .refl) fun _ _ found =>
      Or.inl (TableInvariant.lookup_foldl_erase.mp found).2
  exact erased.trans releaseEmptied_keeps

/-! ## Addresses from the pool -/

/-- The IPv6 addresses of all objects come from the pool, and only objects
which have been made are used. -/
structure FromPool (ipv6 : List IPv6Address) (table : Table) : Prop where
  free : ∀ ip ∈ table.freeIpv6, ip ∈ ipv6
  made : ∀ pointer < table.nextMplx,
    (table.heap pointer).fakeClientIpv6 ∈ ipv6
  allocated : Allocated table
  clients : ∀ id pointer,
    table.clientToMplx.lookup id = some pointer →
      pointer < table.nextMplx

theorem KeepsObjects.fromPool (keeps : KeepsObjects before after)
    (fromPool : FromPool ipv6 before) : FromPool ipv6 after where
  free ip free := by
    rcases keeps.freeIpv6 ip free with old | ⟨pointer, member, rfl⟩
    · exact fromPool.free ip old
    · exact fromPool.made pointer (fromPool.allocated pointer member)
  made pointer made := by
    rw [(keeps.heap pointer).fakeClientIpv6]
    rw [keeps.nextMplx] at made
    exact fromPool.made pointer made
  allocated pointer member := by
    rw [keeps.nextMplx]
    exact fromPool.allocated pointer (keeps.sessions pointer member)
  clients id pointer found := by
    rw [keeps.nextMplx]
    rcases keeps.clients id pointer found with old | member
    · exact fromPool.clients id pointer old
    · exact fromPool.allocated pointer member

/-- A new session is made besides those which exist. -/
theorem openSession_made {fakeIpv4 : IPv4Address} {fakeIpv6 : IPv6Address}
    (property : ConnectionMultiplexer → Prop)
    (made : ∀ pointer < table.nextMplx, property (table.heap pointer))
    (new : property (create params fakeIpv4 fakeIpv6 clock tick)) :
    ∀ pointer < (table.openSession fakeIpv4 fakeIpv6 params clock
        tick).1.nextMplx,
      property ((table.openSession fakeIpv4 fakeIpv6 params clock
        tick).1.heap pointer) := by
  intro pointer below
  by_cases here : pointer = table.nextMplx
  · subst here
    simp only [Table.openSession, Function.update_self]
    exact new
  · simp only [Table.openSession, Function.update_of_ne here]
    exact made pointer (Nat.lt_of_le_of_ne (Nat.le_of_lt_succ below) here)

theorem openSession_fromPool {fakeIpv4 : IPv4Address}
    {fakeIpv6 : IPv6Address} (fromPool : FromPool ipv6 table)
    (last : table.freeIpv6.getLast? = some fakeIpv6)
    (new : table.sessionToMplx.lookup params.request.sessionId = none) :
    FromPool ipv6
      (table.openSession fakeIpv4 fakeIpv6 params clock tick).1 where
  free ip free := fromPool.free ip (List.dropLast_subset _ free)
  made :=
    openSession_made (·.fakeClientIpv6 ∈ ipv6) fromPool.made
      (fromPool.free _ (List.mem_of_getLast? last))
  allocated pointer member := by
    have sessions :
        (table.openSession fakeIpv4 fakeIpv6 params clock
          tick).1.sessions = table.nextMplx :: table.sessions :=
      values_insert new
    rw [sessions, List.mem_cons] at member
    rcases member with rfl | old
    · exact Nat.lt_succ_self _
    · exact Nat.lt_succ_of_lt (fromPool.allocated pointer old)
  clients id pointer found := by
    rcases lookup_of_insert found with old | rfl
    · exact Nat.lt_succ_of_lt (fromPool.clients id pointer old)
    · exact Nat.lt_succ_self _

/-- The IPv4 addresses of all objects come from the pool as well. -/
structure FromPoolIpv4 (ipv4 : List IPv4Address) (table : Table) :
    Prop where
  free : ∀ ip ∈ table.freeIpv4, ip ∈ ipv4
  made : ∀ pointer < table.nextMplx,
    (table.heap pointer).fakeClientIpv4 ∈ ipv4

variable {ipv4 : List IPv4Address}

theorem KeepsObjects.fromPoolIpv4 (keeps : KeepsObjects before after)
    (allocated : Allocated before) (fromPool : FromPoolIpv4 ipv4 before) :
    FromPoolIpv4 ipv4 after where
  free ip free := by
    rcases keeps.freeIpv4 ip free with old | ⟨pointer, member, rfl⟩
    · exact fromPool.free ip old
    · exact fromPool.made pointer (allocated pointer member)
  made pointer made := by
    rw [(keeps.heap pointer).fakeClientIpv4]
    rw [keeps.nextMplx] at made
    exact fromPool.made pointer made

theorem openSession_fromPoolIpv4 {fakeIpv4 : IPv4Address}
    {fakeIpv6 : IPv6Address} (fromPool : FromPoolIpv4 ipv4 table)
    (last : table.freeIpv4.getLast? = some fakeIpv4) :
    FromPoolIpv4 ipv4
      (table.openSession fakeIpv4 fakeIpv6 params clock tick).1 where
  free ip free := fromPool.free ip (List.dropLast_subset _ free)
  made :=
    openSession_made (·.fakeClientIpv4 ∈ ipv4) fromPool.made
      (fromPool.free _ (List.mem_of_getLast? last))

/-! ## Steps -/

/-- The flag of an object was not set. -/
def Rewrites (pointer : MplxPtr) (table : Table) : Prop :=
  (table.heap pointer).disableChecksumCalculation = false

theorem KeepsObjects.rewrites (keeps : KeepsObjects before after)
    (rewrites : Rewrites pointer before) : Rewrites pointer after :=
  (keeps.heap pointer).disableChecksumCalculation.trans rewrites

variable {world next : World} {label : SessionTable.Label}

/-- What a step does to the objects: it opens a session, sets a flag, or does
neither. -/
inductive Effect (table : Table) (clock : Nat → Int) (tick : Nat) :
    SessionTable.Label → Table → Prop where
  | keeps {label : SessionTable.Label} {after : Table}
      (keeps : KeepsObjects table after) :
      Effect table clock tick label after
  | opens {params : ConnectParams} {fakeIpv4 : IPv4Address}
      {fakeIpv6 : IPv6Address}
      (lastIpv4 : table.freeIpv4.getLast? = some fakeIpv4)
      (last : table.freeIpv6.getLast? = some fakeIpv6)
      (new : table.sessionToMplx.lookup params.request.sessionId = none) :
      Effect table clock tick (.addConnection params)
        (table.openSession fakeIpv4 fakeIpv6 params clock tick).1
  | disables {pointer : MplxPtr} {value : Bool} :
      Effect table clock tick (.disableChecksumCalculation pointer value)
        (table.disableChecksumCalculation pointer value)

theorem step_effect
    (taken : SessionTable.step clock world label = some next) :
    Effect world.table clock world.tick label next.table := by
  cases label with
  | addConnection params =>
      simp only [SessionTable.step] at taken
      split at taken <;> cases taken
      simp only [Table.addConnection]
      split
      case h_1 pointer found => exact .keeps (joinSession_keeps found)
      case h_2 new =>
        split
        case h_1 fakeIpv4 fakeIpv6 lastIpv4 last =>
          exact .opens lastIpv4 last new
        case h_2 => exact .keeps .refl
  | delConnectionByClientId id =>
      cases taken
      exact .keeps delConnectionByClientId_keeps
  | disableChecksumCalculation pointer value =>
      cases taken
      exact .disables
  | beginUpdate order =>
      simp only [SessionTable.step] at taken
      split at taken <;> cases taken
      exact
        .keeps
          (keepsObjects_withHeap sweepEach_sameObject fun _ _ => Or.inl)
  | finishUpdate place =>
      simp only [SessionTable.step] at taken
      split at taken
      · cases taken
      · cases taken
        exact .keeps finishSweep_keeps

/-- The addresses of all objects stay when a flag is set. -/
theorem disables_addresses {other : MplxPtr} {value : Bool} :
    ((table.disableChecksumCalculation pointer value).heap
          other).fakeClientIpv4 =
        (table.heap other).fakeClientIpv4 ∧
      ((table.disableChecksumCalculation pointer value).heap
          other).fakeClientIpv6 =
        (table.heap other).fakeClientIpv6 := by
  by_cases here : other = pointer
  · subst here
    simp [Table.disableChecksumCalculation]
  · simp [Table.disableChecksumCalculation, here]

theorem step_fromPool (fromPool : FromPool ipv6 world.table)
    (taken : SessionTable.step clock world label = some next) :
    FromPool ipv6 next.table := by
  have effect := step_effect taken
  generalize next.table = after at effect ⊢
  cases effect with
  | keeps keeps => exact keeps.fromPool fromPool
  | opens _ last new => exact openSession_fromPool fromPool last new
  | @disables pointer value =>
      refine ⟨fromPool.free, fun other made => ?_, fromPool.allocated,
        fromPool.clients⟩
      rw [disables_addresses.2]
      exact fromPool.made other made

theorem step_fromPoolIpv4 (allocated : Allocated world.table)
    (fromPool : FromPoolIpv4 ipv4 world.table)
    (taken : SessionTable.step clock world label = some next) :
    FromPoolIpv4 ipv4 next.table := by
  have effect := step_effect taken
  generalize next.table = after at effect ⊢
  cases effect with
  | keeps keeps => exact keeps.fromPoolIpv4 allocated fromPool
  | opens last => exact openSession_fromPoolIpv4 fromPool last
  | @disables pointer value =>
      refine ⟨fromPool.free, fun other made => ?_⟩
      rw [disables_addresses.1]
      exact fromPool.made other made

theorem step_rewrites (rewrites : Rewrites pointer world.table)
    (notSet : label ≠ .disableChecksumCalculation pointer true)
    (taken : SessionTable.step clock world label = some next) :
    Rewrites pointer next.table := by
  have effect := step_effect taken
  generalize next.table = after at effect ⊢
  cases effect with
  | keeps keeps => exact keeps.rewrites rewrites
  | opens _ last new =>
      by_cases here : pointer = world.table.nextMplx
      · subst here
        simp only [Rewrites, Table.openSession, Function.update_self]
        rfl
      · simpa only [Rewrites, Table.openSession,
          Function.update_of_ne here] using rewrites
  | @disables other value =>
      by_cases here : pointer = other
      · subst here
        cases value with
        | true => exact absurd rfl notSet
        | false =>
            simp [Rewrites, Table.disableChecksumCalculation]
      · simpa only [Rewrites, Table.disableChecksumCalculation,
          Function.update_of_ne here] using rewrites

/-- Objects are never unmade. -/
theorem step_made
    (taken : SessionTable.step clock world label = some next) :
    world.table.nextMplx ≤ next.table.nextMplx := by
  have effect := step_effect taken
  generalize next.table = after at effect ⊢
  cases effect with
  | keeps keeps => exact Nat.le_of_eq keeps.nextMplx.symm
  | opens => exact Nat.le_succ _
  | disables => exact Nat.le_refl _

theorem start_fromPool (ipv4 : List IPv4Address) :
    FromPool ipv6 (World.start ipv4 ipv6).table where
  free _ free := free
  made pointer made := absurd made (Nat.not_lt_zero pointer)
  allocated pointer member := by
    simp [World.start, Table.start, Table.sessions, values] at member
  clients id pointer found := by
    simp [World.start, Table.start] at found

theorem start_fromPoolIpv4 (ipv6 : List IPv6Address) :
    FromPoolIpv4 ipv4 (World.start ipv4 ipv6).table where
  free _ free := free
  made pointer made := absurd made (Nat.not_lt_zero pointer)

end Fptn.NatTable.Assignment
