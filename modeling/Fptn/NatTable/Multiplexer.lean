import Fptn.Network.IPAddress
import Mathlib.Data.Int.ConditionallyCompleteOrder
import Mathlib.Data.List.Nodup

/-!
# Connection multiplexers

`ClientConnection` and `ConnectionMultiplexer`.  A multiplexer groups the
physical connections of one logical session in two buckets, by the role each
connection currently has.  Roles depend on a steady clock, which is read anew
for every question; the readings are a parameter, indexed by a tick which
advances with each of them.

For the table only the set of connected client ids matters.  Each operation
has one lemma which says what it does to that set.
-/

namespace Fptn.NatTable.Multiplexer

open Fptn.Network.IPAddress

abbrev ClientID := UInt64

/-! ## Connections -/

/-- `ConnectParams::Request`; durations are milliseconds. -/
structure Request where
  sessionId : String
  sendDurationMs : UInt64
  ttlMs : UInt64
  clientTunVpnIpv4 : IPv4Address
  clientTunVpnIpv6 : IPv6Address

structure User where
  username : String

structure ConnectParams where
  clientId : ClientID
  request : Request
  user : User

/-- A connection and the clock reading at its creation, in nanoseconds. -/
structure ClientConnection where
  params : ConnectParams
  acceptedAt : Int

namespace ClientConnection

variable (connection : ClientConnection)

def clientId : ClientID := connection.params.clientId

def isBidirectional : Bool :=
  connection.params.request.sendDurationMs == 0 &&
    connection.params.request.ttlMs == 0

/-- `accepted_at_ + std::chrono::milliseconds(duration)`.  The duration becomes
signed, and then nanoseconds; what does not fit wraps. -/
def acceptedAtPlus (duration : UInt64) : Int :=
  (Int64.ofInt connection.acceptedAt + duration.toInt64 * 1000000).toInt

def sendUntil : Int :=
  connection.acceptedAtPlus connection.params.request.sendDurationMs

def isSending (now : Int) : Bool :=
  connection.isBidirectional || decide (now < connection.sendUntil)

def isReceiving (now : Int) : Bool :=
  connection.isBidirectional || decide (connection.sendUntil ≤ now)

def isExpired (now : Int) : Bool :=
  connection.params.request.ttlMs != 0 &&
    decide
      (connection.acceptedAtPlus connection.params.request.ttlMs ≤ now)

/-- A connection which is not sending is receiving at any later reading. -/
theorem isReceiving_of_not_isSending {earlier later : Int}
    (ordered : earlier ≤ later)
    (notSending : connection.isSending earlier = false) :
    connection.isReceiving later = true := by
  simp only [isSending, Bool.or_eq_false_iff, decide_eq_false_iff_not]
    at notSending
  simp only [isReceiving, Bool.or_eq_true, decide_eq_true_eq]
  omega

end ClientConnection

/-! ## Buckets -/

/-- The client ids of a bucket. -/
def ids (connections : List ClientConnection) : List ClientID :=
  connections.map ClientConnection.clientId

def contains (connections : List ClientConnection) (id : ClientID) :
    Bool :=
  connections.any fun connection => connection.clientId == id

/-- Remove the first connection with the given id. -/
def remove (connections : List ClientConnection) (id : ClientID) :
    List ClientConnection :=
  connections.eraseP fun connection => connection.clientId == id

def findByClientId (connections : List ClientConnection) (id : ClientID) :
    Option ClientConnection :=
  connections.find? fun connection => connection.clientId == id

structure Buckets where
  sending : List ClientConnection
  receiving : List ClientConnection

/-- Add a connection to each bucket its role qualifies it for. -/
def placeByRole (buckets : Buckets) (connection : ClientConnection)
    (sendingNow receivingNow : Int) : Buckets where
  sending :=
    if connection.isSending sendingNow then
      buckets.sending ++ [connection]
    else
      buckets.sending
  receiving :=
    if connection.isReceiving receivingNow then
      buckets.receiving ++ [connection]
    else
      buckets.receiving

@[simp]
theorem contains_iff {connections : List ClientConnection}
    {id : ClientID} :
    contains connections id = true ↔ id ∈ ids connections := by
  simp [contains, ids]

@[simp]
theorem ids_append (left right : List ClientConnection) :
    ids (left ++ right) = ids left ++ ids right :=
  List.map_append

/-- A new id can be appended to a bucket. -/
theorem nodup_ids_concat {connections : List ClientConnection}
    {connection : ClientConnection}
    (nodup : (ids connections).Nodup)
    (absent : connection.clientId ∉ ids connections) :
    (ids (connections ++ [connection])).Nodup := by
  rw [ids_append]
  refine List.nodup_append.mpr ⟨nodup, List.nodup_singleton _, ?_⟩
  rintro id member other single rfl
  rw [List.mem_singleton.mp single] at member
  exact absent member

theorem mem_ids_remove {connections : List ClientConnection}
    (nodup : (ids connections).Nodup) {id other : ClientID} :
    other ∈ ids (remove connections id) ↔
      other ≠ id ∧ other ∈ ids connections := by
  induction connections with
  | nil => simp [remove, ids]
  | cons connection rest ih =>
      have tail := ih (List.nodup_cons.mp nodup).2
      have notLater := (List.nodup_cons.mp nodup).1
      by_cases same : connection.clientId = id
      · have removed : remove (connection :: rest) id = rest := by
          simp [remove, same]
        rw [removed, ids, ids, List.map_cons, List.mem_cons]
        constructor
        · intro member
          refine ⟨?_, Or.inr member⟩
          rintro rfl
          exact notLater (same ▸ member)
        · rintro ⟨different, here | later⟩
          · exact absurd (here.trans same) different
          · exact later
      · have kept :
            remove (connection :: rest) id =
              connection :: remove rest id := by
          simp [remove, same]
        rw [kept, ids, ids, List.map_cons, List.map_cons,
          List.mem_cons, List.mem_cons]
        constructor
        · rintro (here | later)
          · exact ⟨fun equal => same (here.symm.trans equal), Or.inl here⟩
          · exact ⟨(tail.mp later).1, Or.inr (tail.mp later).2⟩
        · rintro ⟨different, here | later⟩
          · exact Or.inl here
          · exact Or.inr (tail.mpr ⟨different, later⟩)

theorem nodup_ids_remove {connections : List ClientConnection}
    (nodup : (ids connections).Nodup) (id : ClientID) :
    (ids (remove connections id)).Nodup :=
  nodup.sublist (List.eraseP_sublist.map _)

namespace Buckets

/-- Some bucket holds a connection with this id. -/
def Connected (buckets : Buckets) (id : ClientID) : Prop :=
  id ∈ ids buckets.sending ∨ id ∈ ids buckets.receiving

/-- No bucket holds two connections with one id. -/
structure WellFormed (buckets : Buckets) : Prop where
  sending : (ids buckets.sending).Nodup
  receiving : (ids buckets.receiving).Nodup

variable {buckets : Buckets} {connection : ClientConnection}

/-- A connection always qualifies for one of the buckets. -/
theorem placeByRole_connected {sendingNow receivingNow : Int}
    (ordered : sendingNow ≤ receivingNow) (id : ClientID) :
    (placeByRole buckets connection sendingNow receivingNow).Connected
        id ↔
      buckets.Connected id ∨ id = connection.clientId := by
  unfold Connected placeByRole
  by_cases sending : connection.isSending sendingNow = true
  · by_cases receiving : connection.isReceiving receivingNow = true
    · simp only [sending, receiving, if_true, ids_append, List.mem_append]
      simp only [ids, List.map_cons, List.map_nil, List.mem_singleton]
      tauto
    · simp only [sending, receiving, if_true, ids_append, List.mem_append]
      simp only [ids, List.map_cons, List.map_nil, List.mem_singleton]
      tauto
  · have receiving :=
      connection.isReceiving_of_not_isSending ordered
        (Bool.eq_false_iff.mpr sending)
    simp only [sending, receiving, if_true, ids_append, List.mem_append]
    simp only [ids, List.map_cons, List.map_nil, List.mem_singleton]
    tauto

theorem placeByRole_wellFormed {sendingNow receivingNow : Int}
    (wellFormed : buckets.WellFormed)
    (fresh : ¬ buckets.Connected connection.clientId) :
    (placeByRole buckets connection sendingNow
      receivingNow).WellFormed := by
  unfold Connected at fresh
  push Not at fresh
  constructor
  · simp only [placeByRole]
    split
    · exact nodup_ids_concat wellFormed.sending fresh.1
    · exact wellFormed.sending
  · simp only [placeByRole]
    split
    · exact nodup_ids_concat wellFormed.receiving fresh.2
    · exact wellFormed.receiving

end Buckets

/-! ## Sorting all connections again -/

/-- Append the receiving connections which are not there already. -/
def merge : List ClientConnection → List ClientConnection →
    List ClientConnection
  | connections, [] => connections
  | connections, connection :: rest =>
      if contains connections connection.clientId then
        merge connections rest
      else
        merge (connections ++ [connection]) rest

theorem mem_ids_merge {connections rest : List ClientConnection}
    {id : ClientID} :
    id ∈ ids (merge connections rest) ↔
      id ∈ ids connections ∨ id ∈ ids rest := by
  induction rest generalizing connections with
  | nil => simp [merge, ids]
  | cons connection rest ih =>
      have head : id ∈ ids (connection :: rest) ↔
          id = connection.clientId ∨ id ∈ ids rest := List.mem_cons
      rw [merge, head]
      split
      · rename_i present
        rw [contains_iff] at present
        rw [ih]
        constructor
        · tauto
        · rintro (left | rfl | right)
          · exact Or.inl left
          · exact Or.inl present
          · exact Or.inr right
      · rw [ih, ids_append, List.mem_append]
        simp only [ids, List.map_cons, List.map_nil, List.mem_singleton]
        tauto

theorem nodup_ids_merge {connections rest : List ClientConnection}
    (nodup : (ids connections).Nodup) :
    (ids (merge connections rest)).Nodup := by
  induction rest generalizing connections with
  | nil => exact nodup
  | cons connection rest ih =>
      rw [merge]
      split
      · exact ih nodup
      · rename_i absent
        rw [contains_iff] at absent
        exact ih (nodup_ids_concat nodup absent)

/-- The buckets after sorting, the expired ids, and the clock's tick. -/
structure Resorted where
  buckets : Buckets
  expired : List ClientID
  tick : Nat

/-- The loop of `UpdateConnectionsStatus`, over all connections. -/
def resort (clock : Nat → Int) :
    List ClientConnection → Nat → Buckets → Resorted
  | [], tick, buckets => ⟨buckets, [], tick⟩
  | connection :: rest, tick, buckets =>
      if connection.isExpired (clock tick) then
        let done := resort clock rest (tick + 1) buckets
        { done with expired := connection.clientId :: done.expired }
      else
        resort clock rest (tick + 3)
          (placeByRole buckets connection (clock (tick + 1))
            (clock (tick + 2)))

/-- What sorting does to the sets of ids. -/
structure ResortSpec
    (connections : List ClientConnection) (buckets : Buckets)
    (done : Resorted) : Prop where
  wellFormed : done.buckets.WellFormed
  expired : ∀ id ∈ done.expired, id ∈ ids connections
  connected : ∀ id, done.buckets.Connected id ↔
    buckets.Connected id ∨ id ∈ ids connections ∧ id ∉ done.expired

theorem mem_ids_cons {connection : ClientConnection}
    {rest : List ClientConnection} {id : ClientID} :
    id ∈ ids (connection :: rest) ↔
      id = connection.clientId ∨ id ∈ ids rest :=
  List.mem_cons

/-- The first connection has expired. -/
theorem ResortSpec.expires {connection : ClientConnection}
    {rest : List ClientConnection} {buckets : Buckets} {done : Resorted}
    (headFresh : connection.clientId ∉ ids rest)
    (spec : ResortSpec rest buckets done) :
    ResortSpec (connection :: rest) buckets
      { done with expired := connection.clientId :: done.expired } where
  wellFormed := spec.wellFormed
  expired := by
    intro id member
    rcases List.mem_cons.mp member with rfl | later
    · exact mem_ids_cons.mpr (Or.inl rfl)
    · exact mem_ids_cons.mpr (Or.inr (spec.expired id later))
  connected := by
    intro id
    show done.buckets.Connected id ↔ _
    rw [spec.connected, mem_ids_cons, List.mem_cons]
    constructor
    · rintro (before | ⟨member, kept⟩)
      · exact Or.inl before
      · refine Or.inr ⟨Or.inr member, ?_⟩
        rintro (rfl | gone)
        · exact headFresh member
        · exact kept gone
    · tauto

/-- The first connection has been placed. -/
theorem ResortSpec.places {connection : ClientConnection}
    {rest : List ClientConnection} {buckets placed : Buckets}
    {done : Resorted} (headFresh : connection.clientId ∉ ids rest)
    (connected : ∀ id, placed.Connected id ↔
      buckets.Connected id ∨ id = connection.clientId)
    (spec : ResortSpec rest placed done) :
    ResortSpec (connection :: rest) buckets done where
  wellFormed := spec.wellFormed
  expired := fun id member =>
    mem_ids_cons.mpr (Or.inr (spec.expired id member))
  connected := by
    intro id
    rw [spec.connected, connected, mem_ids_cons]
    constructor
    · rintro ((before | rfl) | ⟨member, kept⟩)
      · exact Or.inl before
      · exact
          Or.inr
            ⟨Or.inl rfl, fun gone => headFresh (spec.expired _ gone)⟩
      · exact Or.inr ⟨Or.inr member, kept⟩
    · tauto

theorem resort_spec {clock : Nat → Int} (monotone : Monotone clock)
    {connections : List ClientConnection} {tick : Nat}
    {buckets : Buckets}
    (nodup : (ids connections).Nodup)
    (apart : ∀ id ∈ ids connections, ¬ buckets.Connected id)
    (wellFormed : buckets.WellFormed) :
    ResortSpec connections buckets
      (resort clock connections tick buckets) := by
  induction connections generalizing tick buckets with
  | nil =>
      exact {
        wellFormed := wellFormed
        expired := by simp [resort]
        connected := by simp [resort, ids] }
  | cons connection rest ih =>
      have headFresh : connection.clientId ∉ ids rest :=
        (List.nodup_cons.mp nodup).1
      have restNodup : (ids rest).Nodup := (List.nodup_cons.mp nodup).2
      have free : ¬ buckets.Connected connection.clientId :=
        apart _ (mem_ids_cons.mpr (Or.inl rfl))
      have apartRest : ∀ id ∈ ids rest, ¬ buckets.Connected id :=
        fun id member => apart id (mem_ids_cons.mpr (Or.inr member))
      rw [resort]
      split
      · exact (ih restNodup apartRest wellFormed).expires headFresh
      · have ordered : clock (tick + 1) ≤ clock (tick + 2) :=
          monotone (Nat.le_succ _)
        have placed : ∀ id,
            (placeByRole buckets connection (clock (tick + 1))
                (clock (tick + 2))).Connected id ↔
              buckets.Connected id ∨ id = connection.clientId :=
          Buckets.placeByRole_connected ordered
        refine ResortSpec.places headFresh placed (ih restNodup ?_
          (Buckets.placeByRole_wellFormed wellFormed free))
        intro id member
        rw [placed id]
        rintro (before | rfl)
        · exact apartRest id member before
        · exact headFresh member

/-! ## Multiplexers -/

structure ConnectionMultiplexer where
  username : String
  sessionId : String
  fakeClientIpv4 : IPv4Address
  fakeClientIpv6 : IPv6Address
  disableChecksumCalculation : Bool
  buckets : Buckets

/-- The value before any connection is made. -/
def ConnectionMultiplexer.unused : ConnectionMultiplexer where
  username := ""
  sessionId := ""
  fakeClientIpv4 := default
  fakeClientIpv6 := default
  disableChecksumCalculation := false
  buckets := ⟨[], []⟩

/-- The constructor, which reads the clock three times. -/
def create (params : ConnectParams)
    (fakeClientIpv4 : IPv4Address) (fakeClientIpv6 : IPv6Address)
    (clock : Nat → Int) (tick : Nat) : ConnectionMultiplexer where
  username := params.user.username
  sessionId := params.request.sessionId
  fakeClientIpv4 := fakeClientIpv4
  fakeClientIpv6 := fakeClientIpv6
  disableChecksumCalculation := false
  buckets :=
    placeByRole ⟨[], []⟩ ⟨params, clock tick⟩
      (clock (tick + 1)) (clock (tick + 2))

/-- The outcome of `UpdateConnectionsStatus`. -/
structure Updated where
  multiplexer : ConnectionMultiplexer
  expired : List ClientID
  tick : Nat

namespace ConnectionMultiplexer

variable (multiplexer : ConnectionMultiplexer)

/-- `None` when the id is connected already. -/
def addClientConnection (params : ConnectParams)
    (clock : Nat → Int) (tick : Nat) : Option ConnectionMultiplexer :=
  if contains multiplexer.buckets.sending params.clientId ||
      contains multiplexer.buckets.receiving params.clientId then
    none
  else
    some { multiplexer with
      buckets :=
        placeByRole multiplexer.buckets ⟨params, clock tick⟩
          (clock (tick + 1)) (clock (tick + 2)) }

def delConnectionByClientId (id : ClientID) : ConnectionMultiplexer :=
  { multiplexer with
    buckets := {
      sending := remove multiplexer.buckets.sending id
      receiving := remove multiplexer.buckets.receiving id } }

def empty : Bool :=
  multiplexer.buckets.sending.isEmpty &&
    multiplexer.buckets.receiving.isEmpty

def updateConnectionsStatus (clock : Nat → Int) (tick : Nat) : Updated :=
  let connections :=
    merge multiplexer.buckets.sending multiplexer.buckets.receiving
  let done := resort clock connections tick ⟨[], []⟩
  {
    multiplexer := { multiplexer with buckets := done.buckets }
    expired := done.expired
    tick := done.tick }

/-- The fields which are fixed when a multiplexer is created. -/
structure SameSession (left right : ConnectionMultiplexer) : Prop where
  username : left.username = right.username
  sessionId : left.sessionId = right.sessionId
  fakeClientIpv4 : left.fakeClientIpv4 = right.fakeClientIpv4
  fakeClientIpv6 : left.fakeClientIpv6 = right.fakeClientIpv6

theorem SameSession.refl : SameSession multiplexer multiplexer :=
  ⟨rfl, rfl, rfl, rfl⟩

theorem SameSession.trans {first second third : ConnectionMultiplexer}
    (left : SameSession first second) (right : SameSession second third) :
    SameSession first third :=
  ⟨left.username.trans right.username,
    left.sessionId.trans right.sessionId,
    left.fakeClientIpv4.trans right.fakeClientIpv4,
    left.fakeClientIpv6.trans right.fakeClientIpv6⟩

def Connected (id : ClientID) : Prop :=
  multiplexer.buckets.Connected id

def WellFormed : Prop := multiplexer.buckets.WellFormed

variable {multiplexer} {id : ClientID}

theorem empty_iff :
    multiplexer.empty = true ↔ ∀ id, ¬ multiplexer.Connected id := by
  constructor
  · intro isEmpty id connected
    simp only [empty, Bool.and_eq_true, List.isEmpty_iff] at isEmpty
    rcases connected with sending | receiving
    · rw [isEmpty.1] at sending
      simp [ids] at sending
    · rw [isEmpty.2] at receiving
      simp [ids] at receiving
  · intro nothing
    have noIds : ∀ connections : List ClientConnection,
        (∀ id, id ∉ ids connections) → connections.isEmpty = true := by
      intro connections absent
      cases connections with
      | nil => rfl
      | cons connection rest =>
          exact absurd List.mem_cons_self (absent connection.clientId)
    simp only [empty, Bool.and_eq_true]
    exact
      ⟨noIds _ fun id member => nothing id (Or.inl member),
        noIds _ fun id member => nothing id (Or.inr member)⟩

section Operations

variable {clock : Nat → Int} {tick : Nat} {params : ConnectParams}

theorem create_connected (monotone : Monotone clock)
    {fakeIpv4 : IPv4Address} {fakeIpv6 : IPv6Address} :
    (create params fakeIpv4 fakeIpv6 clock tick).Connected id ↔
      id = params.clientId := by
  have ordered : clock (tick + 1) ≤ clock (tick + 2) :=
    monotone (Nat.le_succ _)
  refine (Buckets.placeByRole_connected ordered id).trans ?_
  simp [Buckets.Connected, ids, ClientConnection.clientId]

theorem create_wellFormed
    {fakeIpv4 : IPv4Address} {fakeIpv6 : IPv6Address} :
    (create params fakeIpv4 fakeIpv6 clock tick).WellFormed := by
  refine Buckets.placeByRole_wellFormed ⟨?_, ?_⟩ ?_
  · simp [ids]
  · simp [ids]
  · simp [Buckets.Connected, ids]

/-- Adding a connection succeeds for every id which is not connected. -/
theorem addClientConnection_spec (monotone : Monotone clock)
    (wellFormed : multiplexer.WellFormed)
    (fresh : ¬ multiplexer.Connected params.clientId) :
    ∃ added,
      multiplexer.addClientConnection params clock tick = some added ∧
      SameSession added multiplexer ∧ added.WellFormed ∧
      ∀ id, added.Connected id ↔
        multiplexer.Connected id ∨ id = params.clientId := by
  have absent :
      ¬ (contains multiplexer.buckets.sending params.clientId ||
        contains multiplexer.buckets.receiving params.clientId) =
          true := by
    rw [Bool.or_eq_true, contains_iff, contains_iff]
    exact fresh
  have ordered : clock (tick + 1) ≤ clock (tick + 2) :=
    monotone (Nat.le_succ _)
  rw [addClientConnection, if_neg absent]
  exact
    ⟨_, rfl, ⟨rfl, rfl, rfl, rfl⟩,
      Buckets.placeByRole_wellFormed wellFormed fresh,
      Buckets.placeByRole_connected ordered⟩

theorem delConnectionByClientId_connected
    (wellFormed : multiplexer.WellFormed) {other : ClientID} :
    (multiplexer.delConnectionByClientId id).Connected other ↔
      multiplexer.Connected other ∧ other ≠ id := by
  change
    other ∈ ids (remove multiplexer.buckets.sending id) ∨
        other ∈ ids (remove multiplexer.buckets.receiving id) ↔ _
  rw [mem_ids_remove wellFormed.sending,
    mem_ids_remove wellFormed.receiving]
  unfold Connected Buckets.Connected
  tauto

theorem delConnectionByClientId_wellFormed
    (wellFormed : multiplexer.WellFormed) :
    (multiplexer.delConnectionByClientId id).WellFormed :=
  ⟨nodup_ids_remove wellFormed.sending id,
    nodup_ids_remove wellFormed.receiving id⟩

/-- What updating does to a multiplexer. -/
structure UpdateSpec (before : ConnectionMultiplexer)
    (updated : Updated) : Prop where
  session : SameSession updated.multiplexer before
  wellFormed : updated.multiplexer.WellFormed
  expired : ∀ id ∈ updated.expired, before.Connected id
  connected : ∀ id, updated.multiplexer.Connected id ↔
    before.Connected id ∧ id ∉ updated.expired

theorem updateConnectionsStatus_spec (monotone : Monotone clock)
    (wellFormed : multiplexer.WellFormed) :
    UpdateSpec multiplexer
      (multiplexer.updateConnectionsStatus clock tick) := by
  have merged : ∀ id,
      id ∈ ids
          (merge multiplexer.buckets.sending
            multiplexer.buckets.receiving) ↔
        multiplexer.Connected id := fun id => mem_ids_merge
  have noBuckets : ∀ id, ¬ (Buckets.mk [] []).Connected id := by
    simp [Buckets.Connected, ids]
  have spec :
      ResortSpec
        (merge multiplexer.buckets.sending multiplexer.buckets.receiving)
        ⟨[], []⟩
        (resort clock
          (merge multiplexer.buckets.sending
            multiplexer.buckets.receiving) tick ⟨[], []⟩) :=
    resort_spec monotone (nodup_ids_merge wellFormed.sending)
      (fun id _ => noBuckets id) ⟨by simp [ids], by simp [ids]⟩
  constructor
  · exact ⟨rfl, rfl, rfl, rfl⟩
  · exact spec.wellFormed
  · exact fun id member => (merged id).mp (spec.expired id member)
  · intro id
    refine (spec.connected id).trans ?_
    rw [merged]
    have nothing := noBuckets id
    exact or_iff_right nothing

end Operations

end ConnectionMultiplexer

end Fptn.NatTable.Multiplexer
