import Fptn.Connection.PoolStrategies

/-!
# The lists of the BrowserMimicry pool

The sending and the getting list mirror the status of the pooled connections.
`UpdateConnectionsStatus`, `Stop` and the push of a new connection keep this
up.  `RemoveExpiredConnections` removes the right connections from the lists
only when its sweep is harmless: after erasing a connection it reads back the
id of the one which has moved into the slot.
-/

namespace Fptn.Connection.PoolInvariant

open Fptn.KeyedList
open Fptn.PartialRun
open Fptn.Connection.PoolStrategies

/-! ## Lists which mirror a status -/

/-- The lists hold exactly the pooled connections of their status. -/
structure Mirrored (status : ContextPtr → ConnectionStatus)
    (all getting sending : List ContextPtr) : Prop where
  gettingNodup : getting.Nodup
  sendingNodup : sending.Nodup
  disjoint : ∀ connection ∈ sending, connection ∉ getting
  gettingPooled : getting ⊆ all
  sendingPooled : sending ⊆ all
  gettingExactly : ∀ connection ∈ all,
    connection ∈ getting ↔ status connection = .receiving
  sendingExactly : ∀ connection ∈ all,
    connection ∈ sending ↔ status connection = .sending

/-- The lists of a pool mirror the status of its connections. -/
def Mirrors (pool : BrowserMimicry) : Prop :=
  Mirrored pool.statusOf pool.allConnections pool.gettingDataConnections
    pool.sendingDataConnections

namespace Mirrored

variable {status other : ContextPtr → ConnectionStatus}
variable {all getting sending : List ContextPtr}

/-- A connection has one status, so that it is in one list at most. -/
theorem of_exactly
    (gettingNodup : getting.Nodup) (sendingNodup : sending.Nodup)
    (gettingPooled : getting ⊆ all) (sendingPooled : sending ⊆ all)
    (gettingExactly : ∀ connection ∈ all,
      connection ∈ getting ↔ status connection = .receiving)
    (sendingExactly : ∀ connection ∈ all,
      connection ∈ sending ↔ status connection = .sending) :
    Mirrored status all getting sending where
  gettingNodup := gettingNodup
  sendingNodup := sendingNodup
  gettingPooled := gettingPooled
  sendingPooled := sendingPooled
  gettingExactly := gettingExactly
  sendingExactly := sendingExactly
  disjoint connection inSending inGetting := by
    have pooled : connection ∈ all := sendingPooled inSending
    have isSending := (sendingExactly connection pooled).mp inSending
    have isReceiving := (gettingExactly connection pooled).mp inGetting
    rw [isSending] at isReceiving
    cases isReceiving

theorem nil : Mirrored status [] [] [] :=
  of_exactly List.nodup_nil List.nodup_nil (List.Subset.refl [])
    (List.Subset.refl []) (fun _ member => by cases member)
    (fun _ member => by cases member)

/-- Only the status of the pooled connections matters. -/
theorem congr (mirrored : Mirrored status all getting sending)
    (same : ∀ connection ∈ all, other connection = status connection) :
    Mirrored other all getting sending where
  gettingNodup := mirrored.gettingNodup
  sendingNodup := mirrored.sendingNodup
  disjoint := mirrored.disjoint
  gettingPooled := mirrored.gettingPooled
  sendingPooled := mirrored.sendingPooled
  gettingExactly connection pooled := by
    rw [same connection pooled]
    exact mirrored.gettingExactly connection pooled
  sendingExactly connection pooled := by
    rw [same connection pooled]
    exact mirrored.sendingExactly connection pooled

/-- A connection in creation may join the pool. -/
theorem push {connection : ContextPtr}
    (mirrored : Mirrored status all getting sending)
    (absent : connection ∉ all) (creating : status connection = .creating) :
    Mirrored status (all ++ [connection]) getting sending := by
  have larger : all ⊆ all ++ [connection] := List.subset_append_left _ _
  refine of_exactly mirrored.gettingNodup mirrored.sendingNodup
    (List.Subset.trans mirrored.gettingPooled larger)
    (List.Subset.trans mirrored.sendingPooled larger) ?_ ?_
  all_goals
    intro candidate member
    rw [List.mem_append, List.mem_singleton] at member
    rcases member with old | rfl
  · exact mirrored.gettingExactly candidate old
  · rw [creating]
    exact iff_of_false
      (fun inGetting => absent (mirrored.gettingPooled inGetting))
      (by simp)
  · exact mirrored.sendingExactly candidate old
  · rw [creating]
    exact iff_of_false
      (fun inSending => absent (mirrored.sendingPooled inSending))
      (by simp)

/-- Of the connections with a list of their own, the same ones leave the pool
and the lists. -/
theorem remove {keep : ContextPtr → Bool} {id : ContextPtr → ConnectionId}
    {ids : List ConnectionId}
    (mirrored : Mirrored status all getting sending)
    (distinct : Distinct id all)
    (exact : ∀ connection ∈ all,
      status connection = .receiving ∨ status connection = .sending →
        (keep connection = true ↔ id connection ∉ ids)) :
    Mirrored status (all.filter keep) (eraseKeys id ids getting)
      (eraseKeys id ids sending) := by
  have inGetting : ∀ connection,
      connection ∈ eraseKeys id ids getting ↔
        connection ∈ getting ∧ id connection ∉ ids := fun _ =>
    mem_eraseKeys mirrored.gettingNodup
      (distinct.subset mirrored.gettingPooled)
  have inSending : ∀ connection,
      connection ∈ eraseKeys id ids sending ↔
        connection ∈ sending ∧ id connection ∉ ids := fun _ =>
    mem_eraseKeys mirrored.sendingNodup
      (distinct.subset mirrored.sendingPooled)
  refine of_exactly (eraseKeys_nodup mirrored.gettingNodup)
    (eraseKeys_nodup mirrored.sendingNodup) ?_ ?_ ?_ ?_
  · intro connection member
    obtain ⟨listed, absent⟩ := (inGetting connection).mp member
    have pooled := mirrored.gettingPooled listed
    have receiving := (mirrored.gettingExactly connection pooled).mp listed
    exact List.mem_filter.mpr
      ⟨pooled, (exact connection pooled (Or.inl receiving)).mpr absent⟩
  · intro connection member
    obtain ⟨listed, absent⟩ := (inSending connection).mp member
    have pooled := mirrored.sendingPooled listed
    have isSending := (mirrored.sendingExactly connection pooled).mp listed
    exact List.mem_filter.mpr
      ⟨pooled, (exact connection pooled (Or.inr isSending)).mpr absent⟩
  · intro connection member
    obtain ⟨pooled, kept⟩ := List.mem_filter.mp member
    rw [inGetting, mirrored.gettingExactly connection pooled,
      and_iff_left_iff_imp]
    exact fun receiving =>
      (exact connection pooled (Or.inl receiving)).mp kept
  · intro connection member
    obtain ⟨pooled, kept⟩ := List.mem_filter.mp member
    rw [inSending, mirrored.sendingExactly connection pooled,
      and_iff_left_iff_imp]
    exact fun isSending =>
      (exact connection pooled (Or.inr isSending)).mp kept

/-- One connection changes its status, and its place in the lists. -/
theorem moved {connection : ContextPtr} {target : ConnectionStatus}
    {getting' sending' : List ContextPtr}
    (mirrored : Mirrored status all getting sending)
    (pooled : connection ∈ all)
    (gettingNodup : getting'.Nodup) (sendingNodup : sending'.Nodup)
    (inGetting : ∀ candidate, candidate ∈ getting' ↔
      candidate ∈ getting ∧ candidate ≠ connection ∨
        candidate = connection ∧ target = .receiving)
    (inSending : ∀ candidate, candidate ∈ sending' ↔
      candidate ∈ sending ∧ candidate ≠ connection ∨
        candidate = connection ∧ target = .sending) :
    Mirrored (Function.update status connection target) all
      getting' sending' := by
  refine of_exactly gettingNodup sendingNodup ?_ ?_ ?_ ?_
  · intro candidate member
    rcases (inGetting candidate).mp member with ⟨listed, -⟩ | ⟨rfl, -⟩
    · exact mirrored.gettingPooled listed
    · exact pooled
  · intro candidate member
    rcases (inSending candidate).mp member with ⟨listed, -⟩ | ⟨rfl, -⟩
    · exact mirrored.sendingPooled listed
    · exact pooled
  · intro candidate member
    rw [inGetting]
    by_cases same : candidate = connection
    · subst same
      simp
    · rw [Function.update_of_ne same]
      simp [same, mirrored.gettingExactly candidate member]
  · intro candidate member
    rw [inSending]
    by_cases same : candidate = connection
    · subst same
      simp
    · rw [Function.update_of_ne same]
      simp [same, mirrored.sendingExactly candidate member]

end Mirrored

/-! ## UpdateConnectionsStatus -/

/-- What the pool's own operations rely on, besides the lists. -/
structure Invariant (pool : BrowserMimicry) : Prop where
  mirrors : Mirrors pool
  allNodup : pool.allConnections.Nodup
  distinct : Distinct pool.idOf pool.allConnections
  allocated : ∀ connection ∈ pool.allConnections,
    connection < pool.nextContext
  connecting : ∀ connection, pool.connecting = some connection →
    connection < pool.nextContext ∧
      connection ∉ pool.allConnections ∧ pool.created = none
  created : ∀ connection, pool.created = some connection →
    connection < pool.nextContext ∧
      connection ∉ pool.allConnections ∧
      pool.statusOf connection = .creating

variable {pool next : BrowserMimicry}

/-- A step which only changes contexts outside of the pool, or their
clients. -/
theorem Invariant.of_same (invariant : Invariant pool)
    (all : next.allConnections = pool.allConnections)
    (getting : next.gettingDataConnections = pool.gettingDataConnections)
    (sending : next.sendingDataConnections = pool.sendingDataConnections)
    (ids : ∀ connection ∈ pool.allConnections,
      next.idOf connection = pool.idOf connection)
    (status : ∀ connection ∈ pool.allConnections,
      next.statusOf connection = pool.statusOf connection)
    (grows : pool.nextContext ≤ next.nextContext)
    (connecting : ∀ connection, next.connecting = some connection →
      connection < next.nextContext ∧
        connection ∉ pool.allConnections ∧ next.created = none)
    (created : ∀ connection, next.created = some connection →
      connection < next.nextContext ∧
        connection ∉ pool.allConnections ∧
        next.statusOf connection = .creating) :
    Invariant next where
  mirrors := by
    rw [Mirrors, all, getting, sending]
    exact invariant.mirrors.congr status
  allNodup := all ▸ invariant.allNodup
  distinct := by
    rw [all]
    intro first firstMem second secondMem same
    rw [ids first firstMem, ids second secondMem] at same
    exact invariant.distinct first firstMem second secondMem same
  allocated connection member := by
    rw [all] at member
    exact Nat.lt_of_lt_of_le (invariant.allocated connection member) grows
  connecting := all ▸ connecting
  created := all ▸ created

section Contexts

variable {connection other : ContextPtr} {context : ConnectionContext}

theorem setContext_self :
    (pool.setContext connection context).context connection = context :=
  Function.update_self _ _ _

theorem setContext_of_ne (different : other ≠ connection) :
    (pool.setContext connection context).context other =
      pool.context other :=
  Function.update_of_ne different _ _

@[simp]
theorem idOf_setStatus {status : ConnectionStatus} :
    (pool.setStatus connection status).idOf other = pool.idOf other := by
  by_cases same : other = connection
  · subst same
    rw [BrowserMimicry.idOf, BrowserMimicry.setStatus, setContext_self]
    rfl
  · rw [BrowserMimicry.idOf, BrowserMimicry.setStatus,
      setContext_of_ne same]
    rfl

theorem statusOf_setStatus {status : ConnectionStatus} :
    (pool.setStatus connection status).statusOf =
      Function.update pool.statusOf connection status := by
  funext other
  by_cases same : other = connection
  · subst same
    rw [BrowserMimicry.statusOf, BrowserMimicry.setStatus, setContext_self,
      Function.update_self]
  · rw [BrowserMimicry.statusOf, BrowserMimicry.setStatus,
      setContext_of_ne same, Function.update_of_ne same]
    rfl

@[simp]
theorem idOf_setClient {client : WebsocketClient} :
    (pool.setClient connection client).idOf other = pool.idOf other := by
  by_cases same : other = connection
  · subst same
    rw [BrowserMimicry.idOf, BrowserMimicry.setClient, setContext_self]
    rfl
  · rw [BrowserMimicry.idOf, BrowserMimicry.setClient,
      setContext_of_ne same]
    rfl

@[simp]
theorem statusOf_setClient {client : WebsocketClient} :
    (pool.setClient connection client).statusOf other =
      pool.statusOf other := by
  by_cases same : other = connection
  · subst same
    rw [BrowserMimicry.statusOf, BrowserMimicry.setClient, setContext_self]
    rfl
  · rw [BrowserMimicry.statusOf, BrowserMimicry.setClient,
      setContext_of_ne same]
    rfl

end Contexts

/-- A list which loses a connection, and gets it back at its end if its new
status is the one of the list. -/
def relist (pool : BrowserMimicry) (connection : ContextPtr)
    (status wanted : ConnectionStatus) (list : List ContextPtr) :
    List ContextPtr :=
  if status = wanted then
    eraseKey pool.idOf (pool.idOf connection) list ++ [connection]
  else
    eraseKey pool.idOf (pool.idOf connection) list

section Relist

variable {connection : ContextPtr} {status wanted : ConnectionStatus}
variable {list : List ContextPtr}

theorem mem_erased (invariant : Invariant pool)
    (pooled : connection ∈ pool.allConnections) (nodup : list.Nodup)
    (inside : list ⊆ pool.allConnections) {candidate : ContextPtr} :
    candidate ∈ eraseKey pool.idOf (pool.idOf connection) list ↔
      candidate ∈ list ∧ candidate ≠ connection := by
  rw [mem_eraseKey nodup (invariant.distinct.subset inside)]
  refine and_congr_right fun member => not_congr ?_
  constructor
  · exact invariant.distinct candidate (inside member) connection pooled
  · rintro rfl
    rfl

theorem mem_relist (invariant : Invariant pool)
    (pooled : connection ∈ pool.allConnections) (nodup : list.Nodup)
    (inside : list ⊆ pool.allConnections) (candidate : ContextPtr) :
    candidate ∈ relist pool connection status wanted list ↔
      candidate ∈ list ∧ candidate ≠ connection ∨
        candidate = connection ∧ status = wanted := by
  have erased := @mem_erased pool connection list invariant pooled nodup
    inside candidate
  unfold relist
  split
  case isTrue same => simp [erased, same]
  case isFalse different => simp [erased, different]

theorem relist_nodup (invariant : Invariant pool)
    (pooled : connection ∈ pool.allConnections) (nodup : list.Nodup)
    (inside : list ⊆ pool.allConnections) :
    (relist pool connection status wanted list).Nodup := by
  unfold relist
  split
  · refine List.Nodup.append (eraseKey_nodup nodup)
      (List.nodup_singleton connection) ?_
    intro candidate inErased isConnection
    rw [List.mem_singleton] at isConnection
    exact ((mem_erased invariant pooled nodup inside).mp inErased).2
      isConnection
  · exact eraseKey_nodup nodup

end Relist

/-- A connection with another status, moved to the list of it. -/
def moveConnection (pool : BrowserMimicry) (connection : ContextPtr)
    (status : ConnectionStatus) : BrowserMimicry :=
  ((pool.setStatus connection status).removeFromLists
    (pool.idOf connection)).pushToList connection status

section MoveConnection

variable {connection : ContextPtr} {status : ConnectionStatus}

theorem moveConnection_fields :
    (moveConnection pool connection status).allConnections =
        pool.allConnections ∧
      (moveConnection pool connection status).nextContext =
        pool.nextContext ∧
      (moveConnection pool connection status).connecting =
        pool.connecting ∧
      (moveConnection pool connection status).created = pool.created := by
  cases status <;> exact ⟨rfl, rfl, rfl, rfl⟩

theorem moveConnection_idOf :
    (moveConnection pool connection status).idOf = pool.idOf := by
  have same : (pool.setStatus connection status).idOf = pool.idOf :=
    funext fun _ => idOf_setStatus
  cases status <;> exact same

theorem moveConnection_statusOf :
    (moveConnection pool connection status).statusOf =
      Function.update pool.statusOf connection status := by
  rw [← statusOf_setStatus]
  cases status <;> rfl

theorem erase_setStatus (list : List ContextPtr) :
    eraseKey (pool.setStatus connection status).idOf
        (pool.idOf connection) list =
      eraseKey pool.idOf (pool.idOf connection) list := by
  have same : (pool.setStatus connection status).idOf = pool.idOf :=
    funext fun _ => idOf_setStatus
  rw [same]

theorem moveConnection_getting :
    (moveConnection pool connection status).gettingDataConnections =
      relist pool connection status .receiving
        pool.gettingDataConnections := by
  rw [relist, ← @erase_setStatus pool connection status]
  cases status <;> rfl

theorem moveConnection_sending :
    (moveConnection pool connection status).sendingDataConnections =
      relist pool connection status .sending
        pool.sendingDataConnections := by
  rw [relist, ← @erase_setStatus pool connection status]
  cases status <;> rfl

theorem moveConnection_invariant (invariant : Invariant pool)
    (pooled : connection ∈ pool.allConnections) :
    Invariant (moveConnection pool connection status) := by
  obtain ⟨all, grows, connecting, created⟩ :=
    @moveConnection_fields pool connection status
  have mirrored := invariant.mirrors
  constructor
  case mirrors =>
    rw [Mirrors, all, moveConnection_statusOf, moveConnection_getting,
      moveConnection_sending]
    exact
      mirrored.moved pooled
        (relist_nodup invariant pooled mirrored.gettingNodup
          mirrored.gettingPooled)
        (relist_nodup invariant pooled mirrored.sendingNodup
          mirrored.sendingPooled)
        (mem_relist invariant pooled mirrored.gettingNodup
          mirrored.gettingPooled)
        (mem_relist invariant pooled mirrored.sendingNodup
          mirrored.sendingPooled)
  case allNodup => exact all ▸ invariant.allNodup
  case distinct =>
    rw [all, moveConnection_idOf]
    exact invariant.distinct
  case allocated =>
    rw [all, grows]
    exact invariant.allocated
  case connecting =>
    rw [all, grows, connecting, created]
    exact invariant.connecting
  case created =>
    rw [all, grows, created, moveConnection_statusOf]
    intro candidate found
    obtain ⟨allocated, absent, creating⟩ := invariant.created candidate found
    have different : candidate ≠ connection := fun same =>
      absent (same ▸ pooled)
    exact ⟨allocated, absent, by rw [Function.update_of_ne different, creating]⟩

end MoveConnection

variable {now : TimePoint} {clock : ContextPtr → TimePoint}

theorem updateConnection_eq (connection : ContextPtr) :
    BrowserMimicry.updateConnection now clock pool connection = pool ∨
      ∃ status, BrowserMimicry.updateConnection now clock pool connection =
        moveConnection pool connection status := by
  simp only [BrowserMimicry.updateConnection]
  split
  · exact Or.inl rfl
  · exact Or.inr ⟨_, rfl⟩

theorem updateConnectionsLoop_invariant {connections : List ContextPtr}
    (invariant : Invariant pool)
    (inside : connections ⊆ pool.allConnections) :
    Invariant
      (connections.foldl (BrowserMimicry.updateConnection now clock)
        pool) := by
  induction connections generalizing pool with
  | nil => exact invariant
  | cons connection rest ih =>
      have pooled := inside List.mem_cons_self
      have restInside := List.Subset.trans
        (List.subset_cons_self connection rest) inside
      rw [List.foldl_cons]
      rcases @updateConnection_eq pool now clock connection with
        same | ⟨status, moved⟩
      · rw [same]
        exact ih invariant restInside
      · rw [moved]
        refine ih (moveConnection_invariant invariant pooled) ?_
        rw [moveConnection_fields.1]
        exact restInside

/-! ## Stop -/

section StopConnection

variable {connection other : ContextPtr}

theorem stopConnection_of_ne (different : other ≠ connection) :
    (pool.stopConnection connection).context other = pool.context other :=
  setContext_of_ne different

theorem stopLoop_context {connections : List ContextPtr}
    (absent : other ∉ connections) :
    (connections.foldl BrowserMimicry.stopConnection pool).context other =
      pool.context other := by
  induction connections generalizing pool with
  | nil => rfl
  | cons connection rest ih =>
      rw [List.mem_cons, not_or] at absent
      rw [List.foldl_cons, ih absent.2, stopConnection_of_ne absent.1]

theorem stopLoop_fields {connections : List ContextPtr} :
    (connections.foldl BrowserMimicry.stopConnection pool).nextContext =
        pool.nextContext ∧
      (connections.foldl BrowserMimicry.stopConnection pool).connecting =
        pool.connecting ∧
      (connections.foldl BrowserMimicry.stopConnection pool).created =
        pool.created := by
  induction connections generalizing pool with
  | nil => exact ⟨rfl, rfl, rfl⟩
  | cons connection rest ih => exact ih

end StopConnection

theorem stop_invariant (invariant : Invariant pool) :
    Invariant pool.stop := by
  obtain ⟨grows, connecting, created⟩ :=
    @stopLoop_fields { pool with running := false } pool.allConnections
  constructor
  case mirrors => exact Mirrored.nil
  case allNodup => exact List.nodup_nil
  case distinct => exact fun _ member => by cases member
  case allocated => exact fun _ member => by cases member
  case connecting =>
    intro candidate found
    obtain ⟨allocated, -, free⟩ :=
      invariant.connecting candidate (connecting ▸ found)
    exact ⟨grows ▸ allocated, List.not_mem_nil, created.trans free⟩
  case created =>
    intro candidate found
    obtain ⟨allocated, absent, creating⟩ :=
      invariant.created candidate (created ▸ found)
    refine ⟨grows ▸ allocated, List.not_mem_nil, ?_⟩
    have unchanged := @stopLoop_context { pool with running := false }
      candidate pool.allConnections absent
    exact (congrArg ConnectionContext.status unchanged).trans creating

/-! ## RemoveExpiredConnections -/

/-- Every connection with a list of its own is dead exactly when the
connection just before it is; the last one may also be dead by itself. -/
def Aligned (dead listed : ContextPtr → Prop) :
    Prop → List ContextPtr → Prop
  | _, [] => True
  | previous, [last] => listed last → previous → dead last
  | previous, connection :: following :: rest =>
      (listed connection → (dead connection ↔ previous)) ∧
        Aligned dead listed (dead connection) (following :: rest)

/-- A connection which belongs into one of the two lists. -/
def Listed (pool : BrowserMimicry) (connection : ContextPtr) : Prop :=
  pool.statusOf connection = .receiving ∨
    pool.statusOf connection = .sending

instance Aligned.decidable {dead listed : ContextPtr → Prop}
    [DecidablePred dead] [DecidablePred listed] {previous : Prop}
    [Decidable previous] :
    (list : List ContextPtr) → Decidable (Aligned dead listed previous list)
  | [] => inferInstanceAs (Decidable True)
  | [last] =>
      inferInstanceAs (Decidable (listed last → previous → dead last))
  | connection :: following :: rest =>
      have := @Aligned.decidable dead listed _ _ (dead connection) _
        (following :: rest)
      inferInstanceAs
        (Decidable
          ((listed connection → (dead connection ↔ previous)) ∧
            Aligned dead listed (dead connection) (following :: rest)))

instance Listed.decidable (pool : BrowserMimicry) :
    DecidablePred (Listed pool) := fun connection =>
  inferInstanceAs
    (Decidable
      (pool.statusOf connection = .receiving ∨
        pool.statusOf connection = .sending))

/-- What the sweep calls dead. -/
def isDead (pool : BrowserMimicry) (clock : ContextPtr → TimePoint)
    (connection : ContextPtr) : Bool :=
  (pool.context connection).dead (clock connection)

/-- A sweep whose readings of the wrong id do no harm. -/
structure SweepHarmless (pool : BrowserMimicry)
    (clock : ContextPtr → TimePoint) (destroyed : ConnectionId) :
    Prop where
  aligned : Aligned (fun connection => isDead pool clock connection = true)
    (Listed pool) False pool.allConnections
  /-- Reading the slot of an erased last element still gives its id. -/
  destroyedSlot : ∀ last ∈ pool.allConnections.getLast?,
    isDead pool clock last = true → destroyed = pool.idOf last

instance SweepHarmless.decidable (pool : BrowserMimicry)
    (clock : ContextPtr → TimePoint) (destroyed : ConnectionId) :
    Decidable (SweepHarmless pool clock destroyed) :=
  decidable_of_iff
    (Aligned (fun connection => isDead pool clock connection = true)
        (Listed pool) False pool.allConnections ∧
      ∀ last ∈ pool.allConnections.getLast?,
        isDead pool clock last = true → destroyed = pool.idOf last)
    ⟨fun ⟨aligned, destroyedSlot⟩ => ⟨aligned, destroyedSlot⟩,
      fun harmless => ⟨harmless.aligned, harmless.destroyedSlot⟩⟩

/-- The ids which a sweep reads after its erasures. -/
def readBack (dead : ContextPtr → Bool) (idOf : ContextPtr → ConnectionId)
    (destroyed : ConnectionId) : List ContextPtr → List ConnectionId
  | [] => []
  | connection :: rest =>
      if dead connection then
        (rest.head?.map idOf).getD destroyed ::
          readBack dead idOf destroyed rest
      else
        readBack dead idOf destroyed rest

variable {destroyed : ConnectionId}

section ReadBackCons

variable {dead : ContextPtr → Bool} {idOf : ContextPtr → ConnectionId}
variable {connection : ContextPtr} {rest : List ContextPtr}

theorem readBack_of_dead (isDead : dead connection = true) :
    readBack dead idOf destroyed (connection :: rest) =
      (rest.head?.map idOf).getD destroyed ::
        readBack dead idOf destroyed rest :=
  if_pos isDead

theorem readBack_of_alive (alive : ¬dead connection = true) :
    readBack dead idOf destroyed (connection :: rest) =
      readBack dead idOf destroyed rest :=
  if_neg alive

end ReadBackCons

theorem readAfterErase_eq {rest : List ContextPtr} :
    pool.readAfterErase destroyed rest =
      (rest.head?.map pool.idOf).getD destroyed := by
  cases rest <;> rfl

/-- What the loop leaves: the living connections, and the lists without the
ids it has read. -/
structure Swept (pool : BrowserMimicry) (clock : ContextPtr → TimePoint)
    (destroyed : ConnectionId) (kept rest : List ContextPtr)
    (swept : BrowserMimicry) : Prop where
  all : swept.allConnections =
    kept ++ rest.filter fun connection => !isDead pool clock connection
  getting : swept.gettingDataConnections =
    eraseKeys pool.idOf
      (readBack (isDead pool clock) pool.idOf destroyed rest)
      pool.gettingDataConnections
  sending : swept.sendingDataConnections =
    eraseKeys pool.idOf
      (readBack (isDead pool clock) pool.idOf destroyed rest)
      pool.sendingDataConnections
  context : swept.context = pool.context
  nextContext : swept.nextContext = pool.nextContext
  connecting : swept.connecting = pool.connecting
  created : swept.created = pool.created

theorem removeExpiredLoop_swept {kept rest : List ContextPtr} :
    Swept pool clock destroyed kept rest
      (BrowserMimicry.removeExpiredLoop clock destroyed pool kept
        rest) := by
  induction rest generalizing pool kept with
  | nil =>
      exact
        { all := (List.append_nil kept).symm
          getting := rfl
          sending := rfl
          context := rfl
          nextContext := rfl
          connecting := rfl
          created := rfl }
  | cons connection rest ih =>
      by_cases dead : isDead pool clock connection = true
      · have taken :
            BrowserMimicry.removeExpiredLoop clock destroyed pool kept
                (connection :: rest) =
              BrowserMimicry.removeExpiredLoop clock destroyed
                ({ pool with
                    closing := pool.closing ++ [connection]
                  }.removeFromLists (pool.readAfterErase destroyed rest))
                kept rest := if_pos dead
        have ids : readBack (isDead pool clock) pool.idOf destroyed
              (connection :: rest) =
            pool.readAfterErase destroyed rest ::
              readBack (isDead pool clock) pool.idOf destroyed rest := by
          rw [readAfterErase_eq]
          exact readBack_of_dead dead
        rw [taken]
        have later := @ih ({ pool with
            closing := pool.closing ++ [connection]
          }.removeFromLists (pool.readAfterErase destroyed rest)) kept
        exact
          { all := by
              rw [List.filter_cons_of_neg (by simp [dead])]
              exact later.all
            getting := by
              rw [ids, eraseKeys_cons]
              exact later.getting
            sending := by
              rw [ids, eraseKeys_cons]
              exact later.sending
            context := later.context
            nextContext := later.nextContext
            connecting := later.connecting
            created := later.created }
      · have taken :
            BrowserMimicry.removeExpiredLoop clock destroyed pool kept
                (connection :: rest) =
              BrowserMimicry.removeExpiredLoop clock destroyed pool
                (kept ++ [connection]) rest := if_neg dead
        have ids : readBack (isDead pool clock) pool.idOf destroyed
              (connection :: rest) =
            readBack (isDead pool clock) pool.idOf destroyed rest :=
          readBack_of_alive dead
        have later := @ih pool (kept ++ [connection])
        rw [taken]
        exact
          { all := by
              rw [List.filter_cons_of_pos (by simp [dead])]
              exact later.all.trans (List.append_cons _ _ _).symm
            getting := ids ▸ later.getting
            sending := ids ▸ later.sending
            context := later.context
            nextContext := later.nextContext
            connecting := later.connecting
            created := later.created }

section ReadBack

variable {dead : ContextPtr → Bool} {idOf : ContextPtr → ConnectionId}

/-- Every id read is the one of a connection behind an erased one. -/
theorem readBack_subset {connection : ContextPtr}
    {rest : List ContextPtr} (nonempty : rest ≠ [])
    (destroyedSlot : ∀ last ∈ rest.getLast?,
      dead last = true → destroyed = idOf last) {id : ConnectionId}
    (member : id ∈ readBack dead idOf destroyed (connection :: rest)) :
    id ∈ rest.map idOf := by
  induction rest generalizing connection with
  | nil => exact absurd rfl nonempty
  | cons following rest ih =>
      have later : id ∈ readBack dead idOf destroyed (following :: rest) →
          id ∈ (following :: rest).map idOf := by
        intro member
        cases rest with
        | nil =>
            have isLast : following ∈ [following].getLast? := rfl
            by_cases isDead : dead following = true
            · rw [readBack_of_dead isDead, readBack,
                List.mem_singleton] at member
              rw [member, List.map_singleton, List.mem_singleton]
              exact destroyedSlot following isLast isDead
            · rw [readBack_of_alive isDead, readBack] at member
              cases member
        | cons next rest =>
            have slot : ∀ last ∈ (next :: rest).getLast?,
                dead last = true → destroyed = idOf last := by
              intro last isLast
              exact destroyedSlot last (by
                rw [List.getLast?_cons_cons]
                exact isLast)
            exact List.mem_cons_of_mem _
              (ih (List.cons_ne_nil next rest) slot member)
      by_cases erased : dead connection = true
      · rw [readBack_of_dead erased] at member
        rcases List.mem_cons.mp member with rfl | member
        · exact List.mem_cons_self
        · exact later member
      · rw [readBack_of_alive erased] at member
        exact later member

/-- In an aligned pool the ids read are those of the dead connections, as far
as the lists are concerned. -/
theorem aligned_exact {listed : ContextPtr → Prop} {previous : Prop}
    {list : List ContextPtr} (nodup : list.Nodup)
    (distinct : Distinct idOf list)
    (aligned : Aligned (fun connection => dead connection = true) listed
      previous list)
    (destroyedSlot : ∀ last ∈ list.getLast?,
      dead last = true → destroyed = idOf last)
    {connection : ContextPtr} (member : connection ∈ list)
    (isListed : listed connection) :
    dead connection = true ↔
      idOf connection ∈ readBack dead idOf destroyed list ∨
        previous ∧ list.head? = some connection := by
  induction list generalizing previous with
  | nil => cases member
  | cons first rest ih =>
      cases rest with
      | nil =>
          obtain rfl := List.mem_singleton.mp member
          have here := aligned isListed
          by_cases isDead : dead connection = true
          · have same := destroyedSlot connection rfl isDead
            rw [readBack_of_dead isDead]
            simp [isDead, same]
          · rw [readBack_of_alive isDead, readBack]
            simpa [isDead] using fun holds => isDead (here holds)
      | cons following rest =>
          obtain ⟨notMem, restNodup⟩ := List.nodup_cons.mp nodup
          have restDistinct := distinct.subset
            (List.subset_cons_self first (following :: rest))
          have slot : ∀ last ∈ (following :: rest).getLast?,
              dead last = true → destroyed = idOf last := by
            intro last isLast
            exact destroyedSlot last (by
              rw [List.getLast?_cons_cons]
              exact isLast)
          rcases List.mem_cons.mp member with rfl | later
          · have unread : idOf connection ∉
                readBack dead idOf destroyed
                  (connection :: following :: rest) := by
              intro read
              have among := readBack_subset
                (List.cons_ne_nil following rest) slot read
              obtain ⟨other, otherMem, same⟩ := List.mem_map.mp among
              have equal := distinct other (List.mem_cons_of_mem _ otherMem)
                connection List.mem_cons_self same
              exact notMem (equal ▸ otherMem)
            simpa [unread] using aligned.1 isListed
          · have different : first ≠ connection := fun same =>
              notMem (same ▸ later)
            have atHead : idOf connection = idOf following ↔
                following = connection := by
              constructor
              · intro same
                exact (restDistinct connection later following
                  List.mem_cons_self same).symm
              · rintro rfl
                rfl
            have inRest := ih restNodup restDistinct aligned.2 slot later
            rw [inRest]
            by_cases firstDead : dead first = true
            · rw [readBack_of_dead firstDead]
              simp [firstDead, atHead, different, or_comm]
            · rw [readBack_of_alive firstDead]
              simp [firstDead, different]

end ReadBack

theorem removeExpiredConnections_invariant (invariant : Invariant pool)
    (harmless : SweepHarmless pool clock destroyed) :
    Invariant (pool.removeExpiredConnections clock destroyed) := by
  have swept : Swept pool clock destroyed [] pool.allConnections
      (pool.removeExpiredConnections clock destroyed) :=
    removeExpiredLoop_swept
  have all := swept.all
  rw [List.nil_append] at all
  have inside :
      (pool.removeExpiredConnections clock destroyed).allConnections ⊆
        pool.allConnections := all ▸ List.filter_subset_self _
  have ids : (pool.removeExpiredConnections clock destroyed).idOf =
      pool.idOf := by
    funext connection
    rw [BrowserMimicry.idOf, swept.context]
    rfl
  have statuses :
      (pool.removeExpiredConnections clock destroyed).statusOf =
        pool.statusOf := by
    funext connection
    rw [BrowserMimicry.statusOf, swept.context]
    rfl
  constructor
  case mirrors =>
    rw [Mirrors, all, swept.getting, swept.sending, statuses]
    refine invariant.mirrors.remove invariant.distinct ?_
    intro connection pooled listed
    have exact := aligned_exact invariant.allNodup invariant.distinct
      harmless.aligned harmless.destroyedSlot pooled listed
    rw [false_and, or_false] at exact
    rw [← exact, Bool.not_eq_true', Bool.not_eq_true]
  case allNodup =>
    rw [all]
    exact invariant.allNodup.filter _
  case distinct =>
    rw [ids]
    exact invariant.distinct.subset inside
  case allocated =>
    intro connection member
    rw [swept.nextContext]
    exact invariant.allocated connection (inside member)
  case connecting =>
    intro connection found
    rw [swept.connecting] at found
    rw [swept.nextContext, swept.created]
    obtain ⟨allocated, absent, free⟩ := invariant.connecting connection found
    exact ⟨allocated, fun member => absent (inside member), free⟩
  case created =>
    intro connection found
    rw [swept.created] at found
    rw [swept.nextContext, statuses]
    obtain ⟨allocated, absent, creating⟩ :=
      invariant.created connection found
    exact ⟨allocated, fun member => absent (inside member), creating⟩

/-! ## Runs -/

/-- A sweep is harmless, and the 64-bit counter has not come round to an id
which is still pooled. -/
def Harmless (pool : BrowserMimicry) : BrowserMimicry.Label → Prop
  | .removeExpiredConnections clock destroyed =>
      SweepHarmless pool clock destroyed
  | .pushConnection =>
      ∀ connection ∈ pool.created, ∀ old ∈ pool.allConnections,
        pool.idOf old ≠ pool.idOf connection
  | _ => True

instance Harmless.decidable (pool : BrowserMimicry) :
    DecidablePred (Harmless pool)
  | .removeExpiredConnections clock destroyed =>
      inferInstanceAs (Decidable (SweepHarmless pool clock destroyed))
  | .pushConnection =>
      inferInstanceAs
        (Decidable
          (∀ connection ∈ pool.created, ∀ old ∈ pool.allConnections,
            pool.idOf old ≠ pool.idOf connection))
  | .start | .stop | .poolEmpty | .stopClosed
  | .updateConnectionsStatus _ _ | .createNewConnection _ _ _
  | .connectionReady | .connectionFailed | .otherContext
  | .clientChanges _ _ => inferInstanceAs (Decidable True)

theorem create_invariant (counter : ConnectionId) :
    Invariant (BrowserMimicry.create counter) where
  mirrors := Mirrored.nil
  allNodup := List.nodup_nil
  distinct := fun _ member => by cases member
  allocated := fun _ member => by cases member
  connecting := fun _ found => by cases found
  created := fun _ found => by cases found

theorem createNewConnection_invariant (invariant : Invariant pool)
    (free : pool.connecting = none ∧ pool.created = none)
    {sendingMode ttl : TimePoint} :
    Invariant (pool.createNewConnection now sendingMode ttl) := by
  have old : ∀ connection ∈ pool.allConnections,
      (pool.createNewConnection now sendingMode ttl).context connection =
        pool.context connection := fun connection member =>
    setContext_of_ne (Nat.ne_of_lt (invariant.allocated connection member))
  refine invariant.of_same rfl rfl rfl ?_ ?_ (Nat.le_succ _) ?_ ?_
  · intro connection member
    exact congrArg ConnectionContext.connectionId (old connection member)
  · intro connection member
    exact congrArg ConnectionContext.status (old connection member)
  · intro connection found
    obtain rfl := Option.some.inj found
    refine ⟨Nat.lt_succ_self _, fun member => ?_, free.2⟩
    exact Nat.lt_irrefl _ (invariant.allocated _ member)
  · intro connection found
    cases free.2.symm.trans found

/-- The connection which is being set up is not pooled yet. -/
theorem connectionReady_invariant (invariant : Invariant pool)
    {connection : ContextPtr} (found : pool.connecting = some connection) :
    Invariant ({ pool with
      connecting := none
      created := some connection }.setStatus connection .creating) := by
  obtain ⟨allocated, absent, -⟩ := invariant.connecting connection found
  have different : ∀ other ∈ pool.allConnections, other ≠ connection :=
    fun other member same => absent (same ▸ member)
  refine invariant.of_same rfl rfl rfl ?_ ?_ (Nat.le_refl _) ?_ ?_
  · intro other _
    exact idOf_setStatus
  · intro other member
    rw [statusOf_setStatus, Function.update_of_ne (different other member)]
    rfl
  · intro other none
    cases none
  · intro other same
    obtain rfl := Option.some.inj same
    refine ⟨allocated, absent, ?_⟩
    rw [statusOf_setStatus, Function.update_self]

theorem connectionFailed_invariant (invariant : Invariant pool)
    {connection : ContextPtr} (found : pool.connecting = some connection) :
    Invariant
      ({ pool with connecting := none }.stopConnection connection) := by
  obtain ⟨-, absent, free⟩ := invariant.connecting connection found
  have old : ∀ other ∈ pool.allConnections,
      ({ pool with connecting := none }.stopConnection connection).context
          other =
        pool.context other := fun other member =>
    stopConnection_of_ne fun same => absent (same ▸ member)
  refine invariant.of_same rfl rfl rfl ?_ ?_ (Nat.le_refl _) ?_ ?_
  · intro other member
    exact congrArg ConnectionContext.connectionId (old other member)
  · intro other member
    exact congrArg ConnectionContext.status (old other member)
  · intro other none
    cases none
  · intro other same
    cases free.symm.trans same

theorem pushConnection_invariant (invariant : Invariant pool)
    {connection : ContextPtr} (found : pool.created = some connection)
    (fresh : ∀ old ∈ pool.allConnections,
      pool.idOf old ≠ pool.idOf connection) :
    Invariant { pool with
      created := none
      allConnections := pool.allConnections ++ [connection] } := by
  obtain ⟨allocated, absent, creating⟩ :=
    invariant.created connection found
  constructor
  case mirrors => exact invariant.mirrors.push absent creating
  case allNodup =>
    refine invariant.allNodup.append (List.nodup_singleton connection) ?_
    intro other member same
    exact absent (List.mem_singleton.mp same ▸ member)
  case distinct => exact invariant.distinct.push fresh
  case allocated =>
    intro other member
    rcases List.mem_append.mp member with old | new
    · exact invariant.allocated other old
    · rw [List.mem_singleton.mp new]
      exact allocated
  case connecting =>
    intro other waiting
    obtain ⟨-, -, free⟩ := invariant.connecting other waiting
    cases free.symm.trans found
  case created =>
    intro other same
    cases same

/-- A step which leaves the pool, its contexts' ids and statuses and the
coroutine's connections alone. -/
theorem Invariant.unchanged (invariant : Invariant pool)
    (all : next.allConnections = pool.allConnections)
    (getting : next.gettingDataConnections = pool.gettingDataConnections)
    (sending : next.sendingDataConnections = pool.sendingDataConnections)
    (ids : next.idOf = pool.idOf) (status : next.statusOf = pool.statusOf)
    (fresh : next.nextContext = pool.nextContext)
    (connecting : next.connecting = pool.connecting)
    (created : next.created = pool.created) :
    Invariant next := by
  refine invariant.of_same all getting sending
    (fun other _ => congrFun ids other)
    (fun other _ => congrFun status other) (Nat.le_of_eq fresh.symm) ?_ ?_
  · rw [connecting, fresh, created]
    exact invariant.connecting
  · rw [created, fresh, status]
    exact invariant.created

theorem setClient_invariant (invariant : Invariant pool)
    (connection : ContextPtr) (client : WebsocketClient) :
    Invariant (pool.setClient connection client) :=
  invariant.unchanged rfl rfl rfl (funext fun _ => idOf_setClient)
    (funext fun _ => statusOf_setClient) rfl rfl rfl

theorem step_invariant (pool : BrowserMimicry)
    (label : BrowserMimicry.Label) (next : BrowserMimicry)
    (invariant : Invariant pool) (harmless : Harmless pool label)
    (taken : pool.step label = some next) :
    Invariant next := by
  cases label with
  | start =>
      obtain rfl := Option.some.inj taken
      exact invariant.unchanged rfl rfl rfl rfl rfl rfl rfl rfl
  | stop =>
      obtain rfl := Option.some.inj taken
      exact stop_invariant invariant
  | poolEmpty =>
      simp only [BrowserMimicry.step] at taken
      split at taken
      · obtain rfl := Option.some.inj taken
        exact invariant.unchanged rfl rfl rfl rfl rfl rfl rfl rfl
      · cases taken
  | removeExpiredConnections clock destroyed =>
      obtain rfl := Option.some.inj taken
      exact removeExpiredConnections_invariant invariant harmless
  | stopClosed =>
      simp only [BrowserMimicry.step] at taken
      split at taken
      · cases taken
      next connection rest _ =>
        obtain rfl := Option.some.inj taken
        have popped : Invariant { pool with closing := rest } :=
          invariant.unchanged rfl rfl rfl rfl rfl rfl rfl rfl
        exact setClient_invariant popped connection _
  | updateConnectionsStatus now clock =>
      obtain rfl := Option.some.inj taken
      exact updateConnectionsLoop_invariant invariant (List.Subset.refl _)
  | createNewConnection now sendingMode ttl =>
      simp only [BrowserMimicry.step] at taken
      split at taken
      next free =>
        obtain rfl := Option.some.inj taken
        exact createNewConnection_invariant invariant free
      next => cases taken
  | connectionReady =>
      simp only [BrowserMimicry.step] at taken
      split at taken
      · cases taken
      next connection found =>
        split at taken
        · obtain rfl := Option.some.inj taken
          exact connectionReady_invariant invariant found
        · cases taken
  | connectionFailed =>
      simp only [BrowserMimicry.step] at taken
      split at taken
      · cases taken
      next connection found =>
        obtain rfl := Option.some.inj taken
        exact connectionFailed_invariant invariant found
  | pushConnection =>
      simp only [BrowserMimicry.step] at taken
      split at taken
      · cases taken
      next connection found =>
        obtain rfl := Option.some.inj taken
        exact
          pushConnection_invariant invariant found
            (harmless connection found)
  | otherContext =>
      obtain rfl := Option.some.inj taken
      exact invariant.unchanged rfl rfl rfl rfl rfl rfl rfl rfl
  | clientChanges connection client =>
      obtain rfl := Option.some.inj taken
      exact setClient_invariant invariant connection client

/-- As long as the sweeps are harmless, the lists mirror the pool. -/
theorem run_mirrors {counter : ConnectionId}
    {labels : List BrowserMimicry.Label} {last : BrowserMimicry}
    (harmless : Along BrowserMimicry.step Harmless
      (BrowserMimicry.create counter) labels)
    (reached : run BrowserMimicry.step (BrowserMimicry.create counter)
      labels = some last) :
    Mirrors last :=
  (run_invariant_of step_invariant (create_invariant counter) harmless
    reached).mirrors

section TwoConnections

def startedClient : WebsocketClient where
  running := true
  wasConnected := true
  wasStopped := false

def connect (connection : ContextPtr) (ttl : TimePoint) :
    List BrowserMimicry.Label :=
  [.createNewConnection 0 30 ttl, .clientChanges connection startedClient,
    .connectionReady, .pushConnection]

/-- Two sending connections, of which one has expired when the sweep runs. -/
def twoConnections (firstTtl secondTtl : TimePoint)
    (destroyed : ConnectionId) : List BrowserMimicry.Label :=
  .start :: connect 0 firstTtl ++ connect 1 secondTtl ++
    [.updateConnectionsStatus 1 fun _ => 1,
      .removeExpiredConnections (fun _ => 10) destroyed]

/-- The last of two connections expires. -/
theorem run_mirrors_last :
    ∃ last, run BrowserMimicry.step (BrowserMimicry.create 0)
      (twoConnections 60 8 2) = some last ∧ Mirrors last := by
  have taken : (run BrowserMimicry.step (BrowserMimicry.create 0)
      (twoConnections 60 8 2)).isSome = true := by
    decide +kernel
  obtain ⟨last, reached⟩ := Option.isSome_iff_exists.mp taken
  exact ⟨last, reached, run_mirrors (by decide +kernel) reached⟩

/-- The first of two connections expires: it stays in the sending list, and
the living one is taken out. -/
theorem expiredFirst_notMirrors :
    ¬ ∀ (counter : ConnectionId) (labels : List BrowserMimicry.Label)
      (last : BrowserMimicry),
      run BrowserMimicry.step (BrowserMimicry.create counter) labels =
        some last → Mirrors last := by
  intro mirrors
  have lists : (run BrowserMimicry.step (BrowserMimicry.create 0)
      (twoConnections 8 60 0)).map
        (fun pool =>
          (pool.allConnections, pool.sendingDataConnections)) =
      some ([1], [0]) := by
    decide +kernel
  obtain ⟨last, reached, lists⟩ := Option.map_eq_some_iff.mp lists
  obtain ⟨all, sending⟩ := Prod.mk.inj lists
  have pooled := (mirrors 0 _ last reached).sendingPooled
  rw [all, sending] at pooled
  exact absurd (pooled List.mem_cons_self) (by decide)

end TwoConnections

end Fptn.Connection.PoolInvariant
