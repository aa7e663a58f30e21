import Fptn.Lib.Throwing
import Fptn.NatTable.SessionTable

/-!
# A failed AddConnection

`Table::AddConnection` with the exceptions which its statements may throw.
The last free addresses are copied before the multiplexer is created and taken
away afterwards, so that a failure to create it changes nothing.  The four
insertions come later.  When one of them throws, the exception is caught and a
null pointer is returned, but the addresses have been taken and whatever has
been inserted before stays.
-/

namespace Fptn.NatTable.FailedConnection

open Fptn.Throwing
open Fptn.UnorderedMap
open Fptn.Network.IPAddress
open Fptn.NatTable.Multiplexer
open Fptn.NatTable.SessionTable

/-- Where a call may throw. -/
inductive Point where
  /-- The copy of the last free IPv4 address. -/
  | copyIpv4
  | copyIpv6
  /-- `ConnectionMultiplexer::Create`, with its arguments. -/
  | create
  /-- The insertion into `session_to_mplx_`, with its arguments. -/
  | insertSession
  | insertIpv4
  | insertIpv6
  | insertClient
  /-- `ClientConnection::Create` for a session which exists. -/
  | createConnection
  | pushSending
  | pushReceiving
  deriving DecidableEq

/-- A method of the table. -/
abbrev TableCall := Call Point Table

section Methods

variable (throws : Point → Bool) (params : ConnectParams)
  (clock : Nat → Int) (tick : Nat)

/-! ## Joining a session -/

def changeBuckets (pointer : MplxPtr) (change : Buckets → Buckets)
    (table : Table) : Table :=
  { table with
    heap :=
      Function.update table.heap pointer
        { table.heap pointer with
          buckets := change (table.heap pointer).buckets } }

/-- `push_back`, if the connection has the role. -/
def pushIf (role : Bool) (point : Point) (effect : Table → Table) :
    TableCall Unit :=
  if role then attempt throws point effect else pure ()

/-- `PlaceByRole` on the buckets of a multiplexer. -/
def placeByRole (pointer : MplxPtr) (connection : ClientConnection) :
    TableCall Unit := do
  pushIf throws (connection.isSending (clock (tick + 1))) .pushSending
    (changeBuckets pointer fun buckets =>
      { buckets with sending := buckets.sending ++ [connection] })
  pushIf throws (connection.isReceiving (clock (tick + 2)))
    .pushReceiving
    (changeBuckets pointer fun buckets =>
      { buckets with receiving := buckets.receiving ++ [connection] })

def addClientConnection (pointer : MplxPtr) : TableCall Bool := do
  let table ← get
  if contains (table.heap pointer).buckets.sending params.clientId ||
      contains (table.heap pointer).buckets.receiving
        params.clientId then
    pure false
  else do
    attempt throws .createConnection id
    placeByRole throws clock tick pointer ⟨params, clock tick⟩
    pure true

/-- The statement `client_to_mplx_.insert`. -/
def insertClient (pointer : MplxPtr) (table : Table) : Table :=
  { table with
    clientToMplx := insert params.clientId pointer table.clientToMplx }

/-- Nothing is caught on this way. -/
def joinSession (pointer : MplxPtr) :
    TableCall (Option MplxPtr) := do
  let table ← get
  if (table.heap pointer).username ≠ params.user.username then
    pure none
  else do
    let added ← addClientConnection throws params clock tick pointer
    if !added then
      pure none
    else do
      attempt throws .insertClient (insertClient params pointer)
      pure (some pointer)

/-! ## Opening a session -/

/-- The object has been created; nothing points to it yet. -/
def created (fakeIpv4 : IPv4Address) (fakeIpv6 : IPv6Address)
    (table : Table) : Table :=
  { table with
    heap :=
      Function.update table.heap table.nextMplx
        (create params fakeIpv4 fakeIpv6 clock tick)
    nextMplx := table.nextMplx + 1 }

def popAddresses (table : Table) : Table :=
  { table with
    freeIpv4 := table.freeIpv4.dropLast
    freeIpv6 := table.freeIpv6.dropLast }

/-- The four insertions, in their order. -/
def insertions (fakeIpv4 : IPv4Address) (fakeIpv6 : IPv6Address)
    (pointer : MplxPtr) : List (Point × (Table → Table)) :=
  [(.insertSession, fun table =>
      { table with
        sessionToMplx :=
          insert params.request.sessionId pointer table.sessionToMplx }),
    (.insertIpv4, fun table =>
      { table with
        ipv4ToMplx := insert fakeIpv4.toInt pointer table.ipv4ToMplx }),
    (.insertIpv6, fun table =>
      { table with
        ipv6ToMplx := insert fakeIpv6.ip pointer table.ipv6ToMplx }),
    (.insertClient, insertClient params pointer)]

/-- The points at which one of them throws. -/
def insertionPoints : List Point :=
  [.insertSession, .insertIpv4, .insertIpv6, .insertClient]

/-- The statements of the try block. -/
def openSession (fakeIpv4 : IPv4Address) (fakeIpv6 : IPv6Address) :
    TableCall (Option MplxPtr) := do
  let table ← get
  attempt throws .create
    (created params clock tick fakeIpv4 fakeIpv6)
  modify popAddresses
  attemptAll throws
    (insertions params fakeIpv4 fakeIpv6 table.nextMplx)
  pure (some table.nextMplx)

def addConnection : TableCall (Option MplxPtr) := do
  let table ← get
  match table.sessionToMplx.lookup params.request.sessionId with
  | some pointer => joinSession throws params clock tick pointer
  | none =>
    match table.freeIpv4.getLast?, table.freeIpv6.getLast? with
    | some fakeIpv4, some fakeIpv6 => do
      attempt throws .copyIpv4 id
      attempt throws .copyIpv6 id
      tryCatch (openSession throws params clock tick fakeIpv4 fakeIpv6)
        fun _ => pure none
    | _, _ => pure none

end Methods

section Ends

variable {throws : Point → Bool} {params : ConnectParams}
  {clock : Nat → Int} {tick : Nat} {table after : Table}
  {pointer : MplxPtr} {fakeIpv4 : IPv4Address} {fakeIpv6 : IPv6Address}

/-! ## Without exceptions -/

theorem changeBuckets_keep :
    changeBuckets pointer (fun buckets => buckets) table = table := by
  show { table with heap := _ } = table
  rw [Function.update_eq_self]

theorem changeBuckets_changeBuckets (first second : Buckets → Buckets) :
    changeBuckets pointer second (changeBuckets pointer first table) =
      changeBuckets pointer (fun buckets => second (first buckets))
        table := by
  simp only [changeBuckets, Function.update_idem, Function.update_self]

section Undisturbed

variable (quiet : ∀ point, throws point = false)

include quiet

theorem ends_attempt_of_quiet (point : Point)
    (effect : Table → Table) :
    ends (attempt throws point effect) table = (.ok (), effect table) := by
  rw [ends_attempt, if_neg (Bool.eq_false_iff.mp (quiet point))]

theorem ends_pushIf_of_quiet (role : Bool) (point : Point)
    (effect : Table → Table) :
    ends (pushIf throws role point effect) table =
      (.ok (), if role then effect table else table) := by
  cases role with
  | true => exact ends_attempt_of_quiet quiet point effect
  | false => rfl

theorem ends_placeByRole_of_quiet (connection : ClientConnection) :
    ends (placeByRole throws clock tick pointer connection) table =
      (.ok (),
        changeBuckets pointer (fun buckets =>
          Multiplexer.placeByRole buckets connection (clock (tick + 1))
            (clock (tick + 2))) table) := by
  rw [placeByRole, ends_bind, ends_pushIf_of_quiet quiet]
  show ends (pushIf throws _ _ _) _ = _
  rw [ends_pushIf_of_quiet quiet]
  cases sends : connection.isSending (clock (tick + 1)) with
  | true =>
      cases receives : connection.isReceiving (clock (tick + 2)) with
      | true =>
          simp only [if_true, changeBuckets_changeBuckets,
            Multiplexer.placeByRole, sends, receives]
      | false =>
          simp only [if_true, Bool.false_eq_true, if_false,
            Multiplexer.placeByRole, sends, receives]
  | false =>
      cases receives : connection.isReceiving (clock (tick + 2)) with
      | true =>
          simp only [if_true, Bool.false_eq_true, if_false,
            Multiplexer.placeByRole, sends, receives]
      | false =>
          simp only [Bool.false_eq_true, if_false,
            Multiplexer.placeByRole, sends, receives,
            changeBuckets_keep]

theorem ends_addClientConnection_of_quiet :
    ends (addClientConnection throws params clock tick pointer) table =
      match (table.heap pointer).addClientConnection params clock tick with
      | none => (.ok false, table)
      | some added =>
          (.ok true,
            { table with
              heap := Function.update table.heap pointer added }) := by
  rw [addClientConnection, ends_get_bind,
    ConnectionMultiplexer.addClientConnection]
  split
  · rfl
  · rw [ends_bind, ends_attempt_of_quiet quiet]
    show ends (placeByRole throws _ _ _ _ >>= _) table = _
    rw [ends_bind, ends_placeByRole_of_quiet quiet]
    rfl

theorem ends_joinSession_of_quiet :
    ends (joinSession throws params clock tick pointer) table =
      (.ok (table.joinSession pointer params clock tick).2,
        (table.joinSession pointer params clock tick).1) := by
  rw [joinSession, ends_get_bind, Table.joinSession]
  split
  · rfl
  · rw [ends_bind, ends_addClientConnection_of_quiet quiet]
    cases (table.heap pointer).addClientConnection params clock tick with
    | none => rfl
    | some added =>
        show ends (attempt throws _ _ >>= _) _ = _
        rw [ends_bind, ends_attempt_of_quiet quiet]
        rfl

end Undisturbed

/-! ## Calls which are turned away -/

theorem addClientConnection_rejected
    (rejected :
      ends (addClientConnection throws params clock tick pointer) table =
        (.ok false, after)) : table = after := by
  rw [addClientConnection, ends_get_bind] at rejected
  split at rejected
  · exact (ends_pure_eq_ok.mp rejected).2
  · obtain ⟨_, _, _, rest⟩ := ends_bind_eq_ok.mp rejected
    obtain ⟨_, _, _, rest⟩ := ends_bind_eq_ok.mp rest
    cases (ends_pure_eq_ok.mp rest).1

/-- Whoever cannot join has changed nothing. -/
theorem joinSession_rejected
    (rejected :
      ends (joinSession throws params clock tick pointer) table =
        (.ok none, after)) : table = after := by
  rw [joinSession, ends_get_bind] at rejected
  split at rejected
  · exact (ends_pure_eq_ok.mp rejected).2
  · obtain ⟨added, middle, first, rest⟩ := ends_bind_eq_ok.mp rejected
    cases added with
    | false =>
        obtain rfl := addClientConnection_rejected first
        exact (ends_pure_eq_ok.mp rest).2
    | true =>
        obtain ⟨_, _, _, rest⟩ := ends_bind_eq_ok.mp rest
        cases (ends_pure_eq_ok.mp rest).1

/-! ## The try block -/

/-- The table when the insertions begin. -/
def opened (params : ConnectParams) (clock : Nat → Int) (tick : Nat)
    (fakeIpv4 : IPv4Address) (fakeIpv6 : IPv6Address) (table : Table) :
    Table :=
  popAddresses (created params clock tick fakeIpv4 fakeIpv6 table)

/-- The table when an insertion has thrown. -/
def leftBehind (throws : Point → Bool) (params : ConnectParams)
    (clock : Nat → Int) (tick : Nat) (fakeIpv4 : IPv4Address)
    (fakeIpv6 : IPv6Address) (table : Table) : Table :=
  applyAll
    ((insertions params fakeIpv4 fakeIpv6 table.nextMplx).takeWhile
      fun statement => !throws statement.1)
    (opened params clock tick fakeIpv4 fakeIpv6 table)

/-- It ends at the creation, after all insertions, or with the first of them
which throws. -/
theorem ends_openSession :
    ends (openSession throws params clock tick fakeIpv4 fakeIpv6) table =
      if throws .create then
        (.error .create, table)
      else
        match (insertions params fakeIpv4 fakeIpv6 table.nextMplx).find?
            fun statement => throws statement.1 with
        | none =>
            (.ok (some table.nextMplx),
              applyAll
                (insertions params fakeIpv4 fakeIpv6 table.nextMplx)
                (opened params clock tick fakeIpv4 fakeIpv6 table))
        | some statement =>
            (.error statement.1,
              leftBehind throws params clock tick fakeIpv4 fakeIpv6
                table) := by
  rw [openSession, ends_get_bind, ends_bind, ends_attempt]
  cases throws .create with
  | true => rfl
  | false =>
      show ends (modify popAddresses >>= _)
        (created params clock tick fakeIpv4 fakeIpv6 table) = _
      rw [ends_bind, ends_modify]
      show ends (attemptAll throws _ >>= _)
        (opened params clock tick fakeIpv4 fakeIpv6 table) = _
      rw [ends_bind, ends_attemptAll]
      cases (insertions params fakeIpv4 fakeIpv6 table.nextMplx).find?
        fun statement => throws statement.1 with
      | none => rfl
      | some statement => rfl

theorem find_insertions_eq_none :
    ((insertions params fakeIpv4 fakeIpv6 pointer).find?
        fun statement => throws statement.1) = none ↔
      ∀ point ∈ insertionPoints, throws point = false := by
  have points : insertionPoints =
      (insertions params fakeIpv4 fakeIpv6 pointer).map Prod.fst := rfl
  rw [List.find?_eq_none, points, List.forall_mem_map]
  simp only [Bool.not_eq_true]

/-- The last address has been taken from each pool. -/
structure Taken (before after : Table) : Prop where
  freeIpv4 : after.freeIpv4 = before.freeIpv4.dropLast
  freeIpv6 : after.freeIpv6 = before.freeIpv6.dropLast

/-- No insertion gives an address back. -/
theorem taken_leftBehind :
    Taken table
      (leftBehind throws params clock tick fakeIpv4 fakeIpv6 table) := by
  refine applyAll_keeps ?_ ⟨rfl, rfl⟩
  intro statement member left taken
  have listed := (List.takeWhile_sublist _).subset member
  simp only [insertions, List.mem_cons, List.not_mem_nil, or_false]
    at listed
  rcases listed with rfl | rfl | rfl | rfl
  · exact ⟨taken.freeIpv4, taken.freeIpv6⟩
  · exact ⟨taken.freeIpv4, taken.freeIpv6⟩
  · exact ⟨taken.freeIpv4, taken.freeIpv6⟩
  · exact ⟨taken.freeIpv4, taken.freeIpv6⟩

/-! ## A whole call -/

/-- A call which gets as far as the try block. -/
theorem ends_addConnection_of_absent
    (absent :
      table.sessionToMplx.lookup params.request.sessionId = none)
    (lastIpv4 : table.freeIpv4.getLast? = some fakeIpv4)
    (lastIpv6 : table.freeIpv6.getLast? = some fakeIpv6) :
    ends (addConnection throws params clock tick) table =
      if throws .copyIpv4 then
        (.error .copyIpv4, table)
      else if throws .copyIpv6 then
        (.error .copyIpv6, table)
      else
        match ends
            (openSession throws params clock tick fakeIpv4 fakeIpv6)
            table with
        | (.ok mplx, left) => (.ok mplx, left)
        | (.error _, left) => (.ok none, left) := by
  rw [addConnection, ends_get_bind]
  simp only [absent, lastIpv4, lastIpv6]
  rw [ends_bind, ends_attempt]
  cases throws .copyIpv4 with
  | true => rfl
  | false =>
      show ends (attempt throws .copyIpv6 id >>= _) table = _
      rw [ends_bind, ends_attempt]
      cases throws .copyIpv6 with
      | true => rfl
      | false =>
          show ends (tryCatch _ _) table = _
          rw [ends_tryCatch, if_neg Bool.false_ne_true,
            if_neg Bool.false_ne_true]
          rcases ends (openSession throws params clock tick fakeIpv4
            fakeIpv6) table with ⟨_ | _, left⟩
          · rfl
          · rfl

theorem ends_addConnection_of_pools
    (absent :
      table.sessionToMplx.lookup params.request.sessionId = none)
    (exhausted :
      table.freeIpv4.getLast? = none ∨ table.freeIpv6.getLast? = none) :
    ends (addConnection throws params clock tick) table =
      (.ok none, table) := by
  rw [addConnection, ends_get_bind]
  simp only [absent]
  split
  next fakeIpv4 fakeIpv6 lastIpv4 lastIpv6 =>
    rcases exhausted with no | no
    · cases lastIpv4.symm.trans no
    · cases lastIpv6.symm.trans no
  · rfl

/-- Without exceptions it is the call without exceptions. -/
theorem ends_addConnection_of_quiet
    (quiet : ∀ point, throws point = false) :
    ends (addConnection throws params clock tick) table =
      (.ok (table.addConnection params clock tick).2,
        (table.addConnection params clock tick).1) := by
  cases found : table.sessionToMplx.lookup params.request.sessionId with
  | some pointer =>
      rw [addConnection, ends_get_bind, Table.addConnection]
      simp only [found]
      exact ends_joinSession_of_quiet quiet
  | none =>
      rw [Table.addConnection]
      simp only [found]
      cases lastIpv4 : table.freeIpv4.getLast? with
      | none => exact ends_addConnection_of_pools found (Or.inl lastIpv4)
      | some fakeIpv4 =>
          cases lastIpv6 : table.freeIpv6.getLast? with
          | none =>
              exact ends_addConnection_of_pools found (Or.inr lastIpv6)
          | some fakeIpv6 =>
              rw [ends_addConnection_of_absent found lastIpv4 lastIpv6,
                quiet, if_neg Bool.false_ne_true, quiet,
                if_neg Bool.false_ne_true, ends_openSession, quiet,
                if_neg Bool.false_ne_true,
                find_insertions_eq_none.mpr fun point _ => quiet point]
              rfl

/-- The call opens a session, and one of the insertions throws. -/
structure InsertionThrows (throws : Point → Bool)
    (params : ConnectParams) (table : Table) : Prop where
  absent : table.sessionToMplx.lookup params.request.sessionId = none
  ipv4 : table.freeIpv4 ≠ []
  ipv6 : table.freeIpv6 ≠ []
  created : ∀ point ∈ [Point.copyIpv4, Point.copyIpv6, Point.create],
    throws point = false
  thrown : ∃ point ∈ insertionPoints, throws point = true

/-- What is left behind then. -/
theorem ends_addConnection_of_insertionThrows
    (failed : InsertionThrows throws params table) :
    ∃ fakeIpv4 fakeIpv6,
      table.freeIpv4.getLast? = some fakeIpv4 ∧
        table.freeIpv6.getLast? = some fakeIpv6 ∧
        ends (addConnection throws params clock tick) table =
          (.ok none,
            leftBehind throws params clock tick fakeIpv4 fakeIpv6
              table) := by
  obtain ⟨fakeIpv4, lastIpv4⟩ :=
    Option.isSome_iff_exists.mp (List.getLast?_isSome.mpr failed.ipv4)
  obtain ⟨fakeIpv6, lastIpv6⟩ :=
    Option.isSome_iff_exists.mp (List.getLast?_isSome.mpr failed.ipv6)
  refine ⟨fakeIpv4, fakeIpv6, lastIpv4, lastIpv6, ?_⟩
  rw [ends_addConnection_of_absent failed.absent lastIpv4 lastIpv6,
    failed.created .copyIpv4 (by decide), if_neg Bool.false_ne_true,
    failed.created .copyIpv6 (by decide), if_neg Bool.false_ne_true,
    ends_openSession, failed.created .create (by decide),
    if_neg Bool.false_ne_true]
  cases first : (insertions params fakeIpv4 fakeIpv6
    table.nextMplx).find? fun statement => throws statement.1 with
  | none =>
      obtain ⟨point, member, thrown⟩ := failed.thrown
      rw [find_insertions_eq_none.mp first point member] at thrown
      cases thrown
  | some statement => rfl

/-- A call which comes to the try block and returns null. -/
theorem same_or_insertionThrows_of_absent
    (absent :
      table.sessionToMplx.lookup params.request.sessionId = none)
    (lastIpv4 : table.freeIpv4.getLast? = some fakeIpv4)
    (lastIpv6 : table.freeIpv6.getLast? = some fakeIpv6)
    (returned :
      ends (addConnection throws params clock tick) table =
        (.ok none, after)) :
    table = after ∨ InsertionThrows throws params table := by
  rw [ends_addConnection_of_absent absent lastIpv4 lastIpv6] at returned
  split at returned
  · cases returned
  · rename_i copiesIpv4
    split at returned
    · cases returned
    · rename_i copiesIpv6
      rw [ends_openSession] at returned
      cases creates : throws .create with
      | true =>
          rw [creates, if_pos rfl] at returned
          exact Or.inl (Prod.mk.inj returned).2
      | false =>
          rw [creates, if_neg Bool.false_ne_true] at returned
          cases first : (insertions params fakeIpv4 fakeIpv6
            table.nextMplx).find? fun statement =>
              throws statement.1 with
          | none =>
              rw [first] at returned
              cases returned
          | some statement =>
              refine Or.inr ⟨absent, ?_, ?_, ?_, statement.1, ?_, ?_⟩
              · exact List.getLast?_isSome.mp
                  (Option.isSome_iff_exists.mpr ⟨_, lastIpv4⟩)
              · exact List.getLast?_isSome.mp
                  (Option.isSome_iff_exists.mpr ⟨_, lastIpv6⟩)
              · simp only [List.forall_mem_cons, List.not_mem_nil,
                  false_imp_iff, implies_true, and_true]
                exact ⟨Bool.eq_false_iff.mpr copiesIpv4,
                  Bool.eq_false_iff.mpr copiesIpv6, creates⟩
              · show statement.1 ∈ (insertions params fakeIpv4 fakeIpv6
                  table.nextMplx).map Prod.fst
                exact List.mem_map_of_mem
                  (List.mem_of_find?_eq_some first)
              · have thrown := List.find?_some first
                exact thrown

/-- A call which fails otherwise leaves everything. -/
theorem same_or_insertionThrows
    (returned :
      ends (addConnection throws params clock tick) table =
        (.ok none, after)) :
    table = after ∨ InsertionThrows throws params table := by
  cases found : table.sessionToMplx.lookup params.request.sessionId with
  | some pointer =>
      rw [addConnection, ends_get_bind] at returned
      simp only [found] at returned
      exact Or.inl (joinSession_rejected returned)
  | none =>
      cases lastIpv4 : table.freeIpv4.getLast? with
      | none =>
          rw [ends_addConnection_of_pools found (Or.inl lastIpv4)]
            at returned
          exact Or.inl (Prod.mk.inj returned).2
      | some fakeIpv4 =>
          cases lastIpv6 : table.freeIpv6.getLast? with
          | none =>
              rw [ends_addConnection_of_pools found (Or.inr lastIpv6)]
                at returned
              exact Or.inl (Prod.mk.inj returned).2
          | some fakeIpv6 =>
              exact same_or_insertionThrows_of_absent found lastIpv4
                lastIpv6 returned

/-! ## Failures which change nothing -/

/-- The pools and the maps are the same. -/
structure SameEntries (before after : Table) : Prop where
  freeIpv4 : after.freeIpv4 = before.freeIpv4
  freeIpv6 : after.freeIpv6 = before.freeIpv6
  sessionToMplx : after.sessionToMplx = before.sessionToMplx
  ipv4ToMplx : after.ipv4ToMplx = before.ipv4ToMplx
  ipv6ToMplx : after.ipv6ToMplx = before.ipv6ToMplx
  clientToMplx : after.clientToMplx = before.clientToMplx

/-- When a null pointer is returned, nothing has changed. -/
def FailureChangesNothing (throws : Point → Bool)
    (params : ConnectParams) (clock : Nat → Int) (tick : Nat)
    (table : Table) : Prop :=
  ∀ after,
    ends (addConnection throws params clock tick) table =
      (.ok none, after) →
    SameEntries table after

/-- That is so unless one of the insertions throws. -/
theorem failureChangesNothing_iff :
    FailureChangesNothing throws params clock tick table ↔
      ¬ InsertionThrows throws params table := by
  constructor
  · intro changesNothing failed
    obtain ⟨fakeIpv4, fakeIpv6, -, -, returned⟩ :=
      ends_addConnection_of_insertionThrows failed
    have same := (changesNothing _ returned).freeIpv4
    have shorter : table.freeIpv4.dropLast = table.freeIpv4 :=
      taken_leftBehind.freeIpv4.symm.trans same
    have less := congrArg List.length shorter
    rw [List.length_dropLast] at less
    have some_ := List.length_pos_iff.mpr failed.ipv4
    omega
  · intro insertsAll after returned
    rcases same_or_insertionThrows returned with rfl | failed
    · exact ⟨rfl, rfl, rfl, rfl, rfl, rfl⟩
    · exact absurd failed insertsAll

/-! ## A session which is half registered -/

/-- The client is inserted last, and so it never is. -/
theorem clientToMplx_leftBehind
    (thrown : ∃ point ∈ insertionPoints, throws point = true) :
    (leftBehind throws params clock tick fakeIpv4 fakeIpv6
        table).clientToMplx = table.clientToMplx := by
  rw [leftBehind, insertions]
  cases session : throws .insertSession with
  | true => simp only [List.takeWhile_cons, session]; rfl
  | false =>
      cases ipv4 : throws .insertIpv4 with
      | true => simp only [List.takeWhile_cons, session, ipv4]; rfl
      | false =>
          cases ipv6 : throws .insertIpv6 with
          | true =>
              simp only [List.takeWhile_cons, session, ipv4, ipv6]; rfl
          | false =>
              have client : throws .insertClient = true := by
                simpa [insertionPoints, session, ipv4, ipv6] using thrown
              simp only [List.takeWhile_cons, session, ipv4, ipv6,
                client]
              rfl

/-- The session is there with its only connection. -/
structure HalfRegistered (params : ConnectParams) (clock : Nat → Int)
    (tick : Nat) (fakeIpv4 : IPv4Address) (fakeIpv6 : IPv6Address)
    (pointer : MplxPtr) (table : Table) : Prop where
  session :
    table.sessionToMplx.lookup params.request.sessionId = some pointer
  object :
    table.heap pointer = create params fakeIpv4 fakeIpv6 clock tick

/-- So it is when the first insertion does not throw. -/
theorem halfRegistered_leftBehind
    (absent :
      table.sessionToMplx.lookup params.request.sessionId = none)
    (inserted : throws .insertSession = false) :
    HalfRegistered params clock tick fakeIpv4 fakeIpv6 table.nextMplx
      (leftBehind throws params clock tick fakeIpv4 fakeIpv6 table) := by
  rw [leftBehind, insertions, List.takeWhile_cons, inserted,
    Bool.not_false, if_pos rfl, applyAll_cons]
  refine applyAll_keeps ?_ ⟨lookup_insert absent, ?_⟩
  · intro statement member left half
    have listed := (List.takeWhile_sublist _).subset member
    simp only [List.mem_cons, List.not_mem_nil, or_false] at listed
    rcases listed with rfl | rfl | rfl
    · exact ⟨half.session, half.object⟩
    · exact ⟨half.session, half.object⟩
    · exact ⟨half.session, half.object⟩
  · exact Function.update_self _ _ _

/-- The client cannot be removed. -/
theorem delConnectionByClientId_leftBehind
    (thrown : ∃ point ∈ insertionPoints, throws point = true)
    (unknown : table.clientToMplx.lookup params.clientId = none) :
    (leftBehind throws params clock tick fakeIpv4 fakeIpv6
        table).delConnectionByClientId params.clientId =
      (leftBehind throws params clock tick fakeIpv4 fakeIpv6 table,
        false) := by
  rw [Table.delConnectionByClientId, clientToMplx_leftBehind thrown,
    unknown]

/-- Nor can it try again. -/
theorem addConnection_again {later : Point → Bool} {laterTick : Nat}
    (monotone : Monotone clock)
    (absent :
      table.sessionToMplx.lookup params.request.sessionId = none)
    (inserted : throws .insertSession = false) :
    ends (addConnection later params clock laterTick)
        (leftBehind throws params clock tick fakeIpv4 fakeIpv6 table) =
      (.ok none,
        leftBehind throws params clock tick fakeIpv4 fakeIpv6 table) := by
  have half : HalfRegistered params clock tick fakeIpv4 fakeIpv6
      table.nextMplx
      (leftBehind throws params clock tick fakeIpv4 fakeIpv6 table) :=
    halfRegistered_leftBehind absent inserted
  have connected :
      (create params fakeIpv4 fakeIpv6 clock tick).Connected
        params.clientId :=
    (ConnectionMultiplexer.create_connected monotone).mpr rfl
  have sameUser :
      ¬ (create params fakeIpv4 fakeIpv6 clock tick).username ≠
        params.user.username :=
    not_not.mpr rfl
  rw [addConnection, ends_get_bind]
  simp only [half.session]
  rw [joinSession, ends_get_bind, half.object,
    if_neg sameUser, ends_bind, addClientConnection, ends_get_bind,
    half.object, if_pos]
  · rfl
  · rw [Bool.or_eq_true, contains_iff, contains_iff]
    exact connected

end Ends

/-! ## An address which is lost -/

/-- Parameters of a connection in both directions. -/
def someParams : ConnectParams where
  clientId := 7
  request := {
    sessionId := "s"
    sendDurationMs := 0
    ttlMs := 0
    clientTunVpnIpv4 := ⟨"10.10.0.2", 0x0A0A0002⟩
    clientTunVpnIpv6 := ⟨"fd00::2", some 0xFD000000000000000000000000000002⟩ }
  user := ⟨"user"⟩

/-- A new table with one address of each kind. -/
def oneAddress : Table :=
  .start [⟨"10.10.0.2", 0x0A0A0002⟩]
    [⟨"fd00::2", some 0xFD000000000000000000000000000002⟩]

/-- The first insertion throws, and the addresses are in no pool and in no
map. -/
theorem addConnection_loses_addresses :
    ¬ ∀ throws params clock tick table,
      FailureChangesNothing throws params clock tick table := by
  intro always
  have same : SameEntries oneAddress _ :=
    always (fun point => point == .insertSession) someParams
      (fun tick => tick) 0 oneAddress _ rfl
  have lost := same.freeIpv4
  cases lost

end Fptn.NatTable.FailedConnection
