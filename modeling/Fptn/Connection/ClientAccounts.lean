import Fptn.Connection.Rolling
import Mathlib.Data.List.Nodup

/-!
# What becomes of websocket clients

A strategy creates its clients one after another, and each of them has to be
stopped when the strategy lets go of it.  The accounts say of all clients
created so far which are still held, and that the others have been stopped.
They are kept by whatever a strategy does: it creates a client, passes one on,
stops it or lets go of it, and clients change by themselves.
-/

namespace Fptn.Connection.ClientAccounts

open Fptn.Connection.PoolStrategies
open Fptn.Connection.Rolling

variable {client after : ClientPtr → WebsocketClient}
  {count countAfter connection : ClientPtr} {holding held : List ClientPtr}

/-- A client which has been run is up until it is stopped, once and for
all. -/
def Consistent (client : WebsocketClient) : Prop :=
  client.wasStopped = !client.running

/-- Each connection which the tunnel does not hold has been stopped. -/
structure Accounts (client : ClientPtr → WebsocketClient)
    (count : ClientPtr) (holding : List ClientPtr) : Prop where
  created : ∀ connection ∈ holding, connection < count
  distinct : holding.Nodup
  stopped : ∀ connection < count, connection ∉ holding →
    (client connection).wasStopped = true
  consistent : ∀ connection < count, Consistent (client connection)

/-- What may happen to a client.  It stays consistent, and stopped. -/
structure Changes (before after : WebsocketClient) : Prop where
  consistent : Consistent before → Consistent after
  stopped : before.wasStopped = true → after.wasStopped = true

theorem changes_stop (client : WebsocketClient) :
    Changes client client.stop := by
  constructor <;>
  · intro known
    rw [WebsocketClient.stop]
    split
    · rfl
    · exact known

theorem changes_apply (client : WebsocketClient) (event : ClientEvent) :
    Changes client (event.apply client) := by
  cases event with
  | connected | lost => exact ⟨id, id⟩
  | stops => exact changes_stop client

theorem Consistent.stop {client : WebsocketClient}
    (consistent : Consistent client) : client.stop.wasStopped = true := by
  rw [WebsocketClient.stop]
  split
  case isTrue => rfl
  case isFalse up =>
      rw [consistent]
      simpa using up

/-! ## Accounts -/

theorem Accounts.perm (accounts : Accounts client count holding)
    (same : held.Perm holding) : Accounts client count held where
  created connection member :=
    accounts.created connection (same.subset member)
  distinct := same.nodup_iff.mpr accounts.distinct
  stopped connection known absent :=
    accounts.stopped connection known
      fun member => absent (same.symm.subset member)
  consistent := accounts.consistent

/-- A new connection is run. -/
theorem Accounts.create (accounts : Accounts client count holding) :
    Accounts (Function.update client count WebsocketClient.create.run)
      (count + 1) (count :: holding) := by
  have older : ∀ connection < count + 1, connection ≠ count →
      connection < count := by
    intro connection known different
    exact Nat.lt_of_le_of_ne (Nat.le_of_lt_succ known) different
  constructor
  · intro connection member
    rcases List.mem_cons.mp member with rfl | member
    · exact Nat.lt_succ_self _
    · exact Nat.lt_succ_of_lt (accounts.created connection member)
  · refine List.nodup_cons.mpr ⟨fun member => ?_, accounts.distinct⟩
    exact Nat.lt_irrefl _ (accounts.created count member)
  · intro connection known absent
    have different := List.ne_of_not_mem_cons absent
    rw [Function.update_of_ne different]
    exact
      accounts.stopped connection (older connection known different)
        (List.not_mem_of_not_mem_cons absent)
  · intro connection known
    by_cases here : connection = count
    · rw [here, Function.update_self]
      rfl
    · rw [Function.update_of_ne here]
      exact accounts.consistent connection (older connection known here)

/-- A stopped client stays so, whichever client changes. -/
theorem Changes.update {change : WebsocketClient} {other : ClientPtr}
    (changes : Changes (client connection) change)
    (stopped : (client other).wasStopped = true) :
    (Function.update client connection change other).wasStopped =
      true := by
  by_cases here : other = connection
  · subst here
    rw [Function.update_self]
    exact changes.stopped stopped
  · rwa [Function.update_of_ne here]

theorem Accounts.change {change : WebsocketClient}
    (accounts : Accounts client count holding)
    (changes : Changes (client connection) change) :
    Accounts (Function.update client connection change) count holding where
  created := accounts.created
  distinct := accounts.distinct
  stopped other known absent :=
    changes.update (accounts.stopped other known absent)
  consistent other known := by
    have before := accounts.consistent other known
    by_cases here : other = connection
    · subst here
      rw [Function.update_self]
      exact changes.consistent before
    · rwa [Function.update_of_ne here]

/-- A connection which has been stopped need not be held any longer. -/
theorem Accounts.release
    (accounts : Accounts client count (connection :: holding))
    (stopped : (client connection).wasStopped = true) :
    Accounts client count holding where
  created other member :=
    accounts.created other (List.mem_cons_of_mem _ member)
  distinct := accounts.distinct.of_cons
  stopped other known absent := by
    by_cases here : other = connection
    · rw [here]
      exact stopped
    · exact
        accounts.stopped other known
          (List.not_mem_cons_of_ne_of_not_mem here absent)
  consistent := accounts.consistent

theorem Accounts.stop
    (accounts : Accounts client count (connection :: holding)) :
    Accounts (Function.update client connection (client connection).stop)
      count holding := by
  refine (accounts.change (changes_stop _)).release ?_
  rw [Function.update_self]
  exact
    (accounts.consistent connection
      (accounts.created connection List.mem_cons_self)).stop

theorem Accounts.releaseAll {closed : List ClientPtr}
    (accounts : Accounts client count (closed ++ holding))
    (stopped : ∀ connection ∈ closed,
      (client connection).wasStopped = true) :
    Accounts client count holding := by
  induction closed with
  | nil => exact accounts
  | cons connection closed ih =>
      exact
        ih (accounts.release (stopped connection List.mem_cons_self))
          fun other member =>
            stopped other (List.mem_cons_of_mem _ member)

/-- The clients are stopped one after another. -/
def stopAll (client : ClientPtr → WebsocketClient)
    (closed : List ClientPtr) : ClientPtr → WebsocketClient :=
  closed.foldl
    (fun client connection =>
      Function.update client connection (client connection).stop)
    client

theorem Accounts.stopAll {closed : List ClientPtr}
    (accounts : Accounts client count (closed ++ holding)) :
    Accounts (stopAll client closed) count holding := by
  induction closed generalizing client with
  | nil => exact accounts
  | cons connection closed ih => exact ih accounts.stop

/-! ## Later states -/

/-- No client is taken back, and none comes up again. -/
def Evolves (client : ClientPtr → WebsocketClient) (count : ClientPtr)
    (after : ClientPtr → WebsocketClient) (countAfter : ClientPtr) :
    Prop :=
  ∀ connection < count, connection < countAfter ∧
    Changes (client connection) (after connection)

theorem evolves_refl : Evolves client count client count :=
  fun _ known => ⟨known, id, id⟩

theorem Evolves.trans {last : ClientPtr → WebsocketClient}
    {countLast : ClientPtr}
    (first : Evolves client count after countAfter)
    (second : Evolves after countAfter last countLast) :
    Evolves client count last countLast := by
  intro connection known
  obtain ⟨knownAfter, changes⟩ := first connection known
  obtain ⟨knownLast, later⟩ := second connection knownAfter
  exact
    ⟨knownLast, fun consistent => later.consistent (changes.consistent
      consistent), fun stopped => later.stopped (changes.stopped stopped)⟩

theorem evolves_change {change : WebsocketClient}
    (changes : Changes (client connection) change) :
    Evolves client count (Function.update client connection change)
      count := by
  intro other known
  refine ⟨known, ?_⟩
  by_cases here : other = connection
  · subst here
    rw [Function.update_self]
    exact changes
  · rw [Function.update_of_ne here]
    exact ⟨id, id⟩

theorem evolves_create :
    Evolves client count
      (Function.update client count WebsocketClient.create.run)
      (count + 1) := by
  intro connection known
  refine ⟨Nat.lt_succ_of_lt known, ?_⟩
  rw [Function.update_of_ne (Nat.ne_of_lt known)]
  exact ⟨id, id⟩

theorem evolves_stopAll (closed : List ClientPtr) :
    Evolves client count (stopAll client closed) count := by
  induction closed generalizing client with
  | nil => exact evolves_refl
  | cons connection closed ih =>
      exact (evolves_change (changes_stop _)).trans ih

/-- A client which is not held is down for good. -/
theorem Accounts.released (accounts : Accounts client count holding)
    (known : connection < count) (absent : connection ∉ holding)
    (evolves : Evolves client count after countAfter) :
    (after connection).wasStopped = true ∧
      (after connection).isStarted = false := by
  have changes := (evolves connection known).2
  have stopped :=
    changes.stopped (accounts.stopped connection known absent)
  have consistent :=
    changes.consistent (accounts.consistent connection known)
  have down : (after connection).running = false := by
    simpa [Consistent, stopped] using consistent
  refine ⟨stopped, ?_⟩
  rw [WebsocketClient.isStarted, down]
  rfl

end Fptn.Connection.ClientAccounts
