import Fptn.Web.SessionCleanup

/-!
# Stopping the server

`Server::Stop` takes the server's mutex and joins the workers while it holds
it.  A worker which has passed its test of `running_` before `Stop` cleared
it, and gets to the mutex after `Stop`, is never joined.  Once `Stop` has the
mutex, nobody passes these tests any more; so it is enough to look at those
who have passed them then.
-/

namespace Fptn.Web.Shutdown

open Fptn.PartialRun
open Fptn.NatTable.Multiplexer
open Fptn.NatTable.SessionTable
open Fptn.NatTable.TableInvariant
open Fptn.Network.IPAddress
open Fptn.Web.WebServer
open Fptn.Web.SessionCleanup
open Fptn.Web.SessionMoves

/-! ## Waiting workers -/

def runCall : RunPlace → Option CloseCall
  | .closing call => some call
  | _ => none

def loopCall : LoopPlace → Option CloseCall
  | .closing call => some call
  | _ => none

/-- A call of `Close` which does not return before the session is closed. -/
def Blocks (call : Option CloseCall) : Prop :=
  call = some .lock ∨ call = some .inside

/-- A coroutine of the session occupies a worker until it is closed. -/
def AwaitsClose (session : Session) : Prop :=
  Blocks (runCall session.run) ∨ Blocks (loopCall session.reader) ∨
    Blocks (loopCall session.sender)

def atLock : RunPlace → Bool
  | .openLock _ _ => true
  | _ => false

/-- A worker waits for the server's mutex: in `HandleWsOpenConnection`, or
until `HandleWsCloseConnection` gets it. -/
def AwaitsMutex (session : Session) : Prop :=
  atLock session.run = true ∨
    session.close = .closeLock ∧ AwaitsClose session

/-- `Stop` does not join a worker which waits for the mutex. -/
def NoDeadlock (server : Server) : Prop :=
  server.stop = .join →
    ∀ id ∈ server.clients, ¬AwaitsMutex (server.session id)

/-- `Stop` holds the mutex and has not joined all workers. -/
def Holding : StopPlace → Prop
  | .visiting _ | .closing _ _ _ | .stopContext | .join => True
  | _ => False

instance (call : Option CloseCall) : Decidable (Blocks call) :=
  inferInstanceAs (Decidable (_ ∨ _))

instance (session : Session) : Decidable (AwaitsMutex session) :=
  inferInstanceAs (Decidable (_ ∨ _ ∧ (_ ∨ _ ∨ _)))

instance : (place : StopPlace) → Decidable (Holding place)
  | .visiting _ | .closing _ _ _ | .stopContext | .join => isTrue trivial
  | .idle | .clear | .lock | .done => isFalse id

/-- The user of a request which is checked against the session limit. -/
def checked (server : Server) : Server.Label → Option String
  | .run id .proceed =>
      match (server.session id).run with
      | .openCount _ username => some username
      | _ => none
  | _ => none

/-- No worker waits for the mutex when `Stop` takes it, and none of those
which have tested `running_` before passes the session limit afterwards. -/
def Unhindered (config : Config) (server : Server) (label : Server.Label) :
    Prop :=
  (label = .stop → server.stop = .lock →
    ∀ id ∈ server.clients, ¬AwaitsMutex (server.session id)) ∧
  (Holding server.stop → ∀ username ∈ checked server label,
    config.maxActiveSessionsPerUser <
      server.world.table.getNumberActiveSessionByUsername username)

instance (config : Config) (server : Server) (label : Server.Label) :
    Decidable (Unhindered config server label) :=
  have : Decidable
      (∀ id ∈ server.clients, ¬AwaitsMutex (server.session id)) :=
    List.decidableBAll _ _
  inferInstanceAs (Decidable (_ ∧ _))

variable {config : Config} {server next : Server} {id : ClientID}
  {label : Server.Label}

/-! ## Steps -/

/-- While a session waits for the mutex, calls of its `Close` only return. -/
theorem called_returns {session after : Session} {call : CloseCall}
    {rest : Option CloseCall} (attended : Attended session)
    (called : Called session call after rest)
    (place : after.close = .closeLock) :
    after = session ∧ rest = none := by
  cases called with
  | late | returned => exact ⟨rfl, rfl⟩
  | tested runs =>
      have stopped := attended.closed (by rw [place]; exact nofun)
      exact absurd (stopped.symm.trans runs) Bool.false_ne_true
  | entered => cases place

/-- A worker only gets to `HandleWsOpenConnection`'s mutex by passing the
session limit. -/
theorem moves_atLock {after : View}
    (limited : ∀ username ∈ checked server label,
      config.maxActiveSessionsPerUser <
        server.world.table.getNumberActiveSessionByUsername username)
    (moves : Moves config server id label after)
    (locks : atLock after.session.run = true) :
    atLock (server.session id).run = true := by
  cases moves with
  | @advances _ place _ _ _ notLocking =>
      cases place with
      | openLock open_ username => exact absurd rfl (notLocking open_ username)
      | _ => cases locks
  | @passesLimit open_ username here below =>
      have user : username ∈ checked server (.run id .proceed) := by
        simp only [checked, here]
        exact rfl
      exact absurd (limited username user) below
  | refused | added | disabled | opened | served | failed => cases locks
  | inserted _ there => rcases there with rfl | rfl <;> cases locks
  | @runCalls _ _ rest => cases rest <;> cases locks
  | readerCalls _ called | senderCalls _ called | sweeperCalls _ called
  | stopCalls _ called => exact called.run ▸ locks
  | rests | readerLeaves | senderLeaves | callsBack | skipsCallback
  | testsServer | skipsErase | erased | forgotten | sweeperFinds
  | stopClears => exact locks

theorem not_blocks_none : ¬Blocks none := by
  rintro (none | none) <;> cases none

theorem not_blocks_test : ¬Blocks (some .test) := by
  rintro (test | test) <;> cases test

/-- A worker only gets to `HandleWsCloseConnection`'s mutex while `running_`
is set. -/
theorem moves_closeLock {after : View}
    (attended : Attended (server.session id))
    (stopped : server.running = false)
    (moves : Moves config server id label after)
    (place : after.session.close = .closeLock)
    (awaits : AwaitsClose after.session) :
    (server.session id).close = .closeLock ∧
      AwaitsClose (server.session id) := by
  cases moves with
  | rests | sweeperFinds | stopClears => exact ⟨place, awaits⟩
  | @advances _ other _ still =>
      refine ⟨place, Or.inr (awaits.resolve_left fun blocks => ?_)⟩
      cases other <;> first | exact not_blocks_none blocks | cases still
  | passesLimit | added | disabled | opened =>
      exact ⟨place, Or.inr (awaits.resolve_left not_blocks_none)⟩
  | inserted _ there =>
      refine ⟨place, Or.inr (awaits.resolve_left fun blocks => ?_)⟩
      rcases there with rfl | rfl <;> exact not_blocks_none blocks
  | refused | failed =>
      exact ⟨place, Or.inr (awaits.resolve_left not_blocks_test)⟩
  | served =>
      rcases awaits with blocks | blocks | blocks
      all_goals exact absurd blocks not_blocks_none
  | runCalls _ called =>
      obtain ⟨rfl, rfl⟩ := called_returns attended called place
      exact ⟨place, Or.inr (awaits.resolve_left not_blocks_none)⟩
  | readerLeaves =>
      refine ⟨place, awaits.imp_right (Or.imp_left fun blocks => ?_)⟩
      exact absurd blocks not_blocks_test
  | readerCalls _ called =>
      obtain ⟨rfl, rfl⟩ := called_returns attended called place
      refine ⟨place, awaits.imp_right (Or.imp_left fun blocks => ?_)⟩
      exact absurd blocks not_blocks_none
  | senderLeaves =>
      refine ⟨place, awaits.imp_right (Or.imp_right fun blocks => ?_)⟩
      exact absurd blocks not_blocks_test
  | senderCalls _ called =>
      obtain ⟨rfl, rfl⟩ := called_returns attended called place
      refine ⟨place, awaits.imp_right (Or.imp_right fun blocks => ?_)⟩
      exact absurd blocks not_blocks_none
  | callsBack | skipsCallback | skipsErase | erased | forgotten =>
      cases place
  | testsServer here runs =>
      exact absurd (stopped.symm.trans runs) Bool.false_ne_true
  | sweeperCalls _ called | stopCalls _ called =>
      obtain ⟨rfl, rfl⟩ := called_returns attended called place
      exact ⟨place, awaits⟩

/-! ## Runs -/

/-- While `Stop` holds the mutex, no worker waits for it. -/
def Free (server : Server) : Prop :=
  Holding server.stop →
    ∀ id ∈ server.clients, ¬AwaitsMutex (server.session id)

theorem stopping_of_holding {place : StopPlace} (holding : Holding place) :
    Stopping place := by
  cases place <;> trivial

/-- `Stop` gets hold of the mutex at one place. -/
theorem step_holding (taken : server.step config label = some next)
    (holding : Holding next.stop) :
    Holding server.stop ∨ label = .stop ∧ server.stop = .lock := by
  by_cases other : label = .stop
  · subst other
    cases place : server.stop with
    | lock => exact Or.inr ⟨rfl, rfl⟩
    | visiting | closing | stopContext | join => exact Or.inl trivial
    | idle | clear | done =>
        simp only [Server.step, Server.stopStep, place] at taken
        first
          | (split at taken <;> cases taken; exact holding.elim)
          | (cases taken; exact holding.elim)
          | cases taken
  · rw [(step_stop other taken).2] at holding
    exact Or.inl holding

/-- Somebody who has not been accepted does not wait. -/
theorem not_awaits_of_unstarted (unstarted : Unstarted server)
    (notClient : id ∉ server.clients) :
    ¬AwaitsMutex (server.session id) := by
  obtain ⟨run, reader, sender⟩ := unstarted id notClient
  rw [AwaitsMutex, AwaitsClose, run, reader, sender]
  rintro (atLock | ⟨-, blocks | blocks | blocks⟩)
  · cases atLock
  all_goals exact not_blocks_none blocks

theorem step_free (ordered : Ordered server) (unstarted : Unstarted server)
    (free : Free server) (unhindered : Unhindered config server label)
    (taken : server.step config label = some next) :
    Free next := by
  intro holding id client awaits
  have moves := @step_moves config server next id label ordered.unused taken
  have obtained := step_holding taken holding
  have stopped : server.running = false := by
    rcases obtained with held | ⟨-, lock⟩
    · exact ordered.stopping (stopping_of_holding held)
    · exact ordered.stopping (by rw [lock]; trivial)
  have limited : ∀ username ∈ checked server label,
      config.maxActiveSessionsPerUser <
        server.world.table.getNumberActiveSessionByUsername username := by
    rcases obtained with held | ⟨rfl, -⟩
    · exact unhindered.2 held
    · exact fun _ none => nomatch none
  have before : AwaitsMutex (server.session id) := by
    rcases awaits with locks | ⟨place, closes⟩
    · exact Or.inl (moves_atLock limited moves locks)
    · exact
        Or.inr
          (moves_closeLock (ordered.attended id) stopped moves place closes)
  have old : id ∈ server.clients := by
    by_contra notClient
    exact not_awaits_of_unstarted unstarted notClient before
  rcases obtained with held | ⟨stop, lock⟩
  · exact free held id old before
  · exact unhindered.1 stop lock id old before

variable {ipv4 : List IPv4Address} {ipv6 : List IPv6Address}
  {labels : List Server.Label}

/-- `Stop` never joins a worker which waits for the mutex, if no worker waits
for it when `Stop` takes it, and none passes the session limit afterwards. -/
theorem run_noDeadlock
    (reached : run (Server.step config)
      (Server.start (World.start ipv4 ipv6)) labels = some server)
    (unhindered : Along (Server.step config) (Unhindered config)
      (Server.start (World.start ipv4 ipv6)) labels) :
    NoDeadlock server := by
  obtain ⟨-, -, free⟩ :=
    run_invariant_of
      (fun visited label next invariant unhindered taken =>
        (⟨step_ordered invariant.1 taken,
          step_unstarted invariant.1.unused invariant.2.1 taken,
          step_free invariant.1 invariant.2.1 invariant.2.2 unhindered
            taken⟩ :
          Ordered next ∧ Unstarted next ∧ Free next))
      ⟨start_ordered, fun _ _ => ⟨rfl, rfl, rfl⟩, False.elim⟩
      unhindered reached
  intro join
  exact free (by rw [join]; trivial)

/-! ## A hanging shutdown -/

/-- A request whose worker is about to lock the mutex. -/
def passesChecks : List Server.Label :=
  [.accept 1, .run 1 (.request shortLived), .run 1 .proceed,
    .run 1 .proceed, .run 1 .proceed]

/-- `Stop` finds no session in the server's map. -/
def stops : List Server.Label :=
  [.stop, .stop, .stop, .stop, .stop]

/-- The worker is held up until `Stop` has the mutex, and both wait for ever
for each other. -/
theorem lateOpening_deadlock :
    ∃ server, run (Server.step milliseconds) oneFree
        (passesChecks ++ stops) = some server ∧
      ¬NoDeadlock server ∧
      server.step milliseconds .stop = none ∧
      server.step milliseconds (.run 1 .proceed) = none := by
  have taken : (run (Server.step milliseconds) oneFree
      (passesChecks ++ stops)).map (fun server => decide
        (server.stop = .join ∧ 1 ∈ server.clients ∧
          AwaitsMutex (server.session 1) ∧
          (server.step milliseconds .stop).isNone = true ∧
          (server.step milliseconds (.run 1 .proceed)).isNone = true)) =
      some true := by
    decide +kernel
  obtain ⟨server, reached, there⟩ := Option.map_eq_some_iff.mp taken
  obtain ⟨join, client, awaits, stop, worker⟩ := of_decide_eq_true there
  refine ⟨server, reached, fun none => ?_, Option.isNone_iff_eq_none.mp stop,
    Option.isNone_iff_eq_none.mp worker⟩
  exact none join 1 client awaits

/-- A session is served, and closed by `Stop`. -/
def servedAndStopped : List Server.Label :=
  opens ++
    [.run 1 .proceed, .run 1 .proceed, .run 1 (.served true), .stop, .stop,
      .stop, .stop, .stop, .stop, .close 1, .close 1, .close 1, .stop,
      .stop, .stop]

theorem run_noDeadlock_served :
    ∃ server, run (Server.step milliseconds) oneFree servedAndStopped =
        some server ∧
      server.stop = .join ∧ NoDeadlock server := by
  have taken : (run (Server.step milliseconds) oneFree
      servedAndStopped).map (fun server => decide (server.stop = .join)) =
      some true := by
    decide +kernel
  have unhindered : Along (Server.step milliseconds)
      (Unhindered milliseconds) oneFree servedAndStopped := by
    decide +kernel
  obtain ⟨server, reached, there⟩ := Option.map_eq_some_iff.mp taken
  exact
    ⟨server, reached, of_decide_eq_true there,
      run_noDeadlock reached unhindered⟩

end Fptn.Web.Shutdown
