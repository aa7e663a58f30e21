import Fptn.NatTable.SessionCount
import Fptn.Web.WebServer

/-!
# What a step does to one session

A `View` is what concerns a single session: its own state, its entries in the
server's map and in the NAT table, and the sweeper's call of its `Close`.
`Moves` lists what a step of the server can do to it, whichever thread makes
the step; the invariants of the server are derived from this list.
-/

namespace Fptn.Web.SessionMoves

open Fptn.NatTable.Multiplexer
open Fptn.NatTable.SessionTable
open Fptn.NatTable.SessionCount
open Fptn.Web.WebServer

/-! ## Calls of Close -/

/-- The four ways in which a call of `Close` goes on. -/
inductive Called (session : Session) :
    CloseCall → Session → Option CloseCall → Prop where
  /-- It finds the session closed, perhaps by a call still under way. -/
  | late {call : CloseCall} (stopped : session.running = false)
      (first : call = .test ∨ session.locked = false) :
      Called session call session none
  | tested (runs : session.running = true) :
      Called session .test session (some .lock)
  /-- It is the one which closes the session. -/
  | entered (runs : session.running = true) :
      Called session .lock
        { session with running := false, close := .callback }
        (some .inside)
  | returned (closed : session.close = .closed) :
      Called session .inside session none

theorem closeCall_called {session after : Session} {call : CloseCall}
    {rest : Option CloseCall}
    (taken : session.closeCall call = some (after, rest)) :
    Called session call after rest := by
  cases call with
  | test =>
      simp only [Session.closeCall] at taken
      split at taken
      case isTrue runs =>
        cases taken
        exact .tested runs
      case isFalse stopped =>
        cases taken
        exact .late (Bool.eq_false_of_not_eq_true stopped) (Or.inl rfl)
  | lock =>
      simp only [Session.closeCall] at taken
      split at taken
      · cases taken
      case isFalse unlocked =>
        split at taken
        case isTrue runs =>
          cases taken
          exact .entered runs
        case isFalse stopped =>
          cases taken
          exact
            .late (Bool.eq_false_of_not_eq_true stopped)
              (Or.inr (Bool.eq_false_of_not_eq_true unlocked))
  | inside =>
      simp only [Session.closeCall] at taken
      split at taken
      case isTrue closed =>
        cases taken
        exact .returned closed
      case isFalse => cases taken

/-! ## Views -/

structure View where
  session : Session
  /-- The session is in the server's map. -/
  entered : Bool
  /-- The NAT table has an entry for its client. -/
  known : Bool
  /-- Where the sweeper is in a call of its `Close`. -/
  sweeping : Option CloseCall

def sweepingOf (id : ClientID) : SweeperPlace → Option CloseCall
  | .closing other call _ => if other = id then some call else none
  | _ => none

def view (server : Server) (id : ClientID) : View where
  session := server.session id
  entered := decide (id ∈ server.sessions)
  known := (server.world.table.getMultiplexerByClientId id).isSome
  sweeping := sweepingOf id server.sweeper

variable {config : Config} {server next : Server} {id other : ClientID}

theorem view_session :
    (view server id).session = server.session id := rfl

theorem known_iff :
    (view server id).known = true ↔ Knows server.world.table id :=
  Option.isSome_iff_ne_none

/-- Where `Run` is after a step of its call of `Close`. -/
def runAfter : Option CloseCall → RunPlace
  | some call => .closing call
  | none => .finished

/-- What a step of the server can do to the session of a client. -/
inductive Moves (config : Config) (server : Server) (id : ClientID) :
    Server.Label → View → Prop where
  | rests {label : Server.Label} {known : Bool}
      (less : known = true → (view server id).known = true) :
      Moves config server id label { view server id with known := known }
  /-- A step of `Run` up to `AddConnection`. -/
  | advances {choice : Server.RunChoice} {place : RunPlace}
      (fresh : beforeAdd (server.session id).run = true)
      (still : beforeAdd place = true)
      (notAdding : ∀ open_ username,
        (server.session id).run ≠ .openAdd open_ username)
      (notLocking : ∀ open_ username, place ≠ .openLock open_ username)
      (locked : ∀ open_ username, place = .openAdd open_ username →
        (server.session id).run = .openLock open_ username) :
      Moves config server id (.run id choice)
        { view server id with
          session := { server.session id with run := place } }
  | passesLimit {open_ : OpenRequest} {username : String}
      (here : (server.session id).run = .openCount open_ username)
      (below : ¬config.maxActiveSessionsPerUser <
        server.world.table.getNumberActiveSessionByUsername username) :
      Moves config server id (.run id .proceed)
        { view server id with
          session := {
            server.session id with run := .openLock open_ username } }
  /-- A step up to `AddConnection` after which `Run` closes the session. -/
  | refused {choice : Server.RunChoice} {known : Bool}
      (fresh : beforeAdd (server.session id).run = true)
      (less : known = true → (view server id).known = true) :
      Moves config server id (.run id choice)
        { view server id with
          session := { server.session id with run := .closing .test }
          known := known }
  | added {open_ : OpenRequest} {username : String} {pointer : MplxPtr}
      {known : Bool}
      (here : (server.session id).run = .openAdd open_ username) :
      Moves config server id (.run id .proceed)
        { view server id with
          session := {
            server.session id with run := .openInsert open_ pointer }
          known := known }
  | inserted {open_ : OpenRequest} {pointer : MplxPtr} {place : RunPlace}
      (here : (server.session id).run = .openInsert open_ pointer)
      (there : place = .disableChecksum pointer ∨ place = .setOpened) :
      Moves config server id (.run id .proceed)
        { view server id with
          session := { server.session id with run := place }
          entered := true }
  | disabled {pointer : MplxPtr}
      (here : (server.session id).run = .disableChecksum pointer) :
      Moves config server id (.run id .proceed)
        { view server id with
          session := { server.session id with run := .setOpened } }
  | opened (here : (server.session id).run = .setOpened) :
      Moves config server id (.run id .proceed)
        { view server id with
          session := {
            server.session id with
            wsSessionWasOpened := true
            run := .serving } }
  | served (here : (server.session id).run = .serving) :
      Moves config server id (.run id (.served true))
        { view server id with
          session := {
            server.session id with
            run := .finished
            reader := .looping
            sender := .looping } }
  | failed (here : (server.session id).run = .serving) :
      Moves config server id (.run id (.served false))
        { view server id with
          session := { server.session id with run := .closing .test } }
  | runCalls {call : CloseCall} {after : Session}
      {rest : Option CloseCall}
      (here : (server.session id).run = .closing call)
      (called : Called (server.session id) call after rest) :
      Moves config server id (.run id .proceed)
        { view server id with
          session := { after with run := runAfter rest } }
  | readerLeaves (here : (server.session id).reader = .looping) :
      Moves config server id (.reader id)
        { view server id with
          session := { server.session id with reader := .closing .test } }
  | readerCalls {call : CloseCall} {after : Session}
      {rest : Option CloseCall}
      (here : (server.session id).reader = .closing call)
      (called : Called (server.session id) call after rest) :
      Moves config server id (.reader id)
        { view server id with
          session := { after with reader := Server.loopAfter rest } }
  | senderLeaves (here : (server.session id).sender = .looping) :
      Moves config server id (.sender id)
        { view server id with
          session := { server.session id with sender := .closing .test } }
  | senderCalls {call : CloseCall} {after : Session}
      {rest : Option CloseCall}
      (here : (server.session id).sender = .closing call)
      (called : Called (server.session id) call after rest) :
      Moves config server id (.sender id)
        { view server id with
          session := { after with sender := Server.loopAfter rest } }
  | callsBack
      (here : (server.session id).close = .callback)
      (wasOpened : (server.session id).wsSessionWasOpened = true) :
      Moves config server id (.close id)
        { view server id with
          session := { server.session id with close := .closeTest } }
  | skipsCallback
      (here : (server.session id).close = .callback)
      (notOpened : (server.session id).wsSessionWasOpened = false) :
      Moves config server id (.close id)
        { view server id with
          session := { server.session id with close := .closed } }
  | testsServer
      (here : (server.session id).close = .closeTest)
      (runs : server.running = true) :
      Moves config server id (.close id)
        { view server id with
          session := { server.session id with close := .closeLock } }
  | skipsErase
      (here : (server.session id).close = .closeTest)
      (stopped : server.running = false) :
      Moves config server id (.close id)
        { view server id with
          session := { server.session id with close := .delConnection } }
  | erased (here : (server.session id).close = .closeLock) :
      Moves config server id (.close id)
        { view server id with
          session := { server.session id with close := .delConnection }
          entered := false }
  | forgotten (here : (server.session id).close = .delConnection) :
      Moves config server id (.close id)
        { view server id with
          session := { server.session id with close := .closed }
          known := false }
  | sweeperFinds {order : List MplxPtr} (there : id ∈ server.sessions) :
      Moves config server id (.sweeper order)
        { view server id with sweeping := some .test }
  | sweeperCalls {order : List MplxPtr} {call : CloseCall}
      {after : Session} {left : Option CloseCall}
      {rest : List ClientID}
      (here : server.sweeper = .closing id call rest)
      (called : Called (server.session id) call after left) :
      Moves config server id (.sweeper order)
        { view server id with session := after, sweeping := left }
  | stopCalls {call : CloseCall} {after : Session}
      {left : Option CloseCall} {rest : List ClientID}
      (here : server.stop = .closing id call rest)
      (called : Called (server.session id) call after left) :
      Moves config server id .stop
        { view server id with session := after }
  | stopClears (here : server.stop = .visiting []) :
      Moves config server id .stop { view server id with entered := false }

/-- The view is the same, but for an entry which the table has dropped. -/
theorem Moves.same {label : Server.Label}
    (sessions : next.session other = server.session other)
    (entered : other ∈ next.sessions ↔ other ∈ server.sessions)
    (sweeping : sweepingOf other next.sweeper =
      sweepingOf other server.sweeper)
    (less : Knows next.world.table other →
      Knows server.world.table other) :
    Moves config server other label (view next other) := by
  have same : view next other =
      { view server other with known := (view next other).known } := by
    simp only [view, sessions, sweeping, entered]
  rw [same]
  exact .rests fun known => known_iff.mpr (less (known_iff.mp known))

theorem view_setSession_self {session : Session} :
    view (server.setSession id session) id =
      { view server id with session := session } := by
  simp only [view, Server.setSession, Function.update_self]
  rfl

theorem view_setRun_self {place : RunPlace} :
    view (server.setRun id place) id =
      { view server id with
        session := { server.session id with run := place } } :=
  view_setSession_self

theorem view_setClose_self {place : ClosePlace} :
    view (server.setClose id place) id =
      { view server id with
        session := { server.session id with close := place } } :=
  view_setSession_self

/-! ## Run -/

/-- A call of `Close` by a coroutine of the session. -/
theorem ownClose_called {call : CloseCall}
    {resume : Session → Option CloseCall → Session}
    (taken : server.ownClose id call resume = some next) :
    ∃ after rest, Called (server.session id) call after rest ∧
      next = server.setSession id (resume after rest) := by
  obtain ⟨⟨after, rest⟩, called, rfl⟩ := Option.map_eq_some_iff.mp taken
  exact ⟨after, rest, closeCall_called called, rfl⟩

theorem addConnection_moves {open_ : OpenRequest} {username : String}
    (here : (server.session id).run = .openAdd open_ username) :
    Moves config server id (.run id .proceed)
      (view (server.addConnection config id open_ username) id) := by
  simp only [Server.addConnection]
  split
  case h_1 refused =>
    rw [view_setRun_self]
    refine .refused (by rw [here]; rfl) fun known => known_iff.mpr ?_
    rcases addConnection_knows (known_iff.mp known) with before | ⟨-, added⟩
    · exact before
    · exact absurd refused added
  case h_2 pointer _ =>
    rw [view_setRun_self]
    exact .added here

/-- A request which has not been added yet is turned away. -/
theorem refuse_moves {choice : Server.RunChoice}
    (fresh : beforeAdd (server.session id).run = true) :
    Moves config server id (.run id choice)
      (view (server.setRun id (.closing .test)) id) := by
  rw [view_setRun_self]
  exact .refused fresh fun known => known

theorem advance_moves {choice : Server.RunChoice} {place : RunPlace}
    (fresh : beforeAdd (server.session id).run = true)
    (still : beforeAdd place = true)
    (notAdding : ∀ open_ username,
      (server.session id).run ≠ .openAdd open_ username)
    (notLocking : ∀ open_ username, place ≠ .openLock open_ username)
    (locked : ∀ open_ username, place = .openAdd open_ username →
      (server.session id).run = .openLock open_ username) :
    Moves config server id (.run id choice)
      (view (server.setRun id place) id) := by
  rw [view_setRun_self]
  exact .advances fresh still notAdding notLocking locked

/-- A step of `Run` before the table knows the session. -/
theorem runStep_moves_beforeAdd {choice : Server.RunChoice}
    (fresh : beforeAdd (server.session id).run = true)
    (taken : server.runStep config id choice = some next) :
    Moves config server id (.run id choice) (view next id) := by
  unfold Server.runStep at taken
  cases place : (server.session id).run with
  | accepting =>
      rw [place] at taken
      cases choice with
      | proceed => cases taken
      | request open_ =>
          simp only at taken
          split at taken <;> cases taken
          exact
            advance_moves fresh rfl (by simp [place]) (by simp) (by simp)
      | served status =>
          simp only at taken
          split at taken <;> cases taken
          exact refuse_moves fresh
  | openTest open_ =>
      rw [place] at taken
      cases choice with
      | request | served => cases taken
      | proceed =>
          simp only at taken
          split at taken <;> cases taken
          · exact
              advance_moves fresh rfl (by simp [place]) (by simp) (by simp)
          · exact refuse_moves fresh
  | openValidate open_ =>
      rw [place] at taken
      cases choice with
      | request | served => cases taken
      | proceed =>
          simp only at taken
          split at taken
          · cases taken
            exact refuse_moves fresh
          · split at taken <;> cases taken
            · exact refuse_moves fresh
            · exact
                advance_moves fresh rfl (by simp [place]) (by simp) (by simp)
  | openCount open_ username =>
      rw [place] at taken
      cases choice with
      | request | served => cases taken
      | proceed =>
          simp only at taken
          split at taken
          · cases taken
            exact refuse_moves fresh
          case isFalse below =>
            cases taken
            rw [view_setRun_self]
            exact .passesLimit place below
  | openLock open_ username =>
      rw [place] at taken
      cases choice with
      | request | served => cases taken
      | proceed =>
          simp only at taken
          split at taken
          · cases taken
          · split at taken <;> cases taken
            · exact refuse_moves fresh
            · exact
                advance_moves fresh rfl (by simp [place]) (by simp)
                  (by simp [place])
  | openAdd open_ username =>
      rw [place] at taken
      cases choice with
      | request | served => cases taken
      | proceed =>
          cases taken
          exact addConnection_moves place
  | openInsert | disableChecksum | setOpened | serving | closing
  | finished =>
      rw [place] at fresh
      cases fresh

theorem runStep_moves {choice : Server.RunChoice}
    (taken : server.runStep config id choice = some next) :
    Moves config server id (.run id choice) (view next id) := by
  have step := taken
  unfold Server.runStep at taken
  cases place : (server.session id).run with
  | accepting | openTest | openValidate | openCount | openLock
  | openAdd =>
      exact runStep_moves_beforeAdd (by rw [place]; rfl) step
  | finished =>
      rw [place] at taken
      cases taken
  | openInsert open_ pointer =>
      rw [place] at taken
      cases choice with
      | request | served => cases taken
      | proceed =>
          cases taken
          rw [Server.insertSession, view_setRun_self]
          have entered : decide (id ∈ id :: server.sessions) = true :=
            decide_eq_true List.mem_cons_self
          simp only [view, entered]
          refine .inserted place ?_
          split
          · exact Or.inl rfl
          · exact Or.inr rfl
  | disableChecksum pointer =>
      rw [place] at taken
      cases choice with
      | request | served => cases taken
      | proceed =>
          cases taken
          rw [view_setRun_self]
          exact .disabled place
  | setOpened =>
      rw [place] at taken
      cases choice with
      | request | served => cases taken
      | proceed =>
          cases taken
          rw [view_setSession_self]
          exact .opened place
  | serving =>
      rw [place] at taken
      cases choice with
      | request | proceed => cases taken
      | served status =>
          simp only at taken
          split at taken
          · cases taken
          · cases status with
            | true =>
                cases taken
                rw [view_setSession_self]
                exact .served place
            | false =>
                cases taken
                rw [view_setRun_self]
                exact .failed place
  | closing call =>
      rw [place] at taken
      cases choice with
      | request | served => cases taken
      | proceed =>
          obtain ⟨after, rest, called, rfl⟩ := ownClose_called taken
          rw [view_setSession_self]
          cases rest <;> exact .runCalls place called

/-- `Run` leaves the other sessions alone. -/
theorem runStep_frame {choice : Server.RunChoice}
    (taken : server.runStep config id choice = some next)
    (different : other ≠ id) :
    next.session other = server.session other ∧
      (other ∈ next.sessions ↔ other ∈ server.sessions) ∧
      next.sweeper = server.sweeper := by
  have updated {session : ClientID → Session} {value : Session} :
      Function.update session id value other = session other :=
    Function.update_of_ne different _ _
  unfold Server.runStep at taken
  split at taken
  case h_7 =>
    cases taken
    simp only [Server.addConnection]
    split <;> exact ⟨updated, Iff.rfl, rfl⟩
  case h_8 =>
    cases taken
    refine ⟨updated, ?_, rfl⟩
    simp only [Server.insertSession, Server.setRun, Server.setSession,
      List.mem_cons]
    exact or_iff_right different
  case h_12 =>
    obtain ⟨after, rest, -, rfl⟩ := ownClose_called taken
    exact ⟨updated, Iff.rfl, rfl⟩
  all_goals repeat' split at taken
  all_goals cases taken
  all_goals exact ⟨updated, Iff.rfl, rfl⟩

/-! ## The other coroutines and Close -/

theorem readerStep_moves (taken : server.readerStep id = some next) :
    Moves config server id (.reader id) (view next id) := by
  unfold Server.readerStep at taken
  split at taken
  case h_1 here =>
    split at taken <;> cases taken
    rw [view_setSession_self]
    exact .readerLeaves here
  case h_2 here =>
    obtain ⟨after, rest, called, rfl⟩ := ownClose_called taken
    rw [view_setSession_self]
    exact .readerCalls here called
  all_goals cases taken

theorem senderStep_moves (taken : server.senderStep id = some next) :
    Moves config server id (.sender id) (view next id) := by
  unfold Server.senderStep at taken
  split at taken
  case h_1 here =>
    split at taken <;> cases taken
    rw [view_setSession_self]
    exact .senderLeaves here
  case h_2 here =>
    obtain ⟨after, rest, called, rfl⟩ := ownClose_called taken
    rw [view_setSession_self]
    exact .senderCalls here called
  all_goals cases taken

theorem closeStep_moves (taken : server.closeStep id = some next) :
    Moves config server id (.close id) (view next id) := by
  unfold Server.closeStep at taken
  split at taken
  case h_3 here =>
    split at taken
    case isTrue wasOpened =>
      cases taken
      rw [view_setClose_self]
      exact .callsBack here wasOpened
    case isFalse notOpened =>
      cases taken
      rw [view_setClose_self]
      exact .skipsCallback here (Bool.eq_false_of_not_eq_true notOpened)
  case h_4 here =>
    split at taken
    case isTrue runs =>
      cases taken
      rw [view_setClose_self]
      exact .testsServer here runs
    case isFalse stopped =>
      cases taken
      rw [view_setClose_self]
      exact .skipsErase here (Bool.eq_false_of_not_eq_true stopped)
  case h_5 here =>
    split at taken <;> cases taken
    rw [view_setClose_self]
    have gone : decide (id ∈ server.sessions.filter (· != id)) = false := by
      simp
    simp only [view, gone]
    exact .erased here
  case h_6 here =>
    cases taken
    rw [view_setClose_self]
    have gone : ((server.world.table.delConnectionByClientId
        id).1.getMultiplexerByClientId id).isSome = false := by
      rw [← Bool.not_eq_true]
      exact fun known => (delConnectionByClientId_knows.mp
        (Option.isSome_iff_ne_none.mp known)).1 rfl
    simp only [view, Server.setTable, gone]
    exact .forgotten here
  all_goals cases taken

/-- The loops change nothing but the session. -/
theorem loopStep_eq
    (taken : server.readerStep id = some next ∨
      server.senderStep id = some next) :
    ∃ session, next = server.setSession id session := by
  rcases taken with taken | taken
  · unfold Server.readerStep at taken
    split at taken
    case h_1 =>
      split at taken <;> cases taken
      exact ⟨_, rfl⟩
    case h_2 =>
      obtain ⟨after, rest, -, rfl⟩ := ownClose_called taken
      exact ⟨_, rfl⟩
    all_goals cases taken
  · unfold Server.senderStep at taken
    split at taken
    case h_1 =>
      split at taken <;> cases taken
      exact ⟨_, rfl⟩
    case h_2 =>
      obtain ⟨after, rest, -, rfl⟩ := ownClose_called taken
      exact ⟨_, rfl⟩
    all_goals cases taken

/-- They leave the other sessions alone. -/
theorem closeStep_frame
    (taken : server.readerStep id = some next ∨
      server.senderStep id = some next ∨ server.closeStep id = some next)
    (different : other ≠ id) :
    next.session other = server.session other ∧
      (other ∈ next.sessions ↔ other ∈ server.sessions) ∧
      next.sweeper = server.sweeper := by
  have updated {session : ClientID → Session} {value : Session} :
      Function.update session id value other = session other :=
    Function.update_of_ne different _ _
  rcases taken with taken | taken | taken
  · obtain ⟨session, rfl⟩ := loopStep_eq (Or.inl taken)
    exact ⟨updated, Iff.rfl, rfl⟩
  · obtain ⟨session, rfl⟩ := loopStep_eq (Or.inr taken)
    exact ⟨updated, Iff.rfl, rfl⟩
  · unfold Server.closeStep at taken
    split at taken
    case h_5 =>
      split at taken <;> cases taken
      refine ⟨updated, ?_, rfl⟩
      simp [Server.setClose, Server.setSession, different]
    all_goals repeat' split at taken
    all_goals cases taken
    all_goals exact ⟨updated, Iff.rfl, rfl⟩

/-! ## The sweeper and Stop -/

theorem sweeperStep_moves {order : List MplxPtr}
    (less : Knows next.world.table id → Knows server.world.table id)
    (taken : server.sweeperStep config order = some next) :
    Moves config server id (.sweeper order) (view next id) := by
  unfold Server.sweeperStep at taken
  split at taken
  case h_1 here =>
    obtain ⟨world, -, rfl⟩ := Option.map_eq_some_iff.mp taken
    refine .same rfl Iff.rfl ?_ less
    simp only [here]
    split <;> rfl
  case h_2 here =>
    split at taken
    · cases taken
    · obtain ⟨world, -, rfl⟩ := Option.map_eq_some_iff.mp taken
      refine .same rfl Iff.rfl ?_ less
      simp only [here]
      rfl
  case h_3 here =>
    cases taken
    refine .same rfl Iff.rfl ?_ less
    simp only [here]
    rfl
  case h_4 found rest here =>
    split at taken
    · cases taken
    · split at taken
      case isTrue there =>
        cases taken
        by_cases same : found = id
        · subst same
          have sweeping : sweepingOf found (.closing found .test rest) =
              some .test := if_pos rfl
          simp only [view, sweeping]
          exact .sweeperFinds there
        · refine .same rfl Iff.rfl ?_ less
          simp only [here, sweepingOf]
          exact if_neg same
      case isFalse =>
        cases taken
        refine .same rfl Iff.rfl ?_ less
        simp only [here]
        rfl
  case h_5 found call rest here =>
    obtain ⟨⟨after, left⟩, called, rfl⟩ :=
      Option.map_eq_some_iff.mp taken
    by_cases same : found = id
    · subst same
      have called := closeCall_called called
      cases left with
      | none =>
          simp only [view, Server.setSession, Function.update_self]
          exact .sweeperCalls here called
      | some call =>
          have sweeping : sweepingOf found (.closing found call rest) =
              some call := if_pos rfl
          simp only [view, Server.setSession, Function.update_self,
            sweeping]
          exact .sweeperCalls here called
    · refine .same (Function.update_of_ne (Ne.symm same) _ _) Iff.rfl ?_
        less
      simp only [here, sweepingOf, if_neg same]
      cases left with
      | none => rfl
      | some call => exact if_neg same

theorem stopStep_moves (taken : server.stopStep = some next) :
    Moves config server id .stop (view next id) := by
  unfold Server.stopStep at taken
  split at taken
  case h_4 here =>
    cases taken
    exact .stopClears here
  case h_6 found call rest here =>
    obtain ⟨⟨after, left⟩, called, rfl⟩ :=
      Option.map_eq_some_iff.mp taken
    by_cases same : found = id
    · subst same
      simp only [view, Server.setSession, Function.update_self]
      exact .stopCalls here (closeCall_called called)
    · exact .same (Function.update_of_ne (Ne.symm same) _ _) Iff.rfl rfl
        fun known => known
  all_goals try split at taken
  all_goals cases taken
  all_goals exact .same rfl Iff.rfl rfl fun known => known

/-! ## All steps -/

theorem tableLabel_addConnection {label : Server.Label}
    {params : ConnectParams}
    (adds : tableLabel server label = some (.addConnection params)) :
    ∃ open_ username, label = .run params.clientId .proceed ∧
      (server.session params.clientId).run = .openAdd open_ username ∧
      params = Server.modParams params.clientId open_ username := by
  unfold tableLabel at adds
  split at adds
  · split at adds
    case h_1 open_ username here =>
      cases adds
      exact ⟨open_, username, rfl, here, rfl⟩
    all_goals cases adds
  all_goals repeat' split at adds
  all_goals cases adds

/-- Only `AddConnection` makes a client known. -/
theorem step_less {label : Server.Label} (unused : Unused server)
    (taken : server.step config label = some next)
    (notAdding : ∀ open_ username, label = .run id .proceed →
      (server.session id).run ≠ .openAdd open_ username)
    (known : Knows next.world.table id) :
    Knows server.world.table id := by
  have stepped := step_world unused taken
  cases adds : tableLabel server label with
  | none =>
      rw [adds] at stepped
      rwa [show next.world = server.world from stepped] at known
  | some tableStep =>
      rw [adds] at stepped
      rcases step_knows stepped known with before | ⟨params, rfl, rfl⟩
      · exact before
      · obtain ⟨open_, username, sameLabel, here, -⟩ :=
          tableLabel_addConnection adds
        exact absurd here (notAdding open_ username sameLabel)

theorem step_moves {label : Server.Label} (unused : Unused server)
    (taken : server.step config label = some next) :
    Moves config server id label (view next id) := by
  have less := @step_less config server next id label unused taken
  cases label with
  | accept other =>
      simp only [Server.step] at taken
      split at taken <;> cases taken
      exact .same rfl Iff.rfl rfl fun known => known
  | run other choice =>
      simp only [Server.step] at taken
      split at taken
      · by_cases same : id = other
        · subst same
          exact runStep_moves taken
        · obtain ⟨session, entered, sweeper⟩ := runStep_frame taken same
          refine .same session entered (by rw [sweeper]) (less ?_)
          rintro _ _ ⟨⟩
          exact absurd rfl same
      · cases taken
  | reader other =>
      by_cases same : id = other
      · subst same
        exact readerStep_moves taken
      · obtain ⟨session, entered, sweeper⟩ :=
          closeStep_frame (Or.inl taken) same
        exact .same session entered (by rw [sweeper])
          (less fun _ _ other => by cases other)
  | sender other =>
      by_cases same : id = other
      · subst same
        exact senderStep_moves taken
      · obtain ⟨session, entered, sweeper⟩ :=
          closeStep_frame (Or.inr (Or.inl taken)) same
        exact .same session entered (by rw [sweeper])
          (less fun _ _ other => by cases other)
  | close other =>
      by_cases same : id = other
      · subst same
        exact closeStep_moves taken
      · obtain ⟨session, entered, sweeper⟩ :=
          closeStep_frame (Or.inr (Or.inr taken)) same
        exact .same session entered (by rw [sweeper])
          (less fun _ _ other => by cases other)
  | sweeper order =>
      exact sweeperStep_moves (less fun _ _ other => by cases other) taken
  | stop => exact stopStep_moves taken

/-! ## Ids -/

theorem Called.run {session after : Session} {call : CloseCall}
    {rest : Option CloseCall} (called : Called session call after rest) :
    after.run = session.run := by
  cases called <;> rfl

/-- A session does not return to the places before `AddConnection`. -/
theorem Moves.beforeAdd {label : Server.Label} {after : View}
    (moves : Moves config server id label after)
    (fresh : beforeAdd after.session.run = true) :
    WebServer.beforeAdd (server.session id).run = true := by
  cases moves with
  | advances before | refused before => exact before
  | passesLimit here | added here => rw [here]; rfl
  | inserted _ there => rcases there with rfl | rfl <;> cases fresh
  | disabled | opened | served | failed => cases fresh
  | @runCalls _ _ rest => cases rest <;> cases fresh
  | readerCalls _ called | senderCalls _ called =>
      exact called.run ▸ fresh
  | sweeperCalls _ called | stopCalls _ called => exact called.run ▸ fresh
  | rests | readerLeaves | senderLeaves | callsBack | skipsCallback
  | testsServer | skipsErase | erased | forgotten | sweeperFinds
  | stopClears => exact fresh

theorem addConnection_used {open_ : OpenRequest} {username : String} :
    (server.addConnection config id open_ username).world.used =
        id :: server.world.used ∧
      WebServer.beforeAdd ((server.addConnection config id open_
        username).session id).run = false := by
  refine ⟨by rw [addConnection_world], ?_⟩
  simp only [Server.addConnection]
  split
  all_goals
    simp only [Server.setRun, Server.setSession, Function.update_self]
    rfl

/-- A step of the table other than `AddConnection` uses no id. -/
theorem tableStep_used {clock : Nat → Int} {world after : World}
    {label : NatTable.SessionTable.Label}
    (other : ∀ params, label ≠ .addConnection params)
    (taken : NatTable.SessionTable.step clock world label = some after) :
    after.used = world.used := by
  cases label with
  | addConnection params => exact absurd rfl (other params)
  | delConnectionByClientId | disableChecksumCalculation =>
      cases taken
      rfl
  | beginUpdate | finishUpdate =>
      simp only [NatTable.SessionTable.step] at taken
      split at taken <;> cases taken
      rfl

theorem step_unused {label : Server.Label} (unused : Unused server)
    (taken : server.step config label = some next) :
    Unused next := by
  intro id fresh
  have before : id ∉ server.world.used :=
    unused id ((step_moves unused taken).beforeAdd fresh)
  have stepped := step_world unused taken
  cases adds : tableLabel server label with
  | none =>
      rw [adds] at stepped
      rwa [show next.world = server.world from stepped]
  | some tableStep =>
      rw [adds] at stepped
      by_cases adding : ∃ params, tableStep = .addConnection params
      · obtain ⟨params, rfl⟩ := adding
        obtain ⟨open_, username, rfl, here, -⟩ :=
          tableLabel_addConnection adds
        simp only [Server.step, Server.runStep, here] at taken
        split at taken <;> cases taken
        obtain ⟨used, notFresh⟩ := @addConnection_used config server
          params.clientId open_ username
        rw [used, List.mem_cons, not_or]
        refine ⟨?_, before⟩
        rintro rfl
        exact Bool.false_ne_true (notFresh.symm.trans fresh)
      · rwa [tableStep_used (fun params same => adding ⟨params, same⟩)
          stepped]

/-! ## Stopping -/

theorem runStep_stop {choice : Server.RunChoice}
    (taken : server.runStep config id choice = some next) :
    next.running = server.running ∧ next.stop = server.stop ∧
      next.clients = server.clients := by
  unfold Server.runStep at taken
  split at taken
  case h_7 =>
    cases taken
    simp only [Server.addConnection]
    split <;> exact ⟨rfl, rfl, rfl⟩
  case h_12 =>
    obtain ⟨after, rest, -, rfl⟩ := ownClose_called taken
    exact ⟨rfl, rfl, rfl⟩
  all_goals repeat' split at taken
  all_goals cases taken
  all_goals exact ⟨rfl, rfl, rfl⟩

theorem closeStep_stop
    (taken : server.readerStep id = some next ∨
      server.senderStep id = some next ∨ server.closeStep id = some next) :
    next.running = server.running ∧ next.stop = server.stop ∧
      next.clients = server.clients := by
  rcases taken with taken | taken | taken
  · obtain ⟨session, rfl⟩ := loopStep_eq (Or.inl taken)
    exact ⟨rfl, rfl, rfl⟩
  · obtain ⟨session, rfl⟩ := loopStep_eq (Or.inr taken)
    exact ⟨rfl, rfl, rfl⟩
  · unfold Server.closeStep at taken
    split at taken
    all_goals repeat' split at taken
    all_goals cases taken
    all_goals exact ⟨rfl, rfl, rfl⟩

theorem sweeperStep_stop {order : List MplxPtr}
    (taken : server.sweeperStep config order = some next) :
    next.running = server.running ∧ next.stop = server.stop ∧
      next.clients = server.clients := by
  unfold Server.sweeperStep at taken
  split at taken
  case h_1 =>
    obtain ⟨world, -, rfl⟩ := Option.map_eq_some_iff.mp taken
    exact ⟨rfl, rfl, rfl⟩
  case h_2 =>
    split at taken
    · cases taken
    · obtain ⟨world, -, rfl⟩ := Option.map_eq_some_iff.mp taken
      exact ⟨rfl, rfl, rfl⟩
  case h_5 =>
    obtain ⟨_, -, rfl⟩ := Option.map_eq_some_iff.mp taken
    exact ⟨rfl, rfl, rfl⟩
  all_goals repeat' split at taken
  all_goals cases taken
  all_goals exact ⟨rfl, rfl, rfl⟩

/-- Only `Stop` goes on stopping. -/
theorem step_stop {label : Server.Label} (other : label ≠ .stop)
    (taken : server.step config label = some next) :
    next.running = server.running ∧ next.stop = server.stop := by
  cases label with
  | accept id =>
      simp only [Server.step] at taken
      split at taken <;> cases taken
      exact ⟨rfl, rfl⟩
  | run id choice =>
      simp only [Server.step] at taken
      split at taken
      · obtain ⟨running, stop, -⟩ := runStep_stop taken
        exact ⟨running, stop⟩
      · cases taken
  | reader id =>
      obtain ⟨running, stop, -⟩ := closeStep_stop (Or.inl taken)
      exact ⟨running, stop⟩
  | sender id =>
      obtain ⟨running, stop, -⟩ := closeStep_stop (Or.inr (Or.inl taken))
      exact ⟨running, stop⟩
  | close id =>
      obtain ⟨running, stop, -⟩ := closeStep_stop (Or.inr (Or.inr taken))
      exact ⟨running, stop⟩
  | sweeper order =>
      obtain ⟨running, stop, -⟩ := sweeperStep_stop taken
      exact ⟨running, stop⟩
  | stop => exact absurd rfl other

/-- Clients are accepted one at a time. -/
theorem step_clients {label : Server.Label}
    (taken : server.step config label = some next) :
    id ∈ next.clients ↔ id ∈ server.clients ∨ label = .accept id := by
  cases label with
  | accept other =>
      simp only [Server.step] at taken
      split at taken <;> cases taken
      rw [List.mem_cons, or_comm, Server.Label.accept.injEq, eq_comm]
  | run other choice =>
      simp only [Server.step] at taken
      split at taken
      · rw [(runStep_stop taken).2.2, or_iff_left (by rintro ⟨⟩)]
      · cases taken
  | reader other =>
      rw [(closeStep_stop (Or.inl taken)).2.2, or_iff_left (by rintro ⟨⟩)]
  | sender other =>
      rw [(closeStep_stop (Or.inr (Or.inl taken))).2.2,
        or_iff_left (by rintro ⟨⟩)]
  | close other =>
      rw [(closeStep_stop (Or.inr (Or.inr taken))).2.2,
        or_iff_left (by rintro ⟨⟩)]
  | sweeper order =>
      rw [(sweeperStep_stop taken).2.2, or_iff_left (by rintro ⟨⟩)]
  | stop =>
      replace taken : server.stopStep = some next := taken
      unfold Server.stopStep at taken
      split at taken
      case h_6 =>
        obtain ⟨_, -, rfl⟩ := Option.map_eq_some_iff.mp taken
        exact (or_iff_left (by rintro ⟨⟩)).symm
      all_goals try split at taken
      all_goals cases taken
      all_goals exact (or_iff_left (by rintro ⟨⟩)).symm

/-- `Stop` has cleared `running_`. -/
def Stopping : StopPlace → Prop
  | .idle | .clear => False
  | _ => True

/-- Once it has, the server never runs again. -/
theorem step_stopping {label : Server.Label}
    (stopping : Stopping server.stop → server.running = false)
    (taken : server.step config label = some next) :
    (Stopping next.stop → next.running = false) ∧
      (next.running = true → server.running = true) := by
  by_cases other : label = .stop
  · subst other
    replace taken : server.stopStep = some next := taken
    unfold Server.stopStep at taken
    split at taken
    case h_1 here =>
      split at taken <;> cases taken
      exact ⟨False.elim, fun runs => runs⟩
    case h_2 here =>
      cases taken
      exact ⟨fun _ => rfl, fun runs => nomatch runs⟩
    case h_6 here =>
      rw [here] at stopping
      obtain ⟨_, -, rfl⟩ := Option.map_eq_some_iff.mp taken
      exact ⟨fun _ => stopping trivial, fun runs => runs⟩
    all_goals
      rename_i here
      rw [here] at stopping
      try split at taken
      all_goals cases taken
      all_goals exact ⟨fun _ => stopping trivial, fun runs => runs⟩
  · obtain ⟨running, stop⟩ := step_stop other taken
    rw [running, stop]
    exact ⟨stopping, fun runs => runs⟩

/-! ## Clients who have not been accepted -/

def NoLoops (session : Session) : Prop :=
  session.reader = .notStarted ∧ session.sender = .notStarted

/-- A session whose client has not been accepted yet makes no steps. -/
def Unstarted (server : Server) : Prop :=
  ∀ id ∉ server.clients, (server.session id).run = .accepting ∧
    NoLoops (server.session id)

theorem moves_unstarted {label : Server.Label} {after : View}
    (fresh : (server.session id).run = .accepting ∧
      NoLoops (server.session id))
    (notOwn : ∀ choice, label ≠ .run id choice)
    (moves : Moves config server id label after) :
    after.session.run = .accepting ∧ NoLoops after.session := by
  cases moves with
  | rests | sweeperFinds | stopClears | callsBack | skipsCallback
  | testsServer | skipsErase | erased | forgotten => exact fresh
  | @advances choice | @refused choice => exact absurd rfl (notOwn choice)
  | passesLimit | added | inserted | disabled | opened | served | failed
  | runCalls => exact absurd rfl (notOwn _)
  | readerLeaves here | readerCalls here =>
      exact nomatch here.symm.trans fresh.2.1
  | senderLeaves here | senderCalls here =>
      exact nomatch here.symm.trans fresh.2.2
  | sweeperCalls _ called | stopCalls _ called =>
      cases called <;> exact fresh

theorem step_unstarted {label : Server.Label} (unused : Unused server)
    (unstarted : Unstarted server)
    (taken : server.step config label = some next) :
    Unstarted next := by
  intro id notClient
  have before : id ∉ server.clients := fun client =>
    notClient ((step_clients taken).mpr (Or.inl client))
  refine moves_unstarted (unstarted id before) ?_ (step_moves unused taken)
  rintro choice rfl
  simp only [Server.step, if_neg before] at taken
  cases taken

end Fptn.Web.SessionMoves
