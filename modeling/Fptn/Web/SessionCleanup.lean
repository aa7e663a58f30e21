import Fptn.Web.SessionMoves

/-!
# What closing a session removes

`Session::Close` takes effect once, and then calls `HandleWsCloseConnection`
only if `ws_session_was_opened_` has been set, which `HandleWebSocket` does
some time after `HandleWsOpenConnection` has entered the session.  A session
which the sweeper closes in between stays in the server's map for ever.

Every other order is fine: `Tidy` says for each place of `Run` and `Close`
which entries there are.
-/

namespace Fptn.Web.SessionCleanup

open Fptn.PartialRun
open Fptn.NatTable.Multiplexer
open Fptn.NatTable.SessionTable
open Fptn.NatTable.SessionCount
open Fptn.NatTable.TableInvariant
open Fptn.Network.IPAddress
open Fptn.Web.WebServer
open Fptn.Web.SessionMoves

/-! ## Phases -/

/-- The stretches of `Run`, by what it has entered. -/
inductive Phase where
  /-- Before `AddConnection`. -/
  | fresh
  /-- Before `sessions_.insert`. -/
  | inserting
  /-- Before `ws_session_was_opened_` is set. -/
  | opening
  | serving
  /-- In `Close`, or done. -/
  | leaving
deriving DecidableEq

def phase : RunPlace → Phase
  | .accepting | .openTest _ | .openValidate _ | .openCount _ _
  | .openLock _ _ | .openAdd _ _ => .fresh
  | .openInsert _ _ => .inserting
  | .disableChecksum _ | .setOpened => .opening
  | .serving => .serving
  | .closing _ | .finished => .leaving

theorem phase_of_beforeAdd {place : RunPlace} :
    phase place = .fresh ↔ beforeAdd place = true := by
  cases place <;> simp [phase, beforeAdd]

/-! ## The invariant of a session -/

/-- Neither map has an entry. -/
def Removed (view : View) : Prop :=
  view.entered = false ∧ view.known = false

def Untouched (view : View) : Prop :=
  view.session.wsSessionWasOpened = false ∧
    view.session.close = .notClosed

/-- What `Run` has done so far.  A session in `Close` which has not been
opened has left nothing behind. -/
def Staged (view : View) : Prop :=
  match phase view.session.run with
  | .fresh => Removed view ∧ Untouched view ∧ view.sweeping = none ∧
      NoLoops view.session
  | .inserting => view.entered = false ∧ Untouched view ∧
      view.sweeping = none ∧ NoLoops view.session
  | .opening => Untouched view ∧ NoLoops view.session
  | .serving =>
      view.session.wsSessionWasOpened = true ∧ NoLoops view.session
  | .leaving => view.session.wsSessionWasOpened = false → Removed view

/-- What `Close` has done so far. -/
def Closes (view : View) : Prop :=
  match view.session.close with
  | .notClosed => view.session.running = true
  | .callback | .closeTest | .closeLock => view.session.running = false
  | .delConnection =>
      view.session.running = false ∧ view.entered = false
  | .closed => view.session.running = false ∧ Removed view

/-- Which entries there are while the server is running. -/
structure Tidy (view : View) : Prop where
  staged : Staged view
  closes : Closes view

variable {config : Config} {server next : Server} {id : ClientID}
  {label : Server.Label} {before after : View}

theorem unknown_of_less {known before : Bool}
    (less : known = true → before = true) (unknown : before = false) :
    known = false := by
  cases known with
  | false => rfl
  | true => exact absurd (less rfl) (unknown ▸ Bool.false_ne_true)

theorem Removed.less (removed : Removed before)
    (entered : after.entered = true → before.entered = true)
    (known : after.known = true → before.known = true) :
    Removed after :=
  ⟨unknown_of_less entered removed.1, unknown_of_less known removed.2⟩

/-- Once `Run` is past the flag, entries may only go. -/
theorem Staged.of_late (staged : Staged before)
    (late : phase before.session.run = .serving ∨
      phase before.session.run = .leaving)
    (run : phase after.session.run = phase before.session.run)
    (flag : after.session.wsSessionWasOpened =
      before.session.wsSessionWasOpened)
    (loops : phase before.session.run = .serving →
      after.session.reader = before.session.reader ∧
        after.session.sender = before.session.sender)
    (entered : after.entered = true → before.entered = true)
    (known : after.known = true → before.known = true) :
    Staged after := by
  unfold Staged at staged ⊢
  rw [run, flag]
  rcases late with late | late
  · rw [late] at staged ⊢
    obtain ⟨reader, sender⟩ := loops late
    simp only [NoLoops, reader, sender]
    exact staged
  · rw [late] at staged ⊢
    exact fun notOpened => (staged notOpened).less entered known

/-- A coroutine besides `Run` means that `Run` is over. -/
theorem Staged.leaving (staged : Staged before)
    (loops : ¬NoLoops before.session) :
    phase before.session.run = .leaving := by
  unfold Staged at staged
  cases stage : phase before.session.run with
  | fresh | inserting =>
      rw [stage] at staged
      exact absurd staged.2.2.2 loops
  | opening | serving =>
      rw [stage] at staged
      exact absurd staged.2 loops
  | leaving => rfl

/-- `Close` takes effect on opened sessions and on failed ones. -/
theorem Staged.late_of_closed (staged : Staged before)
    (closed : before.session.close ≠ .notClosed) :
    phase before.session.run = .serving ∨
      phase before.session.run = .leaving := by
  unfold Staged at staged
  cases stage : phase before.session.run with
  | fresh =>
      rw [stage] at staged
      exact absurd staged.2.1.2 closed
  | inserting =>
      rw [stage] at staged
      exact absurd staged.2.1.2 closed
  | opening =>
      rw [stage] at staged
      exact absurd staged.1.2 closed
  | serving => exact Or.inl rfl
  | leaving => exact Or.inr rfl

/-- The sweeper only finds sessions which have been entered. -/
theorem Staged.found (staged : Staged before)
    (found : before.entered = true ∨ before.sweeping ≠ none) :
    phase before.session.run ≠ .fresh ∧
      phase before.session.run ≠ .inserting := by
  unfold Staged at staged
  constructor
  · intro stage
    rw [stage] at staged
    rcases found with entered | sweeping
    · exact Bool.false_ne_true (staged.1.1.symm.trans entered)
    · exact sweeping staged.2.2.1
  · intro stage
    rw [stage] at staged
    rcases found with entered | sweeping
    · exact Bool.false_ne_true (staged.1.symm.trans entered)
    · exact sweeping staged.2.2.1

theorem Closes.less (closes : Closes before)
    (close : after.session.close = before.session.close)
    (running : after.session.running = before.session.running)
    (entered : after.entered = true → before.entered = true)
    (known : after.known = true → before.known = true) :
    Closes after := by
  unfold Closes at closes ⊢
  rw [close]
  cases place : before.session.close with
  | notClosed | callback | closeTest | closeLock =>
      rw [place] at closes
      exact running.trans closes
  | delConnection =>
      rw [place] at closes
      exact ⟨running.trans closes.1, unknown_of_less entered closes.2⟩
  | closed =>
      rw [place] at closes
      exact ⟨running.trans closes.1, closes.2.less entered known⟩

/-- A call of `Close` begins the closing, or leaves the session as it is. -/
theorem Closes.called {session : Session} {call : CloseCall}
    {rest : Option CloseCall} (closes : Closes before)
    (called : Called before.session call session rest)
    (close : after.session.close = session.close)
    (running : after.session.running = session.running)
    (entered : after.entered = before.entered)
    (known : after.known = before.known) :
    Closes after := by
  cases called with
  | late | tested | returned =>
      exact closes.less close running (fun same => entered ▸ same)
        fun same => known ▸ same
  | entered =>
      unfold Closes
      rw [close]
      exact running

/-! ## Steps -/

/-- The sweeper does not begin to close a session between its entry and the
flag. -/
def Timely (server : Server) : Server.Label → Prop
  | .sweeper _ =>
      match server.sweeper with
      | .closing id .lock _ =>
          (server.session id).running = true →
            phase (server.session id).run ≠ .inserting ∧
              phase (server.session id).run ≠ .opening
      | _ => True
  | _ => True

instance (server : Server) (label : Server.Label) :
    Decidable (Timely server label) :=
  match label with
  | .sweeper _ =>
      match here : server.sweeper with
      | .closing id .lock _ =>
          decidable_of_iff
            ((server.session id).running = true →
              phase (server.session id).run ≠ .inserting ∧
                phase (server.session id).run ≠ .opening)
            (by simp [Timely, here])
      | .idle | .updating | .visiting _ | .closing _ .test _
      | .closing _ .inside _ => isTrue (by simp [Timely, here])
  | .accept _ | .run _ _ | .reader _ | .sender _ | .close _ | .stop =>
      isTrue trivial

/-- `Run` goes on inside a stretch. -/
theorem Tidy.withRun {place : RunPlace} (tidy : Tidy before)
    (same : phase place = phase before.session.run) :
    Tidy { before with session := { before.session with run := place } } where
  staged := by
    unfold Staged
    simp only [same]
    exact tidy.staged
  closes := tidy.closes

/-- `Run` in `Close`, from any place where it has not entered anything. -/
theorem Tidy.failed {call : CloseCall} {known : Bool} (tidy : Tidy before)
    (fresh : phase before.session.run = .fresh)
    (less : known = true → before.known = true) :
    Tidy { before with
      session := { before.session with run := .closing call }
      known := known } where
  staged := by
    intro _
    have staged := tidy.staged
    simp only [Staged, fresh] at staged
    exact staged.1.less (fun same => same) less
  closes := tidy.closes.less rfl rfl (fun same => same) less

/-- A call of `Close` by a coroutine which is about to end. -/
theorem Tidy.called {session : Session} {call : CloseCall}
    {rest : Option CloseCall} (tidy : Tidy before)
    (leaving : phase before.session.run = .leaving)
    (called : Called before.session call session rest)
    (run : phase after.session.run = .leaving)
    (flag : after.session.wsSessionWasOpened =
      session.wsSessionWasOpened)
    (close : after.session.close = session.close)
    (running : after.session.running = session.running)
    (entered : after.entered = before.entered)
    (known : after.known = before.known) :
    Tidy after where
  staged := by
    have sameFlag : session.wsSessionWasOpened =
        before.session.wsSessionWasOpened := by
      cases called <;> rfl
    refine tidy.staged.of_late (Or.inr leaving) (run.trans leaving.symm)
      (flag.trans sameFlag) (fun serving => ?_)
      (fun same => entered ▸ same) fun same => known ▸ same
    exact nomatch serving.symm.trans leaving
  closes := tidy.closes.called called close running entered known

theorem Tidy.forgets {known : Bool} (tidy : Tidy before)
    (less : known = true → before.known = true) :
    Tidy { before with known := known } where
  staged := by
    have staged := tidy.staged
    unfold Staged at staged ⊢
    cases stage : phase before.session.run with
    | fresh =>
        simp only [stage] at staged ⊢
        exact ⟨staged.1.less (fun same => same) less, staged.2⟩
    | inserting | opening | serving =>
        simp only [stage] at staged ⊢
        exact staged
    | leaving =>
        simp only [stage] at staged ⊢
        exact fun notOpened =>
          (staged notOpened).less (fun same => same) less
  closes := tidy.closes.less rfl rfl (fun same => same) less

/-- As long as nothing is closed, entries do not matter to `Close`. -/
theorem Closes.of_notClosed (closes : Closes before)
    (notClosed : before.session.close = .notClosed)
    (close : after.session.close = before.session.close)
    (running : after.session.running = before.session.running) :
    Closes after := by
  unfold Closes at closes ⊢
  rw [close, notClosed]
  rw [notClosed] at closes
  exact running.trans closes

/-- The next step of `Close`, which leaves the rest of the session alone. -/
theorem Tidy.withClose {place : ClosePlace} {entered known : Bool}
    (tidy : Tidy before) (closed : before.session.close ≠ .notClosed)
    (lessEntered : entered = true → before.entered = true)
    (lessKnown : known = true → before.known = true)
    (closes : Closes { before with
      session := { before.session with close := place }
      entered := entered
      known := known }) :
    Tidy { before with
      session := { before.session with close := place }
      entered := entered
      known := known } where
  staged := tidy.staged.of_late (tidy.staged.late_of_closed closed) rfl rfl
    (fun _ => ⟨rfl, rfl⟩) lessEntered lessKnown
  closes := closes

/-- `running_` has been cleared once `Close` is under way. -/
theorem Closes.stopped (closes : Closes before)
    (closed : before.session.close ≠ .notClosed) :
    before.session.running = false := by
  unfold Closes at closes
  cases place : before.session.close with
  | notClosed => exact absurd place closed
  | callback | closeTest | closeLock =>
      rw [place] at closes
      exact closes
  | delConnection | closed =>
      rw [place] at closes
      exact closes.1

theorem Staged.withSweeping {sweeping : Option CloseCall}
    (staged : Staged before)
    (found : before.entered = true ∨ before.sweeping ≠ none) :
    Staged { before with sweeping := sweeping } := by
  obtain ⟨notFresh, notInserting⟩ := staged.found found
  unfold Staged at staged ⊢
  cases stage : phase before.session.run with
  | fresh => exact absurd stage notFresh
  | inserting => exact absurd stage notInserting
  | opening | serving | leaving =>
      simp only [stage] at staged ⊢
      exact staged

/-- A call of `Close` by the sweeper. -/
theorem moves_tidy_sweeper {order : List MplxPtr} {call : CloseCall}
    {session : Session} {left : Option CloseCall} {rest : List ClientID}
    (tidy : Tidy (view server id)) (timely : Timely server (.sweeper order))
    (here : server.sweeper = .closing id call rest)
    (called : Called (server.session id) call session left) :
    Tidy { view server id with session := session, sweeping := left } where
  staged := by
    have found : (view server id).entered = true ∨
        (view server id).sweeping ≠ none := by
      right
      simp [view, sweepingOf, here]
    have swept := @Staged.withSweeping _ left tidy.staged found
    cases called with
    | late | tested | returned => exact swept
    | entered running =>
        obtain ⟨notFresh, notInserting⟩ := tidy.staged.found found
        simp only [Timely, here] at timely
        have late : phase (view server id).session.run = .serving ∨
            phase (view server id).session.run = .leaving := by
          cases stage : phase (view server id).session.run with
          | fresh => exact absurd stage notFresh
          | inserting => exact absurd stage notInserting
          | opening => exact absurd stage (timely running).2
          | serving => exact Or.inl rfl
          | leaving => exact Or.inr rfl
        exact swept.of_late late rfl rfl (fun _ => ⟨rfl, rfl⟩)
          (fun same => same) fun same => same
  closes := tidy.closes.called called rfl rfl rfl rfl

theorem closed_of_close {place : ClosePlace}
    (here : (server.session id).close = place)
    (closed : place ≠ .notClosed) :
    (view server id).session.close ≠ .notClosed := by
  rw [view_session, here]
  exact closed

theorem moves_tidy (runs : server.running = true)
    (notStopping : ¬Stopping server.stop)
    (tidy : Tidy (view server id)) (timely : Timely server label)
    (moves : Moves config server id label after) :
    Tidy after := by
  have staged := tidy.staged
  have closes := tidy.closes
  cases moves with
  | rests less => exact tidy.forgets less
  | advances fresh still =>
      rw [← phase_of_beforeAdd] at fresh still
      exact tidy.withRun (still.trans fresh.symm)
  | passesLimit here =>
      exact tidy.withRun (by rw [view_session, here]; rfl)
  | refused fresh less =>
      exact tidy.failed (phase_of_beforeAdd.mpr fresh) less
  | added here =>
      have stage : phase (view server id).session.run = .fresh :=
        congrArg phase here
      simp only [Staged, stage] at staged
      obtain ⟨removed, untouched, sweeping, noLoops⟩ := staged
      exact
        ⟨⟨removed.1, untouched, sweeping, noLoops⟩,
          closes.of_notClosed untouched.2 rfl rfl⟩
  | inserted here there =>
      have stage : phase (view server id).session.run = .inserting :=
        congrArg phase here
      simp only [Staged, stage] at staged
      obtain ⟨-, untouched, -, noLoops⟩ := staged
      refine ⟨?_, closes.of_notClosed untouched.2 rfl rfl⟩
      rcases there with rfl | rfl
      · exact ⟨untouched, noLoops⟩
      · exact ⟨untouched, noLoops⟩
  | disabled here =>
      exact tidy.withRun (by rw [view_session, here]; rfl)
  | opened here =>
      have stage : phase (view server id).session.run = .opening :=
        congrArg phase here
      simp only [Staged, stage] at staged
      exact ⟨⟨rfl, staged.2⟩, closes⟩
  | served here | failed here =>
      have stage : phase (view server id).session.run = .serving :=
        congrArg phase here
      simp only [Staged, stage] at staged
      refine ⟨fun notOpened => ?_, closes⟩
      exact absurd (notOpened.symm.trans staged.1) Bool.false_ne_true
  | @runCalls _ _ rest here called =>
      have stage : phase (view server id).session.run = .leaving :=
        congrArg phase here
      refine tidy.called stage called ?_ rfl rfl rfl rfl rfl
      cases rest <;> rfl
  | readerLeaves here | senderLeaves here =>
      have stage : phase (view server id).session.run = .leaving := by
        refine staged.leaving fun noLoops => ?_
        simp [NoLoops, view_session, here] at noLoops
      refine ⟨staged.of_late (Or.inr stage) rfl rfl (fun serving => ?_)
        (fun same => same) fun same => same, closes⟩
      exact nomatch serving.symm.trans stage
  | readerCalls here called | senderCalls here called =>
      have stage : phase (view server id).session.run = .leaving := by
        refine staged.leaving fun noLoops => ?_
        simp [NoLoops, view_session, here] at noLoops
      refine tidy.called stage called ?_ rfl rfl rfl rfl rfl
      exact (congrArg phase called.run).trans stage
  | callsBack here | testsServer here =>
      have closed := closed_of_close here fun other => nomatch other
      exact tidy.withClose closed (fun same => same) (fun same => same)
        (closes.stopped closed)
  | skipsCallback here notOpened =>
      have closed := closed_of_close here fun other => nomatch other
      refine tidy.withClose closed (fun same => same) (fun same => same)
        ⟨closes.stopped closed, ?_⟩
      rcases staged.late_of_closed closed with stage | stage
      · simp only [Staged, stage] at staged
        exact absurd (notOpened.symm.trans staged.1) Bool.false_ne_true
      · simp only [Staged, stage] at staged
        exact staged notOpened
  | skipsErase here stopped =>
      exact absurd (stopped.symm.trans runs) Bool.false_ne_true
  | erased here =>
      have closed := closed_of_close here fun other => nomatch other
      exact tidy.withClose closed (fun other => nomatch other)
        (fun same => same) ⟨closes.stopped closed, rfl⟩
  | forgotten here =>
      have closed := closed_of_close here fun other => nomatch other
      have place : (view server id).session.close = .delConnection := here
      simp only [Closes, place] at closes
      exact tidy.withClose closed (fun same => same)
        (fun other => nomatch other) ⟨closes.1, closes.2, rfl⟩
  | sweeperFinds there =>
      exact ⟨staged.withSweeping (Or.inl (decide_eq_true there)), closes⟩
  | sweeperCalls here called =>
      exact moves_tidy_sweeper tidy timely here called
  | stopCalls here | stopClears here =>
      exact absurd (by rw [here]; trivial) notStopping

/-! ## The last coroutine -/

def Over (place : LoopPlace) : Prop :=
  place = .notStarted ∨ place = .finished

instance (place : LoopPlace) : Decidable (Over place) :=
  inferInstanceAs (Decidable (_ ∨ _))

/-- All coroutines of the session have finished. -/
def AllOver (session : Session) : Prop :=
  session.run = .finished ∧ Over session.reader ∧ Over session.sender

instance (session : Session) : Decidable (AllOver session) :=
  inferInstanceAs (Decidable (_ ∧ _ ∧ _))

/-- A coroutine whose `Close` finds the session closed is the last one. -/
def LastOne (session : Session) : Server.Label → Prop
  | .run _ _ =>
      session.run = .closing .test ∧ Over session.reader ∧
        Over session.sender
  | .reader _ =>
      session.reader = .closing .test ∧ session.run = .finished ∧
        Over session.sender
  | .sender _ =>
      session.sender = .closing .test ∧ session.run = .finished ∧
        Over session.reader
  | _ => False

instance (session : Session) (label : Server.Label) :
    Decidable (LastOne session label) :=
  match label with
  | .run _ _ | .reader _ | .sender _ =>
      inferInstanceAs (Decidable (_ ∧ _ ∧ _))
  | .accept _ | .close _ | .sweeper _ | .stop =>
      inferInstanceAs (Decidable False)

/-- The last coroutine does not finish while a call of `Close` from another
thread is under way. -/
def Undisturbed (server : Server) (label : Server.Label) : Prop :=
  match label with
  | .run id _ | .reader id | .sender id =>
      LastOne (server.session id) label →
        (server.session id).locked = false
  | _ => True

instance (server : Server) (label : Server.Label) :
    Decidable (Undisturbed server label) :=
  match label with
  | .run _ _ | .reader _ | .sender _ => inferInstanceAs (Decidable (_ → _))
  | .accept _ | .close _ | .sweeper _ | .stop =>
      inferInstanceAs (Decidable True)

/-- A coroutine finishes only when `running_` has been cleared. -/
structure Attended (session : Session) : Prop where
  closed : session.close ≠ .notClosed → session.running = false
  run : session.run = .finished → session.running = false ∨
    session.reader ≠ .notStarted ∧ session.sender ≠ .notStarted
  reader : session.reader = .finished → session.running = false
  sender : session.sender = .finished → session.running = false

theorem Attended.stopped {session : Session} (attended : Attended session)
    (allOver : AllOver session) :
    session.running = false := by
  obtain ⟨run, reader, -⟩ := allOver
  rcases attended.run run with stopped | ⟨started, -⟩
  · exact stopped
  · exact attended.reader (reader.resolve_left started)

/-- A call of `Close` which returns has found the session closed. -/
theorem Called.stopped {session called : Session} {call : CloseCall}
    {rest : Option CloseCall} (attended : Attended session)
    (calls : Called session call called rest) (returns : rest = none) :
    called = session ∧ session.running = false := by
  cases calls with
  | late stopped => exact ⟨rfl, stopped⟩
  | tested | entered => cases returns
  | returned closed =>
      exact ⟨rfl, attended.closed (by rw [closed]; exact nofun)⟩

theorem Called.attended {session called : Session} {call : CloseCall}
    {rest : Option CloseCall} (attended : Attended session)
    (calls : Called session call called rest) :
    Attended called := by
  cases calls with
  | late | tested | returned => exact attended
  | entered => exact ⟨fun _ => rfl, fun _ => Or.inl rfl, fun _ => rfl,
      fun _ => rfl⟩

theorem moves_attended (attended : Attended (server.session id))
    (moves : Moves config server id label after) :
    Attended after.session := by
  cases moves with
  | rests | sweeperFinds | stopClears => exact attended
  | @advances _ place _ still =>
      refine ⟨attended.closed, fun finished => ?_, attended.reader,
        attended.sender⟩
      obtain rfl : place = .finished := finished
      cases still
  | passesLimit | refused | added | opened | disabled | failed =>
      exact ⟨attended.closed, nofun, attended.reader, attended.sender⟩
  | inserted here there =>
      rcases there with rfl | rfl
      all_goals
        exact ⟨attended.closed, nofun, attended.reader, attended.sender⟩
  | served =>
      exact ⟨attended.closed, fun _ => Or.inr ⟨nofun, nofun⟩, nofun, nofun⟩
  | @runCalls _ _ rest here called =>
      have later := Called.attended attended called
      refine ⟨later.closed, fun finished => Or.inl ?_, later.reader,
        later.sender⟩
      cases rest with
      | none =>
          obtain ⟨rfl, stopped⟩ := Called.stopped attended called rfl
          exact stopped
      | some => cases finished
  | readerLeaves here =>
      refine ⟨attended.closed, fun finished => ?_, nofun, attended.sender⟩
      exact (attended.run finished).imp_right (And.imp_left fun _ => nofun)
  | @readerCalls _ _ rest here called =>
      have later := Called.attended attended called
      refine ⟨later.closed, fun finished => ?_, fun finished => ?_,
        later.sender⟩
      · refine (later.run finished).imp_right (And.imp_left fun _ => ?_)
        cases rest <;> exact nofun
      · cases rest with
        | none =>
            obtain ⟨rfl, stopped⟩ := Called.stopped attended called rfl
            exact stopped
        | some => cases finished
  | senderLeaves here =>
      refine ⟨attended.closed, fun finished => ?_, attended.reader, nofun⟩
      exact (attended.run finished).imp_right (And.imp_right fun _ => nofun)
  | @senderCalls _ _ rest here called =>
      have later := Called.attended attended called
      refine ⟨later.closed, fun finished => ?_, later.reader,
        fun finished => ?_⟩
      · refine (later.run finished).imp_right (And.imp_right fun _ => ?_)
        cases rest <;> exact nofun
      · cases rest with
        | none =>
            obtain ⟨rfl, stopped⟩ := Called.stopped attended called rfl
            exact stopped
        | some => cases finished
  | callsBack here | skipsCallback here | testsServer here
  | skipsErase here | erased here | forgotten here =>
      exact ⟨fun _ => attended.closed (by rw [here]; exact nofun),
        attended.run, attended.reader, attended.sender⟩
  | sweeperCalls _ called | stopCalls _ called =>
      exact Called.attended attended called

/-- While a call of `Close` is under way, a coroutine is left. -/
def Held (session : Session) : Prop :=
  session.locked = true → ¬AllOver session

theorem Called.held {session called : Session} {call : CloseCall}
    {rest : Option CloseCall} (attended : Attended session)
    (held : Held session) (calls : Called session call called rest) :
    Held called := by
  cases calls with
  | late | tested | returned => exact held
  | entered runs =>
      intro _ allOver
      have stopped := attended.stopped allOver
      exact Bool.false_ne_true (stopped.symm.trans runs)

/-- A coroutine which returns from `Close` does not leave it under way. -/
theorem Called.unlocked {session called : Session} {call : CloseCall}
    {rest : Option CloseCall}
    (last : call = .test → session.locked = false)
    (calls : Called session call called rest) (returns : rest = none) :
    called.locked = false := by
  cases calls with
  | late _ first => exact first.elim last id
  | tested | entered => cases returns
  | returned closed => simp [Session.locked, closed]

theorem moves_held (attended : Attended (server.session id))
    (held : Held (server.session id))
    (undisturbed : Undisturbed server label)
    (moves : Moves config server id label after) :
    Held after.session := by
  cases moves with
  | rests | sweeperFinds | stopClears => exact held
  | @advances _ place _ still =>
      rintro - ⟨run, -⟩
      obtain rfl : place = .finished := run
      cases still
  | passesLimit | refused | added | opened | disabled | failed =>
      rintro - ⟨⟨⟩, -⟩
  | inserted here there =>
      rintro - ⟨run, -⟩
      rcases there with rfl | rfl <;> cases run
  | served =>
      rintro - ⟨-, reader, -⟩
      rcases reader with reader | reader <;> cases reader
  | @runCalls call _ rest here called =>
      rintro locked ⟨run, reader, sender⟩
      cases rest with
      | some => cases run
      | none =>
          obtain ⟨rfl, -⟩ := Called.stopped attended called rfl
          refine Bool.false_ne_true ?_
          exact (Called.unlocked (fun first => undisturbed
            ⟨first ▸ here, reader, sender⟩) called rfl).symm.trans locked
  | readerLeaves =>
      rintro - ⟨-, reader, -⟩
      rcases reader with reader | reader <;> cases reader
  | senderLeaves =>
      rintro - ⟨-, -, sender⟩
      rcases sender with sender | sender <;> cases sender
  | @readerCalls call _ rest here called =>
      rintro locked ⟨run, reader, sender⟩
      cases rest with
      | some => rcases reader with reader | reader <;> cases reader
      | none =>
          obtain ⟨rfl, -⟩ := Called.stopped attended called rfl
          refine Bool.false_ne_true ?_
          exact (Called.unlocked (fun first => undisturbed
            ⟨first ▸ here, run, sender⟩) called rfl).symm.trans locked
  | @senderCalls call _ rest here called =>
      rintro locked ⟨run, reader, sender⟩
      cases rest with
      | some => rcases sender with sender | sender <;> cases sender
      | none =>
          obtain ⟨rfl, -⟩ := Called.stopped attended called rfl
          refine Bool.false_ne_true ?_
          exact (Called.unlocked (fun first => undisturbed
            ⟨first ▸ here, run, reader⟩) called rfl).symm.trans locked
  | callsBack here | testsServer here | skipsErase here | erased here =>
      intro _ allOver
      exact held (by simp [Session.locked, here]) allOver
  | skipsCallback | forgotten =>
      intro locked
      cases locked
  | sweeperCalls _ called | stopCalls _ called =>
      exact Called.held attended held called

/-! ## Runs -/

variable {ipv4 : List IPv4Address} {ipv6 : List IPv6Address}
  {labels : List Server.Label}

/-- What every run keeps, whenever its steps are made. -/
structure Ordered (server : Server) : Prop where
  unused : Unused server
  stopping : Stopping server.stop → server.running = false
  attended : ∀ id, Attended (server.session id)

theorem start_ordered :
    Ordered (Server.start (World.start ipv4 ipv6)) where
  unused _ _ member := nomatch member
  stopping := False.elim
  attended _ := ⟨fun closed => absurd rfl closed, nofun, nofun, nofun⟩

theorem step_ordered (ordered : Ordered server)
    (taken : server.step config label = some next) :
    Ordered next where
  unused := step_unused ordered.unused taken
  stopping := (step_stopping ordered.stopping taken).1
  attended id :=
    moves_attended (ordered.attended id) (step_moves ordered.unused taken)

/-- While the server runs, every session is tidy. -/
def AllTidy (server : Server) : Prop :=
  server.running = true → ∀ id, Tidy (view server id)

theorem start_allTidy :
    AllTidy (Server.start (World.start ipv4 ipv6)) := by
  intro _ id
  exact
    ⟨⟨⟨rfl, rfl⟩, ⟨rfl, rfl⟩, rfl, ⟨rfl, rfl⟩⟩, rfl⟩

theorem step_allTidy (ordered : Ordered server) (tidy : AllTidy server)
    (timely : Timely server label)
    (taken : server.step config label = some next) :
    AllTidy next := by
  intro nextRuns id
  have runs := (step_stopping ordered.stopping taken).2 nextRuns
  have notStopping (stopping : Stopping server.stop) : False :=
    Bool.false_ne_true ((ordered.stopping stopping).symm.trans runs)
  exact moves_tidy runs notStopping (tidy runs id) timely
    (step_moves ordered.unused taken)

/-- A session which is closed, and whose coroutines have all finished, is in
neither map. -/
def NoLeak (server : Server) : Prop :=
  server.running = true → ∀ id ∈ server.clients,
    (server.session id).running = false → AllOver (server.session id) →
      id ∉ server.sessions ∧ ¬Knows server.world.table id

/-- The same, unless another thread's call of `Close` is under way. -/
def NoLeakAfterClose (server : Server) : Prop :=
  server.running = true → ∀ id ∈ server.clients,
    (server.session id).running = false →
      (server.session id).locked = false → AllOver (server.session id) →
      id ∉ server.sessions ∧ ¬Knows server.world.table id

theorem AllTidy.noLeakAfterClose (tidy : AllTidy server) :
    NoLeakAfterClose server := by
  intro runs id _ stopped unlocked _
  have closes := (tidy runs id).closes
  have closed : (view server id).session.close = .closed := by
    unfold Closes at closes
    cases place : (view server id).session.close with
    | closed => rfl
    | notClosed =>
        rw [place] at closes
        exact absurd (stopped.symm.trans closes) Bool.false_ne_true
    | callback | closeTest | closeLock | delConnection =>
        rw [view_session] at place
        simp [Session.locked, place] at unlocked
  simp only [Closes, closed] at closes
  refine ⟨of_decide_eq_false closes.2.1, fun known => ?_⟩
  exact Bool.false_ne_true (closes.2.2.symm.trans (known_iff.mpr known))

/-- In a run in which the sweeper begins to close no session between its
entry and the flag, closed sessions leave nothing behind, at the latest when
all calls of `Close` have returned; and at once, if none is under way when
the last coroutine finishes. -/
theorem run_noLeak
    (reached : run (Server.step config)
      (Server.start (World.start ipv4 ipv6)) labels = some server)
    (timely : Along (Server.step config) Timely
      (Server.start (World.start ipv4 ipv6)) labels) :
    NoLeakAfterClose server ∧
      (Along (Server.step config) Undisturbed
          (Server.start (World.start ipv4 ipv6)) labels →
        NoLeak server) := by
  obtain ⟨ordered, tidy⟩ :=
    run_invariant_of
      (fun visited label next invariant timely taken =>
        (⟨step_ordered invariant.1 taken,
          step_allTidy invariant.1 invariant.2 timely taken⟩ :
          Ordered next ∧ AllTidy next))
      ⟨start_ordered, start_allTidy⟩ timely reached
  refine ⟨tidy.noLeakAfterClose, fun undisturbed => ?_⟩
  obtain ⟨-, held⟩ :=
    run_invariant_of
      (fun visited label next invariant undisturbed taken =>
        (⟨step_ordered invariant.1 taken, fun id =>
          moves_held (invariant.1.attended id) (invariant.2 id)
            undisturbed (step_moves invariant.1.unused taken)⟩ :
          Ordered next ∧ ∀ id, Held (next.session id)))
      ⟨start_ordered, fun _ locked => nomatch locked⟩ undisturbed reached
  intro runs id member stopped allOver
  have unlocked : (server.session id).locked = false :=
    Bool.eq_false_of_not_eq_true fun locked => held id locked allOver
  exact tidy.noLeakAfterClose runs id member stopped unlocked allOver

/-! ## An early sweep -/

/-- Asks for a connection which expires after a millisecond. -/
def shortLived : OpenRequest where
  url := kApiWebSocketUrl
  jwtAuthToken := "token"
  params := guest 0 "first" 1
  protocol2 := true

/-- A clock which advances by a millisecond with each reading. -/
def milliseconds : Config where
  clock tick := tick * 1000000
  validate _ := some "user"
  maxActiveSessionsPerUser := 3

def oneFree : Server :=
  Server.start
    (World.start [IPv4Address.ofValue plainText 0x0A000002]
      [wholeIPv6 2])

/-- A client is accepted and entered. -/
def opens : List Server.Label :=
  [.accept 1, .run 1 (.request shortLived), .run 1 .proceed,
    .run 1 .proceed, .run 1 .proceed, .run 1 .proceed, .run 1 .proceed,
    .run 1 .proceed]

/-- The sweeper finds the expired client and begins to close it. -/
def sweeps : List Server.Label :=
  [.sweeper [0], .sweeper [], .sweeper [], .sweeper [], .sweeper []]

/-- The flag is set and the session served before the sweeper comes; the
reader ends while the sweeper closes it, the sender afterwards. -/
def orderly : List Server.Label :=
  opens ++ [.run 1 .proceed, .run 1 .proceed, .run 1 (.served true)] ++
    sweeps ++
    [.reader 1, .reader 1, .close 1, .close 1, .close 1, .close 1,
      .sweeper [], .sender 1, .sender 1]

/-- The sweeper closes the session before the flag is set. -/
def early : List Server.Label :=
  opens ++ sweeps ++
    [.close 1, .sweeper [], .sweeper [], .run 1 .proceed, .run 1 .proceed,
      .run 1 (.served false), .run 1 .proceed]

theorem run_noLeak_orderly :
    ∃ server, run (Server.step milliseconds) oneFree orderly =
        some server ∧
      1 ∈ server.clients ∧ AllOver (server.session 1) ∧
      NoLeak server := by
  have taken : (run (Server.step milliseconds) oneFree orderly).map
      (fun server => decide
        (1 ∈ server.clients ∧ AllOver (server.session 1))) =
      some true := by
    decide +kernel
  have timely : Along (Server.step milliseconds) Timely oneFree orderly := by
    decide +kernel
  have undisturbed :
      Along (Server.step milliseconds) Undisturbed oneFree orderly := by
    decide +kernel
  obtain ⟨server, reached, there⟩ := Option.map_eq_some_iff.mp taken
  obtain ⟨client, allOver⟩ := of_decide_eq_true there
  exact
    ⟨server, reached, client, allOver,
      (run_noLeak reached timely).2 undisturbed⟩

/-- The session stays in the server's map though it is closed, all its
coroutines have finished and no call of `Close` is left. -/
theorem earlySweep_leaks :
    ∃ server, run (Server.step milliseconds) oneFree early = some server ∧
      ¬NoLeakAfterClose server ∧ ¬NoLeak server := by
  have taken : (run (Server.step milliseconds) oneFree early).map
      (fun server => decide
        (server.running = true ∧ 1 ∈ server.clients ∧
          (server.session 1).running = false ∧
          (server.session 1).locked = false ∧
          AllOver (server.session 1) ∧ 1 ∈ server.sessions)) =
      some true := by
    decide +kernel
  obtain ⟨server, reached, there⟩ := Option.map_eq_some_iff.mp taken
  obtain ⟨runs, client, stopped, unlocked, allOver, entered⟩ :=
    of_decide_eq_true there
  refine ⟨server, reached, fun none => ?_, fun none => ?_⟩
  · exact (none runs 1 client stopped unlocked allOver).1 entered
  · exact (none runs 1 client stopped allOver).1 entered

end Fptn.Web.SessionCleanup
