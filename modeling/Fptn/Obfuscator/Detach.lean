import Fptn.Obfuscator.TcpStream

/-!
# Detaching the obfuscators

A connection between a client and a server, each of which calls
`set_obfuscator(nullptr)` when its own TLS handshake call has returned.  From
then on it writes its bytes as they are and hands on what it reads, while its
peer may still have an obfuscator, or may have written records already.

The TLS engines are arbitrary writers and readers.  No byte is lost or handed
on undecoded in runs whose steps are clean; a run which is not clean is enough
for that to fail.
-/

namespace Fptn.Obfuscator.Detach

open Fptn.PartialRun
open Fptn.Obfuscator.Methods
open Fptn.Obfuscator.TcpStream
open Fptn.Obfuscator.TcpStream.Segment

inductive Side where
  | client
  | server
deriving DecidableEq

def Side.peer : Side → Side
  | client => server
  | server => client

/-- The two directions of a connection, each under the side which sends. -/
structure Connection where
  link : Side → Link

def Connection.start : Connection where
  link _ := Link.start

inductive Event where
  /-- A step of the direction in which a side sends. -/
  | transfer (sender : Side) (label : Label)
  /-- The handshake call of a side has returned. -/
  | detach (side : Side)

namespace Connection

variable (connection : Connection)

def setLink (sender : Side) (link : Link) : Connection where
  link := Function.update connection.link sender link

/-- `set_obfuscator(nullptr)` drops the obfuscator with its input buffer. -/
def setObfuscator (side : Side) : Connection :=
  let outgoing := { connection.link side with attached := false }
  let incoming := { connection.link side.peer with decoder := none }
  (connection.setLink side outgoing).setLink side.peer incoming

end Connection

variable (method : Method) (rooms : Side → Nat)

/-- Both sides read with `async_read_some`; a side which detaches is in no
read call. -/
def step (connection : Connection) : Event → Option Connection
  | .transfer sender label =>
      (TcpStream.step method (asyncReadSome (rooms sender.peer))
        (connection.link sender) label).map (connection.setLink sender)
  | .detach side =>
      if (connection.link side.peer).waiting then
        none
      else
        some (connection.setObfuscator side)

/-- The input buffer is empty, and no record is under way. -/
def CanDetach (link : Link) : Prop :=
  link.buffer = [] ∧ ∀ segment ∈ link.pending, segment.isPlain = true

/-- A step which does not run into the switch of the other side. -/
def Clean (connection : Connection) : Event → Prop
  | .transfer sender label =>
      Ready method (asyncReadSome (rooms sender.peer))
        (connection.link sender) label
  | .detach side => CanDetach (connection.link side.peer)

/-- In both directions the reader gets what has been written, in order. -/
structure LosesNothing (connection : Connection) : Prop where
  inOrder : ∀ sender,
    (connection.link sender).received <+: (connection.link sender).written
  /-- A reader which can do nothing more has received everything. -/
  complete : ∀ sender,
    (∀ label : Label, label.isRead = true →
      step method rooms connection (.transfer sender label) = none) →
    (connection.link sender).received = (connection.link sender).written

variable {method} {rooms} {connection next : Connection}

@[simp]
theorem setLink_self {sender : Side} {link : Link} :
    (connection.setLink sender link).link sender = link :=
  Function.update_self _ _ _

theorem setLink_of_ne {sender other : Side} {link : Link}
    (different : other ≠ sender) :
    (connection.setLink sender link).link other = connection.link other :=
  Function.update_of_ne different _ _

theorem peer_ne (side : Side) : side.peer ≠ side := by
  cases side <;> decide

theorem eq_peer_of_ne {side other : Side} (different : other ≠ side) :
    other = side.peer := by
  cases side <;> cases other <;> first | rfl | exact absurd rfl different

/-- A sender may detach at any time. -/
theorem detachWriter_sound {link : Link} (sound : Sound method link) :
    Sound method { link with attached := false } :=
  { sound with attached := fun on => by cases on }

/-- A receiver may detach when it owes nothing to its reader. -/
theorem detachReader_sound {link : Link} (sound : Sound method link)
    (canDetach : CanDetach link) :
    Sound method { link with decoder := none } := by
  obtain ⟨empty, plain⟩ := canDetach
  have inFlight := sound.inFlight
  rw [empty] at inFlight
  exact
    { regular := sound.regular
      ordered := sound.ordered
      attached := sound.attached
      taken := sound.taken
      delivered := sound.delivered
      inFlight := inFlight
      detached := fun _ => plain
      waits := fun _ => Or.inl rfl }

/-- A clean step keeps both directions sound. -/
theorem step_sound (roomy : ∀ side, kMaxWrite ≤ rooms side)
    (sound : ∀ sender, Sound method (connection.link sender))
    {event : Event} (clean : Clean method rooms connection event)
    (taken : step method rooms connection event = some next) :
    ∀ sender, Sound method (next.link sender) := by
  intro side
  cases event with
  | transfer sender label =>
      obtain ⟨link, stepped, rfl⟩ := Option.map_eq_some_iff.mp taken
      by_cases same : side = sender
      · subst same
        rw [setLink_self]
        exact
          TcpStream.step_sound (roomy side.peer) (sound side) clean
            stepped
      · rw [setLink_of_ne same]
        exact sound side
  | detach detached =>
      simp only [step] at taken
      split at taken
      · cases taken
      · obtain rfl := Option.some.inj taken
        rw [Connection.setObfuscator]
        by_cases outgoing : side = detached
        · subst outgoing
          rw [setLink_of_ne (peer_ne side).symm, setLink_self]
          exact detachWriter_sound (sound side)
        · obtain rfl := eq_peer_of_ne outgoing
          rw [setLink_self]
          exact detachReader_sound (sound _) clean

/-- Clean runs lose nothing. -/
theorem run_losesNothing (roomy : ∀ side, kMaxWrite ≤ rooms side)
    {events : List Event}
    (clean :
      Along (step method rooms) (Clean method rooms) Connection.start
        events)
    (reached :
      run (step method rooms) Connection.start events =
        some connection) :
    LosesNothing method rooms connection := by
  have sound : ∀ sender, Sound method (connection.link sender) :=
    run_invariant_of
      (fun _ _ _ sound clean taken => step_sound roomy sound clean taken)
      (fun _ => start_sound method) clean reached
  constructor
  · exact fun sender => (sound sender).delivered
  · intro sender stuck
    have positive : 0 < (asyncReadSome (rooms sender.peer)).chunk :=
      Nat.lt_of_lt_of_le (by decide) (roomy sender.peer)
    refine
      received_of_stuck positive (roomy sender.peer) (sound sender) ?_
    intro label reads
    exact Option.map_eq_none_iff.mp (stuck label reads)

/-- A draw with as little padding as `TlsObfuscator` allows. -/
def shortDraw : Draw := ⟨0, 0x5A, List.replicate 64 0⟩

/-- The client's last record is read before both sides detach. -/
def orderly : List Event :=
  [.transfer .client (.write shortDraw [1] 0),
    .transfer .client (.read fun _ => 0),
    .transfer .client (.arrive 85 fun _ => 0),
    .detach .server, .detach .client,
    .transfer .server (.write shortDraw [2] 0)]

theorem run_losesNothing_orderly :
    ∃ connection,
      run (step .tls fun _ => 17408) Connection.start orderly =
          some connection ∧
        LosesNothing .tls (fun _ => 17408) connection := by
  have taken :
      (run (step .tls fun _ => 17408) Connection.start
        orderly).isSome = true := by
    decide +kernel
  obtain ⟨connection, reached⟩ := Option.isSome_iff_exists.mp taken
  have clean :
      Along (step .tls fun _ => 17408) (Clean .tls fun _ => 17408)
        Connection.start orderly := by
    refine along_cons rfl ?_ ?_
    · intro _
      exact Option.some_ne_none _
    refine along_cons rfl ?_ ?_
    · intro filled
      exact absurd rfl filled
    refine along_cons rfl ?_ ?_
    · intro _
      exact ⟨by decide, trivial⟩
    refine along_cons rfl ?_ ?_
    · change CanDetach _
      unfold CanDetach
      decide +kernel
    refine along_cons rfl ?_ ?_
    · change CanDetach _
      unfold CanDetach
      decide +kernel
    refine along_cons rfl ?_ trivial
    intro attached
    cases attached
  exact
    ⟨connection, reached,
      run_losesNothing (fun _ => Nat.le_refl _) clean reached⟩

/-- The server writes a record after the client's handshake call has read
all it needs, and the client detaches before the record has arrived. -/
def lateRecord (draw : Draw) : List Event :=
  [.transfer .server (.write draw [1] 0), .detach .client,
    .transfer .server (.read fun _ => 0),
    .transfer .server (.arrive 1 fun _ => 0)]

/-- The client gets the first byte of the record instead of its data. -/
theorem lateRecord_garbles :
    ¬ ∀ (method : Method) (rooms : Side → Nat),
      (∀ side, kMaxWrite ≤ rooms side) →
      ∀ (events : List Event) (connection : Connection),
        run (step method rooms) Connection.start events =
          some connection → LosesNothing method rooms connection := by
  intro always
  have garbled :
      (run (step .tls fun _ => 17408) Connection.start
          (lateRecord shortDraw)).map
        (fun connection =>
          ((connection.link .server).received,
            (connection.link .server).written)) =
        some ([0x17], [1]) := by
    decide +kernel
  obtain ⟨connection, reached, bytes⟩ := Option.map_eq_some_iff.mp garbled
  have inOrder :=
    (always .tls (fun _ => 17408) (fun _ => Nat.le_refl _) _ connection
      reached).inOrder .server
  obtain ⟨received, written⟩ := Prod.mk.inj bytes
  rw [received, written] at inOrder
  revert inOrder
  decide

end Fptn.Obfuscator.Detach
