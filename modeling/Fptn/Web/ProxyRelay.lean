import Fptn.Lib.PartialRun
import Fptn.Web.HandshakeAgreement

/-!
# Relays to other sites

`HandleProxy` connects a peer which is no client to the site it has asked for.
Two coroutines carry bytes, one in each direction, and each of them closes the
socket from which it has read when it ends.

The session has only peeked at the bytes of the peer by then, so that the site
gets them from the first one on.
-/

namespace Fptn.Web.ProxyRelay

open Fptn.EventLog
open Fptn.Network.TlsHello (ByteString minimalHello)
open Fptn.Web.HandshakeAgreement
open Fptn.Web.SessionRun

/-! ## HandleProxy -/

/-- The two sockets: `tcp_socket` and `target_socket`. -/
inductive Side where
  | client
  | target
deriving DecidableEq

def Side.other : Side → Side
  | .client => .target
  | .target => .client

/-- Where a `forward` is. -/
inductive Place where
  | testRunning
  /-- In `async_read_some`, next to the idle timer. -/
  | reading
  /-- In `async_write`, which has still to write this. -/
  | writing (rest : List UInt8)
  /-- In front of `from.close()`. -/
  | closing
  | done

/-- The bytes which come from one side, and the `forward` which reads them. -/
structure Direction where
  /-- What has arrived at the socket in all. -/
  arrived : List UInt8
  /-- How much of it has been read. -/
  taken : Nat
  /-- What the other side has been given. -/
  written : List UInt8
  place : Place

structure Relay where
  running : Bool
  direction : Side → Direction
  isOpen : Side → Bool

/-- The size of `buf`. -/
def bufferSize : Nat := 16384

inductive Label where
  | arrive (side : Side) (data : List UInt8)
  | test (side : Side)
  | read (side : Side) (count : Nat)
  | readFails (side : Side)
  /-- The timer is first, and what has been read meanwhile is lost. -/
  | idle (side : Side) (lost : Nat)
  /-- `async_write` writes some of what it has. -/
  | write (side : Side) (count : Nat)
  | writeFails (side : Side)
  | close (side : Side)
  /-- `Close`, from another thread. -/
  | closeSession

namespace Relay

/-- At the start of the relay these bytes of the peer are in its socket. -/
def start (waiting : List UInt8) : Relay where
  running := true
  direction side := {
    arrived := if side = .client then waiting else []
    taken := 0
    written := []
    place := .testRunning }
  isOpen _ := true

variable (relay : Relay)

def setDirection (side : Side) (direction : Direction) : Relay :=
  { relay with
    direction := Function.update relay.direction side direction }

def step : Label → Option Relay
  | .arrive side data =>
      let from_ := relay.direction side
      if relay.isOpen side then
        some (relay.setDirection side
          { from_ with arrived := from_.arrived ++ data })
      else
        none
  | .test side =>
      let from_ := relay.direction side
      match from_.place with
      | .testRunning =>
          let place := if relay.running then .reading else .closing
          some (relay.setDirection side { from_ with place := place })
      | _ => none
  | .read side count =>
      let from_ := relay.direction side
      match from_.place with
      | .reading =>
          if relay.isOpen side ∧ 0 < count ∧ count ≤ bufferSize ∧
              from_.taken + count ≤ from_.arrived.length then
            some (relay.setDirection side
              { from_ with
                taken := from_.taken + count
                place :=
                  .writing ((from_.arrived.drop from_.taken).take count) })
          else
            none
      | _ => none
  | .readFails side =>
      let from_ := relay.direction side
      match from_.place with
      | .reading =>
          some (relay.setDirection side { from_ with place := .closing })
      | _ => none
  | .idle side lost =>
      let from_ := relay.direction side
      match from_.place with
      | .reading =>
          if lost ≤ bufferSize ∧
              from_.taken + lost ≤ from_.arrived.length then
            some (relay.setDirection side
              { from_ with taken := from_.taken + lost, place := .closing })
          else
            none
      | _ => none
  | .write side count =>
      let from_ := relay.direction side
      match from_.place with
      | .writing rest =>
          if relay.isOpen side.other ∧ 0 < count ∧ count ≤ rest.length then
            some (relay.setDirection side
              { from_ with
                written := from_.written ++ rest.take count
                place :=
                  if count = rest.length then .testRunning
                  else .writing (rest.drop count) })
          else
            none
      | _ => none
  | .writeFails side =>
      let from_ := relay.direction side
      match from_.place with
      | .writing _ =>
          some (relay.setDirection side { from_ with place := .closing })
      | _ => none
  | .close side =>
      let from_ := relay.direction side
      match from_.place with
      | .closing =>
          let closed := relay.setDirection side { from_ with place := .done }
          some { closed with
            isOpen := Function.update relay.isOpen side false }
      | _ => none
  | .closeSession =>
      if relay.running then
        some { relay with
          running := false
          isOpen := Function.update relay.isOpen .client false }
      else
        none

end Relay

/-! ## What is carried -/

/-- What has been read, but not yet written. -/
def inFlight : Place → List UInt8
  | .writing rest => rest
  | .testRunning | .reading | .closing | .done => []

/-- The `forward` has not given up. -/
def Forwards : Place → Prop
  | .testRunning | .reading | .writing _ => True
  | .closing | .done => False

/-- Nothing is lost while a `forward` goes on, and nothing else is carried
afterwards. -/
structure Transparent (direction : Direction) : Prop where
  inside : direction.taken ≤ direction.arrived.length
  carried : Forwards direction.place →
    direction.written ++ inFlight direction.place =
      direction.arrived.take direction.taken
  written : direction.written <+: direction.arrived

section Steps

variable {relay next : Relay} {side : Side} {direction from_ : Direction}

theorem other_other (side : Side) : side.other.other = side := by
  cases side with
  | client => rfl
  | target => rfl

theorem Transparent.arrive {data : List UInt8}
    (transparent : Transparent from_) :
    Transparent { from_ with arrived := from_.arrived ++ data } where
  inside := by
    rw [List.length_append]
    exact Nat.le_add_right_of_le transparent.inside
  carried forwards := by
    rw [List.take_append_of_le_length transparent.inside]
    exact transparent.carried forwards
  written := transparent.written.trans (List.prefix_append _ _)

/-- A `forward` gives up, and may lose what it has just read. -/
theorem Transparent.giveUp {taken : Nat} {place : Place}
    (transparent : Transparent from_) (ended : ¬Forwards place)
    (inside : taken ≤ from_.arrived.length) :
    Transparent { from_ with taken := taken, place := place } where
  inside := inside
  carried forwards := absurd forwards ended
  written := transparent.written

theorem Transparent.read {count : Nat} (transparent : Transparent from_)
    (here : from_.place = .reading)
    (available : from_.taken + count ≤ from_.arrived.length) :
    Transparent { from_ with
      taken := from_.taken + count
      place := .writing ((from_.arrived.drop from_.taken).take count) } where
  inside := available
  carried _ := by
    have carried := transparent.carried (by rw [here]; trivial)
    rw [here, inFlight, List.append_nil] at carried
    show from_.written ++ (from_.arrived.drop from_.taken).take count = _
    rw [carried, ← List.take_add]
  written := transparent.written

theorem Transparent.write {rest : List UInt8} {count : Nat}
    (transparent : Transparent from_) (here : from_.place = .writing rest) :
    Transparent { from_ with
      written := from_.written ++ rest.take count
      place :=
        if count = rest.length then .testRunning
        else .writing (rest.drop count) } where
  inside := transparent.inside
  carried _ := by
    have carried := transparent.carried (by rw [here]; trivial)
    rw [here] at carried
    show (from_.written ++ rest.take count) ++ inFlight _ = _
    split
    case isTrue whole =>
      rw [whole, List.take_length, inFlight, List.append_nil]
      exact carried
    case isFalse =>
      rw [inFlight, List.append_assoc, List.take_append_drop]
      exact carried
  written := by
    have carried := transparent.carried (by rw [here]; trivial)
    rw [here] at carried
    have longer :
        from_.written ++ rest.take count <+: from_.written ++ rest :=
      (List.prefix_append_right_inj _).mpr (List.take_prefix _ _)
    exact longer.trans (carried ▸ List.take_prefix _ _)

/-- What a step of a `forward` or of the network does: it changes one
direction, and writes to an open socket only. -/
structure Moved (relay next : Relay) (side : Side) (changed : Direction) :
    Prop where
  directions : next.direction =
    Function.update relay.direction side changed
  arrived : (relay.direction side).arrived <+: changed.arrived
  transparent : Transparent (relay.direction side) → Transparent changed
  written : changed.written = (relay.direction side).written ∨
    relay.isOpen side.other = true
  closed : ∀ each, relay.isOpen each = false → next.isOpen each = false

/-- Neither are bytes written nor do any arrive. -/
theorem moved_quiet {side : Side} {changed : Direction}
    (arrived : changed.arrived = (relay.direction side).arrived)
    (written : changed.written = (relay.direction side).written)
    (transparent : Transparent (relay.direction side) →
      Transparent changed) :
    Moved relay (relay.setDirection side changed) side changed where
  directions := rfl
  arrived := arrived ▸ List.prefix_refl _
  transparent := transparent
  written := Or.inl written
  closed _ closed := closed

/-- `Close` leaves the directions as they are. -/
structure Shut (relay next : Relay) : Prop where
  directions : next.direction = relay.direction
  closed : ∀ each, relay.isOpen each = false → next.isOpen each = false

theorem isOpen_update {side each : Side}
    (closed : relay.isOpen each = false) :
    Function.update relay.isOpen side false each = false := by
  by_cases same : each = side
  · rw [same]
    exact Function.update_self _ _ _
  · exact (Function.update_of_ne same _ _).trans closed

theorem step_moved {label : Label} (taken : relay.step label = some next) :
    (∃ side changed, Moved relay next side changed) ∨ Shut relay next := by
  cases label with
  | arrive side data =>
      simp only [Relay.step] at taken
      split at taken
      case isFalse => cases taken
      case isTrue =>
        cases taken
        exact
          .inl ⟨side, _, rfl, List.prefix_append _ _, Transparent.arrive,
            Or.inl rfl, fun _ closed => closed⟩
  | test side =>
      simp only [Relay.step] at taken
      split at taken
      case h_2 => cases taken
      case h_1 here =>
        cases taken
        refine .inl ⟨side, _, moved_quiet rfl rfl fun known => ?_⟩
        refine ⟨known.inside, fun _ => ?_, known.written⟩
        have carried := known.carried (by rw [here]; trivial)
        rw [here] at carried
        show (relay.direction side).written ++ inFlight _ = _
        cases relay.running with
        | true => exact carried
        | false => exact carried
  | read side count =>
      simp only [Relay.step] at taken
      split at taken
      case h_2 => cases taken
      case h_1 here =>
        split at taken
        case isFalse => cases taken
        case isTrue available =>
          cases taken
          exact
            .inl ⟨side, _, moved_quiet rfl rfl fun known =>
              known.read here available.2.2.2⟩
  | readFails side =>
      simp only [Relay.step] at taken
      split at taken
      case h_2 => cases taken
      case h_1 here =>
        cases taken
        exact
          .inl ⟨side, _, moved_quiet rfl rfl fun known =>
            known.giveUp id known.inside⟩
  | idle side lost =>
      simp only [Relay.step] at taken
      split at taken
      case h_2 => cases taken
      case h_1 here =>
        split at taken
        case isFalse => cases taken
        case isTrue available =>
          cases taken
          exact
            .inl ⟨side, _, moved_quiet rfl rfl fun known =>
              known.giveUp id available.2⟩
  | write side count =>
      simp only [Relay.step] at taken
      split at taken
      case h_2 => cases taken
      case h_1 rest here =>
        split at taken
        case isFalse => cases taken
        case isTrue accepts =>
          cases taken
          exact
            .inl ⟨side, _, rfl, List.prefix_refl _,
              fun known => known.write here, Or.inr accepts.1,
              fun _ closed => closed⟩
  | writeFails side =>
      simp only [Relay.step] at taken
      split at taken
      case h_2 => cases taken
      case h_1 rest here =>
        cases taken
        exact
          .inl ⟨side, _, moved_quiet rfl rfl fun known =>
            known.giveUp id known.inside⟩
  | close side =>
      simp only [Relay.step] at taken
      split at taken
      case h_2 => cases taken
      case h_1 here =>
        cases taken
        exact
          .inl ⟨side, _, rfl, List.prefix_refl _,
            fun known => known.giveUp id known.inside, Or.inl rfl,
            fun _ => isOpen_update⟩
  | closeSession =>
      simp only [Relay.step] at taken
      split at taken
      case isFalse => cases taken
      case isTrue =>
        cases taken
        exact .inr ⟨rfl, fun _ => isOpen_update⟩

variable {changed : Direction}

theorem Moved.direction_self (moved : Moved relay next side changed) :
    next.direction side = changed := by
  rw [moved.directions, Function.update_self]

theorem Moved.direction_of_ne {another : Side}
    (moved : Moved relay next side changed) (different : another ≠ side) :
    next.direction another = relay.direction another := by
  rw [moved.directions, Function.update_of_ne different]

/-- What is so of both directions. -/
structure Carries (waiting : List UInt8) (relay : Relay) : Prop where
  transparent : ∀ side, Transparent (relay.direction side)
  waiting : waiting <+: (relay.direction .client).arrived

theorem start_carries {waiting : List UInt8} :
    Carries waiting (Relay.start waiting) where
  transparent _ := ⟨Nat.zero_le _, fun _ => rfl, List.nil_prefix⟩
  waiting := List.prefix_refl _

theorem step_carries {waiting : List UInt8} {label : Label}
    (carries : Carries waiting relay)
    (taken : relay.step label = some next) : Carries waiting next := by
  rcases step_moved taken with ⟨side, changed, moved⟩ | shut
  case inr =>
    constructor
    · rw [shut.directions]
      exact carries.transparent
    · rw [shut.directions]
      exact carries.waiting
  constructor
  · intro another
    by_cases same : another = side
    · rw [same, moved.direction_self]
      exact moved.transparent (carries.transparent side)
    · rw [moved.direction_of_ne same]
      exact carries.transparent another
  · by_cases same : Side.client = side
    · subst same
      rw [moved.direction_self]
      exact carries.waiting.trans moved.arrived
    · rw [moved.direction_of_ne same]
      exact carries.waiting

/-- A socket which has been closed gets nothing more. -/
theorem step_closed {label : Label} {side : Side} {content : List UInt8}
    (before : relay.isOpen side = false ∧
      (relay.direction side.other).written = content)
    (taken : relay.step label = some next) :
    next.isOpen side = false ∧
      (next.direction side.other).written = content := by
  rcases step_moved taken with ⟨from_, changed, moved⟩ | shut
  case inr =>
    refine ⟨shut.closed side before.1, ?_⟩
    rw [shut.directions]
    exact before.2
  refine ⟨moved.closed side before.1, ?_⟩
  by_cases same : side.other = from_
  · subst same
    rw [moved.direction_self]
    rcases moved.written with kept | accepts
    · exact kept.trans before.2
    · rw [other_other, before.1] at accepts
      cases accepts
  · rw [moved.direction_of_ne same]
    exact before.2

end Steps

/-! ## Sessions -/

section Sessions

variable {system : System} {config : Config} {surroundings : Surroundings}
  {clientHello : List UInt8} {sni : ByteString} {earlier : List Event}

/-- The session has neither taken bytes from the connection nor put an
obfuscator on it. -/
def Untouched (log : List Event) : Prop :=
  attached none log = none ∧ consumed log = []

/-- A peer is connected to a site only as long as nothing has been done to its
connection. -/
def FromTheStart (earlier : List Event) : Event → Prop
  | .handleProxy _ _ => Untouched earlier
  | _ => True

theorem untouched_append {log : List Event} (untouched : Untouched earlier)
    (quiet : attached none log = none ∧ consumed log = []) :
    Untouched (earlier ++ log) := by
  refine ⟨?_, ?_⟩
  · rw [attached_append, untouched.1, quiet.1]
  · rw [consumed_append, untouched.2, quiet.2, List.nil_append]

theorem isRecursiveAttempt_fromTheStart {reading : SelfProxyReading} :
    Justified FromTheStart earlier
      (isRecursiveAttempt system config reading sni) := by
  unfold isRecursiveAttempt
  split
  · rw [Justified, SelfProxy.isSniSelfProxyAttempt_events]
    split <;> simp [Follows, FromTheStart]
  · trivial

theorem proxyWithFallback_fromTheStart (untouched : Untouched earlier) :
    Justified FromTheStart earlier
      (proxyWithFallback config surroundings sni) := by
  have second : Untouched (earlier ++ [.handleProxy sni 443]) :=
    untouched_append untouched ⟨rfl, rfl⟩
  unfold proxyWithFallback
  simp only [handleProxy, justified_bind, justified_record, justified_pure,
    FromTheStart, and_true]
  refine ⟨untouched, ?_⟩
  split
  · simp only [events_bind, events_record, events_pure, List.append_nil,
      justified_bind, justified_record, justified_pure, FromTheStart,
      and_true]
    exact second
  · trivial

theorem decoyHandshake_fromTheStart {result : RealityResult} :
    Justified FromTheStart earlier
      (decoyHandshake config surroundings result) := by
  unfold decoyHandshake
  split
  · unfold performFakeHandshake
    split <;> simp [justified_bind, FromTheStart]
  · unfold performFakeHandshake2
    split
    · simp [justified_bind, FromTheStart]
    · simp only [justified_bind, justified_record, FromTheStart, true_and]
      split <;> simp [justified_bind, FromTheStart]

theorem runReality_fromTheStart (untouched : Untouched earlier) :
    Justified FromTheStart earlier
      (runReality system config surroundings clientHello sni) := by
  unfold runReality
  simp only
  split
  · rw [justified_bind]
    exact ⟨proxyWithFallback_fromTheStart untouched, trivial⟩
  · split
    · unfold realityMode
      rw [justified_bind, and_iff_right isRecursiveAttempt_fromTheStart]
      have still := untouched_append untouched
        (@isRecursiveAttempt_quiet system config surroundings.reality
          (isRealityHandshake system surroundings.timestamp clientHello
            sni).sni)
      split
      · simp only [handleProxy, justified_bind, justified_record,
          justified_pure, FromTheStart, and_true]
        exact still
      · rw [justified_bind]
        exact ⟨decoyHandshake_fromTheStart, trivial⟩
    · trivial

theorem runClientHello_fromTheStart (untouched : Untouched earlier) :
    Justified FromTheStart earlier
      (runClientHello system config surroundings clientHello) := by
  unfold runClientHello
  simp only
  split
  · have still := untouched_append untouched
      (@detectProbing_quiet system config surroundings clientHello
        (clientSniOf config clientHello))
    rw [justified_bind]
    refine ⟨?_, ?_⟩
    · rw [detectProbing, justified_bind]
      exact ⟨isRecursiveAttempt_fromTheStart, trivial⟩
    · split
      · trivial
      · split
        · rw [justified_bind]
          exact ⟨proxyWithFallback_fromTheStart still, trivial⟩
        · exact runReality_fromTheStart still
  · exact runReality_fromTheStart untouched

theorem run_fromTheStart :
    Justified FromTheStart [] (run system config surroundings) := by
  unfold run
  split
  · trivial
  · split
    · trivial
    · simp only [justified_bind, justified_record, FromTheStart, true_and]
      split
      · trivial
      case isFalse plain =>
        have none_ := Option.not_isSome_iff_eq_none.mp plain
        split
        · trivial
        · split
          · refine runClientHello_fromTheStart ⟨?_, rfl⟩
            rw [none_]
            rfl
          · trivial

end Sessions

/-- Whenever a session connects its peer to a site, it has taken nothing from
the connection, so that the relay begins with the first byte of the peer.  Each
side gets the bytes of the other one in order, without gaps and with nothing in
between; nothing is on its way but one chunk of `buf`; and a socket which has
been closed gets nothing more. -/
theorem outsider_relayed (system : System) (config : Config)
    (surroundings : Surroundings) (before after : List Event)
    (sni : ByteString) (port : Nat)
    (connects : events (run system config surroundings) =
      before ++ .handleProxy sni port :: after)
    (peeked : List UInt8) (labels : List Label) (relay : Relay)
    (reached : PartialRun.run Relay.step
      (Relay.start (peeked.drop (consumed before).length)) labels =
        some relay) :
    peeked <+: (relay.direction .client).arrived ∧
      (∀ side,
        (relay.direction side).written <+: (relay.direction side).arrived ∧
          (Forwards (relay.direction side).place →
            (relay.direction side).written ++
                inFlight (relay.direction side).place =
              (relay.direction side).arrived.take
                (relay.direction side).taken)) ∧
      ∀ more later, PartialRun.run Relay.step relay more = some later →
        ∀ side, relay.isOpen side = false →
          (later.direction side.other).written =
            (relay.direction side.other).written := by
  have untouched : Untouched before :=
    follows_iff.mp run_fromTheStart before (.handleProxy sni port) after
      connects
  rw [untouched.2, List.length_nil, List.drop_zero] at reached
  have carries : Carries peeked relay :=
    PartialRun.run_invariant (fun _ _ _ => step_carries) start_carries
      reached
  refine ⟨carries.waiting, fun side => ?_, ?_⟩
  · have transparent := carries.transparent side
    exact ⟨transparent.written, transparent.carried⟩
  · intro more later reachedLater side closed
    have kept :=
      PartialRun.run_invariant (fun _ _ _ => step_closed)
        (⟨closed, rfl⟩ : relay.isOpen side = false ∧ _) reachedLater
    exact kept.2

/-- The first bytes of a stranger are being carried. -/
def carrying : List Label :=
  [.test .client, .read .client 5, .write .client 2]

theorem outsider_relayed_stranger :
    ∃ relay,
      PartialRun.run Relay.step
          (Relay.start (minimalHello [] SelfProxy.ownName)) carrying =
        some relay ∧
      (relay.direction .client).written ++
          inFlight (relay.direction .client).place =
        (relay.direction .client).arrived.take
          (relay.direction .client).taken := by
  have reaches :
      (PartialRun.run Relay.step
        (Relay.start (minimalHello [] SelfProxy.ownName))
        carrying).isSome = true := by
    decide +kernel
  have relayed :=
    outsider_relayed SelfProxy.namesOnly SelfProxy.withoutProbing
      SelfProxy.stranger [.setObfuscator none] [] SelfProxy.ownName 443
      (by decide +kernel) (minimalHello [] SelfProxy.ownName)
      carrying _ (Option.some_get reaches).symm
  exact
    ⟨_, (Option.some_get reaches).symm,
      (relayed.2.1 .client).2 True.intro⟩

end Fptn.Web.ProxyRelay
