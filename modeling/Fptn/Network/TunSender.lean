import Mathlib.Data.Nat.Init
import Mathlib.Logic.Function.Iterate
import Mathlib.Order.Nat

/-!
# The sender of a TUN interface

`RunSender` takes batches of packets out of the channel and writes each of
them to the device.  A packet which the device does not take is written again,
as long as the interface is running.

Each call of `WaitForPackets`, each beginning of a pass of the inner loop and
each write is one turn.  Packets are named by their position in the order in
which they came into the channel; what the device answers may depend on
everything, so it is given for each position and attempt.
-/

namespace Fptn.Network.TunSender

/-! ## RunSender -/

/-- A pointer to a packet, which may be null. -/
abbrev IPPacketPtr := Option (List UInt8)

/-- What goes on around the sender. -/
structure Surroundings where
  /-- What comes into the channel before a call of `WaitForPackets`. -/
  pushed : Nat → List IPPacketPtr
  /-- What `Write` returns for a packet, at each attempt. -/
  write : Nat → Nat → Int

structure Sender where
  /-- The number of calls of `WaitForPackets`. -/
  waits : Nat
  queue : List IPPacketPtr
  /-- What is left of the batch, with the packet which is being sent. -/
  packets : List IPPacketPtr
  /-- The number of failed attempts, inside of the resend loop. -/
  attempts : Option Nat
  /-- The position of the first of the packets which are left. -/
  position : Nat
  /-- The positions of the packets which the device has taken. -/
  passed : List Nat

def Sender.start : Sender where
  waits := 0
  queue := []
  packets := []
  attempts := none
  position := 0
  passed := []

/-- On to the packet behind the first one. -/
def Sender.next (sender : Sender) (rest : List IPPacketPtr) : Sender :=
  { sender with
    packets := rest
    attempts := none
    position := sender.position + 1 }

def maxBatchSize : Nat := 256

def dataSize (data : List UInt8) : Int := data.length

namespace Surroundings

variable (around : Surroundings)

/-- The next turn; `running` is what is read of the flag in it. -/
def turn (running : Bool) (sender : Sender) : Sender :=
  match sender.packets with
  | [] =>
      if running then
        let queue := sender.queue ++ around.pushed sender.waits
        { sender with
          waits := sender.waits + 1
          queue := queue.drop maxBatchSize
          packets := queue.take maxBatchSize }
      else
        sender
  | packet :: rest =>
      match packet with
      | none => sender.next rest
      | some data =>
          match sender.attempts with
          | none =>
              if data ≠ [] ∧ running then
                { sender with attempts := some 0 }
              else
                sender.next rest
          | some attempts =>
              if around.write sender.position attempts = dataSize data then
                { sender.next rest with
                  passed := sender.passed ++ [sender.position] }
              else if running then
                { sender with attempts := some (attempts + 1) }
              else
                sender.next rest

/-- The sender after a number of turns of a running interface. -/
def after (turns : Nat) : Sender :=
  (around.turn true)^[turns] Sender.start

/-- What has come into the channel before a call of `WaitForPackets`. -/
def arrived (waits : Nat) : List IPPacketPtr :=
  (List.range waits).flatMap around.pushed

/-- A packet with data comes into the channel at this position. -/
def Arrives (position : Nat) (data : List UInt8) : Prop :=
  data ≠ [] ∧ ∃ waits, (around.arrived waits)[position]? = some (some data)

/-- The device takes a packet, if that is tried often enough. -/
def Accepts (position : Nat) (data : List UInt8) : Prop :=
  ∃ attempt, around.write position attempt = dataSize data

/-- Every packet which the device would take is passed to it. -/
def PassesAll : Prop :=
  ∀ position data, around.Arrives position data →
    around.Accepts position data →
      ∃ turns, position ∈ (around.after turns).passed

/-- No packet which the device never takes is in front of one which it would
take. -/
def RefusedLast : Prop :=
  ∀ refused data, around.Arrives refused data →
    ¬ around.Accepts refused data →
      ∀ position other, around.Arrives position other →
        around.Accepts position other → position < refused

end Surroundings

open Surroundings

/-! ## Turns -/

section Turns

variable {around : Surroundings} {sender : Sender}
  {packet : IPPacketPtr} {rest : List IPPacketPtr} {data : List UInt8}
  {attempts : Nat}

theorem turn_wait (empty : sender.packets = []) :
    around.turn true sender =
      { sender with
        waits := sender.waits + 1
        queue :=
          (sender.queue ++ around.pushed sender.waits).drop maxBatchSize
        packets :=
          (sender.queue ++ around.pushed sender.waits).take
            maxBatchSize } := by
  rw [turn, empty]
  rfl

/-- A packet without data is left out. -/
theorem turn_skip (first : sender.packets = packet :: rest)
    (fresh : sender.attempts = none)
    (noData : ∀ data, packet = some data → data = []) :
    around.turn true sender = sender.next rest := by
  rw [turn, first]
  cases packet with
  | none => rfl
  | some data =>
      obtain rfl := noData data rfl
      simp only [fresh]
      rfl

theorem turn_begin (first : sender.packets = some data :: rest)
    (fresh : sender.attempts = none) (some_ : data ≠ []) :
    around.turn true sender = { sender with attempts := some 0 } := by
  rw [turn, first]
  simp only [fresh]
  rw [if_pos ⟨some_, trivial⟩]

theorem turn_pass (first : sender.packets = some data :: rest)
    (trying : sender.attempts = some attempts)
    (taken : around.write sender.position attempts = dataSize data) :
    around.turn true sender =
      { sender.next rest with
        passed := sender.passed ++ [sender.position] } := by
  rw [turn, first]
  simp only [trying]
  rw [if_pos taken]

theorem turn_again (first : sender.packets = some data :: rest)
    (trying : sender.attempts = some attempts)
    (refused : around.write sender.position attempts ≠ dataSize data) :
    around.turn true sender =
      { sender with attempts := some (attempts + 1) } := by
  rw [turn, first]
  simp only [trying]
  rw [if_neg refused]
  rfl

theorem arrived_succ (waits : Nat) :
    around.arrived (waits + 1) =
      around.arrived waits ++ around.pushed waits := by
  rw [arrived, arrived, List.range_succ, List.flatMap_append,
    List.flatMap_singleton]

/-- What has come in stays where it is. -/
theorem arrived_grows {fewer waits : Nat} (le : fewer ≤ waits) :
    around.arrived fewer <+: around.arrived waits := by
  induction waits, le using Nat.le_induction with
  | base => exact List.prefix_refl _
  | succ waits _ ih =>
      rw [arrived_succ]
      exact ih.trans (List.prefix_append _ _)

/-- There is one packet at a position. -/
theorem arrived_unique {first second : Nat} {position : Nat}
    {here there : IPPacketPtr}
    (one : (around.arrived first)[position]? = some here)
    (other : (around.arrived second)[position]? = some there) :
    here = there := by
  rcases Nat.le_total first second with le | le
  · obtain ⟨more, whole⟩ := @arrived_grows around _ _ le
    rw [← whole, List.getElem?_append_left
      (List.getElem?_eq_some_iff.mp one).1, one] at other
    exact Option.some.inj other
  · obtain ⟨more, whole⟩ := @arrived_grows around _ _ le
    rw [← whole, List.getElem?_append_left
      (List.getElem?_eq_some_iff.mp other).1, other] at one
    exact (Option.some.inj one).symm

end Turns

/-! ## What a turn keeps -/

/-- What is left of a batch and the queue are what has not been sent. -/
structure Follows (around : Surroundings) (sender : Sender) : Prop where
  left : (around.arrived sender.waits).drop sender.position =
    sender.packets ++ sender.queue
  reached : sender.position ≤ (around.arrived sender.waits).length
  passed : ∀ position ∈ sender.passed, position < sender.position
  trying : sender.attempts ≠ none →
    ∃ data rest, sender.packets = some data :: rest ∧ data ≠ []

section Keeps

variable {around : Surroundings} {sender : Sender}
  {packet : IPPacketPtr} {rest : List IPPacketPtr} {data : List UInt8}

theorem follows_start : Follows around Sender.start where
  left := rfl
  reached := Nat.le_refl 0
  passed := fun _ member => by cases member
  trying := fun some_ => absurd rfl some_

/-- The first packet which is left is the one at the sender's position. -/
theorem Follows.head (follows : Follows around sender)
    (first : sender.packets = packet :: rest) :
    (around.arrived sender.waits)[sender.position]? = some packet := by
  have left := follows.left
  rw [first, List.cons_append] at left
  have here := congrArg (·[0]?) left
  simpa using here

theorem Follows.next (follows : Follows around sender)
    (first : sender.packets = packet :: rest) :
    Follows around (sender.next rest) where
  left := by
    have left := follows.left
    rw [first, List.cons_append] at left
    have behind := congrArg List.tail left
    rw [List.tail_drop] at behind
    exact behind
  reached := by
    have inside := (List.getElem?_eq_some_iff.mp (follows.head first)).1
    exact inside
  passed := fun position member =>
    Nat.lt_succ_of_lt (follows.passed position member)
  trying := fun some_ => absurd rfl some_

theorem Follows.pass (follows : Follows around sender)
    (first : sender.packets = packet :: rest) :
    Follows around
      { sender.next rest with
        passed := sender.passed ++ [sender.position] } where
  left := (follows.next first).left
  reached := (follows.next first).reached
  passed := by
    intro position member
    rcases List.mem_append.mp member with old | new
    · exact Nat.lt_succ_of_lt (follows.passed position old)
    · obtain rfl := List.mem_singleton.mp new
      exact Nat.lt_succ_self _
  trying := fun some_ => absurd rfl some_

theorem Follows.wait (follows : Follows around sender)
    (empty : sender.packets = []) :
    Follows around (around.turn true sender) := by
  have left := follows.left
  rw [empty, List.nil_append] at left
  rw [turn_wait empty]
  constructor
  · rw [arrived_succ, List.drop_append_of_le_length follows.reached, left,
      List.take_append_drop]
  · rw [arrived_succ, List.length_append]
    exact follows.reached.trans (Nat.le_add_right _ _)
  · exact follows.passed
  · intro some_
    obtain ⟨_, _, first, _⟩ := follows.trying some_
    rw [empty] at first
    cases first

theorem Follows.attempt (follows : Follows around sender)
    (first : sender.packets = some data :: rest) (some_ : data ≠ [])
    (attempts : Nat) :
    Follows around { sender with attempts := some attempts } where
  left := follows.left
  reached := follows.reached
  passed := follows.passed
  trying := fun _ => ⟨data, rest, first, some_⟩

end Keeps

/-! ## Packets which are passed on -/

/-- Some number of turns leads to a sender with a property. -/
def Leads (around : Surroundings) (sender : Sender)
    (goal : Sender → Prop) : Prop :=
  ∃ turns, goal ((around.turn true)^[turns] sender)

section Leading

variable {around : Surroundings} {sender : Sender}
  {goal later : Sender → Prop} {data : List UInt8}
  {rest : List IPPacketPtr}

theorem leads_here (here : goal sender) : Leads around sender goal :=
  ⟨0, here⟩

theorem leads_turn (leads : Leads around (around.turn true sender) goal) :
    Leads around sender goal := by
  obtain ⟨turns, reached⟩ := leads
  exact ⟨turns + 1, reached⟩

theorem Leads.trans (leads : Leads around sender goal)
    (more : ∀ middle, goal middle → Leads around middle later) :
    Leads around sender later := by
  obtain ⟨turns, reached⟩ := leads
  obtain ⟨others, last⟩ := more _ reached
  refine ⟨others + turns, ?_⟩
  rw [Function.iterate_add_apply]
  exact last

/-- A sender at the head of its loop, with nothing lost of these. -/
structure Ahead (around : Surroundings) (passed : List Nat)
    (sender : Sender) : Prop where
  follows : Follows around sender
  fresh : sender.attempts = none
  kept : ∀ position ∈ passed, position ∈ sender.passed

theorem Ahead.wait {passed : List Nat} (ahead : Ahead around passed sender)
    (empty : sender.packets = []) :
    Ahead around passed (around.turn true sender) ∧
      (around.turn true sender).position = sender.position ∧
        (around.turn true sender).waits = sender.waits + 1 := by
  have follows := ahead.follows.wait empty
  rw [turn_wait empty] at follows ⊢
  exact ⟨⟨follows, ahead.fresh, ahead.kept⟩, rfl, rfl⟩

/-- A call of `WaitForPackets` returns a packet which has come in. -/
theorem wait_progress (follows : Follows around sender)
    (empty : sender.packets = []) {waits : Nat} {packet : IPPacketPtr}
    (comes : (around.arrived waits)[sender.position]? = some packet) :
    (∃ rest, (around.turn true sender).packets = packet :: rest) ∨
      sender.waits + 1 < waits := by
  have waited := follows.wait empty
  have position : (around.turn true sender).position =
      sender.position := by rw [turn_wait empty]
  cases still : (around.turn true sender).packets with
  | cons head rest =>
      have here := waited.head still
      rw [position] at here
      exact Or.inl ⟨rest, by rw [arrived_unique here comes]⟩
  | nil =>
      refine Or.inr (Nat.lt_of_not_le fun early => ?_)
      have left := waited.left
      rw [turn_wait empty] at left still
      have nothing : sender.queue ++ around.pushed sender.waits = [] :=
        (List.take_eq_nil_iff.mp still).resolve_left (by decide)
      rw [nothing, List.take_nil, List.drop_nil, List.append_nil] at left
      have short := List.drop_eq_nil_iff.mp left
      have inside := (List.getElem?_eq_some_iff.mp comes).1
      have shorter := (@arrived_grows around _ _ early).length_le
      exact
        Nat.lt_irrefl _
          (Nat.lt_of_lt_of_le inside (shorter.trans short))

/-- A packet which is left is the one which has come in there. -/
theorem packets_eq_cons {passed : List Nat} {waits : Nat}
    {packet head : IPPacketPtr} (ahead : Ahead around passed sender)
    (comes : (around.arrived waits)[sender.position]? = some packet)
    (first : sender.packets = head :: rest) :
    ∃ rest, sender.packets = packet :: rest := by
  obtain rfl := arrived_unique (ahead.follows.head first) comes
  exact ⟨rest, first⟩

/-- The sender waits until the packet at its position has come in. -/
theorem leads_packet {passed : List Nat}
    (ahead : Ahead around passed sender) {waits : Nat}
    {packet : IPPacketPtr}
    (comes : (around.arrived waits)[sender.position]? = some packet)
    {position : Nat} (here : sender.position = position) :
    Leads around sender fun next =>
      Ahead around passed next ∧ next.position = position ∧
        ∃ rest, next.packets = packet :: rest := by
  obtain ⟨more, enough⟩ : ∃ more, waits ≤ sender.waits + 1 + more :=
    ⟨waits, Nat.le_add_left _ _⟩
  -- By induction on how often the sender may still find nothing.
  induction more generalizing sender with
  | zero =>
      cases first : sender.packets with
      | cons head rest =>
          exact leads_here ⟨ahead, here, packets_eq_cons ahead comes first⟩
      | nil =>
          obtain ⟨waited, stays, _⟩ := ahead.wait first
          have found := (wait_progress ahead.follows first
            comes).resolve_right (by omega)
          exact
            leads_turn (leads_here ⟨waited, stays.trans here, found⟩)
  | succ more ih =>
      cases first : sender.packets with
      | cons head rest =>
          exact leads_here ⟨ahead, here, packets_eq_cons ahead comes first⟩
      | nil =>
          obtain ⟨waited, stays, count⟩ := ahead.wait first
          refine leads_turn (ih waited ?_ (stays.trans here) ?_)
          · rw [stays]
            exact comes
          · omega

/-- The device takes the packet. -/
theorem leads_taken (follows : Follows around sender)
    (first : sender.packets = some data :: rest) {attempts : Nat}
    (trying : sender.attempts = some attempts)
    (taken : around.write sender.position attempts = dataSize data) :
    Leads around sender fun next =>
      Ahead around sender.passed next ∧
        next.position = sender.position + 1 ∧
          sender.position ∈ next.passed := by
  refine leads_turn (leads_here ?_)
  rw [turn_pass first trying taken]
  exact
    ⟨⟨follows.pass first, rfl, fun _ member =>
        List.mem_append_left _ member⟩, rfl,
      List.mem_append_right _ (List.mem_singleton_self _)⟩

/-- The resend loop ends with the first attempt which succeeds. -/
theorem leads_pass (follows : Follows around sender)
    (first : sender.packets = some data :: rest) (some_ : data ≠ [])
    {accepted : Nat}
    (accepts : around.write sender.position accepted = dataSize data)
    {attempts : Nat} (trying : sender.attempts = some attempts)
    (early : attempts ≤ accepted) :
    Leads around sender fun next =>
      Ahead around sender.passed next ∧
        next.position = sender.position + 1 ∧
          sender.position ∈ next.passed := by
  induction left : accepted - attempts generalizing sender attempts with
  | zero =>
      obtain rfl : attempts = accepted := by omega
      exact leads_taken follows first trying accepts
  | succ left ih =>
      by_cases taken :
          around.write sender.position attempts = dataSize data
      · exact leads_taken follows first trying taken
      · refine leads_turn ?_
        rw [turn_again first trying taken]
        exact
          ih (follows.attempt first some_ (attempts + 1)) first accepts rfl
            (by omega) (by omega)

/-- One packet is done with, and has been passed on if it has data. -/
theorem leads_next {passed : List Nat}
    (ahead : Ahead around passed sender) {waits : Nat}
    {packet : IPPacketPtr}
    (comes : (around.arrived waits)[sender.position]? = some packet)
    (accepts : ∀ data, around.Arrives sender.position data →
      around.Accepts sender.position data) :
    Leads around sender fun next =>
      Ahead around passed next ∧ next.position = sender.position + 1 ∧
        ∀ data, around.Arrives sender.position data →
          sender.position ∈ next.passed := by
  refine (leads_packet ahead comes rfl).trans fun middle reached => ?_
  obtain ⟨there, position, rest, first⟩ := reached
  rw [← position] at comes accepts ⊢
  by_cases hasData : ∃ data, packet = some data ∧ data ≠ []
  · obtain ⟨data, rfl, some_⟩ := hasData
    obtain ⟨accepted, taken⟩ := accepts data ⟨some_, waits, comes⟩
    refine leads_turn ?_
    rw [turn_begin first there.fresh some_]
    refine (leads_pass (there.follows.attempt first some_ 0) first some_
      taken rfl (Nat.zero_le _)).trans fun next done => leads_here ?_
    obtain ⟨ahead, after, member⟩ := done
    refine ⟨⟨ahead.follows, ahead.fresh, fun other old => ?_⟩, after,
      fun _ _ => member⟩
    exact ahead.kept other (there.kept other old)
  · refine leads_turn (leads_here ?_)
    rw [turn_skip first there.fresh fun data same => by
      by_contra some_
      exact hasData ⟨data, same, some_⟩]
    refine ⟨⟨there.follows.next first, rfl, there.kept⟩, rfl, ?_⟩
    rintro data ⟨some_, later, arrives⟩
    exact
      absurd ⟨data, arrived_unique comes arrives, some_⟩ hasData

/-- If nothing in front of it is refused, a packet is passed on. -/
theorem leads_passed {passed : List Nat} {target waits : Nat}
    (inside : target < (around.arrived waits).length)
    (accepts : ∀ position ≤ target, ∀ data,
      around.Arrives position data → around.Accepts position data)
    {distance : Nat} (ahead : Ahead around passed sender)
    (far : sender.position + distance = target) :
    Leads around sender fun next =>
      ∀ data, around.Arrives target data → target ∈ next.passed := by
  induction distance generalizing sender with
  | zero =>
      obtain rfl : sender.position = target := far
      have comes := List.getElem?_eq_getElem inside
      refine (leads_next ahead comes (accepts _ (Nat.le_refl _))).trans
        fun next done => leads_here done.2.2
  | succ distance ih =>
      have before : sender.position < (around.arrived waits).length := by
        omega
      have comes := List.getElem?_eq_getElem before
      refine (leads_next ahead comes (accepts _ (by omega))).trans
        fun next done => ?_
      obtain ⟨further, position, _⟩ := done
      exact ih further (by omega)

end Leading

/-! ## Packets which stop the sender -/

section Stuck

variable {around : Surroundings} {sender : Sender} {refused : Nat}
  {data : List UInt8}

/-- The packet at the position of a refused one is that one. -/
theorem head_refused (arrives : around.Arrives refused data)
    (follows : Follows around sender) {packet : IPPacketPtr}
    {rest : List IPPacketPtr} (first : sender.packets = packet :: rest)
    (here : sender.position = refused) : packet = some data := by
  obtain ⟨-, waits, comes⟩ := arrives
  have head := follows.head first
  rw [here] at head
  exact arrived_unique head comes

/-- The sender does not get past a packet which the device never takes. -/
theorem stuck_turn (arrives : around.Arrives refused data)
    (never : ¬ around.Accepts refused data)
    (follows : Follows around sender) (before : sender.position ≤ refused) :
    Follows around (around.turn true sender) ∧
      (around.turn true sender).position ≤ refused := by
  cases first : sender.packets with
  | nil =>
      refine ⟨follows.wait first, ?_⟩
      rw [turn_wait first]
      exact before
  | cons packet rest =>
      have here := head_refused arrives follows first
      cases trying : sender.attempts with
      | none =>
          by_cases hasData : ∃ content, packet = some content ∧ content ≠ []
          · obtain ⟨content, rfl, some_⟩ := hasData
            rw [turn_begin first trying some_]
            exact ⟨follows.attempt first some_ 0, before⟩
          · have passedOver : sender.position ≠ refused := fun same =>
              hasData ⟨data, here same, arrives.1⟩
            rw [turn_skip first trying fun content same => by
              by_contra some_
              exact hasData ⟨content, same, some_⟩]
            exact
              ⟨follows.next first, Nat.lt_of_le_of_ne before passedOver⟩
      | some attempts =>
          obtain ⟨content, _, same, some_⟩ :=
            follows.trying (by rw [trying]; exact Option.some_ne_none _)
          obtain ⟨rfl, rfl⟩ := List.cons.inj (first.symm.trans same)
          by_cases taken :
              around.write sender.position attempts = dataSize content
          · have other : sender.position ≠ refused := by
              rintro rfl
              obtain rfl := Option.some.inj (here rfl)
              exact never ⟨attempts, taken⟩
            rw [turn_pass first trying taken]
            exact ⟨follows.pass first, Nat.lt_of_le_of_ne before other⟩
          · rw [turn_again first trying taken]
            exact ⟨follows.attempt first some_ (attempts + 1), before⟩

/-- Only packets in front of it are ever passed on. -/
theorem passed_before (arrives : around.Arrives refused data)
    (never : ¬ around.Accepts refused data) (turns : Nat) :
    ∀ position ∈ (around.after turns).passed, position < refused := by
  have kept : Follows around (around.after turns) ∧
      (around.after turns).position ≤ refused := by
    induction turns with
    | zero => exact ⟨follows_start, Nat.zero_le _⟩
    | succ turns ih =>
        rw [after, Function.iterate_succ_apply']
        exact stuck_turn arrives never ih.1 ih.2
  exact fun position member =>
    Nat.lt_of_lt_of_le (kept.1.passed position member) kept.2

end Stuck

/-! ## When every packet is passed on -/

/-- Every packet which the device would take is passed on exactly if none
which it never takes is in front of one of these. -/
theorem passesAll_iff (around : Surroundings) :
    around.PassesAll ↔ around.RefusedLast := by
  constructor
  · intro passesAll refused data arrives never position other comes accepts
    obtain ⟨turns, passed⟩ := passesAll position other comes accepts
    exact passed_before arrives never turns position passed
  · intro last position data arrives accepts
    obtain ⟨some_, waits, comes⟩ := arrives
    have inside := (List.getElem?_eq_some_iff.mp comes).1
    have start : Ahead around [] Sender.start :=
      ⟨follows_start, rfl, fun _ member => by cases member⟩
    obtain ⟨turns, passed⟩ :=
      leads_passed inside (fun other le content here => by
        by_contra never
        have behind := last other content here never position data
          ⟨some_, waits, comes⟩ accepts
        omega) start (Nat.zero_add position)
    exact ⟨turns, passed data ⟨some_, waits, comes⟩⟩

/-- An IPv4 header without a payload. -/
def emptyPacket (lastByte : UInt8) : List UInt8 :=
  [0x45, 0, 0, 20, 0, 0, 0, 0, 64, 59, 0, 0, 10, 8, 0, 1, 10, 8, 0, lastByte]

/-- A packet which the device never takes, and one which it takes. -/
def badPacketFirst : Surroundings where
  pushed waits :=
    if waits = 0 then [some (emptyPacket 2), some (emptyPacket 3)] else []
  write position _ := if position = 0 then -1 else 20

/-- The packet behind the bad one never comes to the device. -/
theorem badPacket_stops : ¬ badPacketFirst.PassesAll := by
  intro passesAll
  have first : badPacketFirst.Arrives 0 (emptyPacket 2) :=
    ⟨by decide, 1, by decide⟩
  have second : badPacketFirst.Arrives 1 (emptyPacket 3) :=
    ⟨by decide, 1, by decide⟩
  have never : ¬ badPacketFirst.Accepts 0 (emptyPacket 2) := by
    rintro ⟨attempt, taken⟩
    exact absurd taken (by decide : (-1 : Int) ≠ 20)
  obtain ⟨turns, passed⟩ :=
    passesAll 1 (emptyPacket 3) second ⟨0, by decide⟩
  exact absurd (passed_before first never turns 1 passed) (by decide)

end Fptn.Network.TunSender
