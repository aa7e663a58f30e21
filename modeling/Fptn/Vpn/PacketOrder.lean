import Fptn.Vpn.Delivery

/-!
# The order of packets to clients

A thread of `RunToClient` handles its packets one after the other and puts
each into at most one batch.  The batches keep this order, and so do the
channels of the sessions: what a thread has sent to a client is a subsequence
of what it has taken from the network interface.  Packets which are lost on
the way leave gaps, but none is sent twice or to two clients.
-/

namespace Fptn.Vpn.PacketOrder

open Fptn.PartialRun
open Fptn.NatTable.Multiplexer
open Fptn.NatTable.SessionTable
open Fptn.Network.Packet
open Fptn.Vpn.Delivery
open Fptn.Vpn.FromClient
open Fptn.Vpn.ToClient
open Fptn.Web.WebServer

/-! ## The packets of a thread -/

/-- The thread has handled a first part of what it has taken, and all packets
in its batches are from there, in the same order. -/
def Ordered (thread : Thread) : Prop :=
  ∃ handled ≤ thread.input.length,
    pending thread.place = numbered handled (thread.input.drop handled) ∧
    (thread.pushed.map fun outgoing => outgoing.taken.number).Pairwise
      (· < ·) ∧
    ∀ outgoing ∈ thread.pushed,
      outgoing.taken.number < handled ∧
        thread.input[outgoing.taken.number]? =
          some (some outgoing.taken.packet)

section Thread

variable {setting : Setting} {system : System} {thread after : Thread}
  {item : Option (ClientID × Outgoing)} {input : List (Option IPPacket)}
  {handled : Nat}

/-- The next packet, and those behind it. -/
theorem numbered_drop {first : Option Taken} {rest : List (Option Taken)}
    (ahead : first :: rest = numbered handled (input.drop handled)) :
    ∃ packet, input[handled]? = some packet ∧
      first = packet.map (Taken.mk handled) ∧
      rest = numbered (handled + 1) (input.drop (handled + 1)) := by
  cases there : input[handled]? with
  | none =>
      rw [List.drop_eq_nil_of_le (List.getElem?_eq_none_iff.mp there)]
        at ahead
      cases ahead
  | some packet =>
      obtain ⟨inside, same⟩ := List.getElem?_eq_some_iff.mp there
      rw [List.drop_eq_getElem_cons inside, same, numbered] at ahead
      obtain ⟨head, tail⟩ := List.cons.inj ahead
      exact ⟨packet, rfl, head, tail⟩

theorem handled_of_nothing (inside : handled ≤ input.length)
    (nothing : numbered handled (input.drop handled) = []) :
    handled = input.length := by
  by_contra other
  have there : handled < input.length := Nat.lt_of_le_of_ne inside other
  rw [List.drop_eq_getElem_cons there, numbered] at nothing
  cases nothing

/-- The same packets are ahead of the thread. -/
theorem Ordered.same (ordered : Ordered thread)
    (input : after.input = thread.input)
    (pushed : after.pushed = thread.pushed)
    (ahead : pending after.place = pending thread.place) :
    Ordered after := by
  unfold Ordered
  rw [input, pushed, ahead]
  exact ordered

theorem Ordered.takes (ordered : Ordered thread)
    (here : thread.place = .waiting)
    (packets : List (Option IPPacket)) :
    Ordered { thread with
      place := .handling (numbered thread.input.length packets)
      input := thread.input ++ packets } := by
  obtain ⟨handled, inside, ahead, increasing, known⟩ := ordered
  rw [here] at ahead
  have all := handled_of_nothing inside ahead.symm
  subst all
  refine ⟨thread.input.length, ?_, ?_, increasing,
    fun outgoing member => ?_⟩
  · exact List.length_append ▸ Nat.le_add_right _ _
  · rw [List.drop_left]
    rfl
  · obtain ⟨below, same⟩ := known outgoing member
    exact ⟨below, (List.getElem?_append_left below).trans same⟩

theorem Ordered.skips {first : Option Taken} {rest : List (Option Taken)}
    (ordered : Ordered thread)
    (here : pending thread.place = first :: rest) :
    Ordered (thread.at_ (.handling rest)) := by
  obtain ⟨handled, inside, ahead, increasing, known⟩ := ordered
  obtain ⟨packet, there, -, behind⟩ := numbered_drop (here.symm.trans ahead)
  obtain ⟨below, -⟩ := List.getElem?_eq_some_iff.mp there
  refine ⟨handled + 1, below, behind, increasing, fun outgoing member => ?_⟩
  obtain ⟨less, same⟩ := known outgoing member
  exact ⟨Nat.lt_succ_of_lt less, same⟩

/-- The packet has a greater number than those which have been pushed. -/
theorem Ordered.pushes {id : ClientID} {outgoing : Outgoing}
    {rest : List (Option Taken)} (ordered : Ordered thread)
    (here : pending thread.place = some outgoing.taken :: rest) :
    Ordered (thread.push id outgoing rest) := by
  obtain ⟨handled, inside, ahead, increasing, known⟩ := ordered
  obtain ⟨packet, there, first, behind⟩ :=
    numbered_drop (here.symm.trans ahead)
  obtain ⟨below, -⟩ := List.getElem?_eq_some_iff.mp there
  obtain ⟨own, numbers, taken⟩ := Option.map_eq_some_iff.mp first.symm
  refine ⟨handled + 1, below, behind, ?_, fun other member => ?_⟩
  · simp only [Thread.push, List.map_append, List.map_cons, List.map_nil]
    refine List.pairwise_append.mpr
      ⟨increasing, List.pairwise_singleton _ _, fun number before last
        isLast => ?_⟩
    obtain ⟨other, member, rfl⟩ := List.mem_map.mp before
    rw [List.mem_singleton.mp isLast, ← taken]
    exact (known other member).1
  · rcases List.mem_append.mp member with old | new
    · obtain ⟨less, same⟩ := known other old
      exact ⟨Nat.lt_succ_of_lt less, same⟩
    · rw [List.mem_singleton.mp new, ← taken]
      refine ⟨Nat.lt_succ_self _, ?_⟩
      rw [← numbers]
      exact there

theorem moves_ordered (ordered : Ordered thread)
    (moves : Moves setting system thread after item) : Ordered after := by
  cases moves with
  | takes packets here => exact ordered.takes here packets
  | skips here => exact ordered.skips here
  | finds here | admits here | chooses here | tests here =>
      exact ordered.same rfl rfl (by rw [here]; rfl)
  | pushes here =>
      refine ordered.pushes ?_
      rcases here with here | here
      · rw [here]
        rfl
      · rw [here]
        rfl
  | goes nothing still =>
      exact ordered.same rfl rfl (still.trans nothing.symm)
  | visits here => exact ordered.same rfl rfl (by rw [here]; rfl)
  | misses => exact ordered.same rfl rfl rfl
  | queues here => exact ordered.same rfl rfl (by rw [here]; rfl)

end Thread

/-! ## The packets for a client -/

/-- What a thread has queued for a client. -/
def accepted (system : System) (t : ThreadId) (id : ClientID) :
    List Outgoing :=
  ((system.received id ++ system.writeChannel id).filter fun entry =>
    entry.1 = t).map Prod.snd

/-- What it holds for the client. -/
def held (thread : Thread) (id : ClientID) : List Outgoing :=
  sending thread.place id ++ (thread.batches.lookup id).getD []

/-- What it has put into batches for the client. -/
def pushedFor (thread : Thread) (id : ClientID) : List Outgoing :=
  thread.pushed.filter fun outgoing => outgoing.sent.clientId = id

/-- The packet which a step queues for the client. -/
def queuedFor (id : ClientID) : Option (ClientID × Outgoing) →
    List Outgoing
  | none => []
  | some (other, outgoing) => if other = id then [outgoing] else []

section Client

variable {setting : Setting} {system next : System}
  {thread after : Thread} {item : Option (ClientID × Outgoing)}
  {t : ThreadId} {id : ClientID}

theorem leaves_clientId {mplx : ConnectionMultiplexer}
    {outgoing : Outgoing} (leaves : Leaves setting mplx id outgoing) :
    outgoing.sent.clientId = id := by
  rcases leaves with ⟨-, sent⟩ | changed
  · rw [sent]
    rfl
  · obtain ⟨connection, -, sent⟩ := Option.map_eq_some_iff.mp changed
    rw [← sent]
    rfl

/-- A packet goes to the end of the batch. -/
theorem held_push {other : ClientID} {outgoing : Outgoing}
    {rest : List (Option Taken)} (nothing : sending thread.place id = []) :
    held (thread.push other outgoing rest) id =
      held thread id ++ if other = id then [outgoing] else [] := by
  have batches :
      (thread.push other outgoing rest).batches =
        pushBack other outgoing thread.batches := rfl
  have place : sending (thread.push other outgoing rest).place id = [] :=
    rfl
  rw [held, held, place, nothing, batches, pushBack, List.nil_append,
    List.nil_append]
  by_cases same : other = id
  · subst same
    rw [AList.lookup_insert, if_pos rfl]
    rfl
  · have different : id ≠ other := fun equal => same equal.symm
    rw [AList.lookup_insert_ne different, if_neg same, List.append_nil]

theorem pushedFor_push {other : ClientID} {outgoing : Outgoing}
    {rest : List (Option Taken)} (own : outgoing.sent.clientId = other) :
    pushedFor (thread.push other outgoing rest) id =
      pushedFor thread id ++ if other = id then [outgoing] else [] := by
  have pushed :
      (thread.push other outgoing rest).pushed =
        thread.pushed ++ [outgoing] := rfl
  rw [pushedFor, pushedFor, pushed, List.filter_append]
  by_cases same : other = id
  · rw [if_pos same, List.filter_cons_of_pos (by simp [own, same])]
    rfl
  · rw [if_neg same, List.filter_cons_of_neg (by simp [own, same])]
    rfl

/-- What was sent before, with what is sent and held now, is still in the
order of the pushes. -/
theorem moves_kept {before : List Outgoing}
    (kept : (before ++ held thread id).Sublist (pushedFor thread id))
    (moves : Moves setting system thread after item) :
    (before ++ queuedFor id item ++ held after id).Sublist
      (pushedFor after id) := by
  have fewer (place : Place)
      (less : (sending place id).Sublist (sending thread.place id)) :
      (before ++ [] ++ held (thread.at_ place) id).Sublist
        (pushedFor (thread.at_ place) id) := by
    rw [List.append_nil]
    exact
      ((List.Sublist.refl before).append
        (less.append (List.Sublist.refl _))).trans kept
  cases moves with
  | takes packets here =>
      exact fewer (.handling (numbered thread.input.length packets))
        (List.nil_sublist _)
  | skips here => exact fewer _ (List.nil_sublist _)
  | finds here | admits here | chooses here | tests here =>
      exact fewer _ (List.nil_sublist _)
  | pushes here leaves =>
      have nothing : sending thread.place id = [] := by
        rcases here with here | here
        · rw [here]
          rfl
        · rw [here]
          rfl
      rw [queuedFor, List.append_nil, held_push nothing,
        pushedFor_push (leaves_clientId leaves), ← List.append_assoc]
      exact kept.append (List.Sublist.refl _)
  | goes nothing still less => exact fewer _ (less id)
  | @visits other batch here found =>
      rw [queuedFor, List.append_nil]
      refine List.Sublist.trans ?_ kept
      refine (List.Sublist.refl before).append ?_
      simp only [held, Thread.at_, sending]
      by_cases same : other = id
      · subst same
        rw [here, AList.lookup_erase, if_pos rfl, found]
        simp
      · have different : id ≠ other := fun equal => same equal.symm
        rw [here, AList.lookup_erase_ne different, if_neg same]
  | @misses other here =>
      rw [queuedFor, List.append_nil]
      refine List.Sublist.trans ?_ kept
      refine (List.Sublist.refl before).append ?_
      refine (List.Sublist.refl (sending thread.place id)).append ?_
      by_cases same : id = other
      · subst same
        simp
      · rw [AList.lookup_erase_ne same]
  | @queues other outgoing rest here =>
      refine List.Sublist.trans ?_ kept
      rw [List.append_assoc]
      refine (List.Sublist.refl before).append ?_
      simp only [held, Thread.at_, here, sending, queuedFor]
      by_cases same : other = id
      · rw [if_pos same, if_pos same, if_pos same]
        exact List.Sublist.refl _
      · rw [if_neg same, if_neg same, if_neg same]
        exact List.Sublist.refl _

/-- What has been queued is in the order of the pushes. -/
structure Kept (system : System) (t : ThreadId) : Prop where
  ordered : Ordered (system.thread t)
  sublist : ∀ id,
    (accepted system t id ++ held (system.thread t) id).Sublist
      (pushedFor (system.thread t) id)

theorem accepted_queued (stepped : Stepped system next t after item)
    (other : ThreadId) :
    accepted next other id =
      accepted system other id ++
        if other = t then queuedFor id item else [] := by
  rw [accepted, accepted, stepped.received, stepped.writeChannel]
  cases item with
  | none => simp [queued, queuedFor]
  | some latest =>
      obtain ⟨client, outgoing⟩ := latest
      by_cases same : client = id
      · subst same
        by_cases own : other = t
        · subst own
          simp [queued, queuedFor]
        · have different : t ≠ other := fun equal => own equal.symm
          simp [queued, own, different]
      · have different : id ≠ client := fun equal => same equal.symm
        simp [queued, queuedFor, same, different]

theorem step_kept {label : ToClient.Label}
    (kept : ∀ t, Kept system t)
    (taken : system.step setting label = some next) :
    ∀ t, Kept next t := by
  intro t
  cases label with
  | server label =>
      obtain ⟨server, -, rfl⟩ := Option.map_eq_some_iff.mp taken
      exact ⟨(kept t).ordered, (kept t).sublist⟩
  | thread other action =>
      obtain ⟨thread, item, moves, stepped⟩ := threadStep_moves taken
      by_cases own : t = other
      · subst own
        have now : next.thread t = thread := by
          rw [stepped.thread, Function.update_self]
        refine ⟨?_, fun id => ?_⟩
        · rw [now]
          exact moves_ordered (kept t).ordered moves
        · rw [now, accepted_queued stepped t, if_pos rfl]
          exact moves_kept ((kept t).sublist id) moves
      · have same : next.thread t = system.thread t := by
          rw [stepped.thread, Function.update_of_ne own]
        refine ⟨?_, fun id => ?_⟩
        · rw [same]
          exact (kept t).ordered
        · rw [same, accepted_queued stepped t, if_neg own, List.append_nil]
          exact (kept t).sublist id
  | receive id =>
      obtain ⟨-, -, thread, channel⟩ := receive_channel taken
      refine ⟨?_, fun other => ?_⟩
      · rw [thread]
        exact (kept t).ordered
      · rw [thread, accepted, channel]
        exact (kept t).sublist other

theorem start_kept {world : World} (t : ThreadId) :
    Kept (System.start world) t where
  ordered :=
    ⟨0, Nat.le_refl _, rfl, List.Pairwise.nil, fun _ nothing =>
      (nomatch nothing)⟩
  sublist _ := List.Sublist.refl _

theorem run_kept {world : World} {labels : List ToClient.Label}
    (reached : run (System.step setting) (System.start world) labels =
      some system) (t : ThreadId) : Kept system t :=
  @run_invariant System ToClient.Label (System.step setting)
    (fun system => ∀ t, Kept system t)
    (fun _ _ _ kept taken => step_kept kept taken) _ _ _ start_kept
    reached t

theorem Kept.mem_pushed (kept : Kept system t) {outgoing : Outgoing}
    (sent : outgoing ∈ accepted system t id) :
    outgoing ∈ (system.thread t).pushed ∧ outgoing.sent.clientId = id := by
  have member :=
    (kept.sublist id).subset (List.mem_append_left _ sent)
  rw [pushedFor, List.mem_filter, decide_eq_true_iff] at member
  exact member

/-- No two packets of a thread have the same number. -/
theorem eq_of_same_number (ordered : Ordered thread)
    {first second : Outgoing} (firstThere : first ∈ thread.pushed)
    (secondThere : second ∈ thread.pushed)
    (same : first.taken.number = second.taken.number) :
    first = second := by
  obtain ⟨_, -, -, increasing, -⟩ := ordered
  have distinct :
      (thread.pushed.map fun outgoing => outgoing.taken.number).Nodup :=
    increasing.imp Nat.ne_of_lt
  exact List.inj_on_of_nodup_map distinct firstThere secondThere same

end Client

/-- The packets which a thread has sent to a client are some of those which
it has taken from the interface, in the same order.  Whatever packet it has
sent, it has sent once and to one client. -/
theorem delivered_in_order (setting : Setting) (world : World)
    (labels : List ToClient.Label) (system : System)
    (reached : run (System.step setting) (System.start world) labels =
      some system) (t : ThreadId) (id : ClientID) :
    ((accepted system t id).map fun outgoing =>
        outgoing.taken.number).Pairwise (· < ·) ∧
      ∀ outgoing ∈ accepted system t id,
        (system.thread t).input[outgoing.taken.number]? =
            some (some outgoing.taken.packet) ∧
          ∀ other, ∀ copy ∈ accepted system t other,
            copy.taken.number = outgoing.taken.number →
              other = id ∧ copy = outgoing := by
  have kept := run_kept reached t
  obtain ⟨_, -, -, increasing, known⟩ := kept.ordered
  have sublist :
      (accepted system t id).Sublist (system.thread t).pushed :=
    ((List.sublist_append_left _ _).trans (kept.sublist id)).trans
      List.filter_sublist
  refine ⟨increasing.sublist (sublist.map _), fun outgoing sent => ?_⟩
  obtain ⟨pushed, own⟩ := kept.mem_pushed sent
  refine ⟨(known outgoing pushed).2, fun other copy copySent same => ?_⟩
  obtain ⟨copyPushed, copyOwn⟩ := kept.mem_pushed copySent
  obtain rfl :=
    eq_of_same_number kept.ordered copyPushed pushed same
  exact ⟨copyOwn.symm.trans own, rfl⟩

theorem delivered_in_order_answer :
    ∃ system outgoing,
      run (System.step plainSetting) (System.start onePool)
          deliversAnswer = some system ∧
        accepted system 0 1 = [outgoing] ∧
        (system.thread 0).input[outgoing.taken.number]? =
          some (some outgoing.taken.packet) := by
  have taken : (run (System.step plainSetting) (System.start onePool)
      deliversAnswer).map (fun system => (accepted system 0 1).length) =
        some 1 := by
    decide +kernel
  obtain ⟨system, reached, found⟩ := Option.map_eq_some_iff.mp taken
  obtain ⟨outgoing, sent⟩ := List.length_eq_one_iff.mp found
  have ordered :=
    delivered_in_order plainSetting onePool deliversAnswer system reached
      0 1
  exact
    ⟨system, outgoing, reached, sent,
      (ordered.2 outgoing (by rw [sent]; exact List.mem_cons_self)).1⟩

end Fptn.Vpn.PacketOrder
