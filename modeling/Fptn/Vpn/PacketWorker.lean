import Fptn.Lib.PartialRun

/-!
# The packet worker of the client

`ProcessWebSocketPackets` waits for packets on a condition variable, under
`queue_mutex_`.  `HandleOnPacketFromWebSocket` pushes a packet under the same
mutex and notifies afterwards.  `Stop` clears `running_` under another mutex
and then notifies all.

The worker tests its predicate and then blocks, in two steps, and keeps the
mutex in between.  A notification in between does not wake it.  The handlers'
sections under the mutex are one step each.
-/

namespace Fptn.Vpn.PacketWorker

open Fptn.PartialRun

variable {Packet : Type}

/-- Where `ProcessWebSocketPackets` is. -/
inductive WorkerPlace (Packet : Type) where
  /-- `while (running_)`. -/
  | loopTest
  /-- Before `queue_mutex_` is locked. -/
  | lock
  /-- The predicate of the wait is tested, with the mutex. -/
  | predicate
  /-- The predicate was false; the mutex is not released yet. -/
  | aboutToBlock
  | blocked
  /-- Woken up, without the mutex. -/
  | woken
  /-- The predicate was true. -/
  | drain
  /-- The batch goes through the plugins. -/
  | process (batch : List Packet)
  /-- `SendBatch`, under `mutex_`. -/
  | sendBatch (toSend : List Packet)
  | done
deriving DecidableEq

/-- Where `Stop` is, as far as the worker is concerned. -/
inductive StopPlace where
  | idle
  /-- The section which clears `running_`. -/
  | clear
  /-- `ws_queue_cv_.notify_all()`. -/
  | notify
  /-- `thread_.join()`. -/
  | join
  | joined
deriving DecidableEq

structure VpnManager (Packet : Type) where
  running : Bool
  wsPacketQueue : List Packet
  worker : WorkerPlace Packet
  stop : StopPlace
  /-- Handlers which have found `running_` set, with their packets. -/
  entered : List Packet
  /-- Handlers which have pushed their packet and notify next. -/
  notifying : Nat
  /-- What the network interface has been given. -/
  sent : List Packet

/-- A plugin returns the packet or nothing, and whether it was triggered. -/
abbrev Plugin (Packet : Type) := Packet → Option Packet × Bool

/-- The inner loop over the plugins. -/
def handlePacket : List (Plugin Packet) → Packet → Option Packet
  | [], packet => some packet
  | plugin :: rest, packet =>
      match plugin packet with
      | (none, _) => none
      | (some processed, true) => some processed
      | (some processed, false) => handlePacket rest processed

def kMaxQueueSize : Nat := 1024 * 16

namespace VpnManager

/-- After `Start`. -/
def started : VpnManager Packet where
  running := true
  wsPacketQueue := []
  worker := .loopTest
  stop := .idle
  entered := []
  notifying := 0
  sent := []

variable (plugins : List (Plugin Packet)) (vpn : VpnManager Packet)

def goto (place : WorkerPlace Packet) : VpnManager Packet :=
  { vpn with worker := place }

/-- Whether the worker holds `queue_mutex_`. -/
def workerLocks : Bool :=
  match vpn.worker with
  | .predicate | .aboutToBlock | .drain => true
  | _ => false

def workerStep : Option (VpnManager Packet) :=
  match vpn.worker with
  | .loopTest => if vpn.running then some (vpn.goto .lock) else
      some (vpn.goto .done)
  | .lock => some (vpn.goto .predicate)
  | .predicate =>
      if vpn.wsPacketQueue.isEmpty = false ∨ vpn.running = false then
        some (vpn.goto .drain)
      else
        some (vpn.goto .aboutToBlock)
  | .aboutToBlock => some (vpn.goto .blocked)
  | .blocked => none
  | .woken => some (vpn.goto .predicate)
  | .drain =>
      if vpn.running = false ∧ vpn.wsPacketQueue.isEmpty = true then
        some (vpn.goto .done)
      else
        some ({ vpn with wsPacketQueue := [] }.goto
          (.process vpn.wsPacketQueue))
  | .process batch =>
      some (vpn.goto (.sendBatch (batch.filterMap (handlePacket plugins))))
  | .sendBatch toSend =>
      if vpn.running then
        some ({ vpn with sent := vpn.sent ++ toSend }.goto .loopTest)
      else
        some (vpn.goto .loopTest)
  | .done => none

/-- A notification wakes the worker only while it is blocked. -/
def wake : VpnManager Packet :=
  match vpn.worker with
  | .blocked => vpn.goto .woken
  | _ => vpn

def stopStep : Option (VpnManager Packet) :=
  match vpn.stop with
  | .idle =>
      if vpn.running then
        some { vpn with stop := .clear }
      else
        none
  | .clear =>
      if vpn.running then
        some { vpn with running := false, stop := .notify }
      else
        some { vpn with stop := .idle }
  | .notify => some { vpn.wake with stop := .join }
  | .join =>
      match vpn.worker with
      | .done => some { vpn with stop := .joined }
      | _ => none
  | .joined => none

inductive Label (Packet : Type) where
  | worker
  /-- A wakeup without a notification. -/
  | spurious
  | stop
  /-- A packet comes in. -/
  | enter (packet : Packet)
  /-- The section under `queue_mutex_` of a handler which has entered. -/
  | push (index : Nat)
  /-- `notify_one` of a handler. -/
  | notify

def step (vpn : VpnManager Packet) :
    Label Packet → Option (VpnManager Packet)
  | .worker => workerStep plugins vpn
  | .spurious =>
      match vpn.worker with
      | .blocked => some vpn.wake
      | _ => none
  | .stop => stopStep vpn
  | .enter packet =>
      if vpn.running then
        some { vpn with entered := vpn.entered ++ [packet] }
      else
        none
  | .push index =>
      match vpn.workerLocks, vpn.entered[index]? with
      | false, some packet =>
          let rest := vpn.entered.eraseIdx index
          if kMaxQueueSize ≤ vpn.wsPacketQueue.length then
            some { vpn with entered := rest }
          else
            some { vpn with
              wsPacketQueue := vpn.wsPacketQueue ++ [packet]
              entered := rest
              notifying := vpn.notifying + 1 }
      | _, _ => none
  | .notify =>
      match vpn.notifying with
      | 0 => none
      | left + 1 => some { vpn.wake with notifying := left }

end VpnManager

/-! ## Lost notifications -/

variable {plugins : List (Plugin Packet)} {vpn next : VpnManager Packet}

/-- Somebody is still going to notify the worker. -/
def NotificationToCome (vpn : VpnManager Packet) : Prop :=
  vpn.stop = .notify ∨ 0 < vpn.notifying ∨
    vpn.entered ≠ [] ∧ vpn.wsPacketQueue.length < kMaxQueueSize

/-- The worker sleeps after the end, and nobody is going to wake it. -/
def Hangs (vpn : VpnManager Packet) : Prop :=
  vpn.worker = .blocked ∧ vpn.running = false ∧ ¬NotificationToCome vpn

/-- `notify_all` does not come while the worker is about to block, unless a
handler is still to push its packet. -/
def Noticed (vpn : VpnManager Packet) : VpnManager.Label Packet → Prop
  | .stop => vpn.stop = .notify → vpn.worker = .aboutToBlock →
      vpn.entered ≠ []
  | _ => True

instance Noticed.decidable [DecidableEq Packet]
    (vpn : VpnManager Packet) : DecidablePred (Noticed vpn)
  | .stop =>
      inferInstanceAs
        (Decidable
          (vpn.stop = .notify → vpn.worker = .aboutToBlock →
            vpn.entered ≠ []))
  | .worker | .spurious | .enter _ | .push _ | .notify =>
      inferInstanceAs (Decidable True)

structure Invariant (vpn : VpnManager Packet) : Prop where
  empty : vpn.worker = .aboutToBlock → vpn.wsPacketQueue = []
  /-- What is pushed while the worker sleeps is notified. -/
  pushed : vpn.worker = .blocked → vpn.wsPacketQueue ≠ [] →
    0 < vpn.notifying
  /-- The flag was set when the predicate was tested. -/
  cleared : vpn.worker = .aboutToBlock → vpn.running = false →
    vpn.stop = .notify ∨ vpn.entered ≠ []
  noticed : vpn.worker = .blocked → vpn.running = false →
    NotificationToCome vpn

theorem started_invariant :
    Invariant (VpnManager.started : VpnManager Packet) where
  empty blocking := by cases blocking
  pushed blocked := by cases blocked
  cleared blocking := by cases blocking
  noticed blocked := by cases blocked

/-- Nothing is claimed of a worker which neither blocks nor is about to. -/
theorem Invariant.of_awake (awake : vpn.worker ≠ .blocked)
    (notBlocking : vpn.worker ≠ .aboutToBlock) :
    Invariant vpn where
  empty blocking := absurd blocking notBlocking
  pushed blocked := absurd blocked awake
  cleared blocking := absurd blocking notBlocking
  noticed blocked := absurd blocked awake

theorem workerStep_invariant (invariant : Invariant vpn)
    (taken : VpnManager.workerStep plugins vpn = some next) :
    Invariant next := by
  unfold VpnManager.workerStep at taken
  split at taken
  case h_3 at_place =>
    split at taken
    · cases taken
      exact .of_awake (by simp [VpnManager.goto]) (by simp [VpnManager.goto])
    case isFalse fails =>
      cases taken
      obtain ⟨empty, running⟩ := not_or.mp fails
      exact
        { empty := fun _ => by simpa [VpnManager.goto] using empty
          pushed := fun blocked => by cases blocked
          cleared := fun _ stopped => absurd stopped running
          noticed := fun blocked => by cases blocked }
  case h_4 at_place =>
    cases taken
    have empty := invariant.empty at_place
    exact
      { empty := fun blocking => by cases blocking
        pushed := fun _ nonempty => absurd empty nonempty
        cleared := fun blocking => by cases blocking
        noticed := fun _ stopped => by
          rcases invariant.cleared at_place stopped with notify | entered
          · exact Or.inl notify
          · refine Or.inr (Or.inr ⟨entered, ?_⟩)
            have short : vpn.wsPacketQueue.length < kMaxQueueSize :=
              empty ▸ (by decide : 0 < kMaxQueueSize)
            exact short }
  all_goals try split at taken
  all_goals cases taken
  all_goals
    exact .of_awake (by simp [VpnManager.goto]) (by simp [VpnManager.goto])

/-- A notification leaves the worker as it is, or wakes it. -/
theorem wake_cases (vpn : VpnManager Packet) :
    vpn.worker ≠ .blocked ∧ vpn.wake = vpn ∨
      vpn.worker = .blocked ∧ vpn.wake = vpn.goto .woken := by
  unfold VpnManager.wake
  split
  case h_1 blocked => exact Or.inr ⟨blocked, rfl⟩
  case h_2 awake => exact Or.inl ⟨awake, rfl⟩

theorem stopStep_invariant (invariant : Invariant vpn)
    (noticed : vpn.stop = .notify → vpn.worker = .aboutToBlock →
      vpn.entered ≠ [])
    (taken : VpnManager.stopStep vpn = some next) :
    Invariant next := by
  unfold VpnManager.stopStep at taken
  split at taken
  case h_1 at_stop =>
    split at taken
    case isTrue running =>
      cases taken
      exact
        { empty := invariant.empty
          pushed := invariant.pushed
          cleared := fun _ stopped => by cases running.symm.trans stopped
          noticed := fun _ stopped => by cases running.symm.trans stopped }
    case isFalse => cases taken
  case h_2 at_stop =>
    split at taken
    case isTrue =>
      cases taken
      exact
        { empty := invariant.empty
          pushed := invariant.pushed
          cleared := fun _ _ => Or.inl rfl
          noticed := fun _ _ => Or.inl rfl }
    case isFalse =>
      cases taken
      have other : vpn.stop ≠ .notify := by simp [at_stop]
      exact
        { empty := invariant.empty
          pushed := invariant.pushed
          cleared := fun blocking stopped =>
            Or.inr ((invariant.cleared blocking stopped).resolve_left other)
          noticed := fun blocked stopped =>
            Or.inr ((invariant.noticed blocked stopped).resolve_left other) }
  case h_3 at_stop =>
    cases taken
    rcases wake_cases vpn with ⟨awake, same⟩ | ⟨-, woken⟩
    · rw [same]
      exact
        { empty := invariant.empty
          pushed := invariant.pushed
          cleared := fun blocking _ => Or.inr (noticed at_stop blocking)
          noticed := fun blocked => absurd blocked awake }
    · rw [woken]
      exact .of_awake (by simp [VpnManager.goto]) (by simp [VpnManager.goto])
  case h_4 at_stop =>
    split at taken
    case h_1 finished =>
      cases taken
      exact .of_awake (by simp [finished]) (by simp [finished])
    case h_2 => cases taken
  case h_5 => cases taken

theorem enter_invariant {packet : Packet} (invariant : Invariant vpn)
    (running : vpn.running = true) :
    Invariant { vpn with entered := vpn.entered ++ [packet] } where
  empty := invariant.empty
  pushed := invariant.pushed
  cleared _ stopped := by cases running.symm.trans stopped
  noticed _ stopped := by cases running.symm.trans stopped

/-- A handler needs the mutex, so that the worker is not about to block. -/
theorem push_invariant {rest : List Packet} {packet : Packet}
    (invariant : Invariant vpn) (unlocked : vpn.workerLocks = false) :
    Invariant
      (if kMaxQueueSize ≤ vpn.wsPacketQueue.length then
        { vpn with entered := rest }
      else
        { vpn with
          wsPacketQueue := vpn.wsPacketQueue ++ [packet]
          entered := rest
          notifying := vpn.notifying + 1 }) := by
  have notBlocking : vpn.worker ≠ .aboutToBlock := by
    intro blocking
    rw [VpnManager.workerLocks, blocking] at unlocked
    cases unlocked
  split
  case isTrue full =>
    have nonempty : vpn.wsPacketQueue ≠ [] := by
      rintro empty
      rw [empty] at full
      exact absurd full (by decide : ¬kMaxQueueSize ≤ 0)
    exact
      { empty := fun blocking => absurd blocking notBlocking
        pushed := invariant.pushed
        cleared := fun blocking => absurd blocking notBlocking
        noticed := fun blocked _ =>
          Or.inr (Or.inl (invariant.pushed blocked nonempty)) }
  case isFalse =>
    exact
      { empty := fun blocking => absurd blocking notBlocking
        pushed := fun _ _ => Nat.succ_pos _
        cleared := fun blocking => absurd blocking notBlocking
        noticed := fun _ _ => Or.inr (Or.inl (Nat.succ_pos _)) }

theorem notify_invariant {left : Nat} (invariant : Invariant vpn) :
    Invariant { vpn.wake with notifying := left } := by
  rcases wake_cases vpn with ⟨awake, same⟩ | ⟨-, woken⟩
  · rw [same]
    exact
      { empty := invariant.empty
        pushed := fun blocked => absurd blocked awake
        cleared := invariant.cleared
        noticed := fun blocked => absurd blocked awake }
  · rw [woken]
    exact .of_awake (by simp [VpnManager.goto]) (by simp [VpnManager.goto])

theorem step_invariant (vpn : VpnManager Packet)
    (label : VpnManager.Label Packet) (next : VpnManager Packet)
    (invariant : Invariant vpn) (noticed : Noticed vpn label)
    (taken : VpnManager.step plugins vpn label = some next) :
    Invariant next := by
  cases label with
  | worker => exact workerStep_invariant invariant taken
  | stop => exact stopStep_invariant invariant noticed taken
  | spurious =>
      simp only [VpnManager.step] at taken
      split at taken
      case h_1 blocked =>
        cases taken
        have woken : vpn.wake = vpn.goto .woken :=
          ((wake_cases vpn).resolve_left fun awake =>
            awake.1 blocked).2
        rw [woken]
        exact
          .of_awake (by simp [VpnManager.goto]) (by simp [VpnManager.goto])
      case h_2 => cases taken
  | enter packet =>
      simp only [VpnManager.step] at taken
      split at taken
      case isTrue running =>
        cases taken
        exact enter_invariant invariant running
      case isFalse => cases taken
  | push index =>
      simp only [VpnManager.step] at taken
      split at taken
      case h_1 unlocked found =>
        rw [← apply_ite some] at taken
        cases taken
        exact push_invariant invariant unlocked
      case h_2 => cases taken
  | notify =>
      simp only [VpnManager.step] at taken
      split at taken
      case h_1 => cases taken
      case h_2 left _ =>
        cases taken
        exact notify_invariant invariant

/-- As long as `notify_all` is noticed, the worker is always woken. -/
theorem run_notHangs {labels : List (VpnManager.Label Packet)}
    {last : VpnManager Packet}
    (noticed : Along (VpnManager.step plugins) Noticed VpnManager.started
      labels)
    (reached : run (VpnManager.step plugins) VpnManager.started labels =
      some last) :
    ¬Hangs last := by
  rintro ⟨blocked, stopped, never⟩
  have invariant : Invariant last :=
    run_invariant_of step_invariant started_invariant noticed reached
  exact never (invariant.noticed blocked stopped)

/-! ## Two runs of a stop -/

/-- The worker blocks before `Stop` notifies it. -/
def blockedFirst : List (VpnManager.Label Nat) :=
  [.enter 1, .push 0] ++ List.replicate 10 .worker ++ [.notify] ++
    List.replicate 3 .worker ++ List.replicate 3 .stop ++
    List.replicate 3 .worker ++ [.stop]

theorem run_notHangs_blockedFirst :
    (run (VpnManager.step []) VpnManager.started blockedFirst).any
        (fun last => last.stop = .joined) = true ∧
      ∀ last, run (VpnManager.step []) VpnManager.started blockedFirst =
        some last → ¬Hangs last :=
  ⟨by decide +kernel,
    fun _ reached => run_notHangs (by decide +kernel) reached⟩

/-- `Stop` notifies between the test of the predicate and the blocking. -/
def notifiedFirst : List (VpnManager.Label Nat) :=
  [.worker, .worker, .worker, .stop, .stop, .stop, .worker]

theorem notifiedFirst_hangs :
    ¬ ∀ (plugins : List (Plugin Nat)) (labels : List (VpnManager.Label Nat))
      (last : VpnManager Nat),
      run (VpnManager.step plugins) VpnManager.started labels =
        some last → ¬Hangs last := by
  intro never
  refine never [] notifiedFirst _ rfl ⟨rfl, rfl, ?_⟩
  rintro (h | h | ⟨h, -⟩)
  · cases h
  · exact absurd h (by decide)
  · exact h rfl

end Fptn.Vpn.PacketWorker
