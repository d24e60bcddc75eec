import VirtioPoc.Base.Run
import VirtioPoc.VhostUser.Vring
import Mathlib.Logic.Function.Basic

/-!
# The lock of a ring

Any number of workers call `try_lock_queue` on a ring, and use the queue through
the guard that they get.  The thread of the handler calls `start` and `stop`,
enables and disables the ring, and configures the queue.  A step is what a thread
does between two points at which another one can interfere; `enabled` is read
without the lock, the queue never is.

A worker with a guard has the lock, and it got the guard when the queue was
ready.  So when `stop` has had the lock, there is no guard, and there will be
none before the next `start`.  This is `stop_quiesces`.
-/

namespace VirtioPoc.VhostUser

open Base

/-! ### The threads -/

/-- Where a worker is: outside, in `try_lock_queue` before the lock, after it, and after the second look
at `enabled`; or with the guard. -/
inductive WorkerPc
  | idle
  | wantsLock
  | locked
  | rechecked
  | holding
  deriving DecidableEq

def WorkerPc.hasLock : WorkerPc → Bool
  | .locked | .rechecked | .holding => true
  | .idle | .wantsLock => false

/-- What a worker does with a guard. -/
inductive QueueUse
  | popDescriptorChain
  | addUsed (headIndex : UInt16) (len : UInt32)
  deriving DecidableEq

def QueueUse.apply : QueueUse → Queue → Queue
  | .popDescriptorChain, q => q.setNextAvail (q.nextAvail + 1)
  | .addUsed .., q => q.setNextUsed (q.nextUsed + 1)

/-- The other things that the handler locks the queue for. -/
inductive QueueConfig
  | setSize (size : UInt16)
  | trySetDescTableAddress (addr : UInt64)
  | trySetAvailRingAddress (addr : UInt64)
  | trySetUsedRingAddress (addr : UInt64)
  | setNextAvail (nextAvail : UInt16)
  | setNextUsed (nextUsed : UInt16)
  | setEventIdx (enabled : Bool)
  | isStarted
  deriving DecidableEq

def QueueConfig.apply : QueueConfig → Queue → Queue
  | .setSize size, q => q.setSize size
  | .trySetDescTableAddress addr, q => (q.trySetDescTableAddress addr).toOption.getD q
  | .trySetAvailRingAddress addr, q => (q.trySetAvailRingAddress addr).toOption.getD q
  | .trySetUsedRingAddress addr, q => (q.trySetUsedRingAddress addr).toOption.getD q
  | .setNextAvail nextAvail, q => q.setNextAvail nextAvail
  | .setNextUsed nextUsed, q => q.setNextUsed nextUsed
  | .setEventIdx enabled, q => q.setEventIdx enabled
  | .isStarted, q => q

inductive HandlerCall
  | start
  | stop
  | config (c : QueueConfig)
  deriving DecidableEq

def HandlerCall.apply : HandlerCall → Queue → Queue
  | .start, q => q.setReady true
  | .stop, q => q.setReady false
  | .config c, q => c.apply q

/-- The handler is in one call at a time. -/
inductive HandlerPc
  | idle
  | wantsLock (call : HandlerCall)
  | locked (call : HandlerCall)
  | returning (call : HandlerCall)
  deriving DecidableEq

def HandlerPc.hasLock : HandlerPc → Bool
  | .locked _ => true
  | .idle | .wantsLock _ | .returning _ => false

def HandlerPc.call : HandlerPc → Option HandlerCall
  | .wantsLock call | .locked call | .returning call => some call
  | .idle => none

variable {ι : Type} [DecidableEq ι]

inductive Owner (ι : Type)
  | worker (i : ι)
  | handler
  deriving DecidableEq

/-- A ring with its threads; `owner` has the lock, and `uses` is what was done with the guards. -/
structure SharedVring (ι : Type) where
  queue : Queue
  enabled : Bool
  owner : Option (Owner ι)
  workers : ι → WorkerPc
  handler : HandlerPc
  uses : List (ι × QueueUse)

inductive VringAction (ι : Type)
  /-- a step of `try_lock_queue` -/
  | tryLockQueue (i : ι)
  | use (i : ι) (use : QueueUse)
  | dropGuard (i : ι)
  | setEnabled (enabled : Bool)
  /-- the handler begins a call; a `stop` whose `update_epolls` fails returns at once -/
  | call (call : HandlerCall) (updateEpolls : Bool)
  | handlerStep
  deriving DecidableEq

namespace SharedVring

def new (queue : Queue) (enabled : Bool) : SharedVring ι :=
  { queue := queue, enabled := enabled, owner := none, workers := fun _ => .idle, handler := .idle,
    uses := [] }

def setWorker (s : SharedVring ι) (i : ι) (pc : WorkerPc) : SharedVring ι :=
  { s with workers := Function.update s.workers i pc }

/-- The worker drops the guard, or returns `None` with the lock. -/
def unlock (s : SharedVring ι) (i : ι) : SharedVring ι := { s.setWorker i .idle with owner := none }

def tryLockQueue (s : SharedVring ι) (i : ι) : Option (SharedVring ι) :=
  match s.workers i with
  | .idle => some (s.setWorker i (if s.enabled then .wantsLock else .idle))
  | .wantsLock =>
    if s.owner = none then some { s.setWorker i .locked with owner := some (.worker i) } else none
  | .locked => some (if s.enabled then s.setWorker i .rechecked else s.unlock i)
  | .rechecked => some (if s.queue.ready then s.setWorker i .holding else s.unlock i)
  | .holding => none

def step (s : SharedVring ι) : VringAction ι → Option (SharedVring ι)
  | .tryLockQueue i => s.tryLockQueue i
  | .use i use =>
    if s.workers i = .holding then
      some { s with queue := use.apply s.queue, uses := s.uses ++ [(i, use)] }
    else none
  | .dropGuard i => if s.workers i = .holding then some (s.unlock i) else none
  | .setEnabled enabled => if s.handler = .idle then some { s with enabled := enabled } else none
  | .call call updateEpolls =>
    if s.handler ≠ .idle then none
    else if call = .stop ∧ updateEpolls = false then some s
    else some { s with handler := .wantsLock call }
  | .handlerStep =>
    match s.handler with
    | .idle => none
    | .wantsLock call =>
      if s.owner = none then some { s with owner := some .handler, handler := .locked call }
      else none
    | .locked call =>
      some { s with queue := call.apply s.queue, owner := none, handler := .returning call }
    | .returning _ => some { s with handler := .idle }

/-! ### What a step does -/

/-- The step of `a` from `s`, with a case for each branch of the source. -/
inductive Transition (s : SharedVring ι) : VringAction ι → SharedVring ι → Prop
  | check (i) (hi : s.workers i = .idle) : Transition s (.tryLockQueue i)
      (s.setWorker i (if s.enabled then .wantsLock else .idle))
  | lock (i) (hi : s.workers i = .wantsLock) (hfree : s.owner = none) :
      Transition s (.tryLockQueue i) { s.setWorker i .locked with owner := some (.worker i) }
  | recheck (i) (hi : s.workers i = .locked) (henabled : s.enabled = true) :
      Transition s (.tryLockQueue i) (s.setWorker i .rechecked)
  | disabled (i) (hi : s.workers i = .locked) (henabled : s.enabled = false) :
      Transition s (.tryLockQueue i) (s.unlock i)
  | takeGuard (i) (hi : s.workers i = .rechecked) (hready : s.queue.ready = true) :
      Transition s (.tryLockQueue i) (s.setWorker i .holding)
  | stopped (i) (hi : s.workers i = .rechecked) (hready : s.queue.ready = false) :
      Transition s (.tryLockQueue i) (s.unlock i)
  | use (i use) (hi : s.workers i = .holding) : Transition s (.use i use)
      { s with queue := use.apply s.queue, uses := s.uses ++ [(i, use)] }
  | dropGuard (i) (hi : s.workers i = .holding) : Transition s (.dropGuard i) (s.unlock i)
  | setEnabled (enabled) (hh : s.handler = .idle) : Transition s (.setEnabled enabled)
      { s with enabled := enabled }
  | stopFails (hh : s.handler = .idle) : Transition s (.call .stop false) s
  | call (call updateEpolls) (hh : s.handler = .idle) :
      Transition s (.call call updateEpolls) { s with handler := .wantsLock call }
  | handlerLocks (call) (hh : s.handler = .wantsLock call) (hfree : s.owner = none) :
      Transition s .handlerStep { s with owner := some .handler, handler := .locked call }
  | handlerUnlocks (call) (hh : s.handler = .locked call) : Transition s .handlerStep
      { s with queue := call.apply s.queue, owner := none, handler := .returning call }
  | handlerReturns (call) (hh : s.handler = .returning call) :
      Transition s .handlerStep { s with handler := .idle }

theorem transition_of_tryLockQueue {s t : SharedVring ι} {i : ι} (h : s.tryLockQueue i = some t) :
    s.Transition (.tryLockQueue i) t := by
  unfold tryLockQueue at h
  split at h
  · rename_i hi
    cases h
    exact .check i hi
  · rename_i hi
    obtain ⟨hfree, ht⟩ := Option.ite_none_right_eq_some.mp h
    cases ht
    exact .lock i hi hfree
  · rename_i hi
    cases h
    cases henabled : s.enabled with
    | true => exact .recheck i hi henabled
    | false => exact .disabled i hi henabled
  · rename_i hi
    cases h
    cases hready : s.queue.ready with
    | true => exact .takeGuard i hi hready
    | false => exact .stopped i hi hready
  · cases h

theorem transition_of_step {s t : SharedVring ι} {a : VringAction ι} (h : s.step a = some t) :
    s.Transition a t := by
  cases a with
  | tryLockQueue i => exact transition_of_tryLockQueue h
  | use i use =>
    obtain ⟨hi, ht⟩ := Option.ite_none_right_eq_some.mp h
    cases ht
    exact .use i use hi
  | dropGuard i =>
    obtain ⟨hi, ht⟩ := Option.ite_none_right_eq_some.mp h
    cases ht
    exact .dropGuard i hi
  | setEnabled enabled =>
    obtain ⟨hh, ht⟩ := Option.ite_none_right_eq_some.mp h
    cases ht
    exact .setEnabled enabled hh
  | call call updateEpolls =>
    obtain ⟨hh, ht⟩ := Option.ite_none_left_eq_some.mp h
    have hidle : s.handler = .idle := not_not.mp hh
    split at ht
    · rename_i hfails
      obtain ⟨rfl, rfl⟩ := hfails
      cases ht
      exact .stopFails hidle
    · cases ht
      exact .call call updateEpolls hidle
  | handlerStep =>
    unfold step at h
    dsimp only at h
    split at h
    · cases h
    · rename_i call hh
      obtain ⟨hfree, ht⟩ := Option.ite_none_right_eq_some.mp h
      cases ht
      exact .handlerLocks call hh hfree
    · rename_i call hh
      cases h
      exact .handlerUnlocks call hh
    · rename_i call hh
      cases h
      exact .handlerReturns call hh

@[simp] theorem setWorker_self (s : SharedVring ι) (i : ι) (pc : WorkerPc) :
    (s.setWorker i pc).workers i = pc := by
  show Function.update s.workers i pc i = pc
  rw [Function.update_self]

theorem setWorker_of_ne (s : SharedVring ι) {i j : ι} (pc : WorkerPc) (h : j ≠ i) :
    (s.setWorker i pc).workers j = s.workers j := by
  show Function.update s.workers i pc j = s.workers j
  rw [Function.update_of_ne h]

/-! ### Mutual exclusion -/

/-- Whoever is at a place where it has the lock owns it. -/
structure Excluded (s : SharedVring ι) : Prop where
  worker : ∀ i, (s.workers i).hasLock = true → s.owner = some (.worker i)
  handler : s.handler.hasLock = true → s.owner = some .handler

omit [DecidableEq ι] in
theorem excluded_new (queue : Queue) (enabled : Bool) : (new queue enabled : SharedVring ι).Excluded :=
  ⟨nofun, nofun⟩

/-- A worker goes on with the lock, or without it. -/
theorem Excluded.setWorker {s : SharedVring ι} (h : s.Excluded) {i : ι} {pc : WorkerPc}
    (hpc : pc.hasLock = true → (s.workers i).hasLock = true) : (s.setWorker i pc).Excluded where
  worker j hj := by
    by_cases hij : j = i
    · subst hij
      rw [setWorker_self] at hj
      exact h.worker j (hpc hj)
    · rw [setWorker_of_ne s pc hij] at hj
      exact h.worker j hj
  handler := h.handler

theorem Excluded.unlock {s : SharedVring ι} (h : s.Excluded) {i : ι}
    (hi : (s.workers i).hasLock = true) : (s.unlock i).Excluded where
  worker j hj := by
    have hj : ((s.setWorker i .idle).workers j).hasLock = true := hj
    by_cases hij : j = i
    · subst hij
      rw [setWorker_self] at hj
      cases hj
    · rw [setWorker_of_ne s .idle hij] at hj
      exact absurd (Owner.worker.inj (Option.some.inj ((h.worker j hj).symm.trans (h.worker i hi)))) hij
  handler hh := by
    have hown := (h.handler hh).symm.trans (h.worker i hi)
    cases hown

theorem Excluded.step {s t : SharedVring ι} (h : s.Excluded) {a : VringAction ι}
    (hstep : s.step a = some t) : t.Excluded := by
  cases transition_of_step hstep with
  | check i hi => exact h.setWorker fun hpc => by split at hpc <;> cases hpc
  | lock i hi hfree =>
    constructor
    · intro j hj
      by_cases hij : j = i
      · rw [hij]
      · rw [show ({ s.setWorker i .locked with owner := some (.worker i) } : SharedVring ι).workers j =
          s.workers j from setWorker_of_ne s .locked hij] at hj
        exact absurd ((h.worker j hj).symm.trans hfree) nofun
    · intro hh
      exact absurd ((h.handler hh).symm.trans hfree) nofun
  | recheck i hi => exact h.setWorker fun _ => by rw [hi]; rfl
  | disabled i hi => exact h.unlock (by rw [hi]; rfl)
  | takeGuard i hi => exact h.setWorker fun _ => by rw [hi]; rfl
  | stopped i hi => exact h.unlock (by rw [hi]; rfl)
  | use => exact ⟨h.worker, h.handler⟩
  | dropGuard i hi => exact h.unlock (by rw [hi]; rfl)
  | setEnabled => exact ⟨h.worker, h.handler⟩
  | stopFails => exact h
  | call => exact ⟨h.worker, nofun⟩
  | handlerLocks call hh hfree =>
    exact ⟨fun i hi => absurd ((h.worker i hi).symm.trans hfree) nofun, fun _ => rfl⟩
  | handlerUnlocks call hh =>
    have hown : s.owner = some .handler := h.handler (by rw [hh]; rfl)
    exact ⟨fun i hi => absurd ((h.worker i hi).symm.trans hown) nofun, nofun⟩
  | handlerReturns => exact ⟨h.worker, nofun⟩

/-! ### A stopped ring -/

/-- The queue is not ready, no worker has a guard, and the handler is not about to start the ring. -/
structure Quiet (s : SharedVring ι) : Prop where
  stopped : s.queue.ready = false
  noGuard : ∀ i, s.workers i ≠ .holding
  notStarting : s.handler.call ≠ some .start

end SharedVring

/-- Nothing but `start` makes the queue ready. -/
theorem QueueConfig.ready_apply (c : QueueConfig) (q : Queue) : (c.apply q).ready = q.ready := by
  cases c with
  | setSize size => exact q.ready_setSize size
  | trySetDescTableAddress addr =>
    show ((q.trySetDescTableAddress addr).toOption.getD q).ready = q.ready
    cases h : q.trySetDescTableAddress addr with
    | error e => rfl
    | ok q' => exact Queue.ready_trySetDescTableAddress h
  | trySetAvailRingAddress addr =>
    show ((q.trySetAvailRingAddress addr).toOption.getD q).ready = q.ready
    cases h : q.trySetAvailRingAddress addr with
    | error e => rfl
    | ok q' => exact Queue.ready_trySetAvailRingAddress h
  | trySetUsedRingAddress addr =>
    show ((q.trySetUsedRingAddress addr).toOption.getD q).ready = q.ready
    cases h : q.trySetUsedRingAddress addr with
    | error e => rfl
    | ok q' => exact Queue.ready_trySetUsedRingAddress h
  | _ => rfl

theorem HandlerCall.ready_apply {c : HandlerCall} (hc : c ≠ .start) {q : Queue}
    (hq : q.ready = false) : (c.apply q).ready = false := by
  cases c with
  | start => exact absurd rfl hc
  | stop => rfl
  | config c => exact (c.ready_apply q).trans hq

namespace SharedVring

theorem Quiet.setWorker {s : SharedVring ι} (h : s.Quiet) (i : ι) (pc : WorkerPc)
    (hpc : pc ≠ .holding) : (s.setWorker i pc).Quiet where
  stopped := h.stopped
  noGuard j := by
    by_cases hij : j = i
    · rw [hij, setWorker_self]
      exact hpc
    · rw [setWorker_of_ne s pc hij]
      exact h.noGuard j
  notStarting := h.notStarting

/-- Until the handler begins to start the ring, it stays as it is, and nothing is done with it. -/
theorem Quiet.step {s t : SharedVring ι} (h : s.Quiet) {a : VringAction ι}
    (ha : ∀ updateEpolls, a ≠ .call .start updateEpolls) (hstep : s.step a = some t) :
    t.Quiet ∧ t.uses = s.uses := by
  cases transition_of_step hstep with
  | check i hi => exact ⟨h.setWorker i _ (by split <;> exact nofun), rfl⟩
  | lock i hi =>
    have hlocked := h.setWorker i .locked nofun
    exact ⟨⟨h.stopped, hlocked.noGuard, h.notStarting⟩, rfl⟩
  | recheck i hi => exact ⟨h.setWorker i .rechecked nofun, rfl⟩
  | disabled i hi =>
    have hidle := h.setWorker i .idle nofun
    exact ⟨⟨h.stopped, hidle.noGuard, h.notStarting⟩, rfl⟩
  | takeGuard i hi hready => exact absurd (hready.symm.trans h.stopped) nofun
  | stopped i hi =>
    have hidle := h.setWorker i .idle nofun
    exact ⟨⟨h.stopped, hidle.noGuard, h.notStarting⟩, rfl⟩
  | use i use hi => exact absurd hi (h.noGuard i)
  | dropGuard i hi => exact absurd hi (h.noGuard i)
  | setEnabled => exact ⟨⟨h.stopped, h.noGuard, h.notStarting⟩, rfl⟩
  | stopFails => exact ⟨h, rfl⟩
  | call call updateEpolls hh =>
    refine ⟨⟨h.stopped, h.noGuard, fun hc => ?_⟩, rfl⟩
    cases hc
    exact ha updateEpolls rfl
  | handlerLocks call hh =>
    have hnot := h.notStarting
    rw [hh] at hnot
    exact ⟨⟨h.stopped, h.noGuard, hnot⟩, rfl⟩
  | handlerUnlocks call hh =>
    have hnot := h.notStarting
    rw [hh] at hnot
    exact ⟨⟨HandlerCall.ready_apply (fun hc => hnot (congrArg some hc)) h.stopped, h.noGuard, hnot⟩,
      rfl⟩
  | handlerReturns => exact ⟨⟨h.stopped, h.noGuard, nofun⟩, rfl⟩

/-- When `stop` is about to return, the ring is quiet. -/
theorem quiet_of_stop_step {s t : SharedVring ι} (h : s.Excluded)
    (hs : s.handler = .returning .stop → s.Quiet) {a : VringAction ι} (hstep : s.step a = some t)
    (ht : t.handler = .returning .stop) : t.Quiet := by
  cases transition_of_step hstep with
  | handlerUnlocks call hh =>
    cases ht
    have hown : s.owner = some .handler := h.handler (by rw [hh]; rfl)
    refine ⟨rfl, fun i hi => ?_, nofun⟩
    -- a guard would have the lock that `stop` has
    have hguard : s.owner = some (.worker i) := by
      refine h.worker i ?_
      rw [show s.workers i = .holding from hi]
      rfl
    cases hguard.symm.trans hown
  | call | handlerLocks | handlerReturns => cases ht
  | stopFails hh => cases hh.symm.trans ht
  | setEnabled enabled hh => cases hh.symm.trans ht
  | _ => exact ((hs ht).step (by intro _; exact nofun) hstep).1

end SharedVring

/-- **`stop` quiesces the ring.**  When `stop` has returned `Ok`, and as long as the handler does not
begin to start the ring, no worker has a guard, so no call of `try_lock_queue` has returned one, and
nothing is popped or used: for any number of workers, and whatever else the handler does. -/
theorem stop_quiesces {queue : Queue} {enabled : Bool} {s t u : SharedVring ι}
    (hr : Reaches SharedVring.step (fun _ _ => True) (.new queue enabled) s)
    (hstop : s.handler = .returning .stop) (hret : s.step .handlerStep = some t)
    (hrun : Reaches SharedVring.step (fun _ a => ∀ updateEpolls, a ≠ .call .start updateEpolls) t u) :
    (∀ i, u.workers i ≠ .holding) ∧ u.uses = t.uses := by
  have hquiet : s.Excluded ∧ (s.handler = .returning .stop → s.Quiet) :=
    hr.invariant (I := fun s => s.Excluded ∧ (s.handler = .returning .stop → s.Quiet))
      ⟨SharedVring.excluded_new queue enabled, nofun⟩ fun s a t h _ hstep =>
        ⟨h.1.step hstep, SharedVring.quiet_of_stop_step h.1 h.2 hstep⟩
  have ht : t.Quiet := ((hquiet.2 hstop).step (by intro _; exact nofun) hret).1
  have hu : u.Quiet ∧ u.uses = t.uses :=
    hrun.invariant (I := fun u => u.Quiet ∧ u.uses = t.uses) ⟨ht, rfl⟩ fun u a v h ha hstep =>
      ⟨(h.1.step ha hstep).1, (h.1.step ha hstep).2.trans h.2⟩
  exact ⟨hu.1.noGuard, hu.2⟩

/-! ### A worker that comes too late -/

/-- A queue of 8 descriptors that is ready. -/
def readyQueue : Queue :=
  { maxSize := 8, size := 8, ready := true, descTable := 0, availRing := 0, usedRing := 0,
    nextAvail := 0, nextUsed := 0, eventIdxEnabled := false }

/-- Worker 0 pops a chain; worker 1 and `stop` wait for the lock, and `stop` is the next to get it. -/
def stopRun : List (VringAction Nat) :=
  [.tryLockQueue 0, .tryLockQueue 0, .tryLockQueue 0, .tryLockQueue 0, .use 0 .popDescriptorChain,
    .tryLockQueue 1, .call .stop true, .dropGuard 0, .handlerStep, .handlerStep]

/-- Then worker 1 gets the lock, while the handler sets the size. -/
def lateRun : List (VringAction Nat) :=
  [.tryLockQueue 1, .call (.config (.setSize 4)) true, .tryLockQueue 1, .tryLockQueue 1, .handlerStep]

theorem stop_quiesces_late : ∃ s t u : SharedVring Nat,
    run SharedVring.step (.new readyQueue true) stopRun = some s ∧ s.handler = .returning .stop ∧
    s.step .handlerStep = some t ∧ run SharedVring.step t lateRun = some u ∧
    u.workers 1 = .idle ∧ (∀ i, u.workers i ≠ .holding) ∧ u.uses = [(0, .popDescriptorChain)] := by
  have hstop : (run SharedVring.step (.new readyQueue true) stopRun).isSome := rfl
  obtain ⟨s, hs⟩ := Option.isSome_iff_exists.mp hstop
  have hs' : s.handler = .returning .stop ∧ ∃ t, s.step .handlerStep = some t ∧
      t.uses = [(0, .popDescriptorChain)] ∧ ∃ u, run SharedVring.step t lateRun = some u ∧
        u.workers 1 = .idle ∧ Along SharedVring.step
          (fun _ a => ∀ updateEpolls, a ≠ .call .start updateEpolls) t lateRun := by
    cases hs
    exact ⟨rfl, _, rfl, rfl, _, rfl, rfl, by decide⟩
  obtain ⟨hreturning, t, ht, huses, u, hu, hidle, halong⟩ := hs'
  obtain ⟨hguard, hused⟩ := stop_quiesces (reaches_of_run_any stopRun hs) hreturning ht
    (reaches_of_run lateRun t hu halong)
  exact ⟨s, t, u, hs, hreturning, ht, hu, hidle, hguard, hused.trans huses⟩

end VirtioPoc.VhostUser
