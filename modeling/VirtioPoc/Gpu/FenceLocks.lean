import VirtioPoc.Base.Locks
import VirtioPoc.Gpu.FenceOrder

/-!
# Deadlocks of the worker and the fence handler

The worker has the lock of its queue from the first chain to the last, and takes
the lock of the table for each request with a fence.  The fence handler has the
lock of the table, and takes the lock of the control queue for each descriptor
that its fence completes; the `lock` of `try_lock_queue` waits.  So they take the
two locks in opposite orders.

Rutabaga calls the handler on a thread of its own, or on the thread of the
worker: in `create_fence`, or when the worker polls.  In `FenceSystem` the handler
is there when it has the lock of the table; here its thread is known, and that a
call may have to wait for that lock.

`deadlock_free_iff` says which steps lead to a deadlock.
-/

namespace VirtioPoc.Gpu

open Base

/-- The thread of the worker, and those of rutabaga. -/
inductive Thread
  | worker
  | rutabaga (n : Nat)
  deriving DecidableEq

/-- The lock of a queue, and that of the table of fences. -/
inductive Lock
  | queue (queue : QueueId)
  | fenceState
  deriving DecidableEq

/-- The worker is in `event_poll` or in `create_fence`, where rutabaga may call the handler. -/
def WorkerPc.inRutabaga : WorkerPc → Bool
  | .idle | .creatingFence .. => true
  | _ => false

def WorkerPc.atFence : WorkerPc → Bool
  | .processingFence .. => true
  | _ => false

def HandlerPc.locksQueue : HandlerPc → Bool
  | .locking .. => true
  | _ => false

/-- The steps of the worker's own code. -/
def FenceAction.byWorker : FenceAction → Bool
  | .event _ | .lockQueue | .pop _ | .execute _ | .createFence _ | .processFence | .addUsed _ => true
  | .setEnabled .. | .setReady .. | .fenceCompleted _ | .handlerStep _ => false

/-- `handlerThread` is the thread of the handler when it is not idle; `called` has the calls of the
handler that wait for the lock of the table. -/
structure FenceLocks where
  sys : FenceSystem
  handlerThread : Thread
  called : Thread → Option RutabagaFence

inductive LockAction
  /-- a step of the worker, the handler or the frontend -/
  | step (a : FenceAction)
  /-- rutabaga calls the handler -/
  | call (thread : Thread) (fence : RutabagaFence)
  /-- the call gets the lock of the table -/
  | enter (thread : Thread)

namespace FenceLocks

def new (enabled ready : QueueId → Bool) : FenceLocks :=
  { sys := .new enabled ready, handlerThread := .worker, called := fun _ => none }

/-- The thread is in the handler, or waits to be. -/
def InHandler (s : FenceLocks) (thread : Thread) : Prop :=
  s.called thread ≠ none ∨ (s.handlerThread = thread ∧ s.sys.handler ≠ .idle)

instance (s : FenceLocks) (thread : Thread) : Decidable (s.InHandler thread) :=
  inferInstanceAs (Decidable (_ ∨ _))

def step (s : FenceLocks) : LockAction → Option FenceLocks
  | .step a =>
    if a.byWorker ∧ s.InHandler .worker then none
    else
      match a with
      | .fenceCompleted _ => none
      | a => (s.sys.step a).map fun sys => { s with sys := sys }
  | .call thread fence =>
    if s.InHandler thread ∨ (thread = .worker ∧ s.sys.worker.inRutabaga = false) then none
    else some { s with called := Function.update s.called thread (some fence) }
  | .enter thread =>
    match s.called thread with
    | none => none
    | some fence => (s.sys.step (.fenceCompleted fence)).map fun sys =>
      { sys := sys, handlerThread := thread, called := Function.update s.called thread none }

/-- Who holds the locks, and who is at a `lock` that has not returned. -/
def locking (s : FenceLocks) : Locking Thread Lock where
  holds thread
    | .queue queue => (thread = .worker ∧ s.sys.worker.guard = some queue) ∨
      (s.handlerThread = thread ∧ s.sys.handler.guard = some queue)
    | .fenceState => s.handlerThread = thread ∧ s.sys.handler ≠ .idle
  waits thread
    | .queue queue => (thread = .worker ∧ s.sys.worker = .locking queue) ∨
      (s.handlerThread = thread ∧ s.sys.handler.locksQueue = true ∧ queue = .control)
    | .fenceState => (thread = .worker ∧ s.sys.worker.atFence = true) ∨ s.called thread ≠ none

/-- The worker's thread is in need of the table: it is in the handler, or at the lock of the table. -/
def NeedsTable (s : FenceLocks) : Prop :=
  s.handlerThread = .worker ∨ s.sys.worker.atFence = true ∨ s.called .worker ≠ none

/-- The worker and the handler have each other's lock. -/
def Stuck (s : FenceLocks) : Prop :=
  s.sys.handler.locksQueue = true ∧ s.sys.worker.guard = some .control ∧ s.NeedsTable

/-! ### What a thread in the handler can be -/

/-- A thread is in one call of the handler at a time, and the worker only from within rutabaga. -/
structure Sane (s : FenceLocks) : Prop where
  worker : s.InHandler .worker → s.sys.worker.inRutabaga = true
  waiting : ∀ thread, s.called thread ≠ none →
    ¬ (s.handlerThread = thread ∧ s.sys.handler ≠ .idle)

theorem sane_new (enabled ready : QueueId → Bool) : (new enabled ready).Sane where
  worker := by
    rintro (h | ⟨-, h⟩)
    · exact absurd rfl h
    · exact absurd rfl h
  waiting thread h := absurd rfl h

end FenceLocks

/-- The worker does not touch the handler. -/
theorem FenceSystem.handler_of_byWorker {s t : FenceSystem} {a : FenceAction}
    (ha : a.byWorker = true) (hstep : s.step a = some t) : t.handler = s.handler := by
  cases transition_of_step hstep with
  | setEnabled | setReady | fenceCompleted | scanEnd | scanTake | scanSkip | handlerChecks
  | handlerLocks | handlerAdded | handlerFailed => cases ha
  | processFence r len =>
    unfold FenceSystem.processFence
    rfl
  | _ => rfl

/-- The other threads do not touch the worker, and the handler runs on only if it is running. -/
theorem FenceSystem.worker_of_not_byWorker {s t : FenceSystem} {a : FenceAction}
    (ha : a.byWorker = false) (hcompleted : ∀ fence, a ≠ .fenceCompleted fence)
    (hstep : s.step a = some t) : t.worker = s.worker ∧ (t.handler ≠ .idle → s.handler ≠ .idle) := by
  cases transition_of_step hstep with
  | event | lockQueue | pop | leave | execute | fenceCreated | fenceFailed | processFence
  | workerAdded | workerFailed => cases ha
  | fenceCompleted fence => exact absurd rfl (hcompleted fence)
  | setEnabled | setReady => exact ⟨rfl, id⟩
  | scanEnd fence i ok hh | scanTake fence i desc ok hh | scanSkip fence i desc ok hh
  | handlerChecks fence i desc ok hh | handlerLocks fence i desc ok hh
  | handlerAdded fence i desc hh | handlerFailed fence i desc hh =>
    exact ⟨rfl, fun _ => by rw [hh]; exact nofun⟩

namespace FenceLocks

/-! ### What a step does -/

/-- The step of `a` from `s`: one of the system below, a call of the handler, or its beginning. -/
inductive Transition (s : FenceLocks) : LockAction → FenceLocks → Prop
  | worker (a sys) (ha : a.byWorker = true) (hout : ¬ s.InHandler .worker)
      (hsys : s.sys.step a = some sys) : Transition s (.step a) { s with sys := sys }
  | other (a sys) (ha : a.byWorker = false) (hcompleted : ∀ fence, a ≠ .fenceCompleted fence)
      (hsys : s.sys.step a = some sys) : Transition s (.step a) { s with sys := sys }
  | call (thread fence) (hout : ¬ s.InHandler thread)
      (hworker : thread = .worker → s.sys.worker.inRutabaga = true) :
      Transition s (.call thread fence)
        { s with called := Function.update s.called thread (some fence) }
  | enter (thread fence) (hcalled : s.called thread = some fence) (hidle : s.sys.handler = .idle) :
      Transition s (.enter thread)
        { sys := { s.sys with
            delivered := s.sys.delivered ++ [fence]
            handler := .scanning fence 0 }
          handlerThread := thread
          called := Function.update s.called thread none }

theorem transition_of_step {s t : FenceLocks} {a : LockAction} (h : s.step a = some t) :
    s.Transition a t := by
  cases a with
  | step a =>
    obtain ⟨hout, h⟩ := Option.ite_none_left_eq_some.mp h
    have hmap (hcompleted : ∀ fence, a ≠ .fenceCompleted fence)
        (h : (s.sys.step a).map (fun sys => { s with sys := sys }) = some t) :
        s.Transition (.step a) t := by
      obtain ⟨sys, hsys, rfl⟩ := Option.map_eq_some_iff.mp h
      cases ha : a.byWorker with
      | true => exact .worker a sys ha (fun hin => hout ⟨ha, hin⟩) hsys
      | false => exact .other a sys ha hcompleted hsys
    cases a with
    | fenceCompleted fence => cases h
    | _ => exact hmap nofun h
  | call thread fence =>
    obtain ⟨hout, ht⟩ := Option.ite_none_left_eq_some.mp h
    cases ht
    refine .call thread fence (fun hin => hout (Or.inl hin)) fun hw => ?_
    by_contra hnot
    exact hout (Or.inr ⟨hw, Bool.eq_false_iff.mpr hnot⟩)
  | enter thread =>
    unfold step at h
    dsimp only at h
    split at h
    · cases h
    · rename_i fence hcalled
      obtain ⟨sys, hsys, rfl⟩ := Option.map_eq_some_iff.mp h
      cases FenceSystem.transition_of_step hsys with
      | fenceCompleted _ hidle => exact .enter thread fence hcalled hidle

theorem Sane.step {s t : FenceLocks} (h : s.Sane) {a : LockAction} (hstep : s.step a = some t) :
    t.Sane := by
  cases transition_of_step hstep with
  | worker a sys ha hout hsys =>
    have hhandler := FenceSystem.handler_of_byWorker ha hsys
    constructor
    · rintro (hc | ⟨hthread, hh⟩)
      · exact absurd (Or.inl hc) hout
      · exact absurd (Or.inr ⟨hthread, hhandler ▸ hh⟩) hout
    · rintro thread hc ⟨hthread, hh⟩
      exact h.waiting thread hc ⟨hthread, hhandler ▸ hh⟩
  | other a sys ha hcompleted hsys =>
    obtain ⟨hworker, hhandler⟩ := FenceSystem.worker_of_not_byWorker ha hcompleted hsys
    constructor
    · intro hin
      show sys.worker.inRutabaga = true
      rw [hworker]
      rcases hin with hc | ⟨hthread, hh⟩
      · exact h.worker (Or.inl hc)
      · exact h.worker (Or.inr ⟨hthread, hhandler hh⟩)
    · rintro thread hc ⟨hthread, hh⟩
      exact h.waiting thread hc ⟨hthread, hhandler hh⟩
  | call thread fence hout hworker =>
    constructor
    · rintro (hc | hh)
      · by_cases hthread : thread = .worker
        · exact hworker hthread
        · exact h.worker (Or.inl fun hn => hc ((Function.update_of_ne (Ne.symm hthread) _ _).trans hn))
      · exact h.worker (Or.inr hh)
    · intro thread' hc hh
      by_cases hthread : thread' = thread
      · subst hthread
        exact hout (Or.inr hh)
      · exact h.waiting thread' (fun hn => hc ((Function.update_of_ne hthread _ _).trans hn)) hh
  | enter thread fence hcalled hidle =>
    have hwas : s.called thread ≠ none := by rw [hcalled]; exact nofun
    constructor
    · rintro (hc | ⟨hthread, -⟩)
      · by_cases hthread : thread = .worker
        · exact h.worker (Or.inl (hthread ▸ hwas))
        · exact h.worker (Or.inl fun hn => hc ((Function.update_of_ne (Ne.symm hthread) _ _).trans hn))
      · obtain rfl : thread = .worker := hthread
        exact h.worker (Or.inl hwas)
    · rintro thread' hc ⟨hthread, -⟩
      obtain rfl : thread = thread' := hthread
      exact hc (Function.update_self _ _ _)

/-! ### Deadlocks -/

theorem holders {s : FenceLocks} (thread : Thread) (lock : Lock)
    (h : s.locking.holds thread lock) : thread = .worker ∨ thread = s.handlerThread := by
  cases lock with
  | queue queue =>
    rcases h with ⟨hw, -⟩ | ⟨hh, -⟩
    · exact Or.inl hw
    · exact Or.inr hh.symm
  | fenceState => exact Or.inr h.1.symm

/-- A thread that waits for its own lock is the worker, in the handler. -/
theorem Sane.stuck_of_self {s : FenceLocks} (h : s.Sane) {thread : Thread}
    (hself : s.locking.WaitsOn thread thread) : s.Stuck := by
  have hin (hthread : s.handlerThread = .worker) (hh : s.sys.handler ≠ .idle) :
      s.sys.worker.inRutabaga = true := h.worker (Or.inr ⟨hthread, hh⟩)
  obtain ⟨lock, hwaits, hholds⟩ := hself
  cases lock with
  | queue queue =>
    rcases hwaits with ⟨rfl, hw⟩ | ⟨rfl, hlocks, rfl⟩
    · rcases hholds with ⟨-, hguard⟩ | ⟨hthread, hguard⟩
      · rw [hw] at hguard
        cases hguard
      · have hrutabaga := hin hthread (fun hidle => by rw [hidle] at hguard; cases hguard)
        rw [hw] at hrutabaga
        cases hrutabaga
    · rcases hholds with ⟨hthread, hguard⟩ | ⟨-, hguard⟩
      · exact ⟨hlocks, hguard, Or.inl hthread⟩
      · cases hh : s.sys.handler with
        | locking => rw [hh] at hguard; cases hguard
        | _ => rw [hh] at hlocks; cases hlocks
  | fenceState =>
    rcases hwaits with ⟨rfl, hat⟩ | hcalled
    · have hrutabaga := hin hholds.1 hholds.2
      cases hw : s.sys.worker with
      | processingFence => rw [hw] at hrutabaga; cases hrutabaga
      | _ => rw [hw] at hat; cases hat
    · exact absurd hholds (h.waiting thread hcalled)

theorem Sane.deadlocked_iff_stuck {s : FenceLocks} (h : s.Sane) :
    s.locking.Deadlocked ↔ s.Stuck := by
  rw [Locking.deadlocked_iff_of_holders holders]
  constructor
  · rintro (hself | hself | ⟨hworker, hhandler⟩)
    · exact h.stuck_of_self hself
    · exact h.stuck_of_self hself
    · by_cases hthread : s.handlerThread = .worker
      · rw [hthread] at hworker
        exact h.stuck_of_self hworker
      · -- the handler waits for the queue, and the worker for the table
        obtain ⟨lock, hwaits, hholds⟩ := hhandler
        cases lock with
        | fenceState => exact absurd hholds.1 hthread
        | queue queue =>
          obtain ⟨hlocks, rfl⟩ := (hwaits.resolve_left fun hc => hthread hc.1).2
          have hguard := (hholds.resolve_right fun hc => hthread hc.1).2
          obtain ⟨lock, hwaits, -⟩ := hworker
          cases lock with
          | queue queue =>
            have hw := (hwaits.resolve_right fun hc => hthread hc.1).2
            rw [hw] at hguard
            cases hguard
          | fenceState => exact ⟨hlocks, hguard, Or.inr (hwaits.imp_left And.right)⟩
  · rintro ⟨hlocks, hguard, hneeds⟩
    have hactive : s.sys.handler ≠ .idle := fun hidle => by rw [hidle] at hlocks; cases hlocks
    have hhandler : s.locking.WaitsOn s.handlerThread .worker :=
      ⟨.queue .control, Or.inr ⟨rfl, hlocks, rfl⟩, Or.inl ⟨rfl, hguard⟩⟩
    rcases hneeds with hthread | hneeds
    · exact Or.inl (hthread ▸ hhandler)
    · exact Or.inr (Or.inr ⟨⟨.fenceState, hneeds.imp_left fun hat => ⟨rfl, hat⟩, rfl, hactive⟩,
        hhandler⟩)

/-! ### The steps that lead to a deadlock -/

/-- The handler does not go to lock the queue while the worker has it and needs the table; and while
the handler is at the lock, the worker does not come to need the table with the queue in its hand, from
`create_fence` or by a call of the handler. -/
def Avoids (s : FenceLocks) : LockAction → Prop
  | .step (.handlerStep _) =>
    match s.sys.handler with
    | .tryingLock .. =>
      s.sys.enabled .control = true → s.sys.worker.guard = some .control → ¬ s.NeedsTable
    | _ => True
  | .step (.createFence result) =>
    match s.sys.worker, result with
    | .creatingFence r response, .ok _ => s.sys.handler.locksQueue = true →
      r.queue = .control → (r.encode response).atFence = false
    | .creatingFence r _, .error e => s.sys.handler.locksQueue = true →
      r.queue = .control → (r.encode e).atFence = false
    | _, _ => True
  | .call .worker _ => s.sys.handler.locksQueue = true → s.sys.worker.guard ≠ some .control
  | _ => True

/-- After a step of its own the worker needs the table only at `process_fence`. -/
theorem atFence_of_stuck {s : FenceLocks} (hout : ¬ s.InHandler .worker) {sys : FenceSystem}
    (hhandler : sys.handler = s.sys.handler) (h : { s with sys := sys : FenceLocks }.Stuck) :
    sys.worker.atFence = true := by
  obtain ⟨hlocks, -, hthread | hat | hcalled⟩ := h
  · refine absurd (Or.inr ⟨hthread, fun hidle => ?_⟩) hout
    change sys.handler.locksQueue = true at hlocks
    rw [hhandler, hidle] at hlocks
    cases hlocks
  · exact hat
  · exact absurd (Or.inl hcalled) hout

end FenceLocks

theorem Request.guard_of_atFence {r : Request} {response : GpuResponse}
    (h : (r.encode response).atFence = true) : (r.encode response).guard = some r.queue := by
  cases hc : r.encode response with
  | processingFence r' len =>
    obtain rfl := Request.hand_of_encode_processingFence hc
    rfl
  | _ => rw [hc] at h; cases h

theorem Request.atFence_execute (r : Request) (result : Option GpuResponse) :
    (r.execute result).atFence = false := by
  cases hc : r.execute result with
  | processingFence r' len => exact absurd hc (r.execute_ne_processingFence result r' len)
  | _ => rfl

namespace FenceLocks

/-- The step after `create_fence`. -/
theorem stuck_encode_iff {s : FenceLocks} (hout : ¬ s.InHandler .worker) {sys : FenceSystem}
    (hhandler : sys.handler = s.sys.handler) {r : Request} {response : GpuResponse}
    (hworker : sys.worker = r.encode response) :
    { s with sys := sys : FenceLocks }.Stuck ↔ ¬ (s.sys.handler.locksQueue = true →
      r.queue = .control → (r.encode response).atFence = false) := by
  constructor
  · intro hstuck havoids
    have hat := atFence_of_stuck hout hhandler hstuck
    obtain ⟨hlocks, hguard, -⟩ := hstuck
    change sys.worker.guard = _ at hguard
    rw [hworker] at hat hguard
    rw [Request.guard_of_atFence hat] at hguard
    rw [havoids (hhandler ▸ hlocks) (Option.some.inj hguard)] at hat
    cases hat
  · intro hnot
    obtain ⟨hlocks, hnot⟩ := Classical.not_imp.mp hnot
    obtain ⟨hqueue, hat⟩ := Classical.not_imp.mp hnot
    have hat : (r.encode response).atFence = true := by simpa using hat
    have hguard : sys.worker.guard = some .control := by
      rw [hworker, Request.guard_of_atFence hat, hqueue]
    exact ⟨hhandler ▸ hlocks, hguard, Or.inr (Or.inl (hworker ▸ hat))⟩

theorem stuck_worker_iff {s : FenceLocks} (hout : ¬ s.InHandler .worker) {a : FenceAction}
    (ha : a.byWorker = true) {sys : FenceSystem} (hsys : s.sys.step a = some sys) :
    { s with sys := sys : FenceLocks }.Stuck ↔ ¬ s.Avoids (.step a) := by
  have hfree {a : FenceAction} {sys : FenceSystem} (hhandler : sys.handler = s.sys.handler)
      (hat : sys.worker.atFence = false) (havoids : s.Avoids (.step a)) :
      { s with sys := sys : FenceLocks }.Stuck ↔ ¬ s.Avoids (.step a) :=
    iff_of_false (fun hstuck => by rw [atFence_of_stuck hout hhandler hstuck] at hat; cases hat)
      (not_not_intro havoids)
  cases FenceSystem.transition_of_step hsys with
  | event queue hw | lockQueue queue hw => exact hfree rfl (by dsimp only; split <;> rfl) trivial
  | pop queue chain hw =>
    exact hfree rfl (by unfold FenceSystem.pop; dsimp only; split <;> rfl) trivial
  | leave queue hw => exact hfree rfl rfl trivial
  | execute r result hw => exact hfree rfl (r.atFence_execute result) trivial
  | fenceCreated r response ok hw | fenceFailed r response e hw =>
    simp only [Avoids, hw]
    exact stuck_encode_iff hout (by rfl) (by rfl)
  | processFence r len hw =>
    exact hfree rfl (by unfold FenceSystem.processFence; dsimp only; split <;> rfl) trivial
  | workerAdded r len hw => exact hfree rfl rfl trivial
  | workerFailed r len hw => exact hfree rfl rfl trivial
  | setEnabled | setReady | fenceCompleted | scanEnd | scanTake | scanSkip | handlerChecks
  | handlerLocks | handlerAdded | handlerFailed => cases ha

theorem stuck_other_iff {s : FenceLocks} (hnot : ¬ s.Stuck) {a : FenceAction}
    (ha : a.byWorker = false) (hcompleted : ∀ fence, a ≠ .fenceCompleted fence) {sys : FenceSystem}
    (hsys : s.sys.step a = some sys) :
    { s with sys := sys : FenceLocks }.Stuck ↔ ¬ s.Avoids (.step a) := by
  have hfree {a : FenceAction} {sys : FenceSystem} (hlocks : sys.handler.locksQueue = false)
      (havoids : s.Avoids (.step a)) :
      { s with sys := sys : FenceLocks }.Stuck ↔ ¬ s.Avoids (.step a) :=
    iff_of_false (fun hstuck => by rw [hstuck.1] at hlocks; cases hlocks) (not_not_intro havoids)
  cases FenceSystem.transition_of_step hsys with
  | setEnabled => exact iff_of_false hnot (not_not_intro trivial)
  | setReady => exact iff_of_false hnot (not_not_intro trivial)
  | fenceCompleted fence => exact absurd rfl (hcompleted fence)
  | scanEnd fence i ok hh | scanTake fence i desc ok hh | scanSkip fence i desc ok hh =>
    exact hfree rfl (by simp only [Avoids, hh])
  | handlerChecks fence i desc ok hh =>
    simp only [Avoids, hh]
    by_cases henabled : s.sys.enabled .control = true
    · rw [if_pos henabled]
      constructor
      · rintro ⟨-, hguard, hneeds⟩ havoids
        exact havoids henabled hguard hneeds
      · intro hnot
        obtain ⟨-, hnot⟩ := Classical.not_imp.mp hnot
        obtain ⟨hguard, hneeds⟩ := Classical.not_imp.mp hnot
        exact ⟨rfl, hguard, not_not.mp hneeds⟩
    · rw [if_neg henabled]
      exact iff_of_false (fun hstuck => nomatch hstuck.1) (not_not_intro fun h => absurd h henabled)
  | handlerLocks fence i desc ok hh =>
    exact hfree (by dsimp only; split <;> rfl) (by simp only [Avoids, hh])
  | handlerAdded fence i desc hh | handlerFailed fence i desc hh =>
    exact hfree rfl (by simp only [Avoids, hh])
  | event | lockQueue | pop | leave | execute | fenceCreated | fenceFailed | processFence
  | workerAdded | workerFailed => cases ha

theorem stuck_step_iff {s t : FenceLocks} (hnot : ¬ s.Stuck) {a : LockAction}
    (hstep : s.step a = some t) : t.Stuck ↔ ¬ s.Avoids a := by
  cases transition_of_step hstep with
  | worker a sys ha hout hsys => exact stuck_worker_iff hout ha hsys
  | other a sys ha hcompleted hsys => exact stuck_other_iff hnot ha hcompleted hsys
  | call thread fence hout hworker =>
    cases thread with
    | worker =>
      constructor
      · rintro ⟨hlocks, hguard, -⟩ havoids
        exact havoids hlocks hguard
      · intro hnot
        obtain ⟨hlocks, hguard⟩ := Classical.not_imp.mp hnot
        refine ⟨hlocks, not_not.mp hguard, Or.inr (Or.inr ?_)⟩
        show Function.update s.called .worker (some fence) .worker ≠ none
        rw [Function.update_self]
        exact nofun
    | rutabaga n => exact iff_of_false hnot (not_not_intro trivial)
  | enter thread fence hcalled hidle =>
    exact iff_of_false (fun hstuck => nomatch hstuck.1) (not_not_intro trivial)

/-- A deadlock is never left. -/
theorem stuck_step {s t : FenceLocks} (h : s.Stuck) {a : LockAction} (hstep : s.step a = some t) :
    t.Stuck := by
  obtain ⟨hlocks, hguard, hneeds⟩ := h
  have hactive : s.sys.handler ≠ .idle := fun hidle => by rw [hidle] at hlocks; cases hlocks
  cases transition_of_step hstep with
  | worker a sys ha hout hsys =>
    -- the worker is at the lock of the table
    have hat : s.sys.worker.atFence = true := by
      rcases hneeds with hthread | hat | hcalled
      · exact absurd (Or.inr ⟨hthread, hactive⟩) hout
      · exact hat
      · exact absurd (Or.inl hcalled) hout
    cases FenceSystem.transition_of_step hsys with
    | processFence r len hw hidle => exact absurd hidle hactive
    | setEnabled | setReady | fenceCompleted | scanEnd | scanTake | scanSkip | handlerChecks
    | handlerLocks | handlerAdded | handlerFailed => cases ha
    | event queue hw | lockQueue queue hw => rw [hw] at hat; cases hat
    | pop queue chain hw => rw [hw] at hat; cases hat
    | leave queue hw => rw [hw] at hat; cases hat
    | execute r result hw => rw [hw] at hat; cases hat
    | fenceCreated r response ok hw | fenceFailed r response e hw => rw [hw] at hat; cases hat
    | workerAdded r len hw => rw [hw] at hat; cases hat
    | workerFailed r len hw => rw [hw] at hat; cases hat
  | other a sys ha hcompleted hsys =>
    cases FenceSystem.transition_of_step hsys with
    | setEnabled => exact ⟨hlocks, hguard, hneeds⟩
    | setReady => exact ⟨hlocks, hguard, hneeds⟩
    | fenceCompleted fence => exact absurd rfl (hcompleted fence)
    | handlerLocks fence i desc ok hh hw => exact absurd hguard hw
    | scanEnd fence i ok hh | scanTake fence i desc ok hh | scanSkip fence i desc ok hh
    | handlerChecks fence i desc ok hh | handlerAdded fence i desc hh
    | handlerFailed fence i desc hh => rw [hh] at hlocks; cases hlocks
    | event | lockQueue | pop | leave | execute | fenceCreated | fenceFailed | processFence
    | workerAdded | workerFailed => cases ha
  | call thread fence =>
    refine ⟨hlocks, hguard, hneeds.imp_right (Or.imp_right fun hcalled => ?_)⟩
    show Function.update s.called thread (some fence) .worker ≠ none
    by_cases hthread : thread = .worker
    · rw [hthread, Function.update_self]
      exact nofun
    · rw [Function.update_of_ne (Ne.symm hthread)]
      exact hcalled
  | enter thread fence hcalled hidle => exact absurd hidle hactive

end FenceLocks

/-- **When the worker and the fence handler deadlock.**  In a run from the start no state is
deadlocked just when each of its steps avoids it; the handler may be called at any time, on threads of
its own and on the worker's. -/
theorem deadlock_free_iff {enabled ready : QueueId → Bool} {as : List LockAction}
    (hrun : (run FenceLocks.step (.new enabled ready) as).isSome) :
    (∀ n s, run FenceLocks.step (.new enabled ready) (as.take n) = some s →
      ¬ s.locking.Deadlocked) ↔
    Along FenceLocks.step FenceLocks.Avoids (.new enabled ready) as := by
  have hsane := FenceLocks.sane_new enabled ready
  refine forall_prefix_iff_along (I := FenceLocks.Sane) (fun s a t h hstep => h.step hstep)
    (fun s a t h hfree hstep => ?_) as _ hsane ?_ hrun
  · rw [(h.step hstep).deadlocked_iff_stuck,
      FenceLocks.stuck_step_iff (fun hs => hfree (h.deadlocked_iff_stuck.mpr hs)) hstep]
    exact not_not
  · rw [hsane.deadlocked_iff_stuck]
    exact fun hstuck => nomatch hstuck.1

/-! ### Runs with and without a deadlock -/

instance (s : FenceLocks) (a : LockAction) : Decidable (s.Avoids a) := by
  unfold FenceLocks.Avoids FenceLocks.NeedsTable
  split
  · split <;> infer_instance
  · split <;> infer_instance
  · infer_instance
  · infer_instance

/-- Rutabaga calls the handler, which takes some steps. -/
def handlerOn (thread : Thread) (fence : RutabagaFence) (steps : Nat) : List LockAction :=
  [.call thread fence, .enter thread] ++ List.replicate steps (.step (.handlerStep true))

/-- A `CTX_DESTROY` with fence 2 on the global ring. -/
def secondChain : RequestChain :=
  { fencedChain with
    headIndex := 4
    reader := some ([0x01, 0x02, 0, 0, 1, 0, 0, 0, 2] ++ List.replicate 15 0) }

/-- The second request is popped and executed. -/
def executeSecond : List FenceAction :=
  [.event .control, .lockQueue, .pop (some secondChain), .execute (some .okNoData)]

/-- The first fence is complete while the worker has nothing to do; then the second request comes. -/
def completeThenSecond : List LockAction :=
  parkOne.map .step ++ handlerOn (.rutabaga 0) ⟨1, 1, 0, 0⟩ 5 ++ executeSecond.map .step ++
    [.step (.createFence (.ok .okNoData)), .step .processFence, .step (.pop none)]

theorem deadlock_free_iff_idle :
    (run FenceLocks.step (.new (fun _ => true) (fun _ => true)) completeThenSecond).isSome = true ∧
    ∀ n s, run FenceLocks.step (.new (fun _ => true) (fun _ => true)) (completeThenSecond.take n) =
      some s → ¬ s.locking.Deadlocked :=
  ⟨by decide, (deadlock_free_iff (by decide)).mpr (by decide)⟩

/-- The first fence is complete on another thread, while the worker creates the second one. -/
def deadlockRun : List LockAction :=
  (parkOne ++ executeSecond).map .step ++ handlerOn (.rutabaga 0) ⟨1, 1, 0, 0⟩ 2 ++
    [.step (.createFence (.ok .okNoData))]

/-- Rutabaga calls the handler in `create_fence`. -/
def selfDeadlockRun : List LockAction :=
  (parkOne ++ executeSecond).map .step ++ handlerOn .worker ⟨1, 1, 0, 0⟩ 2

/-- **Deadlocks**: with a request parked, its completion comes while the worker is at the next one.  On
another thread, the handler waits for the queue and the worker for the table; in `create_fence`, the
worker waits for the queue that it holds. -/
theorem worker_deadlocks :
    (∃ s, run FenceLocks.step (.new (fun _ => true) (fun _ => true)) deadlockRun = some s ∧
      s.locking.WaitsOn .worker (.rutabaga 0) ∧ s.locking.WaitsOn (.rutabaga 0) .worker) ∧
    ∃ s, run FenceLocks.step (.new (fun _ => true) (fun _ => true)) selfDeadlockRun = some s ∧
      s.locking.WaitsOn .worker .worker := by
  refine ⟨⟨_, rfl, ?_, ?_⟩, ⟨_, rfl, ?_⟩⟩
  · exact ⟨.fenceState, Or.inl ⟨rfl, rfl⟩, rfl, fun h => nomatch h⟩
  · exact ⟨.queue .control, Or.inr ⟨rfl, rfl, rfl⟩, Or.inl ⟨rfl, rfl⟩⟩
  · exact ⟨.queue .control, Or.inr ⟨rfl, rfl, rfl⟩, Or.inl ⟨rfl, rfl⟩⟩

end VirtioPoc.Gpu
