import VirtioPoc.Base.Scan
import VirtioPoc.Gpu.FenceSystem

/-!
# The scan of the fence handler

The closure of `create_fence_handler` in one piece, with the vring as a
parameter: the table of fences is scanned in place, the descriptors that the
completion releases go to the used ring, and the others stay.

`handler_runs_fenceHandler` says that the handler of `FenceSystem`, left alone
with a vring that it can lock, does just that.
-/

namespace VirtioPoc.Gpu

open Base

/-! ### The handler in one piece -/

/-- The vring as the handler uses it, on a state of its own.  `α` are the head indices of the queue;
`none` is an error of `add_used` or of the notification, which the handler unwraps. -/
structure HandlerQueue (α τ : Type) where
  tryLockQueue : τ → Bool
  addUsed : α → UInt32 → τ → Option τ
  signalUsedQueue : τ → Option τ

variable {α τ : Type}

/-- **What is assumed of the vring**: while it can be locked, `add_used` puts the element at the end
of the used ring, the notification leaves the ring alone, and the vring can be locked again. -/
structure HandlerQueue.Lawful (queue : HandlerQueue α τ) (used : τ → List (α × UInt32))
    (Lockable : τ → Prop) : Prop where
  lock : ∀ q, Lockable q → queue.tryLockQueue q = true
  addUsed : ∀ q descIndex len, Lockable q → ∃ t, queue.addUsed descIndex len q = some t ∧
    Lockable t ∧ used t = used q ++ [(descIndex, len)]
  signal : ∀ q, Lockable q → ∃ t, queue.signalUsedQueue q = some t ∧ Lockable t ∧ used t = used q

/-- What the loop does with a descriptor that it has removed. -/
def HandlerQueue.release (queue : HandlerQueue α τ) (q : τ) (desc : FenceDescriptor α) : Option τ :=
  if queue.tryLockQueue q then
    (queue.addUsed desc.descIndex desc.len q).bind queue.signalUsedQueue
  else some q

/-- The closure that `create_fence_handler` makes; `none` is a panic. -/
def fenceHandler (queue : HandlerQueue α τ) (s : FenceState α) (completedFence : RutabagaFence)
    (q : τ) : Option (FenceState α × τ) :=
  (scanLoop (fun desc => decide (desc.CompletedBy completedFence)) queue.release s.descs 0 q).map
    fun r => ({ s with descs := r.1 }.complete completedFence, r.2)

theorem FenceState.completedFences_complete (s : FenceState α) (f : RutabagaFence) :
    (s.complete f).completedFences f.ring = some f.fenceId ∧
      ∀ ring, ring ≠ f.ring → (s.complete f).completedFences ring = s.completedFences ring :=
  ⟨Function.update_self .., fun _ hring => Function.update_of_ne hring ..⟩

/-- A removed descriptor goes to the used ring, as it is. -/
theorem HandlerQueue.Lawful.release {queue : HandlerQueue α τ} {used : τ → List (α × UInt32)}
    {Lockable : τ → Prop} (h : queue.Lawful used Lockable) (desc : FenceDescriptor α) (q : τ)
    (hq : Lockable q) : ∃ t, queue.release q desc = some t ∧ Lockable t ∧
      used t = used q ++ [(desc.descIndex, desc.len)] := by
  obtain ⟨r, hadd, hr, hused⟩ := h.addUsed q desc.descIndex desc.len hq
  obtain ⟨t, hsignal, ht, hsame⟩ := h.signal r hr
  refine ⟨t, ?_, ht, hsame.trans hused⟩
  rw [HandlerQueue.release, h.lock q hq, if_pos rfl, hadd]
  exact hsignal

/-- **The scan is a stable partition.**  Whatever is in the table, the handler returns; it has added
to the used ring the descriptors that the completion releases, with their index and length and in
their order, and left the others in the table in theirs; and the completion is noted for its ring and
for no other. -/
theorem fenceHandler_partitions {queue : HandlerQueue α τ} {used : τ → List (α × UInt32)}
    {Lockable : τ → Prop} (h : queue.Lawful used Lockable) (s : FenceState α) (f : RutabagaFence)
    (q : τ) (hq : Lockable q) : ∃ s' q', fenceHandler queue s f q = some (s', q') ∧
      used q' = used q ++ (s.descs.filter fun d => d.CompletedBy f).map
        (fun d => (d.descIndex, d.len)) ∧
      s'.descs = s.descs.filter (fun d => ¬ d.CompletedBy f) ∧
      s'.completedFences f.ring = some f.fenceId ∧
      ∀ ring, ring ≠ f.ring → s'.completedFences ring = s.completedFences ring := by
  obtain ⟨q', hfold, -, hused⟩ := foldlM_record (fun desc q => h.release desc q)
    (s.descs.filter fun d => d.CompletedBy f) q hq
  let left : FenceState α := { s with descs := s.descs.filter fun d => ¬ d.CompletedBy f }
  refine ⟨left.complete f, q', ?_, hused, rfl, left.completedFences_complete f⟩
  rw [fenceHandler, scanLoop_zero, hfold]
  simp [left]

/-- A queue of 256 heads with the used ring as its state. -/
theorem fenceHandler_partitions_three :
    let queue : HandlerQueue (Fin 256) (List (Fin 256 × UInt32)) :=
      ⟨fun _ => true, fun i len used => some (used ++ [(i, len)]), some⟩
    let s : FenceState (Fin 256) :=
      ⟨[⟨.global, 1, 7, 24⟩, ⟨.global, 3, 8, 24⟩, ⟨.global, 2, 9, 24⟩], fun _ => none⟩
    ∃ s' used, fenceHandler queue s ⟨0, 2, 0, 0⟩ [] = some (s', used) ∧
      used = [(7, 24), (9, 24)] ∧ s'.descs = [⟨.global, 3, 8, 24⟩] := by
  intro queue s
  have hqueue : queue.Lawful id fun _ => True :=
    ⟨fun _ _ => rfl, fun _ _ _ _ => ⟨_, rfl, trivial, rfl⟩, fun q _ => ⟨q, rfl, trivial, rfl⟩⟩
  obtain ⟨s', used, hrun, hused, hdescs, -⟩ :=
    fenceHandler_partitions hqueue s ⟨0, 2, 0, 0⟩ [] trivial
  exact ⟨s', used, hrun, hused, hdescs⟩

/-! ### The handler of the system -/

namespace FenceSystem

/-- The control queue as the handler of the system leaves it: always locked, and never failing. -/
def controlQueue : HandlerQueue Request (List UsedElem) where
  tryLockQueue _ := true
  addUsed r len used := some (used ++ [⟨.control, r, len⟩])
  signalUsedQueue := some

/-- The handler can lock the control queue, and nobody has it. -/
structure ControlLockable (s : FenceSystem) : Prop where
  lockable : s.lockable .control = true
  free : s.worker.guard ≠ some .control

variable {s : FenceSystem} {f : RutabagaFence} {i : Nat} {desc : FenceDescriptor Request}

/-- The descriptor at the index is released in four steps. -/
theorem run_scanTake (h : s.ControlLockable) (hh : s.handler = .scanning f i)
    (hd : s.fenceState.descs[i]? = some desc) (hc : desc.CompletedBy f) :
    run step s (List.replicate 4 (.handlerStep true)) = some { s with
      fenceState := s.fenceState.remove i
      used := s.used ++ [⟨.control, desc.descIndex, desc.len⟩] } := by
  obtain ⟨henabled, hready⟩ := Bool.and_eq_true_iff.mp h.lockable
  have hfree := h.free
  simp [run, step, handlerStep, hh, hd, hc, henabled, hready, hfree, lockable, addUsed]

theorem run_scanSkip (hh : s.handler = .scanning f i) (hd : s.fenceState.descs[i]? = some desc)
    (hc : ¬ desc.CompletedBy f) : run step s (List.replicate 1 (.handlerStep true)) =
      some { s with handler := .scanning f (i + 1) } := by
  simp [run, step, handlerStep, hh, hd, hc]

theorem run_scanEnd (hh : s.handler = .scanning f i) (hd : s.fenceState.descs[i]? = none) :
    run step s (List.replicate 1 (.handlerStep true)) =
      some { s with fenceState := s.fenceState.complete f, handler := .idle } := by
  simp [run, step, handlerStep, hh, hd]

/-- What the handler of the system has done when it is back to waiting. -/
def handled (s : FenceSystem) (f : RutabagaFence)
    (r : List (FenceDescriptor Request) × List UsedElem) : FenceSystem :=
  { s with
    fenceState := { s.fenceState with descs := r.1 }.complete f
    used := r.2
    handler := .idle }

/-- From any index on, the steps of the handler are the rounds of the loop. -/
theorem run_scanLoop (xs : List (FenceDescriptor Request)) (i : Nat) (u : List UsedElem) :
    ∀ s : FenceSystem, s.ControlLockable → s.handler = .scanning f i → s.fenceState.descs = xs →
      s.used = u → ∃ k, run step s (List.replicate k (.handlerStep true)) =
        (scanLoop (fun desc => decide (desc.CompletedBy f)) controlQueue.release xs i u).map
          (s.handled f) := by
  have hrelease (u : List UsedElem) (desc : FenceDescriptor Request) :
      controlQueue.release u desc = some (u ++ [⟨.control, desc.descIndex, desc.len⟩]) := rfl
  induction xs, i, u using scanLoop.induct (fun desc => decide (desc.CompletedBy f))
    controlQueue.release with
  | case1 xs i u hi hc hnone =>
    rw [hrelease] at hnone
    cases hnone
  | case2 xs i u hi hc t ht ih =>
    intro s h hh hd hu
    have hget : s.fenceState.descs[i]? = some (xs.get ⟨i, hi⟩) := by simp [hd]
    have hfirst := run_scanTake h hh hget (of_decide_eq_true hc)
    rw [hrelease] at ht
    obtain rfl := Option.some.inj ht
    obtain ⟨k, hk⟩ := ih { s with
      fenceState := s.fenceState.remove i
      used := s.used ++ [⟨.control, (xs.get ⟨i, hi⟩).descIndex, (xs.get ⟨i, hi⟩).len⟩] }
      ⟨h.lockable, h.free⟩ hh (congrArg (List.eraseIdx · i) hd) (congrArg (· ++ _) hu)
    refine ⟨4 + k, ?_⟩
    rw [List.replicate_add, run_append, hfirst, scanLoop, dif_pos hi, if_pos hc, hrelease]
    exact hk
  | case3 xs i u hi hc ih =>
    intro s h hh hd hu
    have hget : s.fenceState.descs[i]? = some (xs.get ⟨i, hi⟩) := by simp [hd]
    have hfirst := run_scanSkip hh hget (by simpa using hc)
    obtain ⟨k, hk⟩ := ih { s with handler := .scanning f (i + 1) } ⟨h.lockable, h.free⟩ rfl hd hu
    refine ⟨1 + k, ?_⟩
    rw [List.replicate_add, run_append, hfirst, scanLoop, dif_pos hi, if_neg hc]
    exact hk
  | case4 xs i u hi =>
    intro s h hh hd hu
    have hget : s.fenceState.descs[i]? = none := by
      rw [hd]
      exact List.getElem?_eq_none (Nat.le_of_not_lt hi)
    refine ⟨1, ?_⟩
    rw [run_scanEnd hh hget, scanLoop, dif_neg hi]
    subst hd hu
    rfl

/-- **The handler of the system is the handler in one piece**, while it can lock the control queue
and no one else steps. -/
theorem handler_runs_fenceHandler (h : s.ControlLockable) (hh : s.handler = .scanning f 0) :
    ∃ k, run step s (List.replicate k (.handlerStep true)) =
      (fenceHandler controlQueue s.fenceState f s.used).map fun r =>
        { s with fenceState := r.1, used := r.2, handler := .idle } := by
  obtain ⟨k, hk⟩ := run_scanLoop s.fenceState.descs 0 s.used s h hh rfl rfl
  refine ⟨k, hk.trans ?_⟩
  rw [fenceHandler, Option.map_map]
  rfl

end FenceSystem

end VirtioPoc.Gpu
