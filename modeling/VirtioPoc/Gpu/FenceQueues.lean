import VirtioPoc.Gpu.FencePlaces
import Mathlib.Data.List.Perm.Subperm

/-!
# The queue that a chain is completed on

The fence handler is created once, with the control queue, and a descriptor of
the table has only a head index.  So whatever was parked is completed on the
control ring, also a request that the worker took from the cursor queue.

`completed_on_own_queue` is about the runs in which the worker parks no request
of the cursor queue.  In these `heads_in_one_place` says of the head indices what
`request_in_one_place` says of the requests.
-/

namespace VirtioPoc.Gpu

open Base

namespace FenceSystem

/-- The worker does not park a request of the cursor queue: the fence of such a request is complete
when `process_fence` is asked for it. -/
def ParksNoCursor (s : FenceSystem) : FenceAction → Prop
  | .processFence =>
    match s.worker with
    | .processingFence r _ =>
      r.queue = .cursor → r.fence.fenceId ≤ s.fenceState.watermark r.fence.ring
    | _ => True
  | _ => True

/-- What waits for a fence, or is in the hand of the fence handler, is of the control queue, and so
is what the handler has used. -/
structure WaitsOnControl (s : FenceSystem) : Prop where
  parked : ∀ r ∈ s.parked, r.queue = .control
  handler : ∀ r, s.handler.hand = some r → r.queue = .control
  used : ∀ u ∈ s.used, u.ring = u.request.queue

theorem waitsOnControl_new (enabled ready : QueueId → Bool) : (new enabled ready).WaitsOnControl :=
  ⟨fun _ hr => absurd hr List.not_mem_nil, nofun, fun _ hu => absurd hu List.not_mem_nil⟩

theorem WaitsOnControl.processFence {s : FenceSystem} (h : s.WaitsOnControl) {r : Request}
    {len : UInt32} (hw : s.worker = .processingFence r len) (hok : s.ParksNoCursor .processFence) :
    (s.processFence r len).WaitsOnControl := by
  refine ⟨fun r' hr' => ?_, h.handler, h.used⟩
  have hwater : r.queue = .cursor → r.fence.fenceId ≤ s.fenceState.watermark r.fence.ring := by
    simpa only [ParksNoCursor, hw] using hok
  unfold FenceSystem.processFence FenceState.processFence at hr'
  split at hr'
  · rename_i hlt
    change r' ∈ List.map _ (s.fenceState.descs ++ _) at hr'
    rw [List.map_append] at hr'
    rcases List.mem_append.mp hr' with hr' | hr'
    · exact h.parked r' hr'
    · obtain rfl := List.mem_singleton.mp hr'
      cases hq : r'.queue with
      | control => rfl
      | cursor => exact absurd hlt (UInt64.not_lt.mpr (hwater hq))
  · exact h.parked r' hr'

theorem WaitsOnControl.step {s t : FenceSystem} (h : s.WaitsOnControl) {a : FenceAction}
    (hok : s.ParksNoCursor a) (hstep : s.step a = some t) : t.WaitsOnControl := by
  have hhand := h.handler
  cases transition_of_step hstep with
  | processFence r len hw => exact h.processFence hw hok
  | fenceCompleted => exact ⟨h.parked, nofun, h.used⟩
  | scanEnd => exact ⟨h.parked, nofun, h.used⟩
  | scanTake fence i desc ok hh hd =>
    refine ⟨fun r hr => ?_, fun r hr => ?_, h.used⟩
    · obtain ⟨d, hd', rfl⟩ := List.mem_map.mp hr
      exact h.parked _ (List.mem_map_of_mem (List.mem_of_mem_eraseIdx hd'))
    · cases hr
      exact h.parked _ (List.mem_map_of_mem (List.mem_of_getElem? hd))
  | scanSkip => exact ⟨h.parked, nofun, h.used⟩
  | handlerChecks fence i desc ok hh | handlerLocks fence i desc ok hh =>
    rw [hh] at hhand
    refine ⟨h.parked, fun r hr => ?_, h.used⟩
    dsimp only at hr
    split at hr
    · exact hhand r hr
    · cases hr
  | workerAdded r len =>
    refine ⟨h.parked, h.handler, fun u hu => ?_⟩
    rcases List.mem_append.mp hu with hu | hu
    · exact h.used u hu
    · obtain rfl := List.mem_singleton.mp hu
      rfl
  | handlerAdded fence i desc hh =>
    rw [hh] at hhand
    refine ⟨h.parked, nofun, fun u hu => ?_⟩
    rcases List.mem_append.mp hu with hu | hu
    · exact h.used u hu
    · obtain rfl := List.mem_singleton.mp hu
      exact (hhand _ rfl).symm
  | handlerFailed fence i desc hh =>
    rw [hh] at hhand
    exact ⟨h.parked, hhand, h.used⟩
  | _ => exact ⟨h.parked, h.handler, h.used⟩

/-- No request is in more places than it was popped. -/
structure Bounded (s : FenceSystem) : Prop extends s.Distinct where
  count : ∀ r, s.places.count r ≤ s.popped.count r

theorem Bounded.step {s t : FenceSystem} (h : s.Bounded) {a : FenceAction}
    (hstep : s.step a = some t) : t.Bounded where
  toDistinct := h.toDistinct.step hstep
  count r := by
    have hcount := count_step hstep r
    have hle := h.count r
    omega

theorem bounded_new (enabled ready : QueueId → Bool) : (new enabled ready).Bounded :=
  ⟨⟨fun _ hr => absurd hr List.not_mem_nil, List.nodup_nil⟩, fun _ => Nat.le_refl 0⟩

/-- A request that was used was popped, and is used once. -/
theorem Bounded.used_once {s : FenceSystem} (h : s.Bounded) {u : UsedElem} (hu : u ∈ s.used) :
    u.request ∈ s.popped ∧ (s.used.map (·.request)).count u.request = 1 := by
  have hle := h.count u.request
  rw [count_places] at hle
  have hused : 0 < (s.used.map (·.request)).count u.request :=
    List.count_pos_iff.mpr (List.mem_map.mpr ⟨u, hu, rfl⟩)
  have hpopped := List.nodup_iff_count_le_one.mp h.nodup u.request
  exact ⟨List.count_pos_iff.mp (by omega), by omega⟩

/-- The head indices of the elements of a used ring. -/
def usedHeads (s : FenceSystem) (queue : QueueId) : List UInt16 :=
  (s.usedOn queue).map (·.chain.headIndex)

/-- The head indices of the chains that were popped from a queue. -/
def poppedHeads (s : FenceSystem) (queue : QueueId) : List UInt16 :=
  (s.popped.filter (·.queue = queue)).map (·.chain.headIndex)

/-- Where every chain is used on its own queue, no head index is used more often on a ring than it
was popped there. -/
theorem usedHeads_le {s : FenceSystem} (hb : s.Bounded)
    (hown : ∀ u ∈ s.used, u.ring = u.request.queue) (queue : QueueId) (head : UInt16) :
    (s.usedHeads queue).count head ≤ (s.poppedHeads queue).count head := by
  have hnodup : (s.used.map (·.request)).Nodup := by
    refine List.nodup_iff_count_le_one.mpr fun r => ?_
    have hle := hb.count r
    rw [count_places] at hle
    have hpopped := List.nodup_iff_count_le_one.mp hb.nodup r
    omega
  have hsub : (s.usedOn queue) ⊆ s.popped.filter (·.queue = queue) := by
    intro r hr
    obtain ⟨u, hu, rfl⟩ := List.mem_map.mp hr
    obtain ⟨hu, hring⟩ := List.mem_filter.mp hu
    refine List.mem_filter.mpr ⟨(hb.used_once hu).1, ?_⟩
    rw [← hown u hu]
    exact hring
  have honce : (s.usedOn queue).Nodup := hnodup.sublist (List.filter_sublist.map _)
  obtain ⟨l, hperm, hsublist⟩ := honce.subperm hsub
  rw [usedHeads, ← (hperm.map _).count_eq]
  exact (hsublist.map _).count_le head

/-- Where what waits or is used on the control ring is of the control queue, the requests of this queue
are the ones that are used there or parked. -/
theorem control_perm {s : FenceSystem} (h : s.Placed) (hw : s.WaitsOnControl) (hrest : s.AtRest)
    (hlives : ∀ desc, s.handler ≠ .panicked desc) :
    (s.usedOn .control ++ s.parked).Perm (s.popped.filter (·.queue = .control)) := by
  refine List.perm_iff_count.mpr fun r => ?_
  rw [List.count_append]
  by_cases hr : r.queue = .control
  · rw [count_usedOn_control h hr, h.atRest hrest hlives r, List.count_filter]
    simpa using hr
  · have hused : (s.usedOn .control).count r = 0 := by
      refine List.count_eq_zero.mpr fun hmem => ?_
      obtain ⟨u, hu, rfl⟩ := List.mem_map.mp hmem
      obtain ⟨hu, hring⟩ := List.mem_filter.mp hu
      exact hr ((hw.used u hu).symm.trans (of_decide_eq_true hring))
    have hparked : s.parked.count r = 0 := List.count_eq_zero.mpr fun hmem => hr (hw.parked r hmem)
    have hpopped : (s.popped.filter (·.queue = .control)).count r = 0 :=
      List.count_eq_zero.mpr fun hmem => hr (of_decide_eq_true (List.mem_filter.mp hmem).2)
    rw [hused, hparked, hpopped]

end FenceSystem

/-- **No head index is lost or answered twice**, where moreover the worker parks no request of the cursor
queue: between two requests, a head index is in the used ring of the control queue or in the table as
often as it was popped. -/
theorem heads_in_one_place {enabled ready : QueueId → Bool} {s : FenceSystem}
    (hr : Reaches FenceSystem.step (fun s a => s.QueueAvailable a ∧ s.ParksNoCursor a)
      (.new enabled ready) s) (hrest : s.AtRest) (head : UInt16) :
    (s.usedHeads .control).count head + (s.parked.map (·.chain.headIndex)).count head =
      (s.poppedHeads .control).count head := by
  obtain ⟨h, hlives⟩ := FenceSystem.placed_of_queueAvailable hr fun _ _ => And.left
  have hw : s.WaitsOnControl := hr.invariant (FenceSystem.waitsOnControl_new enabled ready)
    fun _ _ _ h hok hstep => h.step hok.2 hstep
  have hperm := (FenceSystem.control_perm h hw hrest hlives).map (·.chain.headIndex)
  rw [List.map_append] at hperm
  rw [← List.count_append]
  exact hperm.count_eq head

/-- **A chain is completed on the queue that it came from**, in a run in which the worker parks no
request of the cursor queue: each element of a used ring is for a request that was popped from that
queue, and for no other element; so no head index is used more often on a ring than it was popped
there. -/
theorem completed_on_own_queue {enabled ready : QueueId → Bool} {s : FenceSystem}
    (hr : Reaches FenceSystem.step FenceSystem.ParksNoCursor (.new enabled ready) s) :
    (∀ u ∈ s.used, u.ring = u.request.queue ∧ u.request ∈ s.popped ∧
      (s.used.map (·.request)).count u.request = 1) ∧
    ∀ queue head, (s.usedHeads queue).count head ≤ (s.poppedHeads queue).count head := by
  have hb : s.Bounded := hr.invariant (FenceSystem.bounded_new enabled ready)
    fun _ _ _ h _ hstep => h.step hstep
  have hw : s.WaitsOnControl := hr.invariant (FenceSystem.waitsOnControl_new enabled ready)
    fun _ _ _ h hok hstep => h.step hok hstep
  exact ⟨fun u hu => ⟨hw.used u hu, hb.used_once hu⟩, FenceSystem.usedHeads_le hb hw.used⟩

/-! ### A cursor request with a fence -/

instance (s : FenceSystem) (a : FenceAction) : Decidable (s.ParksNoCursor a) := by
  unfold FenceSystem.ParksNoCursor
  split
  · split <;> infer_instance
  · infer_instance

theorem completed_on_own_queue_control : ∃ s,
    run FenceSystem.step bothUp (parkOne ++ completeOne 5) = some s ∧ s.used.length = 1 ∧
    (∀ u ∈ s.used, u.ring = u.request.queue ∧ u.request ∈ s.popped ∧
      (s.used.map (·.request)).count u.request = 1) ∧
    ∀ queue head, (s.usedHeads queue).count head ≤ (s.poppedHeads queue).count head := by
  have halong : Along FenceSystem.step FenceSystem.ParksNoCursor bothUp
      (parkOne ++ completeOne 5) := by decide
  have hrun : (run FenceSystem.step bothUp (parkOne ++ completeOne 5)).isSome := rfl
  obtain ⟨s, hs⟩ := Option.isSome_iff_exists.mp hrun
  have hlength : s.used.length = 1 := by
    cases hs
    rfl
  exact ⟨s, hs, hlength, completed_on_own_queue (reaches_of_run _ _ hs halong)⟩

/-- A `MOVE_CURSOR` with fence 1 on the global ring. -/
def cursorChain : RequestChain where
  headIndex := 5
  reader := some ([0x01, 0x03, 0, 0, 1, 0, 0, 0, 1] ++ List.replicate 47 0)
  writer := some 24

/-- The request is popped from the cursor queue, and parked; then its fence is complete. -/
def parkCursor : List FenceAction :=
  [.event .cursor, .lockQueue, .pop (some cursorChain), .execute (some .okNoData),
    .createFence (.ok .okNoData), .processFence, .pop none] ++ completeOne 4

/-- **The wrong ring**: the cursor request is used on the control ring, from which no chain was
popped. -/
theorem completed_on_other_queue : ∃ s, run FenceSystem.step bothUp parkCursor = some s ∧
    Reaches FenceSystem.step (fun _ _ => True) bothUp s ∧
    (∃ u ∈ s.used, u.ring = .control ∧ u.request.queue = .cursor) ∧
    s.usedHeads .control = [5] ∧ s.poppedHeads .control = [] :=
  ⟨_, rfl, reaches_of_run_any parkCursor rfl, ⟨_, List.mem_cons_self, rfl, rfl⟩, rfl, rfl⟩

end VirtioPoc.Gpu
