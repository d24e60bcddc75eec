import VirtioPoc.Gpu.FencePlaces

/-!
# When fenced requests are released

A request with a fence is used when its fence is complete, or a later one of the
same ring.  The table has a watermark for each ring, the last completed fence.
The worker compares with it before it parks a request, so a fence that is
complete before its request is parked is not missed; the handler raises it when
it has gone through the table.  So every parked request is above the watermark
of its ring, whenever the table is not locked.

`fenced_requests_released` is about the runs in which the guest numbers its
fences upwards on each ring, and rutabaga completes them in order.
-/

namespace VirtioPoc.Gpu

open Base

/-! ### The assumptions -/

/-- If the two fences are of one ring, the first has the smaller id. -/
def RutabagaFence.Before (g f : RutabagaFence) : Prop := g.ring = f.ring → g.fenceId < f.fenceId

instance (g f : RutabagaFence) : Decidable (g.Before f) := inferInstanceAs (Decidable (_ → _))

namespace FenceSystem

/-- A request with a fence comes from the control queue, has room for a response, and is numbered
above the earlier ones of its ring. -/
def Numbered (s : FenceSystem) (chain : RequestChain) : Prop :=
  chain.fence.IsSet → s.worker = .draining .control ∧ chain.writer ≠ some 0 ∧
    1 ≤ chain.fence.fenceId ∧ ∀ r ∈ s.popped, r.fence.IsSet → r.fence.Before chain.fence

/-- Rutabaga has created the fence, and what it has completed on the same ring was created before. -/
def InOrder (s : FenceSystem) (f : RutabagaFence) : Prop :=
  f ∈ s.created ∧ ∀ g ∈ s.delivered, g.ring = f.ring → g ∈ s.created.takeWhile (· ≠ f)

/-- The control ring is enabled and started, and the step is one of those that are assumed of the
guest and of rutabaga. -/
def Assumed (s : FenceSystem) (a : FenceAction) : Prop :=
  s.lockable .control = true ∧
  match a with
  | .pop (some chain) => s.Numbered chain
  | .createFence result => ∃ response, result = .ok response
  | .fenceCompleted fence => s.InOrder fence
  | _ => True

end FenceSystem

/-! ### The worker -/

theorem Request.encode_cases (r : Request) (response : GpuResponse) :
    r.encode response = .panicked r ∨ r.encode response = .failed r ∨
    (r.fence.IsSet ∧ ∃ len, r.encode response = .processingFence r len) ∨
    (¬ r.fence.IsSet ∧ ∃ len, r.encode response = .addingUsed r len) := by
  unfold Request.encode
  split
  · exact Or.inl rfl
  · exact Or.inr (Or.inl rfl)
  · rename_i len w _
    split
    case isTrue hset => exact Or.inr (Or.inr (Or.inl ⟨hset, len, rfl⟩))
    case isFalse hset => exact Or.inr (Or.inr (Or.inr ⟨hset, len, rfl⟩))

theorem Request.execute_cases (r : Request) (result : Option GpuResponse) :
    r.execute result = .panicked r ∨
    (r.chain.writer = some 0 ∧ r.execute result = .addingUsed r 0) ∨
    ∃ response, (r.fence.IsSet ∧ r.execute result = .creatingFence r response) ∨
      (¬ r.fence.IsSet ∧ r.execute result = r.encode response) := by
  have hanswer (response : GpuResponse) (h : r.execute result = r.answer response) :
      (r.chain.writer = some 0 ∧ r.execute result = .addingUsed r 0) ∨
      ∃ response, (r.fence.IsSet ∧ r.execute result = .creatingFence r response) ∨
        (¬ r.fence.IsSet ∧ r.execute result = r.encode response) := by
    rw [h]
    unfold Request.answer
    split
    case isTrue hw => exact Or.inl ⟨hw, rfl⟩
    case isFalse =>
      split
      case isTrue hset => exact Or.inr ⟨response, Or.inl ⟨hset, rfl⟩⟩
      case isFalse hset => exact Or.inr ⟨response, Or.inr ⟨hset, rfl⟩⟩
  cases hhdr : r.chain.hdr with
  | none => exact Or.inr (hanswer .errUnspec (by simp only [Request.execute, hhdr]))
  | some hdr =>
    cases result with
    | none => exact Or.inl (by simp only [Request.execute, hhdr])
    | some response => exact Or.inr (hanswer response (by simp only [Request.execute, hhdr]))

/-- After its execution a request is not at `process_fence` yet. -/
theorem Request.execute_ne_processingFence (r : Request) (result : Option GpuResponse) (r' : Request)
    (len : UInt32) : r.execute result ≠ .processingFence r' len := by
  intro h
  rcases r.execute_cases result with he | ⟨-, he⟩ | ⟨response, ⟨-, he⟩ | ⟨hset, he⟩⟩
  · cases he.symm.trans h
  · cases he.symm.trans h
  · cases he.symm.trans h
  · rcases r.encode_cases response with hc | hc | ⟨hset', -⟩ | ⟨-, len', hc⟩
    · cases hc.symm.trans (he.symm.trans h)
    · cases hc.symm.trans (he.symm.trans h)
    · exact hset hset'
    · cases hc.symm.trans (he.symm.trans h)

/-- Only the request that was encoded goes to `process_fence`. -/
theorem Request.hand_of_encode_processingFence {r r' : Request} {response : GpuResponse} {len : UInt32}
    (h : r.encode response = .processingFence r' len) : r' = r := by
  have hhand := r.hand_encode response
  rw [h] at hhand
  exact Option.some.inj hhand

/-- What is known of the request that the worker has in hand. -/
def WorkerPc.Ordered (popped : List Request) (created : List RutabagaFence) : WorkerPc → Prop
  | .executing r => r ∈ popped ∧ (r.fence.IsSet → ∀ g ∈ created, g.Before r.fence)
  | .creatingFence r _ => r ∈ popped ∧ r.fence.IsSet ∧ ∀ g ∈ created, g.Before r.fence
  | .processingFence r _ => r ∈ popped ∧ r.fence.IsSet
  | _ => True

theorem Request.encode_ordered {popped : List Request} {created : List RutabagaFence} {r : Request}
    (hr : r ∈ popped) (response : GpuResponse) : (r.encode response).Ordered popped created := by
  rcases r.encode_cases response with h | h | ⟨hset, len, h⟩ | ⟨-, len, h⟩
  · rw [h]; trivial
  · rw [h]; trivial
  · rw [h]; exact ⟨hr, hset⟩
  · rw [h]; trivial

namespace FenceSystem

/-- The fences are created in the order of their ids. -/
structure Ordered (s : FenceSystem) : Prop where
  fenced : ∀ r ∈ s.popped, r.fence.IsSet →
    r.queue = .control ∧ r.chain.writer ≠ some 0 ∧ 1 ≤ r.fence.fenceId
  created : ∀ g ∈ s.created, ∃ r ∈ s.popped, r.fence.IsSet ∧ r.fence = g
  sorted : s.created.Pairwise RutabagaFence.Before
  worker : s.worker.Ordered s.popped s.created

theorem Ordered.pop {s : FenceSystem} (h : s.Ordered) {queue : QueueId} {chain : RequestChain}
    (hw : s.worker = .draining queue) (hok : s.Numbered chain) : (s.pop queue chain).Ordered where
  fenced r hr hset := by
    rcases List.mem_append.mp hr with hr | hr
    · exact h.fenced r hr hset
    · obtain rfl := List.mem_singleton.mp hr
      obtain ⟨hcontrol, hroom, hpos, -⟩ := hok hset
      rw [hw] at hcontrol
      cases hcontrol
      exact ⟨rfl, hroom, hpos⟩
  created g hg := by
    obtain ⟨r, hr, hrest⟩ := h.created g hg
    exact ⟨r, List.mem_append_left _ hr, hrest⟩
  sorted := h.sorted
  worker := by
    show WorkerPc.Ordered _ _ (if _ then _ else _)
    split
    · trivial
    · refine ⟨List.mem_append_right _ List.mem_cons_self, fun hset g hg => ?_⟩
      obtain ⟨r, hr, hrset, rfl⟩ := h.created g hg
      exact (hok hset).2.2.2 r hr hrset

theorem Ordered.execute {s : FenceSystem} (h : s.Ordered) {r : Request}
    (hw : s.worker = .executing r) (result : Option GpuResponse) :
    (r.execute result).Ordered s.popped s.created := by
  have hr := h.worker
  rw [hw] at hr
  rcases r.execute_cases result with he | ⟨-, he⟩ | ⟨response, ⟨hset, he⟩ | ⟨-, he⟩⟩
  · rw [he]; trivial
  · rw [he]; trivial
  · rw [he]; exact ⟨hr.1, hset, hr.2 hset⟩
  · rw [he]; exact Request.encode_ordered hr.1 response

theorem Ordered.fenceCreated {s : FenceSystem} (h : s.Ordered) {r : Request}
    {response : GpuResponse} (hw : s.worker = .creatingFence r response) :
    { s with
      created := s.created ++ [r.fence]
      worker := r.encode response : FenceSystem }.Ordered := by
  have hr := h.worker
  rw [hw] at hr
  obtain ⟨hmem, hset, hbefore⟩ := hr
  refine ⟨h.fenced, fun g hg => ?_, ?_, Request.encode_ordered hmem response⟩
  · rcases List.mem_append.mp hg with hg | hg
    · exact h.created g hg
    · obtain rfl := List.mem_singleton.mp hg
      exact ⟨r, hmem, hset, rfl⟩
  · refine List.pairwise_append.mpr ⟨h.sorted, List.pairwise_singleton _ _, fun g hg f hf => ?_⟩
    obtain rfl := List.mem_singleton.mp hf
    exact hbefore g hg

theorem Ordered.step {s t : FenceSystem} (h : s.Ordered) {a : FenceAction} (hok : s.Assumed a)
    (hstep : s.step a = some t) : t.Ordered := by
  have hkeep {t : FenceSystem} (hpopped : t.popped = s.popped) (hcreated : t.created = s.created)
      (hworker : t.worker.Ordered s.popped s.created) : t.Ordered :=
    ⟨hpopped ▸ h.fenced, by rw [hpopped, hcreated]; exact h.created, hcreated ▸ h.sorted,
      by rw [hpopped, hcreated]; exact hworker⟩
  cases transition_of_step hstep with
  | event queue hw | lockQueue queue hw => exact hkeep rfl rfl (by dsimp only; split <;> trivial)
  | pop queue chain hw => exact h.pop hw hok.2
  | leave => exact hkeep rfl rfl trivial
  | execute r result hw => exact hkeep rfl rfl (h.execute hw result)
  | fenceCreated r response ok hw => exact h.fenceCreated hw
  | fenceFailed r response e hw =>
    obtain ⟨response, he⟩ := hok.2
    cases he
  | processFence r len hw =>
    exact hkeep rfl rfl (by show WorkerPc.Ordered _ _ (if _ then _ else _); split <;> trivial)
  | workerAdded => exact hkeep rfl rfl trivial
  | workerFailed => exact hkeep rfl rfl trivial
  | _ => exact ⟨h.fenced, h.created, h.sorted, h.worker⟩

end FenceSystem

/-! ### The table -/

/-- The descriptor is for a request with a fence, and waits for that fence. -/
def FenceDescriptor.Own (d : FenceDescriptor Request) : Prop :=
  d.descIndex.fence.IsSet ∧ d.ring = d.descIndex.fence.ring ∧ d.fenceId = d.descIndex.fence.fenceId

/-- The handler goes through the table for the fence `f`, and has done the first `i` descriptors. -/
structure Scanning (table : FenceState Request) (delivered : List RutabagaFence) (f : RutabagaFence)
    (i : Nat) : Prop where
  current : f ∈ delivered
  last : ∀ g ∈ delivered, g.ring = f.ring → g.fenceId ≤ f.fenceId
  others : ∀ g ∈ delivered, g.ring ≠ f.ring → g.fenceId ≤ table.watermark g.ring
  scanned : ∀ j d, j < i → table.descs[j]? = some d → ¬ d.CompletedBy f

def HandlerPc.Watermarked (table : FenceState Request) (delivered : List RutabagaFence) :
    HandlerPc → Prop
  | .idle => ∀ g ∈ delivered, g.fenceId ≤ table.watermark g.ring
  | .scanning f i => Scanning table delivered f i
  | .tryingLock f i d | .locking f i d | .addingUsed f i d =>
    Scanning table delivered f i ∧ d.Own ∧ d.CompletedBy f
  | .panicked _ => True

namespace FenceSystem

/-- **The watermarks**: what is parked is above them, and they are ids of completed fences. -/
structure Watermarked (s : FenceSystem) : Prop where
  parked : ∀ d ∈ s.fenceState.descs, d.Own ∧ s.fenceState.watermark d.ring < d.fenceId
  completed : ∀ ring id, s.fenceState.completedFences ring = some id →
    ∃ f ∈ s.delivered, f.ring = ring ∧ f.fenceId = id
  handler : s.handler.Watermarked s.fenceState s.delivered

theorem watermark_complete (s : FenceState Request) (f : RutabagaFence) (ring : VirtioGpuRing) :
    (s.complete f).watermark ring = if ring = f.ring then f.fenceId else s.watermark ring := by
  unfold FenceState.watermark FenceState.complete
  dsimp only
  by_cases hr : ring = f.ring
  · rw [if_pos hr, hr, Function.update_self, Option.getD_some]
  · rw [if_neg hr, Function.update_of_ne hr]

/-- A request is parked only above the watermark of its ring. -/
theorem Watermarked.processFence {s : FenceSystem} (h : s.Watermarked) {r : Request}
    {len : UInt32} (hset : r.fence.IsSet) (hh : s.handler = .idle) :
    (s.processFence r len).Watermarked := by
  have hhandler := h.handler
  rw [hh] at hhandler
  unfold FenceSystem.processFence FenceState.processFence
  split
  case isTrue hgt =>
    refine ⟨fun d hd => ?_, h.completed, ?_⟩
    · rcases List.mem_append.mp hd with hd | hd
      · exact h.parked d hd
      · obtain rfl := List.mem_singleton.mp hd
        exact ⟨⟨hset, rfl, rfl⟩, hgt⟩
    · show s.handler.Watermarked _ _
      rw [hh]
      exact hhandler
  case isFalse => exact ⟨h.parked, h.completed, h.handler⟩

/-- The next completion is of a fence with a greater id than the earlier ones of its ring. -/
theorem Ordered.inOrder {s : FenceSystem} (h : s.Ordered) {f : RutabagaFence} (hf : s.InOrder f)
    {g : RutabagaFence} (hg : g ∈ s.delivered) (hring : g.ring = f.ring) :
    g.fenceId < f.fenceId := by
  obtain ⟨before, after, hcreated, hnot⟩ := List.eq_append_cons_of_mem hf.1
  have hbefore : s.created.takeWhile (· ≠ f) = before := by
    have hall : ∀ g ∈ before, decide (g ≠ f) = true := fun g hg =>
      decide_eq_true fun he => hnot (he ▸ hg)
    rw [hcreated, List.takeWhile_append_of_pos hall, List.takeWhile_cons_of_neg (by simp),
      List.append_nil]
  have hmem : g ∈ before := hbefore ▸ hf.2 g hg hring
  have hsorted := h.sorted
  rw [hcreated] at hsorted
  exact (List.pairwise_append.mp hsorted).2.2 g hmem f List.mem_cons_self hring

theorem Watermarked.fenceCompleted {s : FenceSystem} (h : s.Watermarked) {f : RutabagaFence}
    (hh : s.handler = .idle) (hlater : ∀ g ∈ s.delivered, g.ring = f.ring → g.fenceId < f.fenceId) :
    { s with
      delivered := s.delivered ++ [f]
      handler := .scanning f 0 : FenceSystem }.Watermarked := by
  have hhandler := h.handler
  rw [hh] at hhandler
  refine ⟨h.parked, fun ring id hc => ?_, ⟨?_, fun g hg hring => ?_, fun g hg hring => ?_, ?_⟩⟩
  · obtain ⟨g, hg, hrest⟩ := h.completed ring id hc
    exact ⟨g, List.mem_append_left _ hg, hrest⟩
  · exact List.mem_append_right _ List.mem_cons_self
  · rcases List.mem_append.mp hg with hg | hg
    · exact UInt64.le_of_lt (hlater g hg hring)
    · obtain rfl := List.mem_singleton.mp hg
      exact UInt64.le_refl _
  · rcases List.mem_append.mp hg with hg | hg
    · exact hhandler g hg
    · obtain rfl := List.mem_singleton.mp hg
      exact absurd rfl hring
  · exact fun j d hj => absurd hj (Nat.not_lt_zero j)

/-- At the end of the table the watermark is raised: what is left of the ring is above it. -/
theorem Watermarked.scanEnd {s : FenceSystem} (h : s.Watermarked) {f : RutabagaFence} {i : Nat}
    (hh : s.handler = .scanning f i) (hend : s.fenceState.descs[i]? = none) :
    { s with
      fenceState := s.fenceState.complete f
      handler := .idle : FenceSystem }.Watermarked := by
  have hscan := h.handler
  rw [hh] at hscan
  obtain ⟨hdelivered, hlast, hothers, hscanned⟩ := hscan
  refine ⟨fun d hd => ?_, fun ring id hc => ?_, fun g hg => ?_⟩
  · obtain ⟨hown, hlt⟩ := h.parked d hd
    refine ⟨hown, ?_⟩
    show (s.fenceState.complete f).watermark d.ring < d.fenceId
    rw [watermark_complete]
    split
    case isFalse => exact hlt
    case isTrue hring =>
      obtain ⟨j, hj, hget⟩ := List.mem_iff_getElem.mp hd
      have hji : j < i := Nat.lt_of_lt_of_le hj (List.getElem?_eq_none_iff.mp hend)
      have hnot := hscanned j d hji (List.getElem?_eq_some_iff.mpr ⟨hj, hget⟩)
      exact UInt64.not_le.mp fun hle => hnot ⟨hring, hle⟩
  · by_cases hring : ring = f.ring
    · subst hring
      have hid : some f.fenceId = some id := by
        rw [← hc]
        exact (Function.update_self f.ring (some f.fenceId) s.fenceState.completedFences).symm
      cases hid
      exact ⟨f, hdelivered, rfl, rfl⟩
    · have hid : s.fenceState.completedFences ring = some id := by
        rw [← hc]
        exact (Function.update_of_ne hring (some f.fenceId) s.fenceState.completedFences).symm
      exact h.completed ring id hid
  · show g.fenceId ≤ (s.fenceState.complete f).watermark g.ring
    rw [watermark_complete]
    split
    case isTrue hring => exact hlast g hg hring
    case isFalse hring => exact hothers g hg hring

theorem Watermarked.scanTake {s : FenceSystem} (h : s.Watermarked) {f : RutabagaFence} {i : Nat}
    {d : FenceDescriptor Request} (hh : s.handler = .scanning f i)
    (hd : s.fenceState.descs[i]? = some d) (hc : d.CompletedBy f) :
    { s with
      fenceState := s.fenceState.remove i
      handler := .tryingLock f i d : FenceSystem }.Watermarked := by
  have hscan := h.handler
  rw [hh] at hscan
  have hown : d.Own := (h.parked d (List.mem_of_getElem? hd)).1
  refine ⟨fun d' hd' => h.parked d' (List.mem_of_mem_eraseIdx hd'), h.completed,
    ⟨hscan.1, hscan.2, hscan.3, fun j d' hj hd' => ?_⟩, hown, hc⟩
  have hget : (s.fenceState.descs.eraseIdx i)[j]? = s.fenceState.descs[j]? :=
    List.getElem?_eraseIdx_of_lt hj
  exact hscan.4 j d' hj (hget ▸ hd')

theorem Watermarked.scanSkip {s : FenceSystem} (h : s.Watermarked) {f : RutabagaFence} {i : Nat}
    {d : FenceDescriptor Request} (hh : s.handler = .scanning f i)
    (hd : s.fenceState.descs[i]? = some d) (hc : ¬ d.CompletedBy f) :
    { s with handler := .scanning f (i + 1) : FenceSystem }.Watermarked := by
  have hscan := h.handler
  rw [hh] at hscan
  refine ⟨h.parked, h.completed, hscan.1, hscan.2, hscan.3, fun j d' hj hd' => ?_⟩
  rcases Nat.lt_succ_iff_lt_or_eq.mp hj with hj | rfl
  · exact hscan.4 j d' hj hd'
  · cases hd.symm.trans hd'
    exact hc

theorem Watermarked.step {s t : FenceSystem} (h : s.Watermarked) (ho : s.Ordered)
    {a : FenceAction} (hok : s.Assumed a) (hstep : s.step a = some t) : t.Watermarked := by
  have hh := h.handler
  cases transition_of_step hstep with
  | processFence r len hw hidle =>
    have hr := ho.worker
    rw [hw] at hr
    exact h.processFence hr.2 hidle
  | fenceCompleted fence hidle =>
    exact h.fenceCompleted hidle fun g hg hring => ho.inOrder hok.2 hg hring
  | scanEnd fence i ok hs hd => exact h.scanEnd hs hd
  | scanTake fence i desc ok hs hd hc => exact h.scanTake hs hd hc
  | scanSkip fence i desc ok hs hd hc => exact h.scanSkip hs hd hc
  | handlerChecks fence i desc ok hs | handlerLocks fence i desc ok hs =>
    rw [hs] at hh
    refine ⟨h.parked, h.completed, ?_⟩
    dsimp only
    split
    · exact hh
    · exact hh.1
  | handlerAdded fence i desc hs =>
    rw [hs] at hh
    exact ⟨h.parked, h.completed, hh.1⟩
  | handlerFailed fence i desc hs => exact ⟨h.parked, h.completed, trivial⟩
  | _ => exact ⟨h.parked, h.completed, hh⟩

end FenceSystem

/-! ### The used rings -/

/-- A completion of the request's fence, or of a later one of its ring, was delivered. -/
def Request.Released (r : Request) (delivered : List RutabagaFence) : Prop :=
  ∃ f ∈ delivered, f.ring = r.fence.ring ∧ r.fence.fenceId ≤ f.fenceId

theorem Request.Released.append {r : Request} {delivered : List RutabagaFence}
    (h : r.Released delivered) (f : RutabagaFence) : r.Released (delivered ++ [f]) := by
  obtain ⟨g, hg, hrest⟩ := h
  exact ⟨g, List.mem_append_left _ hg, hrest⟩

namespace FenceSystem

/-- What is used, or is about to be, was released if it has a fence. -/
structure ReleasedBefore (s : FenceSystem) : Prop where
  used : ∀ u ∈ s.used, u.request.fence.IsSet → u.request.Released s.delivered
  worker : ∀ r len, s.worker = .addingUsed r len → r.fence.IsSet → r.Released s.delivered

theorem not_addingUsed_encode {r r' : Request} {response : GpuResponse} {len : UInt32}
    (h : r.encode response = .addingUsed r' len) : ¬ r'.fence.IsSet := by
  rcases r.encode_cases response with he | he | ⟨-, _, he⟩ | ⟨hset, _, he⟩
  · cases he.symm.trans h
  · cases he.symm.trans h
  · cases he.symm.trans h
  · cases he.symm.trans h
    exact hset

/-- A request that is used at once has no fence. -/
theorem not_addingUsed_execute {r r' : Request} {result : Option GpuResponse} {len : UInt32}
    (hroom : r.fence.IsSet → r.chain.writer ≠ some 0) (h : r.execute result = .addingUsed r' len) :
    ¬ r'.fence.IsSet := by
  rcases r.execute_cases result with he | ⟨hw, he⟩ | ⟨response, ⟨-, he⟩ | ⟨-, he⟩⟩
  · cases he.symm.trans h
  · cases he.symm.trans h
    exact fun hset => hroom hset hw
  · cases he.symm.trans h
  · exact not_addingUsed_encode (he.symm.trans h)

/-- `process_fence` lets a request pass only when its fence is complete. -/
theorem Watermarked.released {s : FenceSystem} (h : s.Watermarked) {r : Request} {len : UInt32}
    (hpos : 1 ≤ r.fence.fenceId)
    (hpass : (s.fenceState.processFence r.fence.ring r.fence.fenceId r len).1 = true) :
    r.Released s.delivered := by
  unfold FenceState.processFence at hpass
  split at hpass
  · cases hpass
  · rename_i hle
    have hle : r.fence.fenceId ≤ s.fenceState.watermark r.fence.ring := UInt64.not_lt.mp hle
    unfold FenceState.watermark at hle
    cases hc : s.fenceState.completedFences r.fence.ring with
    | none =>
      rw [hc] at hle
      exact absurd (UInt64.le_trans hpos hle) (by decide)
    | some id =>
      rw [hc] at hle
      obtain ⟨f, hf, hring, rfl⟩ := h.completed _ _ hc
      exact ⟨f, hf, hring, hle⟩

theorem ReleasedBefore.addUsed {s : FenceSystem} (h : s.ReleasedBefore) {r : Request}
    (hr : r.fence.IsSet → r.Released s.delivered) (ring : QueueId) (len : UInt32) :
    ∀ u ∈ (s.addUsed ring r len).used, u.request.fence.IsSet → u.request.Released s.delivered := by
  intro u hu hset
  rcases List.mem_append.mp hu with hu | hu
  · exact h.used u hu hset
  · obtain rfl := List.mem_singleton.mp hu
    exact hr hset

theorem ReleasedBefore.step {s t : FenceSystem} (h : s.ReleasedBefore) (ho : s.Ordered)
    (hw : s.Watermarked) {a : FenceAction} (hstep : s.step a = some t) : t.ReleasedBefore := by
  have hmem := ho.worker
  cases transition_of_step hstep with
  | event queue _ | lockQueue queue _ =>
    refine ⟨h.used, fun r len he => ?_⟩
    dsimp only at he
    split at he <;> cases he
  | pop queue chain _ =>
    refine ⟨h.used, fun r len he => ?_⟩
    unfold FenceSystem.pop at he
    dsimp only at he
    split at he <;> cases he
  | leave => exact ⟨h.used, fun r len he => nomatch he⟩
  | execute r result hpc =>
    rw [hpc] at hmem
    have hroom (hset : r.fence.IsSet) := (ho.fenced r hmem.1 hset).2.1
    exact ⟨h.used, fun r' len he hset => absurd hset (not_addingUsed_execute hroom he)⟩
  | fenceCreated | fenceFailed =>
    exact ⟨h.used, fun r' len he hset => absurd hset (not_addingUsed_encode he)⟩
  | processFence r len hpc =>
    rw [hpc] at hmem
    refine ⟨h.used, fun r' len' he _ => ?_⟩
    unfold FenceSystem.processFence at he
    dsimp only at he
    split at he
    case isTrue hpass =>
      cases he
      exact hw.released (ho.fenced r hmem.1 hmem.2).2.2 hpass
    case isFalse => cases he
  | workerAdded r len hpc =>
    exact ⟨h.addUsed (h.worker r len hpc) r.queue len, fun r' len' he => nomatch he⟩
  | workerFailed => exact ⟨h.used, fun r len he => nomatch he⟩
  | fenceCompleted fence =>
    exact ⟨fun u hu hset => (h.used u hu hset).append fence,
      fun r len he hset => (h.worker r len he hset).append fence⟩
  | handlerAdded fence i desc hpc =>
    have hh := hw.handler
    rw [hpc] at hh
    obtain ⟨hscan, hown, hc⟩ := hh
    have hr : desc.descIndex.Released s.delivered :=
      ⟨fence, hscan.current, (hown.2.1.symm.trans hc.1).symm, hown.2.2 ▸ hc.2⟩
    exact ⟨h.addUsed (fun _ => hr) .control desc.len, h.worker⟩
  | _ => exact ⟨h.used, h.worker⟩

/-- All of it holds from the start, and is kept. -/
theorem reaches_assumed {enabled ready : QueueId → Bool} {s : FenceSystem}
    (hr : Reaches step Assumed (.new enabled ready) s) :
    s.Placed ∧ s.Ordered ∧ s.Watermarked ∧ s.ReleasedBefore := by
  refine hr.invariant (I := fun s => s.Placed ∧ s.Ordered ∧ s.Watermarked ∧ s.ReleasedBefore)
    ⟨placed_new enabled ready, ?_, ?_, ?_⟩ ?_
  · exact ⟨fun _ hr => absurd hr List.not_mem_nil, fun _ hg => absurd hg List.not_mem_nil,
      List.Pairwise.nil, trivial⟩
  · exact ⟨fun _ hd => absurd hd List.not_mem_nil, nofun, fun _ hg => absurd hg List.not_mem_nil⟩
  · exact ⟨fun _ hu => absurd hu List.not_mem_nil, nofun⟩
  · rintro s a t ⟨hp, ho, hw, hb⟩ hok hstep
    have hup : s.RingUp := by
      have henabled : s.enabled .control = true := (Bool.and_eq_true _ _ ▸ hok.1).1
      unfold RingUp
      split
      · exact henabled
      · exact hok.1
      · trivial
    exact ⟨hp.step (fun _ _ => hup) hstep, ho.step hok hstep, hw.step ho hok hstep,
      hb.step ho hw hstep⟩

end FenceSystem

/-- **Fenced requests are released neither early nor late.**  In a run in which the guest numbers its
fences upwards, and rutabaga completes them in order: what is used was released; when the table is
not locked, what is parked was not; and a request is used at most once, and once if it was released
and no thread has it in hand. -/
theorem fenced_requests_released {enabled ready : QueueId → Bool} {s : FenceSystem}
    (hr : Reaches FenceSystem.step FenceSystem.Assumed (.new enabled ready) s) :
    (∀ u ∈ s.used, u.request.fence.IsSet → u.request.Released s.delivered) ∧
    (s.handler = .idle → ∀ d ∈ s.fenceState.descs, ∀ f ∈ s.delivered, f.ring = d.ring →
      ¬ d.fenceId ≤ f.fenceId) ∧
    ∀ r ∈ s.popped, r.fence.IsSet → (s.used.map (·.request)).count r ≤ 1 ∧
      (s.worker.hand ≠ some r → s.handler = .idle → r.Released s.delivered →
        (s.usedOn .control).count r = 1) := by
  obtain ⟨hp, ho, hw, hb⟩ := FenceSystem.reaches_assumed hr
  have habove (hidle : s.handler = .idle) : ∀ d ∈ s.fenceState.descs, ∀ f ∈ s.delivered,
      f.ring = d.ring → ¬ d.fenceId ≤ f.fenceId := by
    intro d hd f hf hring hle
    have hh := hw.handler
    rw [hidle] at hh
    have hwater : f.fenceId ≤ s.fenceState.watermark d.ring := hring ▸ hh f hf
    exact absurd (UInt64.lt_of_le_of_lt (UInt64.le_trans hle hwater) (hw.parked d hd).2)
      (UInt64.lt_irrefl _)
  refine ⟨hb.used, habove, fun r hpop hset => ?_⟩
  have hcount := hp.count r
  rw [FenceSystem.count_places, List.count_eq_one_of_mem hp.nodup hpop] at hcount
  refine ⟨by omega, fun hhand hidle hreleased => ?_⟩
  have hparked : s.parked.count r = 0 := by
    refine List.count_eq_zero.mpr fun hmem => ?_
    obtain ⟨d, hd, rfl⟩ := List.mem_map.mp hmem
    obtain ⟨f, hf, hring, hle⟩ := hreleased
    obtain ⟨-, hdring, hdid⟩ := (hw.parked d hd).1
    exact habove hidle d hd f hf (hring.trans hdring.symm) (hdid ▸ hle)
  have hworker : s.worker.hand.toList.count r = 0 := by
    refine List.count_eq_zero.mpr fun hmem => hhand ?_
    exact Option.mem_toList.mp hmem
  rw [FenceSystem.count_usedOn_control hp (ho.fenced r hpop hset).1]
  rw [hidle, hparked, hworker] at hcount
  simp only [HandlerPc.hand, Option.toList_none, List.count_nil] at hcount
  omega

/-! ### A completion before its request is parked -/

namespace FenceSystem

instance (s : FenceSystem) (a : FenceAction) : Decidable (s.Assumed a) := by
  unfold Assumed Numbered InOrder
  have {ε α : Type} : (x : Except ε α) → Decidable (∃ a, x = .ok a)
    | .ok a => .isTrue ⟨a, rfl⟩
    | .error _ => .isFalse fun h => nomatch h
  cases a with
  | pop chain => cases chain <;> infer_instance
  | createFence | fenceCompleted => infer_instance
  | _ => infer_instance

end FenceSystem

/-- The fence is complete when the worker has created it, but not yet asked for it. -/
def raceOne : List FenceAction :=
  [.event .control, .lockQueue, .pop (some fencedChain), .execute (some .okNoData),
    .createFence (.ok .okNoData), .fenceCompleted ⟨1, 1, 0, 0⟩, .handlerStep true, .processFence,
    .addUsed true, .pop none]

theorem fenced_requests_released_race : ∃ s, run FenceSystem.step bothUp raceOne = some s ∧
    fencedRequest ∈ s.popped ∧ s.fenceState.descs = [] ∧
    (s.usedOn .control).count fencedRequest = 1 := by
  have halong : Along FenceSystem.step FenceSystem.Assumed bothUp raceOne := by decide
  have hrun : (run FenceSystem.step bothUp raceOne).isSome := rfl
  obtain ⟨s, hs⟩ := Option.isSome_iff_exists.mp hrun
  have hreleased : fencedRequest ∈ s.popped ∧ s.fenceState.descs = [] ∧ s.worker.hand = none ∧
      s.handler = .idle ∧ fencedRequest.Released s.delivered := by
    cases hs
    exact ⟨List.mem_cons_self, rfl, rfl, rfl, ⟨1, 1, 0, 0⟩, List.mem_cons_self, rfl, by decide⟩
  obtain ⟨hpop, hdescs, hhand, hidle, hrel⟩ := hreleased
  obtain ⟨-, -, honce⟩ := fenced_requests_released (reaches_of_run raceOne bothUp hs halong)
  have hset : fencedRequest.fence.IsSet := by decide
  refine ⟨s, hs, hpop, hdescs, (honce fencedRequest hpop hset).2 ?_ hidle hrel⟩
  rw [hhand]
  exact nofun

end VirtioPoc.Gpu
