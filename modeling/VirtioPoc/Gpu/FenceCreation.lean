import VirtioPoc.Gpu.FenceOrder

/-!
# Fences that could not be created

When `create_fence` fails, its error becomes the response of the request.  But
the flags of the request stay as they are, and it is still parked, unless the id
of its fence is below the watermark of its ring.  Such a request waits for a
fence that does not exist.

`parked_fence_created` is about the runs in which this does not happen.
-/

namespace VirtioPoc.Gpu

open Base

/-- The request that `process_queue_chain` is working on: it has not returned, or it has panicked. -/
def WorkerPc.working : WorkerPc → Option Request
  | .executing r | .creatingFence r _ | .processingFence r _ | .addingUsed r _ | .panicked r =>
    some r
  | .idle | .locking _ | .draining _ | .failed _ => none

/-- The request whose response was encoded. -/
def WorkerPc.encoded : WorkerPc → Option Request
  | .processingFence r _ | .addingUsed r _ | .panicked r => some r
  | .idle | .locking _ | .draining _ | .executing _ | .creatingFence .. | .failed _ => none

theorem WorkerPc.working_of_encoded {w : WorkerPc} {r : Request} (h : w.encoded = some r) :
    w.working = some r := by
  cases w with
  | processingFence | addingUsed | panicked => exact h
  | _ => cases h

namespace Request

/-- What `encode` does with a response to the request. -/
def encoding (r : Request) (response : GpuResponse) :
    Option (Except GpuResponseEncodeError (UInt32 × Writer)) :=
  response.encode r.fence.flags r.fence.fenceId r.fence.ctxId r.fence.ringIdx
    ⟨r.chain.writer.getD 0, []⟩

/-- The response can be encoded in the writable bytes of the chain. -/
def Fits (r : Request) (response : GpuResponse) : Prop :=
  ∀ e, r.encoding response ≠ some (.error e)

/-- The response was encoded with this length. -/
def EncodedWith (r : Request) (response : GpuResponse) (len : UInt32) : Prop :=
  ∃ w, r.encoding response = some (.ok (len, w))

/-- An error that is only a header, as those of rutabaga are, needs 24 bytes. -/
theorem fits_iff_of_isPlain {r : Request} {response : GpuResponse} (h : response.IsPlain) :
    r.Fits response ↔ 24 ≤ r.chain.writer.getD 0 := by
  constructor
  · intro hfits
    by_contra hroom
    exact hfits _ (h.encode_of_lt _ _ _ _ (Nat.not_le.mp hroom))
  · intro hroom e he
    obtain ⟨w, hw⟩ := h.encode_of_le r.fence.flags r.fence.fenceId r.fence.ctxId r.fence.ringIdx
      (w := ⟨r.chain.writer.getD 0, []⟩) hroom
    cases he.symm.trans hw

/-- Where the worker is when a response that fits is encoded. -/
theorem encode_of_fits {r : Request} {response : GpuResponse} (h : r.Fits response) :
    r.encode response = .panicked r ∨ ∃ len, r.EncodedWith response len ∧
      (r.encode response = .processingFence r len ∨ r.encode response = .addingUsed r len) := by
  cases he : r.encoding response with
  | none => exact Or.inl (by unfold encoding at he; rw [encode, he])
  | some out =>
    cases out with
    | error e => exact absurd he (h e)
    | ok out =>
      obtain ⟨len, w⟩ := out
      refine Or.inr ⟨len, ⟨w, he⟩, ?_⟩
      unfold encoding at he
      rw [encode, he]
      dsimp only
      split
      · exact Or.inl rfl
      · exact Or.inr rfl

end Request

/-! ### The calls of `create_fence` -/

/-- The results of `create_fence`, each with its request. -/
abbrev FenceLog := List (Request × VirtioGpuResult)

/-- `create_fence` returned `Ok` for the request. -/
def FenceLog.Created (log : FenceLog) (r : Request) : Prop := ∃ response, (r, .ok response) ∈ log

def FenceLog.Failed (log : FenceLog) (r : Request) : Prop :=
  ∃ entry ∈ log, entry.1 = r ∧ entry.2.isOk = false

namespace FenceSystem

/-- The call of `create_fence` in a step. -/
def createFenceCall (s : FenceSystem) : FenceAction → FenceLog
  | .createFence result =>
    match s.worker with
    | .creatingFence r _ => [(r, result)]
    | _ => []
  | _ => []

/-- The step does not lose a request whose `create_fence` failed: there is room for the error response,
`process_fence` is called with an id that is not above the watermark, and the chain can be used. -/
def KeepsFailed (p : FenceSystem × FenceLog) : FenceAction → Prop
  | .createFence (.error e) =>
    match p.1.worker with
    | .creatingFence r _ => r.Fits e
    | _ => True
  | .processFence =>
    match p.1.worker with
    | .processingFence r _ =>
      p.2.Failed r → r.fence.fenceId ≤ p.1.fenceState.watermark r.fence.ring
    | _ => True
  | .addUsed succeeds =>
    match p.1.worker with
    | .addingUsed r _ => p.2.Failed r → succeeds = true
    | _ => True
  | _ => True

/-- The error response was encoded: the worker has the request in hand, with the length of that
response, or the chain is used with it. -/
def Answers (s : FenceSystem) (r : Request) (e : GpuResponse) : Prop :=
  s.worker = .panicked r ∨
  (∃ len, r.EncodedWith e len ∧
    (s.worker = .processingFence r len ∨ s.worker = .addingUsed r len)) ∨
  ∃ u ∈ s.used, u.request = r ∧ u.ring = r.queue ∧ r.EncodedWith e u.len

/-- Where the worker is not at the request, the chain is used. -/
theorem Answers.used {s : FenceSystem} {r : Request} {e : GpuResponse} (h : s.Answers r e)
    (hw : s.worker.encoded ≠ some r) :
    ∃ u ∈ s.used, u.request = r ∧ u.ring = r.queue ∧ r.EncodedWith e u.len := by
  rcases h with h | ⟨len, -, h | h⟩ | h
  · exact absurd (by rw [h]; rfl) hw
  · exact absurd (by rw [h]; rfl) hw
  · exact absurd (by rw [h]; rfl) hw
  · exact h

theorem Answers.of_used {s t : FenceSystem} {r : Request} {e : GpuResponse} (h : s.Answers r e)
    (hw : s.worker.encoded ≠ some r) (hused : ∀ u ∈ s.used, u ∈ t.used) : t.Answers r e := by
  obtain ⟨u, hu, hrest⟩ := h.used hw
  exact Or.inr (Or.inr ⟨u, hused u hu, hrest⟩)

/-- Where the worker stays where it is, a step of another thread keeps the answer. -/
theorem Answers.congr {s t : FenceSystem} {r : Request} {e : GpuResponse} (h : s.Answers r e)
    (hw : t.worker = s.worker) (hused : ∀ u ∈ s.used, u ∈ t.used) : t.Answers r e := by
  rcases h with h | h | ⟨u, hu, hrest⟩
  · exact Or.inl (hw.trans h)
  · refine Or.inr (Or.inl ?_)
    rw [hw]
    exact h
  · exact Or.inr (Or.inr ⟨u, hused u hu, hrest⟩)

/-- What is parked has a fence, and what has none is answered. -/
structure FencesExist (s : FenceSystem) (log : FenceLog) : Prop where
  parked : ∀ r ∈ s.parked, log.Created r
  atFence : ∀ r len, s.worker = .processingFence r len → log.Created r ∨ log.Failed r
  answered : ∀ r e, (r, .error e) ∈ log → s.Answers r e

/-- A step of the worker that parks nothing, from a place where it is not at a request that failed. -/
theorem FencesExist.workerStep {s t : FenceSystem} {log : FenceLog} (h : s.FencesExist log)
    (hw : ∀ r, log.Failed r → s.worker.encoded ≠ some r) (hparked : t.parked = s.parked)
    (hat : ∀ r len, t.worker ≠ .processingFence r len) (hused : ∀ u ∈ s.used, u ∈ t.used) :
    t.FencesExist log where
  parked r hr := h.parked r (hparked ▸ hr)
  atFence r len he := absurd he (hat r len)
  answered r e he := (h.answered r e he).of_used (hw r ⟨_, he, rfl, rfl⟩) hused

/-- A step of another thread parks nothing. -/
theorem FencesExist.otherStep {s t : FenceSystem} {log : FenceLog} (h : s.FencesExist log)
    (hw : t.worker = s.worker) (hparked : ∀ r ∈ t.parked, r ∈ s.parked)
    (hused : ∀ u ∈ s.used, u ∈ t.used) : t.FencesExist log where
  parked r hr := h.parked r (hparked r hr)
  atFence r len he := h.atFence r len (hw ▸ he)
  answered r e he := (h.answered r e he).congr hw hused

theorem fencesExist_new (enabled ready : QueueId → Bool) : (new enabled ready).FencesExist [] :=
  ⟨fun _ hr => absurd hr List.not_mem_nil, nofun, fun _ _ he => absurd he List.not_mem_nil⟩

/-- After a call of `create_fence` the response is encoded: the request's own, or the error. -/
theorem FencesExist.createFence {s t : FenceSystem} {log : FenceLog} (h : s.FencesExist log)
    {r : Request} {request response : GpuResponse} {result : VirtioGpuResult}
    (hw : s.worker = .creatingFence r request) (ht : t.worker = r.encode response)
    (hparked : t.parked = s.parked) (hused : t.used = s.used)
    (hfits : ∀ e, result = .error e → response = e ∧ r.Fits e) :
    t.FencesExist (log ++ [(r, result)]) where
  parked r' hr' := by
    obtain ⟨ok, hok⟩ := h.parked r' (hparked ▸ hr')
    exact ⟨ok, List.mem_append_left _ hok⟩
  atFence r' len he := by
    obtain rfl : r' = r := Request.hand_of_encode_processingFence (ht.symm.trans he)
    have hmem : (r', result) ∈ log ++ [(r', result)] :=
      List.mem_append_right _ List.mem_cons_self
    cases result with
    | ok ok => exact Or.inl ⟨ok, hmem⟩
    | error e => exact Or.inr ⟨_, hmem, rfl, rfl⟩
  answered r' e he := by
    rcases List.mem_append.mp he with he | he
    · exact (h.answered r' e he).of_used (by rw [hw]; exact nofun) (fun u hu => hused ▸ hu)
    · cases List.mem_singleton.mp he
      obtain ⟨rfl, hfits⟩ := hfits e rfl
      rcases Request.encode_of_fits hfits with hc | ⟨len, hlen, hc⟩
      · exact Or.inl (ht.trans hc)
      · exact Or.inr (Or.inl ⟨len, hlen, ht ▸ hc⟩)

/-- A request that failed passes `process_fence`. -/
theorem FencesExist.processFence {s : FenceSystem} {log : FenceLog} (h : s.FencesExist log)
    {r : Request} {len : UInt32} (hw : s.worker = .processingFence r len)
    (hok : log.Failed r → r.fence.fenceId ≤ s.fenceState.watermark r.fence.ring) :
    (s.processFence r len).FencesExist log := by
  unfold FenceSystem.processFence FenceState.processFence
  split
  case isTrue hlt =>
    have hnot : ¬ log.Failed r := fun hf => absurd hlt (UInt64.not_lt.mpr (hok hf))
    refine ⟨fun r' hr' => ?_, nofun, fun r' e he => ?_⟩
    · change r' ∈ List.map _ (s.fenceState.descs ++ _) at hr'
      rw [List.map_append] at hr'
      rcases List.mem_append.mp hr' with hr' | hr'
      · exact h.parked r' hr'
      · obtain rfl := List.mem_singleton.mp hr'
        exact (h.atFence _ len hw).resolve_right hnot
    · refine (h.answered r' e he).of_used (fun hr' => hnot ?_) fun _ hu => hu
      rw [hw] at hr'
      cases hr'
      exact ⟨_, he, rfl, rfl⟩
  case isFalse =>
    refine ⟨h.parked, nofun, fun r' e he => ?_⟩
    rcases h.answered r' e he with hc | ⟨len', hlen, hc | hc⟩ | hu
    · cases hw.symm.trans hc
    · cases hw.symm.trans hc
      exact Or.inr (Or.inl ⟨len, hlen, Or.inr rfl⟩)
    · cases hw.symm.trans hc
    · exact Or.inr (Or.inr hu)

theorem FencesExist.workerAdded {s : FenceSystem} {log : FenceLog} (h : s.FencesExist log)
    {r : Request} {len : UInt32} (hw : s.worker = .addingUsed r len) :
    { s.addUsed r.queue r len with
      worker := .draining r.queue : FenceSystem }.FencesExist log := by
  refine ⟨h.parked, nofun, fun r' e he => ?_⟩
  rcases h.answered r' e he with hc | ⟨len', hlen, hc | hc⟩ | ⟨u, hu, hrest⟩
  · cases hw.symm.trans hc
  · cases hw.symm.trans hc
  · cases hw.symm.trans hc
    exact Or.inr (Or.inr ⟨_, List.mem_append_right _ List.mem_cons_self, rfl, rfl, hlen⟩)
  · exact Or.inr (Or.inr ⟨u, List.mem_append_left _ hu, hrest⟩)

theorem FencesExist.step {s t : FenceSystem} {log : FenceLog} (h : s.FencesExist log)
    {a : FenceAction} (hok : KeepsFailed (s, log) a) (hstep : s.step a = some t) :
    t.FencesExist (log ++ s.createFenceCall a) := by
  have hsame {t : FenceSystem} {a : FenceAction} (hcall : s.createFenceCall a = [])
      (ht : t.FencesExist log) : t.FencesExist (log ++ s.createFenceCall a) := by
    rw [hcall, List.append_nil]
    exact ht
  cases transition_of_step hstep with
  | fenceCreated r response ok hw =>
    simp only [createFenceCall, hw]
    exact h.createFence hw rfl rfl rfl fun _ he => nomatch he
  | fenceFailed r response e hw =>
    simp only [createFenceCall, hw]
    simp only [KeepsFailed, hw] at hok
    refine h.createFence hw rfl rfl rfl fun e' he => ?_
    cases he
    exact ⟨rfl, hok⟩
  | processFence r len hw =>
    simp only [KeepsFailed, hw] at hok
    exact hsame rfl (h.processFence hw hok)
  | workerAdded r len hw => exact hsame rfl (h.workerAdded hw)
  | workerFailed r len hw =>
    simp only [KeepsFailed, hw] at hok
    refine hsame rfl (h.workerStep (fun r' hr' he => ?_) rfl nofun fun _ hu => hu)
    rw [hw] at he
    cases he
    cases hok hr'
  | event queue hw | lockQueue queue hw =>
    refine hsame rfl (h.workerStep (fun _ _ => ?_) rfl (fun r len he => ?_) fun _ hu => hu)
    · rw [hw]
      exact nofun
    · dsimp only at he
      split at he <;> cases he
  | pop queue chain hw =>
    refine hsame rfl (h.workerStep (fun _ _ => ?_) rfl (fun r len he => ?_) fun _ hu => hu)
    · rw [hw]
      exact nofun
    · unfold FenceSystem.pop at he
      dsimp only at he
      split at he <;> cases he
  | leave queue hw =>
    exact hsame rfl (h.workerStep (fun _ _ => by rw [hw]; exact nofun) rfl nofun fun _ hu => hu)
  | execute r result hw =>
    exact hsame rfl (h.workerStep (fun _ _ => by rw [hw]; exact nofun) rfl
      (fun r' len => r.execute_ne_processingFence result r' len) fun _ hu => hu)
  | scanTake fence i desc ok hh hd =>
    refine hsame rfl (h.otherStep rfl (fun r hr => ?_) fun _ hu => hu)
    obtain ⟨d, hd', rfl⟩ := List.mem_map.mp hr
    exact List.mem_map_of_mem (List.mem_of_mem_eraseIdx hd')
  | handlerAdded fence i desc hh =>
    exact hsame rfl (h.otherStep rfl (fun _ hr => hr) fun _ hu => List.mem_append_left _ hu)
  | _ => exact hsame rfl (h.otherStep rfl (fun _ hr => hr) fun _ hu => hu)

end FenceSystem

/-- **A parked request waits for a fence that exists**, in a run in which a request whose
`create_fence` failed finds room for the error response, an id that is not above the watermark and a
queue that takes it: then `create_fence` returned `Ok` for everything that is parked; and when
`process_queue_chain` has returned for a request whose `create_fence` failed, its chain is used, with
the length of the error response. -/
theorem parked_fence_created {enabled ready : QueueId → Bool} {s : FenceSystem} {log : FenceLog}
    (hr : Reaches (recording FenceSystem.step FenceSystem.createFenceCall) FenceSystem.KeepsFailed
      (.new enabled ready, []) (s, log)) :
    (∀ d ∈ s.fenceState.descs, log.Created d.descIndex) ∧
    ∀ r e, (r, .error e) ∈ log → s.worker.working ≠ some r →
      ∃ u ∈ s.used, u.request = r ∧ u.ring = r.queue ∧ r.EncodedWith e u.len := by
  have h : s.FencesExist log := hr.invariant (I := fun p => p.1.FencesExist p.2)
    (FenceSystem.fencesExist_new enabled ready) fun p a q h hok hstep => by
      obtain ⟨hstep, hlog⟩ := recording_eq_some.mp hstep
      rw [hlog]
      exact h.step hok hstep
  refine ⟨fun d hd => h.parked _ (List.mem_map_of_mem hd), fun r e he hw => ?_⟩
  exact (h.answered r e he).used fun hc => hw (WorkerPc.working_of_encoded hc)

/-! ### A call of `create_fence` that fails -/

instance (r : Request) (response : GpuResponse) : Decidable (r.Fits response) := by
  unfold Request.Fits
  cases r.encoding response with
  | none => exact .isTrue fun _ => nofun
  | some out =>
    cases out with
    | error e => exact .isFalse fun h => h e rfl
    | ok => exact .isTrue fun _ => nofun

instance (log : FenceLog) (r : Request) : Decidable (log.Failed r) :=
  decidable_of_iff (log.any fun entry => entry.1 == r && ! entry.2.isOk) <| by
    simp [FenceLog.Failed]

/-- `KeepsFailed`, computed. -/
def FenceSystem.keepsFailed (p : FenceSystem × FenceLog) (a : FenceAction) : Bool :=
  match a, p.1.worker with
  | .createFence (.error e), .creatingFence r _ => decide (r.Fits e)
  | .processFence, .processingFence r _ =>
    ! decide (p.2.Failed r) || decide (r.fence.fenceId ≤ p.1.fenceState.watermark r.fence.ring)
  | .addUsed succeeds, .addingUsed r _ => ! decide (p.2.Failed r) || succeeds
  | _, _ => true

instance (p : FenceSystem × FenceLog) (a : FenceAction) : Decidable (FenceSystem.KeepsFailed p a) :=
  decidable_of_iff (FenceSystem.keepsFailed p a = true) <| by
    unfold FenceSystem.keepsFailed FenceSystem.KeepsFailed
    split
    case h_1 e r _ hw => simp [hw]
    case h_2 r _ hw => simp [hw, imp_iff_not_or]
    case h_3 succeeds r _ hw => simp [hw, imp_iff_not_or]
    case h_4 hfence hprocess hadd =>
      refine iff_of_true rfl ?_
      split
      · split
        case h_1 hw => exact (hfence _ _ _ rfl hw).elim
        case h_2 => trivial
      · split
        case h_1 hw => exact (hprocess _ _ rfl hw).elim
        case h_2 => trivial
      · split
        case h_1 hw => exact (hadd _ _ _ rfl hw).elim
        case h_2 => trivial
      · trivial

/-- The run in which a request is popped, and its `create_fence` fails. -/
def failOne (chain : RequestChain) (rest : List FenceAction) : List FenceAction :=
  [.event .control, .lockQueue, .pop (some chain), .execute (some .okNoData),
    .createFence (.error .errRutabaga), .processFence] ++ rest

/-- A `CTX_DESTROY` with fence 0 on the global ring. -/
def fenceZeroChain : RequestChain :=
  { fencedChain with reader := some ([0x01, 0x02, 0, 0, 1] ++ List.replicate 19 0) }

def fenceZeroRequest : Request := { queue := .control, serial := 0, chain := fenceZeroChain }

theorem parked_fence_created_error : ∃ s, ∃ log : FenceLog,
    run (recording FenceSystem.step FenceSystem.createFenceCall) (bothUp, [])
      (failOne fenceZeroChain [.addUsed true, .pop none]) = some (s, log) ∧
    log = [(fenceZeroRequest, .error .errRutabaga)] ∧
    ∃ u ∈ s.used, u.request = fenceZeroRequest ∧ u.ring = .control ∧
      fenceZeroRequest.EncodedWith .errRutabaga u.len := by
  have halong : Along (recording FenceSystem.step FenceSystem.createFenceCall)
      FenceSystem.KeepsFailed (bothUp, []) (failOne fenceZeroChain [.addUsed true, .pop none]) := by
    decide
  have hrun : (run (recording FenceSystem.step FenceSystem.createFenceCall) (bothUp, [])
      (failOne fenceZeroChain [.addUsed true, .pop none])).isSome := rfl
  obtain ⟨⟨s, log⟩, hs⟩ := Option.isSome_iff_exists.mp hrun
  have hend : log = [(fenceZeroRequest, .error .errRutabaga)] ∧ s.worker = .idle := by
    cases hs
    exact ⟨rfl, rfl⟩
  obtain ⟨rfl, hidle⟩ := hend
  obtain ⟨-, hanswered⟩ := parked_fence_created (reaches_of_run _ _ hs halong)
  refine ⟨s, _, hs, rfl, hanswered _ _ List.mem_cons_self ?_⟩
  rw [hidle]
  exact nofun

/-- **A fence that does not exist**: `create_fence` failed, and the request is parked, not used. -/
theorem parked_without_fence : ∃ s, ∃ log : FenceLog,
    run (recording FenceSystem.step FenceSystem.createFenceCall) (bothUp, [])
      (failOne fencedChain [.pop none]) = some (s, log) ∧
    Reaches (recording FenceSystem.step FenceSystem.createFenceCall) (fun _ _ => True)
      (bothUp, []) (s, log) ∧
    (∃ d ∈ s.fenceState.descs, d.descIndex = fencedRequest ∧ ¬ log.Created d.descIndex) ∧
    (fencedRequest, .error .errRutabaga) ∈ log ∧ s.worker.working = none ∧ s.used = [] := by
  refine ⟨_, _, rfl, reaches_of_run_any (failOne fencedChain [.pop none]) rfl,
    ⟨_, List.mem_cons_self, rfl, ?_⟩, List.mem_cons_self, rfl, rfl⟩
  rintro ⟨response, hmem⟩
  cases List.mem_singleton.mp hmem

end VirtioPoc.Gpu
