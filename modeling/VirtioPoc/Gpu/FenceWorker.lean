import VirtioPoc.Gpu.FenceSystem

/-!
# The steps of the worker are `process_queue_chain`

In `FenceSystem` the worker goes through a request in steps, and the other
threads come in between.  `worker_run` says that without them the steps amount to
the function `processQueueChain`: the same chains are used with the same
lengths, and the same ones are parked, for every GPU that parks as the table
does.
-/

namespace VirtioPoc.Gpu

open Base Virtio

variable {σ : Type} {gpu : VirtioGpu σ} {regions : List GuestRegion} {q : DeviceQueue}

/-- The header that `process_queue_chain` keeps is that of the chain. -/
theorem hdr_of_execute {r : Request} {reader : List UInt8} (hreader : r.chain.reader = some reader)
    {g g' : σ} {hdr : Option VirtioGpuCtrlHdr} {response : GpuResponse}
    (h : execute gpu regions reader g = some ((hdr, response), g')) :
    r.chain.hdr = hdr ∧ r.execute (some response) = r.answer response := by
  unfold execute at h
  cases hd : GpuCommand.decode reader with
  | error e =>
    rw [hd] at h
    cases h
    have hhdr : r.chain.hdr = none := by simp only [RequestChain.hdr, hreader, hd]
    exact ⟨hhdr, by simp only [Request.execute, hhdr]⟩
  | ok out =>
    obtain ⟨⟨hdr', cmd⟩, rest⟩ := out
    have hhdr : r.chain.hdr = some hdr' := by simp only [RequestChain.hdr, hreader, hd]
    rw [hd] at h
    dsimp only at h
    split at h
    · cases h
    · cases h
      exact ⟨hhdr, by simp only [Request.execute, hhdr]⟩
    · cases h
      exact ⟨hhdr, by simp only [Request.execute, hhdr]⟩

theorem execute_none {r : Request} {reader : List UInt8} (hreader : r.chain.reader = some reader)
    {g : σ} (h : execute gpu regions reader g = none) : r.execute none = .panicked r := by
  unfold execute at h
  cases hd : GpuCommand.decode reader with
  | error e => rw [hd] at h; cases h
  | ok out =>
    have hhdr : r.chain.hdr = some out.1.1 := by simp only [RequestChain.hdr, hreader, hd]
    simp only [Request.execute, hhdr]

namespace FenceSystem

/-- What the function has done, and what the steps that lead to `t` have done, to the operations, the
used elements and the descriptors that there were before. -/
def Matches (r : Request) (ops : List QueueOp) (used : List UsedElem)
    (descs : List (FenceDescriptor Request)) (t : FenceSystem) :
    Option (Except DeviceError Bool × WorkerState σ) → Prop
  | none => t.worker = .panicked r
  | some (.error _, _) => t.worker = .failed r
  | some (.ok true, w) => t.worker = .draining r.queue ∧ ∃ len,
      w.ops = ops ++ [.addUsed r.chain.headIndex len] ∧ t.used = used ++ [⟨r.queue, r, len⟩]
  | some (.ok false, w) => t.worker = .draining r.queue ∧ w.ops = ops ∧ t.used = used ∧ ∃ len,
      t.fenceState.descs = descs ++ [⟨r.fence.ring, r.fence.fenceId, r, len⟩]

/-- The last step of a request that is used. -/
theorem run_addUsed {s : FenceSystem} {r : Request} {len : UInt32}
    (hw : s.worker = .addingUsed r len) (w : WorkerState σ)
    (descs : List (FenceDescriptor Request)) :
    ∃ actions t, run step s actions = some t ∧
      Matches r w.ops s.used descs t (some (w.addUsed q r.chain.headIndex len)) := by
  unfold WorkerState.addUsed
  split
  · refine ⟨[.addUsed true], { s.addUsed r.queue r len with worker := .draining r.queue }, ?_,
      rfl, len, rfl, rfl⟩
    simp [run, step, hw]
  · refine ⟨[.addUsed false], { s with worker := .failed r }, ?_, rfl⟩
    simp [run, step, hw]

/-- The response is encoded, and the request goes to the used ring or to the table. -/
theorem run_encode (gpu : VirtioGpu σ) {s : FenceSystem} {r : Request} {response : GpuResponse}
    {writer : Nat} {g : σ} (hwriter : r.chain.writer = some writer) (hw : s.worker = r.encode response)
    (hh : s.handler = .idle) (w : WorkerState σ)
    (hfence : ∀ len, (gpu.processFence r.fence.ring r.fence.fenceId r.chain.headIndex len g).1 =
      (s.fenceState.processFence r.fence.ring r.fence.fenceId r len).1) :
    ∃ actions t, run step s actions = some t ∧
      Matches r w.ops s.used s.fenceState.descs t
        (match response.encode r.fence.flags r.fence.fenceId r.fence.ctxId r.fence.ringIdx
          ⟨writer, []⟩ with
        | none => none
        | some (.error e) => some (.error (.gpuResponseEncode e), { w with gpu := g })
        | some (.ok (responseLen, _)) =>
          match addToQueue gpu r.fence r.chain.headIndex responseLen g with
          | (true, g) => some ({ w with gpu := g }.addUsed q r.chain.headIndex responseLen)
          | (false, g) => some (.ok false, { w with gpu := g })) := by
  unfold Request.encode at hw
  rw [hwriter, Option.getD_some] at hw
  cases henc : response.encode r.fence.flags r.fence.fenceId r.fence.ctxId r.fence.ringIdx
      ⟨writer, []⟩ with
  | none =>
    rw [henc] at hw
    exact ⟨[], s, rfl, hw⟩
  | some out =>
  rw [henc] at hw
  cases out with
  | error e => exact ⟨[], s, rfl, hw⟩
  | ok result =>
    obtain ⟨len, w'⟩ := result
    dsimp only at hw ⊢
    unfold addToQueue
    by_cases hset : r.fence.IsSet
    · rw [if_pos hset] at hw ⊢
      have hpark := hfence len
      cases hp : gpu.processFence r.fence.ring r.fence.fenceId r.chain.headIndex len g with
      | mk add g' =>
        rw [hp] at hpark
        have hstep : step s .processFence = some (s.processFence r len) := by
          simp only [step, hw, hh]
        cases add with
        | true =>
          have hworker : (s.processFence r len).worker = .addingUsed r len := if_pos hpark.symm
          obtain ⟨actions, t, hrun, hm⟩ :=
            run_addUsed hworker { w with gpu := g' } s.fenceState.descs
          refine ⟨.processFence :: actions, t, ?_, hm⟩
          rw [run, hstep]
          exact hrun
        | false =>
          refine ⟨[.processFence], s.processFence r len, ?_, ?_, rfl, rfl, len, ?_⟩
          · rw [run, hstep]
            rfl
          · exact if_neg (by rw [← hpark]; exact Bool.false_ne_true)
          · unfold FenceSystem.processFence FenceState.processFence
            unfold FenceState.processFence at hpark
            split at hpark
            · rename_i hgt
              rw [if_pos hgt]
            · cases hpark
    · rw [if_neg hset] at hw ⊢
      exact run_addUsed hw { w with gpu := g } s.fenceState.descs

/-- **The steps of the worker on a request are those of `process_queue_chain`**, when no other thread
comes in between, and the GPU answers `process_fence` as the table does. -/
theorem worker_run {s : FenceSystem} {r : Request} {reader : List UInt8} {writer : Nat}
    (hreader : r.chain.reader = some reader) (hwriter : r.chain.writer = some writer)
    (hw : s.worker = .executing r) (hh : s.handler = .idle)
    {w : WorkerState σ}
    (hfence : ∀ hdr response g len, execute gpu regions reader w.gpu = some ((hdr, response), g) →
      (gpu.processFence r.fence.ring r.fence.fenceId r.chain.headIndex len
        (createFence gpu r.fence response g).2).1 =
      (s.fenceState.processFence r.fence.ring r.fence.fenceId r len).1) :
    ∃ actions t, run step s actions = some t ∧
      Matches r w.ops s.used s.fenceState.descs t
        (processQueueChain gpu regions q r.chain.headIndex reader writer w) := by
  unfold processQueueChain
  cases hexec : execute gpu regions reader w.gpu with
  | none =>
    refine ⟨[.execute none], { s with worker := .panicked r }, ?_, rfl⟩
    simp [run, step, hw, execute_none hreader hexec]
  | some out =>
    obtain ⟨⟨hdr, response⟩, g⟩ := out
    obtain ⟨hhdr, hanswer⟩ := hdr_of_execute hreader hexec
    have hofHdr : RutabagaFence.ofHdr hdr = r.fence := by rw [← hhdr]; rfl
    have hstep : step s (.execute (some response)) = some { s with worker := r.answer response } := by
      simp only [step, hw, hanswer]
    have hgpu (len : UInt32) := hfence hdr response g len hexec
    dsimp only
    rw [hofHdr]
    by_cases hroom : writer = 0
    · have hpc : r.answer response = .addingUsed r 0 := if_pos (by rw [hwriter, hroom])
      rw [if_pos hroom]
      obtain ⟨actions, t, hrun, hm⟩ := run_addUsed (s := { s with worker := r.answer response }) hpc
        { w with gpu := g } s.fenceState.descs
      refine ⟨.execute (some response) :: actions, t, ?_, hm⟩
      rw [run, hstep]
      exact hrun
    · have hpc : r.answer response =
          if r.fence.IsSet then .creatingFence r response else r.encode response :=
        if_neg (by rw [hwriter]; exact fun he => hroom (Option.some.inj he))
      rw [if_neg hroom]
      unfold createFence at hgpu ⊢
      by_cases hset : r.fence.IsSet
      · simp only [if_pos hset] at hpc hgpu ⊢
        cases hc : gpu.createFence r.fence g with
        | mk result g' =>
          rw [hc] at hgpu
          cases result with
          | ok created =>
            obtain ⟨actions, t, hrun, hm⟩ := run_encode (q := q) (g := g') gpu
              (s := { s with created := s.created ++ [r.fence], worker := r.encode response })
              hwriter rfl hh w hgpu
            refine ⟨.execute (some response) :: .createFence (.ok created) :: actions, t, ?_, hm⟩
            rw [run, hstep]
            simp only [run, step, hpc]
            exact hrun
          | error e =>
            obtain ⟨actions, t, hrun, hm⟩ := run_encode (q := q) (g := g') gpu
              (s := { s with worker := r.encode e }) hwriter rfl hh w hgpu
            refine ⟨.execute (some response) :: .createFence (.error e) :: actions, t, ?_, hm⟩
            rw [run, hstep]
            simp only [run, step, hpc]
            exact hrun
      · simp only [if_neg hset] at hpc hgpu ⊢
        obtain ⟨actions, t, hrun, hm⟩ := run_encode (q := q) (g := g) gpu
          (s := { s with worker := r.answer response }) hwriter hpc hh w hgpu
        refine ⟨.execute (some response) :: actions, t, ?_, hm⟩
        rw [run, hstep]
        exact hrun

end FenceSystem

end VirtioPoc.Gpu
