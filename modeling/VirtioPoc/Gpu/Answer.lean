import VirtioPoc.Gpu.Notify

/-!
# Requests that stop the worker

`process_queue` returns at the first error, and the worker thread ends with it.
What the guest puts into a chain can make it fail: a command that is not
implemented panics, a response needs 24 bytes of room unless there is none at
all, and a chain whose index is outside the descriptor table cannot be used.

`processQueue_answers_iff` says that these are all, for a GPU whose methods
return `OkNoData` or an error.
-/

namespace VirtioPoc.Gpu

open Virtio

/-! ### The GPU and the queue -/

/-- `OkNoData`, or an error. -/
def VirtioGpuResult.IsPlain : VirtioGpuResult → Prop
  | .ok response | .error response => response.IsPlain

/-- All the methods return `OkNoData` or an error. -/
structure VirtioGpu.Plain {σ : Type} (gpu : VirtioGpu σ) : Prop where
  displayInfo : ∀ s, VirtioGpuResult.IsPlain (gpu.displayInfo s).1
  getEdid : ∀ scanoutId s, VirtioGpuResult.IsPlain (gpu.getEdid scanoutId s).1
  setScanout : ∀ scanoutId resourceId r s,
    VirtioGpuResult.IsPlain (gpu.setScanout scanoutId resourceId r s).1
  resourceCreate3d : ∀ resourceId r s,
    VirtioGpuResult.IsPlain (gpu.resourceCreate3d resourceId r s).1
  unrefResource : ∀ resourceId s, VirtioGpuResult.IsPlain (gpu.unrefResource resourceId s).1
  flushResource : ∀ resourceId r s, VirtioGpuResult.IsPlain (gpu.flushResource resourceId r s).1
  transferWrite : ∀ ctxId resourceId t s,
    VirtioGpuResult.IsPlain (gpu.transferWrite ctxId resourceId t s).1
  transferRead : ∀ ctxId resourceId t s,
    VirtioGpuResult.IsPlain (gpu.transferRead ctxId resourceId t s).1
  attachBacking : ∀ resourceId iovecs s,
    VirtioGpuResult.IsPlain (gpu.attachBacking resourceId iovecs s).1
  detachBacking : ∀ resourceId s, VirtioGpuResult.IsPlain (gpu.detachBacking resourceId s).1
  updateCursor : ∀ resourceId pos hotX hotY s,
    VirtioGpuResult.IsPlain (gpu.updateCursor resourceId pos hotX hotY s).1
  moveCursor : ∀ resourceId pos s, VirtioGpuResult.IsPlain (gpu.moveCursor resourceId pos s).1
  getCapsetInfo : ∀ index s, VirtioGpuResult.IsPlain (gpu.getCapsetInfo index s).1
  getCapset : ∀ capsetId version s, VirtioGpuResult.IsPlain (gpu.getCapset capsetId version s).1
  createContext : ∀ ctxId contextInit contextName s,
    VirtioGpuResult.IsPlain (gpu.createContext ctxId contextInit contextName s).1
  destroyContext : ∀ ctxId s, VirtioGpuResult.IsPlain (gpu.destroyContext ctxId s).1
  contextAttachResource : ∀ ctxId resourceId s,
    VirtioGpuResult.IsPlain (gpu.contextAttachResource ctxId resourceId s).1
  contextDetachResource : ∀ ctxId resourceId s,
    VirtioGpuResult.IsPlain (gpu.contextDetachResource ctxId resourceId s).1
  submitCommand : ∀ ctxId commands fenceIds s,
    VirtioGpuResult.IsPlain (gpu.submitCommand ctxId commands fenceIds s).1
  createFence : ∀ fence s, VirtioGpuResult.IsPlain (gpu.createFence fence s).1

/-- A queue of virtio-queue with a descriptor table of this size: `add_used` refuses the indices that
are outside of the table, and a chain that begins outside has no descriptors. -/
structure DeviceQueue.HasTable (q : DeviceQueue) (size : Nat) (chains : List RequestChain) :
    Prop where
  addUsed : ∀ ops headIndex len,
    q.addUsedSucceeds ops headIndex len = decide (headIndex.toNat < size)
  outside : ∀ chain ∈ chains, size ≤ chain.headIndex.toNat →
    chain.reader = some [] ∧ chain.writer = some 0

/-! ### Chains that can be answered -/

/-- The commands for which `process_gpu_command` has a `panic!`. -/
def GpuCommand.Unimplemented : GpuCommand → Prop
  | .resourceAssignUuid _ | .resourceCreateBlob _ | .setScanoutBlob _ | .resourceMapBlob _
  | .resourceUnmapBlob _ => True
  | _ => False

instance (cmd : GpuCommand) : Decidable cmd.Unimplemented := by
  unfold GpuCommand.Unimplemented
  split <;> infer_instance

/-- The bytes are a request for an unimplemented command. -/
def RequestsUnimplemented (reader : List UInt8) : Prop :=
  match GpuCommand.decode reader with
  | .ok ((_, cmd), _) => cmd.Unimplemented
  | .error _ => False

/-- The chain is in the table, it can be read and written, its command is implemented, and a response
has no room at all or room for a header. -/
def RequestChain.Answerable (chain : RequestChain) (size : Nat) : Prop :=
  chain.headIndex.toNat < size ∧
  match chain.reader, chain.writer with
  | some reader, some writer => ¬ RequestsUnimplemented reader ∧ (writer = 0 ∨ 24 ≤ writer)
  | _, _ => False

section

variable {σ : Type} (gpu : VirtioGpu σ) (regions : List GuestRegion)

/-- From the first state to the second one, each chain is added to the used ring or parked. -/
inductive Settles : List RequestChain → WorkerState σ → WorkerState σ → Prop
  | nil (s : WorkerState σ) : Settles [] s s
  | used {chain : RequestChain} {chains : List RequestChain} {s u t : WorkerState σ} (len : UInt32)
      (hops : u.ops = s.ops ++ [.addUsed chain.headIndex len]) (rest : Settles chains u t) :
      Settles (chain :: chains) s t
  | parked {chain : RequestChain} {chains : List RequestChain} {s u t : WorkerState σ}
      (hpark : Parks gpu regions chain s.gpu u.gpu) (hops : u.ops = s.ops)
      (rest : Settles chains u t) : Settles (chain :: chains) s t

variable {gpu regions} {q : DeviceQueue}

/-! ### One chain -/

theorem processGpuCommand_unimplemented (hdr : VirtioGpuCtrlHdr) {cmd : GpuCommand}
    (h : cmd.Unimplemented) (s : σ) : processGpuCommand gpu regions hdr cmd s = none := by
  cases cmd with
  | resourceAssignUuid | resourceCreateBlob | setScanoutBlob | resourceMapBlob
  | resourceUnmapBlob => rfl
  | _ => exact absurd h id

theorem processGpuCommand_plain (hplain : gpu.Plain) (hdr : VirtioGpuCtrlHdr) {cmd : GpuCommand}
    (h : ¬ cmd.Unimplemented) (s : σ) : ∃ result s', VirtioGpuResult.IsPlain result ∧
      processGpuCommand gpu regions hdr cmd s = some (result, s') := by
  cases cmd with
  | resourceAssignUuid | resourceCreateBlob | setScanoutBlob | resourceMapBlob
  | resourceUnmapBlob => exact absurd trivial h
  | resourceAttachBacking req iovecs =>
    unfold processGpuCommand
    dsimp only
    split
    · rename_i response hvecs
      unfold rutabagaIovecsFromGuestMem at hvecs
      split at hvecs
      · cases hvecs
        exact ⟨.error .errInvalidParameter, _, trivial, rfl⟩
      · cases hvecs
    · exact ⟨_, _, hplain.attachBacking _ _ _, rfl⟩
  | getDisplayInfo => exact ⟨_, _, hplain.displayInfo _, rfl⟩
  | getEdid req => exact ⟨_, _, hplain.getEdid _ _, rfl⟩
  | resourceCreate2d req => exact ⟨_, _, hplain.resourceCreate3d _ _ _, rfl⟩
  | resourceUnref req => exact ⟨_, _, hplain.unrefResource _ _, rfl⟩
  | setScanout req => exact ⟨_, _, hplain.setScanout _ _ _ _, rfl⟩
  | resourceFlush req => exact ⟨_, _, hplain.flushResource _ _ _, rfl⟩
  | transferToHost2d req => exact ⟨_, _, hplain.transferWrite _ _ _ _, rfl⟩
  | resourceDetachBacking req => exact ⟨_, _, hplain.detachBacking _ _, rfl⟩
  | getCapsetInfo req => exact ⟨_, _, hplain.getCapsetInfo _ _, rfl⟩
  | getCapset req => exact ⟨_, _, hplain.getCapset _ _ _, rfl⟩
  | ctxCreate req => exact ⟨_, _, hplain.createContext _ _ _ _, rfl⟩
  | ctxDestroy req => exact ⟨_, _, hplain.destroyContext _ _, rfl⟩
  | ctxAttachResource req => exact ⟨_, _, hplain.contextAttachResource _ _ _, rfl⟩
  | ctxDetachResource req => exact ⟨_, _, hplain.contextDetachResource _ _ _, rfl⟩
  | resourceCreate3d req => exact ⟨_, _, hplain.resourceCreate3d _ _ _, rfl⟩
  | transferToHost3d req => exact ⟨_, _, hplain.transferWrite _ _ _ _, rfl⟩
  | transferFromHost3d req => exact ⟨_, _, hplain.transferRead _ _ _ _, rfl⟩
  | cmdSubmit3d cmdData fenceIds => exact ⟨_, _, hplain.submitCommand _ _ _ _, rfl⟩
  | updateCursor req => exact ⟨_, _, hplain.updateCursor _ _ _ _ _, rfl⟩
  | moveCursor req => exact ⟨_, _, hplain.moveCursor _ _ _, rfl⟩

theorem execute_unimplemented {reader : List UInt8} (h : RequestsUnimplemented reader) (s : σ) :
    execute gpu regions reader s = none := by
  unfold execute
  cases hd : GpuCommand.decode reader with
  | error e =>
    rw [RequestsUnimplemented, hd] at h
    exact absurd h id
  | ok p =>
    obtain ⟨⟨hdr, cmd⟩, rest⟩ := p
    rw [RequestsUnimplemented, hd] at h
    dsimp only
    rw [processGpuCommand_unimplemented hdr h]

theorem execute_plain (regions : List GuestRegion) (hplain : gpu.Plain) {reader : List UInt8}
    (h : ¬ RequestsUnimplemented reader) (s : σ) : ∃ hdr response s', response.IsPlain ∧
      execute gpu regions reader s = some ((hdr, response), s') := by
  unfold execute
  cases hd : GpuCommand.decode reader with
  | error e => exact ⟨none, .errUnspec, s, trivial, rfl⟩
  | ok p =>
    obtain ⟨⟨hdr, cmd⟩, rest⟩ := p
    rw [RequestsUnimplemented, hd] at h
    obtain ⟨result, s', hresult, hcmd⟩ := processGpuCommand_plain hplain hdr h s
    dsimp only
    rw [hcmd]
    cases result with
    | ok response => exact ⟨_, response, s', hresult, rfl⟩
    | error response => exact ⟨_, response, s', hresult, rfl⟩

theorem createFence_plain (hplain : gpu.Plain) (fence : RutabagaFence) {response : GpuResponse}
    (h : response.IsPlain) (s : σ) : (createFence gpu fence response s).1.IsPlain := by
  unfold createFence
  split
  · have hcreate := hplain.createFence fence s
    split
    · exact h
    · rename_i fenceResponse s' hresult
      rw [hresult] at hcreate
      exact hcreate
  · exact h

theorem addUsed_of_lt {size : Nat} {chains : List RequestChain} (hq : q.HasTable size chains)
    {headIndex : UInt16} (h : headIndex.toNat < size) (len : UInt32) (s : WorkerState σ) :
    s.addUsed q headIndex len = (.ok true, s.record (.addUsed headIndex len)) := by
  rw [WorkerState.addUsed, hq.addUsed, decide_eq_true h]
  rfl

theorem addUsed_of_le {size : Nat} {chains : List RequestChain} (hq : q.HasTable size chains)
    {headIndex : UInt16} (h : size ≤ headIndex.toNat) (len : UInt32) (s : WorkerState σ) :
    s.addUsed q headIndex len = (.error .queueAddUsed, s) := by
  rw [WorkerState.addUsed, hq.addUsed, decide_eq_false (Nat.not_lt.mpr h)]
  rfl

variable {size : Nat} {chains : List RequestChain} {chain : RequestChain} {reader : List UInt8}
  {writer : Nat}

theorem answerable_iff (hreader : chain.reader = some reader) (hwriter : chain.writer = some writer) :
    chain.Answerable size ↔ chain.headIndex.toNat < size ∧
      ¬ RequestsUnimplemented reader ∧ (writer = 0 ∨ 24 ≤ writer) := by
  rw [RequestChain.Answerable, hreader, hwriter]

theorem processQueueChain_answers (regions : List GuestRegion) (hplain : gpu.Plain)
    (hq : q.HasTable size chains)
    (hreader : chain.reader = some reader) (hwriter : chain.writer = some writer)
    (h : chain.Answerable size) (s : WorkerState σ) : ∃ used t,
      processQueueChain gpu regions q chain.headIndex reader writer s = some (.ok used, t) := by
  obtain ⟨hhead, himpl, hroom⟩ := (answerable_iff hreader hwriter).mp h
  obtain ⟨hdr, response, g, hresponse, hexec⟩ := execute_plain regions hplain himpl s.gpu
  unfold processQueueChain
  rw [hexec]
  dsimp only
  by_cases hzero : writer = 0
  · rw [if_pos hzero, addUsed_of_lt hq hhead]
    exact ⟨_, _, rfl⟩
  · rw [if_neg hzero]
    have hcreated := createFence_plain hplain (.ofHdr hdr) hresponse g
    obtain ⟨w, hencode⟩ := hcreated.encode_of_le (RutabagaFence.ofHdr hdr).flags
      (RutabagaFence.ofHdr hdr).fenceId (RutabagaFence.ofHdr hdr).ctxId
      (RutabagaFence.ofHdr hdr).ringIdx (w := ⟨writer, []⟩) (hroom.resolve_left hzero)
    rw [hencode]
    dsimp only
    split
    · rw [addUsed_of_lt hq hhead]
      exact ⟨_, _, rfl⟩
    · exact ⟨_, _, rfl⟩

theorem processQueueChain_fails (hplain : gpu.Plain) (hq : q.HasTable size chains)
    (hmem : chain ∈ chains) (hreader : chain.reader = some reader)
    (hwriter : chain.writer = some writer) (h : ¬ chain.Answerable size) (s : WorkerState σ)
    (used : Bool) (t : WorkerState σ) :
    processQueueChain gpu regions q chain.headIndex reader writer s ≠ some (.ok used, t) := by
  intro hchain
  rw [answerable_iff hreader hwriter] at h
  unfold processQueueChain at hchain
  by_cases himpl : RequestsUnimplemented reader
  · rw [execute_unimplemented himpl] at hchain
    cases hchain
  obtain ⟨hdr, response, g, hresponse, hexec⟩ := execute_plain regions hplain himpl s.gpu
  rw [hexec] at hchain
  dsimp only at hchain
  by_cases hzero : writer = 0
  · -- without room, the chain is outside of the table
    have hout : size ≤ chain.headIndex.toNat :=
      Nat.not_lt.mp fun hhead => h ⟨hhead, himpl, Or.inl hzero⟩
    rw [if_pos hzero, addUsed_of_le hq hout] at hchain
    cases hchain
  · -- otherwise it is in the table, and a header does not fit
    have hhead : chain.headIndex.toNat < size := by
      by_contra hout
      have hnone := (hq.outside chain hmem (Nat.not_lt.mp hout)).2
      exact hzero (Option.some.inj (hwriter.symm.trans hnone))
    have hroom : writer < 24 := Nat.not_le.mp fun hle => h ⟨hhead, himpl, Or.inr hle⟩
    have hcreated := createFence_plain hplain (.ofHdr hdr) hresponse g
    rw [if_neg hzero, hcreated.encode_of_lt _ _ _ _ hroom] at hchain
    cases hchain

/-! ### All the chains -/

/-- Where `process_queue` returns, each chain was added or parked. -/
theorem settles_of_processQueue : ∀ (chains : List RequestChain) {signalUsedQueue notify : Bool}
    {s t : WorkerState σ},
    processQueue gpu regions q chains signalUsedQueue s = some (.ok notify, t) →
      Settles gpu regions chains s t := by
  intro chains
  induction chains with
  | nil =>
    intro _ _ s t h
    cases h
    exact .nil s
  | cons chain chains ih =>
    intro _ _ s t h
    rw [processQueue] at h
    split at h
    · cases h
    · cases h
    · rename_i reader writer hreader hwriter
      split at h
      · cases h
      · cases h
      · rename_i used u hchain
        rcases processQueueChain_spec hreader hwriter hchain with ⟨-, len, hops⟩ | ⟨-, hops, hpark⟩
        · exact .used len hops (ih h)
        · exact .parked hpark hops (ih h)

theorem processQueue_ok_iff (regions : List GuestRegion) (hplain : gpu.Plain) :
    ∀ (chains : List RequestChain),
    q.HasTable size chains → ∀ (signalUsedQueue : Bool) (s : WorkerState σ),
    (∃ notify t, processQueue gpu regions q chains signalUsedQueue s = some (.ok notify, t)) ↔
      ∀ chain ∈ chains, chain.Answerable size := by
  intro chains
  induction chains with
  | nil => exact fun _ _ _ => ⟨fun _ _ hc => absurd hc List.not_mem_nil, fun _ => ⟨_, _, rfl⟩⟩
  | cons chain chains ih =>
    intro hq signalUsedQueue s
    have hrest : q.HasTable size chains :=
      ⟨hq.addUsed, fun c hc => hq.outside c (List.mem_cons_of_mem chain hc)⟩
    rw [List.forall_mem_cons, processQueue]
    split
    · rename_i hreader
      refine iff_of_false (by rintro ⟨notify, t, h⟩; cases h) fun h => ?_
      rw [RequestChain.Answerable, hreader] at h
      exact h.1.2
    · rename_i reader hreader hwriter
      refine iff_of_false (by rintro ⟨notify, t, h⟩; cases h) fun h => ?_
      rw [RequestChain.Answerable, hreader, hwriter] at h
      exact h.1.2
    · rename_i reader writer hreader hwriter
      by_cases hanswerable : chain.Answerable size
      · obtain ⟨used, u, hchain⟩ :=
          processQueueChain_answers regions hplain hq hreader hwriter hanswerable s
        rw [hchain]
        dsimp only
        rw [ih hrest]
        exact (and_iff_right hanswerable).symm
      · refine iff_of_false ?_ fun h => hanswerable h.1
        rintro ⟨notify, t, hrun⟩
        split at hrun
        · cases hrun
        · cases hrun
        · rename_i used u hchain
          exact processQueueChain_fails hplain hq List.mem_cons_self hreader hwriter hanswerable s used
            u hchain

/-- **Which chains a guest can stop the worker with.**  With a GPU whose methods return `OkNoData` or
an error, `process_queue` returns, with each chain used or parked, just when each of the chains can be
answered. -/
theorem processQueue_answers_iff (hplain : gpu.Plain) (hq : q.HasTable size chains)
    (s : WorkerState σ) :
    (∃ notify t, processQueue gpu regions q chains false s = some (.ok notify, t) ∧
      Settles gpu regions chains s t) ↔ ∀ chain ∈ chains, chain.Answerable size := by
  rw [← processQueue_ok_iff regions hplain chains hq false s]
  constructor
  · rintro ⟨notify, t, hrun, -⟩
    exact ⟨notify, t, hrun⟩
  · rintro ⟨notify, t, hrun⟩
    exact ⟨notify, t, hrun, settles_of_processQueue chains hrun⟩

end

/-! ### Requests of a guest -/

theorem readyGpu_plain : readyGpu.Plain := by
  constructor <;> intros <;> trivial

instance (chain : RequestChain) (size : Nat) : Decidable (chain.Answerable size) := by
  unfold RequestChain.Answerable RequestsUnimplemented
  have (reader : List UInt8) : Decidable (match GpuCommand.decode reader with
      | .ok ((_, cmd), _) => cmd.Unimplemented
      | .error _ => False) := by
    split <;> infer_instance
  cases chain.reader with
  | none => infer_instance
  | some reader => cases chain.writer <;> infer_instance

/-- A queue of 8 descriptors. -/
def smallQueue : DeviceQueue :=
  { oneChainQueue true with addUsedSucceeds := fun _ headIndex _ => decide (headIndex.toNat < 8) }

/-- Four bytes that are no request, with room for a header. -/
def garbageChain : RequestChain where
  headIndex := 2
  reader := some [1, 2, 3, 4]
  writer := some 24

theorem processQueue_answers_iff_two : ∃ notify t,
    processQueue readyGpu [] smallQueue [ctxDestroyChain, garbageChain] false (.new ()) =
      some (.ok notify, t) ∧ Settles readyGpu [] [ctxDestroyChain, garbageChain] (.new ()) t := by
  have htable : smallQueue.HasTable 8 [ctxDestroyChain, garbageChain] := ⟨fun _ _ _ => rfl, by decide⟩
  exact (processQueue_answers_iff readyGpu_plain htable (.new ())).mpr (by decide)

/-- A `GET_DISPLAY_INFO` with room for 8 bytes. -/
def shortResponseChain : RequestChain where
  headIndex := 0
  reader := some ([0x00, 0x01, 0, 0] ++ List.replicate 20 0)
  writer := some 8

/-- A `RESOURCE_CREATE_BLOB`. -/
def createBlobChain : RequestChain where
  headIndex := 0
  reader := some ([0x0c, 0x01, 0, 0] ++ List.replicate 52 0)
  writer := some 24

/-- **Requests that stop the worker**: a response that does not fit, a command that is not implemented,
an index outside of the table. -/
theorem requests_stop_worker :
    processQueue readyGpu [] smallQueue [shortResponseChain, ctxDestroyChain] false (.new ()) =
      some (.error (.gpuResponseEncode .descriptorWriteFailed), .new ()) ∧
    processQueue readyGpu [] smallQueue [createBlobChain, ctxDestroyChain] false (.new ()) = none ∧
    processQueue readyGpu [] smallQueue [⟨8, some [], some 0⟩, ctxDestroyChain] false (.new ()) =
      some (.error .queueAddUsed, .new ()) ∧ readyGpu.Plain :=
  ⟨rfl, rfl, rfl, readyGpu_plain⟩

end VirtioPoc.Gpu
