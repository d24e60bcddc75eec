import VirtioPoc.Gpu.Worker

/-!
# Notification of the driver

`process_queue` returns whether it used a chain, and `handle_queue_event` is to
notify the driver if it did.  The branch without `EVENT_IDX` drops what
`process_queue` returns.  So there the driver is notified of all that was used
only if nothing was, that is, if every chain of the batch was parked on a fence.
-/

namespace VirtioPoc.Gpu

open Virtio

/-- Each addition to the used ring is followed by a notification. -/
def Notified (ops : List QueueOp) : Prop :=
  ∀ before headIndex len after, ops = before ++ .addUsed headIndex len :: after →
    .signalUsedQueue ∈ after

theorem notified_nil : Notified [] := by
  intro before headIndex len after h
  exact absurd h.symm (List.append_ne_nil_of_right_ne_nil _ (List.cons_ne_nil _ _))

theorem notified_signal (ops : List QueueOp) : Notified (ops ++ [.signalUsedQueue]) := by
  intro before headIndex len after h
  have hlast : (before ++ .addUsed headIndex len :: after).getLast? = some .signalUsedQueue := by
    rw [← h, List.getLast?_concat]
  cases after with
  | nil =>
    rw [List.getLast?_concat] at hlast
    cases hlast
  | cons op after =>
    rw [List.getLast?_append_cons, List.getLast?_cons_cons] at hlast
    exact List.mem_of_getLast? hlast

/-- Additions alone are notified of only if there are none. -/
theorem notified_iff_of_no_signal {ops : List QueueOp} (h : .signalUsedQueue ∉ ops) :
    Notified ops ↔ ops = [] := by
  constructor
  · intro hn
    rcases List.eq_nil_or_concat' ops with rfl | ⟨before, op, rfl⟩
    · rfl
    · cases op with
      | addUsed headIndex len => exact absurd (hn before headIndex len [] rfl) List.not_mem_nil
      | signalUsedQueue => exact absurd (List.mem_append_right _ List.mem_cons_self) h
  · rintro rfl
    exact notified_nil

section

variable {σ : Type} (gpu : VirtioGpu σ) (regions : List GuestRegion)

/-- The chain is a request with the fence flag and room for a response, and `process_fence` of the
GPU parks it. -/
inductive Parks (chain : RequestChain) (s : σ) : σ → Prop
  | intro {reader : List UInt8} {writer : Nat} {hdr : Option VirtioGpuCtrlHdr}
      {response : GpuResponse} {s₁ s' : σ} {len : UInt32} {w : Writer}
      (hreader : chain.reader = some reader) (hwriter : chain.writer = some writer)
      (hroom : writer ≠ 0) (hexec : execute gpu regions reader s = some ((hdr, response), s₁))
      (hfence : (RutabagaFence.ofHdr hdr).IsSet)
      (hencode : (createFence gpu (.ofHdr hdr) response s₁).1.encode (RutabagaFence.ofHdr hdr).flags
        (RutabagaFence.ofHdr hdr).fenceId (RutabagaFence.ofHdr hdr).ctxId
        (RutabagaFence.ofHdr hdr).ringIdx ⟨writer, []⟩ = some (.ok (len, w)))
      (hpark : gpu.processFence (RutabagaFence.ofHdr hdr).ring (RutabagaFence.ofHdr hdr).fenceId
        chain.headIndex len (createFence gpu (.ofHdr hdr) response s₁).2 = (false, s')) :
      Parks chain s s'

/-- The GPU parks one chain after the other. -/
inductive ParksAll : List RequestChain → σ → Prop
  | nil (s : σ) : ParksAll [] s
  | cons {chain : RequestChain} {chains : List RequestChain} {s s' : σ}
      (h : Parks gpu regions chain s s') (rest : ParksAll chains s') : ParksAll (chain :: chains) s

variable {gpu regions} {q : DeviceQueue}

/-! ### What is used -/

theorem addUsed_spec {headIndex : UInt16} {len : UInt32} {s t : WorkerState σ} {used : Bool}
    (h : s.addUsed q headIndex len = (.ok used, t)) :
    used = true ∧ t.ops = s.ops ++ [.addUsed headIndex len] := by
  unfold WorkerState.addUsed at h
  split at h
  · cases h
    exact ⟨rfl, rfl⟩
  · cases h

theorem processQueueChain_spec {chain : RequestChain} {reader : List UInt8} {writer : Nat}
    (hreader : chain.reader = some reader) (hwriter : chain.writer = some writer)
    {s t : WorkerState σ} {used : Bool}
    (h : processQueueChain gpu regions q chain.headIndex reader writer s = some (.ok used, t)) :
    (used = true ∧ ∃ len, t.ops = s.ops ++ [.addUsed chain.headIndex len]) ∨
    (used = false ∧ t.ops = s.ops ∧ Parks gpu regions chain s.gpu t.gpu) := by
  unfold processQueueChain at h
  cases hexec : execute gpu regions reader s.gpu with
  | none => rw [hexec] at h; cases h
  | some out =>
    obtain ⟨⟨hdr, response⟩, s₁⟩ := out
    rw [hexec] at h
    dsimp only at h
    by_cases hroom : writer = 0
    · rw [if_pos hroom] at h
      obtain ⟨rfl, hops⟩ := addUsed_spec (Option.some.inj h)
      exact Or.inl ⟨rfl, _, hops⟩
    · rw [if_neg hroom] at h
      split at h
      · cases h
      · cases h
      · rename_i len w hencode
        cases hadd : addToQueue gpu (.ofHdr hdr) chain.headIndex len
            (createFence gpu (.ofHdr hdr) response s₁).2 with
        | mk add s' =>
          rw [hadd] at h
          cases add with
          | true =>
            obtain ⟨rfl, hops⟩ := addUsed_spec (Option.some.inj h)
            exact Or.inl ⟨rfl, _, hops⟩
          | false =>
            cases h
            unfold addToQueue at hadd
            split at hadd
            · rename_i hfence
              exact Or.inr ⟨rfl, rfl, .intro hreader hwriter hroom hexec hfence hencode hadd⟩
            · cases hadd

/-- A chain that the GPU parks is not used. -/
theorem processQueueChain_of_parks {chain : RequestChain} {reader : List UInt8} {writer : Nat}
    (hreader : chain.reader = some reader) (hwriter : chain.writer = some writer)
    {s : WorkerState σ} {g : σ} (h : Parks gpu regions chain s.gpu g) :
    processQueueChain gpu regions q chain.headIndex reader writer s =
      some (.ok false, { s with gpu := g }) := by
  obtain ⟨hr, hw, hroom, hexec, hfence, hencode, hpark⟩ := h
  obtain rfl := Option.some.inj (hreader.symm.trans hr)
  obtain rfl := Option.some.inj (hwriter.symm.trans hw)
  unfold processQueueChain
  rw [hexec]
  dsimp only
  rw [if_neg hroom, hencode]
  dsimp only
  rw [addToQueue, if_pos hfence, hpark]

theorem processQueue_spec : ∀ (chains : List RequestChain) {signalUsedQueue notify : Bool}
    {s t : WorkerState σ},
    processQueue gpu regions q chains signalUsedQueue s = some (.ok notify, t) →
    ∃ added, t.ops = s.ops ++ added ∧ .signalUsedQueue ∉ added ∧
      (notify = true ↔ signalUsedQueue = true ∨ added ≠ []) ∧
      (added = [] ↔ ParksAll gpu regions chains s.gpu) := by
  intro chains
  induction chains with
  | nil =>
    intro signalUsedQueue notify s t h
    cases h
    exact ⟨[], (List.append_nil _).symm, List.not_mem_nil, by simp, fun _ => .nil _, fun _ => rfl⟩
  | cons chain chains ih =>
    intro signalUsedQueue notify s t h
    rw [processQueue] at h
    split at h
    · cases h
    · cases h
    · rename_i reader writer hreader hwriter
      split at h
      · cases h
      · cases h
      · rename_i used u hchain
        obtain ⟨added, hops, hsignal, hnotify, hparks⟩ := ih h
        rcases processQueueChain_spec hreader hwriter hchain with ⟨rfl, len, hu⟩ | ⟨rfl, hu, hpark⟩
        · refine ⟨.addUsed chain.headIndex len :: added, ?_, ?_, ?_, ?_⟩
          · rw [hops, hu, List.append_assoc, List.singleton_append]
          · simpa using hsignal
          · simp [hnotify]
          · refine ⟨fun he => absurd he (List.cons_ne_nil _ _), fun hall => ?_⟩
            -- a parked chain would not have been used
            cases hall with
            | cons hp _ =>
              rw [processQueueChain_of_parks hreader hwriter hp] at hchain
              cases hchain
        · refine ⟨added, ?_, hsignal, ?_, ?_⟩
          · rw [hops, hu]
          · simpa using hnotify
          · rw [hparks]
            refine ⟨fun hall => .cons hpark hall, fun hall => ?_⟩
            cases hall with
            | cons hp hrest =>
              rw [processQueueChain_of_parks hreader hwriter hp] at hchain
              cases hchain
              exact hrest

/-! ### Notification -/

/-- One batch, and the notification for it. -/
theorem notified_of_batch {chains : List RequestChain} {notify : Bool} {s t : WorkerState σ}
    (hs : Notified s.ops) (h : processQueue gpu regions q chains false s = some (.ok notify, t)) :
    Notified (if notify then t.record .signalUsedQueue else t).ops := by
  obtain ⟨added, hops, -, hnotify, -⟩ := processQueue_spec chains h
  split
  case isTrue => exact notified_signal t.ops
  case isFalse hn =>
    have hadded : added = [] := by
      by_contra hne
      exact hn (hnotify.mpr (Or.inr hne))
    rw [hops, hadded, List.append_nil]
    exact hs

/-- With `EVENT_IDX` the driver is notified after each batch. -/
theorem processUntilEmpty_notified : ∀ (later : List (List RequestChain))
    (chains : List RequestChain) {s t : WorkerState σ}, Notified s.ops →
    processUntilEmpty gpu regions q chains later s = some (.ok (), t) → Notified t.ops := by
  intro later
  induction later with
  | nil =>
    intro chains s t hs h
    rw [processUntilEmpty] at h
    split at h
    · cases h
    · cases h
    · rename_i notify u hbatch
      cases h
      exact notified_of_batch hs hbatch
  | cons more later ih =>
    intro chains s t hs h
    rw [processUntilEmpty] at h
    split at h
    · cases h
    · cases h
    · rename_i notify u hbatch
      exact ih more (notified_of_batch hs hbatch) h

/-- **When the driver is notified**: an event that is handled leaves the driver with a notification
for all that was used exactly if `EVENT_IDX` is on, or the queue was not to be processed, or the GPU
parked every chain of the batch. -/
theorem driver_notified_iff {g : σ} {t : WorkerState σ}
    (h : handleQueueEvent gpu regions q (.new g) = some (.ok (), t)) :
    Notified t.ops ↔ q.eventIdxEnabled = true ∨ q.readKick = .ok false ∨ q.tryLockQueue = false ∨
      ParksAll gpu regions q.avail g := by
  unfold handleQueueEvent at h
  split at h
  · cases h
  · rename_i hkick
    cases h
    exact ⟨fun _ => Or.inr (Or.inl hkick), fun _ => notified_nil⟩
  · rename_i hkick
    by_cases hlock : q.tryLockQueue = false
    · rw [if_pos hlock] at h
      cases h
      exact ⟨fun _ => Or.inr (Or.inr (Or.inl hlock)), fun _ => notified_nil⟩
    · rw [if_neg hlock] at h
      by_cases hidx : q.eventIdxEnabled = true
      · rw [if_pos hidx] at h
        have hn := processUntilEmpty_notified q.later q.avail (s := .new g) notified_nil h
        exact ⟨fun _ => Or.inl hidx, fun _ => hn⟩
      · rw [if_neg hidx] at h
        split at h
        · cases h
        · cases h
        · rename_i notify u hbatch
          cases h
          obtain ⟨added, hops, hsignal, -, hparks⟩ := processQueue_spec q.avail hbatch
          have hall : t.ops = added := hops
          rw [hall, notified_iff_of_no_signal hsignal, hparks]
          refine ⟨fun hp => Or.inr (Or.inr (Or.inr hp)), ?_⟩
          rintro (hi | hk | hl | hp)
          · exact absurd hi hidx
          · rw [hkick] at hk
            cases hk
          · exact absurd hl hlock
          · exact hp

end

/-! ### One request -/

/-- A GPU that does all it is asked for, and has no fence left open. -/
def readyGpu : VirtioGpu Unit where
  forceCtx0 := id
  displayInfo := pure (.ok .okNoData)
  getEdid _ := pure (.ok .okNoData)
  setScanout _ _ _ := pure (.ok .okNoData)
  resourceCreate3d _ _ := pure (.ok .okNoData)
  unrefResource _ := pure (.ok .okNoData)
  flushResource _ _ := pure (.ok .okNoData)
  transferWrite _ _ _ := pure (.ok .okNoData)
  transferRead _ _ _ := pure (.ok .okNoData)
  attachBacking _ _ := pure (.ok .okNoData)
  detachBacking _ := pure (.ok .okNoData)
  updateCursor _ _ _ _ := pure (.ok .okNoData)
  moveCursor _ _ := pure (.ok .okNoData)
  getCapsetInfo _ := pure (.ok .okNoData)
  getCapset _ _ := pure (.ok .okNoData)
  createContext _ _ _ := pure (.ok .okNoData)
  destroyContext _ := pure (.ok .okNoData)
  contextAttachResource _ _ := pure (.ok .okNoData)
  contextDetachResource _ _ := pure (.ok .okNoData)
  submitCommand _ _ _ := pure (.ok .okNoData)
  createFence _ := pure (.ok .okNoData)
  processFence _ _ _ _ := pure true

/-- A `CTX_DESTROY` without a fence, and room for the header of the response. -/
def ctxDestroyChain : RequestChain where
  headIndex := 7
  reader := some ([0x01, 0x02, 0, 0] ++ List.replicate 20 0)
  writer := some 24

/-- A queue with this one chain. -/
def oneChainQueue (eventIdxEnabled : Bool) : DeviceQueue where
  readKick := .ok true
  tryLockQueue := true
  eventIdxEnabled := eventIdxEnabled
  avail := [ctxDestroyChain]
  later := []
  addUsedSucceeds _ _ _ := true

/-- What is left of the event, if it is handled. -/
def handled (q : DeviceQueue) : Option (Except DeviceError Unit × WorkerState Unit) :=
  handleQueueEvent readyGpu [] q (.new ())

theorem driver_notified_iff_event_idx : ∃ t : WorkerState Unit,
    handled (oneChainQueue true) = some (.ok (), t) ∧
    t.ops = [.addUsed 7 24, .signalUsedQueue] ∧ Notified t.ops := by
  have h : handled (oneChainQueue true) =
      some (.ok (), ⟨(), [.addUsed 7 24, .signalUsedQueue]⟩) := rfl
  exact ⟨_, h, rfl, (driver_notified_iff h).mpr (Or.inl rfl)⟩

/-- **The driver is not told**: the request is answered, and no notification follows. -/
theorem ctx_destroy_not_notified : ∃ t : WorkerState Unit,
    handled (oneChainQueue false) = some (.ok (), t) ∧
    t.ops = [.addUsed 7 24] ∧ ¬ Notified t.ops :=
  ⟨_, rfl, rfl, fun h => absurd (h [] 7 24 [] rfl) List.not_mem_nil⟩

end VirtioPoc.Gpu
