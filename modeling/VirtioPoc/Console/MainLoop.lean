import VirtioPoc.Base.Loop

/-!
# The loop of the console worker

`MainWorker::run`.  The worker waits for a batch of events and handles them one
after the other.  `Quit` is the event of the file descriptor that
`Console::stop` writes to before it joins the thread; its arm is a `break`,
which leaves the loop over the batch and not the one around it.

`process_rx` and `process_tx` are parameters here, with whatever they find in
their queues as a part of the state.  The registration of the events is taken
to succeed.
-/

namespace VirtioPoc.Console

open Base

namespace MainWorker

inductive WorkerToken
  | controlRxq
  | controlTxq
  | quit
  deriving DecidableEq

/-- What the loop calls; `none` is a panic. -/
structure Calls (σ : Type) where
  writeQueueEvt : σ → Option σ
  processRx : σ → Option σ
  processTx : σ → Option σ

/-- The worker, with the events that it has handled. -/
structure LoopState (σ : Type) where
  worker : σ
  handled : List WorkerToken
  deriving DecidableEq

variable {σ : Type}

/-- An arm of the `match` on the token that is a call. -/
def call (f : σ → Option σ) (token : WorkerToken) (s : LoopState σ) :
    Except (LoopState σ) (Flow × LoopState σ) :=
  let s := { s with handled := s.handled ++ [token] }
  match f s.worker with
  | none => .error s
  | some worker => .ok (.next, { s with worker := worker })

/-- The body of the loop over a batch. -/
def handleEvent (calls : Calls σ) (token : WorkerToken) (s : LoopState σ) :
    Except (LoopState σ) (Flow × LoopState σ) :=
  match calls.writeQueueEvt s.worker with
  | none => .error s
  | some worker =>
    let s := { s with worker := worker }
    match token with
    | .controlRxq => call calls.processRx token s
    | .controlTxq => call calls.processTx token s
    | .quit => .ok (.leave, s)

/-- The body of the outer loop. -/
def handleBatch (calls : Calls σ) (batch : List WorkerToken) (s : LoopState σ) :
    Except (LoopState σ) (Flow × LoopState σ) :=
  match forLoop (handleEvent calls) batch s with
  | .error s => .error s
  | .ok s => .ok (.next, s)

def run (calls : Calls σ) (batches : List (List WorkerToken)) (worker : σ) : Exit (LoopState σ) :=
  waitLoop (handleBatch calls) batches { worker := worker, handled := [] }

/-- **The worker stops when told to**: it returns, and the events that it has handled were delivered
before the first `Quit`. -/
def StopsAtQuit (calls : Calls σ) (batches : List (List WorkerToken)) (worker : σ) : Prop :=
  ∃ s, run calls batches worker = .returned s ∧
    s.handled <+: batches.flatten.takeWhile fun token => token ≠ .quit

/-! ### What is handled -/

theorem call_eq_ok {f : σ → Option σ} {token : WorkerToken} {s t : LoopState σ} {flow : Flow}
    (h : call f token s = .ok (flow, t)) : flow = .next ∧ t.handled = s.handled ++ [token] := by
  unfold call at h
  dsimp only at h
  cases hf : f s.worker with
  | none => rw [hf] at h; cases h
  | some worker =>
    rw [hf] at h
    cases h
    exact ⟨rfl, rfl⟩

theorem call_of_some {f : σ → Option σ} {token : WorkerToken} {s : LoopState σ} {worker : σ}
    (h : f s.worker = some worker) :
    call f token s = .ok (.next, ⟨worker, s.handled ++ [token]⟩) := by
  simp only [call, h]

/-- `Quit` alone leaves the loop over a batch, and it is not handled. -/
theorem handleEvent_eq_ok {calls : Calls σ} {token : WorkerToken} {s t : LoopState σ} {flow : Flow}
    (h : handleEvent calls token s = .ok (flow, t)) :
    flow = .next ∧ token ≠ .quit ∧ t.handled = s.handled ++ [token] ∨
      flow = .leave ∧ token = .quit ∧ t.handled = s.handled := by
  unfold handleEvent at h
  cases hwrite : calls.writeQueueEvt s.worker with
  | none => rw [hwrite] at h; cases h
  | some worker =>
    rw [hwrite] at h
    cases token with
    | quit =>
      cases h
      exact .inr ⟨rfl, rfl, rfl⟩
    | controlRxq | controlTxq =>
      obtain ⟨hflow, hhandled⟩ := call_eq_ok h
      exact .inl ⟨hflow, nofun, hhandled⟩

/-- **The rest of a batch is dropped** at a `Quit`. -/
theorem forLoop_handled {calls : Calls σ} {batch : List WorkerToken} {s t : LoopState σ}
    (h : forLoop (handleEvent calls) batch s = .ok t) :
    t.handled = s.handled ++ batch.takeWhile fun token => token ≠ .quit := by
  have hnext : ∀ token s t, handleEvent calls token s = .ok (.next, t) →
      decide (token = .quit) = false ∧ t.handled = s.handled ++ [token] := by
    intro token s t hbody
    rcases handleEvent_eq_ok hbody with ⟨-, hne, hhandled⟩ | ⟨hflow, -⟩
    · exact ⟨decide_eq_false hne, hhandled⟩
    · cases hflow
  have hleave : ∀ token s t, handleEvent calls token s = .ok (.leave, t) →
      decide (token = .quit) = true ∧ t.handled = s.handled := by
    intro token s t hbody
    rcases handleEvent_eq_ok hbody with ⟨hflow, -⟩ | ⟨-, heq, hhandled⟩
    · cases hflow
    · exact ⟨decide_eq_true heq, hhandled⟩
  rw [forLoop_record _ LoopState.handled hnext hleave batch s t h]
  simp

/-- The outer loop is never left. -/
theorem handleBatch_ne_leave (calls : Calls σ) (batch : List WorkerToken) (s t : LoopState σ) :
    handleBatch calls batch s ≠ .ok (.leave, t) := by
  unfold handleBatch
  cases forLoop (handleEvent calls) batch s with
  | error => exact nofun
  | ok => exact nofun

/-- No call panics. -/
structure Calls.Return (calls : Calls σ) : Prop where
  writeQueueEvt : ∀ worker, ∃ worker', calls.writeQueueEvt worker = some worker'
  processRx : ∀ worker, ∃ worker', calls.processRx worker = some worker'
  processTx : ∀ worker, ∃ worker', calls.processTx worker = some worker'

theorem handleEvent_isOk {calls : Calls σ} (h : calls.Return) (token : WorkerToken)
    (s : LoopState σ) : ∃ r, handleEvent calls token s = .ok r := by
  obtain ⟨worker, hwrite⟩ := h.writeQueueEvt s.worker
  unfold handleEvent
  rw [hwrite]
  cases token with
  | controlRxq =>
    obtain ⟨worker', hcall⟩ := h.processRx worker
    exact ⟨_, call_of_some hcall⟩
  | controlTxq =>
    obtain ⟨worker', hcall⟩ := h.processTx worker
    exact ⟨_, call_of_some hcall⟩
  | quit => exact ⟨_, rfl⟩

/-- **The worker waits for more**: of every batch it has handled what comes before the first `Quit`
in it. -/
theorem run_waits {calls : Calls σ} (h : calls.Return) (batches : List (List WorkerToken))
    (worker : σ) : ∃ s, run calls batches worker = .waiting s ∧
      s.handled = batches.flatMap fun batch => batch.takeWhile fun token => token ≠ .quit := by
  have hbatch : ∀ batch s, ∃ t, handleBatch calls batch s = .ok (.next, t) ∧
      t.handled = s.handled ++ batch.takeWhile fun token => token ≠ .quit := by
    intro batch s
    obtain ⟨t, ht⟩ := forLoop_isOk (handleEvent_isOk h) batch s
    exact ⟨t, by rw [handleBatch, ht], forLoop_handled ht⟩
  exact waitLoop_record LoopState.handled _ hbatch batches { worker := worker, handled := [] }

/-- **The worker never stops**, whatever its calls do and whichever events it is given. -/
theorem run_never_stops (calls : Calls σ) (batches : List (List WorkerToken)) (worker : σ) :
    ¬ StopsAtQuit calls batches worker := by
  rintro ⟨s, hrun, -⟩
  exact waitLoop_ne_returned (handleBatch_ne_leave calls) batches _ s hrun

/-- No queue has been kicked, and the calls return at once.  The event behind `Quit` is dropped with
the batch, the one in the next batch is handled, and the worker waits on. -/
theorem quit_not_obeyed :
    let calls : Calls Unit := ⟨some, some, some⟩
    let batches : List (List WorkerToken) :=
      [[.controlTxq, .quit, .controlRxq], [.controlRxq]]
    run calls batches () = .waiting ⟨(), [.controlTxq, .controlRxq]⟩ ∧
      ¬ StopsAtQuit calls batches () := by
  refine ⟨rfl, ?_⟩
  rintro ⟨s, hrun, -⟩
  cases hrun

end MainWorker

end VirtioPoc.Console
