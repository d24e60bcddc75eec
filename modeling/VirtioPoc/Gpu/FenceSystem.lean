import VirtioPoc.Gpu.Worker
import VirtioPoc.Base.Run

/-!
# The worker, the fence handler and the frontend

Three threads share the queues and the table of fences: the worker, which takes
requests from the control and the cursor queue; the fence handler, which
rutabaga calls when a fence is complete; and the thread of the frontend, which
enables and disables the rings, and starts and stops them.

A step is what one thread does between two points at which another can interfere.
What rutabaga, the guest and the frontend decide is part of the action.  A lock
is held by whoever is at a place in its code where it holds it.  A panic poisons
the locks that are held; here they stay taken.

`Transition` has a case for each branch that a step can take; what holds in
every reachable state is proved from it.
-/

namespace VirtioPoc.Gpu

open Base

inductive QueueId
  | control
  | cursor
  deriving DecidableEq

/-- A chain that was popped from a queue; `serial` tells it from the others, since the guest will use
a head index more than once. -/
structure Request where
  queue : QueueId
  serial : Nat
  chain : RequestChain
  deriving DecidableEq

/-- The header of the request, if it can be decoded. -/
def RequestChain.hdr (c : RequestChain) : Option VirtioGpuCtrlHdr :=
  match c.reader with
  | none => none
  | some reader =>
    match GpuCommand.decode reader with
    | .ok ((hdr, _), _) => some hdr
    | .error _ => none

/-- The fence of the request; all zero if it has none. -/
def RequestChain.fence (c : RequestChain) : RutabagaFence := .ofHdr c.hdr

def Request.fence (r : Request) : RutabagaFence := r.chain.fence

/-- An element of a used ring, for the head index of the request. -/
structure UsedElem where
  ring : QueueId
  request : Request
  len : UInt32

/-! ### The worker -/

/-- Where the worker is.  From `draining` on it has the guard of the queue, and from `executing` on
it is in `process_queue_chain`. -/
inductive WorkerPc
  | idle
  | locking (queue : QueueId)
  | draining (queue : QueueId)
  | executing (r : Request)
  | creatingFence (r : Request) (response : GpuResponse)
  | processingFence (r : Request) (len : UInt32)
  | addingUsed (r : Request) (len : UInt32)
  | failed (r : Request)
  | panicked (r : Request)
  deriving DecidableEq

/-- The queue that the worker has locked. -/
def WorkerPc.guard : WorkerPc → Option QueueId
  | .draining queue => some queue
  | .executing r | .creatingFence r _ | .processingFence r _ | .addingUsed r _ | .panicked r =>
    some r.queue
  | .idle | .locking _ | .failed _ => none

/-- The request that `process_queue_chain` works on, or has failed on. -/
def WorkerPc.hand : WorkerPc → Option Request
  | .executing r | .creatingFence r _ | .processingFence r _ | .addingUsed r _ | .failed r
  | .panicked r => some r
  | .idle | .locking _ | .draining _ => none

/-- Encode the response, and go on to the fence or to the used ring. -/
def Request.encode (r : Request) (response : GpuResponse) : WorkerPc :=
  match response.encode r.fence.flags r.fence.fenceId r.fence.ctxId r.fence.ringIdx
      ⟨r.chain.writer.getD 0, []⟩ with
  | none => .panicked r
  | some (.error _) => .failed r
  | some (.ok (len, _)) =>
    if r.fence.IsSet then .processingFence r len else .addingUsed r len

/-- What follows the execution: without room for a response the chain is used at once. -/
def Request.answer (r : Request) (response : GpuResponse) : WorkerPc :=
  if r.chain.writer = some 0 then .addingUsed r 0
  else if r.fence.IsSet then .creatingFence r response
  else r.encode response

/-- The command is executed, if the request can be decoded; `none` is a panic. -/
def Request.execute (r : Request) (result : Option GpuResponse) : WorkerPc :=
  match r.chain.hdr, result with
  | some _, none => .panicked r
  | some _, some response => r.answer response
  | none, _ => r.answer .errUnspec

/-! ### The fence handler -/

/-- Where the fence handler is.  It holds the lock of the table all the time. -/
inductive HandlerPc
  | idle
  | scanning (fence : RutabagaFence) (i : Nat)
  | tryingLock (fence : RutabagaFence) (i : Nat) (desc : FenceDescriptor Request)
  | locking (fence : RutabagaFence) (i : Nat) (desc : FenceDescriptor Request)
  | addingUsed (fence : RutabagaFence) (i : Nat) (desc : FenceDescriptor Request)
  | panicked (desc : FenceDescriptor Request)
  deriving DecidableEq

def HandlerPc.guard : HandlerPc → Option QueueId
  | .addingUsed .. | .panicked _ => some .control
  | .idle | .scanning .. | .tryingLock .. | .locking .. => none

/-- The request whose descriptor the handler has removed from the table. -/
def HandlerPc.hand : HandlerPc → Option Request
  | .tryingLock _ _ desc | .locking _ _ desc | .addingUsed _ _ desc | .panicked desc =>
    some desc.descIndex
  | .idle | .scanning .. => none

/-! ### The system -/

/-- `popped`, `used`, `created` and `delivered` record what has happened so far: the chains that the
worker popped, the elements of the used rings, the fences that rutabaga has created, and those whose
completion the handler has taken up. -/
structure FenceSystem where
  enabled : QueueId → Bool
  ready : QueueId → Bool
  worker : WorkerPc
  handler : HandlerPc
  fenceState : FenceState Request
  popped : List Request
  used : List UsedElem
  created : List RutabagaFence
  delivered : List RutabagaFence

inductive FenceAction
  /-- `set_vring_enable` -/
  | setEnabled (queue : QueueId) (enabled : Bool)
  /-- `Vring::start` and `Vring::stop` -/
  | setReady (queue : QueueId) (ready : Bool)
  /-- an event on the queue, up to the first check of `try_lock_queue` -/
  | event (queue : QueueId)
  | lockQueue
  /-- the next chain, or `none` when the worker finds no more and lets go of the queue -/
  | pop (chain : Option RequestChain)
  | execute (result : Option GpuResponse)
  | createFence (result : VirtioGpuResult)
  | processFence
  | addUsed (succeeds : Bool)
  /-- rutabaga calls the handler -/
  | fenceCompleted (fence : RutabagaFence)
  | handlerStep (addUsedSucceeds : Bool)

namespace FenceSystem

def new (enabled ready : QueueId → Bool) : FenceSystem :=
  { enabled := enabled, ready := ready, worker := .idle, handler := .idle,
    fenceState := .default, popped := [], used := [], created := [], delivered := [] }

/-- The checks of `try_lock_queue` under the lock. -/
def lockable (s : FenceSystem) (queue : QueueId) : Bool := s.enabled queue && s.ready queue

def pop (s : FenceSystem) (queue : QueueId) (chain : RequestChain) : FenceSystem :=
  let r : Request := { queue := queue, serial := s.popped.length, chain := chain }
  { s with
    popped := s.popped ++ [r]
    worker := if chain.reader = none ∨ chain.writer = none then .failed r else .executing r }

def addUsed (s : FenceSystem) (ring : QueueId) (request : Request) (len : UInt32) : FenceSystem :=
  { s with used := s.used ++ [{ ring := ring, request := request, len := len }] }

def processFence (s : FenceSystem) (r : Request) (len : UInt32) : FenceSystem :=
  let result := s.fenceState.processFence r.fence.ring r.fence.fenceId r len
  { s with
    fenceState := result.2
    worker := if result.1 then .addingUsed r len else .draining r.queue }

/-- The body of the handler, from one point at which it may have to wait to the next. -/
def handlerStep (s : FenceSystem) (addUsedSucceeds : Bool) : Option FenceSystem :=
  match s.handler with
  | .idle | .panicked _ => none
  | .scanning fence i =>
    match s.fenceState.descs[i]? with
    | none => some { s with fenceState := s.fenceState.complete fence, handler := .idle }
    | some desc =>
      if desc.CompletedBy fence then
        some { s with fenceState := s.fenceState.remove i, handler := .tryingLock fence i desc }
      else some { s with handler := .scanning fence (i + 1) }
  | .tryingLock fence i desc =>
    some { s with
      handler := if s.enabled .control then .locking fence i desc else .scanning fence i }
  | .locking fence i desc =>
    if s.worker.guard = some .control then none
    else some { s with
      handler := if s.lockable .control then .addingUsed fence i desc else .scanning fence i }
  | .addingUsed fence i desc =>
    if addUsedSucceeds then
      some { s.addUsed .control desc.descIndex desc.len with handler := .scanning fence i }
    else some { s with handler := .panicked desc }

def step (s : FenceSystem) : FenceAction → Option FenceSystem
  | .setEnabled queue enabled =>
    some { s with enabled := Function.update s.enabled queue enabled }
  | .setReady queue ready =>
    if s.worker.guard = some queue ∨ s.handler.guard = some queue then none
    else some { s with ready := Function.update s.ready queue ready }
  | .event queue =>
    match s.worker with
    | .idle => some { s with worker := if s.enabled queue then .locking queue else .idle }
    | _ => none
  | .lockQueue =>
    match s.worker with
    | .locking queue =>
      if s.handler.guard = some queue then none
      else some { s with worker := if s.lockable queue then .draining queue else .idle }
    | _ => none
  | .pop chain =>
    match s.worker, chain with
    | .draining queue, some chain => some (s.pop queue chain)
    | .draining _, none => some { s with worker := .idle }
    | _, _ => none
  | .execute result =>
    match s.worker with
    | .executing r => some { s with worker := r.execute result }
    | _ => none
  | .createFence result =>
    match s.worker, result with
    | .creatingFence r response, .ok _ =>
      some { s with created := s.created ++ [r.fence], worker := r.encode response }
    | .creatingFence r _, .error fenceResponse => some { s with worker := r.encode fenceResponse }
    | _, _ => none
  | .processFence =>
    match s.worker, s.handler with
    | .processingFence r len, .idle => some (s.processFence r len)
    | _, _ => none
  | .addUsed succeeds =>
    match s.worker with
    | .addingUsed r len =>
      if succeeds then some { s.addUsed r.queue r len with worker := .draining r.queue }
      else some { s with worker := .failed r }
    | _ => none
  | .fenceCompleted fence =>
    match s.handler with
    | .idle => some { s with delivered := s.delivered ++ [fence], handler := .scanning fence 0 }
    | _ => none
  | .handlerStep addUsedSucceeds => s.handlerStep addUsedSucceeds

/-! ### What a step does -/

/-- The step of `a` from `s`, with a case for each branch of the source. -/
inductive Transition (s : FenceSystem) : FenceAction → FenceSystem → Prop
  | setEnabled (queue enabled) : Transition s (.setEnabled queue enabled)
      { s with enabled := Function.update s.enabled queue enabled }
  | setReady (queue ready) (hw : s.worker.guard ≠ some queue) (hh : s.handler.guard ≠ some queue) :
      Transition s (.setReady queue ready) { s with ready := Function.update s.ready queue ready }
  | event (queue) (hw : s.worker = .idle) : Transition s (.event queue)
      { s with worker := if s.enabled queue then .locking queue else .idle }
  | lockQueue (queue) (hw : s.worker = .locking queue) (hh : s.handler.guard ≠ some queue) :
      Transition s .lockQueue
        { s with worker := if s.lockable queue then .draining queue else .idle }
  | pop (queue chain) (hw : s.worker = .draining queue) :
      Transition s (.pop (some chain)) (s.pop queue chain)
  | leave (queue) (hw : s.worker = .draining queue) :
      Transition s (.pop none) { s with worker := .idle }
  | execute (r result) (hw : s.worker = .executing r) :
      Transition s (.execute result) { s with worker := r.execute result }
  | fenceCreated (r response ok) (hw : s.worker = .creatingFence r response) :
      Transition s (.createFence (.ok ok))
        { s with created := s.created ++ [r.fence], worker := r.encode response }
  | fenceFailed (r response fenceResponse) (hw : s.worker = .creatingFence r response) :
      Transition s (.createFence (.error fenceResponse)) { s with worker := r.encode fenceResponse }
  | processFence (r len) (hw : s.worker = .processingFence r len) (hh : s.handler = .idle) :
      Transition s .processFence (s.processFence r len)
  | workerAdded (r len) (hw : s.worker = .addingUsed r len) : Transition s (.addUsed true)
      { s.addUsed r.queue r len with worker := .draining r.queue }
  | workerFailed (r len) (hw : s.worker = .addingUsed r len) : Transition s (.addUsed false)
      { s with worker := .failed r }
  | fenceCompleted (fence) (hh : s.handler = .idle) : Transition s (.fenceCompleted fence)
      { s with delivered := s.delivered ++ [fence], handler := .scanning fence 0 }
  | scanEnd (fence i ok) (hh : s.handler = .scanning fence i)
      (hd : s.fenceState.descs[i]? = none) : Transition s (.handlerStep ok)
        { s with fenceState := s.fenceState.complete fence, handler := .idle }
  | scanTake (fence i desc ok) (hh : s.handler = .scanning fence i)
      (hd : s.fenceState.descs[i]? = some desc) (hc : desc.CompletedBy fence) :
      Transition s (.handlerStep ok)
        { s with fenceState := s.fenceState.remove i, handler := .tryingLock fence i desc }
  | scanSkip (fence i desc ok) (hh : s.handler = .scanning fence i)
      (hd : s.fenceState.descs[i]? = some desc) (hc : ¬ desc.CompletedBy fence) :
      Transition s (.handlerStep ok) { s with handler := .scanning fence (i + 1) }
  | handlerChecks (fence i desc ok) (hh : s.handler = .tryingLock fence i desc) :
      Transition s (.handlerStep ok) { s with
        handler := if s.enabled .control then .locking fence i desc else .scanning fence i }
  | handlerLocks (fence i desc ok) (hh : s.handler = .locking fence i desc)
      (hw : s.worker.guard ≠ some .control) : Transition s (.handlerStep ok) { s with
        handler := if s.lockable .control then .addingUsed fence i desc else .scanning fence i }
  | handlerAdded (fence i desc) (hh : s.handler = .addingUsed fence i desc) :
      Transition s (.handlerStep true)
        { s.addUsed .control desc.descIndex desc.len with handler := .scanning fence i }
  | handlerFailed (fence i desc) (hh : s.handler = .addingUsed fence i desc) :
      Transition s (.handlerStep false) { s with handler := .panicked desc }

theorem transition_of_handlerStep {s t : FenceSystem} {ok : Bool}
    (h : s.handlerStep ok = some t) : s.Transition (.handlerStep ok) t := by
  rw [handlerStep] at h
  split at h
  · cases h
  · cases h
  · rename_i fence i hh
    split at h
    · rename_i hd
      cases h
      exact .scanEnd fence i ok hh hd
    · rename_i desc hd
      split at h
      · rename_i hc
        cases h
        exact .scanTake fence i desc ok hh hd hc
      · rename_i hc
        cases h
        exact .scanSkip fence i desc ok hh hd hc
  · rename_i fence i desc hh
    cases h
    exact .handlerChecks fence i desc ok hh
  · rename_i fence i desc hh
    split at h
    · cases h
    · rename_i hw
      cases h
      exact .handlerLocks fence i desc ok hh hw
  · rename_i fence i desc hh
    cases ok with
    | true =>
      cases h
      exact .handlerAdded fence i desc hh
    | false =>
      cases h
      exact .handlerFailed fence i desc hh

theorem transition_of_step {s t : FenceSystem} {a : FenceAction} (h : s.step a = some t) :
    s.Transition a t := by
  cases a with
  | setEnabled queue enabled =>
    cases h
    exact .setEnabled queue enabled
  | setReady queue ready =>
    obtain ⟨hfree, ht⟩ := Option.ite_none_left_eq_some.mp h
    cases ht
    exact .setReady queue ready (fun hw => hfree (Or.inl hw)) (fun hh => hfree (Or.inr hh))
  | event queue =>
    rw [step] at h
    split at h
    · rename_i hw
      cases h
      exact .event queue hw
    · cases h
  | lockQueue =>
    rw [step] at h
    split at h
    · rename_i queue hw
      obtain ⟨hh, ht⟩ := Option.ite_none_left_eq_some.mp h
      cases ht
      exact .lockQueue queue hw hh
    · cases h
  | pop chain =>
    unfold step at h
    dsimp only at h
    split at h
    · rename_i queue chain hw
      cases h
      exact .pop queue chain hw
    · rename_i queue hw
      cases h
      exact .leave queue hw
    · cases h
  | execute result =>
    rw [step] at h
    split at h
    · rename_i r hw
      cases h
      exact .execute r result hw
    · cases h
  | createFence result =>
    unfold step at h
    dsimp only at h
    split at h
    · rename_i r response ok hw
      cases h
      exact .fenceCreated r response ok hw
    · rename_i r response fenceResponse hw
      cases h
      exact .fenceFailed r response fenceResponse hw
    · cases h
  | processFence =>
    rw [step] at h
    split at h
    · rename_i r len hw hh
      cases h
      exact .processFence r len hw hh
    · cases h
  | addUsed succeeds =>
    rw [step] at h
    split at h
    · rename_i r len hw
      cases succeeds with
      | true =>
        cases h
        exact .workerAdded r len hw
      | false =>
        cases h
        exact .workerFailed r len hw
    · cases h
  | fenceCompleted fence =>
    rw [step] at h
    split at h
    · rename_i hh
      cases h
      exact .fenceCompleted fence hh
    · cases h
  | handlerStep ok => exact transition_of_handlerStep h

end FenceSystem

end VirtioPoc.Gpu
