import VirtioPoc.Base.Run
import VirtioPoc.Gpu.WorkerLoop

/-!
# What the worker does with the GPU

However its queues are filled, the worker uses the GPU in four ways: it executes
a command, it creates a fence and processes it, and it polls.  `acts_run` says
that the state of the GPU, wherever the loop of the worker has come to, is one
that these actions reach; so what they keep holds whatever the guest requests.
-/

namespace VirtioPoc.Gpu

open Base Virtio

inductive GpuAction
  | command (regions : List GuestRegion) (hdr : VirtioGpuCtrlHdr) (cmd : GpuCommand)
  | createFence (fence : RutabagaFence)
  | processFence (ring : VirtioGpuRing) (fenceId : UInt64) (descIndex : UInt16) (len : UInt32)
  | eventPoll

section

variable {σ : Type} (gpu : VirtioGpu σ) (eventPoll : σ → Option σ)

/-- `none` is a panic. -/
def VirtioGpu.act (s : σ) : GpuAction → Option σ
  | .command regions hdr cmd => (processGpuCommand gpu regions hdr cmd s).map Prod.snd
  | .createFence fence => some (gpu.createFence fence s).2
  | .processFence ring fenceId descIndex len =>
    some (gpu.processFence ring fenceId descIndex len s).2
  | .eventPoll => eventPoll s

/-- From `s` the actions lead to `t`. -/
abbrev VirtioGpu.Acts (s t : σ) : Prop := Reaches (gpu.act eventPoll) (fun _ _ => True) s t

variable {gpu eventPoll} {regions : List GuestRegion} {q : DeviceQueue} {s t : σ}

theorem VirtioGpu.Acts.single {a : GpuAction} (h : gpu.act eventPoll s a = some t) :
    gpu.Acts eventPoll s t := .tail .refl trivial h

theorem acts_execute {reader : List UInt8} {result : Option VirtioGpuCtrlHdr × GpuResponse}
    (h : execute gpu regions reader s = some (result, t)) : gpu.Acts eventPoll s t := by
  unfold execute at h
  split at h
  case h_1 hdr cmd _ hdecode =>
    rcases hcmd : processGpuCommand gpu regions hdr cmd s with _ | ⟨response | response, s'⟩
    · rw [hcmd] at h; cases h
    · rw [hcmd] at h
      cases h
      exact .single (a := .command regions hdr cmd) (by rw [VirtioGpu.act, hcmd]; rfl)
    · rw [hcmd] at h
      cases h
      exact .single (a := .command regions hdr cmd) (by rw [VirtioGpu.act, hcmd]; rfl)
  case h_2 => cases h; exact .refl

theorem acts_createFence (fence : RutabagaFence) (response : GpuResponse) (s : σ) :
    gpu.Acts eventPoll s (createFence gpu fence response s).2 := by
  unfold createFence
  split
  case isTrue =>
    have hact : gpu.Acts eventPoll s (gpu.createFence fence s).2 :=
      .single (a := .createFence fence) rfl
    rcases hresult : gpu.createFence fence s with ⟨result | result, s'⟩ <;> rw [hresult] at hact <;>
      exact hact
  case isFalse => exact .refl

theorem acts_addToQueue (fence : RutabagaFence) (headIndex : UInt16) (len : UInt32) (s : σ) :
    gpu.Acts eventPoll s (addToQueue gpu fence headIndex len s).2 := by
  unfold addToQueue
  split
  case isTrue => exact .single (a := .processFence fence.ring fence.fenceId headIndex len) rfl
  case isFalse => exact .refl

@[simp] theorem WorkerState.gpu_addUsed (headIndex : UInt16) (len : UInt32) (w : WorkerState σ) :
    (w.addUsed q headIndex len).2.gpu = w.gpu := by
  unfold WorkerState.addUsed
  split <;> rfl

theorem acts_processQueueChain {headIndex : UInt16} {reader : List UInt8} {writer : Nat}
    {w w' : WorkerState σ} {result : Except DeviceError Bool}
    (h : processQueueChain gpu regions q headIndex reader writer w = some (result, w')) :
    gpu.Acts eventPoll w.gpu w'.gpu := by
  unfold processQueueChain at h
  split at h
  case h_1 => cases h
  case h_2 ctrlHdr response g hexecute =>
    have hg : gpu.Acts eventPoll w.gpu g := acts_execute hexecute
    split at h
    case isTrue =>
      obtain rfl : _ = w' := congrArg Prod.snd (Option.some.inj h)
      rw [WorkerState.gpu_addUsed]
      exact hg
    case isFalse =>
      have hfence := hg.trans (acts_createFence (RutabagaFence.ofHdr ctrlHdr) response g)
      dsimp only at h
      split at h
      case h_1 => cases h
      case h_2 => cases h; exact hfence
      case h_3 responseLen _ _ =>
        have hqueue := hfence.trans (acts_addToQueue (RutabagaFence.ofHdr ctrlHdr) headIndex
          responseLen (createFence gpu (RutabagaFence.ofHdr ctrlHdr) response g).2)
        split at h
        case h_1 g' hadd =>
          rw [hadd] at hqueue
          obtain rfl : _ = w' := congrArg Prod.snd (Option.some.inj h)
          rw [WorkerState.gpu_addUsed]
          exact hqueue
        case h_2 g' hadd =>
          rw [hadd] at hqueue
          cases h
          exact hqueue

theorem acts_processQueue : ∀ (chains : List RequestChain) {signalUsedQueue : Bool}
    {w w' : WorkerState σ} {result : Except DeviceError Bool},
    processQueue gpu regions q chains signalUsedQueue w = some (result, w') →
      gpu.Acts eventPoll w.gpu w'.gpu := by
  intro chains
  induction chains with
  | nil =>
    intro signalUsedQueue w w' result h
    cases h
    exact .refl
  | cons chain chains ih =>
    intro signalUsedQueue w w' result h
    unfold processQueue at h
    split at h
    case h_1 | h_2 => cases h; exact .refl
    case h_3 =>
      split at h
      case h_1 => cases h
      case h_2 hchain => cases h; exact acts_processQueueChain hchain
      case h_3 hchain => exact (acts_processQueueChain hchain).trans (ih h)

theorem acts_processUntilEmpty : ∀ (later : List (List RequestChain)) {chains : List RequestChain}
    {w w' : WorkerState σ} {result : Except DeviceError Unit},
    processUntilEmpty gpu regions q chains later w = some (result, w') →
      gpu.Acts eventPoll w.gpu w'.gpu := by
  intro later
  induction later with
  | nil =>
    intro chains w w' result h
    unfold processUntilEmpty at h
    split at h
    case h_1 => cases h
    case h_2 hchains => cases h; exact acts_processQueue chains hchains
    case h_3 notify u hchains =>
      cases h
      have hu : gpu.Acts eventPoll w.gpu u.gpu := acts_processQueue chains hchains
      cases notify <;> exact hu
  | cons more later ih =>
    intro chains w w' result h
    unfold processUntilEmpty at h
    split at h
    case h_1 => cases h
    case h_2 hchains => cases h; exact acts_processQueue chains hchains
    case h_3 notify u hchains =>
      have hu : gpu.Acts eventPoll w.gpu u.gpu := acts_processQueue chains hchains
      refine hu.trans ?_
      cases notify with
      | false => exact ih (w := u) h
      | true => exact ih (w := u.record .signalUsedQueue) h

theorem acts_handleQueueEvent {w w' : WorkerState σ} {result : Except DeviceError Unit}
    (h : handleQueueEvent gpu regions q w = some (result, w')) :
    gpu.Acts eventPoll w.gpu w'.gpu := by
  unfold handleQueueEvent at h
  split at h
  case h_1 | h_2 => cases h; exact .refl
  case h_3 =>
    split at h
    case isTrue => cases h; exact .refl
    case isFalse =>
      split at h
      case isTrue => exact acts_processUntilEmpty q.later h
      case isFalse =>
        split at h
        case h_1 => cases h
        case h_2 hchains | h_3 hchains => cases h; exact acts_processQueue q.avail hchains

namespace GpuWorker

theorem acts_queueEvent (token : WorkerToken) (regions : List GuestRegion) (q : DeviceQueue)
    (s : RunState σ) :
    gpu.Acts eventPoll s.gpu (bodyState (queueEvent gpu token regions q s)).gpu := by
  unfold queueEvent
  split
  case h_1 => exact .refl
  case h_2 w hevent => exact acts_handleQueueEvent hevent
  case h_3 w hevent => exact acts_handleQueueEvent hevent

theorem acts_handleItem (item : Option WorkerEvent) (s : RunState σ) :
    gpu.Acts eventPoll s.gpu (bodyState (handleItem gpu eventPoll item s)).gpu := by
  cases item with
  | none => exact .refl
  | some event =>
    cases event with
    | quit => exact .refl
    | controlQ regions q | cursorQ regions q => exact acts_queueEvent _ regions q s
    | poll =>
      unfold handleItem handleEvent
      dsimp only
      split
      case h_1 => exact .refl
      case h_2 g hg => exact .single (a := .eventPoll) hg

/-- **What the worker does with the GPU**, wherever its loop has come to, also in a panic. -/
theorem acts_run (waits : List (Except Unit (List WorkerEvent))) (g : σ) :
    gpu.Acts eventPoll g (run gpu eventPoll waits g).state.gpu := by
  rw [run_eq]
  refine waitLoop_invariant (I := fun s : RunState σ => gpu.Acts eventPoll g s.gpu) ?_ (items waits) _ .refl
  exact fun item s hs => hs.trans (acts_handleItem item s)

end GpuWorker

end

end VirtioPoc.Gpu
