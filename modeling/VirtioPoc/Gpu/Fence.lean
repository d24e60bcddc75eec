import VirtioPoc.Gpu.Protocol
import Mathlib.Logic.Function.Basic

/-!
# Fences

The table of fences that the worker shares with the fence handler, from
`virtio_gpu.rs`.  A request with the fence flag is parked in it until its fence
is complete; for each ring it also has the last completed fence.

What is parked is only ever handed on, so its type is left open; in the source
it is the head index of the descriptor chain.
-/

namespace VirtioPoc.Gpu

inductive VirtioGpuRing
  | global
  | contextSpecific (ctxId : UInt32) (ringIdx : UInt8)
  deriving DecidableEq

/-- `RutabagaFence`, also for the four fields of a request without the fence flag, all zero. -/
structure RutabagaFence where
  flags : UInt32
  fenceId : UInt64
  ctxId : UInt32
  ringIdx : UInt8
  deriving DecidableEq

namespace RutabagaFence

/-- The fields that `process_queue_chain` takes from the header. -/
def ofHdr : Option VirtioGpuCtrlHdr → RutabagaFence
  | some hdr =>
    if hdr.flags &&& virtioGpuFlagFence ≠ 0 then ⟨hdr.flags, hdr.fenceId, hdr.ctxId, hdr.ringIdx⟩
    else ⟨0, 0, 0, 0⟩
  | none => ⟨0, 0, 0, 0⟩

def IsSet (f : RutabagaFence) : Prop := f.flags &&& virtioGpuFlagFence ≠ 0

instance (f : RutabagaFence) : Decidable f.IsSet := inferInstanceAs (Decidable (_ ≠ _))

/-- The ring of a fence.  The worker computes it for a request, and the handler for a fence that
was completed. -/
def ring (f : RutabagaFence) : VirtioGpuRing :=
  if f.flags &&& virtioGpuFlagInfoRingIdx = 0 then .global else .contextSpecific f.ctxId f.ringIdx

end RutabagaFence

structure FenceDescriptor (α : Type) where
  ring : VirtioGpuRing
  fenceId : UInt64
  descIndex : α
  len : UInt32
  deriving DecidableEq

/-- The descriptor waits for this fence, or for an earlier one of its ring. -/
def FenceDescriptor.CompletedBy {α : Type} (d : FenceDescriptor α) (f : RutabagaFence) : Prop :=
  d.ring = f.ring ∧ d.fenceId ≤ f.fenceId

instance {α : Type} (d : FenceDescriptor α) (f : RutabagaFence) : Decidable (d.CompletedBy f) :=
  inferInstanceAs (Decidable (_ ∧ _))

structure FenceState (α : Type) where
  descs : List (FenceDescriptor α)
  completedFences : VirtioGpuRing → Option UInt64

namespace FenceState

variable {α : Type}

def default : FenceState α := { descs := [], completedFences := fun _ => none }

/-- `completed_fences.get(&ring).unwrap_or(&0)`. -/
def watermark (s : FenceState α) (ring : VirtioGpuRing) : UInt64 := (s.completedFences ring).getD 0

/-- `process_fence`: `true` if the fence is complete already. -/
def processFence (s : FenceState α) (ring : VirtioGpuRing) (fenceId : UInt64) (descIndex : α)
    (len : UInt32) : Bool × FenceState α :=
  if fenceId > s.watermark ring then
    (false, { s with descs := s.descs ++ [⟨ring, fenceId, descIndex, len⟩] })
  else (true, s)

/-- `descs.remove(i)`. -/
def remove (s : FenceState α) (i : Nat) : FenceState α := { s with descs := s.descs.eraseIdx i }

/-- `completed_fences.insert(ring, fence_id)`. -/
def complete (s : FenceState α) (f : RutabagaFence) : FenceState α :=
  { s with completedFences := Function.update s.completedFences f.ring (some f.fenceId) }

end FenceState

end VirtioPoc.Gpu
