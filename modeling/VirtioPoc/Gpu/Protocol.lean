import VirtioPoc.Base.Layout
import Mathlib.Data.Fintype.Pi

/-!
# The virtio-gpu protocol

`device/virtio-gpu/src/protocol.rs`: the structs of the wire format, each with
its layout, the commands a guest can send and the responses it gets.  Every
struct is `repr(C)` without implicit padding and is read and written as the
bytes of its fields in order, so its layout is the product of theirs.
-/

namespace VirtioPoc.Gpu

open Base

def virtioGpuMaxScanouts : Nat := 16
def virtioGpuFlagFence : UInt32 := 1 <<< (0 : UInt32)
def virtioGpuFlagInfoRingIdx : UInt32 := 1 <<< (1 : UInt32)

/-! ### Structs of the wire format -/

/-- The header of every request and response. -/
structure VirtioGpuCtrlHdr where
  (type flags : UInt32)
  fenceId : UInt64
  ctxId : UInt32
  ringIdx : UInt8
  padding : Fin 3 → UInt8
  deriving DecidableEq

def VirtioGpuCtrlHdr.layout : Layout VirtioGpuCtrlHdr :=
  .iso (.prod .u32 <| .prod .u32 <| .prod .u64 <| .prod .u32 <| .prod .u8 (.array .u8 3))
    ⟨fun (a, b, c, d, e, f) => ⟨a, b, c, d, e, f⟩,
      fun s => (s.type, s.flags, s.fenceId, s.ctxId, s.ringIdx, s.padding),
      fun _ => rfl, fun _ => rfl⟩

structure VirtioGpuRect where
  (x y width height : UInt32)
  deriving DecidableEq

def VirtioGpuRect.layout : Layout VirtioGpuRect :=
  .iso (.prod .u32 <| .prod .u32 <| .prod .u32 .u32)
    ⟨fun (a, b, c, d) => ⟨a, b, c, d⟩,
      fun s => (s.x, s.y, s.width, s.height),
      fun _ => rfl, fun _ => rfl⟩

structure VirtioGpuCursorPos where
  (scanoutId x y padding : UInt32)
  deriving DecidableEq

def VirtioGpuCursorPos.layout : Layout VirtioGpuCursorPos :=
  .iso (.prod .u32 <| .prod .u32 <| .prod .u32 .u32)
    ⟨fun (a, b, c, d) => ⟨a, b, c, d⟩,
      fun s => (s.scanoutId, s.x, s.y, s.padding),
      fun _ => rfl, fun _ => rfl⟩

/-- `UPDATE_CURSOR` and `MOVE_CURSOR`; a move reads `pos` and `resourceId` only. -/
structure VirtioGpuUpdateCursor where
  pos : VirtioGpuCursorPos
  (resourceId hotX hotY padding : UInt32)
  deriving DecidableEq

def VirtioGpuUpdateCursor.layout : Layout VirtioGpuUpdateCursor :=
  .iso (.prod VirtioGpuCursorPos.layout <| .prod .u32 <| .prod .u32 <| .prod .u32 .u32)
    ⟨fun (a, b, c, d, e) => ⟨a, b, c, d, e⟩,
      fun s => (s.pos, s.resourceId, s.hotX, s.hotY, s.padding),
      fun _ => rfl, fun _ => rfl⟩

structure VirtioGpuGetEdid where
  (scanout padding : UInt32)
  deriving DecidableEq

def VirtioGpuGetEdid.layout : Layout VirtioGpuGetEdid :=
  .iso (.prod .u32 .u32)
    ⟨fun (a, b) => ⟨a, b⟩, fun s => (s.scanout, s.padding), fun _ => rfl, fun _ => rfl⟩

structure VirtioGpuResourceUnref where
  (resourceId padding : UInt32)
  deriving DecidableEq

def VirtioGpuResourceUnref.layout : Layout VirtioGpuResourceUnref :=
  .iso (.prod .u32 .u32)
    ⟨fun (a, b) => ⟨a, b⟩, fun s => (s.resourceId, s.padding), fun _ => rfl, fun _ => rfl⟩

structure VirtioGpuResourceCreate2d where
  (resourceId format width height : UInt32)
  deriving DecidableEq

def VirtioGpuResourceCreate2d.layout : Layout VirtioGpuResourceCreate2d :=
  .iso (.prod .u32 <| .prod .u32 <| .prod .u32 .u32)
    ⟨fun (a, b, c, d) => ⟨a, b, c, d⟩,
      fun s => (s.resourceId, s.format, s.width, s.height),
      fun _ => rfl, fun _ => rfl⟩

structure VirtioGpuSetScanout where
  r : VirtioGpuRect
  (scanoutId resourceId : UInt32)
  deriving DecidableEq

def VirtioGpuSetScanout.layout : Layout VirtioGpuSetScanout :=
  .iso (.prod VirtioGpuRect.layout <| .prod .u32 .u32)
    ⟨fun (a, b, c) => ⟨a, b, c⟩,
      fun s => (s.r, s.scanoutId, s.resourceId),
      fun _ => rfl, fun _ => rfl⟩

structure VirtioGpuResourceFlush where
  r : VirtioGpuRect
  (resourceId padding : UInt32)
  deriving DecidableEq

def VirtioGpuResourceFlush.layout : Layout VirtioGpuResourceFlush :=
  .iso (.prod VirtioGpuRect.layout <| .prod .u32 .u32)
    ⟨fun (a, b, c) => ⟨a, b, c⟩,
      fun s => (s.r, s.resourceId, s.padding),
      fun _ => rfl, fun _ => rfl⟩

structure VirtioGpuTransferToHost2d where
  r : VirtioGpuRect
  offset : UInt64
  (resourceId padding : UInt32)
  deriving DecidableEq

def VirtioGpuTransferToHost2d.layout : Layout VirtioGpuTransferToHost2d :=
  .iso (.prod VirtioGpuRect.layout <| .prod .u64 <| .prod .u32 .u32)
    ⟨fun (a, b, c, d) => ⟨a, b, c, d⟩,
      fun s => (s.r, s.offset, s.resourceId, s.padding),
      fun _ => rfl, fun _ => rfl⟩

/-- One entry of the backing pages of a resource. -/
structure VirtioGpuMemEntry where
  addr : UInt64
  (length padding : UInt32)
  deriving DecidableEq

def VirtioGpuMemEntry.layout : Layout VirtioGpuMemEntry :=
  .iso (.prod .u64 <| .prod .u32 .u32)
    ⟨fun (a, b, c) => ⟨a, b, c⟩,
      fun s => (s.addr, s.length, s.padding),
      fun _ => rfl, fun _ => rfl⟩

structure VirtioGpuResourceAttachBacking where
  (resourceId nrEntries : UInt32)
  deriving DecidableEq

def VirtioGpuResourceAttachBacking.layout : Layout VirtioGpuResourceAttachBacking :=
  .iso (.prod .u32 .u32)
    ⟨fun (a, b) => ⟨a, b⟩, fun s => (s.resourceId, s.nrEntries), fun _ => rfl, fun _ => rfl⟩

structure VirtioGpuResourceDetachBacking where
  (resourceId padding : UInt32)
  deriving DecidableEq

def VirtioGpuResourceDetachBacking.layout : Layout VirtioGpuResourceDetachBacking :=
  .iso (.prod .u32 .u32)
    ⟨fun (a, b) => ⟨a, b⟩, fun s => (s.resourceId, s.padding), fun _ => rfl, fun _ => rfl⟩

structure VirtioGpuBox where
  (x y z w h d : UInt32)
  deriving DecidableEq

def VirtioGpuBox.layout : Layout VirtioGpuBox :=
  .iso (.prod .u32 <| .prod .u32 <| .prod .u32 <| .prod .u32 <| .prod .u32 .u32)
    ⟨fun (a, b, c, d, e, f) => ⟨a, b, c, d, e, f⟩,
      fun s => (s.x, s.y, s.z, s.w, s.h, s.d),
      fun _ => rfl, fun _ => rfl⟩

/-- `TRANSFER_TO_HOST_3D` and `TRANSFER_FROM_HOST_3D`. -/
structure VirtioGpuTransferHost3d where
  box : VirtioGpuBox
  offset : UInt64
  (resourceId level stride layerStride : UInt32)
  deriving DecidableEq

def VirtioGpuTransferHost3d.layout : Layout VirtioGpuTransferHost3d :=
  .iso (.prod VirtioGpuBox.layout <| .prod .u64 <| .prod .u32 <| .prod .u32 <| .prod .u32 .u32)
    ⟨fun (a, b, c, d, e, f) => ⟨a, b, c, d, e, f⟩,
      fun s => (s.box, s.offset, s.resourceId, s.level, s.stride, s.layerStride),
      fun _ => rfl, fun _ => rfl⟩

structure VirtioGpuResourceCreate3d where
  (resourceId target format bind width height depth arraySize lastLevel nrSamples flags padding : UInt32)
  deriving DecidableEq

def VirtioGpuResourceCreate3d.layout : Layout VirtioGpuResourceCreate3d :=
  .iso (.prod .u32 <| .prod .u32 <| .prod .u32 <| .prod .u32 <| .prod .u32 <| .prod .u32 <| .prod
      .u32 <| .prod .u32 <| .prod .u32 <| .prod .u32 <| .prod .u32 .u32)
    ⟨fun (a, b, c, d, e, f, g, h, i, j, k, l) => ⟨a, b, c, d, e, f, g, h, i, j, k, l⟩,
      fun s => (s.resourceId, s.target, s.format, s.bind, s.width, s.height, s.depth, s.arraySize,
        s.lastLevel, s.nrSamples, s.flags, s.padding),
      fun _ => rfl, fun _ => rfl⟩

structure VirtioGpuCtxCreate where
  (nlen contextInit : UInt32)
  debugName : Fin 64 → UInt8
  deriving DecidableEq

def VirtioGpuCtxCreate.layout : Layout VirtioGpuCtxCreate :=
  .iso (.prod .u32 <| .prod .u32 (.array .u8 64))
    ⟨fun (a, b, c) => ⟨a, b, c⟩,
      fun s => (s.nlen, s.contextInit, s.debugName),
      fun _ => rfl, fun _ => rfl⟩

structure VirtioGpuCtxDestroy where
  deriving DecidableEq

def VirtioGpuCtxDestroy.layout : Layout VirtioGpuCtxDestroy :=
  .iso .unit ⟨fun _ => ⟨⟩, fun _ => (), fun _ => rfl, fun _ => rfl⟩

/-- `CTX_ATTACH_RESOURCE` and `CTX_DETACH_RESOURCE`. -/
structure VirtioGpuCtxResource where
  (resourceId padding : UInt32)
  deriving DecidableEq

def VirtioGpuCtxResource.layout : Layout VirtioGpuCtxResource :=
  .iso (.prod .u32 .u32)
    ⟨fun (a, b) => ⟨a, b⟩, fun s => (s.resourceId, s.padding), fun _ => rfl, fun _ => rfl⟩

/-- The in-fence ids come before the `size` bytes of the command buffer. -/
structure VirtioGpuCmdSubmit where
  (size numInFences : UInt32)
  deriving DecidableEq

def VirtioGpuCmdSubmit.layout : Layout VirtioGpuCmdSubmit :=
  .iso (.prod .u32 .u32)
    ⟨fun (a, b) => ⟨a, b⟩, fun s => (s.size, s.numInFences), fun _ => rfl, fun _ => rfl⟩

structure VirtioGpuGetCapsetInfo where
  (capsetIndex padding : UInt32)
  deriving DecidableEq

def VirtioGpuGetCapsetInfo.layout : Layout VirtioGpuGetCapsetInfo :=
  .iso (.prod .u32 .u32)
    ⟨fun (a, b) => ⟨a, b⟩, fun s => (s.capsetIndex, s.padding), fun _ => rfl, fun _ => rfl⟩

structure VirtioGpuGetCapset where
  (capsetId capsetVersion : UInt32)
  deriving DecidableEq

def VirtioGpuGetCapset.layout : Layout VirtioGpuGetCapset :=
  .iso (.prod .u32 .u32)
    ⟨fun (a, b) => ⟨a, b⟩, fun s => (s.capsetId, s.capsetVersion), fun _ => rfl, fun _ => rfl⟩

structure VirtioGpuResourceCreateBlob where
  (resourceId blobMem blobFlags nrEntries : UInt32)
  (blobId size : UInt64)
  deriving DecidableEq

def VirtioGpuResourceCreateBlob.layout : Layout VirtioGpuResourceCreateBlob :=
  .iso (.prod .u32 <| .prod .u32 <| .prod .u32 <| .prod .u32 <| .prod .u64 .u64)
    ⟨fun (a, b, c, d, e, f) => ⟨a, b, c, d, e, f⟩,
      fun s => (s.resourceId, s.blobMem, s.blobFlags, s.nrEntries, s.blobId, s.size),
      fun _ => rfl, fun _ => rfl⟩

structure VirtioGpuResourceMapBlob where
  (resourceId padding : UInt32)
  offset : UInt64
  deriving DecidableEq

def VirtioGpuResourceMapBlob.layout : Layout VirtioGpuResourceMapBlob :=
  .iso (.prod .u32 <| .prod .u32 .u64)
    ⟨fun (a, b, c) => ⟨a, b, c⟩,
      fun s => (s.resourceId, s.padding, s.offset),
      fun _ => rfl, fun _ => rfl⟩

structure VirtioGpuResourceUnmapBlob where
  (resourceId padding : UInt32)
  deriving DecidableEq

def VirtioGpuResourceUnmapBlob.layout : Layout VirtioGpuResourceUnmapBlob :=
  .iso (.prod .u32 .u32)
    ⟨fun (a, b) => ⟨a, b⟩, fun s => (s.resourceId, s.padding), fun _ => rfl, fun _ => rfl⟩

structure VirtioGpuResourceAssignUuid where
  (resourceId padding : UInt32)
  deriving DecidableEq

def VirtioGpuResourceAssignUuid.layout : Layout VirtioGpuResourceAssignUuid :=
  .iso (.prod .u32 .u32)
    ⟨fun (a, b) => ⟨a, b⟩, fun s => (s.resourceId, s.padding), fun _ => rfl, fun _ => rfl⟩

structure VirtioGpuSetScanoutBlob where
  r : VirtioGpuRect
  (scanoutId resourceId width height format padding : UInt32)
  (strides offsets : Fin 4 → UInt32)
  deriving DecidableEq

def VirtioGpuSetScanoutBlob.layout : Layout VirtioGpuSetScanoutBlob :=
  .iso (.prod VirtioGpuRect.layout <| .prod .u32 <| .prod .u32 <| .prod .u32 <| .prod .u32 <|
      .prod .u32 <| .prod .u32 <| .prod (.array .u32 4) (.array .u32 4))
    ⟨fun (a, b, c, d, e, f, g, h, i) => ⟨a, b, c, d, e, f, g, h, i⟩,
      fun s => (s.r, s.scanoutId, s.resourceId, s.width, s.height, s.format, s.padding, s.strides,
        s.offsets),
      fun _ => rfl, fun _ => rfl⟩

/-! ### Commands -/

/-- The requests a guest can make, with the data `decode` keeps of them. -/
inductive GpuCommand
  | getDisplayInfo
  | getEdid (req : VirtioGpuGetEdid)
  | resourceCreate2d (req : VirtioGpuResourceCreate2d)
  | resourceUnref (req : VirtioGpuResourceUnref)
  | setScanout (req : VirtioGpuSetScanout)
  | setScanoutBlob (req : VirtioGpuSetScanoutBlob)
  | resourceFlush (req : VirtioGpuResourceFlush)
  | transferToHost2d (req : VirtioGpuTransferToHost2d)
  | resourceAttachBacking (req : VirtioGpuResourceAttachBacking) (iovecs : List (UInt64 × UInt32))
  | resourceDetachBacking (req : VirtioGpuResourceDetachBacking)
  | getCapsetInfo (req : VirtioGpuGetCapsetInfo)
  | getCapset (req : VirtioGpuGetCapset)
  | ctxCreate (req : VirtioGpuCtxCreate)
  | ctxDestroy (req : VirtioGpuCtxDestroy)
  | ctxAttachResource (req : VirtioGpuCtxResource)
  | ctxDetachResource (req : VirtioGpuCtxResource)
  | resourceCreate3d (req : VirtioGpuResourceCreate3d)
  | transferToHost3d (req : VirtioGpuTransferHost3d)
  | transferFromHost3d (req : VirtioGpuTransferHost3d)
  | cmdSubmit3d (cmdData : List UInt8) (fenceIds : List UInt64)
  | resourceCreateBlob (req : VirtioGpuResourceCreateBlob)
  | resourceMapBlob (req : VirtioGpuResourceMapBlob)
  | resourceUnmapBlob (req : VirtioGpuResourceUnmapBlob)
  | updateCursor (req : VirtioGpuUpdateCursor)
  | moveCursor (req : VirtioGpuUpdateCursor)
  | resourceAssignUuid (req : VirtioGpuResourceAssignUuid)
  deriving DecidableEq

end VirtioPoc.Gpu
