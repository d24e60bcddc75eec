import VirtioPoc.Gpu.Decode
import VirtioPoc.Gpu.Fence
import VirtioPoc.Gpu.Scanouts
import VirtioPoc.Virtio.Memory

/-!
# The GPU worker

`worker.rs`, from an event on a queue down to the execution of a command.  The
GPU is any implementation of the trait `VirtioGpu`, on a state of its own.  The
chains that the queue yields are given, with the bytes that can be read from
each and the number that can be written.  `none` is a panic.

The locks and the other threads are in `FenceSystem`; here a queue that was
locked is the worker's own.  The `unwrap`s on the notifications of the queue are
taken to succeed.
-/

namespace VirtioPoc.Gpu

open Virtio

/-! ### The trait `VirtioGpu` -/

/-- `Transfer3D` of rutabaga. -/
structure Transfer3D where
  (x y z w h d level stride layerStride : UInt32)
  offset : UInt64
  deriving DecidableEq

def Transfer3D.new2d (x y w h : UInt32) (offset : UInt64) : Transfer3D :=
  { x := x, y := y, z := 0, w := w, h := h, d := 1, level := 0, stride := 0, layerStride := 0,
    offset := offset }

/-- `RutabagaIovec`, with the guest address in place of the host pointer. -/
structure RutabagaIovec where
  base : UInt64
  len : UInt32
  deriving DecidableEq

structure VhostUserGpuCursorPos where
  (scanoutId x y : UInt32)
  deriving DecidableEq

inductive FromBytesWithNulError
  | interiorNul (position : Nat)
  | notNulTerminated
  deriving DecidableEq

/-- The methods that the worker calls. -/
structure VirtioGpu (σ : Type) where
  forceCtx0 : σ → σ
  displayInfo : StateM σ VirtioGpuResult
  getEdid : (scanoutId : UInt32) → StateM σ VirtioGpuResult
  setScanout : (scanoutId resourceId : UInt32) → Rectangle → StateM σ VirtioGpuResult
  resourceCreate3d : (resourceId : UInt32) → ResourceCreate3D → StateM σ VirtioGpuResult
  unrefResource : (resourceId : UInt32) → StateM σ VirtioGpuResult
  flushResource : (resourceId : UInt32) → Rectangle → StateM σ VirtioGpuResult
  transferWrite : (ctxId resourceId : UInt32) → Transfer3D → StateM σ VirtioGpuResult
  transferRead : (ctxId resourceId : UInt32) → Transfer3D → StateM σ VirtioGpuResult
  attachBacking : (resourceId : UInt32) → List RutabagaIovec → StateM σ VirtioGpuResult
  detachBacking : (resourceId : UInt32) → StateM σ VirtioGpuResult
  updateCursor : (resourceId : UInt32) → VhostUserGpuCursorPos → (hotX hotY : UInt32) →
    StateM σ VirtioGpuResult
  moveCursor : (resourceId : UInt32) → VhostUserGpuCursorPos → StateM σ VirtioGpuResult
  getCapsetInfo : (index : UInt32) → StateM σ VirtioGpuResult
  getCapset : (capsetId version : UInt32) → StateM σ VirtioGpuResult
  createContext : (ctxId contextInit : UInt32) →
    (contextName : Except FromBytesWithNulError (List UInt8)) → StateM σ VirtioGpuResult
  destroyContext : (ctxId : UInt32) → StateM σ VirtioGpuResult
  contextAttachResource : (ctxId resourceId : UInt32) → StateM σ VirtioGpuResult
  contextDetachResource : (ctxId resourceId : UInt32) → StateM σ VirtioGpuResult
  submitCommand : (ctxId : UInt32) → (commands : List UInt8) → (fenceIds : List UInt64) →
    StateM σ VirtioGpuResult
  createFence : RutabagaFence → StateM σ VirtioGpuResult
  processFence : VirtioGpuRing → (fenceId : UInt64) → (descIndex : UInt16) → (len : UInt32) →
    StateM σ Bool

/-! ### Commands -/

/-- `CStr::from_bytes_with_nul`; the text that is made of the result is not kept. -/
def fromBytesWithNul (bytes : List UInt8) : Except FromBytesWithNulError (List UInt8) :=
  let position := bytes.findIdx (· = 0)
  if position = bytes.length then .error .notNulTerminated
  else if position + 1 = bytes.length then .ok (bytes.take position)
  else .error (.interiorNul position)

def VirtioGpuCtxCreate.getDebugName (req : VirtioGpuCtxCreate) :
    Except FromBytesWithNulError (List UInt8) :=
  fromBytesWithNul ((List.ofFn req.debugName).take (min 64 req.nlen.toNat))

/-- `mem.get_slice(addr, len)` succeeds: the range lies inside one region. -/
def getSlice (regions : List GuestRegion) (addr : UInt64) (len : UInt32) : Bool :=
  match findRegion regions addr.toNat with
  | none => false
  | some region => addr.toNat + len.toNat ≤ region.stop

def rutabagaIovecsFromGuestMem (regions : List GuestRegion) (vecs : List (UInt64 × UInt32)) :
    Except GpuResponse (List RutabagaIovec) :=
  if vecs.any fun v => ! getSlice regions v.1 v.2 then .error .errInvalidParameter
  else .ok (vecs.map fun v => ⟨v.1, v.2⟩)

section

variable {σ : Type} (gpu : VirtioGpu σ) (regions : List GuestRegion)

def rutabagaPipeTexture2d : UInt32 := 2
def rutabagaPipeBindRenderTarget : UInt32 := 2

def handleResourceCreate2d (req : VirtioGpuResourceCreate2d) : StateM σ VirtioGpuResult :=
  gpu.resourceCreate3d req.resourceId
    { target := rutabagaPipeTexture2d, format := req.format, bind := rutabagaPipeBindRenderTarget,
      width := req.width, height := req.height, depth := 1, arraySize := 1, lastLevel := 0,
      nrSamples := 0, flags := 0 }

def handleTransferToHost2d (req : VirtioGpuTransferToHost2d) : StateM σ VirtioGpuResult :=
  gpu.transferWrite 0 req.resourceId
    (.new2d req.r.x req.r.y req.r.width req.r.height req.offset)

def handleUpdateCursor (req : VirtioGpuUpdateCursor) : StateM σ VirtioGpuResult :=
  gpu.updateCursor req.resourceId ⟨req.pos.scanoutId, req.pos.x, req.pos.y⟩ req.hotX req.hotY

def handleMoveCursor (req : VirtioGpuUpdateCursor) : StateM σ VirtioGpuResult :=
  gpu.moveCursor req.resourceId ⟨req.pos.scanoutId, req.pos.x, req.pos.y⟩

def handleCtxCreate (hdr : VirtioGpuCtrlHdr) (req : VirtioGpuCtxCreate) :
    StateM σ VirtioGpuResult :=
  gpu.createContext hdr.ctxId req.contextInit req.getDebugName

def handleResourceCreate3d (req : VirtioGpuResourceCreate3d) : StateM σ VirtioGpuResult :=
  gpu.resourceCreate3d req.resourceId
    { target := req.target, format := req.format, bind := req.bind, width := req.width,
      height := req.height, depth := req.depth, arraySize := req.arraySize,
      lastLevel := req.lastLevel, nrSamples := req.nrSamples, flags := req.flags }

def VirtioGpuTransferHost3d.transfer (req : VirtioGpuTransferHost3d) : Transfer3D :=
  { x := req.box.x, y := req.box.y, z := req.box.z, w := req.box.w, h := req.box.h,
    d := req.box.d, level := req.level, stride := req.stride, layerStride := req.layerStride,
    offset := req.offset }

def handleTransferToHost3d (ctxId : UInt32) (req : VirtioGpuTransferHost3d) :
    StateM σ VirtioGpuResult :=
  gpu.transferWrite ctxId req.resourceId req.transfer

def handleTransferFromHost3d (ctxId : UInt32) (req : VirtioGpuTransferHost3d) :
    StateM σ VirtioGpuResult :=
  gpu.transferRead ctxId req.resourceId req.transfer

def processGpuCommand (hdr : VirtioGpuCtrlHdr) (cmd : GpuCommand) (s : σ) :
    Option (VirtioGpuResult × σ) :=
  let s := gpu.forceCtx0 s
  match cmd with
  | .getDisplayInfo => some (gpu.displayInfo s)
  | .getEdid req => some (gpu.getEdid req.scanout s)
  | .resourceCreate2d req => some (handleResourceCreate2d gpu req s)
  | .resourceUnref req => some (gpu.unrefResource req.resourceId s)
  | .setScanout req => some (gpu.setScanout req.scanoutId req.resourceId req.r.toRectangle s)
  | .resourceFlush req => some (gpu.flushResource req.resourceId req.r.toRectangle s)
  | .transferToHost2d req => some (handleTransferToHost2d gpu req s)
  | .resourceAttachBacking req iovecs =>
    match rutabagaIovecsFromGuestMem regions iovecs with
    | .error response => some (.error response, s)
    | .ok iovecs => some (gpu.attachBacking req.resourceId iovecs s)
  | .resourceDetachBacking req => some (gpu.detachBacking req.resourceId s)
  | .updateCursor req => some (handleUpdateCursor gpu req s)
  | .moveCursor req => some (handleMoveCursor gpu req s)
  | .resourceAssignUuid _ => none
  | .getCapsetInfo req => some (gpu.getCapsetInfo req.capsetIndex s)
  | .getCapset req => some (gpu.getCapset req.capsetId req.capsetVersion s)
  | .ctxCreate req => some (handleCtxCreate gpu hdr req s)
  | .ctxDestroy _ => some (gpu.destroyContext hdr.ctxId s)
  | .ctxAttachResource req => some (gpu.contextAttachResource hdr.ctxId req.resourceId s)
  | .ctxDetachResource req => some (gpu.contextDetachResource hdr.ctxId req.resourceId s)
  | .resourceCreate3d req => some (handleResourceCreate3d gpu req s)
  | .transferToHost3d req => some (handleTransferToHost3d gpu hdr.ctxId req s)
  | .transferFromHost3d req => some (handleTransferFromHost3d gpu hdr.ctxId req s)
  | .cmdSubmit3d cmdData fenceIds => some (gpu.submitCommand hdr.ctxId cmdData fenceIds s)
  | .resourceCreateBlob _ => none
  | .setScanoutBlob _ => none
  | .resourceMapBlob _ => none
  | .resourceUnmapBlob _ => none

/-! ### Queues -/

inductive DeviceError
  | createReader
  | createWriter
  | gpuResponseEncode (e : GpuResponseEncodeError)
  | queueAddUsed
  | io
  deriving DecidableEq

/-- What the worker does with a queue. -/
inductive QueueOp
  | addUsed (headIndex : UInt16) (len : UInt32)
  | signalUsedQueue
  deriving DecidableEq

/-- A chain that was popped: the bytes of its readable descriptors, and how many the writable ones
have; `none` when the reader or the writer cannot be created. -/
structure RequestChain where
  headIndex : UInt16
  reader : Option (List UInt8)
  writer : Option Nat
  deriving DecidableEq

/-- A queue during one event.  `avail` is what the first `process_queue` pops; for each time that
`enable_notification` returns `true` after it, `later` has what the next one pops. -/
structure DeviceQueue where
  readKick : Except DeviceError Bool
  tryLockQueue : Bool
  eventIdxEnabled : Bool
  avail : List RequestChain
  later : List (List RequestChain)
  addUsedSucceeds : List QueueOp → (headIndex : UInt16) → (len : UInt32) → Bool

structure WorkerState (σ : Type) where
  gpu : σ
  ops : List QueueOp

namespace WorkerState

variable (q : DeviceQueue)

def new (g : σ) : WorkerState σ := { gpu := g, ops := [] }

def record (s : WorkerState σ) (op : QueueOp) : WorkerState σ := { s with ops := s.ops ++ [op] }

/-- `queue.add_used(..).map_err(..)?; Ok(true)`. -/
def addUsed (headIndex : UInt16) (len : UInt32) (s : WorkerState σ) :
    Except DeviceError Bool × WorkerState σ :=
  if q.addUsedSucceeds s.ops headIndex len then (.ok true, s.record (.addUsed headIndex len))
  else (.error .queueAddUsed, s)

end WorkerState

/-- Decode the request and execute it: its header, if it has one, and the response. -/
def execute (reader : List UInt8) (s : σ) :
    Option ((Option VirtioGpuCtrlHdr × GpuResponse) × σ) :=
  match GpuCommand.decode reader with
  | .ok ((hdr, cmd), _) =>
    match processGpuCommand gpu regions hdr cmd s with
    | none => none
    | some (.ok response, s) => some ((some hdr, response), s)
    | some (.error response, s) => some ((some hdr, response), s)
  | .error _ => some ((none, .errUnspec), s)

/-- `create_fence` for a request with the fence flag; its error becomes the response. -/
def createFence (fence : RutabagaFence) (response : GpuResponse) (s : σ) : GpuResponse × σ :=
  if fence.IsSet then
    match gpu.createFence fence s with
    | (.ok _, s) => (response, s)
    | (.error fenceResponse, s) => (fenceResponse, s)
  else (response, s)

/-- `add_to_queue`. -/
def addToQueue (fence : RutabagaFence) (headIndex : UInt16) (len : UInt32) (s : σ) : Bool × σ :=
  if fence.IsSet then gpu.processFence fence.ring fence.fenceId headIndex len s else (true, s)

variable (q : DeviceQueue)

def processQueueChain (headIndex : UInt16) (reader : List UInt8) (writer : Nat)
    (s : WorkerState σ) : Option (Except DeviceError Bool × WorkerState σ) :=
  match execute gpu regions reader s.gpu with
  | none => none
  | some ((ctrlHdr, response), g) =>
    if writer = 0 then some ({ s with gpu := g }.addUsed q headIndex 0)
    else
      let fence := RutabagaFence.ofHdr ctrlHdr
      let (response, g) := createFence gpu fence response g
      match response.encode fence.flags fence.fenceId fence.ctxId fence.ringIdx ⟨writer, []⟩ with
      | none => none
      | some (.error e) => some (.error (.gpuResponseEncode e), { s with gpu := g })
      | some (.ok (responseLen, _)) =>
        match addToQueue gpu fence headIndex responseLen g with
        | (true, g) => some ({ s with gpu := g }.addUsed q headIndex responseLen)
        | (false, g) => some (.ok false, { s with gpu := g })

/-- The loop over the chains, with what `signal_used_queue` is so far. -/
def processQueue : List RequestChain → Bool → WorkerState σ →
    Option (Except DeviceError Bool × WorkerState σ)
  | [], signalUsedQueue, s => some (.ok signalUsedQueue, s)
  | chain :: chains, signalUsedQueue, s =>
    match chain.reader, chain.writer with
    | none, _ => some (.error .createReader, s)
    | some _, none => some (.error .createWriter, s)
    | some reader, some writer =>
      match processQueueChain gpu regions q chain.headIndex reader writer s with
      | none => none
      | some (.error e, s) => some (.error e, s)
      | some (.ok usedQueue, s) => processQueue chains (signalUsedQueue || usedQueue) s

/-- The loop of `handle_queue_event` with `EVENT_IDX`. -/
def processUntilEmpty (chains : List RequestChain) (later : List (List RequestChain))
    (s : WorkerState σ) : Option (Except DeviceError Unit × WorkerState σ) :=
  match processQueue gpu regions q chains false s with
  | none => none
  | some (.error e, s) => some (.error e, s)
  | some (.ok notify, s) =>
    let s := if notify then s.record .signalUsedQueue else s
    match later with
    | [] => some (.ok (), s)
    | chains :: later => processUntilEmpty chains later s

def handleQueueEvent (s : WorkerState σ) : Option (Except DeviceError Unit × WorkerState σ) :=
  match q.readKick with
  | .error e => some (.error e, s)
  | .ok false => some (.ok (), s)
  | .ok true =>
    if q.tryLockQueue = false then some (.ok (), s)
    else if q.eventIdxEnabled then processUntilEmpty gpu regions q q.avail q.later s
    else
      match processQueue gpu regions q q.avail false s with
      | none => none
      | some (.error e, s) => some (.error e, s)
      | some (.ok _, s) => some (.ok (), s)

end

end VirtioPoc.Gpu
