import VirtioPoc.Gpu.Protocol

/-!
# Responses

`GpuResponse` and `GpuResponse::encode` of `protocol.rs`.  A writer is the
number of bytes it has room for and what was written so far.  A failed write
ends the request, and with it the call that asked for the encoding; so what it
left in the chain is not kept here.  `none` is a panic.
-/

namespace VirtioPoc.Gpu

open Base

/-! ### Structs of the responses -/

structure VirtioGpuDisplayOne where
  r : VirtioGpuRect
  (enabled flags : UInt32)
  deriving DecidableEq

def VirtioGpuDisplayOne.layout : Layout VirtioGpuDisplayOne :=
  .iso (.prod VirtioGpuRect.layout <| .prod .u32 .u32)
    ⟨fun (a, b, c) => ⟨a, b, c⟩, fun s => (s.r, s.enabled, s.flags), fun _ => rfl, fun _ => rfl⟩

structure VirtioGpuRespDisplayInfo where
  hdr : VirtioGpuCtrlHdr
  pmodes : Fin virtioGpuMaxScanouts → VirtioGpuDisplayOne

def VirtioGpuRespDisplayInfo.layout : Layout VirtioGpuRespDisplayInfo :=
  .iso (.prod VirtioGpuCtrlHdr.layout (.array VirtioGpuDisplayOne.layout virtioGpuMaxScanouts))
    ⟨fun (a, b) => ⟨a, b⟩, fun s => (s.hdr, s.pmodes), fun _ => rfl, fun _ => rfl⟩

def edidBlobMaxSize : Nat := 1024

structure VirtioGpuRespEdid where
  hdr : VirtioGpuCtrlHdr
  (size padding : UInt32)
  edid : Fin edidBlobMaxSize → UInt8

def VirtioGpuRespEdid.layout : Layout VirtioGpuRespEdid :=
  .iso (.prod VirtioGpuCtrlHdr.layout <| .prod .u32 <| .prod .u32 (.array .u8 edidBlobMaxSize))
    ⟨fun (a, b, c, d) => ⟨a, b, c, d⟩, fun s => (s.hdr, s.size, s.padding, s.edid),
      fun _ => rfl, fun _ => rfl⟩

structure VirtioGpuRespCapsetInfo where
  hdr : VirtioGpuCtrlHdr
  (capsetId capsetMaxVersion capsetMaxSize padding : UInt32)

def VirtioGpuRespCapsetInfo.layout : Layout VirtioGpuRespCapsetInfo :=
  .iso (.prod VirtioGpuCtrlHdr.layout <| .prod .u32 <| .prod .u32 <| .prod .u32 .u32)
    ⟨fun (a, b, c, d, e) => ⟨a, b, c, d, e⟩,
      fun s => (s.hdr, s.capsetId, s.capsetMaxVersion, s.capsetMaxSize, s.padding),
      fun _ => rfl, fun _ => rfl⟩

def planeInfoMaxCount : Nat := 4

structure VirtioGpuRespResourcePlaneInfo where
  hdr : VirtioGpuCtrlHdr
  (count padding : UInt32)
  formatModifier : UInt64
  (strides offsets : Fin planeInfoMaxCount → UInt32)

def VirtioGpuRespResourcePlaneInfo.layout : Layout VirtioGpuRespResourcePlaneInfo :=
  .iso (.prod VirtioGpuCtrlHdr.layout <| .prod .u32 <| .prod .u32 <| .prod .u64 <|
      .prod (.array .u32 planeInfoMaxCount) (.array .u32 planeInfoMaxCount))
    ⟨fun (a, b, c, d, e, f) => ⟨a, b, c, d, e, f⟩,
      fun s => (s.hdr, s.count, s.padding, s.formatModifier, s.strides, s.offsets),
      fun _ => rfl, fun _ => rfl⟩

structure VirtioGpuRespMapInfo where
  hdr : VirtioGpuCtrlHdr
  (mapInfo padding : UInt32)

def VirtioGpuRespMapInfo.layout : Layout VirtioGpuRespMapInfo :=
  .iso (.prod VirtioGpuCtrlHdr.layout <| .prod .u32 .u32)
    ⟨fun (a, b, c) => ⟨a, b, c⟩, fun s => (s.hdr, s.mapInfo, s.padding), fun _ => rfl, fun _ => rfl⟩

structure VirtioGpuRespResourceUuid where
  hdr : VirtioGpuCtrlHdr
  uuid : Fin 16 → UInt8

def VirtioGpuRespResourceUuid.layout : Layout VirtioGpuRespResourceUuid :=
  .iso (.prod VirtioGpuCtrlHdr.layout (.array .u8 16))
    ⟨fun (a, b) => ⟨a, b⟩, fun s => (s.hdr, s.uuid), fun _ => rfl, fun _ => rfl⟩

/-! ### Responses -/

structure GpuResponsePlaneInfo where
  (stride offset : UInt32)
  deriving DecidableEq

/-- A response to a request.  The error of rutabaga is only ever displayed. -/
inductive GpuResponse
  | okNoData
  | okDisplayInfo (info : List (UInt32 × UInt32 × Bool))
  | okEdid (blob : List UInt8)
  | okCapsetInfo (capsetId version size : UInt32)
  | okCapset (data : List UInt8)
  | okResourcePlaneInfo (formatModifier : UInt64) (planeInfo : List GpuResponsePlaneInfo)
  | okResourceUuid (uuid : Fin 16 → UInt8)
  | okMapInfo (mapInfo : UInt32)
  | errUnspec
  | errRutabaga
  | errScanout (numScanouts : UInt32)
  | errOutOfMemory
  | errInvalidScanoutId
  | errInvalidResourceId
  | errInvalidContextId
  | errInvalidParameter
  deriving DecidableEq

abbrev VirtioGpuResult := Except GpuResponse GpuResponse

def GpuResponse.getType : GpuResponse → UInt32
  | .okNoData => 0x1100
  | .okDisplayInfo _ => 0x1101
  | .okEdid _ => 0x1104
  | .okCapsetInfo .. => 0x1102
  | .okCapset _ => 0x1103
  | .okResourcePlaneInfo .. => 0x11ff
  | .okResourceUuid _ => 0x1105
  | .okMapInfo _ => 0x1106
  | .errUnspec | .errRutabaga | .errScanout _ => 0x1200
  | .errOutOfMemory => 0x1201
  | .errInvalidScanoutId => 0x1202
  | .errInvalidResourceId => 0x1203
  | .errInvalidContextId => 0x1204
  | .errInvalidParameter => 0x1205

/-! ### The encoder -/

inductive GpuResponseEncodeError
  | io
  | sizeOverflow
  | tooManyDisplays (n : Nat)
  | tooManyPlanes (n : Nat)
  | descriptorWriteFailed
  deriving DecidableEq

/-- The writable bytes of a chain: how many are left, and what was written. -/
structure Writer where
  availableBytes : Nat
  written : List UInt8
  deriving DecidableEq

/-- `write`, which takes as many of the bytes as there is room for. -/
def Writer.write (w : Writer) (bytes : List UInt8) : Writer :=
  { availableBytes := w.availableBytes - bytes.length
    written := w.written ++ bytes.take w.availableBytes }

/-- `write_obj(..).map_err(|_| Error::DescriptorWriteFailed)`. -/
def Writer.writeObj {α : Type} (l : Layout α) (a : α) (w : Writer) :
    Except GpuResponseEncodeError Writer :=
  if l.size ≤ w.availableBytes then .ok (w.write (l.toBytes a)) else .error .descriptorWriteFailed

/-- Write one object, and report its size. -/
def encodeObj {α : Type} (l : Layout α) (a : α) (w : Writer) :
    Except GpuResponseEncodeError (UInt32 × Writer) := do
  let w ← w.writeObj l a
  return (.ofNat l.size, w)

section

variable {α : Type} {l : Layout α} {w : Writer}

/-- With room for all of the bytes, `write` takes them all. -/
theorem Writer.write_of_le {bytes : List UInt8} (h : bytes.length ≤ w.availableBytes) :
    w.write bytes = ⟨w.availableBytes - bytes.length, w.written ++ bytes⟩ := by
  unfold Writer.write
  rw [List.take_of_length_le h]

theorem Writer.writeObj_of_le (a : α) (h : l.size ≤ w.availableBytes) :
    w.writeObj l a = .ok (w.write (l.toBytes a)) := if_pos h

theorem Writer.writeObj_of_lt (a : α) (h : w.availableBytes < l.size) :
    w.writeObj l a = .error .descriptorWriteFailed := if_neg (Nat.not_le.mpr h)

theorem encodeObj_of_le (a : α) (h : l.size ≤ w.availableBytes) :
    encodeObj l a w = .ok (.ofNat l.size, w.write (l.toBytes a)) := by
  rw [encodeObj, Writer.writeObj_of_le a h]
  rfl

theorem encodeObj_of_lt (a : α) (h : w.availableBytes < l.size) :
    encodeObj l a w = .error .descriptorWriteFailed := by
  rw [encodeObj, Writer.writeObj_of_lt a h]
  rfl

end

/-- The arms of `encode`, in the order of the source, with the header they share.  `none` is the
panic of `copy_from_slice`. -/
def GpuResponse.encodeWith (hdr : VirtioGpuCtrlHdr) (w : Writer) :
    GpuResponse → Option (Except GpuResponseEncodeError (UInt32 × Writer))
  | .okDisplayInfo info =>
    if info.length > virtioGpuMaxScanouts then some (.error (.tooManyDisplays info.length))
    else
      let pmodes (i : Fin virtioGpuMaxScanouts) : VirtioGpuDisplayOne :=
        match info[i.val]? with
        | none => ⟨⟨0, 0, 0, 0⟩, 0, 0⟩
        | some (width, height, enabled) => ⟨⟨0, 0, width, height⟩, if enabled then 1 else 0, 0⟩
      some (encodeObj VirtioGpuRespDisplayInfo.layout ⟨hdr, pmodes⟩ w)
  | .okEdid blob =>
    if ¬ blob.length < 2 ^ 32 then some (.error .sizeOverflow)
    else if h : blob.length = edidBlobMaxSize then
      some (encodeObj VirtioGpuRespEdid.layout
        ⟨hdr, .ofNat blob.length, 0, fun i => blob.get (i.cast h.symm)⟩ w)
    else none
  | .okCapsetInfo capsetId version size =>
    some (encodeObj VirtioGpuRespCapsetInfo.layout ⟨hdr, capsetId, version, size, 0⟩ w)
  | .okCapset data => some do
    let w ← w.writeObj VirtioGpuCtrlHdr.layout hdr
    let w := w.write data
    if 24 + data.length < 2 ^ 32 then return (.ofNat (24 + data.length), w)
    else .error .sizeOverflow
  | .okResourcePlaneInfo _ planeInfo =>
    if planeInfo.length > planeInfoMaxCount then some (.error (.tooManyPlanes planeInfo.length))
    -- the struct is built, but only its size is used
    else if VirtioGpuRespResourcePlaneInfo.layout.size ≤ w.availableBytes then
      some (.ok (.ofNat VirtioGpuRespResourcePlaneInfo.layout.size, w))
    else some (encodeObj VirtioGpuCtrlHdr.layout { hdr with type := GpuResponse.okNoData.getType } w)
  | .okResourceUuid uuid => some (encodeObj VirtioGpuRespResourceUuid.layout ⟨hdr, uuid⟩ w)
  | .okMapInfo mapInfo => some (encodeObj VirtioGpuRespMapInfo.layout ⟨hdr, mapInfo, 0⟩ w)
  | _ => some (encodeObj VirtioGpuCtrlHdr.layout hdr w)

def GpuResponse.encode (response : GpuResponse) (flags : UInt32) (fenceId : UInt64)
    (ctxId : UInt32) (ringIdx : UInt8) (w : Writer) :
    Option (Except GpuResponseEncodeError (UInt32 × Writer)) :=
  response.encodeWith
    { type := response.getType, flags := flags, fenceId := fenceId, ctxId := ctxId,
      ringIdx := ringIdx, padding := fun _ => 0 } w

/-! ### Responses without data -/

/-- `OkNoData`, or an error: the responses that are only a header. -/
def GpuResponse.IsPlain : GpuResponse → Prop
  | .okNoData | .errUnspec | .errRutabaga | .errScanout _ | .errOutOfMemory | .errInvalidScanoutId
  | .errInvalidResourceId | .errInvalidContextId | .errInvalidParameter => True
  | _ => False

instance : (response : GpuResponse) → Decidable response.IsPlain
  | .okNoData | .errUnspec | .errRutabaga | .errScanout _ | .errOutOfMemory | .errInvalidScanoutId
  | .errInvalidResourceId | .errInvalidContextId | .errInvalidParameter => .isTrue trivial
  | .okDisplayInfo _ | .okEdid _ | .okCapsetInfo .. | .okCapset _ | .okResourcePlaneInfo ..
  | .okResourceUuid _ | .okMapInfo _ => .isFalse id

section

variable {response : GpuResponse} (flags : UInt32) (fenceId : UInt64) (ctxId : UInt32)
  (ringIdx : UInt8) {w : Writer}

theorem GpuResponse.IsPlain.encode_eq (h : response.IsPlain) : ∃ hdr,
    response.encode flags fenceId ctxId ringIdx w =
      some (encodeObj VirtioGpuCtrlHdr.layout hdr w) := by
  cases response with
  | okDisplayInfo | okEdid | okCapsetInfo | okCapset | okResourcePlaneInfo | okResourceUuid
  | okMapInfo => exact absurd h id
  | _ => exact ⟨_, rfl⟩

/-- With 24 bytes of room such a response is encoded. -/
theorem GpuResponse.IsPlain.encode_of_le (h : response.IsPlain) (hroom : 24 ≤ w.availableBytes) :
    ∃ w', response.encode flags fenceId ctxId ringIdx w = some (.ok (24, w')) := by
  obtain ⟨hdr, he⟩ := h.encode_eq flags fenceId ctxId ringIdx
  refine ⟨w.write (VirtioGpuCtrlHdr.layout.toBytes hdr), ?_⟩
  rw [he, encodeObj_of_le hdr hroom]
  rfl

/-- With less, the call fails. -/
theorem GpuResponse.IsPlain.encode_of_lt (h : response.IsPlain) (hroom : w.availableBytes < 24) :
    response.encode flags fenceId ctxId ringIdx w = some (.error .descriptorWriteFailed) := by
  obtain ⟨hdr, he⟩ := h.encode_eq flags fenceId ctxId ringIdx
  rw [he, encodeObj_of_lt hdr hroom]

end

end VirtioPoc.Gpu
