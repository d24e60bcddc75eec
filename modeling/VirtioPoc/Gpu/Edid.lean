import VirtioPoc.Gpu.ResponseBytes

/-!
# Replies with an EDID

`get_edid` of `virtio_gpu.rs` and what `encode` makes of its response.  The GPU
backend replies with an array of 1024 bytes and a size of its own.  `get_edid`
takes a slice of that size, and `encode` copies the slice to an array of 1024
bytes; both panic if the length is not right, so only full replies come through
(`edid_handled_iff`).
-/

namespace VirtioPoc.Gpu

open Base

structure VhostUserGpuEdidRequest where
  scanoutId : UInt32

/-- The reply of the backend, with its fields but for the header. -/
structure VhostUserGpuRespEdid where
  size : UInt32
  edid : Fin edidBlobMaxSize → UInt8

/-- The backend as `get_edid` calls it. -/
abbrev EdidBackend := VhostUserGpuEdidRequest → Except Unit VhostUserGpuRespEdid

namespace RutabagaVirtioGpu

/-- `none` is the panic of the slice. -/
def getEdid (backend : EdidBackend) (edidReq : VhostUserGpuEdidRequest) : Option VirtioGpuResult :=
  match backend edidReq with
  | .error () => some (.error .errUnspec)
  | .ok edid =>
    if edid.size.toNat ≤ edidBlobMaxSize then
      some (.ok (.okEdid ((List.ofFn edid.edid).take edid.size.toNat)))
    else none

end RutabagaVirtioGpu

/-- `GpuWorker::handle_get_edid`. -/
def handleGetEdid (backend : EdidBackend) (req : VirtioGpuGetEdid) : Option VirtioGpuResult :=
  RutabagaVirtioGpu.getEdid backend ⟨req.scanout⟩

/-- The request is executed and its response, also one of an error, is encoded. -/
def answerGetEdid (backend : EdidBackend) (req : VirtioGpuGetEdid) (flags : UInt32)
    (fenceId : UInt64) (ctxId : UInt32) (ringIdx : UInt8) (w : Writer) :
    Option (Except GpuResponseEncodeError (UInt32 × Writer)) :=
  match handleGetEdid backend req with
  | none => none
  | some (.ok response) | some (.error response) => response.encode flags fenceId ctxId ringIdx w

def GpuResponse.IsError (response : GpuResponse) : Prop := 0x1200 ≤ response.getType

/-- **The reply is handled**: the call does not panic; a size that the array can have is reported
with as many bytes of the array and zeros behind them; and any other size is answered by an error. -/
structure EdidHandled (backend : EdidBackend) (req : VirtioGpuGetEdid) (edid : VhostUserGpuRespEdid)
    (flags : UInt32) (fenceId : UInt64) (ctxId : UInt32) (ringIdx : UInt8) (w : Writer) : Prop where
  returns : answerGetEdid backend req flags fenceId ctxId ringIdx w ≠ none
  carried : edid.size.toNat ≤ edidBlobMaxSize → ∃ n w',
    answerGetEdid backend req flags fenceId ctxId ringIdx w = some (.ok (n, w')) ∧
    w'.written = w.written ++
      VirtioGpuCtrlHdr.layout.toBytes (responseHdr 0x1104 flags fenceId ctxId ringIdx) ++
      words [edid.size, 0] ++ (List.ofFn edid.edid).take edid.size.toNat ++
      List.replicate (edidBlobMaxSize - edid.size.toNat) 0
  refused : edidBlobMaxSize < edid.size.toNat → ∃ response : GpuResponse, response.IsError ∧
    answerGetEdid backend req flags fenceId ctxId ringIdx w =
      response.encode flags fenceId ctxId ringIdx w

theorem size_respEdid_eq : VirtioGpuRespEdid.layout.size = 1056 := by
  rw [VirtioGpuRespEdid.layout, Layout.size_iso, Layout.size_prod, Layout.size_prod,
    Layout.size_prod, Layout.size_array]
  rfl

section

variable {backend : EdidBackend} {req : VirtioGpuGetEdid} {edid : VhostUserGpuRespEdid}
  (flags : UInt32) (fenceId : UInt64) (ctxId : UInt32) (ringIdx : UInt8) (w : Writer)

/-- A reply of another size than that of the array panics, in the slice or in the copy. -/
theorem answerGetEdid_of_ne (hreply : backend ⟨req.scanout⟩ = .ok edid)
    (hsize : edid.size.toNat ≠ edidBlobMaxSize) :
    answerGetEdid backend req flags fenceId ctxId ringIdx w = none := by
  rw [answerGetEdid, handleGetEdid, RutabagaVirtioGpu.getEdid, hreply]
  dsimp only
  by_cases hle : edid.size.toNat ≤ edidBlobMaxSize
  · have hlen : ((List.ofFn edid.edid).take edid.size.toNat).length = edid.size.toNat := by
      rw [List.length_take, List.length_ofFn, Nat.min_eq_left hle]
    have hword : edid.size.toNat < 2 ^ 32 := edid.size.toNat_lt
    rw [if_pos hle]
    dsimp only
    rw [GpuResponse.encode, GpuResponse.encodeWith, if_neg (by rw [hlen]; omega),
      dif_neg (by rw [hlen]; exact hsize)]
  · rw [if_neg hle]

/-- A blob of the length of the array is written as it is. -/
theorem encode_okEdid_of_eq {blob : List UInt8} (hblob : blob.length = edidBlobMaxSize)
    (hroom : VirtioGpuRespEdid.layout.size ≤ w.availableBytes) : ∃ n w',
      (GpuResponse.okEdid blob).encode flags fenceId ctxId ringIdx w = some (.ok (n, w')) ∧
      w'.written = w.written ++
        VirtioGpuCtrlHdr.layout.toBytes (responseHdr 0x1104 flags fenceId ctxId ringIdx) ++
        words [.ofNat blob.length, 0] ++ blob := by
  let hdr := responseHdr 0x1104 flags fenceId ctxId ringIdx
  have hword : edidBlobMaxSize < 2 ^ 32 := by decide
  have hencode : (GpuResponse.okEdid blob).encode flags fenceId ctxId ringIdx w =
      some (encodeObj VirtioGpuRespEdid.layout
        ⟨hdr, .ofNat blob.length, 0, fun i => blob.get (i.cast hblob.symm)⟩ w) :=
    (if_neg (by omega)).trans (dif_pos hblob)
  have hbytes := toBytes_edid hdr hblob
  rw [hencode, encodeObj_of_le _ hroom]
  refine ⟨_, _, rfl, ?_⟩
  rw [Writer.write_of_le (by rw [VirtioGpuRespEdid.layout.length_toBytes]; exact hroom), hbytes]
  simp only [GpuResponse.body, List.append_assoc]
  rfl

/-- A full reply is written as it is. -/
theorem answerGetEdid_of_eq (hreply : backend ⟨req.scanout⟩ = .ok edid)
    (hsize : edid.size.toNat = edidBlobMaxSize)
    (hroom : VirtioGpuRespEdid.layout.size ≤ w.availableBytes) : ∃ n w',
      answerGetEdid backend req flags fenceId ctxId ringIdx w = some (.ok (n, w')) ∧
      w'.written = w.written ++
        VirtioGpuCtrlHdr.layout.toBytes (responseHdr 0x1104 flags fenceId ctxId ringIdx) ++
        words [edid.size, 0] ++ List.ofFn edid.edid := by
  have hlen : (List.ofFn edid.edid).length = edidBlobMaxSize := List.length_ofFn
  have hword : UInt32.ofNat (List.ofFn edid.edid).length = edid.size := by
    rw [hlen, ← hsize, UInt32.ofNat_toNat]
  obtain ⟨n, w', hencode, hwritten⟩ :=
    encode_okEdid_of_eq flags fenceId ctxId ringIdx w hlen hroom
  refine ⟨n, w', ?_, hword ▸ hwritten⟩
  rw [answerGetEdid, handleGetEdid, RutabagaVirtioGpu.getEdid, hreply]
  dsimp only
  rw [if_pos (Nat.le_of_eq hsize), List.take_of_length_le (by rw [hlen, hsize])]
  exact hencode

end

/-- **Which replies are handled**: those of exactly 1024 bytes. -/
theorem edid_handled_iff (backend : EdidBackend) (req : VirtioGpuGetEdid)
    (edid : VhostUserGpuRespEdid) (hreply : backend ⟨req.scanout⟩ = .ok edid) (flags : UInt32)
    (fenceId : UInt64) (ctxId : UInt32) (ringIdx : UInt8) (w : Writer)
    (hroom : VirtioGpuRespEdid.layout.size ≤ w.availableBytes) :
    EdidHandled backend req edid flags fenceId ctxId ringIdx w ↔
      edid.size.toNat = edidBlobMaxSize := by
  constructor
  · intro h
    by_contra hsize
    exact h.returns (answerGetEdid_of_ne flags fenceId ctxId ringIdx w hreply hsize)
  · intro hsize
    obtain ⟨n, w', hanswer, hwritten⟩ :=
      answerGetEdid_of_eq flags fenceId ctxId ringIdx w hreply hsize hroom
    refine ⟨by rw [hanswer]; exact Option.some_ne_none _, fun _ => ⟨n, w', hanswer, ?_⟩,
      fun hlt => absurd hsize (Nat.ne_of_gt hlt)⟩
    have hfull : (List.ofFn edid.edid).take edid.size.toNat = List.ofFn edid.edid :=
      List.take_of_length_le (by rw [List.length_ofFn, hsize])
    rw [hfull, hsize, Nat.sub_self, List.replicate_zero, List.append_nil]
    exact hwritten

/-- A reply of 1024 zeros. -/
theorem edid_handled_full :
    EdidHandled (fun _ => .ok ⟨1024, fun _ => 0⟩) ⟨0, 0⟩ ⟨1024, fun _ => 0⟩ 0 0 0 0 ⟨1056, []⟩ :=
  (edid_handled_iff (fun _ => .ok ⟨1024, fun _ => 0⟩) ⟨0, 0⟩ ⟨1024, fun _ => 0⟩ rfl 0 0 0 0 ⟨1056, []⟩
    (Nat.le_of_eq size_respEdid_eq)).mpr rfl

/-- A reply of 128 bytes, a plain EDID, panics. -/
theorem edid_panics : answerGetEdid (fun _ => .ok ⟨128, fun _ => 0⟩) ⟨0, 0⟩ 0 0 0 0 ⟨1056, []⟩ = none ∧
    ¬ EdidHandled (fun _ => .ok ⟨128, fun _ => 0⟩) ⟨0, 0⟩ ⟨128, fun _ => 0⟩ 0 0 0 0 ⟨1056, []⟩ := by
  have hpanic := @answerGetEdid_of_ne (fun _ => .ok ⟨128, fun _ => 0⟩) ⟨0, 0⟩ ⟨128, fun _ => 0⟩
    0 0 0 0 ⟨1056, []⟩ rfl (by decide)
  exact ⟨hpanic, fun h => h.returns hpanic⟩

end VirtioPoc.Gpu
