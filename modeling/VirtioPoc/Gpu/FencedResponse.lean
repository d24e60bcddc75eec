import VirtioPoc.Gpu.Notify
import VirtioPoc.Gpu.ResponseBytes

/-!
# Fenced requests and their responses

`process_queue_chain` puts the fence fields of the request's header in the header
of the response.  It takes them from the result of the decoder, which has no
header when it fails, even if the header itself could be read.
`fenced_response_iff` says for which chains the response has the fields that it
should have.
-/

namespace VirtioPoc.Gpu

open Base Virtio

/-! ### The header of a response -/

namespace GpuResponse

/-- The plane information, of which `encode` only uses the size. -/
def IsPlaneInfo : GpuResponse → Prop
  | .okResourcePlaneInfo .. => True
  | _ => False

section

variable {response : GpuResponse} {flags : UInt32} {fenceId : UInt64} {ctxId : UInt32}
  {ringIdx : UInt8} {room : Nat} {n : UInt32} {w : Writer}

theorem prefix_of_encodeObj {α : Type} {l : Layout α} {a : α} {bytes : List UInt8}
    (hsize : l.size < 2 ^ 32) (h : encodeObj l a ⟨room, []⟩ = .ok (n, w))
    (hbytes : bytes <+: l.toBytes a) : bytes <+: w.written := by
  obtain ⟨-, -, hwritten, -⟩ := encodeObj_eq_ok hsize h
  rw [hwritten, List.nil_append]
  exact hbytes

/-- The header comes first in the chain, whatever follows it. -/
theorem header_prefix (hplane : ¬ response.IsPlaneInfo)
    (h : response.encode flags fenceId ctxId ringIdx ⟨room, []⟩ = some (.ok (n, w))) :
    VirtioGpuCtrlHdr.layout.toBytes (responseHdr response.getType flags fenceId ctxId ringIdx) <+:
      w.written := by
  cases response with
  | okDisplayInfo info =>
    rw [encode, encodeWith] at h
    split at h
    · cases h
    · exact prefix_of_encodeObj (by decide) (Option.some.inj h) ⟨_, rfl⟩
  | okEdid blob =>
    rw [encode, encodeWith] at h
    split at h
    · cases h
    · split at h
      · refine prefix_of_encodeObj size_respEdid (Option.some.inj h) ?_
        rw [toBytes_respEdid]
        exact List.prefix_append _ _
      · cases h
  | okCapset data =>
    rw [encode_capset] at h
    split at h
    case isFalse => cases h
    case isTrue hroom =>
      split at h
      · cases h
        let hdr := responseHdr (okCapset data).getType flags fenceId ctxId ringIdx
        have hhdr : (VirtioGpuCtrlHdr.layout.toBytes hdr).length ≤ room := hroom
        rw [Writer.write_of_le (w := ⟨room, []⟩) hhdr, Writer.write, List.nil_append]
        exact List.prefix_append _ _
      · cases h
  | okResourcePlaneInfo => exact absurd trivial hplane
  | okCapsetInfo =>
    exact prefix_of_encodeObj (l := VirtioGpuRespCapsetInfo.layout) (by decide) (Option.some.inj h)
      ⟨_, rfl⟩
  | okResourceUuid =>
    exact prefix_of_encodeObj (l := VirtioGpuRespResourceUuid.layout) (by decide)
      (Option.some.inj h) ⟨_, rfl⟩
  | okMapInfo =>
    exact prefix_of_encodeObj (l := VirtioGpuRespMapInfo.layout) (by decide) (Option.some.inj h)
      ⟨_, rfl⟩
  | okNoData | errUnspec | errRutabaga | errScanout | errOutOfMemory | errInvalidScanoutId
  | errInvalidResourceId | errInvalidContextId | errInvalidParameter =>
    exact prefix_of_encodeObj (l := VirtioGpuCtrlHdr.layout) (by decide) (Option.some.inj h)
      (List.prefix_refl _)

end

end GpuResponse

/-! ### The bytes of the response -/

section

variable {σ : Type} (gpu : VirtioGpu σ) (regions : List GuestRegion)

/-- What is encoded: the fields of the fence, and the response after `create_fence`. -/
def respond (reader : List UInt8) (s : σ) : Option (RutabagaFence × GpuResponse × σ) :=
  match execute gpu regions reader s with
  | none => none
  | some ((ctrlHdr, response), s) =>
    some (.ofHdr ctrlHdr, createFence gpu (.ofHdr ctrlHdr) response s)

variable (q : DeviceQueue)

/-- `process_queue_chain`, with the bytes that the writer has got when it returns `Ok`. -/
def processQueueChainWritten (headIndex : UInt16) (reader : List UInt8) (writer : Nat)
    (s : WorkerState σ) : Option (Except DeviceError (Bool × List UInt8) × WorkerState σ) :=
  match execute gpu regions reader s.gpu with
  | none => none
  | some ((ctrlHdr, response), g) =>
    if writer = 0 then
      let result := { s with gpu := g }.addUsed q headIndex 0
      some (result.1.map fun used => (used, []), result.2)
    else
      let fence := RutabagaFence.ofHdr ctrlHdr
      let (response, g) := createFence gpu fence response g
      match response.encode fence.flags fence.fenceId fence.ctxId fence.ringIdx ⟨writer, []⟩ with
      | none => none
      | some (.error e) => some (.error (.gpuResponseEncode e), { s with gpu := g })
      | some (.ok (responseLen, w)) =>
        match addToQueue gpu fence headIndex responseLen g with
        | (true, g) =>
          let result := { s with gpu := g }.addUsed q headIndex responseLen
          some (result.1.map fun used => (used, w.written), result.2)
        | (false, g) => some (.ok (false, w.written), { s with gpu := g })

/-- Without the bytes it is `processQueueChain`. -/
theorem processQueueChain_eq_map (headIndex : UInt16) (reader : List UInt8) (writer : Nat)
    (s : WorkerState σ) : processQueueChain gpu regions q headIndex reader writer s =
      (processQueueChainWritten gpu regions q headIndex reader writer s).map
        fun r => (r.1.map Prod.fst, r.2) := by
  have hmap {α : Type} (r : Except DeviceError Bool) (a : α) :
      (r.map fun used => (used, a)).map Prod.fst = r := by
    cases r <;> rfl
  rw [processQueueChain, processQueueChainWritten]
  cases execute gpu regions reader s.gpu with
  | none => rfl
  | some out =>
    obtain ⟨⟨ctrlHdr, response⟩, g⟩ := out
    dsimp only
    by_cases hzero : writer = 0
    · rw [if_pos hzero, if_pos hzero, Option.map_some, hmap]
    · rw [if_neg hzero, if_neg hzero]
      rcases (createFence gpu (.ofHdr ctrlHdr) response g).1.encode _ _ _ _ _ with
        _ | ⟨e | ⟨responseLen, w⟩⟩
      · rfl
      · rfl
      · dsimp only
        rcases addToQueue gpu (.ofHdr ctrlHdr) headIndex responseLen _ with ⟨_ | _, g'⟩
        · rfl
        · dsimp only
          rw [Option.map_some, hmap]

theorem written_of_addUsed {headIndex : UInt16} {len : UInt32} {s t : WorkerState σ} {used : Bool}
    {bytes written : List UInt8}
    (h : ((s.addUsed q headIndex len).1.map fun used => (used, bytes), (s.addUsed q headIndex len).2) =
      (.ok (used, written), t)) : bytes = written := by
  rw [WorkerState.addUsed] at h
  split at h
  · cases h
    rfl
  · cases h

/-- What a chain that was handled with `Ok` has got, if it has writable bytes. -/
theorem encoded_of_ok {headIndex : UInt16} {reader written : List UInt8} {writer : Nat}
    {s t : WorkerState σ} {used : Bool} (hroom : writer ≠ 0)
    (h : processQueueChainWritten gpu regions q headIndex reader writer s =
      some (.ok (used, written), t)) :
    ∃ fence response g n w, respond gpu regions reader s.gpu = some (fence, response, g) ∧
      response.encode fence.flags fence.fenceId fence.ctxId fence.ringIdx ⟨writer, []⟩ =
        some (.ok (n, w)) ∧ w.written = written := by
  rw [processQueueChainWritten] at h
  rw [respond]
  cases hexec : execute gpu regions reader s.gpu with
  | none =>
    rw [hexec] at h
    cases h
  | some out =>
    obtain ⟨⟨ctrlHdr, response⟩, g⟩ := out
    rw [hexec] at h
    dsimp only at h
    rw [if_neg hroom] at h
    split at h
    · cases h
    · cases h
    · rename_i n w hencode
      refine ⟨_, _, _, n, w, rfl, hencode, ?_⟩
      split at h
      · exact written_of_addUsed q (Option.some.inj h)
      · cases h
        rfl

/-- The header that the driver finds in such a chain has the fields of the fence. -/
theorem read_written_of_ok {headIndex : UInt16} {reader written : List UInt8} {writer : Nat}
    {s t : WorkerState σ} {used : Bool}
    (hplane : ∀ fence response g,
      respond gpu regions reader s.gpu = some (fence, response, g) → ¬ response.IsPlaneInfo)
    (hroom : writer ≠ 0)
    (h : processQueueChainWritten gpu regions q headIndex reader writer s =
      some (.ok (used, written), t)) :
    ∃ fence response g rest, respond gpu regions reader s.gpu = some (fence, response, g) ∧
      VirtioGpuCtrlHdr.layout.read written = some (responseHdr response.getType fence.flags
        fence.fenceId fence.ctxId fence.ringIdx, rest) := by
  obtain ⟨fence, response, g, n, w, hrespond, hencode, rfl⟩ := encoded_of_ok gpu regions q hroom h
  obtain ⟨body, hbody⟩ := GpuResponse.header_prefix (hplane _ _ _ hrespond) hencode
  refine ⟨fence, response, g, body, hrespond, ?_⟩
  rw [← hbody, Layout.read_append]

end

/-! ### The header of the request -/

/-- What the header of a response is to be: with the fence flag that of the request has its fields,
and without it they are zero. -/
structure VirtioGpuCtrlHdr.Echoes (hdr response : VirtioGpuCtrlHdr) : Prop where
  fenced : hdr.flags &&& virtioGpuFlagFence ≠ 0 → response.flags = hdr.flags ∧
    response.fenceId = hdr.fenceId ∧ response.ctxId = hdr.ctxId ∧ response.ringIdx = hdr.ringIdx
  unfenced : hdr.flags &&& virtioGpuFlagFence = 0 → response.flags = 0 ∧ response.fenceId = 0 ∧
    response.ctxId = 0 ∧ response.ringIdx = 0

/-- The fields that are taken from a header are those. -/
theorem VirtioGpuCtrlHdr.echoes_ofHdr (hdr : VirtioGpuCtrlHdr) (type : UInt32) :
    hdr.Echoes (responseHdr type (RutabagaFence.ofHdr (some hdr)).flags
      (RutabagaFence.ofHdr (some hdr)).fenceId (RutabagaFence.ofHdr (some hdr)).ctxId
      (RutabagaFence.ofHdr (some hdr)).ringIdx) := by
  constructor
  · intro hset
    rw [RutabagaFence.ofHdr, if_pos hset]
    exact ⟨rfl, rfl, rfl, rfl⟩
  · intro hunset
    rw [RutabagaFence.ofHdr, if_neg (not_not_intro hunset)]
    exact ⟨rfl, rfl, rfl, rfl⟩

/-- Without a header they are those of a request that has no fence. -/
theorem VirtioGpuCtrlHdr.echoes_none_iff (hdr : VirtioGpuCtrlHdr) (type : UInt32) :
    hdr.Echoes (responseHdr type 0 0 0 0) ↔ hdr.flags &&& virtioGpuFlagFence = 0 := by
  constructor
  · intro h
    by_contra hset
    obtain ⟨hflags, -⟩ := h.fenced hset
    rw [← hflags] at hset
    exact hset UInt32.zero_and
  · intro hunset
    exact ⟨fun hset => absurd hunset hset, fun _ => ⟨rfl, rfl, rfl, rfl⟩⟩

/-- The chain starts with a complete request of a type that the decoder knows. -/
def IsRequest (reader : List UInt8) : Prop :=
  ∃ hdr cmd padding rest, cmd.Encodable ∧ reader = GpuCommand.encWith padding hdr cmd ++ rest

theorem isRequest_iff_decode {reader : List UInt8} :
    IsRequest reader ↔ ∃ hdr cmd rest, GpuCommand.decode reader = .ok ((hdr, cmd), rest) := by
  constructor
  · rintro ⟨hdr, cmd, padding, rest, henc, rfl⟩
    exact ⟨_, cmd, rest, GpuCommand.decode_encWith henc padding hdr rest⟩
  · rintro ⟨hdr, cmd, rest, h⟩
    obtain ⟨htype, henc, padding, hreader⟩ := GpuCommand.encWith_of_decode h
    exact ⟨hdr, cmd, padding, rest, henc, hreader⟩

/-- The header that the decoder returns is the one that can be read. -/
theorem hdr_of_decode {reader rest rest' : List UInt8} {hdr hdr' : VirtioGpuCtrlHdr}
    {cmd : GpuCommand} (hread : VirtioGpuCtrlHdr.layout.read reader = some (hdr, rest))
    (h : GpuCommand.decode reader = .ok ((hdr', cmd), rest')) : hdr' = hdr := by
  obtain rfl := (Layout.read_eq_some _).mp hread
  rw [GpuCommand.decode_header] at h
  cases htype : VirtioGpuCtrlType.ofCode hdr.type with
  | none =>
    rw [htype] at h
    cases h
  | some t =>
    rw [htype] at h
    cases hpayload : t.decodePayload rest with
    | error e =>
      simp only [hpayload] at h
      cases h
    | ok p =>
      simp only [hpayload] at h
      cases h
      rfl

section

variable {σ : Type} (gpu : VirtioGpu σ) (regions : List GuestRegion) {reader : List UInt8} {s g : σ}

/-- A request that is decoded has the fence of its header. -/
theorem fence_of_decode {hdr : VirtioGpuCtrlHdr} {cmd : GpuCommand} {rest : List UInt8}
    {fence : RutabagaFence} {response : GpuResponse}
    (hdecode : GpuCommand.decode reader = .ok ((hdr, cmd), rest))
    (h : respond gpu regions reader s = some (fence, response, g)) :
    fence = .ofHdr (some hdr) := by
  rw [respond, execute, hdecode] at h
  dsimp only at h
  rcases hcmd : processGpuCommand gpu regions hdr cmd s with _ | ⟨_ | _, g'⟩
  · rw [hcmd] at h
    cases h
  · rw [hcmd] at h
    exact (Prod.mk.inj (Option.some.inj h)).1.symm
  · rw [hcmd] at h
    exact (Prod.mk.inj (Option.some.inj h)).1.symm

/-- One that is not is answered with `ErrUnspec`, and without a fence. -/
theorem respond_of_decode_error {e : GpuCommandDecodeError}
    (hdecode : GpuCommand.decode reader = .error e) :
    respond gpu regions reader s = some (⟨0, 0, 0, 0⟩, .errUnspec, s) := by
  rw [respond, execute, hdecode]
  rfl

theorem processQueueChainWritten_of_decode_error (q : DeviceQueue) (headIndex : UInt16)
    {writer : Nat} {s : WorkerState σ} {e : GpuCommandDecodeError}
    (hdecode : GpuCommand.decode reader = .error e) (hroom : 24 ≤ writer) :
    processQueueChainWritten gpu regions q headIndex reader writer s =
      some ((s.addUsed q headIndex 24).1.map fun used => (used, VirtioGpuCtrlHdr.layout.toBytes
        (responseHdr GpuResponse.errUnspec.getType 0 0 0 0)), (s.addUsed q headIndex 24).2) := by
  let bytes := VirtioGpuCtrlHdr.layout.toBytes (responseHdr GpuResponse.errUnspec.getType 0 0 0 0)
  have hpos : writer ≠ 0 := by omega
  have hfence : createFence gpu ⟨0, 0, 0, 0⟩ .errUnspec s.gpu = (.errUnspec, s.gpu) := rfl
  have hencode : GpuResponse.errUnspec.encode 0 0 0 0 ⟨writer, []⟩ =
      some (.ok (24, ⟨writer - 24, bytes⟩)) := by
    have hwrite : (⟨writer, []⟩ : Writer).write bytes = ⟨writer - 24, bytes⟩ :=
      Writer.write_of_le (w := ⟨writer, []⟩) hroom
    rw [← hwrite]
    exact congrArg some (encodeObj_of_le (l := VirtioGpuCtrlHdr.layout) _ hroom)
  have hadd : addToQueue gpu ⟨0, 0, 0, 0⟩ headIndex 24 s.gpu = (true, s.gpu) := rfl
  rw [processQueueChainWritten, execute, hdecode]
  dsimp only [RutabagaFence.ofHdr]
  rw [if_neg hpos, hfence, hencode]
  dsimp only
  rw [hadd]

end

/-! ### Fenced responses -/

/-- **A fenced request gets a fenced response** exactly if it is a request: the decoder keeps the
header of no other chain, and the response to one that is used has a header without a fence. -/
theorem fenced_response_iff {σ : Type} (gpu : VirtioGpu σ) (regions : List GuestRegion)
    (q : DeviceQueue) (headIndex : UInt16) {reader rest : List UInt8} {writer : Nat}
    {hdr : VirtioGpuCtrlHdr} (s : WorkerState σ)
    (hread : VirtioGpuCtrlHdr.layout.read reader = some (hdr, rest)) (hroom : 24 ≤ writer)
    (hplane : ∀ fence response g,
      respond gpu regions reader s.gpu = some (fence, response, g) → ¬ response.IsPlaneInfo) :
    (∀ used written t, processQueueChainWritten gpu regions q headIndex reader writer s =
        some (.ok (used, written), t) →
      ∃ response rest, VirtioGpuCtrlHdr.layout.read written = some (response, rest) ∧
        hdr.Echoes response) ↔
    (hdr.flags &&& virtioGpuFlagFence ≠ 0 → q.addUsedSucceeds s.ops headIndex 24 = true →
      IsRequest reader) := by
  constructor
  · intro hechoes hset hused
    cases hdecode : GpuCommand.decode reader with
    | ok p =>
      obtain ⟨⟨hdr', cmd⟩, rest'⟩ := p
      exact isRequest_iff_decode.mpr ⟨hdr', cmd, rest', hdecode⟩
    | error e =>
      -- the header of the response has no fence, and that of the request does
      have hrun := processQueueChainWritten_of_decode_error gpu regions q headIndex (s := s)
        hdecode hroom
      rw [WorkerState.addUsed, if_pos hused] at hrun
      obtain ⟨response, rest', hwritten, hecho⟩ := hechoes _ _ _ hrun
      rw [← List.append_nil (VirtioGpuCtrlHdr.layout.toBytes _), Layout.read_append] at hwritten
      cases hwritten
      exact absurd ((hdr.echoes_none_iff _).mp hecho) hset
  · intro hrequest used written t h
    obtain ⟨fence, response, g, body, hrespond, hwritten⟩ :=
      read_written_of_ok gpu regions q hplane (by omega) h
    refine ⟨_, body, hwritten, ?_⟩
    cases hdecode : GpuCommand.decode reader with
    | ok p =>
      obtain ⟨⟨hdr', cmd⟩, rest'⟩ := p
      obtain rfl := hdr_of_decode hread hdecode
      rw [fence_of_decode gpu regions hdecode hrespond]
      exact hdr'.echoes_ofHdr _
    | error e =>
      have hused : q.addUsedSucceeds s.ops headIndex 24 = true := by
        by_contra hfails
        rw [processQueueChainWritten_of_decode_error gpu regions q headIndex hdecode hroom,
          WorkerState.addUsed, if_neg hfails] at h
        cases h
      rw [respond_of_decode_error gpu regions hdecode] at hrespond
      cases hrespond
      rw [VirtioGpuCtrlHdr.echoes_none_iff]
      by_contra hset
      obtain ⟨hdr', cmd, rest', hok⟩ := isRequest_iff_decode.mp (hrequest hset hused)
      rw [hdecode] at hok
      cases hok

/-- The header of a request in context 3, with the fence 9. -/
def fencedHdr (type : UInt32) : VirtioGpuCtrlHdr where
  type := type
  flags := virtioGpuFlagFence
  fenceId := 9
  ctxId := 3
  ringIdx := 0
  padding _ := 0

theorem read_fencedHdr (type : UInt32) :
    VirtioGpuCtrlHdr.layout.read (VirtioGpuCtrlHdr.layout.toBytes (fencedHdr type)) =
      some (fencedHdr type, []) :=
  (Layout.read_eq_some _).mpr (List.append_nil _).symm

/-- What is written for this header alone. -/
def handledAlone (type : UInt32) : Option (Except DeviceError (Bool × List UInt8) × WorkerState Unit) :=
  processQueueChainWritten readyGpu [] (oneChainQueue true) 7
    (VirtioGpuCtrlHdr.layout.toBytes (fencedHdr type)) 24 (.new ())

theorem fenced_response_ctx_destroy : ∃ written t response rest,
    handledAlone 0x0201 = some (.ok (true, written), t) ∧
    VirtioGpuCtrlHdr.layout.read written = some (response, rest) ∧
    (fencedHdr 0x0201).Echoes response := by
  have h : handledAlone 0x0201 = some (.ok (true, VirtioGpuCtrlHdr.layout.toBytes
      (fencedHdr 0x1100)), ⟨(), [.addUsed 7 24]⟩) := rfl
  have hplane : ∀ fence response g, respond readyGpu [] (VirtioGpuCtrlHdr.layout.toBytes
      (fencedHdr 0x0201)) () = some (fence, response, g) → ¬ response.IsPlaneInfo := by
    intro fence response g hrespond
    cases hrespond
    exact id
  have hrequest : IsRequest (VirtioGpuCtrlHdr.layout.toBytes (fencedHdr 0x0201)) :=
    ⟨fencedHdr 0x0201, .ctxDestroy ⟨⟩, fun _ => 0, [], trivial, rfl⟩
  obtain ⟨response, rest, hwritten, hecho⟩ := (fenced_response_iff readyGpu [] (oneChainQueue true) 7
    (.new ()) (read_fencedHdr 0x0201) (Nat.le_refl 24) hplane).mpr (fun _ _ => hrequest) _ _ _ h
  exact ⟨_, _, response, rest, h, hwritten, hecho⟩

/-- **A fence that is lost**: the type is not known, and the response has no fence. -/
theorem unknown_type_loses_fence : ∃ written t response,
    handledAlone 0x0a00 = some (.ok (true, written), t) ∧
    VirtioGpuCtrlHdr.layout.read written = some (response, []) ∧
    response.flags = 0 ∧ ¬ (fencedHdr 0x0a00).Echoes response := by
  let response := responseHdr GpuResponse.errUnspec.getType 0 0 0 0
  have hwritten : VirtioGpuCtrlHdr.layout.read (VirtioGpuCtrlHdr.layout.toBytes response) =
      some (response, []) := (Layout.read_eq_some _).mpr (List.append_nil _).symm
  refine ⟨_, ⟨(), [.addUsed 7 24]⟩, response, rfl, hwritten, rfl, fun hecho => ?_⟩
  obtain ⟨hflags, -⟩ := hecho.fenced (by decide)
  exact absurd hflags (by decide)

end VirtioPoc.Gpu
