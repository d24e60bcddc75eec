import VirtioPoc.Gpu.Response

/-!
# What a response leaves in the chain

`GpuResponse::encode` returns the length of the response, and with that length
the chain is used.  `GpuResponse.onWire` is the response as the driver is to find
it, byte by byte.  `encode_reports_written_iff` says for which responses what is
written is that response, with the length that is returned: not for the plane
information, of which only the size is used, nor for the data of a capset that
does not fit.
-/

namespace VirtioPoc.Gpu

open Base

/-! ### A response on the wire -/

/-- The header of a response: the fields of the request's fence, and the type. -/
def responseHdr (type flags : UInt32) (fenceId : UInt64) (ctxId : UInt32) (ringIdx : UInt8) :
    VirtioGpuCtrlHdr :=
  { type := type, flags := flags, fenceId := fenceId, ctxId := ctxId, ringIdx := ringIdx,
    padding := fun _ => 0 }

/-- Little-endian words, one after the other. -/
def words (ws : List UInt32) : List UInt8 := ws.flatMap Layout.u32.toBytes

/-- The words of one display: the rectangle, whether it is enabled, and the flags. -/
def displayWords : Option (UInt32 × UInt32 × Bool) → List UInt32
  | none => [0, 0, 0, 0, 0, 0]
  | some (width, height, enabled) => [0, 0, width, height, if enabled then 1 else 0, 0]

/-- A field of each plane, and zero for the planes that are not there. -/
def planeWords (field : GpuResponsePlaneInfo → UInt32) (planeInfo : List GpuResponsePlaneInfo) :
    List UInt32 :=
  List.ofFn fun i : Fin planeInfoMaxCount => (planeInfo[i.val]?.map field).getD 0

/-- What follows the header. -/
def GpuResponse.body : GpuResponse → List UInt8
  | .okDisplayInfo info =>
    (List.ofFn fun i : Fin virtioGpuMaxScanouts => words (displayWords info[i.val]?)).flatten
  | .okEdid blob => words [.ofNat blob.length, 0] ++ blob
  | .okCapsetInfo capsetId version size => words [capsetId, version, size, 0]
  | .okCapset data => data
  | .okResourcePlaneInfo formatModifier planeInfo =>
    words [.ofNat planeInfo.length, 0] ++ Layout.u64.toBytes formatModifier ++
      words (planeWords (·.stride) planeInfo) ++ words (planeWords (·.offset) planeInfo)
  | .okResourceUuid uuid => List.ofFn uuid
  | .okMapInfo mapInfo => words [mapInfo, 0]
  | _ => []

/-- The response in a chain with room for `room` bytes.  The plane information is replaced by a bare
`OK_NODATA` if it does not fit. -/
def GpuResponse.onWire (response : GpuResponse) (room : Nat) (flags : UInt32) (fenceId : UInt64)
    (ctxId : UInt32) (ringIdx : UInt8) : List UInt8 :=
  let hdr type := VirtioGpuCtrlHdr.layout.toBytes (responseHdr type flags fenceId ctxId ringIdx)
  match response with
  | .okResourcePlaneInfo .. =>
    if room < VirtioGpuRespResourcePlaneInfo.layout.size then hdr GpuResponse.okNoData.getType
    else hdr response.getType ++ response.body
  | _ => hdr response.getType ++ response.body

/-- **The length is that of what was written**: whenever `encode` returns `n`, exactly the response
was appended to the writer, and it has `n` bytes. -/
def ReportsWritten (response : GpuResponse) (flags : UInt32) (fenceId : UInt64) (ctxId : UInt32)
    (ringIdx : UInt8) (w : Writer) : Prop :=
  ∀ n w', response.encode flags fenceId ctxId ringIdx w = some (.ok (n, w')) →
    w'.written = w.written ++ response.onWire w.availableBytes flags fenceId ctxId ringIdx ∧
    (response.onWire w.availableBytes flags fenceId ctxId ringIdx).length = n.toNat ∧
    w'.availableBytes + n.toNat = w.availableBytes

/-- The responses that `encode` reports without having written them in full. -/
def GpuResponse.Unwritten (room : Nat) : GpuResponse → Prop
  | .okCapset data => 24 ≤ room ∧ room < 24 + data.length ∧ 24 + data.length < 2 ^ 32
  | .okResourcePlaneInfo _ planeInfo =>
    planeInfo.length ≤ planeInfoMaxCount ∧ VirtioGpuRespResourcePlaneInfo.layout.size ≤ room
  | _ => False

/-! ### The structs as bytes -/

theorem words_cons (a : UInt32) (ws : List UInt32) :
    words (a :: ws) = Layout.u32.toBytes a ++ words ws := List.flatMap_cons

theorem toBytes_displayInfo (hdr : VirtioGpuCtrlHdr) {info : List (UInt32 × UInt32 × Bool)}
    {pmodes : Fin virtioGpuMaxScanouts → VirtioGpuDisplayOne}
    (h : ∀ i, VirtioGpuDisplayOne.layout.toBytes (pmodes i) = words (displayWords info[i.val]?)) :
    VirtioGpuRespDisplayInfo.layout.toBytes ⟨hdr, pmodes⟩ =
      VirtioGpuCtrlHdr.layout.toBytes hdr ++ (GpuResponse.okDisplayInfo info).body := by
  have hmodes : (Layout.array VirtioGpuDisplayOne.layout virtioGpuMaxScanouts).toBytes pmodes =
      (GpuResponse.okDisplayInfo info).body := by
    rw [Layout.toBytes_array, List.flatMap_def, List.map_ofFn]
    exact congrArg (fun f => (List.ofFn f).flatten) (funext h)
  rw [← hmodes]
  rfl

theorem toBytes_u8_array {n : Nat} (f : Fin n → UInt8) :
    (Layout.u8.array n).toBytes f = List.ofFn f := by
  have hbyte (b : UInt8) : Layout.u8.toBytes b = [b] := by
    show [UInt8.ofNat b.toNat] = [b]
    rw [UInt8.ofNat_toNat]
  rw [Layout.toBytes_array, List.flatMap_congr fun b _ => hbyte b, List.flatMap_singleton']

theorem toBytes_respEdid (s : VirtioGpuRespEdid) : VirtioGpuRespEdid.layout.toBytes s =
    VirtioGpuCtrlHdr.layout.toBytes s.hdr ++ (Layout.u32.toBytes s.size ++
      (Layout.u32.toBytes s.padding ++ (Layout.u8.array edidBlobMaxSize).toBytes s.edid)) := by
  rw [VirtioGpuRespEdid.layout, Layout.toBytes_iso]
  simp only [Layout.toBytes_prod, Equiv.coe_fn_symm_mk]

theorem toBytes_edid (hdr : VirtioGpuCtrlHdr) {blob : List UInt8} (h : blob.length = edidBlobMaxSize) :
    VirtioGpuRespEdid.layout.toBytes
      ⟨hdr, .ofNat blob.length, 0, fun i => blob.get (i.cast h.symm)⟩ =
    VirtioGpuCtrlHdr.layout.toBytes hdr ++ (GpuResponse.okEdid blob).body := by
  have hblob : List.ofFn (fun i => blob.get (Fin.cast h.symm i)) = blob := by
    rw [← List.ofFn_congr h, List.ofFn_get]
  have hbody : (GpuResponse.okEdid blob).body =
      Layout.u32.toBytes (.ofNat blob.length) ++ (Layout.u32.toBytes 0 ++ blob) := by
    rw [GpuResponse.body, words_cons, words_cons, List.append_assoc, List.append_assoc]
    rfl
  rw [toBytes_respEdid, toBytes_u8_array, hbody]
  show _ ++ (_ ++ (_ ++ List.ofFn fun i => blob.get (Fin.cast h.symm i))) = _
  rw [hblob]

theorem toBytes_uuid (hdr : VirtioGpuCtrlHdr) (uuid : Fin 16 → UInt8) :
    VirtioGpuRespResourceUuid.layout.toBytes ⟨hdr, uuid⟩ =
      VirtioGpuCtrlHdr.layout.toBytes hdr ++ (GpuResponse.okResourceUuid uuid).body := by
  rw [GpuResponse.body, ← toBytes_u8_array]
  rfl

/-! ### What is written -/

theorem encodeObj_eq_ok {α : Type} {l : Layout α} {a : α} {w w' : Writer} {n : UInt32}
    (hsize : l.size < 2 ^ 32) (h : encodeObj l a w = .ok (n, w')) :
    l.size ≤ w.availableBytes ∧ n.toNat = l.size ∧ w'.written = w.written ++ l.toBytes a ∧
      w'.availableBytes + n.toNat = w.availableBytes := by
  rcases Nat.lt_or_ge w.availableBytes l.size with hshort | hroom
  · rw [encodeObj_of_lt a hshort] at h
    cases h
  · have hbytes : (l.toBytes a).length ≤ w.availableBytes := by
      rw [l.length_toBytes]
      exact hroom
    rw [encodeObj_of_le a hroom, Writer.write_of_le hbytes] at h
    cases h
    have hn : (UInt32.ofNat l.size).toNat = l.size := UInt32.toNat_ofNat_of_lt' hsize
    refine ⟨hroom, hn, rfl, ?_⟩
    show w.availableBytes - (l.toBytes a).length + _ = _
    rw [hn, l.length_toBytes]
    omega

/-- A response that is one object. -/
theorem reportsWritten_of_obj {α : Type} {l : Layout α} {a : α} {response : GpuResponse}
    {flags : UInt32} {fenceId : UInt64} {ctxId : UInt32} {ringIdx : UInt8} {w : Writer}
    (hsize : l.size < 2 ^ 32)
    (hencode : ∀ n w', response.encode flags fenceId ctxId ringIdx w = some (.ok (n, w')) →
      encodeObj l a w = .ok (n, w'))
    (hbytes : l.size ≤ w.availableBytes →
      response.onWire w.availableBytes flags fenceId ctxId ringIdx = l.toBytes a) :
    ReportsWritten response flags fenceId ctxId ringIdx w := by
  intro n w' h
  obtain ⟨hroom, hn, hwritten, havail⟩ := encodeObj_eq_ok hsize (hencode n w' h)
  rw [hbytes hroom, l.length_toBytes, hn]
  exact ⟨hwritten, rfl, hn ▸ havail⟩

section

variable (flags : UInt32) (fenceId : UInt64) (ctxId : UInt32) (ringIdx : UInt8) (w : Writer)

/-- The arm for all the responses that are a bare header. -/
theorem reportsWritten_of_hdr {response : GpuResponse}
    (hencode : ∀ hdr, response.encodeWith hdr w = some (encodeObj VirtioGpuCtrlHdr.layout hdr w))
    (hbody : ∀ room, response.onWire room flags fenceId ctxId ringIdx =
      VirtioGpuCtrlHdr.layout.toBytes
        (responseHdr response.getType flags fenceId ctxId ringIdx)) :
    ReportsWritten response flags fenceId ctxId ringIdx w :=
  reportsWritten_of_obj (by decide)
    (fun n w' h => Option.some.inj ((hencode _).symm.trans h)) fun _ => hbody _

theorem reportsWritten_displayInfo (info : List (UInt32 × UInt32 × Bool)) :
    ReportsWritten (.okDisplayInfo info) flags fenceId ctxId ringIdx w := by
  by_cases hlen : info.length > virtioGpuMaxScanouts
  · intro n w' h
    rw [GpuResponse.encode, GpuResponse.encodeWith, if_pos hlen] at h
    cases h
  · have hencode : (GpuResponse.okDisplayInfo info).encode flags fenceId ctxId ringIdx w = some _ :=
      if_neg hlen
    refine reportsWritten_of_obj (by decide)
      (fun n w' h => Option.some.inj (hencode.symm.trans h)) (fun _ => ?_)
    refine (toBytes_displayInfo _ fun i => ?_).symm
    cases info[i.val]? <;> rfl

theorem size_respEdid : VirtioGpuRespEdid.layout.size < 2 ^ 32 := by
  rw [VirtioGpuRespEdid.layout, Layout.size_iso, Layout.size_prod, Layout.size_prod,
    Layout.size_prod, Layout.size_array]
  decide

theorem reportsWritten_edid (blob : List UInt8) :
    ReportsWritten (.okEdid blob) flags fenceId ctxId ringIdx w := by
  by_cases hlt : blob.length < 2 ^ 32
  · by_cases hlen : blob.length = edidBlobMaxSize
    · have hbytes := toBytes_edid
        (responseHdr (GpuResponse.okEdid blob).getType flags fenceId ctxId ringIdx) hlen
      refine reportsWritten_of_obj size_respEdid (fun n w' h => ?_) (fun _ => hbytes.symm)
      rw [GpuResponse.encode, GpuResponse.encodeWith, if_neg (not_not_intro hlt), dif_pos hlen] at h
      exact Option.some.inj h
    · intro n w' h
      rw [GpuResponse.encode, GpuResponse.encodeWith, if_neg (not_not_intro hlt), dif_neg hlen] at h
      cases h
  · intro n w' h
    rw [GpuResponse.encode, GpuResponse.encodeWith, if_pos hlt] at h
    cases h

/-- The header of a capset, and the data as far as there is room. -/
theorem encode_capset (data : List UInt8) :
    (GpuResponse.okCapset data).encode flags fenceId ctxId ringIdx w =
      some (if 24 ≤ w.availableBytes then
        if 24 + data.length < 2 ^ 32 then
          .ok (.ofNat (24 + data.length), (w.write (VirtioGpuCtrlHdr.layout.toBytes
            (responseHdr (GpuResponse.okCapset data).getType flags fenceId ctxId ringIdx))).write data)
        else .error .sizeOverflow
      else .error .descriptorWriteFailed) := by
  let hdr := responseHdr (GpuResponse.okCapset data).getType flags fenceId ctxId ringIdx
  show some (Writer.writeObj VirtioGpuCtrlHdr.layout hdr w >>= _) = _
  by_cases hroom : 24 ≤ w.availableBytes
  · rw [if_pos hroom, Writer.writeObj_of_le (l := VirtioGpuCtrlHdr.layout) hdr hroom]
    rfl
  · rw [if_neg hroom, Writer.writeObj_of_lt (l := VirtioGpuCtrlHdr.layout) hdr
      (Nat.lt_of_not_le hroom)]
    rfl

/-- So it is not all written if there is room for the header and not for the data. -/
theorem reportsWritten_capset (data : List UInt8) :
    ReportsWritten (.okCapset data) flags fenceId ctxId ringIdx w ↔
      ¬ (GpuResponse.okCapset data).Unwritten w.availableBytes := by
  have hlen (hdr : VirtioGpuCtrlHdr) : (VirtioGpuCtrlHdr.layout.toBytes hdr).length = 24 :=
    VirtioGpuCtrlHdr.layout.length_toBytes hdr
  have hwire : (GpuResponse.okCapset data).onWire w.availableBytes flags fenceId ctxId ringIdx =
      VirtioGpuCtrlHdr.layout.toBytes
        (responseHdr (GpuResponse.okCapset data).getType flags fenceId ctxId ringIdx) ++ data := rfl
  have hencode := encode_capset flags fenceId ctxId ringIdx w data
  have hn (hlt : 24 + data.length < 2 ^ 32) : (UInt32.ofNat (24 + data.length)).toNat =
      24 + data.length := UInt32.toNat_ofNat_of_lt' hlt
  constructor
  · rintro h ⟨hroom, hshort, hlt⟩
    rw [if_pos hroom, if_pos hlt] at hencode
    obtain ⟨-, -, havail⟩ := h _ _ hencode
    rw [hn hlt] at havail
    omega
  · intro hfits n w' h
    rw [hencode] at h
    split at h
    case isFalse => cases h
    case isTrue hroom =>
      split at h
      case isFalse => cases h
      case isTrue hlt =>
        have hall : 24 + data.length ≤ w.availableBytes := by
          by_contra hshort
          exact hfits ⟨hroom, Nat.lt_of_not_le hshort, hlt⟩
        rw [Writer.write_of_le (w := w) (by rw [hlen]; omega),
          Writer.write_of_le (by dsimp only; rw [hlen]; omega)] at h
        cases h
        rw [hn hlt, hwire]
        refine ⟨List.append_assoc _ _ _, by rw [List.length_append, hlen], ?_⟩
        show w.availableBytes - _ - _ + _ = _
        rw [hlen]
        omega

/-- The plane information is not written at all if there is room for it. -/
theorem reportsWritten_planeInfo (formatModifier : UInt64)
    (planeInfo : List GpuResponsePlaneInfo) :
    ReportsWritten (.okResourcePlaneInfo formatModifier planeInfo) flags fenceId ctxId ringIdx w ↔
      ¬ (GpuResponse.okResourcePlaneInfo formatModifier planeInfo).Unwritten w.availableBytes := by
  by_cases hmany : planeInfo.length > planeInfoMaxCount
  · have hencode : (GpuResponse.okResourcePlaneInfo formatModifier planeInfo).encode flags fenceId
        ctxId ringIdx w = some (.error (.tooManyPlanes planeInfo.length)) := if_pos hmany
    refine ⟨fun _ h => Nat.not_lt_of_le h.1 hmany, fun _ n w' h => ?_⟩
    rw [hencode] at h
    cases h
  · by_cases hroom : VirtioGpuRespResourcePlaneInfo.layout.size ≤ w.availableBytes
    · have hencode : (GpuResponse.okResourcePlaneInfo formatModifier planeInfo).encode flags fenceId
          ctxId ringIdx w = some (.ok (72, w)) := (if_neg hmany).trans (if_pos hroom)
      refine ⟨fun h _ => ?_, fun h => absurd ⟨Nat.le_of_not_lt hmany, hroom⟩ h⟩
      obtain ⟨-, -, havail⟩ := h _ _ hencode
      exact absurd havail (Nat.ne_of_gt (Nat.lt_add_of_pos_right (by decide)))
    · have hencode : (GpuResponse.okResourcePlaneInfo formatModifier planeInfo).encode flags fenceId
          ctxId ringIdx w = some _ := (if_neg hmany).trans (if_neg hroom)
      refine ⟨fun _ h => hroom h.2, fun _ => reportsWritten_of_obj (l := VirtioGpuCtrlHdr.layout)
        (by decide) (fun n w' h => Option.some.inj (hencode.symm.trans h)) fun _ => ?_⟩
      exact if_pos (Nat.lt_of_not_le hroom)

end

/-- **Which responses are reported as written**: all but the plane information that is accepted and
fits, and a capset whose header fits and whose data does not. -/
theorem encode_reports_written_iff (response : GpuResponse) (flags : UInt32) (fenceId : UInt64)
    (ctxId : UInt32) (ringIdx : UInt8) (w : Writer) :
    ReportsWritten response flags fenceId ctxId ringIdx w ↔
      ¬ response.Unwritten w.availableBytes := by
  cases response with
  | okDisplayInfo info =>
    exact ⟨fun _ => not_false, fun _ => reportsWritten_displayInfo flags fenceId ctxId ringIdx w info⟩
  | okEdid blob =>
    exact ⟨fun _ => not_false, fun _ => reportsWritten_edid flags fenceId ctxId ringIdx w blob⟩
  | okCapsetInfo capsetId version size =>
    refine ⟨fun _ => not_false, fun _ => reportsWritten_of_obj
      (l := VirtioGpuRespCapsetInfo.layout) (by decide) (fun n w' h => Option.some.inj h) fun _ => ?_⟩
    simp only [GpuResponse.onWire, GpuResponse.body, words, List.flatMap_cons, List.flatMap_nil, List.append_nil]
    rfl
  | okCapset data => exact reportsWritten_capset flags fenceId ctxId ringIdx w data
  | okResourcePlaneInfo formatModifier planeInfo =>
    exact reportsWritten_planeInfo flags fenceId ctxId ringIdx w formatModifier planeInfo
  | okResourceUuid uuid =>
    exact ⟨fun _ => not_false, fun _ => reportsWritten_of_obj
      (l := VirtioGpuRespResourceUuid.layout) (by decide) (fun n w' h => Option.some.inj h)
      fun _ => (toBytes_uuid _ uuid).symm⟩
  | okMapInfo mapInfo =>
    refine ⟨fun _ => not_false, fun _ => reportsWritten_of_obj
      (l := VirtioGpuRespMapInfo.layout) (by decide) (fun n w' h => Option.some.inj h) fun _ => ?_⟩
    simp only [GpuResponse.onWire, GpuResponse.body, words, List.flatMap_cons, List.flatMap_nil, List.append_nil]
    rfl
  | okNoData | errUnspec | errRutabaga | errScanout | errOutOfMemory | errInvalidScanoutId
  | errInvalidResourceId | errInvalidContextId | errInvalidParameter =>
    exact ⟨fun _ => not_false, fun _ => reportsWritten_of_hdr flags fenceId ctxId ringIdx w
      (fun _ => rfl) fun _ => List.append_nil _⟩

/-- **A response that is not there**: the driver is told of 72 bytes, and none was written. -/
theorem plane_info_not_written :
    (GpuResponse.okResourcePlaneInfo 0 []).encode 0 0 0 0 ⟨72, []⟩ = some (.ok (72, ⟨72, []⟩)) ∧
    ¬ ReportsWritten (.okResourcePlaneInfo 0 []) 0 0 0 0 ⟨72, []⟩ := by
  have hencode : (GpuResponse.okResourcePlaneInfo 0 []).encode 0 0 0 0 ⟨72, []⟩ =
      some (.ok (72, ⟨72, []⟩)) := rfl
  refine ⟨hencode, fun h => ?_⟩
  obtain ⟨-, -, havail⟩ := h _ _ hencode
  exact absurd havail (by decide)

end VirtioPoc.Gpu
