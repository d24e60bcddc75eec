import VirtioPoc.Gpu.Protocol

/-!
# Decoding of requests

`GpuCommand::decode`: the header, then the payload that the type of the header
selects.  24 of the 26 types have a payload of fixed size; `RESOURCE_ATTACH_BACKING`
and `SUBMIT_3D` carry counts, and sections of that many elements after them.

The reader stands for the concatenation of the readable bytes of the chain; the
decoder returns what is left of it.  `GpuCommand.decode_exact` says that the
decoder is the inverse of `GpuCommand.encWith` on the requests, and which error it
returns on every other input.
-/

namespace VirtioPoc.Gpu

open Base

/-! ### Request types -/

/-- The `VIRTIO_GPU_CMD_*` codes that `decode` knows. -/
inductive VirtioGpuCtrlType
  | getDisplayInfo
  | resourceCreate2d
  | resourceUnref
  | setScanout
  | resourceFlush
  | transferToHost2d
  | resourceAttachBacking
  | resourceDetachBacking
  | getCapsetInfo
  | getCapset
  | getEdid
  | resourceAssignUuid
  | resourceCreateBlob
  | setScanoutBlob
  | ctxCreate
  | ctxDestroy
  | ctxAttachResource
  | ctxDetachResource
  | resourceCreate3d
  | transferToHost3d
  | transferFromHost3d
  | cmdSubmit3d
  | resourceMapBlob
  | resourceUnmapBlob
  | updateCursor
  | moveCursor
  deriving DecidableEq

namespace VirtioGpuCtrlType

def code : VirtioGpuCtrlType → UInt32
  | .getDisplayInfo => 0x0100
  | .resourceCreate2d => 0x0101
  | .resourceUnref => 0x0102
  | .setScanout => 0x0103
  | .resourceFlush => 0x0104
  | .transferToHost2d => 0x0105
  | .resourceAttachBacking => 0x0106
  | .resourceDetachBacking => 0x0107
  | .getCapsetInfo => 0x0108
  | .getCapset => 0x0109
  | .getEdid => 0x010a
  | .resourceAssignUuid => 0x010b
  | .resourceCreateBlob => 0x010c
  | .setScanoutBlob => 0x010d
  | .ctxCreate => 0x0200
  | .ctxDestroy => 0x0201
  | .ctxAttachResource => 0x0202
  | .ctxDetachResource => 0x0203
  | .resourceCreate3d => 0x0204
  | .transferToHost3d => 0x0205
  | .transferFromHost3d => 0x0206
  | .cmdSubmit3d => 0x0207
  | .resourceMapBlob => 0x0208
  | .resourceUnmapBlob => 0x0209
  | .updateCursor => 0x0300
  | .moveCursor => 0x0301

def all : List VirtioGpuCtrlType :=
  [.getDisplayInfo, .resourceCreate2d, .resourceUnref, .setScanout, .resourceFlush,
    .transferToHost2d, .resourceAttachBacking, .resourceDetachBacking, .getCapsetInfo,
    .getCapset, .getEdid, .resourceAssignUuid, .resourceCreateBlob, .setScanoutBlob, .ctxCreate,
    .ctxDestroy, .ctxAttachResource, .ctxDetachResource, .resourceCreate3d, .transferToHost3d,
    .transferFromHost3d, .cmdSubmit3d, .resourceMapBlob, .resourceUnmapBlob, .updateCursor,
    .moveCursor]

/-- The arm of the `match` on `hdr.type_` that is taken, if any. -/
def ofCode (type : UInt32) : Option VirtioGpuCtrlType := all.find? fun t => t.code = type

theorem ofCode_code : ∀ t : VirtioGpuCtrlType, ofCode t.code = some t := by
  intro t
  cases t <;> rfl

theorem ofCode_eq_some {type : UInt32} {t : VirtioGpuCtrlType} :
    ofCode type = some t ↔ t.code = type := by
  constructor
  · intro h
    have := List.find?_some h
    exact of_decide_eq_true this
  · rintro rfl
    exact ofCode_code t

theorem ofCode_eq_none {type : UInt32} :
    ofCode type = none ↔ ∀ t : VirtioGpuCtrlType, t.code ≠ type := by
  constructor
  · intro h t ht
    rw [ofCode_eq_some.mpr ht] at h
    cases h
  · intro h
    cases hc : ofCode type with
    | none => rfl
    | some t => exact absurd (ofCode_eq_some.mp hc) (h t)

end VirtioGpuCtrlType

/-! ### The decoder -/

inductive GpuCommandDecodeError
  | invalidType (type : UInt32)
  | io
  | descriptorReadFailed
  deriving DecidableEq

/-- `.map_err(|_| Error::DescriptorReadFailed)`. -/
def orReadFailed {α : Type} : Option α → Except GpuCommandDecodeError α
  | none => .error .descriptorReadFailed
  | some a => .ok a

/-- The arms that read one object and wrap it. -/
def readAs {α : Type} (l : Layout α) (mk : α → GpuCommand) (reader : List UInt8) :
    Except GpuCommandDecodeError (GpuCommand × List UInt8) := do
  let (req, reader) ← orReadFailed (l.read reader)
  return (mk req, reader)

/-- The arms of the `match` in `GpuCommand::decode`. -/
def VirtioGpuCtrlType.decodePayload : VirtioGpuCtrlType → List UInt8 →
    Except GpuCommandDecodeError (GpuCommand × List UInt8)
  | .getDisplayInfo, reader => .ok (.getDisplayInfo, reader)
  | .resourceCreate2d, reader => readAs VirtioGpuResourceCreate2d.layout .resourceCreate2d reader
  | .resourceUnref, reader => readAs VirtioGpuResourceUnref.layout .resourceUnref reader
  | .setScanout, reader => readAs VirtioGpuSetScanout.layout .setScanout reader
  | .resourceFlush, reader => readAs VirtioGpuResourceFlush.layout .resourceFlush reader
  | .transferToHost2d, reader => readAs VirtioGpuTransferToHost2d.layout .transferToHost2d reader
  | .resourceAttachBacking, reader => do
    let (info, reader) ← orReadFailed (VirtioGpuResourceAttachBacking.layout.read reader)
    let (entries, reader) ←
      orReadFailed (VirtioGpuMemEntry.layout.readMany info.nrEntries.toNat reader)
    return (.resourceAttachBacking info (entries.map fun entry => (entry.addr, entry.length)),
      reader)
  | .resourceDetachBacking, reader =>
    readAs VirtioGpuResourceDetachBacking.layout .resourceDetachBacking reader
  | .getCapsetInfo, reader => readAs VirtioGpuGetCapsetInfo.layout .getCapsetInfo reader
  | .getCapset, reader => readAs VirtioGpuGetCapset.layout .getCapset reader
  | .getEdid, reader => readAs VirtioGpuGetEdid.layout .getEdid reader
  | .resourceAssignUuid, reader => readAs VirtioGpuResourceAssignUuid.layout .resourceAssignUuid reader
  | .resourceCreateBlob, reader => readAs VirtioGpuResourceCreateBlob.layout .resourceCreateBlob reader
  | .setScanoutBlob, reader => readAs VirtioGpuSetScanoutBlob.layout .setScanoutBlob reader
  | .ctxCreate, reader => readAs VirtioGpuCtxCreate.layout .ctxCreate reader
  | .ctxDestroy, reader => readAs VirtioGpuCtxDestroy.layout .ctxDestroy reader
  | .ctxAttachResource, reader => readAs VirtioGpuCtxResource.layout .ctxAttachResource reader
  | .ctxDetachResource, reader => readAs VirtioGpuCtxResource.layout .ctxDetachResource reader
  | .resourceCreate3d, reader => readAs VirtioGpuResourceCreate3d.layout .resourceCreate3d reader
  | .transferToHost3d, reader => readAs VirtioGpuTransferHost3d.layout .transferToHost3d reader
  | .transferFromHost3d, reader => readAs VirtioGpuTransferHost3d.layout .transferFromHost3d reader
  | .cmdSubmit3d, reader => do
    let (info, reader) ← orReadFailed (VirtioGpuCmdSubmit.layout.read reader)
    let (fenceIds, reader) ← orReadFailed (Layout.u64.readMany info.numInFences.toNat reader)
    let (cmdData, reader) ← orReadFailed (readExact info.size.toNat reader)
    return (.cmdSubmit3d cmdData fenceIds, reader)
  | .resourceMapBlob, reader => readAs VirtioGpuResourceMapBlob.layout .resourceMapBlob reader
  | .resourceUnmapBlob, reader => readAs VirtioGpuResourceUnmapBlob.layout .resourceUnmapBlob reader
  | .updateCursor, reader => readAs VirtioGpuUpdateCursor.layout .updateCursor reader
  | .moveCursor, reader => readAs VirtioGpuUpdateCursor.layout .moveCursor reader

def GpuCommand.decode (reader : List UInt8) :
    Except GpuCommandDecodeError ((VirtioGpuCtrlHdr × GpuCommand) × List UInt8) := do
  let (hdr, reader) ← orReadFailed (VirtioGpuCtrlHdr.layout.read reader)
  match VirtioGpuCtrlType.ofCode hdr.type with
  | none => .error (.invalidType hdr.type)
  | some t =>
    let (cmd, reader) ← t.decodePayload reader
    return ((hdr, cmd), reader)

/-! ### The grammar of requests -/

namespace GpuCommand

def ctrlType : GpuCommand → VirtioGpuCtrlType
  | .getDisplayInfo => .getDisplayInfo
  | .resourceCreate2d _ => .resourceCreate2d
  | .resourceUnref _ => .resourceUnref
  | .setScanout _ => .setScanout
  | .resourceFlush _ => .resourceFlush
  | .transferToHost2d _ => .transferToHost2d
  | .resourceAttachBacking _ _ => .resourceAttachBacking
  | .resourceDetachBacking _ => .resourceDetachBacking
  | .getCapsetInfo _ => .getCapsetInfo
  | .getCapset _ => .getCapset
  | .getEdid _ => .getEdid
  | .resourceAssignUuid _ => .resourceAssignUuid
  | .resourceCreateBlob _ => .resourceCreateBlob
  | .setScanoutBlob _ => .setScanoutBlob
  | .ctxCreate _ => .ctxCreate
  | .ctxDestroy _ => .ctxDestroy
  | .ctxAttachResource _ => .ctxAttachResource
  | .ctxDetachResource _ => .ctxDetachResource
  | .resourceCreate3d _ => .resourceCreate3d
  | .transferToHost3d _ => .transferToHost3d
  | .transferFromHost3d _ => .transferFromHost3d
  | .cmdSubmit3d _ _ => .cmdSubmit3d
  | .resourceMapBlob _ => .resourceMapBlob
  | .resourceUnmapBlob _ => .resourceUnmapBlob
  | .updateCursor _ => .updateCursor
  | .moveCursor _ => .moveCursor

/-- The counts of the request are those of its lists. -/
def Encodable : GpuCommand → Prop
  | .resourceAttachBacking req iovecs => iovecs.length = req.nrEntries.toNat
  | .cmdSubmit3d cmdData fenceIds => cmdData.length < 2 ^ 32 ∧ fenceIds.length < 2 ^ 32
  | _ => True

/-- The memory entries on the wire, the `i`-th with the padding `padding i`. -/
def memEntries (padding : Nat → UInt32) (iovecs : List (UInt64 × UInt32)) :
    List VirtioGpuMemEntry :=
  iovecs.mapIdx fun i iovec => ⟨iovec.1, iovec.2, padding i⟩

/-- What follows the header.  The decoder ignores the padding of the entries. -/
def payload (padding : Nat → UInt32) : GpuCommand → List UInt8
  | .getDisplayInfo => []
  | .resourceCreate2d req => VirtioGpuResourceCreate2d.layout.toBytes req
  | .resourceUnref req => VirtioGpuResourceUnref.layout.toBytes req
  | .setScanout req => VirtioGpuSetScanout.layout.toBytes req
  | .resourceFlush req => VirtioGpuResourceFlush.layout.toBytes req
  | .transferToHost2d req => VirtioGpuTransferToHost2d.layout.toBytes req
  | .resourceAttachBacking req iovecs => VirtioGpuResourceAttachBacking.layout.toBytes req ++
      (memEntries padding iovecs).flatMap VirtioGpuMemEntry.layout.toBytes
  | .resourceDetachBacking req => VirtioGpuResourceDetachBacking.layout.toBytes req
  | .getCapsetInfo req => VirtioGpuGetCapsetInfo.layout.toBytes req
  | .getCapset req => VirtioGpuGetCapset.layout.toBytes req
  | .getEdid req => VirtioGpuGetEdid.layout.toBytes req
  | .resourceAssignUuid req => VirtioGpuResourceAssignUuid.layout.toBytes req
  | .resourceCreateBlob req => VirtioGpuResourceCreateBlob.layout.toBytes req
  | .setScanoutBlob req => VirtioGpuSetScanoutBlob.layout.toBytes req
  | .ctxCreate req => VirtioGpuCtxCreate.layout.toBytes req
  | .ctxDestroy req => VirtioGpuCtxDestroy.layout.toBytes req
  | .ctxAttachResource req => VirtioGpuCtxResource.layout.toBytes req
  | .ctxDetachResource req => VirtioGpuCtxResource.layout.toBytes req
  | .resourceCreate3d req => VirtioGpuResourceCreate3d.layout.toBytes req
  | .transferToHost3d req => VirtioGpuTransferHost3d.layout.toBytes req
  | .transferFromHost3d req => VirtioGpuTransferHost3d.layout.toBytes req
  | .cmdSubmit3d cmdData fenceIds =>
    VirtioGpuCmdSubmit.layout.toBytes ⟨.ofNat cmdData.length, .ofNat fenceIds.length⟩ ++
      fenceIds.flatMap Layout.u64.toBytes ++ cmdData
  | .resourceMapBlob req => VirtioGpuResourceMapBlob.layout.toBytes req
  | .resourceUnmapBlob req => VirtioGpuResourceUnmapBlob.layout.toBytes req
  | .updateCursor req => VirtioGpuUpdateCursor.layout.toBytes req
  | .moveCursor req => VirtioGpuUpdateCursor.layout.toBytes req

/-- The request on the wire: the header, with the code of the command for its type, and the
payload. -/
def encWith (padding : Nat → UInt32) (hdr : VirtioGpuCtrlHdr) (cmd : GpuCommand) : List UInt8 :=
  VirtioGpuCtrlHdr.layout.toBytes { hdr with type := cmd.ctrlType.code } ++ cmd.payload padding

end GpuCommand

/-- The length that the payload of a request of the type announces. -/
def VirtioGpuCtrlType.announced : VirtioGpuCtrlType → List UInt8 → Nat
  | .getDisplayInfo, _ => 0
  | .resourceCreate2d, _ => VirtioGpuResourceCreate2d.layout.size
  | .resourceUnref, _ => VirtioGpuResourceUnref.layout.size
  | .setScanout, _ => VirtioGpuSetScanout.layout.size
  | .resourceFlush, _ => VirtioGpuResourceFlush.layout.size
  | .transferToHost2d, _ => VirtioGpuTransferToHost2d.layout.size
  | .resourceAttachBacking, bs =>
    let info := VirtioGpuResourceAttachBacking.layout.ofBytes (bs.take 8)
    8 + info.nrEntries.toNat * 16
  | .resourceDetachBacking, _ => VirtioGpuResourceDetachBacking.layout.size
  | .getCapsetInfo, _ => VirtioGpuGetCapsetInfo.layout.size
  | .getCapset, _ => VirtioGpuGetCapset.layout.size
  | .getEdid, _ => VirtioGpuGetEdid.layout.size
  | .resourceAssignUuid, _ => VirtioGpuResourceAssignUuid.layout.size
  | .resourceCreateBlob, _ => VirtioGpuResourceCreateBlob.layout.size
  | .setScanoutBlob, _ => VirtioGpuSetScanoutBlob.layout.size
  | .ctxCreate, _ => VirtioGpuCtxCreate.layout.size
  | .ctxDestroy, _ => VirtioGpuCtxDestroy.layout.size
  | .ctxAttachResource, _ => VirtioGpuCtxResource.layout.size
  | .ctxDetachResource, _ => VirtioGpuCtxResource.layout.size
  | .resourceCreate3d, _ => VirtioGpuResourceCreate3d.layout.size
  | .transferToHost3d, _ => VirtioGpuTransferHost3d.layout.size
  | .transferFromHost3d, _ => VirtioGpuTransferHost3d.layout.size
  | .cmdSubmit3d, bs =>
    let info := VirtioGpuCmdSubmit.layout.ofBytes (bs.take 8)
    8 + info.numInFences.toNat * 8 + info.size.toNat
  | .resourceMapBlob, _ => VirtioGpuResourceMapBlob.layout.size
  | .resourceUnmapBlob, _ => VirtioGpuResourceUnmapBlob.layout.size
  | .updateCursor, _ => VirtioGpuUpdateCursor.layout.size
  | .moveCursor, _ => VirtioGpuUpdateCursor.layout.size

/-- The type in the header at the front of `bs`. -/
def headerType (bs : List UInt8) : UInt32 := (VirtioGpuCtrlHdr.layout.ofBytes (bs.take 24)).type

/-- The header, or the payload that a known type and its counts announce, is cut short. -/
def Truncated (bs : List UInt8) : Prop :=
  bs.length < 24 ∨ ∃ t : VirtioGpuCtrlType, t.code = headerType bs ∧
    (bs.drop 24).length < t.announced (bs.drop 24)

/-! ### Sections of a payload -/

section

variable {α β : Type}

@[simp] theorem orReadFailed_none_bind (f : α → Except GpuCommandDecodeError β) :
    (orReadFailed none >>= f) = .error .descriptorReadFailed := rfl

@[simp] theorem orReadFailed_some_bind (a : α) (f : α → Except GpuCommandDecodeError β) :
    (orReadFailed (some a) >>= f) = f a := rfl

theorem failed_iff {e : GpuCommandDecodeError} {P : Prop} (hP : P) :
    (Except.error .descriptorReadFailed : Except GpuCommandDecodeError β) = .error e ↔
      e = .descriptorReadFailed ∧ P :=
  ⟨fun h => ⟨(Except.error.inj h).symm, hP⟩, fun h => h.1 ▸ rfl⟩

theorem not_failed_iff {e : GpuCommandDecodeError} {b : β} {P : Prop} (hP : ¬ P) :
    (Except.ok b : Except GpuCommandDecodeError β) = .error e ↔ e = .descriptorReadFailed ∧ P :=
  ⟨(nomatch ·), fun h => absurd h.2 hP⟩

variable {l : Layout α} {mk : α → GpuCommand} {bs rest : List UInt8} {cmd : GpuCommand}

theorem readAs_append (l : Layout α) (mk : α → GpuCommand) (a : α) (rest : List UInt8) :
    readAs l mk (l.toBytes a ++ rest) = .ok (mk a, rest) := by
  rw [readAs, l.read_append]
  rfl

theorem readAs_eq_ok (h : readAs l mk bs = .ok (cmd, rest)) :
    ∃ a, cmd = mk a ∧ bs = l.toBytes a ++ rest := by
  cases hr : l.read bs with
  | none => rw [readAs, hr] at h; cases h
  | some p =>
    obtain ⟨a, bs'⟩ := p
    rw [l.read_eq_some] at hr
    rw [hr, readAs_append] at h
    cases h
    exact ⟨a, rfl, hr⟩

theorem readAs_eq_error {e : GpuCommandDecodeError} :
    readAs l mk bs = .error e ↔ e = .descriptorReadFailed ∧ bs.length < l.size := by
  rw [← l.read_eq_none, readAs]
  cases l.read bs with
  | none => exact failed_iff rfl
  | some p => exact not_failed_iff (by simp)

end

/-- The entries that the decoder keeps, as they were on the wire: each with some padding. -/
theorem exists_memEntries (entries : List VirtioGpuMemEntry) :
    ∃ padding, entries =
      GpuCommand.memEntries padding (entries.map fun entry => (entry.addr, entry.length)) := by
  refine ⟨fun i => (entries[i]?.map (·.padding)).getD 0, List.ext_getElem ?_ fun i h _ => ?_⟩
  · rw [GpuCommand.memEntries, List.length_mapIdx, List.length_map]
  · simp [GpuCommand.memEntries, List.getElem?_eq_getElem h]

theorem map_memEntries (padding : Nat → UInt32) (iovecs : List (UInt64 × UInt32)) :
    (GpuCommand.memEntries padding iovecs).map (fun entry => (entry.addr, entry.length)) =
      iovecs := by
  apply List.ext_getElem
  · rw [List.length_map, GpuCommand.memEntries, List.length_mapIdx]
  · intro i _ _
    simp [GpuCommand.memEntries]

/-! ### The two payloads with counts -/

section

variable {bs rest : List UInt8} {cmd : GpuCommand} {e : GpuCommandDecodeError}

theorem decode_attachBacking (padding : Nat → UInt32) {req : VirtioGpuResourceAttachBacking}
    {iovecs : List (UInt64 × UInt32)} (h : iovecs.length = req.nrEntries.toNat)
    (rest : List UInt8) :
    VirtioGpuCtrlType.resourceAttachBacking.decodePayload
        ((GpuCommand.resourceAttachBacking req iovecs).payload padding ++ rest) =
      .ok (.resourceAttachBacking req iovecs, rest) := by
  have hlen : (GpuCommand.memEntries padding iovecs).length = req.nrEntries.toNat := by
    rw [GpuCommand.memEntries, List.length_mapIdx, h]
  have hmany := VirtioGpuMemEntry.layout.readMany_append (GpuCommand.memEntries padding iovecs) rest
  rw [hlen] at hmany
  rw [VirtioGpuCtrlType.decodePayload, GpuCommand.payload, List.append_assoc, Layout.read_append,
    orReadFailed_some_bind]
  simp only [hmany, orReadFailed_some_bind, map_memEntries]
  rfl

theorem attachBacking_of_decode
    (h : VirtioGpuCtrlType.resourceAttachBacking.decodePayload bs = .ok (cmd, rest)) :
    cmd.ctrlType = .resourceAttachBacking ∧ cmd.Encodable ∧
      ∃ padding, bs = cmd.payload padding ++ rest := by
  rw [VirtioGpuCtrlType.decodePayload] at h
  cases hr : VirtioGpuResourceAttachBacking.layout.read bs with
  | none => rw [hr] at h; cases h
  | some p =>
    obtain ⟨info, bs'⟩ := p
    rw [hr, orReadFailed_some_bind] at h
    cases hm : VirtioGpuMemEntry.layout.readMany info.nrEntries.toNat bs' with
    | none => simp only [hm] at h; cases h
    | some q =>
      obtain ⟨entries, rest'⟩ := q
      simp only [hm, orReadFailed_some_bind] at h
      cases h
      obtain ⟨hlen, rfl⟩ := (Layout.readMany_eq_some _).mp hm
      obtain ⟨padding, hpadding⟩ := exists_memEntries entries
      refine ⟨rfl, by rw [GpuCommand.Encodable, List.length_map, hlen], padding, ?_⟩
      rw [GpuCommand.payload, ← hpadding, List.append_assoc]
      exact (Layout.read_eq_some _).mp hr

theorem decode_attachBacking_eq_error :
    VirtioGpuCtrlType.resourceAttachBacking.decodePayload bs = .error e ↔
      e = .descriptorReadFailed ∧
        bs.length < VirtioGpuCtrlType.resourceAttachBacking.announced bs := by
  rw [VirtioGpuCtrlType.decodePayload, VirtioGpuCtrlType.announced]
  cases hr : VirtioGpuResourceAttachBacking.layout.read bs with
  | none =>
    have hlen : bs.length < 8 := (Layout.read_eq_none _).mp hr
    exact failed_iff (by omega)
  | some p =>
    obtain ⟨info, bs'⟩ := p
    obtain rfl := (Layout.read_eq_some _).mp hr
    have hinfo : (VirtioGpuResourceAttachBacking.layout.toBytes info).length = 8 :=
      Layout.length_toBytes _ _
    have hmany : VirtioGpuMemEntry.layout.readMany info.nrEntries.toNat bs' = none ↔ _ :=
      Layout.readMany_eq_none _
    rw [orReadFailed_some_bind]
    simp only [List.take_left' hinfo, Layout.ofBytes_toBytes, List.length_append, hinfo,
      Nat.add_lt_add_iff_left]
    rw [show info.nrEntries.toNat * 16 = info.nrEntries.toNat * VirtioGpuMemEntry.layout.size from rfl,
      ← hmany]
    cases VirtioGpuMemEntry.layout.readMany info.nrEntries.toNat bs' with
    | none => exact failed_iff rfl
    | some q => exact not_failed_iff (by simp)

theorem decode_submit3d {cmdData : List UInt8} {fenceIds : List UInt64}
    (hc : cmdData.length < 2 ^ 32) (hf : fenceIds.length < 2 ^ 32) (padding : Nat → UInt32)
    (rest : List UInt8) :
    VirtioGpuCtrlType.cmdSubmit3d.decodePayload
        ((GpuCommand.cmdSubmit3d cmdData fenceIds).payload padding ++ rest) =
      .ok (.cmdSubmit3d cmdData fenceIds, rest) := by
  have hcnat : (UInt32.ofNat cmdData.length).toNat = cmdData.length :=
    UInt32.toNat_ofNat_of_lt' hc
  have hfnat : (UInt32.ofNat fenceIds.length).toNat = fenceIds.length :=
    UInt32.toNat_ofNat_of_lt' hf
  have hmany := Layout.u64.readMany_append fenceIds (cmdData ++ rest)
  have hexact : readExact cmdData.length (cmdData ++ rest) = some (cmdData, rest) :=
    readExact_eq_some.mpr ⟨rfl, rfl⟩
  rw [VirtioGpuCtrlType.decodePayload, GpuCommand.payload, List.append_assoc, List.append_assoc,
    Layout.read_append, orReadFailed_some_bind]
  simp only [hfnat, hcnat, hmany, hexact, orReadFailed_some_bind]
  rfl

theorem submit3d_of_decode
    (h : VirtioGpuCtrlType.cmdSubmit3d.decodePayload bs = .ok (cmd, rest)) :
    cmd.ctrlType = .cmdSubmit3d ∧ cmd.Encodable ∧
      ∃ padding, bs = cmd.payload padding ++ rest := by
  rw [VirtioGpuCtrlType.decodePayload] at h
  cases hr : VirtioGpuCmdSubmit.layout.read bs with
  | none => rw [hr] at h; cases h
  | some p =>
    obtain ⟨info, bs'⟩ := p
    rw [hr, orReadFailed_some_bind] at h
    cases hm : Layout.u64.readMany info.numInFences.toNat bs' with
    | none => simp only [hm] at h; cases h
    | some q =>
      obtain ⟨fenceIds, bs''⟩ := q
      simp only [hm, orReadFailed_some_bind] at h
      cases hx : readExact info.size.toNat bs'' with
      | none => simp only [hx] at h; cases h
      | some q =>
        obtain ⟨cmdData, rest'⟩ := q
        simp only [hx, orReadFailed_some_bind] at h
        cases h
        obtain ⟨hf, rfl⟩ := (Layout.readMany_eq_some _).mp hm
        obtain ⟨hc, rfl⟩ := readExact_eq_some.mp hx
        refine ⟨rfl, ⟨hc ▸ info.size.toNat_lt, hf ▸ info.numInFences.toNat_lt⟩, fun _ => 0, ?_⟩
        rw [GpuCommand.payload, hc, hf, UInt32.ofNat_toNat, UInt32.ofNat_toNat, List.append_assoc,
          List.append_assoc]
        exact (Layout.read_eq_some _).mp hr

theorem decode_submit3d_eq_error :
    VirtioGpuCtrlType.cmdSubmit3d.decodePayload bs = .error e ↔
      e = .descriptorReadFailed ∧ bs.length < VirtioGpuCtrlType.cmdSubmit3d.announced bs := by
  rw [VirtioGpuCtrlType.decodePayload, VirtioGpuCtrlType.announced]
  cases hr : VirtioGpuCmdSubmit.layout.read bs with
  | none =>
    have hlen : bs.length < 8 := (Layout.read_eq_none _).mp hr
    exact failed_iff (by omega)
  | some p =>
    obtain ⟨info, bs'⟩ := p
    obtain rfl := (Layout.read_eq_some _).mp hr
    have hinfo : (VirtioGpuCmdSubmit.layout.toBytes info).length = 8 := Layout.length_toBytes _ _
    have hmany : Layout.u64.readMany info.numInFences.toNat bs' = none ↔ _ :=
      Layout.readMany_eq_none _
    rw [orReadFailed_some_bind]
    simp only [List.take_left' hinfo, Layout.ofBytes_toBytes, List.length_append, hinfo,
      Nat.add_assoc, Nat.add_lt_add_iff_left]
    cases hm : Layout.u64.readMany info.numInFences.toNat bs' with
    | none =>
      have hshort : bs'.length < info.numInFences.toNat * 8 := hmany.mp hm
      exact failed_iff (by omega)
    | some q =>
      obtain ⟨fenceIds, bs''⟩ := q
      obtain ⟨hf, rfl⟩ := (Layout.readMany_eq_some _).mp hm
      have hids : (fenceIds.flatMap Layout.u64.toBytes).length = info.numInFences.toNat * 8 := by
        rw [Layout.length_flatMap_toBytes, hf]
        rfl
      rw [orReadFailed_some_bind]
      simp only [List.length_append, hids, Nat.add_lt_add_iff_left]
      rw [← readExact_eq_none]
      cases readExact info.size.toNat bs'' with
      | none => exact failed_iff rfl
      | some q => exact not_failed_iff (by simp)

end

/-! ### The decoder and the grammar -/

section

variable {bs rest : List UInt8} {cmd : GpuCommand} {t : VirtioGpuCtrlType}
  {e : GpuCommandDecodeError}

theorem decodePayload_payload (h : cmd.Encodable) (padding : Nat → UInt32) (rest : List UInt8) :
    cmd.ctrlType.decodePayload (cmd.payload padding ++ rest) = .ok (cmd, rest) := by
  cases cmd
  case getDisplayInfo => rfl
  case resourceAttachBacking => exact decode_attachBacking padding h rest
  case cmdSubmit3d => exact decode_submit3d h.1 h.2 padding rest
  all_goals exact readAs_append _ _ _ _

theorem payload_of_decode (h : t.decodePayload bs = .ok (cmd, rest)) :
    cmd.ctrlType = t ∧ cmd.Encodable ∧ ∃ padding, bs = cmd.payload padding ++ rest := by
  cases t
  case getDisplayInfo =>
    cases h
    exact ⟨rfl, trivial, fun _ => 0, rfl⟩
  case resourceAttachBacking => exact attachBacking_of_decode h
  case cmdSubmit3d => exact submit3d_of_decode h
  all_goals
    obtain ⟨a, rfl, rfl⟩ := readAs_eq_ok h
    exact ⟨rfl, trivial, fun _ => 0, rfl⟩

theorem decodePayload_eq_error :
    t.decodePayload bs = .error e ↔ e = .descriptorReadFailed ∧ bs.length < t.announced bs := by
  cases t
  case getDisplayInfo => exact not_failed_iff (Nat.not_lt_zero _)
  case resourceAttachBacking => exact decode_attachBacking_eq_error
  case cmdSubmit3d => exact decode_submit3d_eq_error
  all_goals exact readAs_eq_error

namespace GpuCommand

/-- Behind a complete header the decoder is the arm of its type. -/
theorem decode_header (hdr : VirtioGpuCtrlHdr) (rest : List UInt8) :
    decode (VirtioGpuCtrlHdr.layout.toBytes hdr ++ rest) =
      match VirtioGpuCtrlType.ofCode hdr.type with
      | none => .error (.invalidType hdr.type)
      | some t => do
        let (cmd, reader) ← t.decodePayload rest
        return ((hdr, cmd), reader) := by
  rw [decode, Layout.read_append, orReadFailed_some_bind]

theorem decode_of_short (h : bs.length < 24) : decode bs = .error .descriptorReadFailed := by
  rw [decode, VirtioGpuCtrlHdr.layout.read_eq_none.mpr h]
  rfl

/-- A complete header, apart from what follows it. -/
theorem exists_header (h : 24 ≤ bs.length) : ∃ hdr rest,
    bs = VirtioGpuCtrlHdr.layout.toBytes hdr ++ rest ∧ headerType bs = hdr.type ∧
      bs.drop 24 = rest := by
  have hlen : (bs.take 24).length = VirtioGpuCtrlHdr.layout.size := by
    rw [List.length_take, Nat.min_eq_left h]
    rfl
  refine ⟨VirtioGpuCtrlHdr.layout.ofBytes (bs.take 24), bs.drop 24, ?_, rfl, rfl⟩
  rw [Layout.toBytes_ofBytes _ _ hlen, List.take_append_drop]

theorem decode_encWith (h : cmd.Encodable) (padding : Nat → UInt32) (hdr : VirtioGpuCtrlHdr)
    (rest : List UInt8) :
    decode (encWith padding hdr cmd ++ rest) =
      .ok (({ hdr with type := cmd.ctrlType.code }, cmd), rest) := by
  rw [encWith, List.append_assoc, decode_header, VirtioGpuCtrlType.ofCode_code]
  simp only [decodePayload_payload h padding rest]
  rfl

theorem encWith_of_decode {hdr : VirtioGpuCtrlHdr} (h : decode bs = .ok ((hdr, cmd), rest)) :
    hdr.type = cmd.ctrlType.code ∧ cmd.Encodable ∧
      ∃ padding, bs = encWith padding hdr cmd ++ rest := by
  rcases lt_or_ge bs.length 24 with hs | hs
  · rw [decode_of_short hs] at h
    cases h
  · obtain ⟨hdr', rest', rfl, -, -⟩ := exists_header hs
    rw [decode_header] at h
    cases hc : VirtioGpuCtrlType.ofCode hdr'.type with
    | none => rw [hc] at h; cases h
    | some t =>
      rw [hc] at h
      cases hp : t.decodePayload rest' with
      | error e => simp only [hp] at h; cases h
      | ok p =>
        simp only [hp] at h
        cases h
        obtain ⟨rfl, hwf, padding, rfl⟩ := payload_of_decode hp
        have htype := VirtioGpuCtrlType.ofCode_eq_some.mp hc
        refine ⟨htype.symm, hwf, padding, ?_⟩
        rw [encWith, htype, List.append_assoc]

theorem decode_eq_error : decode bs = .error e ↔
    (e = .descriptorReadFailed ∧ Truncated bs) ∨
    (e = .invalidType (headerType bs) ∧ 24 ≤ bs.length ∧
      ∀ t : VirtioGpuCtrlType, t.code ≠ headerType bs) := by
  rcases lt_or_ge bs.length 24 with hs | hs
  · rw [decode_of_short hs]
    constructor
    · intro h
      exact Or.inl ⟨(Except.error.inj h).symm, Or.inl hs⟩
    · rintro (⟨rfl, -⟩ | ⟨-, h, -⟩)
      · rfl
      · omega
  · have hshort : ¬ bs.length < 24 := by omega
    obtain ⟨hdr, rest, hbs, htype, hdrop⟩ := exists_header hs
    rw [Truncated, htype, hdrop]
    rw [hbs, decode_header, ← hbs]
    cases hc : VirtioGpuCtrlType.ofCode hdr.type with
    | none =>
      have hunknown := VirtioGpuCtrlType.ofCode_eq_none.mp hc
      constructor
      · intro h
        exact Or.inr ⟨(Except.error.inj h).symm, hs, hunknown⟩
      · rintro (⟨-, h | ⟨t, ht, -⟩⟩ | ⟨rfl, -⟩)
        · exact absurd h hshort
        · exact absurd ht (hunknown t)
        · rfl
    | some t =>
      have hknown := VirtioGpuCtrlType.ofCode_eq_some.mp hc
      have harm : (do
          let (cmd, reader) ← t.decodePayload rest
          return ((hdr, cmd), reader) : Except GpuCommandDecodeError _) = .error e ↔
          t.decodePayload rest = .error e := by
        cases t.decodePayload rest with
        | error e' => exact ⟨fun h => by cases h; rfl, fun h => by cases h; rfl⟩
        | ok p => exact ⟨(nomatch ·), (nomatch ·)⟩
      rw [harm, decodePayload_eq_error]
      constructor
      · rintro ⟨rfl, hlt⟩
        exact Or.inl ⟨rfl, Or.inr ⟨t, hknown, hlt⟩⟩
      · rintro (⟨rfl, h | ⟨t', ht', hlt⟩⟩ | ⟨-, -, h⟩)
        · exact absurd h hshort
        · obtain rfl : t' = t := by
            have := VirtioGpuCtrlType.ofCode_eq_some.mpr ht'
            exact Option.some.inj (this.symm.trans hc)
          exact ⟨rfl, hlt⟩
        · exact absurd hknown (h t)

/-- **`decode` accepts exactly the requests and inverts their encoding.**  It takes a request
off the front of the input and leaves the rest; what it accepts is a request, up to the padding
of the memory entries; and each of its two errors is returned on exactly its own inputs. -/
theorem decode_exact :
    (∀ hdr cmd padding rest, cmd.Encodable → decode (encWith padding hdr cmd ++ rest) =
      .ok (({ hdr with type := cmd.ctrlType.code }, cmd), rest)) ∧
    (∀ bs hdr cmd rest, decode bs = .ok ((hdr, cmd), rest) →
      hdr.type = cmd.ctrlType.code ∧ cmd.Encodable ∧
        ∃ padding, bs = encWith padding hdr cmd ++ rest) ∧
    (∀ bs type, decode bs = .error (.invalidType type) ↔
      24 ≤ bs.length ∧ headerType bs = type ∧ ∀ t : VirtioGpuCtrlType, t.code ≠ type) ∧
    (∀ bs, decode bs = .error .descriptorReadFailed ↔ Truncated bs) := by
  refine ⟨fun hdr cmd padding rest h => decode_encWith h padding hdr rest,
    fun bs hdr cmd rest h => encWith_of_decode h, fun bs type => ?_, fun bs => ?_⟩
  · rw [decode_eq_error]
    constructor
    · rintro (⟨h, -⟩ | ⟨h, hs, hunknown⟩)
      · cases h
      · cases h
        exact ⟨hs, rfl, hunknown⟩
    · rintro ⟨hs, rfl, hunknown⟩
      exact Or.inr ⟨rfl, hs, hunknown⟩
  · rw [decode_eq_error]
    constructor
    · rintro (⟨-, h⟩ | ⟨h, -⟩)
      · exact h
      · cases h
    · intro h
      exact Or.inl ⟨rfl, h⟩

end GpuCommand

end

end VirtioPoc.Gpu
