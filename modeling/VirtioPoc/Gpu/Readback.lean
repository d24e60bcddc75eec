import VirtioPoc.Base.Loop
import VirtioPoc.Base.Word
import VirtioPoc.Gpu.ScanoutSet
import VirtioPoc.Gpu.Worker

/-!
# Reading a resource back

`calculate_size`, `read_2d_resource` and its two callers, `flush_resource` and
`update_cursor`, of `virtio_gpu.rs`.  The size of the buffer is a checked product
of `usize`s, and the stride of the transfer is a plain product of two `u32`s; in
a build with overflow checks that product panics, and without them it wraps.

The buffers allocated and the calls of `read_2d_resource` are recorded.  An
outcome `.error` is a panic, with the state that it leaves.
-/

namespace VirtioPoc.Gpu

open Base

def readResourceBytesPerPixel : UInt32 := 4

/-- `VirtioGpuResource::calculate_size`. -/
def VirtioGpuResource.calculateSize (resource : VirtioGpuResource) : Except String Nat :=
  match checkedMul resource.width.toNat resource.height.toNat with
  | none => .error "Multiplication of width and height overflowed"
  | some pixels =>
    match checkedMul pixels readResourceBytesPerPixel.toNat with
    | none => .error "Multiplication of result and bytes_per_pixel overflowed"
    | some size => .ok size

/-- A plain `*` of two `u32`s; `none` is the panic of a build with overflow checks. -/
def plainMul (overflowChecks : Bool) (a b : UInt32) : Option UInt32 :=
  if overflowChecks ∧ 2 ^ 32 ≤ a.toNat * b.toNat then none else some (a * b)

structure VhostUserGpuUpdate where
  (scanoutId x y width height : UInt32)
  deriving DecidableEq

structure VhostUserGpuCursorUpdate where
  pos : VhostUserGpuCursorPos
  (hotX hotY : UInt32)
  deriving DecidableEq

/-- The calls into rutabaga and the GPU backend.  A read fills the buffer that it is given. -/
structure ReadbackHost (σ : Type) where
  transferRead : (ctxId resourceId : UInt32) → Transfer3D → {n : Nat} → Vector UInt8 n → σ →
    Except String (Vector UInt8 n) × σ
  updateScanout : VhostUserGpuUpdate → {n : Nat} → Vector UInt8 n → σ → Bool × σ
  cursorUpdate : VhostUserGpuCursorUpdate → {n : Nat} → Vector UInt8 n → σ → Bool × σ

inductive ReadbackEvent
  | allocate (size : Nat)
  | read2dResource (resource : VirtioGpuResource) (outputLen : Nat)
  deriving DecidableEq

/-- The GPU, and the record of what was allocated and read. -/
structure Readback (σ : Type) where
  gpu : RutabagaVirtioGpu σ
  log : List ReadbackEvent

variable {σ : Type} (overflowChecks : Bool) (host : ReadbackHost σ)

namespace Readback

def note (s : Readback σ) (event : ReadbackEvent) : Readback σ := { s with log := s.log ++ [event] }

def withHost (s : Readback σ) (t : σ) : Readback σ := { s with gpu := { s.gpu with host := t } }

def read2dResource (s : Readback σ) (resource : VirtioGpuResource) {n : Nat}
    (output : Vector UInt8 n) : Except (Readback σ) (Except String (Vector UInt8 n) × Readback σ) :=
  let s := s.note (.read2dResource resource n)
  match resource.calculateSize with
  | .error e => .ok (.error e, s)
  | .ok minimalBufferSize =>
    if n < minimalBufferSize then .error s
    else
      match plainMul overflowChecks resource.width readResourceBytesPerPixel with
      | none => .error s
      | some stride =>
        let transfer : Transfer3D :=
          { x := 0, y := 0, z := 0, w := resource.width, h := resource.height, d := 1, level := 0,
            stride := stride, layerStride := 0, offset := 0 }
        let result := host.transferRead 0 resource.id transfer output s.gpu.host
        .ok (result.1, s.withHost result.2)

/-- One round of the loop of `flush_resource`, on what the function returns if it goes no further. -/
def flushScanout (resource : VirtioGpuResource) (scanoutId : UInt32)
    (s : VirtioGpuResult × Readback σ) :
    Except (VirtioGpuResult × Readback σ) (Flow × VirtioGpuResult × Readback σ) :=
  match resource.calculateSize with
  | .error _ => .ok (.leave, .error .errUnspec, s.2)
  | .ok resourceSize =>
    match (s.2.note (.allocate resourceSize)).read2dResource overflowChecks host resource
        (Vector.replicate resourceSize 0) with
    | .error t => .error (s.1, t)
    | .ok (.error _, t) => .ok (.next, s.1, t)
    | .ok (.ok data, t) =>
      let result := host.updateScanout ⟨scanoutId, 0, 0, resource.width, resource.height⟩ data
        t.gpu.host
      if result.1 then .ok (.next, s.1, t.withHost result.2)
      else .ok (.leave, .error .errUnspec, t.withHost result.2)

def flushResource (s : Readback σ) (resourceId : UInt32) (_rect : Rectangle) :
    Except (VirtioGpuResult × Readback σ) (VirtioGpuResult × Readback σ) :=
  if resourceId = 0 then .ok (.ok .okNoData, s)
  else
    match s.gpu.resources resourceId with
    | none => .ok (.error .errInvalidResourceId, s)
    | some resource => forLoop (flushScanout overflowChecks host resource)
        resource.scanouts.iterEnabled (.ok .okNoData, s)

def cursorWidth : UInt32 := 64
def cursorHeight : UInt32 := 64

/-- The length of the array that `update_cursor` allocates. -/
def cursorBytes : Nat := readResourceBytesPerPixel.toNat * cursorWidth.toNat * cursorHeight.toNat

def updateCursor (s : Readback σ) (resourceId : UInt32) (cursorPos : VhostUserGpuCursorPos)
    (hotX hotY : UInt32) :
    Except (VirtioGpuResult × Readback σ) (VirtioGpuResult × Readback σ) :=
  let s := s.note (.allocate cursorBytes)
  match s.gpu.resources resourceId with
  | none => .ok (.error .errInvalidResourceId, s)
  | some cursorResource =>
    if cursorResource.width ≠ cursorWidth ∨ cursorResource.height ≠ cursorHeight then
      .ok (.error .errInvalidParameter, s)
    else
      match s.read2dResource overflowChecks host cursorResource (Vector.replicate cursorBytes 0) with
      | .error t => .error (.error .errUnspec, t)
      | .ok (.error _, t) => .ok (.error .errUnspec, t)
      | .ok (.ok data, t) =>
        let result := host.cursorUpdate ⟨cursorPos, hotX, hotY⟩ data t.gpu.host
        .ok (if result.1 then .ok .okNoData else .error .errUnspec, t.withHost result.2)

end Readback

/-! ### The size of a resource -/

namespace VirtioGpuResource

variable {resource : VirtioGpuResource}

/-- The product of width and height always fits; with the bytes of a pixel it may not. -/
theorem calculateSize_eq_ok {size : Nat} : resource.calculateSize = .ok size ↔
    resource.width.toNat * resource.height.toNat * 4 ≤ wordMax ∧
      size = resource.width.toNat * resource.height.toNat * 4 := by
  have hpixels : resource.width.toNat * resource.height.toNat ≤ wordMax := by
    have hw : resource.width.toNat ≤ 2 ^ 32 - 1 := by have := resource.width.toNat_lt; omega
    have hh : resource.height.toNat ≤ 2 ^ 32 - 1 := by have := resource.height.toNat_lt; omega
    exact (Nat.mul_le_mul hw hh).trans (by decide)
  rw [calculateSize, checkedMul_of_le hpixels]
  show (match checkedMul (resource.width.toNat * resource.height.toNat) 4 with
    | none => _
    | some size => _) = _ ↔ _
  by_cases hsize : resource.width.toNat * resource.height.toNat * 4 ≤ wordMax
  · rw [checkedMul_of_le hsize]
    show Except.ok _ = _ ↔ _
    rw [Except.ok.injEq, and_iff_right hsize, eq_comm]
  · rw [show checkedMul _ 4 = none from if_neg hsize]
    exact ⟨fun h => (nomatch h), fun h => absurd h.1 hsize⟩

/-- The stride of the transfer, as it is computed. -/
def stride (resource : VirtioGpuResource) : UInt32 := resource.width * readResourceBytesPerPixel

/-- **Consistent sizes**: the buffer is long enough, the stride does not overflow, and as many rows
as the resource has make up its size. -/
structure SizesAgree (resource : VirtioGpuResource) (outputLen : Nat) : Prop where
  buffer : ∃ size, resource.calculateSize = .ok size ∧ size ≤ outputLen ∧
    resource.stride.toNat * resource.height.toNat = size
  stride_fits : resource.width.toNat * readResourceBytesPerPixel.toNat < 2 ^ 32

theorem sizesAgree_iff {size outputLen : Nat} (hsize : resource.calculateSize = .ok size)
    (hlen : size ≤ outputLen) : resource.SizesAgree outputLen ↔ resource.width.toNat < 2 ^ 30 := by
  have hbytes : readResourceBytesPerPixel.toNat = 4 := rfl
  constructor
  · intro h
    have hfits := h.stride_fits
    rw [hbytes] at hfits
    omega
  · intro hw
    refine ⟨⟨size, hsize, hlen, ?_⟩, by rw [hbytes]; omega⟩
    rw [stride, UInt32.toNat_mul, hbytes, Nat.mod_eq_of_lt (by omega),
      (calculateSize_eq_ok.mp hsize).2, Nat.mul_right_comm]

end VirtioGpuResource

/-! ### The two callers -/

/-- The calls that read a resource back. -/
inductive ReadbackCall
  | flushResource (resourceId : UInt32) (rect : Rectangle)
  | updateCursor (resourceId : UInt32) (cursorPos : VhostUserGpuCursorPos) (hotX hotY : UInt32)

namespace ReadbackCall

def resourceId : ReadbackCall → UInt32
  | .flushResource resourceId _ => resourceId
  | .updateCursor resourceId _ _ _ => resourceId

/-- What the call allocates before it looks at any resource. -/
def ownBuffers : ReadbackCall → List ReadbackEvent
  | .flushResource _ _ => []
  | .updateCursor _ _ _ _ => [.allocate Readback.cursorBytes]

/-- The call has something to read: a flush, unless it is of resource 0 or of one that no scanout
shows, and any update of the cursor. -/
def Needs : ReadbackCall → VirtioGpuResource → Prop
  | .flushResource resourceId _, resource => resourceId ≠ 0 ∧ resource.scanouts.iterEnabled ≠ []
  | .updateCursor _ _ _ _, _ => True

/-- The call lets the resource through: a cursor has to be of the one size. -/
def Admits : ReadbackCall → VirtioGpuResource → Prop
  | .flushResource _ _, _ => True
  | .updateCursor _ _ _ _, resource =>
    resource.width = Readback.cursorWidth ∧ resource.height = Readback.cursorHeight

end ReadbackCall

namespace Readback

def call (s : Readback σ) : ReadbackCall →
    Except (VirtioGpuResult × Readback σ) (VirtioGpuResult × Readback σ)
  | .flushResource resourceId rect => s.flushResource overflowChecks host resourceId rect
  | .updateCursor resourceId cursorPos hotX hotY =>
    s.updateCursor overflowChecks host resourceId cursorPos hotX hotY

variable {overflowChecks host} {resource : VirtioGpuResource} {size : Nat}

/-- However a read ends, it is on record. -/
theorem read2dResource_log (overflowChecks : Bool) (host : ReadbackHost σ) (s : Readback σ)
    (resource : VirtioGpuResource) {n : Nat} (output : Vector UInt8 n) :
    (∀ t, s.read2dResource overflowChecks host resource output = .error t →
      t.log = s.log ++ [.read2dResource resource n]) ∧
    ∀ r t, s.read2dResource overflowChecks host resource output = .ok (r, t) →
      t.log = s.log ++ [.read2dResource resource n] := by
  rw [read2dResource]
  cases resource.calculateSize with
  | error e => exact ⟨by simp, by simp [note]⟩
  | ok minimalBufferSize =>
    by_cases hlen : n < minimalBufferSize
    · simp only [if_pos hlen]
      exact ⟨by simp [note], by simp⟩
    · simp only [if_neg hlen]
      cases plainMul overflowChecks resource.width readResourceBytesPerPixel with
      | none => exact ⟨by simp [note], by simp⟩
      | some stride => exact ⟨by simp, by simp [note, withHost]⟩

/-- What a round of the loop adds to the record. -/
def roundLog (resource : VirtioGpuResource) (size : Nat) : List ReadbackEvent :=
  [.allocate size, .read2dResource resource size]

/-- However a round of the loop ends, it has allocated and read. -/
theorem flushScanout_log (overflowChecks : Bool) (host : ReadbackHost σ)
    (hsize : resource.calculateSize = .ok size) (scanoutId : UInt32)
    (s : VirtioGpuResult × Readback σ) :
    (∀ t, flushScanout overflowChecks host resource scanoutId s = .error t →
      t.2.log = s.2.log ++ roundLog resource size) ∧
    ∀ f t, flushScanout overflowChecks host resource scanoutId s = .ok (f, t) →
      t.2.log = s.2.log ++ roundLog resource size := by
  rw [flushScanout, hsize]
  dsimp only
  have hlog := read2dResource_log overflowChecks host (s.2.note (.allocate size)) resource
    (Vector.replicate size 0)
  rcases hread : (s.2.note (.allocate size)).read2dResource overflowChecks host resource
    (Vector.replicate size 0) with r | ⟨_ | data, r⟩
  · have hr := hlog.1 r hread
    exact ⟨by simp [hr, note, roundLog], by simp⟩
  · have hr := hlog.2 _ r hread
    refine ⟨by simp, ?_⟩
    rintro f t ⟨⟩
    simp [hr, note, roundLog]
  · have hr := hlog.2 _ r hread
    dsimp only
    cases (host.updateScanout ⟨scanoutId, 0, 0, resource.width, resource.height⟩ data r.gpu.host).1
    · refine ⟨by simp, ?_⟩
      rintro f t ⟨⟩
      simp [hr, note, roundLog, withHost]
    · refine ⟨by simp, ?_⟩
      rintro f t ⟨⟩
      simp [hr, note, roundLog, withHost]

/-- The start of a call, with nothing on record. -/
def start (gpu : RutabagaVirtioGpu σ) : Readback σ := ⟨gpu, []⟩

variable {gpu : RutabagaVirtioGpu σ} {c : ReadbackCall}

/-- A flush of a resource whose size fits allocates and reads, if a scanout shows the resource. -/
theorem mem_forLoop_log (hsize : resource.calculateSize = .ok size) (ids : List UInt32)
    (r : VirtioGpuResult) (event : ReadbackEvent) :
    event ∈ (ended (forLoop (flushScanout overflowChecks host resource) ids (r, start gpu))).2.log ↔
      ids ≠ [] ∧ event ∈ roundLog resource size := by
  have hround := flushScanout_log overflowChecks host hsize
  obtain ⟨k, hk, hlog⟩ := forLoop_rounds (fun s => s.2.log) (roundLog resource size)
    (fun scanoutId s => (hround scanoutId s).1) (fun scanoutId s => (hround scanoutId s).2) ids
    (r, start gpu)
  have hids : ids ≠ [] ↔ k ≠ 0 := not_congr hk
  rw [hlog, hids]
  simp [start]

/-- A flush of a resource whose size does not fit goes no further. -/
theorem forLoop_of_calculateSize_error {e : String} (hsize : resource.calculateSize = .error e)
    (ids : List UInt32) (s : VirtioGpuResult × Readback σ) :
    forLoop (flushScanout overflowChecks host resource) ids s =
      .ok (if ids = [] then s else (.error .errUnspec, s.2)) := by
  cases ids with
  | nil => rfl
  | cons scanoutId ids =>
    rw [forLoop, flushScanout, hsize]
    rfl

/-- A flush reads resources that some scanout shows, if their size fits. -/
theorem mem_flushResource_log (resourceId : UInt32) (rect : Rectangle)
    (resource : VirtioGpuResource) (n : Nat) : .read2dResource resource n ∈
      (ended ((start gpu).flushResource overflowChecks host resourceId rect)).2.log ↔
    gpu.resources resourceId = some resource ∧
      (resourceId ≠ 0 ∧ resource.scanouts.iterEnabled ≠ []) ∧ resource.calculateSize = .ok n := by
  by_cases hid : resourceId = 0
  · simp [flushResource, hid, ended, start]
  · rw [flushResource, if_neg hid]
    dsimp only [start]
    cases hr : gpu.resources resourceId with
    | none => simp [ended]
    | some found =>
      dsimp only
      cases hsize : found.calculateSize with
      | error e =>
        have hnone : (ended (forLoop (flushScanout overflowChecks host found)
            found.scanouts.iterEnabled (.ok .okNoData, start gpu))).2.log = [] := by
          rw [forLoop_of_calculateSize_error hsize]
          by_cases hids : found.scanouts.iterEnabled = []
          · rw [if_pos hids]
            rfl
          · rw [if_neg hids]
            rfl
        rw [show (⟨gpu, []⟩ : Readback σ) = start gpu from rfl, hnone]
        constructor
        · simp
        · rintro ⟨hfound, -, hn⟩
          obtain rfl := Option.some.inj hfound
          rw [hsize] at hn
          cases hn
      | ok size =>
        rw [show (⟨gpu, []⟩ : Readback σ) = start gpu from rfl, mem_forLoop_log hsize]
        constructor
        · rintro ⟨hids, hmem⟩
          obtain ⟨rfl, rfl⟩ : resource = found ∧ n = size := by simpa [roundLog] using hmem
          exact ⟨rfl, ⟨hid, hids⟩, hsize⟩
        · rintro ⟨hfound, ⟨-, hids⟩, hn⟩
          obtain rfl := Option.some.inj hfound
          obtain rfl : size = n := Except.ok.inj (hsize.symm.trans hn)
          exact ⟨hids, by simp [roundLog]⟩

/-- The size of a cursor is the length of the array for it. -/
theorem calculateSize_of_cursor (hw : resource.width = cursorWidth)
    (hh : resource.height = cursorHeight) : resource.calculateSize = .ok cursorBytes := by
  rw [VirtioGpuResource.calculateSize_eq_ok, hw, hh]
  decide

/-- An update with a cursor of the one size allocates and reads. -/
theorem updateCursor_log {resourceId : UInt32} (hr : gpu.resources resourceId = some resource)
    (hw : resource.width = cursorWidth) (hh : resource.height = cursorHeight)
    (cursorPos : VhostUserGpuCursorPos) (hotX hotY : UInt32) :
    (ended ((start gpu).updateCursor overflowChecks host resourceId cursorPos hotX hotY)).2.log =
      roundLog resource cursorBytes := by
  have hdim : ¬ (resource.width ≠ cursorWidth ∨ resource.height ≠ cursorHeight) := by
    simp [hw, hh]
  have hlog := read2dResource_log overflowChecks host ((start gpu).note (.allocate cursorBytes))
    resource (Vector.replicate cursorBytes 0)
  have hstart : ((start gpu).note (.allocate cursorBytes)).gpu.resources resourceId = some resource :=
    hr
  rw [updateCursor]
  dsimp only
  rw [hstart]
  dsimp only
  rw [if_neg hdim]
  rcases hread : ((start gpu).note (.allocate cursorBytes)).read2dResource overflowChecks host
    resource (Vector.replicate cursorBytes 0) with t | ⟨_ | data, t⟩
  · exact hlog.1 t hread
  · exact hlog.2 _ t hread
  · exact hlog.2 _ t hread

/-- An update of the cursor reads resources of the one size. -/
theorem mem_updateCursor_log (resourceId : UInt32) (cursorPos : VhostUserGpuCursorPos)
    (hotX hotY : UInt32) (resource : VirtioGpuResource) (n : Nat) : .read2dResource resource n ∈
      (ended ((start gpu).updateCursor overflowChecks host resourceId cursorPos hotX hotY)).2.log ↔
    gpu.resources resourceId = some resource ∧
      (resource.width = cursorWidth ∧ resource.height = cursorHeight) ∧
        resource.calculateSize = .ok n := by
  constructor
  · intro hmem
    cases hr : gpu.resources resourceId with
    | none =>
      rw [updateCursor] at hmem
      dsimp only [start, note] at hmem
      rw [hr] at hmem
      simp [ended] at hmem
    | some found =>
      by_cases hdim : found.width ≠ cursorWidth ∨ found.height ≠ cursorHeight
      · rw [updateCursor] at hmem
        dsimp only [start, note] at hmem
        rw [hr] at hmem
        simp [ended, hdim] at hmem
      · obtain ⟨hw, hh⟩ : found.width = cursorWidth ∧ found.height = cursorHeight := by
          simpa [not_or] using hdim
        rw [updateCursor_log hr hw hh] at hmem
        obtain ⟨rfl, rfl⟩ : resource = found ∧ n = cursorBytes := by simpa [roundLog] using hmem
        exact ⟨rfl, ⟨hw, hh⟩, calculateSize_of_cursor hw hh⟩
  · rintro ⟨hr, ⟨hw, hh⟩, hn⟩
    obtain rfl : cursorBytes = n := Except.ok.inj ((calculateSize_of_cursor hw hh).symm.trans hn)
    rw [updateCursor_log hr hw hh]
    simp [roundLog]

/-- **When a read is reached**, and with which buffer: one of exactly the size of the resource. -/
theorem mem_call_log (resource : VirtioGpuResource) (n : Nat) :
    .read2dResource resource n ∈ (ended ((start gpu).call overflowChecks host c)).2.log ↔
      gpu.resources c.resourceId = some resource ∧ c.Needs resource ∧ c.Admits resource ∧
        resource.calculateSize = .ok n := by
  cases c with
  | flushResource resourceId rect =>
    refine (mem_flushResource_log resourceId rect resource n).trans ?_
    simp [ReadbackCall.resourceId, ReadbackCall.Needs, ReadbackCall.Admits]
  | updateCursor resourceId cursorPos hotX hotY =>
    refine (mem_updateCursor_log resourceId cursorPos hotX hotY resource n).trans ?_
    simp [ReadbackCall.resourceId, ReadbackCall.Needs, ReadbackCall.Admits]

/-- A call for a resource whose size does not fit allocates nothing for it and reads nothing, and it
fails if it has something to read. -/
theorem call_of_calculateSize_error {e : String} (hr : gpu.resources c.resourceId = some resource)
    (hsize : resource.calculateSize = .error e) :
    ∃ result, (start gpu).call overflowChecks host c = .ok (result, ⟨gpu, c.ownBuffers⟩) ∧
      (c.Needs resource → ∃ response, result = .error response) := by
  cases c with
  | flushResource resourceId rect =>
    show ∃ result, (start gpu).flushResource overflowChecks host resourceId rect = _ ∧ _
    have hr' : (start gpu).gpu.resources resourceId = some resource := hr
    rw [flushResource]
    by_cases hid : resourceId = 0
    · exact ⟨.ok .okNoData, if_pos hid, fun h => absurd hid h.1⟩
    · rw [if_neg hid, hr']
      dsimp only
      rw [forLoop_of_calculateSize_error hsize]
      by_cases hids : resource.scanouts.iterEnabled = []
      · exact ⟨.ok .okNoData, by rw [if_pos hids]; rfl, fun h => absurd hids h.2⟩
      · exact ⟨.error .errUnspec, by rw [if_neg hids]; rfl, fun _ => ⟨_, rfl⟩⟩
  | updateCursor resourceId cursorPos hotX hotY =>
    have hr' : ((start gpu).note (.allocate cursorBytes)).gpu.resources resourceId = some resource :=
      hr
    have hdim : resource.width ≠ cursorWidth ∨ resource.height ≠ cursorHeight := by
      by_contra h
      rw [not_or, not_not, not_not] at h
      rw [calculateSize_of_cursor h.1 h.2] at hsize
      cases hsize
    refine ⟨.error .errInvalidParameter, ?_, fun _ => ⟨_, rfl⟩⟩
    show (start gpu).updateCursor overflowChecks host resourceId cursorPos hotX hotY = _
    rw [updateCursor]
    dsimp only
    rw [hr']
    exact if_pos hdim

/-- **Reading back with consistent sizes**: the sizes agree at every read that is reached, and a
resource whose size does not fit is refused with nothing allocated for it and nothing read. -/
structure ReadsBack (overflowChecks : Bool) (host : ReadbackHost σ) (gpu : RutabagaVirtioGpu σ)
    (c : ReadbackCall) : Prop where
  reads : ∀ resource n, .read2dResource resource n ∈
    (ended ((start gpu).call overflowChecks host c)).2.log → resource.SizesAgree n
  refuses : ∀ resource e, gpu.resources c.resourceId = some resource →
    resource.calculateSize = .error e →
    ∃ result, (start gpu).call overflowChecks host c = .ok (result, ⟨gpu, c.ownBuffers⟩) ∧
      (c.Needs resource → ∃ response, result = .error response)

end Readback

end VirtioPoc.Gpu
