import VirtioPoc.Gpu.Actions
import VirtioPoc.Gpu.Edid
import VirtioPoc.Gpu.Readback
import VirtioPoc.Gpu.ScanoutFailures

/-!
# The GPU that the worker has

`impl VirtioGpu for RutabagaVirtioGpu`, with all the methods that the worker
calls.  The records of resources and scanouts are in `RutabagaVirtioGpu`; what
is left of rutabaga and of the GPU backend is passed through.

`effect_of_act` is the inversion lemma: an action of the worker is one call on
the records at most.  Two results are derived from it for all that a guest may
request.  A resource that is unreferenced while a scanout shows it is refused,
and after that no request can do anything with it, though rutabaga keeps it
(`resource_lost`); and the scanout stays as it is, and can not even be disabled
any more (`scanout_stuck`).
-/

namespace VirtioPoc.Gpu

open Base Virtio

/-! ### Rutabaga and the backend -/

/-- The calls of rutabaga that only return whether they succeed. -/
inductive RutabagaCall
  | transferWrite (ctxId resourceId : UInt32) (transfer : Transfer3D)
  | transferRead (ctxId resourceId : UInt32) (transfer : Transfer3D)
  | attachBacking (resourceId : UInt32) (iovecs : List RutabagaIovec)
  | detachBacking (resourceId : UInt32)
  | createContext (ctxId contextInit : UInt32)
      (contextName : Except FromBytesWithNulError (List UInt8))
  | destroyContext (ctxId : UInt32)
  | contextAttachResource (ctxId resourceId : UInt32)
  | contextDetachResource (ctxId resourceId : UInt32)
  | submitCommand (ctxId : UInt32) (commands : List UInt8) (fenceIds : List UInt64)
  | createFence (fence : RutabagaFence)

/-- All that the methods call in rutabaga and in the GPU backend. -/
structure RutabagaHost (σ : Type) extends GpuHost σ, ReadbackHost σ where
  forceCtx0 : σ → σ
  rutabaga : RutabagaCall → σ → Bool × σ
  getCapsetInfo : (index : UInt32) → σ → Option (UInt32 × UInt32 × UInt32)
  getCapset : (capsetId version : UInt32) → σ → Option (List UInt8)
  getDisplayInfo : σ → Option (List VirtioGpuDisplayOne) × σ
  getEdid : σ → EdidBackend
  cursorPos : VhostUserGpuCursorPos → σ → Bool × σ
  cursorPosHide : VhostUserGpuCursorPos → σ → Bool × σ
  /-- In it the fence handler may run, which knows the fences and the queue; `none` is a panic there. -/
  eventPoll : σ → FenceState UInt16 → Option (σ × FenceState UInt16)

/-- **What is assumed of rutabaga**: that of `GpuHost`, and no other call gives up an id. -/
structure RutabagaHost.Lawful {σ : Type} (host : RutabagaHost σ) (held : σ → UInt32 → Prop) : Prop
    extends host.toGpuHost.Lawful held where
  forceCtx0_keeps : ∀ {s id}, held s id → held (host.forceCtx0 s) id
  rutabaga_keeps : ∀ {c s id}, held s id → held (host.rutabaga c s).2 id
  displayInfo_keeps : ∀ {s id}, held s id → held (host.getDisplayInfo s).2 id
  cursorPos_keeps : ∀ {pos s id}, held s id → held (host.cursorPos pos s).2 id
  cursorPosHide_keeps : ∀ {pos s id}, held s id → held (host.cursorPosHide pos s).2 id
  transferRead_keeps : ∀ {ctxId resourceId transfer n} {output : Vector UInt8 n} {s id}, held s id →
    held (host.transferRead ctxId resourceId transfer output s).2 id
  updateScanout_keeps : ∀ {update n} {data : Vector UInt8 n} {s id}, held s id →
    held (host.updateScanout update data s).2 id
  cursorUpdate_keeps : ∀ {update n} {data : Vector UInt8 n} {s id}, held s id →
    held (host.cursorUpdate update data s).2 id
  eventPoll_keeps : ∀ {s fences t fences' id}, host.eventPoll s fences = some (t, fences') →
    held s id → held t id

/-! ### The methods -/

/-- `RutabagaVirtioGpu` with its fences.  What comes after a panic does not happen. -/
structure GpuState (σ : Type) where
  gpu : RutabagaVirtioGpu σ
  fenceState : FenceState UInt16
  panicked : Bool

namespace GpuState

variable {σ : Type}

def new (s : σ) : GpuState σ := { gpu := .new s, fenceState := .default, panicked := false }

def withGpu (s : GpuState σ) (out : VirtioGpuResult × RutabagaVirtioGpu σ) :
    VirtioGpuResult × GpuState σ := (out.1, { s with gpu := out.2 })

def withHost (s : GpuState σ) (t : σ) : GpuState σ := { s with gpu := { s.gpu with host := t } }

/-- A call of the backend or of rutabaga, with the response to its error. -/
def called (s : GpuState σ) (error : GpuResponse) (out : Bool × σ) : VirtioGpuResult × GpuState σ :=
  (if out.1 then .ok .okNoData else .error error, s.withHost out.2)

/-- A method that panics has no result; the state is that of the panic. -/
def panic (s : GpuState σ) : VirtioGpuResult × GpuState σ :=
  (.error .errUnspec, { s with panicked := true })

/-- A call that reads a resource back. -/
def readBack (s : GpuState σ)
    (out : Except (VirtioGpuResult × Readback σ) (VirtioGpuResult × Readback σ)) :
    VirtioGpuResult × GpuState σ :=
  match out with
  | .ok (result, t) => s.withGpu (result, t.gpu)
  | .error (_, t) => { s with gpu := t.gpu }.panic

end GpuState

section

variable {σ : Type} (overflowChecks : Bool) (host : RutabagaHost σ)

/-- The implementation of the trait. -/
def rutabagaVirtioGpu : VirtioGpu (GpuState σ) where
  forceCtx0 s := s.withHost (host.forceCtx0 s.gpu.host)
  displayInfo s :=
    match host.getDisplayInfo s.gpu.host with
    | (none, t) => (.error .errUnspec, s.withHost t)
    | (some pmodes, t) =>
      (.ok (.okDisplayInfo (pmodes.map fun d => (d.r.width, d.r.height, decide (d.enabled = 1)))),
        s.withHost t)
  getEdid scanoutId s :=
    match RutabagaVirtioGpu.getEdid (host.getEdid s.gpu.host) ⟨scanoutId⟩ with
    | none => s.panic
    | some result => (result, s)
  setScanout scanoutId resourceId rect s :=
    s.withGpu (s.gpu.setScanout host.toGpuHost scanoutId resourceId rect)
  resourceCreate3d resourceId req s :=
    s.withGpu (s.gpu.resourceCreate3d host.toGpuHost resourceId req)
  unrefResource resourceId s := s.withGpu (s.gpu.unrefResource host.toGpuHost resourceId)
  flushResource resourceId rect s := s.readBack
    ((Readback.start s.gpu).flushResource overflowChecks host.toReadbackHost resourceId rect)
  transferWrite ctxId resourceId transfer s :=
    s.called .errRutabaga (host.rutabaga (.transferWrite ctxId resourceId transfer) s.gpu.host)
  transferRead ctxId resourceId transfer s :=
    s.called .errRutabaga (host.rutabaga (.transferRead ctxId resourceId transfer) s.gpu.host)
  attachBacking resourceId iovecs s :=
    s.called .errRutabaga (host.rutabaga (.attachBacking resourceId iovecs) s.gpu.host)
  detachBacking resourceId s :=
    s.called .errRutabaga (host.rutabaga (.detachBacking resourceId) s.gpu.host)
  updateCursor resourceId pos hotX hotY s := s.readBack
    ((Readback.start s.gpu).updateCursor overflowChecks host.toReadbackHost resourceId pos hotX hotY)
  moveCursor resourceId pos s :=
    if resourceId = 0 then s.called .errUnspec (host.cursorPosHide pos s.gpu.host)
    else s.called .errUnspec (host.cursorPos pos s.gpu.host)
  getCapsetInfo index s :=
    match host.getCapsetInfo index s.gpu.host with
    | none => (.error .errRutabaga, s)
    | some (capsetId, version, size) => (.ok (.okCapsetInfo capsetId version size), s)
  getCapset capsetId version s :=
    match host.getCapset capsetId version s.gpu.host with
    | none => (.error .errRutabaga, s)
    | some capset => (.ok (.okCapset capset), s)
  createContext ctxId contextInit contextName s := s.called .errRutabaga
    (host.rutabaga (.createContext ctxId contextInit contextName) s.gpu.host)
  destroyContext ctxId s :=
    s.called .errRutabaga (host.rutabaga (.destroyContext ctxId) s.gpu.host)
  contextAttachResource ctxId resourceId s :=
    s.called .errRutabaga (host.rutabaga (.contextAttachResource ctxId resourceId) s.gpu.host)
  contextDetachResource ctxId resourceId s :=
    s.called .errRutabaga (host.rutabaga (.contextDetachResource ctxId resourceId) s.gpu.host)
  submitCommand ctxId commands fenceIds s :=
    s.called .errRutabaga (host.rutabaga (.submitCommand ctxId commands fenceIds) s.gpu.host)
  createFence fence s :=
    s.called .errRutabaga (host.rutabaga (.createFence fence) s.gpu.host)
  processFence ring fenceId descIndex len s :=
    let out := s.fenceState.processFence ring fenceId descIndex len
    (out.1, { s with fenceState := out.2 })

/-- `event_poll`. -/
def rutabagaEventPoll (s : GpuState σ) : Option (GpuState σ) :=
  (host.eventPoll s.gpu.host s.fenceState).map fun (t, fenceState) =>
    { s.withHost t with fenceState := fenceState }

end

/-! ### What an action does to the records -/

section

variable {σ : Type} {overflowChecks : Bool} {host : RutabagaHost σ} {held : σ → UInt32 → Prop}

/-- The records are the same, and rutabaga has given up no id. -/
structure Quiet (held : σ → UInt32 → Prop) (gpu gpu' : RutabagaVirtioGpu σ) : Prop where
  records : gpu.SameRecords gpu'
  held : ∀ id, held gpu.host id → held gpu'.host id

theorem Quiet.refl (gpu : RutabagaVirtioGpu σ) : Quiet held gpu gpu := ⟨.refl gpu, fun _ h => h⟩

theorem Quiet.trans {gpu gpu' gpu'' : RutabagaVirtioGpu σ} (h : Quiet held gpu gpu')
    (g : Quiet held gpu' gpu'') : Quiet held gpu gpu'' where
  records := ⟨g.records.resources.trans h.records.resources,
    g.records.scanouts.trans h.records.scanouts⟩
  held id hid := g.held id (h.held id hid)

theorem quiet_withHost {s : GpuState σ} {t : σ} (h : ∀ id, held s.gpu.host id → held t id) :
    Quiet held s.gpu (s.withHost t).gpu := ⟨⟨rfl, rfl⟩, h⟩

/-- One call on the records at most. -/
inductive Effect (host : GpuHost σ) (held : σ → UInt32 → Prop) (gpu gpu' : RutabagaVirtioGpu σ) : Prop
  | quiet (h : Quiet held gpu gpu')
  | call (c : ResourceCall) (h : gpu' = (gpu.call host c).2)

theorem quiet_read2dResource (overflowChecks : Bool) (hl : host.Lawful held) (s : Readback σ)
    (resource : VirtioGpuResource) {n : Nat} (output : Vector UInt8 n) :
    (∀ t, s.read2dResource overflowChecks host.toReadbackHost resource output = .error t →
      Quiet held s.gpu t.gpu) ∧
    ∀ r t, s.read2dResource overflowChecks host.toReadbackHost resource output = .ok (r, t) →
      Quiet held s.gpu t.gpu := by
  unfold Readback.read2dResource
  dsimp only
  split
  case h_1 => exact ⟨nofun, fun r t h => by cases h; exact .refl _⟩
  case h_2 =>
    split
    case isTrue => exact ⟨fun t h => by cases h; exact .refl _, nofun⟩
    case isFalse =>
      split
      case h_1 => exact ⟨fun t h => by cases h; exact .refl _, nofun⟩
      case h_2 =>
        refine ⟨nofun, fun r t h => ?_⟩
        cases h
        exact ⟨⟨rfl, rfl⟩, fun id hid => hl.transferRead_keeps hid⟩

theorem quiet_flushScanout (hl : host.Lawful held) (resource : VirtioGpuResource)
    (scanoutId : UInt32) (s : VirtioGpuResult × Readback σ) :
    Quiet held s.2.gpu (bodyState
      (Readback.flushScanout overflowChecks host.toReadbackHost resource scanoutId s)).2.gpu := by
  unfold Readback.flushScanout
  split
  case h_1 => exact .refl _
  case h_2 resourceSize _ =>
    have hread := quiet_read2dResource overflowChecks hl
      (s.2.note (.allocate resourceSize)) resource (Vector.replicate resourceSize 0)
    split
    case h_1 t ht => exact hread.1 t ht
    case h_2 t ht => exact hread.2 _ t ht
    case h_3 data t ht =>
      have hupdated : Quiet held t.gpu (t.withHost (host.updateScanout
          ⟨scanoutId, 0, 0, resource.width, resource.height⟩ data t.gpu.host).2).gpu :=
        ⟨⟨rfl, rfl⟩, fun id hid => hl.updateScanout_keeps hid⟩
      dsimp only
      split <;> exact (hread.2 _ t ht).trans hupdated

theorem quiet_readBack {s : GpuState σ}
    {out : Except (VirtioGpuResult × Readback σ) (VirtioGpuResult × Readback σ)}
    (h : Quiet held s.gpu (ended out).2.gpu) : Quiet held s.gpu (s.readBack out).2.gpu := by
  cases out <;> exact h

theorem quiet_flushResource (hl : host.Lawful held) (s : Readback σ) (resourceId : UInt32)
    (rect : Rectangle) : Quiet held s.gpu
      (ended (s.flushResource overflowChecks host.toReadbackHost resourceId rect)).2.gpu := by
  unfold Readback.flushResource
  split
  case isTrue => exact .refl _
  case isFalse =>
    split
    case h_1 => exact .refl _
    case h_2 resource _ =>
      have hround (scanoutId : UInt32) (t : VirtioGpuResult × Readback σ)
          (ht : Quiet held s.gpu t.2.gpu) : Quiet held s.gpu (bodyState
            (Readback.flushScanout overflowChecks host.toReadbackHost resource scanoutId t)).2.gpu :=
        ht.trans (quiet_flushScanout hl resource scanoutId t)
      exact forLoop_invariant (I := fun t : VirtioGpuResult × Readback σ => Quiet held s.gpu t.2.gpu)
        hround _ _ (Quiet.refl s.gpu)

theorem quiet_updateCursor (hl : host.Lawful held) (s : Readback σ) (resourceId : UInt32)
    (cursorPos : VhostUserGpuCursorPos) (hotX hotY : UInt32) : Quiet held s.gpu
      (ended (s.updateCursor overflowChecks host.toReadbackHost resourceId cursorPos hotX
        hotY)).2.gpu := by
  unfold Readback.updateCursor
  dsimp only
  split
  case h_1 => exact .refl _
  case h_2 resource _ =>
    split
    case isTrue => exact .refl _
    case isFalse =>
      have hread := quiet_read2dResource overflowChecks hl
        (s.note (.allocate Readback.cursorBytes)) resource (Vector.replicate Readback.cursorBytes 0)
      split
      case h_1 t ht => exact hread.1 t ht
      case h_2 t ht => exact hread.2 _ t ht
      case h_3 data t ht =>
        have hupdated : Quiet held t.gpu (t.withHost (host.cursorUpdate ⟨cursorPos, hotX, hotY⟩ data
            t.gpu.host).2).gpu := ⟨⟨rfl, rfl⟩, fun id hid => hl.cursorUpdate_keeps hid⟩
        exact (hread.2 _ t ht).trans hupdated

theorem quiet_rutabaga (hl : host.Lawful held) (s : GpuState σ) (error : GpuResponse)
    (c : RutabagaCall) : Quiet held s.gpu (s.called error (host.rutabaga c s.gpu.host)).2.gpu :=
  quiet_withHost fun _ hid => hl.rutabaga_keeps hid

theorem quiet_displayInfo (hl : host.Lawful held) (s : GpuState σ) :
    Quiet held s.gpu ((rutabagaVirtioGpu overflowChecks host).displayInfo s).2.gpu := by
  have hkeeps {id : UInt32} (hid : held s.gpu.host id) :
      held (host.getDisplayInfo s.gpu.host).2 id := hl.displayInfo_keeps hid
  show Quiet held s.gpu (match host.getDisplayInfo s.gpu.host with
    | (none, t) => _
    | (some pmodes, t) => _ : VirtioGpuResult × GpuState σ).2.gpu
  rcases hout : host.getDisplayInfo s.gpu.host with ⟨_ | pmodes, t⟩ <;> rw [hout] at hkeeps <;>
    exact quiet_withHost fun _ hid => hkeeps hid

theorem quiet_getEdid (scanoutId : UInt32) (s : GpuState σ) :
    Quiet held s.gpu ((rutabagaVirtioGpu overflowChecks host).getEdid scanoutId s).2.gpu := by
  show Quiet held s.gpu (match RutabagaVirtioGpu.getEdid (host.getEdid s.gpu.host) ⟨scanoutId⟩ with
    | none => s.panic
    | some result => (result, s)).2.gpu
  split <;> exact .refl _

theorem quiet_moveCursor (hl : host.Lawful held) (resourceId : UInt32) (pos : VhostUserGpuCursorPos)
    (s : GpuState σ) :
    Quiet held s.gpu ((rutabagaVirtioGpu overflowChecks host).moveCursor resourceId pos s).2.gpu := by
  show Quiet held s.gpu (if resourceId = 0 then _ else _ : VirtioGpuResult × GpuState σ).2.gpu
  split
  case isTrue => exact quiet_withHost fun _ hid => hl.cursorPosHide_keeps hid
  case isFalse => exact quiet_withHost fun _ hid => hl.cursorPos_keeps hid

theorem quiet_getCapsetInfo (index : UInt32) (s : GpuState σ) :
    Quiet held s.gpu ((rutabagaVirtioGpu overflowChecks host).getCapsetInfo index s).2.gpu := by
  show Quiet held s.gpu (match host.getCapsetInfo index s.gpu.host with
    | none => (.error .errRutabaga, s)
    | some (capsetId, version, size) => (.ok (.okCapsetInfo capsetId version size), s) :
      VirtioGpuResult × GpuState σ).2.gpu
  split <;> exact .refl _

theorem quiet_getCapset (capsetId version : UInt32) (s : GpuState σ) :
    Quiet held s.gpu ((rutabagaVirtioGpu overflowChecks host).getCapset capsetId version s).2.gpu := by
  show Quiet held s.gpu (match host.getCapset capsetId version s.gpu.host with
    | none => (.error .errRutabaga, s)
    | some capset => (.ok (.okCapset capset), s) : VirtioGpuResult × GpuState σ).2.gpu
  split <;> exact .refl _

/-- A command, after `force_ctx_0`. -/
theorem effect_of_command (hl : host.Lawful held) {regions : List GuestRegion}
    {hdr : VirtioGpuCtrlHdr} {cmd : GpuCommand} {s t : GpuState σ} {result : VirtioGpuResult}
    (h : processGpuCommand (rutabagaVirtioGpu overflowChecks host) regions hdr cmd s =
      some (result, t)) :
    Effect host.toGpuHost held (s.withHost (host.forceCtx0 s.gpu.host)).gpu t.gpu := by
  have hstate {out : VirtioGpuResult × GpuState σ} (hout : some out = some (result, t)) :
      out.2 = t := congrArg Prod.snd (Option.some.inj hout)
  cases cmd with
  | resourceCreate2d req =>
    obtain rfl := hstate h
    exact .call (.resourceCreate3d req.resourceId _) rfl
  | resourceCreate3d req =>
    obtain rfl := hstate h
    exact .call (.resourceCreate3d req.resourceId _) rfl
  | resourceUnref req => obtain rfl := hstate h; exact .call (.unrefResource req.resourceId) rfl
  | setScanout req =>
    obtain rfl := hstate h
    exact .call (.setScanout req.scanoutId req.resourceId req.r.toRectangle) rfl
  | resourceFlush req =>
    obtain rfl := hstate h
    exact .quiet (quiet_readBack (quiet_flushResource hl (.start _) _ _))
  | updateCursor req =>
    obtain rfl := hstate h
    exact .quiet (quiet_readBack (quiet_updateCursor hl (.start _) _ _ _ _))
  | resourceAttachBacking req iovecs =>
    unfold processGpuCommand at h
    dsimp only at h
    split at h
    case h_1 => obtain rfl := hstate h; exact .quiet (.refl _)
    case h_2 => obtain rfl := hstate h; exact .quiet (quiet_rutabaga hl _ _ _)
  | getDisplayInfo => obtain rfl := hstate h; exact .quiet (quiet_displayInfo hl _)
  | getEdid req => obtain rfl := hstate h; exact .quiet (quiet_getEdid _ _)
  | moveCursor req => obtain rfl := hstate h; exact .quiet (quiet_moveCursor hl _ _ _)
  | getCapsetInfo req => obtain rfl := hstate h; exact .quiet (quiet_getCapsetInfo _ _)
  | getCapset req => obtain rfl := hstate h; exact .quiet (quiet_getCapset _ _ _)
  | transferToHost2d | resourceDetachBacking | ctxCreate | ctxDestroy | ctxAttachResource
  | ctxDetachResource | transferToHost3d | transferFromHost3d | cmdSubmit3d =>
    obtain rfl := hstate h
    exact .quiet (quiet_rutabaga hl _ _ _)
  | resourceAssignUuid | resourceCreateBlob | setScanoutBlob | resourceMapBlob
  | resourceUnmapBlob => cases h

/-- **What an action does**: nothing to the records, or one call on them. -/
theorem effect_of_act (hl : host.Lawful held) {a : GpuAction} {s t : GpuState σ}
    (h : (rutabagaVirtioGpu overflowChecks host).act (rutabagaEventPoll host) s a = some t) :
    ∃ gpu, Quiet held s.gpu gpu ∧ Effect host.toGpuHost held gpu t.gpu := by
  cases a with
  | command regions hdr cmd =>
    obtain ⟨⟨result, t'⟩, hcmd, rfl⟩ := Option.map_eq_some_iff.mp h
    exact ⟨_, quiet_withHost fun _ hid => hl.forceCtx0_keeps hid, effect_of_command hl hcmd⟩
  | createFence fence =>
    obtain rfl := Option.some.inj h
    exact ⟨_, .refl _, .quiet (quiet_rutabaga hl _ _ _)⟩
  | processFence ring fenceId descIndex len =>
    obtain rfl := Option.some.inj h
    exact ⟨_, .refl _, .quiet (.refl _)⟩
  | eventPoll =>
    obtain ⟨⟨t', fences⟩, hpoll, rfl⟩ := Option.map_eq_some_iff.mp h
    exact ⟨_, .refl _, .quiet (quiet_withHost fun _ hid => hl.eventPoll_keeps hpoll hid)⟩

end

/-! ### A resource that is lost -/

namespace RutabagaVirtioGpu

variable {σ : Type} {host : GpuHost σ} {held : σ → UInt32 → Prop} {gpu : RutabagaVirtioGpu σ}
  {r : UInt32} {i : Fin virtioGpuMaxScanouts}

/-- No resource is added or removed, rutabaga gives up no id, and but for the one with the number `n`
the scanouts stay as they are. -/
structure Frame (held : σ → UInt32 → Prop) (n : Nat) (gpu gpu' : RutabagaVirtioGpu σ) : Prop where
  resources : ∀ r, gpu'.resources r = none ↔ gpu.resources r = none
  held : ∀ id, held gpu.host id → held gpu'.host id
  scanouts : ∀ j : Fin virtioGpuMaxScanouts, n ≠ j.val → gpu'.scanouts j = gpu.scanouts j

theorem Frame.refl (n : Nat) (gpu : RutabagaVirtioGpu σ) : Frame held n gpu gpu :=
  ⟨fun _ => Iff.rfl, fun _ h => h, fun _ _ => rfl⟩

theorem Frame.trans {n : Nat} {gpu' gpu'' : RutabagaVirtioGpu σ} (h : Frame held n gpu gpu')
    (g : Frame held n gpu' gpu'') : Frame held n gpu gpu'' where
  resources r := (g.resources r).trans (h.resources r)
  held id hid := g.held id (h.held id hid)
  scanouts j hj := (g.scanouts j hj).trans (h.scanouts j hj)

theorem frame_disableAssigned {scanoutId : UInt32} {gpu' : RutabagaVirtioGpu σ}
    (h : gpu.disableAssigned scanoutId i = some gpu') : Frame held i.val gpu gpu' := by
  unfold disableAssigned at h
  split at h
  case h_1 => cases h; exact .refl _ _
  case h_2 scanout _ =>
    split at h
    case h_1 => cases h
    case h_2 resource hresource =>
      cases h
      exact ⟨fun r => insert_eq_none gpu (hresource ▸ Option.some_ne_none resource), fun _ h => h,
        fun _ _ => rfl⟩

theorem frame_assign (gpu : RutabagaVirtioGpu σ) (scanout : Option VirtioGpuScanout) :
    Frame held i.val gpu (gpu.assign i scanout) := by
  refine ⟨fun _ => Iff.rfl, fun _ h => h, fun j hj => ?_⟩
  rw [assign_scanouts, if_neg]
  rintro rfl
  exact hj rfl

theorem frame_enableAssigned (gpu : RutabagaVirtioGpu σ) (scanoutId resourceId : UInt32) :
    Frame held i.val gpu (gpu.enableAssigned scanoutId i resourceId).2 := by
  unfold enableAssigned
  split
  case h_1 => exact .refl _ _
  case h_2 resource hresource =>
    have hinsert : Frame held i.val gpu (gpu.insert resourceId
        { resource with scanouts := resource.scanouts.enable scanoutId }) :=
      ⟨fun r => insert_eq_none gpu (hresource ▸ Option.some_ne_none resource), fun _ h => h,
        fun _ _ => rfl⟩
    exact hinsert.trans (frame_assign _ _)

theorem frame_backendSetScanout (hl : host.Lawful held) (n : Nat) (gpu : RutabagaVirtioGpu σ)
    (scanoutId width height : UInt32) :
    Frame held n gpu (gpu.backendSetScanout host scanoutId width height).2 :=
  ⟨fun _ => Iff.rfl, fun _ h => hl.setScanout_keeps h, fun _ _ => rfl⟩

theorem frame_setScanout (hl : host.Lawful held) (gpu : RutabagaVirtioGpu σ)
    (scanoutId resourceId : UInt32) (rect : Rectangle) :
    Frame held scanoutId.toNat gpu (gpu.setScanout host scanoutId resourceId rect).2 := by
  unfold setScanout
  split
  case isFalse => exact .refl _ _
  case isTrue hid =>
    dsimp only
    split
    case h_1 => exact .refl _ _
    case h_2 gpu' hdisable =>
      have hframe : Frame held scanoutId.toNat gpu gpu' := frame_disableAssigned hdisable
      split
      case isTrue =>
        exact hframe.trans ((frame_assign (i := ⟨scanoutId.toNat, hid⟩) gpu' none).trans
          (frame_backendSetScanout hl _ _ _ _ _))
      case isFalse =>
        split
        case isTrue =>
          have hbackend := hframe.trans
            (frame_backendSetScanout hl scanoutId.toNat gpu' scanoutId rect.width rect.height)
          split
          case isTrue =>
            exact hbackend.trans
              (frame_enableAssigned (i := ⟨scanoutId.toNat, hid⟩) _ scanoutId resourceId)
          case isFalse => exact hbackend
        case isFalse =>
          exact hframe.trans
            (frame_enableAssigned (i := ⟨scanoutId.toNat, hid⟩) gpu' scanoutId resourceId)

/-- A scanout that shows a resource which is not in the map is stuck: the call fails at once. -/
theorem setScanout_of_missing (host : GpuHost σ) (hs : gpu.scanouts i = some ⟨r⟩) (hr : gpu.resources r = none)
    {scanoutId : UInt32} (hid : scanoutId.toNat = i.val) (resourceId : UInt32) (rect : Rectangle) :
    gpu.setScanout host scanoutId resourceId rect = (.error .errInvalidResourceId, gpu) := by
  have hlt : scanoutId.toNat < virtioGpuMaxScanouts := hid ▸ i.isLt
  have hi : (⟨scanoutId.toNat, hlt⟩ : Fin virtioGpuMaxScanouts) = i := Fin.ext hid
  have hdisable : gpu.disableAssigned scanoutId i = none := by
    rw [disableAssigned, hs]
    dsimp only
    rw [hr]
  unfold setScanout
  rw [dif_pos hlt]
  dsimp only
  rw [hi, hdisable]

/-- The resource is not in the map, and rutabaga still holds it. -/
structure Lost (held : σ → UInt32 → Prop) (r : UInt32) (gpu : RutabagaVirtioGpu σ) : Prop where
  missing : gpu.resources r = none
  held : held gpu.host r

theorem Lost.quiet {gpu' : RutabagaVirtioGpu σ} (h : Lost held r gpu) (hq : Quiet held gpu gpu') :
    Lost held r gpu' :=
  ⟨by rw [hq.records.resources]; exact h.missing, hq.held r h.held⟩

theorem Lost.call (hl : host.Lawful held) (h : Lost held r gpu) (c : ResourceCall) :
    Lost held r (gpu.call host c).2 := by
  cases c with
  | setScanout scanoutId resourceId rect =>
    have hframe := frame_setScanout hl gpu scanoutId resourceId rect
    exact ⟨(hframe.resources r).mpr h.missing, hframe.held r h.held⟩
  | resourceCreate3d resourceId req =>
    show Lost held r (gpu.resourceCreate3d host resourceId req).2
    unfold resourceCreate3d
    dsimp only
    split
    case isTrue hok =>
      have hne : r ≠ resourceId := by
        rintro rfl
        exact hl.create_fresh hok h.held
      refine ⟨?_, hl.create_keeps h.held⟩
      rw [insert_resources, if_neg hne]
      exact h.missing
    case isFalse => exact ⟨h.missing, hl.create_keeps h.held⟩
  | unrefResource resourceId =>
    show Lost held r (gpu.unrefResource host resourceId).2
    have hremove : (gpu.remove resourceId).resources r = none := by
      rw [remove_resources, h.missing]
      exact ite_self _
    unfold unrefResource
    dsimp only
    split
    case h_1 => exact ⟨hremove, h.held⟩
    case h_2 resource hresource =>
      split
      case isTrue => exact ⟨hremove, h.held⟩
      case isFalse =>
        refine ⟨hremove, hl.unref_keeps h.held ?_⟩
        rintro rfl
        cases h.missing.symm.trans hresource

/-- A scanout that shows a lost resource shows it for ever. -/
theorem Lost.scanouts_call (hl : host.Lawful held) (h : Lost held r gpu)
    (hs : gpu.scanouts i = some ⟨r⟩) (c : ResourceCall) :
    (gpu.call host c).2.scanouts i = some ⟨r⟩ := by
  cases c with
  | setScanout scanoutId resourceId rect =>
    show (gpu.setScanout host scanoutId resourceId rect).2.scanouts i = some ⟨r⟩
    by_cases hid : scanoutId.toNat = i.val
    · rw [setScanout_of_missing host hs h.missing hid]
      exact hs
    · rw [(frame_setScanout hl gpu scanoutId resourceId rect).scanouts i hid]
      exact hs
  | resourceCreate3d resourceId req =>
    show (gpu.resourceCreate3d host resourceId req).2.scanouts i = some ⟨r⟩
    unfold resourceCreate3d
    dsimp only
    split <;> exact hs
  | unrefResource resourceId =>
    show (gpu.unrefResource host resourceId).2.scanouts i = some ⟨r⟩
    unfold unrefResource
    dsimp only
    split
    case h_1 => exact hs
    case h_2 => split <;> exact hs

/-- A call that needs a lost resource fails. -/
theorem Lost.setScanout_fails (h : Lost held r gpu) (hr : r ≠ 0)
    (scanoutId : UInt32) (rect : Rectangle) :
    ∃ e, (gpu.setScanout host scanoutId r rect).1 = .error e := by
  have henable {gpu' : RutabagaVirtioGpu σ} {i : Fin virtioGpuMaxScanouts}
      (hmissing : gpu'.resources r = none) :
      (gpu'.enableAssigned scanoutId i r).1 = .error .errInvalidResourceId := by
    rw [enableAssigned, hmissing]
  unfold setScanout
  split
  case isFalse => exact ⟨_, rfl⟩
  case isTrue hid =>
    dsimp only
    split
    case h_1 => exact ⟨_, rfl⟩
    case h_2 gpu' hdisable =>
      have hframe : Frame held scanoutId.toNat gpu gpu' := frame_disableAssigned hdisable
      have hmissing : gpu'.resources r = none := (hframe.resources r).mpr h.missing
      split
      case isTrue =>
        split
        case isTrue => exact ⟨_, henable hmissing⟩
        case isFalse => exact ⟨_, rfl⟩
      case isFalse => exact ⟨_, henable hmissing⟩

theorem Lost.resourceCreate3d_fails (hl : host.Lawful held) (h : Lost held r gpu)
    (req : ResourceCreate3D) : (gpu.resourceCreate3d host r req).1 = .error .errRutabaga := by
  unfold resourceCreate3d
  dsimp only
  rw [if_neg fun hok => hl.create_fresh hok h.held]

theorem Lost.unrefResource_fails (h : Lost held r gpu) :
    (gpu.unrefResource host r).1 = .error .errInvalidResourceId := by
  unfold unrefResource
  dsimp only
  rw [h.missing]

/-- Rutabaga holds every id of the map. -/
def MapHeld (held : σ → UInt32 → Prop) (gpu : RutabagaVirtioGpu σ) : Prop :=
  ∀ id, gpu.resources id ≠ none → held gpu.host id

theorem MapHeld.quiet {gpu' : RutabagaVirtioGpu σ} (h : MapHeld held gpu)
    (hq : Quiet held gpu gpu') : MapHeld held gpu' := by
  intro id hid
  rw [hq.records.resources] at hid
  exact hq.held id (h id hid)

theorem MapHeld.call (hl : host.Lawful held) (h : MapHeld held gpu) (c : ResourceCall) :
    MapHeld held (gpu.call host c).2 := by
  cases c with
  | setScanout scanoutId resourceId rect =>
    have hframe := frame_setScanout hl gpu scanoutId resourceId rect
    exact fun id hid => hframe.held id (h id (mt (hframe.resources id).mpr hid))
  | resourceCreate3d resourceId req =>
    show MapHeld held (gpu.resourceCreate3d host resourceId req).2
    unfold resourceCreate3d
    dsimp only
    split
    case isTrue hok =>
      intro id hid
      by_cases hsame : id = resourceId
      · rw [hsame]
        exact hl.create_held hok
      · rw [insert_resources, if_neg hsame] at hid
        exact hl.create_keeps (h id hid)
    case isFalse => exact fun id hid => hl.create_keeps (h id hid)
  | unrefResource resourceId =>
    have hrest {id : UInt32} (hid : (gpu.remove resourceId).resources id ≠ none) :
        id ≠ resourceId ∧ gpu.resources id ≠ none := by
      rw [remove_resources] at hid
      split at hid
      case isTrue => exact absurd rfl hid
      case isFalse hne => exact ⟨hne, hid⟩
    show MapHeld held (gpu.unrefResource host resourceId).2
    unfold unrefResource
    dsimp only
    split
    case h_1 => exact fun id hid => h id (hrest hid).2
    case h_2 =>
      split
      case isTrue => exact fun id hid => h id (hrest hid).2
      case isFalse => exact fun id hid => hl.unref_keeps (h id (hrest hid).2) (hrest hid).1

/-- A resource that a scanout shows is lost when it is unreferenced. -/
theorem lost_unrefResource (host : GpuHost σ) (hm : MapHeld held gpu) {resource : VirtioGpuResource}
    (hget : gpu.resources r = some resource) (huse : resource.scanouts.hasAnyEnabled = true) :
    (gpu.unrefResource host r).1 = .error .errUnspec ∧ Lost held r (gpu.unrefResource host r).2 ∧
      (gpu.unrefResource host r).2.scanouts = gpu.scanouts := by
  have hheld : held gpu.host r := hm r (hget ▸ Option.some_ne_none resource)
  unfold unrefResource
  dsimp only
  rw [hget]
  dsimp only
  rw [if_pos huse]
  exact ⟨rfl, ⟨by rw [remove_resources, if_pos rfl], hheld⟩, rfl⟩

end RutabagaVirtioGpu

/-! ### Whatever the guest requests -/

/-- The command is about the resource, and can not be done without it or while it exists. -/
def GpuCommand.Needs (r : UInt32) : GpuCommand → Prop
  | .resourceCreate2d req => req.resourceId = r
  | .resourceCreate3d req => req.resourceId = r
  | .resourceUnref req => req.resourceId = r
  | .setScanout req => req.resourceId = r ∧ r ≠ 0
  | .resourceFlush req => req.resourceId = r ∧ r ≠ 0
  | .updateCursor req => req.resourceId = r
  | _ => False

section

variable {σ : Type} {overflowChecks : Bool} {host : RutabagaHost σ} {held : σ → UInt32 → Prop}
  {s t : GpuState σ} {r : UInt32}

/-- The worker's actions on this GPU. -/
abbrev GpuActs (overflowChecks : Bool) (host : RutabagaHost σ) (s t : GpuState σ) : Prop :=
  (rutabagaVirtioGpu overflowChecks host).Acts (rutabagaEventPoll host) s t

theorem mapHeld_of_acts (hl : host.Lawful held) {g : σ}
    (h : GpuActs overflowChecks host (.new g) s) : RutabagaVirtioGpu.MapHeld held s.gpu := by
  refine h.invariant (I := fun s => RutabagaVirtioGpu.MapHeld held s.gpu) ?_ ?_
  · exact fun id hid => absurd rfl hid
  · intro s a t hs _ hact
    obtain ⟨gpu, hquiet, heffect⟩ := effect_of_act hl hact
    cases heffect with
    | quiet hrest => exact (hs.quiet hquiet).quiet hrest
    | call c hc => rw [hc]; exact (hs.quiet hquiet).call hl.toLawful c

theorem flushResource_of_missing (overflowChecks : Bool) (host : ReadbackHost σ)
    {gpu : RutabagaVirtioGpu σ} (hr : gpu.resources r = none) (hzero : r ≠ 0) (rect : Rectangle) :
    (Readback.start gpu).flushResource overflowChecks host r rect =
      .ok (.error .errInvalidResourceId, .start gpu) := by
  unfold Readback.flushResource Readback.start
  rw [if_neg hzero, hr]

theorem updateCursor_of_missing (overflowChecks : Bool) (host : ReadbackHost σ)
    {gpu : RutabagaVirtioGpu σ} (hr : gpu.resources r = none) (cursorPos : VhostUserGpuCursorPos)
    (hotX hotY : UInt32) :
    (Readback.start gpu).updateCursor overflowChecks host r cursorPos hotX hotY =
      .ok (.error .errInvalidResourceId,
        (Readback.start gpu).note (.allocate Readback.cursorBytes)) := by
  unfold Readback.updateCursor Readback.start Readback.note
  dsimp only
  rw [hr]

theorem lost_of_acts (hl : host.Lawful held) (h : GpuActs overflowChecks host s t)
    (hlost : RutabagaVirtioGpu.Lost held r s.gpu) : RutabagaVirtioGpu.Lost held r t.gpu ∧
      ∀ i, s.gpu.scanouts i = some ⟨r⟩ → t.gpu.scanouts i = some ⟨r⟩ := by
  refine h.invariant (I := fun t => RutabagaVirtioGpu.Lost held r t.gpu ∧
    ∀ i, s.gpu.scanouts i = some ⟨r⟩ → t.gpu.scanouts i = some ⟨r⟩) ⟨hlost, fun _ hi => hi⟩ ?_
  rintro u a v ⟨hu, hscanouts⟩ - hact
  obtain ⟨gpu, hquiet, heffect⟩ := effect_of_act hl hact
  have hgpu {i : Fin virtioGpuMaxScanouts} (hi : s.gpu.scanouts i = some ⟨r⟩) :
      gpu.scanouts i = some ⟨r⟩ := by
    rw [hquiet.records.scanouts]
    exact hscanouts i hi
  cases heffect with
  | quiet hrest =>
    refine ⟨(hu.quiet hquiet).quiet hrest, fun i hi => ?_⟩
    rw [hrest.records.scanouts]
    exact hgpu hi
  | call c hc =>
    rw [hc]
    exact ⟨(hu.quiet hquiet).call hl.toLawful c, fun i hi =>
      (hu.quiet hquiet).scanouts_call hl.toLawful (hgpu hi) c⟩

/-- After `force_ctx_0` the resource is still lost, and what needs it fails with an error. -/
theorem fails_of_lost (hl : host.Lawful held) (h : RutabagaVirtioGpu.Lost held r s.gpu)
    {cmd : GpuCommand} (hcmd : cmd.Needs r) (regions : List GuestRegion) (hdr : VirtioGpuCtrlHdr) :
    ∃ e t, processGpuCommand (rutabagaVirtioGpu overflowChecks host) regions hdr cmd s =
      some (.error e, t) ∧ t.panicked = s.panicked := by
  have hforced : RutabagaVirtioGpu.Lost held r (s.withHost (host.forceCtx0 s.gpu.host)).gpu :=
    h.quiet (quiet_withHost fun _ hid => hl.forceCtx0_keeps hid)
  have hfails {out : VirtioGpuResult × GpuState σ} {e : GpuResponse} (hout : out.1 = .error e)
      (hpanicked : out.2.panicked = s.panicked) :
      ∃ e t, some out = some (.error e, t) ∧ t.panicked = s.panicked :=
    ⟨e, out.2, by rw [← hout], hpanicked⟩
  cases cmd with
  | resourceCreate2d req | resourceCreate3d req =>
    obtain rfl : req.resourceId = r := hcmd
    exact hfails (hforced.resourceCreate3d_fails hl.toLawful _) rfl
  | resourceUnref req =>
    obtain rfl : req.resourceId = r := hcmd
    exact hfails hforced.unrefResource_fails rfl
  | setScanout req =>
    obtain ⟨rfl, hzero⟩ := hcmd
    obtain ⟨e, he⟩ := hforced.setScanout_fails hzero req.scanoutId req.r.toRectangle
    exact hfails he rfl
  | resourceFlush req =>
    obtain ⟨rfl, hzero⟩ := hcmd
    have hflush := flushResource_of_missing overflowChecks host.toReadbackHost hforced.missing hzero
      req.r.toRectangle
    exact hfails (congrArg (fun out => (GpuState.readBack _ out).1) hflush)
      (congrArg (fun out => (GpuState.readBack _ out).2.panicked) hflush)
  | updateCursor req =>
    obtain rfl : req.resourceId = r := hcmd
    have hupdate (pos hotX hotY) := updateCursor_of_missing overflowChecks host.toReadbackHost
      hforced.missing pos hotX hotY
    exact hfails (congrArg (fun out => (GpuState.readBack _ out).1) (hupdate _ _ _))
      (congrArg (fun out => (GpuState.readBack _ out).2.panicked) (hupdate _ _ _))
  | _ => exact absurd hcmd id

/-- The command that loses the resource. -/
theorem lost_of_unref (hl : host.Lawful held) {g : σ} (hs : GpuActs overflowChecks host (.new g) s)
    {regions : List GuestRegion} {hdr : VirtioGpuCtrlHdr} {req : VirtioGpuResourceUnref}
    {resource : VirtioGpuResource} (hget : s.gpu.resources req.resourceId = some resource)
    (huse : resource.scanouts.hasAnyEnabled = true) {result : VirtioGpuResult}
    (hunref : processGpuCommand (rutabagaVirtioGpu overflowChecks host) regions hdr
      (.resourceUnref req) s = some (result, t)) :
    result = .error .errUnspec ∧ RutabagaVirtioGpu.Lost held req.resourceId t.gpu ∧
      ∀ i, s.gpu.scanouts i = some ⟨req.resourceId⟩ →
        t.gpu.scanouts i = some ⟨req.resourceId⟩ := by
  have hheld : RutabagaVirtioGpu.MapHeld held (s.withHost (host.forceCtx0 s.gpu.host)).gpu :=
    (mapHeld_of_acts hl hs).quiet (quiet_withHost fun _ hid => hl.forceCtx0_keeps hid)
  obtain ⟨hresult, hlost, hscanouts⟩ :=
    RutabagaVirtioGpu.lost_unrefResource host.toGpuHost hheld hget huse
  have hout := Option.some.inj hunref
  obtain rfl := congrArg Prod.fst hout
  obtain rfl := congrArg Prod.snd hout
  exact ⟨hresult, hlost, fun i hi => (congrFun hscanouts i).trans hi⟩

end

/-- **A resource that is lost.**  Once a resource was unreferenced while a scanout showed it, which is
refused, then wherever the worker comes to, whatever is requested of it: rutabaga still holds the
resource, and each command that needs it, or needs its id, fails, with an error and not a panic. -/
theorem resource_lost {σ : Type} {overflowChecks : Bool} {host : RutabagaHost σ}
    {held : σ → UInt32 → Prop} (hl : host.Lawful held) {g : σ} {s s' t : GpuState σ}
    (hs : GpuActs overflowChecks host (.new g) s) {regions : List GuestRegion}
    {hdr : VirtioGpuCtrlHdr} {req : VirtioGpuResourceUnref} {resource : VirtioGpuResource}
    (hget : s.gpu.resources req.resourceId = some resource)
    (huse : resource.scanouts.hasAnyEnabled = true) {result : VirtioGpuResult}
    (hunref : processGpuCommand (rutabagaVirtioGpu overflowChecks host) regions hdr
      (.resourceUnref req) s = some (result, s'))
    (ht : GpuActs overflowChecks host s' t) :
    result = .error .errUnspec ∧ held t.gpu.host req.resourceId ∧
    ∀ cmd : GpuCommand, cmd.Needs req.resourceId → ∀ regions hdr, ∃ e t',
      processGpuCommand (rutabagaVirtioGpu overflowChecks host) regions hdr cmd t =
        some (.error e, t') ∧ t'.panicked = t.panicked := by
  obtain ⟨hresult, hlost, -⟩ := lost_of_unref hl hs hget huse hunref
  obtain ⟨hlost, -⟩ := lost_of_acts hl ht hlost
  exact ⟨hresult, hlost.held, fun cmd hcmd regions hdr => fails_of_lost hl hlost hcmd regions hdr⟩

/-- A rutabaga that holds the ids in its list, and a backend that always succeeds. -/
def listRutabaga : RutabagaHost (List UInt32) where
  toGpuHost := listHost
  transferRead _ _ _ _ output ids := (.ok output, ids)
  updateScanout _ _ _ ids := (true, ids)
  cursorUpdate _ _ _ ids := (true, ids)
  forceCtx0 ids := ids
  rutabaga _ ids := (true, ids)
  getCapsetInfo _ _ := none
  getCapset _ _ _ := none
  getDisplayInfo ids := (some [], ids)
  getEdid _ _ := .error ()
  cursorPos _ ids := (true, ids)
  cursorPosHide _ ids := (true, ids)
  eventPoll ids fences := some (ids, fences)

theorem listRutabaga_lawful : listRutabaga.Lawful fun ids id => id ∈ ids where
  toLawful := listHost_lawful
  forceCtx0_keeps h := h
  rutabaga_keeps h := h
  displayInfo_keeps h := h
  cursorPos_keeps h := h
  cursorPosHide_keeps h := h
  transferRead_keeps h := h
  updateScanout_keeps h := h
  cursorUpdate_keeps h := h
  eventPoll_keeps h hid := by cases h; exact hid

def plainHdr : VirtioGpuCtrlHdr := ⟨0, 0, 0, 0, 0, fun _ => 0⟩

/-- Resource 1 is created and shown on scanout 0. -/
def showResource1 : List GpuAction :=
  [.command [] plainHdr (.resourceCreate2d ⟨1, 1, 64, 64⟩),
    .command [] plainHdr (.setScanout ⟨⟨0, 0, 64, 64⟩, 0, 1⟩)]

theorem resource_lost_shown :
    let gpu := rutabagaVirtioGpu true listRutabaga
    ∃ s s' result, run (gpu.act (rutabagaEventPoll listRutabaga)) (.new []) showResource1 = some s ∧
      processGpuCommand gpu [] plainHdr (.resourceUnref ⟨1, 0⟩) s = some (result, s') ∧
      result = .error .errUnspec ∧
      let t := (GpuWorker.run gpu (rutabagaEventPoll listRutabaga) [.ok [.poll]] s').state.gpu
      1 ∈ t.gpu.host ∧ ∃ e t',
        processGpuCommand gpu [] plainHdr (.resourceCreate2d ⟨1, 1, 64, 64⟩) t = some (.error e, t') ∧
          t'.panicked = t.panicked := by
  intro gpu
  obtain ⟨s, s', result, resource, hrun, hunref, hget, huse⟩ : ∃ s s' result resource,
      run (gpu.act (rutabagaEventPoll listRutabaga)) (.new []) showResource1 = some s ∧
      processGpuCommand gpu [] plainHdr (.resourceUnref ⟨1, 0⟩) s = some (result, s') ∧
      s.gpu.resources 1 = some resource ∧ resource.scanouts.hasAnyEnabled = true :=
    ⟨_, _, _, _, rfl, rfl, rfl, rfl⟩
  have hlost := resource_lost listRutabaga_lawful (reaches_of_run_any showResource1 hrun) hget huse
    hunref (GpuWorker.acts_run [.ok [.poll]] s')
  exact ⟨s, s', result, hrun, hunref, hlost.1, hlost.2.1,
    hlost.2.2 (.resourceCreate2d ⟨1, 1, 64, 64⟩) rfl [] plainHdr⟩

/-- **A scanout that is stuck.**  A scanout that showed the resource still shows it, and each
`set_scanout` for it fails and changes no record, also one that is to disable it. -/
theorem scanout_stuck {σ : Type} {overflowChecks : Bool} {host : RutabagaHost σ}
    {held : σ → UInt32 → Prop} (hl : host.Lawful held) {g : σ} {s s' t : GpuState σ}
    (hs : GpuActs overflowChecks host (.new g) s) {regions : List GuestRegion}
    {hdr : VirtioGpuCtrlHdr} {req : VirtioGpuResourceUnref} {resource : VirtioGpuResource}
    (hget : s.gpu.resources req.resourceId = some resource)
    (huse : resource.scanouts.hasAnyEnabled = true) {result : VirtioGpuResult}
    (hunref : processGpuCommand (rutabagaVirtioGpu overflowChecks host) regions hdr
      (.resourceUnref req) s = some (result, s'))
    (ht : GpuActs overflowChecks host s' t) {i : Fin virtioGpuMaxScanouts}
    (hi : s.gpu.scanouts i = some ⟨req.resourceId⟩) :
    t.gpu.scanouts i = some ⟨req.resourceId⟩ ∧
    ∀ req' : VirtioGpuSetScanout, req'.scanoutId.toNat = i.val → ∀ regions hdr,
      processGpuCommand (rutabagaVirtioGpu overflowChecks host) regions hdr (.setScanout req') t =
        some (.error .errInvalidResourceId, t.withHost (host.forceCtx0 t.gpu.host)) := by
  obtain ⟨-, hlost, hscanouts⟩ := lost_of_unref hl hs hget huse hunref
  obtain ⟨hlost, hkept⟩ := lost_of_acts hl ht hlost
  have hshown : t.gpu.scanouts i = some ⟨req.resourceId⟩ := hkept i (hscanouts i hi)
  refine ⟨hshown, fun req' hreq' regions hdr => ?_⟩
  let forced := t.withHost (host.forceCtx0 t.gpu.host)
  have hforced : forced.gpu.scanouts i = some ⟨req.resourceId⟩ := hshown
  have hfails : forced.gpu.setScanout host.toGpuHost req'.scanoutId req'.resourceId
      req'.r.toRectangle = (.error .errInvalidResourceId, forced.gpu) :=
    RutabagaVirtioGpu.setScanout_of_missing host.toGpuHost hforced hlost.missing hreq' _ _
  exact congrArg (fun out => some (forced.withGpu out)) hfails

theorem scanout_stuck_shown :
    let gpu := rutabagaVirtioGpu true listRutabaga
    ∃ s s' result, run (gpu.act (rutabagaEventPoll listRutabaga)) (.new []) showResource1 = some s ∧
      processGpuCommand gpu [] plainHdr (.resourceUnref ⟨1, 0⟩) s = some (result, s') ∧
      let t := (GpuWorker.run gpu (rutabagaEventPoll listRutabaga) [.ok [.poll]] s').state.gpu
      processGpuCommand gpu [] plainHdr (.setScanout ⟨⟨0, 0, 0, 0⟩, 0, 0⟩) t =
        some (.error .errInvalidResourceId, t.withHost t.gpu.host) := by
  intro gpu
  obtain ⟨s, s', result, resource, hrun, hunref, hget, huse, hi⟩ : ∃ s s' result resource,
      run (gpu.act (rutabagaEventPoll listRutabaga)) (.new []) showResource1 = some s ∧
      processGpuCommand gpu [] plainHdr (.resourceUnref ⟨1, 0⟩) s = some (result, s') ∧
      s.gpu.resources 1 = some resource ∧ resource.scanouts.hasAnyEnabled = true ∧
      s.gpu.scanouts firstScanout = some ⟨1⟩ := ⟨_, _, _, _, rfl, rfl, rfl, rfl, rfl⟩
  have hstuck := scanout_stuck listRutabaga_lawful (reaches_of_run_any showResource1 hrun) hget huse
    hunref (GpuWorker.acts_run [.ok [.poll]] s') hi
  exact ⟨s, s', result, hrun, hunref, hstuck.2 ⟨⟨0, 0, 0, 0⟩, 0, 0⟩ rfl [] plainHdr⟩

end VirtioPoc.Gpu
