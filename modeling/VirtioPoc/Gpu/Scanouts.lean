import VirtioPoc.Gpu.Response
import VirtioPoc.Base.Run
import Mathlib.Logic.Function.Basic

/-!
# Resources and scanouts

`set_scanout`, `resource_create_3d` and `unref_resource` of `virtio_gpu.rs`.
Which resource a scanout shows is recorded twice: in the table of scanouts, and
in the mask of scanouts of every resource.

Rutabaga and the GPU backend are not part of this repository.  `GpuHost` is what
the three operations call in them; each call may succeed or fail as it likes,
and `GpuHost.Lawful` says only that rutabaga does not create a resource under an
id that it already holds.
-/

namespace VirtioPoc.Gpu

open Base

/-! ### Masks of scanouts -/

/-- `AssociatedScanouts(u32)`. -/
structure AssociatedScanouts where
  bits : UInt32
  deriving DecidableEq

namespace AssociatedScanouts

def default : AssociatedScanouts := ⟨0⟩

def enable (s : AssociatedScanouts) (scanoutId : UInt32) : AssociatedScanouts :=
  ⟨s.bits ||| 1 <<< scanoutId⟩

def disable (s : AssociatedScanouts) (scanoutId : UInt32) : AssociatedScanouts :=
  ⟨s.bits ^^^ 1 <<< scanoutId⟩

def hasAnyEnabled (s : AssociatedScanouts) : Bool := s.bits ≠ 0

/-- Bit `i` of the mask. -/
def bit (s : AssociatedScanouts) (i : Nat) : Bool := s.bits.toNat.testBit i

theorem bit_default (i : Nat) : default.bit i = false := Nat.zero_testBit i

theorem toNat_shiftLeft_one {scanoutId : UInt32} (h : scanoutId.toNat < 32) :
    (1 <<< scanoutId : UInt32).toNat = 2 ^ scanoutId.toNat := by
  have hlt : 2 ^ scanoutId.toNat < 2 ^ 32 := Nat.pow_lt_pow_right (by decide) h
  rw [UInt32.toNat_shiftLeft, Nat.mod_eq_of_lt h, UInt32.toNat_one, Nat.one_shiftLeft,
    Nat.mod_eq_of_lt hlt]

theorem bit_enable (s : AssociatedScanouts) {scanoutId : UInt32} (h : scanoutId.toNat < 32)
    (i : Nat) : (s.enable scanoutId).bit i = (s.bit i || decide (scanoutId.toNat = i)) := by
  rw [bit, enable, UInt32.toNat_or, Nat.testBit_or, toNat_shiftLeft_one h, Nat.testBit_two_pow]
  rfl

theorem bit_disable (s : AssociatedScanouts) {scanoutId : UInt32} (h : scanoutId.toNat < 32)
    (i : Nat) : (s.disable scanoutId).bit i = (s.bit i ^^ decide (scanoutId.toNat = i)) := by
  rw [bit, disable, UInt32.toNat_xor, Nat.testBit_xor, toNat_shiftLeft_one h, Nat.testBit_two_pow]
  rfl

theorem bit_of_not_hasAnyEnabled {s : AssociatedScanouts} (h : s.hasAnyEnabled = false) (i : Nat) :
    s.bit i = false := by
  have hz : s.bits = 0 := by simpa [hasAnyEnabled] using h
  rw [bit, hz]
  exact Nat.zero_testBit i

end AssociatedScanouts

/-! ### The GPU -/

/-- `ResourceCreate3D` of rutabaga. -/
structure ResourceCreate3D where
  (target format bind width height depth arraySize lastLevel nrSamples flags : UInt32)
  deriving DecidableEq

structure Rectangle where
  (x y width height : UInt32)
  deriving DecidableEq

def VirtioGpuRect.toRectangle (r : VirtioGpuRect) : Rectangle := ⟨r.x, r.y, r.width, r.height⟩

structure VhostUserGpuScanout where
  (scanoutId width height : UInt32)
  deriving DecidableEq

/-- What `Rutabaga::query` returns. -/
structure Query where
  (strides offsets : Fin 4 → UInt32)
  modifier : UInt64

/-- The calls into rutabaga and the GPU backend, on a state of their own; `true` is success. -/
structure GpuHost (σ : Type) where
  resourceCreate3d : UInt32 → ResourceCreate3D → σ → Bool × σ
  unrefResource : UInt32 → σ → Bool × σ
  query : UInt32 → σ → Option Query
  setScanout : VhostUserGpuScanout → σ → Bool × σ

/-- **What is assumed of rutabaga**, with `held s id` for the ids that it holds: a create of an id
it holds fails, and an id is only given up by an unref of it. -/
structure GpuHost.Lawful {σ : Type} (host : GpuHost σ) (held : σ → UInt32 → Prop) : Prop where
  create_fresh : ∀ {id req s}, (host.resourceCreate3d id req s).1 = true → ¬ held s id
  create_held : ∀ {id req s}, (host.resourceCreate3d id req s).1 = true →
    held (host.resourceCreate3d id req s).2 id
  create_keeps : ∀ {id req s id'}, held s id' → held (host.resourceCreate3d id req s).2 id'
  unref_keeps : ∀ {id s id'}, held s id' → id' ≠ id → held (host.unrefResource id s).2 id'
  setScanout_keeps : ∀ {scanout s id'}, held s id' → held (host.setScanout scanout s).2 id'

structure VirtioGpuResource where
  (id width height : UInt32)
  scanouts : AssociatedScanouts
  deriving DecidableEq

def VirtioGpuResource.new (resourceId width height : UInt32) : VirtioGpuResource :=
  { id := resourceId, width := width, height := height, scanouts := .default }

structure VirtioGpuScanout where
  resourceId : UInt32
  deriving DecidableEq

/-- `RutabagaVirtioGpu`, with the state of rutabaga and the backend in `host`. -/
structure RutabagaVirtioGpu (σ : Type) where
  host : σ
  resources : UInt32 → Option VirtioGpuResource
  scanouts : Fin virtioGpuMaxScanouts → Option VirtioGpuScanout

namespace RutabagaVirtioGpu

variable {σ : Type} (host : GpuHost σ)

def new (s : σ) : RutabagaVirtioGpu σ :=
  { host := s, resources := fun _ => none, scanouts := fun _ => none }

/-- `resources.insert`. -/
def insert (gpu : RutabagaVirtioGpu σ) (id : UInt32) (resource : VirtioGpuResource) :
    RutabagaVirtioGpu σ :=
  { gpu with resources := Function.update gpu.resources id (some resource) }

/-- `resources.remove`. -/
def remove (gpu : RutabagaVirtioGpu σ) (id : UInt32) : RutabagaVirtioGpu σ :=
  { gpu with resources := Function.update gpu.resources id none }

/-- `*scanout = ..`. -/
def assign (gpu : RutabagaVirtioGpu σ) (i : Fin virtioGpuMaxScanouts)
    (scanout : Option VirtioGpuScanout) : RutabagaVirtioGpu σ :=
  { gpu with scanouts := Function.update gpu.scanouts i scanout }

/-- `gpu_backend.set_scanout(..)`. -/
def backendSetScanout (gpu : RutabagaVirtioGpu σ) (scanoutId width height : UInt32) :
    Bool × RutabagaVirtioGpu σ :=
  let result := host.setScanout ⟨scanoutId, width, height⟩ gpu.host
  (result.1, { gpu with host := result.2 })

def resultFromQuery (gpu : RutabagaVirtioGpu σ) (resourceId : UInt32) : GpuResponse :=
  match host.query resourceId gpu.host with
  | none => .okNoData
  | some query => .okResourcePlaneInfo query.modifier
      ((List.finRange 4).map fun i => ⟨query.strides i, query.offsets i⟩)

/-- If a resource is assigned to the scanout, disable the scanout for that resource; `none` when
there is no such resource. -/
def disableAssigned (gpu : RutabagaVirtioGpu σ) (scanoutId : UInt32)
    (i : Fin virtioGpuMaxScanouts) : Option (RutabagaVirtioGpu σ) :=
  match gpu.scanouts i with
  | none => some gpu
  | some scanout =>
    match gpu.resources scanout.resourceId with
    | none => none
    | some resource => some <| gpu.insert scanout.resourceId
        { resource with scanouts := resource.scanouts.disable scanoutId }

/-- The end of `set_scanout`: enable the scanout for the resource, and assign it. -/
def enableAssigned (gpu : RutabagaVirtioGpu σ) (scanoutId : UInt32)
    (i : Fin virtioGpuMaxScanouts) (resourceId : UInt32) : VirtioGpuResult × RutabagaVirtioGpu σ :=
  match gpu.resources resourceId with
  | none => (.error .errInvalidResourceId, gpu)
  | some resource => (.ok .okNoData, (gpu.insert resourceId
      { resource with scanouts := resource.scanouts.enable scanoutId }).assign i (some ⟨resourceId⟩))

def setScanout (gpu : RutabagaVirtioGpu σ) (scanoutId resourceId : UInt32) (rect : Rectangle) :
    VirtioGpuResult × RutabagaVirtioGpu σ :=
  if h : scanoutId.toNat < virtioGpuMaxScanouts then
    let i : Fin virtioGpuMaxScanouts := ⟨scanoutId.toNat, h⟩
    match gpu.disableAssigned scanoutId i with
    | none => (.error .errInvalidResourceId, gpu)
    | some gpu =>
      if resourceId = 0 then
        let result := (gpu.assign i none).backendSetScanout host scanoutId 0 0
        (if result.1 then .ok .okNoData else .error .errUnspec, result.2)
      else if gpu.scanouts i = none then
        let result := gpu.backendSetScanout host scanoutId rect.width rect.height
        if result.1 then result.2.enableAssigned scanoutId i resourceId
        else (.error .errUnspec, result.2)
      else gpu.enableAssigned scanoutId i resourceId
  else (.error .errInvalidScanoutId, gpu)

/-- Without the `debug_assert!` that the id is not in the map, for which see
`RutabagaVirtioGpu.create_is_fresh`. -/
def resourceCreate3d (gpu : RutabagaVirtioGpu σ) (resourceId : UInt32) (req : ResourceCreate3D) :
    VirtioGpuResult × RutabagaVirtioGpu σ :=
  let result := host.resourceCreate3d resourceId req gpu.host
  let gpu := { gpu with host := result.2 }
  if result.1 then
    let gpu := gpu.insert resourceId (.new resourceId req.width req.height)
    (.ok (gpu.resultFromQuery host resourceId), gpu)
  else (.error .errRutabaga, gpu)

def unrefResource (gpu : RutabagaVirtioGpu σ) (resourceId : UInt32) :
    VirtioGpuResult × RutabagaVirtioGpu σ :=
  let resource := gpu.resources resourceId
  let gpu := gpu.remove resourceId
  match resource with
  | none => (.error .errInvalidResourceId, gpu)
  | some resource =>
    if resource.scanouts.hasAnyEnabled then (.error .errUnspec, gpu)
    else
      let result := host.unrefResource resourceId gpu.host
      (if result.1 then .ok .okNoData else .error .errRutabaga, { gpu with host := result.2 })

end RutabagaVirtioGpu

/-- The operations on resources and scanouts. -/
inductive ResourceCall
  | resourceCreate3d (resourceId : UInt32) (req : ResourceCreate3D)
  | setScanout (scanoutId resourceId : UInt32) (rect : Rectangle)
  | unrefResource (resourceId : UInt32)

namespace RutabagaVirtioGpu

variable {σ : Type} (host : GpuHost σ)

def call (gpu : RutabagaVirtioGpu σ) : ResourceCall → VirtioGpuResult × RutabagaVirtioGpu σ
  | .resourceCreate3d resourceId req => gpu.resourceCreate3d host resourceId req
  | .setScanout scanoutId resourceId rect => gpu.setScanout host scanoutId resourceId rect
  | .unrefResource resourceId => gpu.unrefResource host resourceId

/-- An operation is done, whatever its result. -/
def step (gpu : RutabagaVirtioGpu σ) (c : ResourceCall) : Option (RutabagaVirtioGpu σ) :=
  some (gpu.call host c).2

/-! ### Agreement -/

/-- The mask of the resource has the scanout enabled. -/
def shows (gpu : RutabagaVirtioGpu σ) (r : UInt32) (i : Fin virtioGpuMaxScanouts) : Bool :=
  match gpu.resources r with
  | none => false
  | some resource => resource.scanouts.bit i

/-- **The two records agree**: a scanout is assigned to the resource exactly if the resource is in
the map with that scanout enabled. -/
def Agree (gpu : RutabagaVirtioGpu σ) : Prop :=
  ∀ i r, gpu.scanouts i = some ⟨r⟩ ↔ gpu.shows r i = true

/-- The two records agree but for scanout `i`, which no resource has enabled. -/
structure AgreeBut (gpu : RutabagaVirtioGpu σ) (i : Fin virtioGpuMaxScanouts) : Prop where
  others : ∀ j r, j ≠ i → (gpu.scanouts j = some ⟨r⟩ ↔ gpu.shows r j = true)
  cleared : ∀ r, gpu.shows r i = false

variable {gpu : RutabagaVirtioGpu σ} {i : Fin virtioGpuMaxScanouts} {r : UInt32}

theorem insert_resources (gpu : RutabagaVirtioGpu σ) (id : UInt32) (resource : VirtioGpuResource)
    (r : UInt32) :
    (gpu.insert id resource).resources r = if r = id then some resource else gpu.resources r :=
  Function.update_apply ..

theorem remove_resources (gpu : RutabagaVirtioGpu σ) (id r : UInt32) :
    (gpu.remove id).resources r = if r = id then none else gpu.resources r :=
  Function.update_apply ..

theorem assign_scanouts (gpu : RutabagaVirtioGpu σ) (i j : Fin virtioGpuMaxScanouts)
    (scanout : Option VirtioGpuScanout) :
    (gpu.assign i scanout).scanouts j = if j = i then scanout else gpu.scanouts j :=
  Function.update_apply ..

theorem shows_of_eq_none (h : gpu.resources r = none) : gpu.shows r i = false := by
  rw [shows, h]

theorem shows_of_eq_some {resource : VirtioGpuResource} (h : gpu.resources r = some resource) :
    gpu.shows r i = resource.scanouts.bit i := by
  rw [shows, h]

theorem shows_insert (gpu : RutabagaVirtioGpu σ) (id : UInt32) (resource : VirtioGpuResource)
    (r : UInt32) (i : Fin virtioGpuMaxScanouts) : (gpu.insert id resource).shows r i =
      if r = id then resource.scanouts.bit i else gpu.shows r i := by
  rw [shows, insert_resources]
  by_cases hr : r = id
  · rw [if_pos hr, if_pos hr]
  · rw [if_neg hr, if_neg hr, shows]

theorem shows_remove (gpu : RutabagaVirtioGpu σ) (id r : UInt32) (i : Fin virtioGpuMaxScanouts) :
    (gpu.remove id).shows r i = if r = id then false else gpu.shows r i := by
  rw [shows, remove_resources]
  by_cases hr : r = id
  · rw [if_pos hr, if_pos hr]
  · rw [if_neg hr, if_neg hr, shows]

theorem insert_eq_none (gpu : RutabagaVirtioGpu σ) {id : UInt32} {resource : VirtioGpuResource}
    (h : gpu.resources id ≠ none) :
    (gpu.insert id resource).resources r = none ↔ gpu.resources r = none := by
  rw [insert_resources]
  by_cases hr : r = id
  · subst hr
    rw [if_pos rfl]
    exact ⟨fun h' => (Option.some_ne_none _ h').elim, fun h' => absurd h' h⟩
  · rw [if_neg hr]

theorem Agree.agreeBut (h : gpu.Agree) (hi : gpu.scanouts i = none) : gpu.AgreeBut i where
  others j r _ := h j r
  cleared r := by
    rw [← Bool.not_eq_true, ← h, hi]
    exact Option.some_ne_none _ ∘ Eq.symm

theorem AgreeBut.agree (h : gpu.AgreeBut i) (hi : gpu.scanouts i = none) : gpu.Agree := by
  intro j r
  by_cases hj : j = i
  · subst hj
    rw [hi, h.cleared]
    simp
  · exact h.others j r hj

theorem AgreeBut.assign_none (h : gpu.AgreeBut i) : (gpu.assign i none).Agree := by
  have hbut : (gpu.assign i none).AgreeBut i := by
    refine ⟨fun j r hj => ?_, h.cleared⟩
    rw [assign_scanouts, if_neg hj]
    exact h.others j r hj
  exact hbut.agree (by rw [assign_scanouts, if_pos rfl])

/-! ### What the parts of `set_scanout` do -/

theorem bit_disable_fin {scanoutId : UInt32} (hid : scanoutId.toNat = i) (s : AssociatedScanouts)
    (j : Fin virtioGpuMaxScanouts) : (s.disable scanoutId).bit j = (s.bit j ^^ decide (j = i)) := by
  have hlt : scanoutId.toNat < 32 := by
    have := i.isLt
    unfold virtioGpuMaxScanouts at this
    omega
  rw [s.bit_disable hlt, hid]
  simp only [Fin.ext_iff, eq_comm]

theorem bit_enable_fin {scanoutId : UInt32} (hid : scanoutId.toNat = i) (s : AssociatedScanouts)
    (j : Fin virtioGpuMaxScanouts) : (s.enable scanoutId).bit j = (s.bit j || decide (j = i)) := by
  have hlt : scanoutId.toNat < 32 := by
    have := i.isLt
    unfold virtioGpuMaxScanouts at this
    omega
  rw [s.bit_enable hlt, hid]
  simp only [Fin.ext_iff, eq_comm]

/-- Where the records agree, the exclusive or clears the bit, and leaves the others. -/
theorem disableAssigned_spec {scanoutId : UInt32} (h : gpu.Agree) (hid : scanoutId.toNat = i) :
    ∃ gpu', gpu.disableAssigned scanoutId i = some gpu' ∧ gpu'.AgreeBut i ∧
      gpu'.host = gpu.host ∧ gpu'.scanouts = gpu.scanouts ∧
      ∀ r, gpu'.resources r = none ↔ gpu.resources r = none := by
  cases hs : gpu.scanouts i with
  | none => exact ⟨gpu, by rw [disableAssigned, hs], h.agreeBut hs, rfl, rfl, fun _ => Iff.rfl⟩
  | some scanout =>
    obtain ⟨old⟩ := scanout
    have hshow := (h i old).mp hs
    cases hr : gpu.resources old with
    | none =>
      rw [shows_of_eq_none hr] at hshow
      cases hshow
    | some resource =>
      rw [shows_of_eq_some hr] at hshow
      have hsome : gpu.resources old ≠ none := hr ▸ Option.some_ne_none _
      have hdisable : gpu.disableAssigned scanoutId i = some (gpu.insert old
          { resource with scanouts := resource.scanouts.disable scanoutId }) := by
        simp only [disableAssigned, hs, hr]
      refine ⟨_, hdisable, ⟨fun j r hj => ?_, fun r => ?_⟩, rfl, rfl,
        fun r => insert_eq_none gpu hsome⟩
      · rw [shows_insert]
        split
        case isTrue hr' =>
          subst hr'
          rw [bit_disable_fin hid, decide_eq_false hj, Bool.xor_false, ← shows_of_eq_some hr]
          exact h j r
        case isFalse => exact h j r
      · rw [shows_insert]
        split
        case isTrue =>
          rw [bit_disable_fin hid, hshow, decide_eq_true rfl]
          rfl
        case isFalse hne =>
          rw [← Bool.not_eq_true, ← h i r, hs]
          intro he
          cases he
          exact hne rfl

theorem enableAssigned_agree {scanoutId : UInt32} (h : gpu.AgreeBut i) (hid : scanoutId.toNat = i)
    (hr : gpu.resources r ≠ none) : (gpu.enableAssigned scanoutId i r).2.Agree := by
  cases hres : gpu.resources r with
  | none => exact absurd hres hr
  | some resource =>
    intro j r'
    have hshow : ((gpu.insert r { resource with
        scanouts := resource.scanouts.enable scanoutId }).assign i (some ⟨r⟩)).shows r' j =
          if r' = r then (gpu.shows r j || decide (j = i)) else gpu.shows r' j := by
      rw [shows_of_eq_some hres, ← bit_enable_fin hid]
      exact shows_insert ..
    rw [enableAssigned, hres]
    dsimp only
    rw [hshow, assign_scanouts]
    by_cases hj : j = i
    · subst hj
      rw [if_pos rfl, decide_eq_true rfl, Bool.or_true, h.cleared]
      by_cases hr' : r' = r
      · simp [hr']
      · simp [hr', Ne.symm hr']
    · rw [if_neg hj, decide_eq_false hj, Bool.or_false]
      show gpu.scanouts j = _ ↔ _
      rw [h.others j r' hj]
      split
      case isTrue hr' => rw [hr']
      case isFalse => rfl

/-! ### The invariant -/

/-- The two records agree, and rutabaga holds every id of the map. -/
structure Consistent (held : σ → UInt32 → Prop) (gpu : RutabagaVirtioGpu σ) : Prop where
  agree : gpu.Agree
  held : ∀ r, gpu.resources r ≠ none → held gpu.host r

/-- The operation meets none of the two early returns that are taken after a record was changed: a
scanout that is in use is not given a resource that does not exist, and no resource is unreferenced
while it has a scanout enabled. -/
def Safe (gpu : RutabagaVirtioGpu σ) : ResourceCall → Prop
  | .resourceCreate3d _ _ => True
  | .setScanout scanoutId resourceId _ => ∀ i : Fin virtioGpuMaxScanouts, scanoutId.toNat = i →
      resourceId ≠ 0 → gpu.scanouts i ≠ none → gpu.resources resourceId ≠ none
  | .unrefResource resourceId => ∀ resource, gpu.resources resourceId = some resource →
      resource.scanouts.hasAnyEnabled = false

variable {host} {held : σ → UInt32 → Prop}

theorem consistent_new (s : σ) : Consistent held (new s) where
  agree _ _ := ⟨(nomatch ·), (nomatch ·)⟩
  held _ h := absurd rfl h

/-- The end of `set_scanout`, from where no resource shows the scanout: either it is assigned, or it
was free and stays so. -/
theorem consistent_enableAssigned {scanoutId : UInt32} (hbut : gpu.AgreeBut i)
    (hheld : ∀ r, gpu.resources r ≠ none → held gpu.host r) (hid : scanoutId.toNat = i)
    (h : gpu.scanouts i = none ∨ gpu.resources r ≠ none) :
    Consistent held (gpu.enableAssigned scanoutId i r).2 := by
  cases hr : gpu.resources r with
  | none =>
    have hfree := h.resolve_right (· hr)
    rw [enableAssigned, hr]
    exact ⟨hbut.agree hfree, hheld⟩
  | some resource =>
    have hsome : gpu.resources r ≠ none := hr ▸ Option.some_ne_none _
    refine ⟨enableAssigned_agree hbut hid hsome, fun r' hr' => ?_⟩
    rw [enableAssigned, hr] at hr' ⊢
    exact hheld r' (mt (insert_eq_none gpu hsome).mpr hr')

variable (hl : host.Lawful held)
include hl

/-- The assertion of `resource_create_3d`: an id that rutabaga creates is not in the map. -/
theorem create_is_fresh (hc : Consistent held gpu) {req : ResourceCreate3D}
    (hok : (host.resourceCreate3d r req gpu.host).1 = true) : gpu.resources r = none := by
  by_contra hr
  exact hl.create_fresh hok (hc.held r hr)

theorem consistent_resourceCreate3d (hc : Consistent held gpu) (r : UInt32)
    (req : ResourceCreate3D) : Consistent held (gpu.resourceCreate3d host r req).2 := by
  rw [resourceCreate3d]
  cases hok : (host.resourceCreate3d r req gpu.host).1 with
  | false => exact ⟨hc.agree, fun r' hr' => hl.create_keeps (hc.held r' hr')⟩
  | true =>
    have hfresh := create_is_fresh hl hc hok
    refine ⟨fun i r' => ?_, fun r' hr' => ?_⟩
    · show gpu.scanouts i = _ ↔ (insert _ r _).shows r' i = true
      rw [shows_insert]
      by_cases hr' : r' = r
      · subst hr'
        rw [if_pos rfl, hc.agree i r', shows_of_eq_none hfresh]
        exact (AssociatedScanouts.bit_default i) ▸ Iff.rfl
      · rw [if_neg hr']
        exact hc.agree i r'
    · by_cases he : r' = r
      · subst he
        exact hl.create_held hok
      · replace hr' : (insert _ r _).resources r' ≠ none := hr'
        rw [insert_resources, if_neg he] at hr'
        exact hl.create_keeps (hc.held r' hr')

theorem consistent_unrefResource (hc : Consistent held gpu) (r : UInt32)
    (hsafe : gpu.Safe (.unrefResource r)) : Consistent held (gpu.unrefResource host r).2 := by
  -- no scanout shows the resource, so that removing it changes no answer
  have hnone (i : Fin virtioGpuMaxScanouts) : gpu.shows r i = false := by
    cases hr : gpu.resources r with
    | none => exact shows_of_eq_none hr
    | some resource =>
      rw [shows_of_eq_some hr]
      exact AssociatedScanouts.bit_of_not_hasAnyEnabled (hsafe resource hr) i
  have hagree : (gpu.remove r).Agree := by
    intro i r'
    rw [shows_remove]
    show gpu.scanouts i = _ ↔ _
    rw [hc.agree i r']
    by_cases hr' : r' = r
    · rw [if_pos hr', hr', hnone i]
    · rw [if_neg hr']
  have hmem {r' : UInt32} (hr' : (gpu.remove r).resources r' ≠ none) :
      r' ≠ r ∧ gpu.resources r' ≠ none := by
    rw [remove_resources] at hr'
    split at hr'
    case isTrue => exact absurd rfl hr'
    case isFalse he => exact ⟨he, hr'⟩
  rw [unrefResource]
  cases hr : gpu.resources r with
  | none => exact ⟨hagree, fun r' hr' => hc.held r' (hmem hr').2⟩
  | some resource =>
    dsimp only
    rw [hsafe resource hr]
    exact ⟨hagree, fun r' hr' => hl.unref_keeps (hc.held r' (hmem hr').2) (hmem hr').1⟩

theorem consistent_setScanout (hc : Consistent held gpu) (scanoutId r : UInt32) (rect : Rectangle)
    (hsafe : gpu.Safe (.setScanout scanoutId r rect)) :
    Consistent held (gpu.setScanout host scanoutId r rect).2 := by
  by_cases hid : scanoutId.toNat < virtioGpuMaxScanouts
  · obtain ⟨gpu', hdisable, hbut, hhost, hscanouts, hmap⟩ :=
      disableAssigned_spec (i := ⟨scanoutId.toNat, hid⟩) hc.agree rfl
    have hheld' (r' : UInt32) (hr' : gpu'.resources r' ≠ none) : held gpu'.host r' :=
      hhost ▸ hc.held r' (mt (hmap r').mpr hr')
    have hheld (out : VhostUserGpuScanout) (r' : UInt32) (hr' : gpu'.resources r' ≠ none) :
        held (host.setScanout out gpu'.host).2 r' := hl.setScanout_keeps (hheld' r' hr')
    rw [setScanout, dif_pos hid]
    simp only [hdisable]
    by_cases hzero : r = 0
    · rw [if_pos hzero]
      exact ⟨hbut.assign_none, hheld _⟩
    · rw [if_neg hzero]
      by_cases hnone : gpu'.scanouts ⟨scanoutId.toNat, hid⟩ = none
      · -- the scanout was free, so that nothing was disabled
        rw [if_pos hnone]
        split
        case isTrue =>
          exact consistent_enableAssigned ⟨hbut.others, hbut.cleared⟩ (hheld _) rfl (Or.inl hnone)
        case isFalse => exact ⟨hbut.agree hnone, hheld _⟩
      · rw [if_neg hnone]
        have hr : gpu'.resources r ≠ none :=
          mt (hmap r).mp (hsafe ⟨scanoutId.toNat, hid⟩ rfl hzero (hscanouts ▸ hnone))
        exact consistent_enableAssigned hbut hheld' rfl (Or.inr hr)
  · rw [setScanout, dif_neg hid]
    exact hc

theorem consistent_call (hc : Consistent held gpu) (c : ResourceCall) (hsafe : gpu.Safe c) :
    Consistent held (gpu.call host c).2 := by
  cases c with
  | resourceCreate3d r req => exact consistent_resourceCreate3d hl hc r req
  | setScanout scanoutId r rect => exact consistent_setScanout hl hc scanoutId r rect hsafe
  | unrefResource r => exact consistent_unrefResource hl hc r hsafe

end RutabagaVirtioGpu

/-- **When scanouts and masks agree**: in every state reached by operations that meet neither of
the two early returns. -/
theorem scanouts_agree {σ : Type} {host : GpuHost σ} {held : σ → UInt32 → Prop}
    (hl : host.Lawful held) {s : σ} {gpu : RutabagaVirtioGpu σ}
    (hr : Reaches (RutabagaVirtioGpu.step host) RutabagaVirtioGpu.Safe (.new s) gpu) : gpu.Agree :=
  have hc : RutabagaVirtioGpu.Consistent held gpu :=
    hr.invariant (RutabagaVirtioGpu.consistent_new s) fun gpu c gpu' hc hsafe hstep => by
      obtain rfl := Option.some.inj hstep
      exact RutabagaVirtioGpu.consistent_call hl hc c hsafe
  hc.agree

/-- A rutabaga that holds the ids in its list, and a backend that always succeeds. -/
def listHost : GpuHost (List UInt32) where
  resourceCreate3d id _ ids := if id ∈ ids then (false, ids) else (true, id :: ids)
  unrefResource id ids := if id ∈ ids then (true, ids.erase id) else (false, ids)
  query _ _ := none
  setScanout _ ids := (true, ids)

theorem listHost_lawful : listHost.Lawful fun ids id => id ∈ ids where
  create_fresh {id req ids} h := by
    intro hid
    simp [listHost, hid] at h
  create_held {id req ids} h := by
    by_cases hid : id ∈ ids <;> simp [listHost, hid]
  create_keeps {id req ids id'} h := by
    by_cases hid : id ∈ ids <;> simp [listHost, hid, h]
  unref_keeps {id ids id'} h hne := by
    by_cases hid : id ∈ ids
    · simpa [listHost, hid] using (List.mem_erase_of_ne hne).mpr h
    · simpa [listHost, hid] using h
  setScanout_keeps h := h

/-- The resource of the tests. -/
def createResource2d720p : ResourceCreate3D :=
  { target := 2, format := 1, bind := 2, width := 1280, height := 720, depth := 1, arraySize := 1,
    lastLevel := 0, nrSamples := 0, flags := 0 }

/-- Resource 1 is created and shown on scanout 0. -/
def oneShown : List ResourceCall :=
  [.resourceCreate3d 1 createResource2d720p, .setScanout 0 1 ⟨0, 0, 1280, 720⟩]

theorem scanouts_agree_oneShown : ∃ gpu,
    run (RutabagaVirtioGpu.step listHost) (.new []) oneShown = some gpu ∧ gpu.Agree :=
  ⟨_, rfl, scanouts_agree listHost_lawful <| reaches_of_run oneShown _ rfl
    ⟨trivial, fun _ ht => Option.some.inj ht ▸ ⟨fun _ _ _ h => absurd rfl h, fun _ _ => trivial⟩⟩⟩

def firstScanout : Fin virtioGpuMaxScanouts := ⟨0, by decide⟩

/-- **The records come apart** when scanout 0 is then given resource 7, which does not exist: the
call fails, with the bit of resource 1 cleared and the scanout still assigned to it.  They come apart
as well when resource 1 is unreferenced: the call refuses, with the resource gone from the map. -/
theorem failed_calls_disagree :
    (∃ gpu, Reaches (RutabagaVirtioGpu.step listHost) (fun _ _ => True) (.new []) gpu ∧
      run (RutabagaVirtioGpu.step listHost) (.new [])
        (oneShown ++ [.setScanout 0 7 ⟨0, 0, 1280, 720⟩]) = some gpu ∧
      gpu.scanouts firstScanout = some ⟨1⟩ ∧ gpu.shows 1 firstScanout = false ∧ ¬ gpu.Agree) ∧
    (∃ gpu, Reaches (RutabagaVirtioGpu.step listHost) (fun _ _ => True) (.new []) gpu ∧
      run (RutabagaVirtioGpu.step listHost) (.new []) (oneShown ++ [.unrefResource 1]) = some gpu ∧
      gpu.scanouts firstScanout = some ⟨1⟩ ∧ gpu.resources 1 = none ∧ ¬ gpu.Agree) := by
  constructor
  · refine ⟨_, reaches_of_run_any (oneShown ++ [.setScanout 0 7 ⟨0, 0, 1280, 720⟩]) rfl, rfl,
      rfl, rfl, fun h => Bool.false_ne_true ((h firstScanout 1).mp rfl)⟩
  · refine ⟨_, reaches_of_run_any (oneShown ++ [.unrefResource 1]) rfl, rfl, rfl, rfl,
      fun h => Bool.false_ne_true ((h firstScanout 1).mp rfl)⟩

end VirtioPoc.Gpu
