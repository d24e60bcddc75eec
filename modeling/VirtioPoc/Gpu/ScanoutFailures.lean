import VirtioPoc.Gpu.Scanouts

/-!
# Failed calls

`set_scanout` and `unref_resource` change a record before the last thing that
can fail, and do not put it back.  `set_scanout` first disables the scanout for
the resource that it shows; `unref_resource` removes the resource from the map
before it looks whether it may.

`failed_call_changes_nothing_iff` says, for every state, which calls fail with a
record changed.
-/

namespace VirtioPoc.Gpu

open Base

/-- With one bit flipped, the mask is another one. -/
theorem AssociatedScanouts.disable_ne (s : AssociatedScanouts) {scanoutId : UInt32}
    (h : scanoutId.toNat < 32) : s.disable scanoutId ≠ s := by
  intro heq
  have hbit := s.bit_disable h scanoutId.toNat
  rw [heq, decide_eq_true rfl] at hbit
  cases hs : s.bit scanoutId.toNat with
  | false => rw [hs] at hbit; cases hbit
  | true => rw [hs] at hbit; cases hbit

namespace RutabagaVirtioGpu

variable {σ : Type} (host : GpuHost σ) (gpu : RutabagaVirtioGpu σ)

/-- The map of resources and the table of scanouts are the same. -/
structure SameRecords (gpu gpu' : RutabagaVirtioGpu σ) : Prop where
  resources : gpu'.resources = gpu.resources
  scanouts : gpu'.scanouts = gpu.scanouts

/-- If the call fails, it has changed neither record. -/
def FailsClean (c : ResourceCall) : Prop :=
  ∀ e, (gpu.call host c).1 = .error e → gpu.SameRecords (gpu.call host c).2

/-- The scanout shows a resource of the map. -/
def InUse (i : Fin virtioGpuMaxScanouts) : Prop :=
  ∃ scanout resource, gpu.scanouts i = some scanout ∧ gpu.resources scanout.resourceId = some resource

/-- The call fails when a record is changed already: the scanout is in use, and it is to be disabled
and the backend fails, or it is to show a resource that does not exist; or the resource exists, and
it has a scanout enabled or rutabaga fails. -/
def FailsLate : ResourceCall → Prop
  | .resourceCreate3d _ _ => False
  | .setScanout scanoutId resourceId _ => ∃ i, scanoutId.toNat = i.val ∧ gpu.InUse i ∧
      (resourceId = 0 ∧ (host.setScanout ⟨scanoutId, 0, 0⟩ gpu.host).1 = false ∨
        resourceId ≠ 0 ∧ gpu.resources resourceId = none)
  | .unrefResource resourceId => ∃ resource, gpu.resources resourceId = some resource ∧
      (resource.scanouts.hasAnyEnabled = true ∨ (host.unrefResource resourceId gpu.host).1 = false)

variable {host gpu} {i : Fin virtioGpuMaxScanouts}

theorem SameRecords.refl (gpu : RutabagaVirtioGpu σ) : gpu.SameRecords gpu := ⟨rfl, rfl⟩

/-- What the disabling of the scanout leads to: nothing is done, or the call fails at once, or the
mask of the resource has changed. -/
theorem disableAssigned_cases (gpu : RutabagaVirtioGpu σ) {scanoutId : UInt32}
    (hid : scanoutId.toNat = i.val) :
    ¬ gpu.InUse i ∧ (gpu.disableAssigned scanoutId i = none ∨
      gpu.scanouts i = none ∧ gpu.disableAssigned scanoutId i = some gpu) ∨
    gpu.InUse i ∧ ∃ gpu', gpu.disableAssigned scanoutId i = some gpu' ∧ gpu'.host = gpu.host ∧
      gpu'.scanouts = gpu.scanouts ∧ gpu'.resources ≠ gpu.resources ∧
      ∀ r, gpu'.resources r = none ↔ gpu.resources r = none := by
  unfold disableAssigned
  cases hs : gpu.scanouts i with
  | none =>
    refine .inl ⟨?_, .inr ⟨rfl, rfl⟩⟩
    rintro ⟨scanout, resource, hscanout, -⟩
    cases hs.symm.trans hscanout
  | some scanout =>
    dsimp only
    cases hr : gpu.resources scanout.resourceId with
    | none =>
      refine .inl ⟨?_, .inl rfl⟩
      rintro ⟨scanout', resource, hscanout, hresource⟩
      cases hs.symm.trans hscanout
      cases hr.symm.trans hresource
    | some resource =>
      refine .inr ⟨⟨scanout, resource, hs, hr⟩, _, rfl, rfl, rfl, fun heq => ?_, fun r =>
        insert_eq_none gpu (hr ▸ Option.some_ne_none resource)⟩
      have hlt : scanoutId.toNat < 32 := by
        have := i.isLt
        unfold virtioGpuMaxScanouts at this
        omega
      have hsame := congrFun heq scanout.resourceId
      rw [insert_resources, if_pos rfl, hr] at hsame
      have hmask := congrArg VirtioGpuResource.scanouts (Option.some.inj hsame)
      exact resource.scanouts.disable_ne hlt hmask

/-- `enableAssigned` fails before it changes anything. -/
theorem enableAssigned_cases (gpu : RutabagaVirtioGpu σ) (scanoutId r : UInt32) :
    gpu.resources r = none ∧ gpu.enableAssigned scanoutId i r = (.error .errInvalidResourceId, gpu) ∨
    gpu.resources r ≠ none ∧ (gpu.enableAssigned scanoutId i r).1 = .ok .okNoData := by
  unfold enableAssigned
  cases hr : gpu.resources r with
  | none => exact .inl ⟨rfl, rfl⟩
  | some resource => exact .inr ⟨Option.some_ne_none resource, rfl⟩

/-- On a scanout that is free the call fails before it changes anything. -/
theorem failsClean_setScanout_of_free {scanoutId : UInt32}
    (hid : scanoutId.toNat < virtioGpuMaxScanouts) (hfree : ¬ gpu.InUse ⟨scanoutId.toNat, hid⟩)
    (r : UInt32) (rect : Rectangle) : gpu.FailsClean host (.setScanout scanoutId r rect) := by
  intro e he
  rw [show gpu.call host (.setScanout scanoutId r rect) = _ from dif_pos hid] at he ⊢
  dsimp only at he ⊢
  rcases gpu.disableAssigned_cases (i := ⟨scanoutId.toNat, hid⟩) rfl with
    ⟨-, hnone | ⟨hs, hsame⟩⟩ | ⟨huse, -⟩
  · rw [hnone]
    exact .refl gpu
  · rw [hsame] at he ⊢
    dsimp only at he ⊢
    by_cases hzero : r = 0
    · rw [if_pos hzero]
      refine ⟨rfl, ?_⟩
      -- it is assigned to nothing once more
      show Function.update gpu.scanouts _ none = gpu.scanouts
      rw [← hs, Function.update_eq_self]
    · rw [if_neg hzero, if_pos hs] at he ⊢
      split at he
      case isTrue hok =>
        rw [if_pos hok]
        rcases enableAssigned_cases (gpu.backendSetScanout host scanoutId rect.width rect.height).2
          scanoutId r with ⟨-, hfail⟩ | ⟨-, hfine⟩
        · rw [hfail]
          exact ⟨rfl, rfl⟩
        · rw [hfine] at he
          cases he
      case isFalse hfail =>
        rw [if_neg hfail]
        exact ⟨rfl, rfl⟩
  · exact absurd huse hfree

/-- On a scanout that is in use, a call that fails has changed something. -/
theorem failsClean_setScanout_of_inUse {scanoutId : UInt32}
    (hid : scanoutId.toNat < virtioGpuMaxScanouts) (huse : gpu.InUse ⟨scanoutId.toNat, hid⟩)
    (r : UInt32) (rect : Rectangle) : gpu.FailsClean host (.setScanout scanoutId r rect) ↔
      ¬ (r = 0 ∧ (host.setScanout ⟨scanoutId, 0, 0⟩ gpu.host).1 = false ∨
        r ≠ 0 ∧ gpu.resources r = none) := by
  rcases gpu.disableAssigned_cases (i := ⟨scanoutId.toNat, hid⟩) rfl with
    ⟨hfree, -⟩ | ⟨-, gpu', hdisable, hhost, hscanouts, hne, hmap⟩
  · exact absurd huse hfree
  obtain ⟨scanout, resource, hs, -⟩ := huse
  have hcall : gpu.call host (.setScanout scanoutId r rect) =
      if r = 0 then
        (if (host.setScanout ⟨scanoutId, 0, 0⟩ gpu.host).1 then .ok .okNoData else .error .errUnspec,
          ((gpu'.assign ⟨scanoutId.toNat, hid⟩ none).backendSetScanout host scanoutId 0 0).2)
      else gpu'.enableAssigned scanoutId ⟨scanoutId.toNat, hid⟩ r := by
    rw [show gpu.call host (.setScanout scanoutId r rect) = _ from dif_pos hid]
    dsimp only
    rw [hdisable, ← hhost]
    dsimp only
    rw [if_neg (show gpu'.scanouts _ ≠ none by rw [hscanouts, hs]; exact Option.some_ne_none scanout)]
    rfl
  unfold FailsClean
  rw [hcall]
  by_cases hzero : r = 0
  · rw [if_pos hzero]
    constructor
    · rintro h (⟨-, hfail⟩ | ⟨hnz, -⟩)
      · -- the scanout is assigned to nothing now
        rw [hfail] at h
        have hsame := congrFun (h _ rfl).scanouts ⟨scanoutId.toNat, hid⟩
        have hnone : (gpu'.assign ⟨scanoutId.toNat, hid⟩ none).scanouts
            ⟨scanoutId.toNat, hid⟩ = none := by
          rw [assign_scanouts, if_pos rfl]
        cases hs.symm.trans (hsame.symm.trans hnone)
      · exact hnz hzero
    · intro h e he
      split at he
      case isTrue => cases he
      case isFalse hfail => exact absurd (.inl ⟨hzero, Bool.eq_false_iff.mpr hfail⟩) h
  · rw [if_neg hzero]
    rcases enableAssigned_cases gpu' scanoutId r (i := ⟨scanoutId.toNat, hid⟩) with
      ⟨hmissing, hfail⟩ | ⟨hthere, hfine⟩
    · rw [hfail]
      refine ⟨fun h => absurd (h _ rfl).resources hne, fun h => ?_⟩
      exact absurd (.inr ⟨hzero, (hmap r).mp hmissing⟩) h
    · rw [hfine]
      refine iff_of_true (fun e he => nomatch he) ?_
      rintro (⟨hz, -⟩ | ⟨-, hmissing⟩)
      · exact hzero hz
      · exact hthere ((hmap r).mpr hmissing)

theorem failsClean_resourceCreate3d (r : UInt32) (req : ResourceCreate3D) :
    gpu.FailsClean host (.resourceCreate3d r req) := by
  intro e he
  unfold call resourceCreate3d at he ⊢
  dsimp only at he ⊢
  split at he
  case isTrue => cases he
  case isFalse hfail =>
    rw [if_neg hfail]
    exact ⟨rfl, rfl⟩

/-- An `unref_resource` that fails has removed the resource, if there was one. -/
theorem failsClean_unrefResource (r : UInt32) :
    gpu.FailsClean host (.unrefResource r) ↔ ¬ gpu.FailsLate host (.unrefResource r) := by
  unfold FailsClean call unrefResource FailsLate
  dsimp only
  cases hr : gpu.resources r with
  | none =>
    refine iff_of_true (fun e _ => ⟨?_, rfl⟩) ?_
    · show Function.update gpu.resources r none = gpu.resources
      rw [← hr, Function.update_eq_self]
    · rintro ⟨resource, hresource, -⟩
      cases hresource
  | some resource =>
    have hgone (host' : σ) (h : gpu.SameRecords { gpu.remove r with host := host' }) : False := by
      have hsame : (gpu.remove r).resources r = gpu.resources r := congrFun h.resources r
      rw [remove_resources, if_pos rfl, hr] at hsame
      cases hsame
    dsimp only
    cases hany : resource.scanouts.hasAnyEnabled with
    | true =>
      rw [if_pos rfl]
      exact iff_of_false (fun h => hgone gpu.host (h _ rfl))
        (not_not_intro ⟨resource, rfl, .inl hany⟩)
    | false =>
      rw [if_neg Bool.false_ne_true]
      cases hok : (host.unrefResource r gpu.host).1 with
      | true =>
        refine iff_of_true (fun e he => ?_) ?_
        · rw [show (host.unrefResource r (gpu.remove r).host).1 = true from hok] at he
          cases he
        · rintro ⟨resource', hresource, hany' | hfail⟩
          · cases hresource
            cases hany.symm.trans hany'
          · cases hfail
      | false =>
        refine iff_of_false (fun h => ?_) (not_not_intro ⟨resource, rfl, .inr rfl⟩)
        rw [show (host.unrefResource r (gpu.remove r).host).1 = false from hok] at h
        exact hgone _ (h _ rfl)

end RutabagaVirtioGpu

/-- **Which failed calls change nothing**: all but those that fail late. -/
theorem failed_call_changes_nothing_iff {σ : Type} (host : GpuHost σ) (gpu : RutabagaVirtioGpu σ)
    (c : ResourceCall) : gpu.FailsClean host c ↔ ¬ gpu.FailsLate host c := by
  cases c with
  | resourceCreate3d r req =>
    exact iff_of_true (RutabagaVirtioGpu.failsClean_resourceCreate3d r req) not_false
  | unrefResource r => exact RutabagaVirtioGpu.failsClean_unrefResource r
  | setScanout scanoutId r rect =>
    by_cases hid : scanoutId.toNat < virtioGpuMaxScanouts
    · let i : Fin virtioGpuMaxScanouts := ⟨scanoutId.toNat, hid⟩
      have hlate : gpu.FailsLate host (.setScanout scanoutId r rect) ↔ gpu.InUse i ∧
          (r = 0 ∧ (host.setScanout ⟨scanoutId, 0, 0⟩ gpu.host).1 = false ∨
            r ≠ 0 ∧ gpu.resources r = none) := by
        refine ⟨?_, fun h => ⟨i, rfl, h⟩⟩
        rintro ⟨j, hj, h⟩
        obtain rfl : i = j := Fin.ext hj
        exact h
      rw [hlate]
      by_cases huse : gpu.InUse i
      · rw [RutabagaVirtioGpu.failsClean_setScanout_of_inUse hid huse, and_iff_right huse]
      · exact iff_of_true (RutabagaVirtioGpu.failsClean_setScanout_of_free hid huse r rect)
          fun h => huse h.1
    · have hinvalid : gpu.call host (.setScanout scanoutId r rect) =
          (.error .errInvalidScanoutId, gpu) := dif_neg hid
      refine iff_of_true (fun e _ => ?_) ?_
      · rw [hinvalid]
        exact .refl gpu
      · rintro ⟨i, hi, -⟩
        exact hid (hi ▸ i.isLt)

/-- **Two failed calls that change something**, after resource 1 is shown on scanout 0: scanout 0 is
given resource 7, which does not exist, and the bit of resource 1 is cleared; and resource 1 is
unreferenced, which is refused, and it is gone. -/
theorem failed_calls_change_records :
    (∃ gpu, run (RutabagaVirtioGpu.step listHost) (.new []) oneShown = some gpu ∧
      (gpu.call listHost (.setScanout 0 7 ⟨0, 0, 1280, 720⟩)).1 = .error .errInvalidResourceId ∧
      gpu.shows 1 firstScanout = true ∧
      (gpu.call listHost (.setScanout 0 7 ⟨0, 0, 1280, 720⟩)).2.shows 1 firstScanout = false ∧
      ¬ gpu.FailsClean listHost (.setScanout 0 7 ⟨0, 0, 1280, 720⟩)) ∧
    (∃ gpu, run (RutabagaVirtioGpu.step listHost) (.new []) oneShown = some gpu ∧
      (gpu.call listHost (.unrefResource 1)).1 = .error .errUnspec ∧
      gpu.resources 1 ≠ none ∧ (gpu.call listHost (.unrefResource 1)).2.resources 1 = none ∧
      ¬ gpu.FailsClean listHost (.unrefResource 1)) := by
  constructor
  · refine ⟨_, rfl, rfl, rfl, rfl, fun h => ?_⟩
    have hsame := congrFun (h _ rfl).resources 1
    cases hsame
  · refine ⟨_, rfl, rfl, Option.some_ne_none _, rfl, fun h => ?_⟩
    have hsame := congrFun (h _ rfl).resources 1
    cases hsame

end VirtioPoc.Gpu
