import VirtioPoc.Gpu.Scanouts
import Mathlib.Data.Finset.Insert
import Mathlib.Data.Finset.Erase

/-!
# The mask of scanouts as a set

`AssociatedScanouts` of `virtio_gpu.rs` beside the finite set of ids it stands
for.  `enable` sets a bit and `disable` flips it, so the mask follows the set as
long as only enabled ids are disabled (`disable_exact_iff`), and not after that.
-/

namespace VirtioPoc.Gpu

open Base

/-! ### Reading the mask -/

/-- `0..VIRTIO_GPU_MAX_SCANOUTS`. -/
def scanoutIds : List UInt32 := (List.range virtioGpuMaxScanouts).map UInt32.ofNat

/-- An id of the table of scanouts. -/
abbrev ScanoutId := { i : UInt32 // i.toNat < virtioGpuMaxScanouts }

theorem mem_scanoutIds {i : UInt32} : i ∈ scanoutIds ↔ i.toNat < virtioGpuMaxScanouts := by
  rw [scanoutIds, List.mem_map]
  constructor
  · rintro ⟨n, hn, rfl⟩
    have hlt : n < virtioGpuMaxScanouts := List.mem_range.mp hn
    have hmax : virtioGpuMaxScanouts < 2 ^ 32 := by decide
    rw [UInt32.toNat_ofNat_of_lt' (show n < UInt32.size by rw [UInt32.size]; omega)]
    exact hlt
  · exact fun h => ⟨i.toNat, List.mem_range.mpr h, UInt32.ofNat_toNat⟩

theorem scanoutIds_increasing : scanoutIds.Pairwise (· < ·) := by
  decide

namespace AssociatedScanouts

def iterEnabled (s : AssociatedScanouts) : List UInt32 :=
  scanoutIds.filter fun i => (s.bits >>> i) &&& 1 == 1

variable {s : AssociatedScanouts}

theorem and_one_eq_one_iff_bit {i : UInt32} (hi : i.toNat < 32) :
    ((s.bits >>> i) &&& 1 == 1) = s.bit i.toNat := by
  rw [bit, Nat.testBit_eq_decide_div_mod_eq, ← Nat.shiftRight_eq_div_pow, ← Nat.and_one_is_mod,
    beq_eq_decide, decide_eq_decide, ← UInt32.toNat_inj, UInt32.toNat_and, UInt32.toNat_shiftRight,
    Nat.mod_eq_of_lt hi]
  rfl

theorem mem_iterEnabled {i : UInt32} :
    i ∈ s.iterEnabled ↔ i.toNat < virtioGpuMaxScanouts ∧ s.bit i.toNat = true := by
  rw [iterEnabled, List.mem_filter, mem_scanoutIds]
  refine and_congr_right fun hi => ?_
  have hmax : virtioGpuMaxScanouts < 32 := by decide
  rw [and_one_eq_one_iff_bit (by omega)]

theorem iterEnabled_increasing (s : AssociatedScanouts) : s.iterEnabled.Pairwise (· < ·) :=
  scanoutIds_increasing.filter _

theorem hasAnyEnabled_iff : s.hasAnyEnabled = true ↔ ∃ i, s.bit i = true := by
  constructor
  · intro h
    have hne : s.bits.toNat ≠ 0 := by
      intro hz
      have hbits : s.bits = 0 := UInt32.toNat_inj.mp hz
      simp [hasAnyEnabled, hbits] at h
    exact Nat.exists_testBit_of_ne_zero hne
  · rintro ⟨i, hi⟩
    cases hany : s.hasAnyEnabled with
    | true => rfl
    | false =>
      rw [bit_of_not_hasAnyEnabled hany] at hi
      cases hi

end AssociatedScanouts

/-- Where the two records of the GPU agree, a resource is flushed to the scanouts it is assigned to. -/
theorem RutabagaVirtioGpu.Agree.mem_iterEnabled {σ : Type} {gpu : RutabagaVirtioGpu σ} {r : UInt32}
    {resource : VirtioGpuResource} (h : gpu.Agree) (hr : gpu.resources r = some resource)
    (i : ScanoutId) :
    i.1 ∈ resource.scanouts.iterEnabled ↔ gpu.scanouts ⟨i.1.toNat, i.2⟩ = some ⟨r⟩ := by
  rw [AssociatedScanouts.mem_iterEnabled, h, shows_of_eq_some hr]
  exact and_iff_right i.2

/-! ### The mask and the set side by side -/

inductive ScanoutCall
  | enable (i : ScanoutId)
  | disable (i : ScanoutId)

/-- A mask, and the set of ids that the calls so far ask for. -/
structure MaskedSet where
  mask : AssociatedScanouts
  ids : Finset UInt32
  deriving DecidableEq

namespace MaskedSet

/-- `AssociatedScanouts::default()`, for the empty set. -/
def start : MaskedSet := ⟨.default, ∅⟩

def call (s : MaskedSet) : ScanoutCall → Option MaskedSet
  | .enable i => some ⟨s.mask.enable i, insert i.1 s.ids⟩
  | .disable i => some ⟨s.mask.disable i, s.ids.erase i.1⟩

/-- **The mask is read as the set**: in increasing order its ids and no others, and some exactly if
the set has any. -/
structure Exact (s : MaskedSet) : Prop where
  increasing : s.mask.iterEnabled.Pairwise (· < ·)
  mem : ∀ i, i ∈ s.mask.iterEnabled ↔ i ∈ s.ids
  any : s.mask.hasAnyEnabled = true ↔ s.ids.Nonempty

/-- Neither side knows ids past the table. -/
structure InTable (s : MaskedSet) : Prop where
  mask : ∀ i, s.mask.bit i = true → i < virtioGpuMaxScanouts
  ids : ∀ i ∈ s.ids, i.toNat < virtioGpuMaxScanouts

variable {s t : MaskedSet} {c : ScanoutCall}

theorem ScanoutId.lt_word (i : ScanoutId) : i.1.toNat < 32 := by
  have hmax : virtioGpuMaxScanouts < 32 := by decide
  have hi := i.2
  omega

/-- Within the table, the mask is read as the set when the bits are the members. -/
theorem InTable.exact_iff (h : s.InTable) :
    s.Exact ↔ ∀ i : ScanoutId, s.mask.bit i.1.toNat = decide (i.1 ∈ s.ids) := by
  constructor
  · rintro hs ⟨i, hi⟩
    rw [Bool.eq_iff_iff, decide_eq_true_iff, ← hs.mem, AssociatedScanouts.mem_iterEnabled]
    exact ⟨fun hbit => ⟨hi, hbit⟩, And.right⟩
  · intro hbits
    have hmem (i : UInt32) : i ∈ s.mask.iterEnabled ↔ i ∈ s.ids := by
      rw [AssociatedScanouts.mem_iterEnabled]
      constructor
      · rintro ⟨hi, hbit⟩
        exact decide_eq_true_iff.mp ((hbits ⟨i, hi⟩).symm.trans hbit)
      · intro hi
        exact ⟨h.ids i hi, (hbits ⟨i, h.ids i hi⟩).trans (decide_eq_true hi)⟩
    refine ⟨s.mask.iterEnabled_increasing, hmem, ?_⟩
    rw [AssociatedScanouts.hasAnyEnabled_iff]
    constructor
    · rintro ⟨n, hn⟩
      have hlt := h.mask n hn
      have hword : n < UInt32.size := hlt.trans (by decide)
      have htoNat : (UInt32.ofNat n).toNat = n := UInt32.toNat_ofNat_of_lt' hword
      refine ⟨UInt32.ofNat n, (hmem _).mp (AssociatedScanouts.mem_iterEnabled.mpr ?_)⟩
      rw [htoNat]
      exact ⟨hlt, hn⟩
    · rintro ⟨i, hi⟩
      exact ⟨i.toNat, (AssociatedScanouts.mem_iterEnabled.mp ((hmem i).mpr hi)).2⟩

theorem inTable_start : start.InTable where
  mask i h := by
    rw [start, AssociatedScanouts.bit_default] at h
    cases h
  ids i h := by simp [start] at h

theorem exact_start : start.Exact :=
  inTable_start.exact_iff.mpr fun i => by
    rw [start, AssociatedScanouts.bit_default]
    rfl

/-- What a call does to bit `j` of the mask. -/
theorem bit_call (h : s.call c = some t) (j : Nat) : t.mask.bit j =
    match c with
    | .enable i => s.mask.bit j || decide (i.1.toNat = j)
    | .disable i => s.mask.bit j ^^ decide (i.1.toNat = j) := by
  cases c with
  | enable i =>
    obtain rfl := Option.some.inj h
    exact AssociatedScanouts.bit_enable _ (ScanoutId.lt_word i) j
  | disable i =>
    obtain rfl := Option.some.inj h
    exact AssociatedScanouts.bit_disable _ (ScanoutId.lt_word i) j

/-- What a call does to the set. -/
theorem mem_call (h : s.call c = some t) (j : UInt32) : j ∈ t.ids ↔
    match c with
    | .enable i => j = i.1 ∨ j ∈ s.ids
    | .disable i => j ≠ i.1 ∧ j ∈ s.ids := by
  cases c with
  | enable i =>
    obtain rfl := Option.some.inj h
    exact Finset.mem_insert
  | disable i =>
    obtain rfl := Option.some.inj h
    exact Finset.mem_erase

theorem InTable.call (hs : s.InTable) (h : s.call c = some t) : t.InTable where
  mask j hj := by
    by_cases hbit : s.mask.bit j = true
    · exact hs.mask j hbit
    · rw [bit_call h, Bool.eq_false_iff.mpr hbit] at hj
      cases c with
      | enable i =>
        obtain rfl : i.1.toNat = j := by simpa using hj
        exact i.2
      | disable i =>
        obtain rfl : i.1.toNat = j := by simpa using hj
        exact i.2
  ids j hj := by
    rw [mem_call h] at hj
    cases c with
    | enable i =>
      rcases hj with rfl | hj
      · exact i.2
      · exact hs.ids j hj
    | disable i => exact hs.ids j hj.2

/-- **The step**: after a call the mask is still read as the set, unless the call disabled an id
that was not enabled. -/
theorem exact_call_iff (hs : s.InTable) (hexact : s.Exact) (h : s.call c = some t) :
    t.Exact ↔ ∀ i, c = .disable i → i.1 ∈ s.ids := by
  rw [(hs.call h).exact_iff]
  have hbits := hs.exact_iff.mp hexact
  cases c with
  | enable i =>
    refine ⟨fun _ i h => (nomatch h), fun _ j => ?_⟩
    rw [bit_call h, hbits j, Bool.eq_iff_iff, decide_eq_true_iff, mem_call h]
    simp only [Bool.or_eq_true, decide_eq_true_iff, UInt32.toNat_inj]
    rw [or_comm, eq_comm]
  | disable i =>
    constructor
    · intro hexact' j hj
      obtain rfl : i = j := ScanoutCall.disable.inj hj
      have hi := hexact' i
      rw [bit_call h, hbits i, Bool.eq_iff_iff, decide_eq_true_iff, mem_call h] at hi
      simpa using hi
    · intro hmem j
      have hi : i.1 ∈ s.ids := hmem i rfl
      rw [bit_call h, hbits j, Bool.eq_iff_iff, decide_eq_true_iff, mem_call h]
      by_cases hj : j.1 = i.1
      · simp [hj, hi]
      · have hne : i.1.toNat ≠ j.1.toNat := fun he => hj (UInt32.toNat_inj.mp he).symm
        simp [hj, hne]

/-- **The mask of scanouts is a set while only enabled ids are disabled.**  The states of a list of
calls are all read as the set of the calls exactly if each `disable` is of an id that is enabled. -/
theorem disable_exact_iff (calls : List ScanoutCall) :
    (∀ n t, run call start (calls.take n) = some t → t.Exact) ↔
      Along call (fun s c => ∀ i, c = .disable i → i.1 ∈ s.ids) start calls := by
  refine forall_prefix_iff_along (I := InTable) (P := Exact) (fun s c t hs h => hs.call h)
    (fun s c t hs hexact h => exact_call_iff hs hexact h) calls start inTable_start exact_start ?_
  have hall (cs : List ScanoutCall) : ∀ s, (run call s cs).isSome := by
    induction cs with
    | nil => exact fun _ => rfl
    | cons c cs ih =>
      intro s
      rw [run]
      cases c with
      | enable i => exact ih _
      | disable i => exact ih _
  exact hall calls start

/-- Disabling scanout 1 of the empty mask enables it. -/
theorem disable_of_empty_enables :
    ¬ ∀ (calls : List ScanoutCall) (t : MaskedSet), run call start calls = some t → t.Exact := by
  intro h
  have hexact := h [.disable ⟨1, by decide⟩] ⟨⟨2⟩, ∅⟩ (by decide)
  have hmem : (1 : UInt32) ∈ (∅ : Finset UInt32) := (hexact.mem 1).mp (by decide)
  simp at hmem

end MaskedSet

end VirtioPoc.Gpu
