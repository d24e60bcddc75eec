import VirtioPoc.Base.Run
import VirtioPoc.VhostUser.DirtyPages

/-!
# Slices of a bitmap

`slice_at` of `BitmapMmapRegion`.  A slice shares the inner bitmap with the
region it was taken from and has a base address of its own, so a region and its
slices are handles on one `SharedBitmap`, and `replace` through one of them is
seen by all.

Three operations, three answers to an overflow: `slice_at` and `dirty_at`
saturate, `mark_dirty` checks and gives up.  They agree because the page of
`usize::MAX` is never tracked: a region has at most `usize::MAX / 4096` pages,
and pages count from zero.
-/

namespace VirtioPoc.VhostUser

open Base

theorem saturatingAdd_assoc (a b c : Nat) :
    saturatingAdd (saturatingAdd a b) c = saturatingAdd a (b + c) := by
  unfold saturatingAdd
  omega

namespace AtomicBitmapMmap

variable {b : AtomicBitmapMmap} {log : MmapLogReg}

theorem markDirty_untracked {offset : Nat} (h : b.numberOfPages ≤ pageNumber offset) (len : Nat) :
    b.markDirty offset len log = some log := by
  unfold markDirty
  by_cases h0 : len = 0
  · rw [if_pos h0]
  · rw [if_neg h0]
    dsimp only
    cases pageNumber (saturatingAdd offset (len - 1)) + 1 - pageNumber offset with
    | zero => rfl
    | succ count => rw [markPages, if_pos h]

theorem dirtyAt_untracked {offset : Nat} (h : b.numberOfPages ≤ pageNumber offset) :
    b.dirtyAt offset log = some false := if_pos h

theorem new_len_le {startAddr len logLen : Nat} (h : new startAddr len logLen = .ok b) :
    len ≤ wordMax := by
  unfold new ioTryInto at h
  by_contra hlen
  rw [if_neg hlen] at h
  by_cases hstart : startAddr ≤ wordMax
  · rw [if_pos hstart] at h
    cases h
  · rw [if_neg hstart] at h
    cases h

theorem wordMax_untracked {startAddr len logLen : Nat} (h : new startAddr len logLen = .ok b) :
    b.numberOfPages ≤ pageNumber wordMax := by
  have hlen := new_len_le h
  obtain ⟨-, -, -, rfl⟩ := new_eq_ok h
  exact Nat.div_le_div_right hlen

end AtomicBitmapMmap

/-! ### One operation on a slice -/

/-- The inner bitmap was made by `AtomicBitmapMmap::new` for its log. -/
def SharedBitmap.Built (s : SharedBitmap) : Prop :=
  ∀ b, s.inner = some b → ∃ startAddr len, AtomicBitmapMmap.new startAddr len s.log.length = .ok b

namespace BitmapMmapRegion

def dirtyAt (r : BitmapMmapRegion) (offset : Nat) (s : SharedBitmap) : Option Bool :=
  match s.inner with
  | none => some false
  | some bitmap => bitmap.dirtyAt (saturatingAdd r.baseAddress offset) s.log

/-- The slice; its `inner` is the one of `r`. -/
def sliceAt (r : BitmapMmapRegion) (offset : Nat) : BitmapMmapRegion :=
  { baseAddress := saturatingAdd r.baseAddress offset }

variable {r : BitmapMmapRegion} {s : SharedBitmap}

theorem sliceAt_sliceAt (a b : Nat) : (r.sliceAt a).sliceAt b = r.sliceAt (a + b) := by
  simp only [sliceAt, saturatingAdd_assoc]

theorem sliceAt_zero (h : r.baseAddress ≤ wordMax) : r.sliceAt 0 = r := by
  cases r
  simp only [sliceAt, mk.injEq]
  exact saturatingAdd_of_le h

/-- Where a handle of base address `B + a` marks, if it marks at all. -/
theorem checkedAdd_slice (B a o : Nat) :
    (B + (a + o) ≤ wordMax ∧ checkedAdd (saturatingAdd B a) o = some (B + (a + o))) ∨
      wordMax < B + (a + o) ∧ (checkedAdd (saturatingAdd B a) o = none ∨
        checkedAdd (saturatingAdd B a) o = some wordMax) := by
  by_cases h : B + (a + o) ≤ wordMax
  · refine .inl ⟨h, ?_⟩
    rw [saturatingAdd_of_le (by omega), checkedAdd_of_le (by omega), Nat.add_assoc]
  · refine .inr ⟨by omega, ?_⟩
    cases hadd : checkedAdd (saturatingAdd B a) o with
    | none => exact .inl rfl
    | some c =>
      -- only a saturated base and offset zero get through
      obtain ⟨hle, hc⟩ := checkedAdd_eq_some.mp hadd
      unfold saturatingAdd at hle hc
      exact .inr (congrArg some (by omega))

/-- **Marking through a slice** is marking the original at the sum of the offsets, and nothing where
the sum is no offset. -/
theorem markDirty_sliceAt (hs : s.Built) (a o n : Nat) :
    (r.sliceAt a).markDirty o n s =
      if a + o ≤ wordMax then r.markDirty (a + o) n s else some s := by
  unfold markDirty sliceAt
  cases hinner : s.inner with
  | none => simp only [ite_self]
  | some b =>
    obtain ⟨startAddr, len, hnew⟩ := hs b hinner
    have hmax : b.markDirty wordMax n s.log = some s.log :=
      AtomicBitmapMmap.markDirty_untracked (AtomicBitmapMmap.wordMax_untracked hnew) n
    dsimp only
    rcases checkedAdd_slice r.baseAddress a o with ⟨hle, hadd⟩ | ⟨hlt, hadd⟩
    · rw [hadd, if_pos (by omega), checkedAdd_of_le hle]
    · have hnone : checkedAdd r.baseAddress (a + o) = none := if_neg (by omega)
      rcases hadd with hadd | hadd
      · simp only [hadd, hnone, ite_self]
      · simp only [hadd, hnone, hmax, ite_self]
        rw [← hinner]

theorem dirtyAt_sliceAt (hs : s.Built) (a o : Nat) :
    (r.sliceAt a).dirtyAt o s =
      if a + o ≤ wordMax then r.dirtyAt (a + o) s else some false := by
  unfold dirtyAt sliceAt
  cases hinner : s.inner with
  | none => simp only [ite_self]
  | some b =>
    obtain ⟨startAddr, len, hnew⟩ := hs b hinner
    dsimp only
    rw [saturatingAdd_assoc]
    by_cases hle : a + o ≤ wordMax
    · rw [if_pos hle]
    · have hmax : saturatingAdd r.baseAddress (a + o) = wordMax := Nat.min_eq_right (by omega)
      rw [if_neg hle, hmax,
        AtomicBitmapMmap.dirtyAt_untracked (AtomicBitmapMmap.wordMax_untracked hnew)]

/-- Marking a built bitmap does not panic and leaves a built bitmap. -/
theorem markDirty_built (hs : s.Built) (o n : Nat) :
    ∃ s', r.markDirty o n s = some s' ∧ s'.Built ∧ s'.inner = s.inner ∧
      s'.log.length = s.log.length := by
  unfold markDirty
  cases hinner : s.inner with
  | none => exact ⟨s, rfl, hs, hinner, rfl⟩
  | some b =>
    dsimp only
    cases checkedAdd r.baseAddress o with
    | none => exact ⟨s, rfl, hs, hinner, rfl⟩
    | some absoluteOffset =>
      obtain ⟨startAddr, len, hnew⟩ := hs b hinner
      obtain ⟨log', hmark, hlen, _⟩ :=
        b.markDirty_spec absoluteOffset n s.log (AtomicBitmapMmap.new_fits hnew)
      refine ⟨{ s with log := log' }, by simp only [hmark, hinner], ?_, hinner, hlen⟩
      intro b' hb'
      dsimp only
      rw [hlen]
      exact hs b' hb'

theorem dirtyAt_built (hs : s.Built) (o : Nat) : ∃ dirty, r.dirtyAt o s = some dirty := by
  unfold dirtyAt
  cases hinner : s.inner with
  | none => exact ⟨false, rfl⟩
  | some b =>
    obtain ⟨startAddr, len, hnew⟩ := hs b hinner
    exact ⟨_, AtomicBitmapMmap.dirtyAt_spec (AtomicBitmapMmap.new_fits hnew) _⟩

end BitmapMmapRegion

/-! ### A region, its slices and their logs -/

/-- The logs that are mapped, and the inner bitmap with the log it marks. -/
structure Bitmaps where
  logs : List MmapLogReg
  inner : Option (Nat × AtomicBitmapMmap)
  deriving DecidableEq, Repr

namespace Bitmaps

/-- What the handles share at the moment. -/
def shared (s : Bitmaps) : SharedBitmap :=
  match s.inner with
  | none => { inner := none, log := [] }
  | some (i, b) => { inner := some b, log := s.logs.getD i [] }

def setLog (s : Bitmaps) (log : MmapLogReg) : Bitmaps :=
  match s.inner with
  | none => s
  | some (i, _) => { s with logs := s.logs.set i log }

/-- `replace` by the bitmap that `AtomicBitmapMmap::new` makes for a region and the log `i`; where
it makes none, there is nothing to replace by. -/
def replace (s : Bitmaps) (i startAddr len : Nat) : Bitmaps :=
  match AtomicBitmapMmap.new startAddr len (s.logs.getD i []).length with
  | .error _ => s
  | .ok b => { s with inner := some (i, b) }

theorem shared_setLog {s : Bitmaps} {log : MmapLogReg} (hlen : log.length = s.shared.log.length) :
    (s.setLog log).shared = { inner := s.shared.inner, log := log } := by
  obtain ⟨logs, _ | ⟨i, b⟩⟩ := s
  · obtain rfl : log = [] := List.length_eq_zero_iff.mp hlen
    rfl
  · have hlen' : log.length = (logs.getD i []).length := hlen
    simp only [shared, setLog, SharedBitmap.mk.injEq, true_and, List.getD_eq_getElem?_getD] at *
    by_cases hi : i < logs.length
    · simp only [List.getElem?_set_self hi, Option.getD_some]
    · rw [List.getElem?_eq_none (by simpa using hi)] at *
      exact (List.length_eq_zero_iff.mp hlen').symm

theorem shared_replace_built {s : Bitmaps} (hs : s.shared.Built) (i startAddr len : Nat) :
    (s.replace i startAddr len).shared.Built := by
  unfold replace
  cases hnew : AtomicBitmapMmap.new startAddr len (s.logs.getD i []).length with
  | error e => exact hs
  | ok b =>
    rintro b' ⟨⟩
    exact ⟨startAddr, len, hnew⟩

end Bitmaps

/-- What is done through a handle. -/
inductive BitmapOp
  | sliceAt (offset : Nat)
  | replace (i startAddr len : Nat)
  | markDirty (offset len : Nat)
  | dirtyAt (offset : Nat)
  deriving DecidableEq, Repr

/-- The operations of a handle of type `H`. -/
structure HandleOps (H : Type) where
  sliceAt : H → Nat → H
  markDirty : H → Nat → Nat → SharedBitmap → Option SharedBitmap
  dirtyAt : H → Nat → SharedBitmap → Option Bool

/-- The handles are numbered in the order they were made. -/
structure SliceState (H : Type) where
  bitmaps : Bitmaps
  handles : List H
  answers : List Bool
  deriving DecidableEq, Repr

/-- One operation through the handle `h`; `none` is a panic. -/
def handleStep {H : Type} (ops : HandleOps H) (s : SliceState H) (h : H) :
    BitmapOp → Option (SliceState H)
  | .sliceAt offset => some { s with handles := s.handles ++ [ops.sliceAt h offset] }
  | .replace i startAddr len => some { s with bitmaps := s.bitmaps.replace i startAddr len }
  | .markDirty offset len =>
    (ops.markDirty h offset len s.bitmaps.shared).map fun shared =>
      { s with bitmaps := s.bitmaps.setLog shared.log }
  | .dirtyAt offset =>
    (ops.dirtyAt h offset s.bitmaps.shared).map fun dirty =>
      { s with answers := s.answers ++ [dirty] }

theorem handleStep_markDirty {H : Type} {ops : HandleOps H} {s : SliceState H} {h : H}
    {offset len : Nat} {shared : SharedBitmap}
    (hmark : ops.markDirty h offset len s.bitmaps.shared = some shared) :
    handleStep ops s h (.markDirty offset len) =
      some { s with bitmaps := s.bitmaps.setLog shared.log } := by
  rw [handleStep, hmark, Option.map_some]

theorem handleStep_dirtyAt {H : Type} {ops : HandleOps H} {s : SliceState H} {h : H}
    {offset : Nat} {dirty : Bool} (hdirty : ops.dirtyAt h offset s.bitmaps.shared = some dirty) :
    handleStep ops s h (.dirtyAt offset) = some { s with answers := s.answers ++ [dirty] } := by
  rw [handleStep, hdirty, Option.map_some]

/-- An operation through the `k`-th handle; one that was not made does nothing. -/
def sliceStep {H : Type} (ops : HandleOps H) (s : SliceState H) (op : Nat × BitmapOp) :
    Option (SliceState H) :=
  match s.handles[op.1]? with
  | none => some s
  | some h => handleStep ops s h op.2

def BitmapMmapRegion.ops : HandleOps BitmapMmapRegion where
  sliceAt := BitmapMmapRegion.sliceAt
  markDirty := BitmapMmapRegion.markDirty
  dirtyAt := BitmapMmapRegion.dirtyAt

/-- A handle is the sum of its offsets, and everything goes through the original region. -/
def throughOriginal (original : BitmapMmapRegion) : HandleOps Nat where
  sliceAt sum offset := sum + offset
  markDirty sum offset len s :=
    if sum + offset ≤ wordMax then original.markDirty (sum + offset) len s else some s
  dirtyAt sum offset s :=
    if sum + offset ≤ wordMax then original.dirtyAt (sum + offset) s else some false

/-! ### Every run on slices is a run on the original -/

structure SliceRel (original : BitmapMmapRegion) (s : SliceState BitmapMmapRegion)
    (t : SliceState Nat) : Prop where
  bitmaps : s.bitmaps = t.bitmaps
  answers : s.answers = t.answers
  handles : s.handles = t.handles.map original.sliceAt
  built : s.bitmaps.shared.Built

variable {original : BitmapMmapRegion} {s : SliceState BitmapMmapRegion} {t : SliceState Nat}

theorem handleStep_rel (h : SliceRel original s t) (sum : Nat) (op : BitmapOp) :
    ∃ s' t', handleStep BitmapMmapRegion.ops s (original.sliceAt sum) op = some s' ∧
      handleStep (throughOriginal original) t sum op = some t' ∧ SliceRel original s' t' := by
  obtain ⟨hbitmaps, hanswers, hhandles, hbuilt⟩ := h
  cases op with
  | sliceAt offset =>
    refine ⟨_, _, rfl, rfl, hbitmaps, hanswers, ?_, hbuilt⟩
    simp only [BitmapMmapRegion.ops, throughOriginal, hhandles, List.map_append, List.map_cons,
      List.map_nil, BitmapMmapRegion.sliceAt_sliceAt]
  | replace i startAddr len =>
    exact ⟨_, _, rfl, rfl, by rw [hbitmaps], hanswers, hhandles,
      Bitmaps.shared_replace_built hbuilt i startAddr len⟩
  | markDirty offset len =>
    obtain ⟨shared, hmark, hbuilt', hinner, hlen⟩ :=
      BitmapMmapRegion.markDirty_built (r := original.sliceAt sum) hbuilt offset len
    have hthrough : (throughOriginal original).markDirty sum offset len t.bitmaps.shared =
        some shared := by
      rw [← hbitmaps, ← hmark]
      exact (BitmapMmapRegion.markDirty_sliceAt hbuilt sum offset len).symm
    refine ⟨_, _, handleStep_markDirty hmark, handleStep_markDirty hthrough, by rw [hbitmaps],
      hanswers, hhandles, ?_⟩
    dsimp only
    rw [Bitmaps.shared_setLog hlen, ← hinner]
    exact hbuilt'
  | dirtyAt offset =>
    obtain ⟨dirty, hdirty⟩ :=
      BitmapMmapRegion.dirtyAt_built (r := original.sliceAt sum) hbuilt offset
    have hthrough : (throughOriginal original).dirtyAt sum offset t.bitmaps.shared = some dirty := by
      rw [← hbitmaps, ← hdirty]
      exact (BitmapMmapRegion.dirtyAt_sliceAt hbuilt sum offset).symm
    exact ⟨_, _, handleStep_dirtyAt hdirty, handleStep_dirtyAt hthrough, hbitmaps,
      by rw [hanswers], hhandles, hbuilt⟩

theorem sliceStep_rel (op : Nat × BitmapOp) (h : SliceRel original s t) :
    ∃ s' t', sliceStep BitmapMmapRegion.ops s op = some s' ∧
      sliceStep (throughOriginal original) t op = some t' ∧ SliceRel original s' t' := by
  unfold sliceStep
  rw [h.handles, List.getElem?_map]
  cases t.handles[op.1]? with
  | none => exact ⟨s, t, rfl, rfl, h⟩
  | some sum => exact handleStep_rel h sum op.2

/-- **Slices compose.**  Whatever is done with a region and its slices, of any depth and with
replacements in between, leaves the same logs and the same inner bitmap and gives the same answers
as the run in which a slice is the sum of its offsets: an operation at an offset of the slice is the
operation of the original region at the sum, and where the sum is no offset nothing is marked and
the answer is clean. -/
theorem slices_act_on_original (original : BitmapMmapRegion) (hbase : original.baseAddress ≤ wordMax)
    (bitmaps : Bitmaps) (hbuilt : bitmaps.shared.Built) (ops : List (Nat × BitmapOp)) :
    ∃ s t, run (sliceStep BitmapMmapRegion.ops) ⟨bitmaps, [original], []⟩ ops = some s ∧
      run (sliceStep (throughOriginal original)) ⟨bitmaps, [0], []⟩ ops = some t ∧
      s.bitmaps = t.bitmaps ∧ s.answers = t.answers ∧
      s.handles = t.handles.map original.sliceAt := by
  have hstart : SliceRel original ⟨bitmaps, [original], []⟩ ⟨bitmaps, [0], []⟩ := by
    refine ⟨rfl, rfl, ?_, hbuilt⟩
    simp only [List.map_cons, List.map_nil, BitmapMmapRegion.sliceAt_zero hbase]
  obtain ⟨s, t, hs, ht, hrel⟩ := run_lockstep (fun _ _ op h => sliceStep_rel op h) ops _ _ hstart
  exact ⟨s, t, hs, ht, hrel.bitmaps, hrel.answers, hrel.handles⟩

/-- A slice of a slice whose offsets add up past the last address, and a replacement after both were
taken. -/
theorem slices_act_on_original_overflow :
    ∃ (s : SliceState BitmapMmapRegion) (t : SliceState Nat),
      run (sliceStep BitmapMmapRegion.ops) ⟨⟨[[0]], none⟩, [.default], []⟩
        [(0, .sliceAt 0x1000), (1, .sliceAt wordMax), (0, .replace 0 0 0x3000),
          (1, .markDirty 0x1000 1), (2, .markDirty 0 1), (0, .dirtyAt 0x2000), (2, .dirtyAt 0)] =
        some s ∧
      s.bitmaps.logs = [[4]] ∧ s.answers = [true, false] ∧ s.answers = t.answers ∧
      t.handles = [0, 0x1000, 0x1000 + wordMax] := by
  have hbuilt : (⟨[[0]], none⟩ : Bitmaps).shared.Built := by
    rintro b ⟨⟩
  obtain ⟨s, t, hs, ht, _, hanswers, _⟩ := slices_act_on_original .default (by decide)
    ⟨[[0]], none⟩ hbuilt
    [(0, .sliceAt 0x1000), (1, .sliceAt wordMax), (0, .replace 0 0 0x3000),
      (1, .markDirty 0x1000 1), (2, .markDirty 0 1), (0, .dirtyAt 0x2000), (2, .dirtyAt 0)]
  have hs' := congrArg (Option.map fun s => (s.bitmaps.logs, s.answers)) hs
  have ht' := congrArg (Option.map fun t => t.handles) ht
  obtain ⟨hlogs, hans⟩ := Prod.mk.inj (Option.some.inj hs')
  exact ⟨s, t, hs, hlogs.symm, hans.symm, hanswers, (Option.some.inj ht').symm⟩

end VirtioPoc.VhostUser
