import VirtioPoc.VhostUser.Bitmap

/-!
# Which pages are dirty

`AtomicBitmapMmap::dirty_at`, beside the marking of `Bitmap`.  A bitmap reads the
bits that it marks: the page of an offset, counted from the page of the region's
start, as long as it is one of the tracked pages.

The pages that two regions track do not meet when the regions do not, although
both the start and the length of a region are rounded down.  So what is marked
through one of them is not seen through the other, also where their pages share
a byte of the log.
-/

namespace VirtioPoc.VhostUser

open Base

theorem and_bitMask_ne_zero (w : UInt8) {bit : Nat} (h : bit < 8) :
    w &&& bitMask bit ≠ 0 ↔ w.toNat.testBit bit = true := by
  have hand : (w &&& bitMask bit).toNat = 2 ^ bit * (w.toNat.testBit bit).toNat := by
    rw [UInt8.toNat_and, bitMask_toNat h, Nat.and_two_pow, Nat.mul_comm]
  have hpos : 2 ^ bit ≠ 0 := Nat.ne_of_gt (Nat.two_pow_pos bit)
  rw [ne_eq, ← UInt8.toNat_inj, hand, UInt8.toNat_zero]
  cases w.toNat.testBit bit with
  | false => simp
  | true => simp

namespace AtomicBitmapMmap

variable {b : AtomicBitmapMmap} {log log' : MmapLogReg}

/-- **What `dirty_at` reads**: the bit of the page of the offset, if it is tracked. -/
theorem dirtyAt_spec (hfit : b.Fits log.length) (offset : Nat) :
    b.dirtyAt offset log = some (decide (pageNumber offset < b.numberOfPages) &&
      pageIsSet log (b.pagesBeforeRegion + pageNumber offset)) := by
  unfold dirtyAt
  by_cases hpage : pageNumber offset < b.numberOfPages
  · have hword := hfit _ hpage
    rw [if_neg (Nat.not_le.mpr hpage)]
    dsimp only
    rw [List.getElem?_eq_getElem hword]
    dsimp only
    rw [decide_eq_true hpage, Bool.true_and, pageIsSet, List.getD_eq_getElem?_getD,
      List.getElem?_eq_getElem hword, Option.getD_some, Option.some_inj, Bool.eq_iff_iff,
      decide_eq_true_eq]
    exact and_bitMask_ne_zero _ (pageBit_lt _)
  · rw [if_pos (Nat.le_of_not_lt hpage), decide_eq_false hpage, Bool.false_and]

theorem dirtyAt_eq_true (hfit : b.Fits log.length) (offset : Nat) :
    b.dirtyAt offset log = some true ↔ pageNumber offset < b.numberOfPages ∧
      pageIsSet log (b.pagesBeforeRegion + pageNumber offset) = true := by
  rw [dirtyAt_spec hfit, Option.some_inj, Bool.and_eq_true, decide_eq_true_eq]

/-- Where no tracked page has changed, `dirty_at` has not either. -/
theorem dirtyAt_congr (hfit : b.Fits log.length) (hlen : log'.length = log.length)
    (h : ∀ page, page < b.numberOfPages → (pageIsSet log' (b.pagesBeforeRegion + page) = true ↔
      pageIsSet log (b.pagesBeforeRegion + page) = true)) (offset : Nat) :
    b.dirtyAt offset log' = b.dirtyAt offset log := by
  rw [dirtyAt_spec (hlen ▸ hfit), dirtyAt_spec hfit]
  by_cases hpage : pageNumber offset < b.numberOfPages
  · rw [Bool.eq_iff_iff.mpr (h _ hpage)]
  · rw [decide_eq_false hpage, Bool.false_and, Bool.false_and]

end AtomicBitmapMmap

/-- **The pages of regions that do not meet do not meet.** -/
theorem pages_apart {start₁ len₁ start₂ len₂ p q : Nat}
    (h : start₁ + len₁ ≤ start₂ ∨ start₂ + len₂ ≤ start₁) (hp : p < pageNumber len₁)
    (hq : q < pageNumber len₂) : pageNumber start₁ + p ≠ pageNumber start₂ + q := by
  unfold pageNumber logPageSize at *
  omega

/-- **Marking is exact and stays in the region.**  After `mark_dirty` an offset of the region is dirty
just when it was before, or its page is tracked and lies between the pages of the first and the last
byte of the range; and for a region apart from it nothing has changed. -/
theorem mark_dirty_exact {startAddr len logLen : Nat} {b : AtomicBitmapMmap}
    (hnew : AtomicBitmapMmap.new startAddr len logLen = .ok b) {log : MmapLogReg}
    (hlog : log.length = logLen) (offset n : Nat) :
    ∃ log', b.markDirty offset n log = some log' ∧
      (∀ offset', (b.dirtyAt offset' log').isSome ∧
        (b.dirtyAt offset' log' = some true ↔ b.dirtyAt offset' log = some true ∨
          0 < n ∧ offset' / 4096 < len / 4096 ∧ offset / 4096 ≤ offset' / 4096 ∧
            offset' / 4096 ≤ saturatingAdd offset (n - 1) / 4096)) ∧
      ∀ {startAddr₂ len₂ : Nat} {b₂ : AtomicBitmapMmap},
        AtomicBitmapMmap.new startAddr₂ len₂ logLen = .ok b₂ →
        (startAddr + len ≤ startAddr₂ ∨ startAddr₂ + len₂ ≤ startAddr) →
        ∀ offset', b₂.dirtyAt offset' log' = b₂.dirtyAt offset' log := by
  have hfit : b.Fits log.length := hlog ▸ AtomicBitmapMmap.new_fits hnew
  obtain ⟨log', hmark, hlen, hset⟩ := b.markDirty_spec offset n log hfit
  have hfit' : b.Fits log'.length := hlen ▸ hfit
  obtain ⟨-, -, -, rfl⟩ := AtomicBitmapMmap.new_eq_ok hnew
  refine ⟨log', hmark, fun offset' => ⟨?_, ?_⟩, ?_⟩
  · rw [AtomicBitmapMmap.dirtyAt_spec hfit']
    rfl
  · rw [AtomicBitmapMmap.dirtyAt_eq_true hfit', AtomicBitmapMmap.dirtyAt_eq_true hfit, hset]
    constructor
    · rintro ⟨htracked, hold | ⟨p, hn, hfirst, hlast, hp, heq⟩⟩
      · exact .inl ⟨htracked, hold⟩
      · obtain rfl : pageNumber offset' = p := Nat.add_left_cancel heq
        exact .inr ⟨hn, hp, hfirst, hlast⟩
    · rintro (⟨htracked, hold⟩ | ⟨hn, hp, hfirst, hlast⟩)
      · exact ⟨htracked, .inl hold⟩
      · exact ⟨hp, .inr ⟨_, hn, hfirst, hlast, hp, rfl⟩⟩
  · intro startAddr₂ len₂ b₂ hnew₂ hapart offset'
    have hfit₂ : b₂.Fits log.length := hlog ▸ AtomicBitmapMmap.new_fits hnew₂
    obtain ⟨-, -, -, rfl⟩ := AtomicBitmapMmap.new_eq_ok hnew₂
    refine AtomicBitmapMmap.dirtyAt_congr hfit₂ hlen (fun q hq => ?_) offset'
    rw [hset]
    refine ⟨?_, .inl⟩
    rintro (hold | ⟨p, -, -, -, hp, heq⟩)
    · exact hold
    · exact absurd heq.symm (pages_apart hapart hp hq)

/-- Two regions of a page and a half each: page 1 is marked through the first one, and seen there
only, although the second tracks a page of the same byte. -/
theorem mark_dirty_exact_shared_byte :
    (∃ log', ({ pagesBeforeRegion := 1, numberOfPages := 1 } : AtomicBitmapMmap).markDirty 0xfff 2 [0] =
        some log' ∧
      ({ pagesBeforeRegion := 1, numberOfPages := 1 } : AtomicBitmapMmap).dirtyAt 0 log' = some true ∧
      ({ pagesBeforeRegion := 2, numberOfPages := 1 } : AtomicBitmapMmap).dirtyAt 0 log' =
        some false) := by
  have hfirst : AtomicBitmapMmap.new 0x1000 0x1800 1 = .ok ⟨1, 1⟩ := by decide
  have hsecond : AtomicBitmapMmap.new 0x2800 0x1800 1 = .ok ⟨2, 1⟩ := by decide
  have hlen : ([0] : List UInt8).length = 1 := rfl
  obtain ⟨log', hmark, hown, hother⟩ := mark_dirty_exact hfirst hlen 0xfff 2
  refine ⟨log', hmark, (hown 0).2.mpr (.inr (by decide)), ?_⟩
  rw [hother hsecond (.inl (by decide)) 0]
  decide

end VirtioPoc.VhostUser
