import VirtioPoc.VhostUser.DirtyPages

/-!
# The arithmetic of the dirty log

`Bitmap` computes with natural numbers.  Here the same functions run with
overflow checks: every `+`, `-` and `<<` on `usize` or `u8` that `bitmap.rs`
writes without `checked_` or `saturating_` panics outside its range, and
`none` is that panic or the failed assertion of `MmapLogReg::index`.

`AtomicBitmapMmap::new` only compares the byte of the region's last page with
the length of the log.  The pages that are marked later are sums of two
quotients, and for them this is enough: with `page < len / 4096` the sum
`start / 4096 + page` is at most the page of the region's end.
-/

namespace VirtioPoc.VhostUser

open Base

/-- `1 << bit` on an `AtomicU8`'s word. -/
def checkedShl (bit : Nat) : Option UInt8 := if bit < 8 then some (bitMask bit) else none

theorem checkedShl_pageBit (page : Nat) : checkedShl (pageBit page) = some (bitMask (pageBit page)) :=
  if_pos (pageBit_lt page)

/-- `&self[index]`; `none` is the failed assertion. -/
def MmapLogReg.index (log : MmapLogReg) (index : Nat) : Option UInt8 :=
  if index < log.length then log[index]? else none

namespace AtomicBitmapMmap

/-! ### The functions with overflow checks -/

def checkedNew (startAddr len logLen : Nat) : Option (Except ErrorKind AtomicBitmapMmap) :=
  match ioTryInto startAddr, ioTryInto len with
  | .error e, _ => some (.error e)
  | .ok _, .error e => some (.error e)
  | .ok regionStartAddr, .ok regionLen =>
    if regionLen = 0 then some (.error .invalidData)
    else do
      let last ← checkedSub regionLen 1
      match checkedAdd regionStartAddr last with
      | none => some (.error .invalidData)
      | some regionEndAddr =>
        if logLen ≤ pageWord (pageNumber regionEndAddr) then some (.error .invalidData)
        else some (.ok { pagesBeforeRegion := pageNumber regionStartAddr
                         numberOfPages := pageNumber regionLen })

def checkedMarkPages (b : AtomicBitmapMmap) : Nat → Nat → MmapLogReg → Option MmapLogReg
  | 0, _, log => some log
  | count + 1, page, log =>
    if b.numberOfPages ≤ page then some log -- ignore out of bound access
    else do
      let absolute ← checkedAdd b.pagesBeforeRegion page
      let word ← log.index (pageWord absolute)
      let bit ← checkedShl (pageBit absolute)
      let next ← checkedAdd page 1
      checkedMarkPages b count next (log.set (pageWord absolute) (word ||| bit))

def checkedMarkDirty (b : AtomicBitmapMmap) (offset len : Nat) (log : MmapLogReg) :
    Option MmapLogReg :=
  if len = 0 then some log
  else do
    let firstPage := pageNumber offset
    let last ← checkedSub len 1
    let lastPage := pageNumber (saturatingAdd offset last)
    checkedMarkPages b (lastPage + 1 - firstPage) firstPage log

def checkedDirtyAt (b : AtomicBitmapMmap) (offset : Nat) (log : MmapLogReg) : Option Bool :=
  let page := pageNumber offset
  if b.numberOfPages ≤ page then some false -- ignore out of bound access
  else do
    let absolute ← checkedAdd b.pagesBeforeRegion page
    let word ← log.index (pageWord absolute)
    let bit ← checkedShl (pageBit absolute)
    some (word &&& bit ≠ 0)

/-! ### No check fails -/

theorem checkedNew_eq (startAddr len logLen : Nat) :
    checkedNew startAddr len logLen = some (new startAddr len logLen) := by
  unfold checkedNew new ioTryInto
  by_cases hs : startAddr ≤ wordMax <;> by_cases hl : len ≤ wordMax <;>
    simp only [hs, hl, if_true, if_false, bind, Except.bind, Option.bind]
  by_cases h0 : len = 0
  · simp only [h0, if_true]
  · have hsub : checkedSub len 1 = some (len - 1) := checkedSub_of_le (by omega)
    cases hadd : checkedAdd startAddr (len - 1) with
    | none => simp only [h0, if_false, hsub, hadd]
    | some regionEndAddr =>
      by_cases hlog : logLen ≤ pageWord (pageNumber regionEndAddr)
      · simp only [h0, if_false, hsub, hadd, hlog, if_true]
      · simp only [h0, if_false, hsub, hadd, hlog]

/-- The absolute number of a tracked page, and the page after it, are words. -/
def InRange (b : AtomicBitmapMmap) : Prop :=
  ∀ page, page < b.numberOfPages → b.pagesBeforeRegion + page < wordMax

theorem new_inRange {startAddr len logLen : Nat} {b : AtomicBitmapMmap}
    (h : new startAddr len logLen = .ok b) : b.InRange := by
  obtain ⟨hlen, hend, _, rfl⟩ := new_eq_ok h
  intro page hpage
  simp only [pageNumber, logPageSize, wordMax] at *
  omega

variable {b : AtomicBitmapMmap}

theorem checkedMarkPages_eq (hrange : b.InRange) : ∀ (count page : Nat) (log : MmapLogReg),
    b.checkedMarkPages count page log = b.markPages count page log := by
  intro count
  induction count with
  | zero => exact fun _ _ => rfl
  | succ count ih =>
    intro page log
    rw [checkedMarkPages, markPages]
    by_cases hout : b.numberOfPages ≤ page
    · rw [if_pos hout, if_pos hout]
    · have habs := hrange page (by omega)
      rw [if_neg hout, if_neg hout, checkedAdd_of_le (by omega), checkedAdd_of_le (by omega)]
      simp only [Option.bind_eq_bind, Option.bind_some, checkedShl_pageBit, MmapLogReg.fetchOr]
      by_cases hword : pageWord (b.pagesBeforeRegion + page) < log.length
      · simp only [MmapLogReg.index, hword, if_true, List.getElem?_eq_getElem, Option.bind_some, ih]
      · simp only [MmapLogReg.index, hword, if_false, Option.bind_none,
          List.getElem?_eq_none (Nat.not_lt.mp hword)]

theorem checkedMarkDirty_eq (hrange : b.InRange) (offset len : Nat) (log : MmapLogReg) :
    b.checkedMarkDirty offset len log = b.markDirty offset len log := by
  unfold checkedMarkDirty markDirty
  by_cases h0 : len = 0
  · rw [if_pos h0, if_pos h0]
  · rw [if_neg h0, if_neg h0, checkedSub_of_le (by omega)]
    exact checkedMarkPages_eq hrange _ _ _

theorem checkedDirtyAt_eq (hrange : b.InRange) (offset : Nat) (log : MmapLogReg) :
    b.checkedDirtyAt offset log = b.dirtyAt offset log := by
  unfold checkedDirtyAt dirtyAt
  by_cases hout : b.numberOfPages ≤ pageNumber offset
  · simp only [hout, if_true]
  · have habs := hrange (pageNumber offset) (by omega)
    simp only [hout, if_false, checkedAdd_of_le habs.le, Option.bind_eq_bind, Option.bind_some,
      checkedShl_pageBit]
    by_cases hword : pageWord (b.pagesBeforeRegion + pageNumber offset) < log.length
    · simp only [MmapLogReg.index, hword, if_true, List.getElem?_eq_getElem, Option.bind_some]
    · simp only [MmapLogReg.index, hword, if_false, Option.bind_none,
        List.getElem?_eq_none (Nat.not_lt.mp hword)]

theorem new_past_wordMax {startAddr len logLen : Nat} (h : wordMax < startAddr + (len - 1)) :
    new startAddr len logLen = .error .invalidData := by
  cases hnew : new startAddr len logLen with
  | error e => rfl
  | ok b =>
    have hend := (new_eq_ok hnew).2.1
    omega

/-- **Dirty tracking never leaves the log.**  `new` returns for every start and length, with an
error where the region's end is not an address; and a bitmap that it accepts marks and reads every
range without an overflow and without an index outside of a log of the length it was checked for. -/
theorem dirty_tracking_in_bounds (startAddr len logLen : Nat) :
    checkedNew startAddr len logLen = some (new startAddr len logLen) ∧
      (wordMax < startAddr + (len - 1) → new startAddr len logLen = .error .invalidData) ∧
      ∀ b, new startAddr len logLen = .ok b → ∀ log : MmapLogReg, log.length = logLen →
        ∀ offset n, offset ≤ wordMax → n ≤ wordMax →
          (∃ log', b.checkedMarkDirty offset n log = some log' ∧
            b.markDirty offset n log = some log' ∧ log'.length = logLen) ∧
          ∃ dirty, b.checkedDirtyAt offset log = some dirty ∧ b.dirtyAt offset log = some dirty := by
  refine ⟨checkedNew_eq _ _ _, new_past_wordMax, ?_⟩
  intro b hnew log hlog offset n _ _
  have hrange := new_inRange hnew
  have hfit : b.Fits log.length := hlog ▸ new_fits hnew
  refine ⟨?_, ?_⟩
  · obtain ⟨log', hmark, hlen, _⟩ := b.markDirty_spec offset n log hfit
    exact ⟨log', (checkedMarkDirty_eq hrange _ _ _).trans hmark, hmark, hlen.trans hlog⟩
  · have hdirty := dirtyAt_spec hfit offset
    exact ⟨_, (checkedDirtyAt_eq hrange _ _).trans hdirty, hdirty⟩

/-- A region whose start is in the middle of a page, and the last range there is. -/
theorem dirty_tracking_in_bounds_unaligned :
    new 0x1800 0x1800 1 = .ok { pagesBeforeRegion := 1, numberOfPages := 1 } ∧
      ∃ log', checkedMarkDirty { pagesBeforeRegion := 1, numberOfPages := 1 } wordMax wordMax [0] =
          some log' ∧
        markDirty { pagesBeforeRegion := 1, numberOfPages := 1 } wordMax wordMax [0] = some log' ∧
        log'.length = 1 :=
  have hnew : new 0x1800 0x1800 1 = .ok { pagesBeforeRegion := 1, numberOfPages := 1 } := by decide
  ⟨hnew, ((dirty_tracking_in_bounds 0x1800 0x1800 1).2.2 _ hnew [0] rfl wordMax wordMax
    le_rfl le_rfl).1⟩

end AtomicBitmapMmap

end VirtioPoc.VhostUser
