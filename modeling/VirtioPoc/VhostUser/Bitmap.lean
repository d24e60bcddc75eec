import VirtioPoc.Base.Word
import Mathlib.Data.Nat.Bitwise
import Mathlib.Tactic.Common

/-!
# The dirty log of a memory region

`vhost-user/src/bitmap.rs`.  The frontend maps one log for the whole guest
memory, a bit for each page of `LOG_PAGE_SIZE` bytes; `AtomicBitmapMmap` is the
part of that log a memory region marks, `BitmapMmapRegion` the bitmap
`vm-memory` sees, whose inner bitmap arrives with `SET_LOG_BASE`.

`AtomicBitmapMmap.markDirty_spec` says what marking does to every bit of the
log.  The page a byte is marked under is the sum of two quotients, the page of
the region's start and the page of the offset, and the number of tracked pages
is a third one; `logsEveryWrite_iff` says for which regions that is the page the
byte lies on.
-/

namespace VirtioPoc.VhostUser

open Base

def logPageSize : Nat := 0x1000
def logWordSize : Nat := 8

def pageNumber (addr : Nat) : Nat := addr / logPageSize
def pageWord (page : Nat) : Nat := page / logWordSize
def pageBit (page : Nat) : Nat := page % logWordSize

/-- The `io::ErrorKind` that `AtomicBitmapMmap::new` fails with. -/
inductive ErrorKind
  | invalidData
  deriving DecidableEq, Repr

/-- `io_try_into` from `u64` to `usize`. -/
def ioTryInto (n : Nat) : Except ErrorKind Nat :=
  if n ≤ wordMax then .ok n else .error .invalidData

/-! ### The log -/

/-- `MmapLogReg`, read as the bytes it maps. -/
abbrev MmapLogReg := List UInt8

/-- `self.logmem[index].fetch_or(bits)`; `none` is the failed assertion of `index`. -/
def MmapLogReg.fetchOr (log : MmapLogReg) (index : Nat) (bits : UInt8) : Option MmapLogReg :=
  match log[index]? with
  | none => none
  | some w => some (log.set index (w ||| bits))

/-- The bit the frontend reads for a guest page. -/
def pageIsSet (log : MmapLogReg) (page : Nat) : Bool :=
  (log.getD (pageWord page) 0).toNat.testBit (pageBit page)

def bitMask (bit : Nat) : UInt8 := 1 <<< UInt8.ofNat bit

theorem bitMask_toNat {bit : Nat} (h : bit < 8) : (bitMask bit).toNat = 2 ^ bit := by
  have hcases :
      bit = 0 ∨ bit = 1 ∨ bit = 2 ∨ bit = 3 ∨ bit = 4 ∨ bit = 5 ∨ bit = 6 ∨ bit = 7 := by
    omega
  rcases hcases with rfl | rfl | rfl | rfl | rfl | rfl | rfl | rfl <;> rfl

theorem pageBit_lt (page : Nat) : pageBit page < 8 := Nat.mod_lt _ (by decide)

theorem page_eq_iff (p q : Nat) : p = q ↔ pageWord p = pageWord q ∧ pageBit p = pageBit q := by
  unfold pageWord pageBit logWordSize
  omega

/-- A fresh log is clean. -/
theorem pageIsSet_replicate (n page : Nat) : pageIsSet (List.replicate n 0) page = false := by
  unfold pageIsSet
  rw [List.getD_eq_getElem?_getD, List.getElem?_replicate]
  split <;> exact Nat.zero_testBit _

/-- **Or-ing the bit of a page sets that page and no other.** -/
theorem fetchOr_page {log : MmapLogReg} {p : Nat} (h : pageWord p < log.length) :
    ∃ log', log.fetchOr (pageWord p) (bitMask (pageBit p)) = some log' ∧
      log'.length = log.length ∧
      ∀ q, pageIsSet log' q = true ↔ q = p ∨ pageIsSet log q = true := by
  refine ⟨log.set (pageWord p) (log[pageWord p] ||| bitMask (pageBit p)), ?_, by simp, ?_⟩
  · simp only [MmapLogReg.fetchOr, List.getElem?_eq_getElem h]
  · intro q
    unfold pageIsSet
    by_cases hw : pageWord p = pageWord q
    · have hq : pageWord q < log.length := hw ▸ h
      have hset : (log.set (pageWord p) (log[pageWord p] ||| bitMask (pageBit p))).getD
          (pageWord q) 0 = log[pageWord q] ||| bitMask (pageBit p) := by
        simp [List.getD_eq_getElem?_getD, hw, hq]
      have hold : log.getD (pageWord q) 0 = log[pageWord q] := by
        simp [List.getD_eq_getElem?_getD, hq]
      rw [hset, hold, UInt8.toNat_or, Nat.testBit_or, bitMask_toNat (pageBit_lt p),
        Nat.testBit_two_pow, Bool.or_eq_true, decide_eq_true_eq, page_eq_iff q p]
      tauto
    · have hset : (log.set (pageWord p) (log[pageWord p] ||| bitMask (pageBit p))).getD
          (pageWord q) 0 = log.getD (pageWord q) 0 := by
        simp [List.getD_eq_getElem?_getD, hw]
      rw [hset, page_eq_iff q p]
      tauto

/-! ### The bitmap of a region -/

/-- `AtomicBitmapMmap` without its `logmem`, which the operations take and return. -/
structure AtomicBitmapMmap where
  pagesBeforeRegion : Nat
  numberOfPages : Nat
  deriving DecidableEq, Repr

namespace AtomicBitmapMmap

/-- `MemRegionBitmap::new` for a region `startAddr`, `len` and a log of `logLen` bytes. -/
def new (startAddr len logLen : Nat) : Except ErrorKind AtomicBitmapMmap := do
  let regionStartAddr ← ioTryInto startAddr
  let regionLen ← ioTryInto len
  if regionLen = 0 then .error .invalidData
  else
    match checkedAdd regionStartAddr (regionLen - 1) with
    | none => .error .invalidData
    | some regionEndAddr =>
      -- the log has to cover the page of the region's last byte
      if logLen ≤ pageWord (pageNumber regionEndAddr) then .error .invalidData
      else .ok { pagesBeforeRegion := pageNumber regionStartAddr
                 numberOfPages := pageNumber regionLen }

/-- The loop of `mark_dirty` over `count` pages from `page` on. -/
def markPages (b : AtomicBitmapMmap) : Nat → Nat → MmapLogReg → Option MmapLogReg
  | 0, _, log => some log
  | count + 1, page, log =>
    if b.numberOfPages ≤ page then some log -- ignore out of bound access
    else
      let absolute := b.pagesBeforeRegion + page
      match log.fetchOr (pageWord absolute) (bitMask (pageBit absolute)) with
      | none => none
      | some log' => markPages b count (page + 1) log'

def markDirty (b : AtomicBitmapMmap) (offset len : Nat) (log : MmapLogReg) : Option MmapLogReg :=
  if len = 0 then some log
  else
    let firstPage := pageNumber offset
    let lastPage := pageNumber (saturatingAdd offset (len - 1))
    b.markPages (lastPage + 1 - firstPage) firstPage log

/-- `none` is the failed assertion of `index`. -/
def dirtyAt (b : AtomicBitmapMmap) (offset : Nat) (log : MmapLogReg) : Option Bool :=
  let page := pageNumber offset
  if b.numberOfPages ≤ page then some false -- ignore out of bound access
  else
    let absolute := b.pagesBeforeRegion + page
    match log[pageWord absolute]? with
    | none => none
    | some w => some (w &&& bitMask (pageBit absolute) ≠ 0)

/-- Every page the bitmap tracks has its bit inside the log. -/
def Fits (b : AtomicBitmapMmap) (logLen : Nat) : Prop :=
  ∀ page, page < b.numberOfPages → pageWord (b.pagesBeforeRegion + page) < logLen

theorem new_eq_ok {startAddr len logLen : Nat} {b : AtomicBitmapMmap}
    (h : new startAddr len logLen = .ok b) :
    0 < len ∧ startAddr + (len - 1) ≤ wordMax ∧
      pageWord (pageNumber (startAddr + (len - 1))) < logLen ∧
      b = { pagesBeforeRegion := pageNumber startAddr, numberOfPages := pageNumber len } := by
  unfold new ioTryInto at h
  split at h
  case isFalse => cases h
  split at h
  case isFalse => cases h
  simp only [bind, Except.bind] at h
  split at h
  case isTrue => cases h
  rename_i hlen
  cases hadd : checkedAdd startAddr (len - 1) with
  | none => rw [hadd] at h; cases h
  | some e =>
    rw [hadd] at h
    obtain ⟨hle, rfl⟩ := checkedAdd_eq_some.mp hadd
    simp only at h
    split at h
    case isTrue => cases h
    rename_i hlog
    refine ⟨by omega, hle, by omega, ?_⟩
    cases h
    rfl

/-- A bitmap that `new` accepts never indexes past the log. -/
theorem new_fits {startAddr len logLen : Nat} {b : AtomicBitmapMmap}
    (h : new startAddr len logLen = .ok b) : b.Fits logLen := by
  obtain ⟨hlen, _, hlog, rfl⟩ := new_eq_ok h
  intro page hpage
  simp only [pageWord, pageNumber, logPageSize, logWordSize] at *
  omega

/-! ### What marking does to the log -/

/-- **The page loop** sets the tracked pages of its range and nothing else. -/
theorem markPages_spec (b : AtomicBitmapMmap) : ∀ (count page : Nat) (log : MmapLogReg),
    b.Fits log.length → ∃ log', b.markPages count page log = some log' ∧
      log'.length = log.length ∧
      ∀ q, pageIsSet log' q = true ↔ pageIsSet log q = true ∨
        ∃ p, page ≤ p ∧ p < page + count ∧ p < b.numberOfPages ∧ q = b.pagesBeforeRegion + p := by
  intro count
  induction count with
  | zero =>
    intro page log _
    refine ⟨log, rfl, rfl, fun q => ⟨Or.inl, ?_⟩⟩
    rintro (h | ⟨p, h1, h2, _⟩)
    · exact h
    · omega
  | succ count ih =>
    intro page log hfit
    rw [markPages]
    by_cases hout : b.numberOfPages ≤ page
    · rw [if_pos hout]
      refine ⟨log, rfl, rfl, fun q => ⟨Or.inl, ?_⟩⟩
      rintro (h | ⟨p, h1, _, h3, _⟩)
      · exact h
      · omega
    · rw [if_neg hout]
      obtain ⟨log₁, hfetch, hlen₁, hset₁⟩ := fetchOr_page (hfit page (by omega))
      obtain ⟨log₂, hmark, hlen₂, hset₂⟩ := ih (page + 1) log₁ (hlen₁ ▸ hfit)
      refine ⟨log₂, by simp only [hfetch, hmark], hlen₂.trans hlen₁, fun q => ?_⟩
      rw [hset₂, hset₁]
      constructor
      · rintro ((rfl | h) | ⟨p, h1, h2, h3, h4⟩)
        · exact Or.inr ⟨page, le_rfl, by omega, by omega, rfl⟩
        · exact Or.inl h
        · exact Or.inr ⟨p, by omega, by omega, h3, h4⟩
      · rintro (h | ⟨p, h1, h2, h3, rfl⟩)
        · exact Or.inl (Or.inr h)
        · by_cases hp : p = page
          · subst hp; exact Or.inl (Or.inl rfl)
          · exact Or.inr ⟨p, by omega, by omega, h3, rfl⟩

/-- **Marking is exact**: it sets the tracked pages between the pages of the
first and the last offset, and nothing else. -/
theorem markDirty_spec (b : AtomicBitmapMmap) (offset len : Nat) (log : MmapLogReg)
    (hfit : b.Fits log.length) : ∃ log', b.markDirty offset len log = some log' ∧
      log'.length = log.length ∧
      ∀ q, pageIsSet log' q = true ↔ pageIsSet log q = true ∨
        ∃ p, 0 < len ∧ pageNumber offset ≤ p ∧
          p ≤ pageNumber (saturatingAdd offset (len - 1)) ∧ p < b.numberOfPages ∧
          q = b.pagesBeforeRegion + p := by
  unfold markDirty
  by_cases h0 : len = 0
  · rw [if_pos h0]
    refine ⟨log, rfl, rfl, fun q => ⟨Or.inl, ?_⟩⟩
    rintro (h | ⟨p, h1, _⟩)
    · exact h
    · omega
  · rw [if_neg h0]
    obtain ⟨log', hmark, hlen, hset⟩ := b.markPages_spec
      (pageNumber (saturatingAdd offset (len - 1)) + 1 - pageNumber offset) (pageNumber offset)
      log hfit
    refine ⟨log', hmark, hlen, fun q => ?_⟩
    rw [hset]
    constructor
    · rintro (h | ⟨p, h1, h2, h3, h4⟩)
      · exact Or.inl h
      · exact Or.inr ⟨p, by omega, h1, by omega, h3, h4⟩
    · rintro (h | ⟨p, _, h1, h2, h3, h4⟩)
      · exact Or.inl h
      · exact Or.inr ⟨p, h1, by omega, h3, h4⟩

end AtomicBitmapMmap

/-! ### The bitmap `vm-memory` sees -/

/-- What a region's bitmap and all its slices share: the inner bitmap, if one
was set, and the log behind it. -/
structure SharedBitmap where
  inner : Option AtomicBitmapMmap
  log : MmapLogReg
  deriving DecidableEq, Repr

/-- `BitmapMmapRegion`, whose `inner` is the `SharedBitmap` of the region. -/
structure BitmapMmapRegion where
  baseAddress : Nat
  deriving DecidableEq, Repr

/-- The bitmap of a whole region: `Self::default()`. -/
def BitmapMmapRegion.default : BitmapMmapRegion := { baseAddress := 0 }

def BitmapMmapRegion.markDirty (r : BitmapMmapRegion) (offset len : Nat) (s : SharedBitmap) :
    Option SharedBitmap :=
  match s.inner with
  | none => some s
  | some bitmap =>
    match checkedAdd r.baseAddress offset with
    | none => some s
    | some absoluteOffset =>
      match bitmap.markDirty absoluteOffset len s.log with
      | none => none
      | some log => some { s with log := log }

/-- Marking through the bitmap of a whole region is marking its inner bitmap. -/
theorem BitmapMmapRegion.default_markDirty {b : AtomicBitmapMmap} {log : MmapLogReg}
    (offset len : Nat) (ho : offset ≤ wordMax) (hfit : b.Fits log.length) :
    ∃ log', b.markDirty offset len log = some log' ∧
      BitmapMmapRegion.default.markDirty offset len { inner := some b, log := log } =
        some { inner := some b, log := log' } := by
  obtain ⟨log', hmark, _⟩ := b.markDirty_spec offset len log hfit
  refine ⟨log', hmark, ?_⟩
  have hadd : checkedAdd BitmapMmapRegion.default.baseAddress offset = some offset := by
    rw [checkedAdd_eq_some]
    simpa [BitmapMmapRegion.default] using ho
  simp only [BitmapMmapRegion.markDirty, hadd, hmark]

/-! ### Which regions log every write -/

/-- **Nothing written is missing from the log**: on a region that `new` accepts,
marking a range inside the region sets the bit of the guest page of every byte
of the range, whatever the log held before. -/
def LogsEveryWrite (startAddr len logLen : Nat) : Prop :=
  ∀ b, AtomicBitmapMmap.new startAddr len logLen = .ok b →
    ∀ log : MmapLogReg, log.length = logLen → ∀ offset n, 0 < n → offset + n ≤ len →
      ∃ s, BitmapMmapRegion.default.markDirty offset n { inner := some b, log := log } = some s ∧
        ∀ i, offset ≤ i → i < offset + n → pageIsSet s.log ((startAddr + i) / 4096) = true

/-- On an accepted region, what `markDirty` through the region's bitmap leaves
in the log, in terms of page numbers. -/
theorem region_markDirty {startAddr len logLen offset n : Nat} {b : AtomicBitmapMmap}
    (hnew : AtomicBitmapMmap.new startAddr len logLen = .ok b) {log : MmapLogReg}
    (hlog : log.length = logLen) (hn : 0 < n) (hrange : offset + n ≤ len) :
    ∃ s, BitmapMmapRegion.default.markDirty offset n { inner := some b, log := log } = some s ∧
      ∀ q, pageIsSet s.log q = true ↔ pageIsSet log q = true ∨
        ∃ p, offset / 4096 ≤ p ∧ p ≤ (offset + (n - 1)) / 4096 ∧ p < len / 4096 ∧
          q = startAddr / 4096 + p := by
  have hfit : b.Fits log.length := hlog ▸ AtomicBitmapMmap.new_fits hnew
  obtain ⟨hlen, hend, _, rfl⟩ := AtomicBitmapMmap.new_eq_ok hnew
  obtain ⟨log', hmark, hregion⟩ := BitmapMmapRegion.default_markDirty offset n (by omega) hfit
  obtain ⟨log'', hmark', _, hset⟩ := AtomicBitmapMmap.markDirty_spec _ offset n log hfit
  obtain rfl : log' = log'' := Option.some.inj (hmark.symm.trans hmark')
  refine ⟨_, hregion, fun q => ?_⟩
  rw [hset, saturatingAdd_of_le (by omega)]
  simp only [pageNumber, logPageSize, hn, true_and]

theorem logsEveryWrite_of_dvd {startAddr len logLen : Nat} (hs : 4096 ∣ startAddr)
    (hl : 4096 ∣ len) : LogsEveryWrite startAddr len logLen := by
  intro b hnew log hlog offset n hn hrange
  obtain ⟨s, hmark, hset⟩ := region_markDirty hnew hlog hn hrange
  refine ⟨s, hmark, fun i h1 h2 => (hset _).mpr (Or.inr ⟨i / 4096, ?_, ?_, ?_, ?_⟩)⟩ <;> omega

/-- The page of the last byte of a write is not among the pages marked for it
when the offsets in the two pages add up to more than a page, or when the byte
lies behind the last whole page of the region. -/
theorem last_page_missing {startAddr len logLen : Nat} {b : AtomicBitmapMmap}
    (hnew : AtomicBitmapMmap.new startAddr len logLen = .ok b) (offset : Nat) (hin : offset < len)
    (hmiss : 4096 ≤ startAddr % 4096 + offset % 4096 ∨ len / 4096 ≤ offset / 4096) :
    ¬ LogsEveryWrite startAddr len logLen := by
  intro hall
  have hlog : (List.replicate logLen (0 : UInt8)).length = logLen := List.length_replicate
  obtain ⟨s, hmark, hset⟩ := hall b hnew (List.replicate logLen 0) hlog offset 1
    (by omega) (by omega)
  obtain ⟨s', hmark', hset'⟩ := region_markDirty hnew hlog (show 0 < 1 by omega)
    (show offset + 1 ≤ len by omega)
  obtain rfl : s = s' := Option.some.inj (hmark.symm.trans hmark')
  rcases (hset' _).mp (hset offset le_rfl (by omega)) with h | ⟨p, h1, h2, h3, h4⟩
  · rw [pageIsSet_replicate] at h
    cases h
  · omega

/-- **Which regions log every write**: those whose start and length are whole
numbers of pages. -/
theorem logsEveryWrite_iff {startAddr len logLen : Nat} {b : AtomicBitmapMmap}
    (hnew : AtomicBitmapMmap.new startAddr len logLen = .ok b) :
    LogsEveryWrite startAddr len logLen ↔ 4096 ∣ startAddr ∧ 4096 ∣ len := by
  constructor
  · intro hall
    have hlen := (AtomicBitmapMmap.new_eq_ok hnew).1
    by_contra hne
    -- the first byte of the page after the region's first one, or the region's last byte
    by_cases hs : 4096 ∣ startAddr
    · exact last_page_missing hnew (len - 1) (by omega) (by omega) hall
    · by_cases hlong : 4096 ≤ len
      · exact last_page_missing hnew (4096 - startAddr % 4096) (by omega) (by omega) hall
      · exact last_page_missing hnew 0 (by omega) (by omega) hall
  · rintro ⟨hs, hl⟩
    exact logsEveryWrite_of_dvd hs hl

theorem logsEveryWrite_iff_two_pages :
    LogsEveryWrite 0x1000 0x2000 1 ↔ 4096 ∣ 0x1000 ∧ 4096 ∣ 0x2000 :=
  logsEveryWrite_iff (b := { pagesBeforeRegion := 1, numberOfPages := 2 }) (by decide)

/-- A region of one and a half pages: a write to its second page leaves the log
as it was. -/
theorem half_page_not_logged :
    AtomicBitmapMmap.new 0x1000 0x1800 1 = .ok { pagesBeforeRegion := 1, numberOfPages := 1 } ∧
      BitmapMmapRegion.default.markDirty 0x1000 1
          { inner := some { pagesBeforeRegion := 1, numberOfPages := 1 }, log := [0] } =
        some { inner := some { pagesBeforeRegion := 1, numberOfPages := 1 }, log := [0] } ∧
      pageIsSet [0] ((0x1000 + 0x1000) / 4096) = false ∧
      ¬ LogsEveryWrite 0x1000 0x1800 1 := by
  refine ⟨by decide, by decide, by decide, ?_⟩
  exact last_page_missing (b := { pagesBeforeRegion := 1, numberOfPages := 1 }) (by decide) 0x1000
    (by decide) (by decide)

end VirtioPoc.VhostUser
