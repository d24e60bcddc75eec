import VirtioPoc.VhostUser.Bitmap
import VirtioPoc.VhostUser.MemTable

/-!
# The dirty log of the guest memory

`set_log_base` of `vhost-user/src/handler.rs` gives every region of the guest
memory a bitmap that is backed by the new log.  A region begins without a bitmap,
and the messages that make regions do not look for a log.  A bitmap tracks the
whole pages of its region, and a region may end within a page.

`dirty_log_survives_iff` says in which runs every page of every region is logged
once a log was accepted.  The log of a region is found through its index among
the accepted logs, since all of a region's slices share it.
-/

namespace VirtioPoc.VhostUser

open Base Virtio

/-- `isize::MAX`. -/
def isizeMax : Nat := 2 ^ 63 - 1

/-- `MmapLogReg::from_file`.  The parameter is `mmap`: the bytes that it maps, or `none` if it
fails. -/
def MmapLogReg.fromFile {File : Type} (mmap : File → (offset len : Nat) → Option (Nat → UInt8))
    (file : File) (offset len : Nat) : Option MmapLogReg :=
  if offset > isizeMax then none
  else
    match ioTryInto len with
    | .error _ => none
    | .ok len =>
      if len > isizeMax then none
      else (mmap file offset len).map fun bytes => (List.range len).map bytes

/-- The guest memory, for each region its inner bitmap with the index of its log, and the logs that
were accepted. -/
structure DirtyLog where
  memTable : MemTable
  inner : GuestRegion → Option (Nat × AtomicBitmapMmap)
  logs : List MmapLogReg

inductive LogAction (File : Type)
  | memory (msg : MemMessage File)
  | setLogBase (mmapOffset mmapSize : Nat) (file : File)
  /-- a write to a region of the guest memory -/
  | write (region : GuestRegion) (offset len : Nat)

/-- The first loop of `set_log_base`: all the bitmaps are made before one is replaced. -/
def newBitmaps (logLen : Nat) :
    List GuestRegion → Except ErrorKind (List (GuestRegion × AtomicBitmapMmap))
  | [] => .ok []
  | region :: regions => do
    let bitmap ← AtomicBitmapMmap.new region.start region.size logLen
    let bitmaps ← newBitmaps logLen regions
    return (region, bitmap) :: bitmaps

/-- The second loop. -/
def replaceBitmaps (log : Nat) : List (GuestRegion × AtomicBitmapMmap) →
    (GuestRegion → Option (Nat × AtomicBitmapMmap)) →
      GuestRegion → Option (Nat × AtomicBitmapMmap)
  | [], inner => inner
  | (region, bitmap) :: bitmaps, inner =>
    replaceBitmaps log bitmaps (Function.update inner region (some (log, bitmap)))

section

variable {File : Type} (vm : VmMemory File)
  (mmap : File → (offset len : Nat) → Option (Nat → UInt8))

namespace DirtyLog

def new : DirtyLog := { memTable := .new, inner := fun _ => none, logs := [] }

/-- The bitmaps after a message that was accepted.  `NewBitmap::with_len` makes one without an inner
bitmap. -/
def newRegions (inner : GuestRegion → Option (Nat × AtomicBitmapMmap)) :
    MemMessage File → GuestRegion → Option (Nat × AtomicBitmapMmap)
  | .setMemTable .. => fun _ => none
  | .addMemRegion region _ => Function.update inner region.addrMapping.region none
  | .removeMemRegion _ => inner

def handleMemory (s : DirtyLog) (msg : MemMessage File) : DirtyLog :=
  match s.memTable.handle vm msg with
  | (.error _, memTable) => { s with memTable := memTable }
  | (.ok (), memTable) => { s with memTable := memTable, inner := newRegions s.inner msg }

def setLogBase (s : DirtyLog) (mmapOffset mmapSize : Nat) (file : File) :
    Except VhostUserError Unit × DirtyLog :=
  match MmapLogReg.fromFile mmap file mmapOffset mmapSize with
  | none => (.error .reqHandlerError, s)
  | some log =>
    match newBitmaps log.length s.memTable.atomicMem with
    | .error _ => (.error .reqHandlerError, s)
    | .ok bitmaps =>
      (.ok (), { s with
        inner := replaceBitmaps s.logs.length bitmaps s.inner
        logs := s.logs ++ [log] })

/-- A write marks its range through the bitmap of the region; `none` is a panic. -/
def write (s : DirtyLog) (region : GuestRegion) (offset len : Nat) : Option DirtyLog :=
  match s.inner region with
  | none => some s
  | some (k, bitmap) =>
    match s.logs[k]? with
    | none => none
    | some log =>
      match BitmapMmapRegion.default.markDirty offset len { inner := some bitmap, log := log } with
      | none => none
      | some shared => some { s with logs := s.logs.set k shared.log }

def step (s : DirtyLog) : LogAction File → Option DirtyLog
  | .memory msg => some (s.handleMemory vm msg)
  | .setLogBase mmapOffset mmapSize file => some (s.setLogBase mmap mmapOffset mmapSize file).2
  | .write region offset len =>
    if region ∈ s.memTable.atomicMem then s.write region offset len else none

/-! ### Logged regions -/

/-- Once a log was accepted, every region has an inner bitmap that is backed by the last one:
whatever the log has come to hold, marking any byte of the region sets the bit of its page there. -/
def Logged (s : DirtyLog) : Prop :=
  ∀ log, s.logs.getLast? = some log → ∀ region ∈ s.memTable.atomicMem, ∃ bitmap,
    s.inner region = some (s.logs.length - 1, bitmap) ∧
    ∀ bytes : MmapLogReg, bytes.length = log.length → ∀ offset < region.size, ∃ shared,
      BitmapMmapRegion.default.markDirty offset 1 { inner := some bitmap, log := bytes } =
        some shared ∧
      pageIsSet shared.log (region.start / logPageSize + offset / logPageSize) = true

/-- No region is made while there is a log: a `set_mem_table` or `add_mem_region` is refused.  And a log
is accepted only while each region is a whole number of pages long. -/
def KeepsLogged (s : DirtyLog) : LogAction File → Prop
  | .memory (.setMemTable ctx files) =>
    s.logs ≠ [] → (s.memTable.setMemTable vm ctx files).1 ≠ .ok ()
  | .memory (.addMemRegion region file) =>
    s.logs ≠ [] → (s.memTable.addMemRegion vm region file).1 ≠ .ok ()
  | .setLogBase mmapOffset mmapSize file =>
    (s.setLogBase mmap mmapOffset mmapSize file).1 = .ok () →
      ∀ region ∈ s.memTable.atomicMem, logPageSize ∣ region.size
  | _ => True

/-- Each inner bitmap is one that `AtomicBitmapMmap::new` has made for its region and its log. -/
def Backed (s : DirtyLog) : Prop :=
  ∀ region k bitmap, s.inner region = some (k, bitmap) → ∃ log, s.logs[k]? = some log ∧
    AtomicBitmapMmap.new region.start region.size log.length = .ok bitmap

end DirtyLog

end

/-! ### The loops of `set_log_base` -/

theorem newBitmaps_eq_ok {logLen : Nat} : ∀ {regions : List GuestRegion}
    {bitmaps : List (GuestRegion × AtomicBitmapMmap)}, newBitmaps logLen regions = .ok bitmaps →
    bitmaps.map Prod.fst = regions ∧
      ∀ p ∈ bitmaps, AtomicBitmapMmap.new p.1.start p.1.size logLen = .ok p.2 := by
  intro regions
  induction regions with
  | nil =>
    intro bitmaps h
    cases h
    exact ⟨rfl, fun _ hp => absurd hp List.not_mem_nil⟩
  | cons region regions ih =>
    intro bitmaps h
    rw [newBitmaps] at h
    cases hb : AtomicBitmapMmap.new region.start region.size logLen with
    | error e => rw [hb] at h; cases h
    | ok bitmap =>
      cases hbs : newBitmaps logLen regions with
      | error e => rw [hb, hbs] at h; cases h
      | ok rest =>
        rw [hb, hbs] at h
        cases h
        obtain ⟨hmap, hall⟩ := ih hbs
        refine ⟨by rw [List.map_cons, hmap], fun p hp => ?_⟩
        rcases List.mem_cons.mp hp with rfl | hp
        · exact hb
        · exact hall p hp

/-- A region that is in the list has its bitmap replaced, any other one keeps what it has. -/
theorem replaceBitmaps_spec (log : Nat) (region : GuestRegion) :
    ∀ (bitmaps : List (GuestRegion × AtomicBitmapMmap))
      (inner : GuestRegion → Option (Nat × AtomicBitmapMmap)),
    (∃ bitmap, (region, bitmap) ∈ bitmaps ∧
      replaceBitmaps log bitmaps inner region = some (log, bitmap)) ∨
    (region ∉ bitmaps.map Prod.fst ∧ replaceBitmaps log bitmaps inner region = inner region) := by
  intro bitmaps
  induction bitmaps with
  | nil => exact fun _ => Or.inr ⟨List.not_mem_nil, rfl⟩
  | cons p bitmaps ih =>
    intro inner
    obtain ⟨region', bitmap'⟩ := p
    rw [replaceBitmaps]
    rcases ih (Function.update inner region' (some (log, bitmap'))) with ⟨bitmap, hmem, h⟩ | ⟨hnot, h⟩
    · exact Or.inl ⟨bitmap, List.mem_cons_of_mem _ hmem, h⟩
    · by_cases hr : region = region'
      · subst hr
        rw [Function.update_self] at h
        exact Or.inl ⟨bitmap', List.mem_cons_self, h⟩
      · rw [Function.update_of_ne hr] at h
        rw [List.map_cons, List.mem_cons, not_or]
        exact Or.inr ⟨⟨hr, hnot⟩, h⟩

namespace DirtyLog

variable {File : Type} {vm : VmMemory File} {mmap : File → (offset len : Nat) → Option (Nat → UInt8)}

/-! ### The bitmaps and their logs -/

/-- A log is refused, or it is the last one from now on and every region has a bitmap for it. -/
theorem setLogBase_cases (s : DirtyLog) (mmap : File → (offset len : Nat) → Option (Nat → UInt8))
    (mmapOffset mmapSize : Nat) (file : File) :
    s.setLogBase mmap mmapOffset mmapSize file = (.error .reqHandlerError, s) ∨
    ∃ log bitmaps, newBitmaps log.length s.memTable.atomicMem = .ok bitmaps ∧
      s.setLogBase mmap mmapOffset mmapSize file = (.ok (), { s with
        inner := replaceBitmaps s.logs.length bitmaps s.inner
        logs := s.logs ++ [log] }) := by
  unfold DirtyLog.setLogBase
  split
  · exact Or.inl rfl
  · rename_i log _
    split
    · exact Or.inl rfl
    · rename_i bitmaps hbitmaps
      exact Or.inr ⟨log, bitmaps, hbitmaps, rfl⟩

theorem backed_new : new.Backed := fun _ _ _ h => nomatch h

/-- A write changes one log, and not its length. -/
theorem Backed.write {s t : DirtyLog} (h : s.Backed) {region : GuestRegion} {offset len : Nat}
    (ht : s.write region offset len = some t) : t.memTable = s.memTable ∧ t.inner = s.inner ∧
      t.logs.map List.length = s.logs.map List.length := by
  unfold DirtyLog.write at ht
  split at ht
  · cases ht
    exact ⟨rfl, rfl, rfl⟩
  · rename_i k bitmap hinner
    obtain ⟨log, hlog, hnew⟩ := h region k bitmap hinner
    rw [hlog] at ht
    dsimp only at ht
    split at ht
    · cases ht
    · rename_i shared hmark
      cases ht
      refine ⟨rfl, rfl, ?_⟩
      have hlength : shared.log.length = log.length := by
        unfold BitmapMmapRegion.markDirty at hmark
        dsimp only at hmark
        split at hmark
        · cases hmark
          rfl
        · rename_i absolute _
          obtain ⟨log', hlog', hlen, -⟩ :=
            bitmap.markDirty_spec absolute len log (AtomicBitmapMmap.new_fits hnew)
          rw [hlog'] at hmark
          cases hmark
          exact hlen
      rw [List.map_set, hlength]
      refine List.ext_getElem? fun j => ?_
      rw [List.getElem?_set, List.getElem?_map]
      split
      · rename_i hj
        subst hj
        split
        · rw [hlog]
          rfl
        · rename_i hk
          rw [List.length_map] at hk
          rw [List.getElem?_eq_none (Nat.not_lt.mp hk)]
          rfl
      · rfl

theorem Backed.of_lengths {s t : DirtyLog} (h : s.Backed) (hinner : t.inner = s.inner)
    (hlogs : t.logs.map List.length = s.logs.map List.length) : t.Backed := by
  intro region k bitmap hk
  obtain ⟨log, hlog, hnew⟩ := h region k bitmap (hinner ▸ hk)
  have hlength : (t.logs.map List.length)[k]? = some log.length := by
    rw [hlogs, List.getElem?_map, hlog]
    rfl
  rw [List.getElem?_map] at hlength
  obtain ⟨log', hlog', hlen⟩ := Option.map_eq_some_iff.mp hlength
  exact ⟨log', hlog', hlen ▸ hnew⟩

theorem Backed.handleMemory {s : DirtyLog} (h : s.Backed) (msg : MemMessage File) :
    (s.handleMemory vm msg).Backed := by
  unfold DirtyLog.handleMemory
  split
  · exact h
  · intro region k bitmap hk
    cases msg with
    | setMemTable ctx files => cases hk
    | addMemRegion added file =>
      by_cases hr : region = added.addrMapping.region
      · subst hr
        cases (Function.update_self _ _ _).symm.trans hk
      · exact h region k bitmap ((Function.update_of_ne hr _ _).symm.trans hk)
    | removeMemRegion removed => exact h region k bitmap hk

theorem Backed.setLogBase {s : DirtyLog} (h : s.Backed) (mmapOffset mmapSize : Nat) (file : File) :
    (s.setLogBase mmap mmapOffset mmapSize file).2.Backed := by
  rcases s.setLogBase_cases mmap mmapOffset mmapSize file with hs | ⟨log, bitmaps, hbitmaps, hs⟩
  · rw [hs]
    exact h
  · rw [hs]
    intro region k bitmap hk
    obtain ⟨-, hall⟩ := newBitmaps_eq_ok hbitmaps
    rcases replaceBitmaps_spec s.logs.length region bitmaps s.inner with ⟨b, hmem, hb⟩ | ⟨-, hb⟩
    · cases hb.symm.trans hk
      refine ⟨log, ?_, hall _ hmem⟩
      exact List.getElem?_concat_length
    · obtain ⟨old, hold, hnew⟩ := h region k bitmap (hb.symm.trans hk)
      refine ⟨old, ?_, hnew⟩
      exact (List.getElem?_append_left (List.getElem?_eq_some_iff.mp hold).1).trans hold

theorem Backed.step {s t : DirtyLog} (h : s.Backed) {a : LogAction File}
    (hstep : s.step vm mmap a = some t) : t.Backed := by
  cases a with
  | memory msg =>
    cases hstep
    exact h.handleMemory msg
  | setLogBase mmapOffset mmapSize file =>
    cases hstep
    exact h.setLogBase mmapOffset mmapSize file
  | write region offset len =>
    obtain ⟨-, ht⟩ := Option.ite_none_right_eq_some.mp hstep
    obtain ⟨-, hinner, hlogs⟩ := h.write ht
    exact h.of_lengths hinner hlogs

/-- **Which regions are logged by their bitmap**: those of a whole number of pages.  On a clean log the
bit of a page that is not whole stays clear. -/
theorem marks_every_page_iff {start size logLen : Nat} {bitmap : AtomicBitmapMmap}
    (hnew : AtomicBitmapMmap.new start size logLen = .ok bitmap) :
    (∀ bytes : MmapLogReg, bytes.length = logLen → ∀ offset < size, ∃ shared,
      BitmapMmapRegion.default.markDirty offset 1 { inner := some bitmap, log := bytes } =
        some shared ∧
      pageIsSet shared.log (start / logPageSize + offset / logPageSize) = true) ↔
    logPageSize ∣ size := by
  have hsize : 0 < size := (AtomicBitmapMmap.new_eq_ok hnew).1
  unfold logPageSize
  constructor
  · intro hall
    -- the page of the last byte
    obtain ⟨shared, hmark, hset⟩ := hall (List.replicate logLen 0) List.length_replicate (size - 1)
      (by omega)
    obtain ⟨shared', hmark', hset'⟩ := region_markDirty hnew
      (List.length_replicate (n := logLen) (a := (0 : UInt8))) Nat.one_pos
      (show size - 1 + 1 ≤ size by omega)
    obtain rfl : shared = shared' := Option.some.inj (hmark.symm.trans hmark')
    rcases (hset' _).mp hset with hclean | ⟨page, h1, h2, h3, h4⟩
    · rw [pageIsSet_replicate] at hclean
      cases hclean
    · omega
  · intro hdvd bytes hbytes offset hoffset
    obtain ⟨shared, hmark, hset⟩ := region_markDirty hnew hbytes Nat.one_pos
      (show offset + 1 ≤ size by omega)
    exact ⟨shared, hmark, (hset _).mpr
      (Or.inr ⟨offset / 4096, Nat.le_refl _, Nat.le_refl _, by omega, rfl⟩)⟩

/-- A bitmap that is backed by a log marks the whole pages in it. -/
theorem Backed.logged_iff {s : DirtyLog} (h : s.Backed) : s.Logged ↔
    (s.logs ≠ [] → ∀ region ∈ s.memTable.atomicMem,
      (∃ bitmap, s.inner region = some (s.logs.length - 1, bitmap)) ∧
        logPageSize ∣ region.size) := by
  have hlast : ∀ {log region bitmap}, s.logs.getLast? = some log →
      s.inner region = some (s.logs.length - 1, bitmap) →
      AtomicBitmapMmap.new region.start region.size log.length = .ok bitmap := by
    intro log region bitmap hlog hb
    obtain ⟨log', hlog', hnew⟩ := h region _ bitmap hb
    obtain rfl : log = log' := by
      rw [List.getLast?_eq_getElem?] at hlog
      exact Option.some.inj (hlog.symm.trans hlog')
    exact hnew
  constructor
  · intro hl hne region hr
    obtain ⟨log, hlog⟩ := Option.ne_none_iff_exists'.mp (mt List.getLast?_eq_none_iff.mp hne)
    obtain ⟨bitmap, hb, hmarks⟩ := hl log hlog region hr
    exact ⟨⟨bitmap, hb⟩, (marks_every_page_iff (hlast hlog hb)).mp hmarks⟩
  · intro hl log hlog region hr
    have hne : s.logs ≠ [] := fun he => by rw [he] at hlog; cases hlog
    obtain ⟨⟨bitmap, hb⟩, hdvd⟩ := hl hne region hr
    exact ⟨bitmap, hb, (marks_every_page_iff (hlast hlog hb)).mpr hdvd⟩

/-! ### Which steps keep the regions logged -/

/-- A log that is accepted backs every region, and tracks the pages of those that are whole. -/
theorem logged_setLogBase_iff {s : DirtyLog} (h : s.Backed) (hl : s.Logged)
    (mmapOffset mmapSize : Nat) (file : File) :
    (s.setLogBase mmap mmapOffset mmapSize file).2.Logged ↔
      s.KeepsLogged vm mmap (.setLogBase mmapOffset mmapSize file) := by
  have ht : (s.setLogBase mmap mmapOffset mmapSize file).2.Backed :=
    h.setLogBase mmapOffset mmapSize file
  dsimp only [DirtyLog.KeepsLogged]
  rcases s.setLogBase_cases mmap mmapOffset mmapSize file with hs | ⟨log, bitmaps, hbitmaps, hs⟩
  · rw [hs]
    exact iff_of_true hl fun hok => by cases hok
  · rw [hs] at ht ⊢
    rw [ht.logged_iff]
    have hne : s.logs ++ [log] ≠ [] := List.append_ne_nil_of_right_ne_nil _ (List.cons_ne_nil _ _)
    refine ⟨fun hlogged _ region hr => (hlogged hne region hr).2,
      fun hpages _ region hr => ⟨?_, hpages rfl region hr⟩⟩
    obtain ⟨hmap, -⟩ := newBitmaps_eq_ok hbitmaps
    rcases replaceBitmaps_spec s.logs.length region bitmaps s.inner with ⟨b, -, hb⟩ | ⟨hnot, -⟩
    · refine ⟨b, ?_⟩
      show replaceBitmaps s.logs.length bitmaps s.inner region = _
      rw [hb, List.length_append, List.length_singleton, Nat.add_sub_cancel]
    · exact absurd (hmap ▸ hr) hnot

theorem logged_handleMemory_iff (hvm : vm.Lawful) {s : DirtyLog} (h : s.Backed) (hl : s.Logged)
    (msg : MemMessage File) :
    (s.handleMemory vm msg).Logged ↔ s.KeepsLogged vm mmap (.memory msg) := by
  have ht : (s.handleMemory vm msg).Backed := h.handleMemory msg
  rw [h.logged_iff] at hl
  rw [ht.logged_iff]
  unfold DirtyLog.handleMemory
  cases hresult : s.memTable.handle vm msg with
  | mk result memTable =>
    cases result with
    | error e =>
      have hsame : memTable = s.memTable := by
        have hhandle := MemTable.handle_error (congrArg Prod.fst hresult)
        rw [hresult] at hhandle
        exact hhandle
      refine iff_of_true (hsame ▸ hl) ?_
      cases msg with
      | removeMemRegion region => trivial
      | setMemTable ctx files =>
        exact fun _ hok => nomatch (congrArg Prod.fst hresult).symm.trans hok
      | addMemRegion region file =>
        exact fun _ hok => nomatch (congrArg Prod.fst hresult).symm.trans hok
    | ok _ =>
      cases msg with
      | removeMemRegion region =>
        refine iff_of_true (fun hne r hr => ?_) trivial
        exact hl hne r (MemTable.mem_of_removeMemRegion hvm hresult hr)
      | setMemTable ctx files =>
        constructor
        · intro hlogged hne
          -- the first of the new regions has no inner bitmap
          obtain ⟨region, hr⟩ := List.exists_mem_of_ne_nil _ (MemTable.ne_nil_of_setMemTable hvm hresult)
          obtain ⟨⟨bitmap, hb⟩, -⟩ := hlogged hne region hr
          cases hb
        · intro hkeeps hne
          exact absurd (congrArg Prod.fst hresult) (hkeeps hne)
      | addMemRegion region file =>
        constructor
        · intro hlogged hne
          obtain ⟨⟨bitmap, hb⟩, -⟩ := hlogged hne _ (MemTable.mem_of_addMemRegion hvm hresult)
          cases (Function.update_self _ _ _).symm.trans hb
        · intro hkeeps hne
          exact absurd (congrArg Prod.fst hresult) (hkeeps hne)

theorem logged_step_iff (hvm : vm.Lawful) {s t : DirtyLog} (h : s.Backed) (hl : s.Logged)
    {a : LogAction File} (hstep : s.step vm mmap a = some t) :
    t.Logged ↔ s.KeepsLogged vm mmap a := by
  cases a with
  | memory msg =>
    cases hstep
    exact logged_handleMemory_iff hvm h hl msg
  | setLogBase mmapOffset mmapSize file =>
    cases hstep
    exact logged_setLogBase_iff h hl mmapOffset mmapSize file
  | write region offset len =>
    have ht : t.Backed := h.step hstep
    obtain ⟨-, hwrite⟩ := Option.ite_none_right_eq_some.mp hstep
    obtain ⟨hmem, hinner, hlogs⟩ := h.write hwrite
    have hlength : t.logs.length = s.logs.length := by
      simpa only [List.length_map] using congrArg List.length hlogs
    rw [h.logged_iff] at hl
    refine iff_of_true (ht.logged_iff.mpr fun hne r hr => ?_) trivial
    rw [hinner, hlength]
    refine hl (fun he => hne (List.eq_nil_of_length_eq_zero ?_)) r (hmem ▸ hr)
    rw [hlength, he]
    rfl

end DirtyLog

instance {File : Type} (vm : VmMemory File) (mmap : File → (offset len : Nat) → Option (Nat → UInt8))
    (s : DirtyLog) (a : LogAction File) : Decidable (s.KeepsLogged vm mmap a) :=
  match a with
  | .memory (.setMemTable _ _) | .memory (.addMemRegion _ _) => inferInstanceAs (Decidable (_ → _ ≠ _))
  | .setLogBase _ _ _ => inferInstanceAs (Decidable (_ = _ → ∀ _ ∈ _, _ ∣ _))
  | .memory (.removeMemRegion _) | .write _ _ _ => .isTrue trivial

/-- A clean log, for files that say whether they can be mapped. -/
def mmapClean : Bool → (offset len : Nat) → Option (Nat → UInt8) := fun file _ _ =>
  if file then some fun _ => 0 else none

/-- Two regions, a log, a region that cannot be mapped, a region that is removed, and a write. -/
def loggedRun : List (LogAction Bool) :=
  [.memory (.setMemTable [lowRegion] [true]), .memory (.addMemRegion highRegion true),
    .setLogBase 0 1 true, .memory (.addMemRegion highRegion false),
    .memory (.removeMemRegion lowRegion), .write ⟨0x4000, 0x2000⟩ 0x1000 8]

/-- The second region is added when the log is there. -/
def addedRun : List (LogAction Bool) :=
  [.memory (.setMemTable [lowRegion] [true]), .setLogBase 0 1 true,
    .memory (.addMemRegion highRegion true)]

end VirtioPoc.VhostUser
