import VirtioPoc.Console.ProcessRx
import VirtioPoc.VhostUser.BitmapSlices

/-!
# Console input during a migration

While the guest is migrated the frontend copies its memory, and fetches from the
dirty log which pages to copy again: it takes a byte of the log and leaves zero.
Meanwhile `PortInputFd::read_volatile` reads into the guest memory.  It marks the
pages when the bytes have been written, one page after the other.

So at any moment a byte may differ from its copy although its page is not in the
log: the mark is still to come, or the frontend has taken it already.
`input_migrates` says that these are the only cases, in any interleaving.
-/

namespace VirtioPoc.Console

open Base Virtio VhostUser

/-! ### The log -/

/-- The frontend takes a byte of the log: the pages that were set in it, and the log that is left. -/
def fetchWord (log : MmapLogReg) (word : Nat) : List Nat × MmapLogReg :=
  (((List.range logWordSize).map (word * logWordSize + ·)).filter (pageIsSet log), log.set word 0)

theorem mem_fetchWord {log : MmapLogReg} {word page : Nat} :
    page ∈ (fetchWord log word).1 ↔ pageWord page = word ∧ pageIsSet log page = true := by
  unfold fetchWord pageWord logWordSize
  simp only [List.mem_filter, List.mem_map, List.mem_range]
  constructor
  · rintro ⟨⟨bit, hbit, rfl⟩, hset⟩
    exact ⟨by omega, hset⟩
  · rintro ⟨rfl, hset⟩
    exact ⟨⟨page % 8, by omega, by omega⟩, hset⟩

theorem pageIsSet_fetchWord {log : MmapLogReg} {word page : Nat} :
    pageIsSet (fetchWord log word).2 page = true ↔
      pageWord page ≠ word ∧ pageIsSet log page = true := by
  unfold fetchWord pageIsSet
  simp only [List.getD_eq_getElem?_getD]
  by_cases hword : pageWord page = word
  · subst hword
    by_cases hlt : pageWord page < log.length
    · rw [List.getElem?_set_self hlt]
      simp
    · rw [List.getElem?_eq_none (by rw [List.length_set]; omega)]
      simp
  · rw [List.getElem?_set_ne (Ne.symm hword)]
    simp [hword]

/-! ### The two parties -/

/-- A region with its bitmap, made for a log of `logLen` bytes. -/
structure LoggedRegion (logLen : Nat) where
  region : GuestRegion
  bitmap : AtomicBitmapMmap
  made : AtomicBitmapMmap.new region.start region.size logLen = .ok bitmap

/-- What `libc::read` returns.  When it fails it may have written some bytes. -/
inductive ReadResult
  | ok (data : List UInt8)
  | wouldBlock
  | error (written : List UInt8)
  deriving DecidableEq

def ReadResult.written : ReadResult → List UInt8
  | .ok data | .error data => data
  | .wouldBlock => []

/-- Where `read_volatile` is.  The kernel still has to write `data`, and then `mark_dirty` is called
for `len` bytes at the offset of the slice; or `mark_dirty` still has to look at `count` pages. -/
inductive InputPc
  | idle
  | writing (bitmap : AtomicBitmapMmap) (addr : Nat) (data : List UInt8) (offset len : Nat)
  | marking (bitmap : AtomicBitmapMmap) (page count : Nat)
  deriving DecidableEq

/-- `fetched` are the pages that the frontend still has to copy; of the first of them it has copied
so many bytes. -/
structure Migration where
  mem : Bytes
  copy : Bytes
  log : MmapLogReg
  input : InputPc
  fetched : List Nat
  copied : Nat

inductive MigrationAction (logLen : Nat)
  | read (region : LoggedRegion logLen) (offset len : Nat) (result : ReadResult)
  | input
  | fetch (word : Nat)
  | copy

namespace Migration

/-- The guest memory has been copied once. -/
def new (mem : Bytes) (logLen : Nat) : Migration :=
  { mem := mem, copy := mem, log := List.replicate logLen 0, input := .idle, fetched := [],
    copied := 0 }

/-- `read_volatile` into a slice of `len` bytes. -/
def readVolatile (s : Migration) {logLen : Nat} (region : LoggedRegion logLen) (offset len : Nat) :
    ReadResult → Migration
  | .ok data => { s with
      input := .writing region.bitmap (region.region.start + offset) data offset data.length }
  | .wouldBlock => s
  -- a partial read might have happened, so everything is marked
  | .error written => { s with
      input := .writing region.bitmap (region.region.start + offset) written offset len }

/-- `mark_dirty`, up to its loop. -/
def markDirty (s : Migration) (bitmap : AtomicBitmapMmap) (offset len : Nat) : Migration :=
  if len = 0 then { s with input := .idle }
  else
    let firstPage := pageNumber offset
    let lastPage := pageNumber (saturatingAdd offset (len - 1))
    { s with input := .marking bitmap firstPage (lastPage + 1 - firstPage) }

/-- The next byte of the kernel, or the next page of `mark_dirty`. -/
def work (s : Migration) : Option Migration :=
  match s.input with
  | .idle => none
  | .writing bitmap _ [] offset len => some (s.markDirty bitmap offset len)
  | .writing bitmap addr (byte :: data) offset len => some { s with
      mem := writeBytes s.mem addr [byte]
      input := .writing bitmap (addr + 1) data offset len }
  | .marking _ _ 0 => some { s with input := .idle }
  | .marking bitmap page (count + 1) =>
    if bitmap.numberOfPages ≤ page then some { s with input := .idle }
    else
      let absolute := bitmap.pagesBeforeRegion + page
      match s.log.fetchOr (pageWord absolute) (bitMask (pageBit absolute)) with
      | none => none
      | some log => some { s with log := log, input := .marking bitmap (page + 1) count }

/-- The frontend copies a byte. -/
def copyByte (s : Migration) : Option Migration :=
  match s.fetched with
  | [] => none
  | page :: rest =>
    let addr := page * logPageSize + s.copied
    let s := { s with copy := writeBytes s.copy addr [s.mem addr] }
    if s.copied + 1 = logPageSize then some { s with fetched := rest, copied := 0 }
    else some { s with copied := s.copied + 1 }

def step {logLen : Nat} (s : Migration) : MigrationAction logLen → Option Migration
  | .read region offset len result =>
    if s.input = .idle ∧ offset + len ≤ region.region.size ∧ result.written.length ≤ len then
      some (s.readVolatile region offset len result)
    else none
  | .input => s.work
  | .fetch word => some { s with
      fetched := s.fetched ++ (fetchWord s.log word).1, log := (fetchWord s.log word).2 }
  | .copy => s.copyByte

end Migration

/-! ### What is still to be copied -/

/-- `mark_dirty` is going to set the page. -/
def InputPc.Marks (page : Nat) : InputPc → Prop
  | .idle => False
  | .writing bitmap _ _ offset len => 0 < len ∧ ∃ p, page = bitmap.pagesBeforeRegion + p ∧
      p < bitmap.numberOfPages ∧ pageNumber offset ≤ p ∧
      p ≤ pageNumber (saturatingAdd offset (len - 1))
  | .marking bitmap first count => ∃ p, page = bitmap.pagesBeforeRegion + p ∧
      p < bitmap.numberOfPages ∧ first ≤ p ∧ p < first + count

/-- The frontend has the byte at `a` still to copy. -/
def Uncopied (copied a : Nat) : List Nat → Prop
  | [] => False
  | page :: rest => pageNumber a = page ∧ copied ≤ a % logPageSize ∨ pageNumber a ∈ rest

namespace Migration

/-- The byte at `a` is going to be copied, if the log is fetched again. -/
def WillCopy (s : Migration) (a : Nat) : Prop :=
  pageIsSet s.log (pageNumber a) = true ∨ Uncopied s.copied a s.fetched ∨ s.input.Marks (pageNumber a)

/-- Every byte that the kernel still has to write will be marked, and no mark is outside the log. -/
def InputOk (s : Migration) : Prop :=
  match s.input with
  | .idle => True
  | .writing bitmap addr data _ _ => bitmap.Fits s.log.length ∧
      ∀ a, addr ≤ a → a < addr + data.length → s.input.Marks (pageNumber a)
  | .marking bitmap _ _ => bitmap.Fits s.log.length

/-- The regions that are read into are whole pages. -/
def Aligned {logLen : Nat} : MigrationAction logLen → Prop
  | .read region _ _ _ => 4096 ∣ region.region.start ∧ 4096 ∣ region.region.size
  | _ => True

structure Inv (logLen : Nat) (s : Migration) : Prop where
  willCopy : ∀ a, s.mem a ≠ s.copy a → s.WillCopy a
  inputOk : s.InputOk
  length : s.log.length = logLen
  copied : s.copied < logPageSize
  fresh : s.fetched = [] → s.copied = 0

variable {logLen : Nat} {s t : Migration}

theorem inv_new (mem : Bytes) (logLen : Nat) : (new mem logLen).Inv logLen where
  willCopy := fun _ hne => absurd rfl hne
  inputOk := trivial
  length := List.length_replicate
  copied := Nat.succ_pos _
  fresh := fun _ => rfl

/-- What is read into a region of whole pages will be marked under its own pages. -/
theorem marks_of_read (region : LoggedRegion logLen) (hstart : 4096 ∣ region.region.start)
    (hsize : 4096 ∣ region.region.size) {offset len n : Nat} (hle : offset + len ≤ region.region.size)
    (hn : n ≤ len) (data : List UInt8) {a : Nat} (h1 : region.region.start + offset ≤ a)
    (h2 : a < region.region.start + offset + n) :
    (InputPc.writing region.bitmap (region.region.start + offset) data offset len).Marks
      (pageNumber a) := by
  obtain ⟨hpos, hend, -, hbitmap⟩ := AtomicBitmapMmap.new_eq_ok region.made
  have hlast : saturatingAdd offset (len - 1) = offset + (len - 1) := saturatingAdd_of_le (by omega)
  show 0 < len ∧ ∃ p, pageNumber a = region.bitmap.pagesBeforeRegion + p ∧
    p < region.bitmap.numberOfPages ∧ pageNumber offset ≤ p ∧
      p ≤ pageNumber (saturatingAdd offset (len - 1))
  rw [hbitmap, hlast]
  dsimp only
  refine ⟨by omega, pageNumber (a - region.region.start), ?_, ?_, ?_, ?_⟩
  all_goals
    unfold pageNumber logPageSize
    omega

theorem Inv.readVolatile (h : s.Inv logLen) (hidle : s.input = .idle) (region : LoggedRegion logLen)
    (hstart : 4096 ∣ region.region.start) (hsize : 4096 ∣ region.region.size) {offset len : Nat}
    (hle : offset + len ≤ region.region.size) {result : ReadResult}
    (hresult : result.written.length ≤ len) : (s.readVolatile region offset len result).Inv logLen := by
  have hfit : region.bitmap.Fits s.log.length := by
    rw [h.length]
    exact AtomicBitmapMmap.new_fits region.made
  have hkeep : ∀ {pc a}, s.WillCopy a → { s with input := pc }.WillCopy a := by
    rintro pc a (hset | hfetched | hmarks)
    · exact .inl hset
    · exact .inr (.inl hfetched)
    · rw [hidle] at hmarks
      exact hmarks.elim
  cases result with
  | wouldBlock => exact h
  | ok data =>
    have hdata : data.length ≤ len := hresult
    refine ⟨fun a hne => hkeep (h.willCopy a hne), ⟨hfit, ?_⟩, h.length, h.copied, h.fresh⟩
    intro a h1 h2
    exact marks_of_read region hstart hsize (by omega) (Nat.le_refl _) data h1 h2
  | error written =>
    have hdata : written.length ≤ len := hresult
    refine ⟨fun a hne => hkeep (h.willCopy a hne), ⟨hfit, ?_⟩, h.length, h.copied, h.fresh⟩
    intro a h1 h2
    exact marks_of_read region hstart hsize hle hdata written h1 h2

/-- Going on with the marking is kept when no mark is lost. -/
theorem Inv.setInput (h : s.Inv logLen) {pc : InputPc}
    (hmarks : ∀ page, s.input.Marks page → pc.Marks page) (hok : { s with input := pc }.InputOk) :
    { s with input := pc }.Inv logLen where
  willCopy a hne := by
    rcases h.willCopy a hne with hset | hfetched | hmark
    · exact .inl hset
    · exact .inr (.inl hfetched)
    · exact .inr (.inr (hmarks _ hmark))
  inputOk := hok
  length := h.length
  copied := h.copied
  fresh := h.fresh

theorem Inv.markDirty (h : s.Inv logLen) {bitmap : AtomicBitmapMmap} {addr offset len : Nat}
    (hinput : s.input = .writing bitmap addr [] offset len) :
    (s.markDirty bitmap offset len).Inv logLen := by
  have hok := h.inputOk
  rw [InputOk, hinput] at hok
  unfold Migration.markDirty
  by_cases hlen : len = 0
  · rw [if_pos hlen]
    refine h.setInput ?_ trivial
    intro page hmark
    rw [hinput] at hmark
    obtain ⟨hpos, -⟩ := hmark
    omega
  · rw [if_neg hlen]
    refine h.setInput ?_ hok.1
    intro page hmark
    rw [hinput] at hmark
    obtain ⟨-, p, hp, hlt, hfirst, hlast⟩ := hmark
    exact ⟨p, hp, hlt, hfirst, by omega⟩

/-- A byte is written whose page will be marked. -/
theorem Inv.writeByte (h : s.Inv logLen) {bitmap : AtomicBitmapMmap} {addr offset len : Nat}
    {byte : UInt8} {data : List UInt8}
    (hinput : s.input = .writing bitmap addr (byte :: data) offset len) :
    { s with
      mem := writeBytes s.mem addr [byte]
      input := .writing bitmap (addr + 1) data offset len }.Inv logLen := by
  have hok := h.inputOk
  rw [InputOk, hinput] at hok
  have hsame : ∀ page, (InputPc.writing bitmap (addr + 1) data offset len).Marks page ↔
      s.input.Marks page := fun page => by rw [hinput]; rfl
  refine ⟨?_, ⟨hok.1, ?_⟩, h.length, h.copied, h.fresh⟩
  · intro a hne
    by_cases ha : a = addr
    · subst ha
      exact .inr (.inr (hok.2 a (Nat.le_refl a) (by rw [List.length_cons]; omega)))
    · have hmem : writeBytes s.mem addr [byte] a = s.mem a :=
        writeBytes_of_outside (by rw [List.length_singleton]; omega)
      rcases h.willCopy a (hmem ▸ hne) with hset | hfetched | hmark
      · exact .inl hset
      · exact .inr (.inl hfetched)
      · exact .inr (.inr ((hsame _).mpr hmark))
  · intro a h1 h2
    exact hok.2 a (by omega) (by rw [List.length_cons]; omega)

/-- A page is marked. -/
theorem Inv.markPage (h : s.Inv logLen) {bitmap : AtomicBitmapMmap} {page count : Nat}
    (hinput : s.input = .marking bitmap page (count + 1)) {log : MmapLogReg}
    (hlog : log.length = s.log.length) (hset : ∀ q, pageIsSet log q = true ↔
      q = bitmap.pagesBeforeRegion + page ∨ pageIsSet s.log q = true) :
    { s with log := log, input := .marking bitmap (page + 1) count }.Inv logLen := by
  have hok := h.inputOk
  rw [InputOk, hinput] at hok
  refine ⟨?_, ?_, hlog.trans h.length, h.copied, h.fresh⟩
  · intro a hne
    rcases h.willCopy a hne with hold | hfetched | hmark
    · exact .inl ((hset _).mpr (.inr hold))
    · exact .inr (.inl hfetched)
    · rw [hinput] at hmark
      obtain ⟨p, hp, hlt, hfirst, hlast⟩ := hmark
      by_cases hpage : p = page
      · subst hpage
        exact .inl ((hset _).mpr (.inl hp))
      · exact .inr (.inr ⟨p, hp, hlt, by omega, by omega⟩)
  · show bitmap.Fits log.length
    rw [hlog]
    exact hok

theorem Inv.work (h : s.Inv logLen) (hstep : s.work = some t) : t.Inv logLen := by
  have hok := h.inputOk
  unfold Migration.work at hstep
  split at hstep
  case h_1 => cases hstep
  case h_2 hinput => cases hstep; exact h.markDirty hinput
  case h_3 hinput => cases hstep; exact h.writeByte hinput
  case h_4 hinput =>
    cases hstep
    refine h.setInput ?_ trivial
    rw [hinput]
    rintro page ⟨p, -, -, hfirst, hlast⟩
    omega
  case h_5 bitmap page count hinput =>
    rw [InputOk, hinput] at hok
    split at hstep
    case isTrue hout =>
      cases hstep
      refine h.setInput ?_ trivial
      rw [hinput]
      rintro page' ⟨p, -, hlt, hfirst, -⟩
      omega
    case isFalse hin =>
      obtain ⟨log, hfetch, hlen, hset⟩ := fetchOr_page (hok page (Nat.lt_of_not_le hin))
      dsimp only at hstep
      rw [hfetch] at hstep
      cases hstep
      exact h.markPage hinput hlen hset

theorem uncopied_zero {a : Nat} : ∀ {pages : List Nat}, pageNumber a ∈ pages → Uncopied 0 a pages := by
  intro pages hmem
  cases pages with
  | nil => cases hmem
  | cons page rest => exact (List.mem_cons.mp hmem).imp_left fun heq => ⟨heq, Nat.zero_le _⟩

/-- What was in a byte of the log is in the pages that the frontend has fetched. -/
theorem Inv.fetch (h : s.Inv logLen) (word : Nat) : { s with
    fetched := s.fetched ++ (fetchWord s.log word).1, log := (fetchWord s.log word).2 }.Inv logLen := by
  have hlen : (fetchWord s.log word).2.length = s.log.length := List.length_set
  have huncopied : ∀ {a}, Uncopied s.copied a s.fetched →
      Uncopied s.copied a (s.fetched ++ (fetchWord s.log word).1) := by
    intro a hold
    cases hfetched : s.fetched with
    | nil => rw [hfetched] at hold; exact hold.elim
    | cons page rest =>
      rw [hfetched] at hold
      exact hold.imp_right fun hmem => List.mem_append_left _ hmem
  have hnew : ∀ {a}, pageNumber a ∈ (fetchWord s.log word).1 →
      Uncopied s.copied a (s.fetched ++ (fetchWord s.log word).1) := by
    intro a hmem
    cases hfetched : s.fetched with
    | cons page rest => exact .inr (List.mem_append_right _ hmem)
    | nil =>
      rw [List.nil_append, h.fresh hfetched]
      exact uncopied_zero hmem
  refine ⟨?_, ?_, hlen.trans h.length, h.copied, ?_⟩
  · intro a hne
    rcases h.willCopy a hne with hset | hfetched | hmark
    · by_cases hword : pageWord (pageNumber a) = word
      · exact .inr (.inl (hnew (mem_fetchWord.mpr ⟨hword, hset⟩)))
      · exact .inl (pageIsSet_fetchWord.mpr ⟨hword, hset⟩)
    · exact .inr (.inl (huncopied hfetched))
    · exact .inr (.inr hmark)
  · have hok := h.inputOk
    unfold InputOk at hok ⊢
    dsimp only
    rw [hlen]
    exact hok
  · intro hnil
    exact h.fresh (List.append_eq_nil_iff.mp hnil).1

/-- The byte that is copied is not to be copied any more, and all others are. -/
theorem Inv.copyByte (h : s.Inv logLen) (hstep : s.copyByte = some t) : t.Inv logLen := by
  unfold Migration.copyByte at hstep
  split at hstep
  case h_1 => cases hstep
  case h_2 page rest hfetched =>
    have hcopied := h.copied
    dsimp only at hstep
    -- all other bytes that differ are still to be copied
    have hothers : ∀ a, s.mem a ≠ writeBytes s.copy (page * logPageSize + s.copied)
        [s.mem (page * logPageSize + s.copied)] a → s.mem a ≠ s.copy a ∧
          (pageNumber a = page → a % logPageSize ≠ s.copied) := by
      intro a hne
      by_cases ha : a = page * logPageSize + s.copied
      · subst ha
        refine absurd ?_ hne
        rw [writeBytes, if_pos (Nat.le_refl _), Nat.sub_self, List.getD_cons_zero]
      · have hcopy : writeBytes s.copy (page * logPageSize + s.copied)
            [s.mem (page * logPageSize + s.copied)] a = s.copy a :=
          writeBytes_of_outside (by rw [List.length_singleton]; omega)
        refine ⟨hcopy ▸ hne, fun hpage hoffset => ha ?_⟩
        unfold pageNumber at hpage
        rw [← hpage, ← hoffset]
        exact (Nat.div_add_mod' a logPageSize).symm
    split at hstep
    case isTrue hlast =>
      cases hstep
      refine ⟨?_, h.inputOk, h.length, Nat.succ_pos _, fun _ => rfl⟩
      intro a hne
      obtain ⟨hne, hoffset⟩ := hothers a hne
      rcases h.willCopy a hne with hset | hold | hmark
      · exact .inl hset
      · rw [hfetched] at hold
        rcases hold with ⟨hpage, hle⟩ | hmem
        · have hlt : a % logPageSize < logPageSize := Nat.mod_lt a (Nat.succ_pos _)
          have hdiff := hoffset hpage
          omega
        · exact .inr (.inl (uncopied_zero hmem))
      · exact .inr (.inr hmark)
    case isFalse hmore =>
      cases hstep
      refine ⟨?_, h.inputOk, h.length, ?_, ?_⟩
      · intro a hne
        obtain ⟨hne, hoffset⟩ := hothers a hne
        rcases h.willCopy a hne with hset | hold | hmark
        · exact .inl hset
        · rw [hfetched] at hold
          refine .inr (.inl ?_)
          show Uncopied (s.copied + 1) a s.fetched
          rw [hfetched]
          rcases hold with ⟨hpage, hle⟩ | hmem
          · have hdiff := hoffset hpage
            exact .inl ⟨hpage, by omega⟩
          · exact .inr hmem
        · exact .inr (.inr hmark)
      · show s.copied + 1 < logPageSize
        omega
      · intro hnil
        rw [hfetched] at hnil
        cases hnil

/-- **Step lemma.** -/
theorem Inv.step {a : MigrationAction logLen} (h : s.Inv logLen) (haligned : Aligned a)
    (hstep : s.step a = some t) : t.Inv logLen := by
  cases a with
  | read region offset len result =>
    obtain ⟨⟨hidle, hle, hresult⟩, ht⟩ := Option.ite_none_right_eq_some.mp hstep
    cases ht
    exact h.readVolatile hidle region haligned.1 haligned.2 hle hresult
  | input => exact h.work hstep
  | fetch word => cases hstep; exact h.fetch word
  | copy => exact h.copyByte hstep

/-! ### A read that is not interrupted -/

theorem run_marking (logLen : Nat) {bitmap : AtomicBitmapMmap} : ∀ {count page : Nat} {s : Migration}
    {log : MmapLogReg}, s.input = .marking bitmap page count →
      bitmap.markPages count page s.log = some log →
        ∃ n, run (@Migration.step logLen) s (List.replicate n .input) =
          some { s with log := log, input := .idle } := by
  intro count
  induction count with
  | zero =>
    intro page s log hinput hmark
    cases hmark
    refine ⟨1, ?_⟩
    simp only [List.replicate, run, Migration.step, Migration.work, hinput]
  | succ count ih =>
    intro page s log hinput hmark
    rw [AtomicBitmapMmap.markPages] at hmark
    split at hmark
    case isTrue hout =>
      cases hmark
      refine ⟨1, ?_⟩
      simp only [List.replicate, run, Migration.step, Migration.work, hinput, if_pos hout]
    case isFalse hin =>
      dsimp only at hmark
      split at hmark
      case h_1 => cases hmark
      case h_2 log' hfetch =>
        have hstep : s.step (.input : MigrationAction logLen) =
            some { s with log := log', input := .marking bitmap (page + 1) count } := by
          simp only [Migration.step, Migration.work, hinput, if_neg hin, hfetch]
        obtain ⟨n, hn⟩ := ih (s := { s with log := log', input := .marking bitmap (page + 1) count })
          rfl hmark
        refine ⟨n + 1, ?_⟩
        rw [List.replicate_succ, run, hstep]
        exact hn

theorem run_writing (logLen : Nat) {bitmap : AtomicBitmapMmap} {offset len : Nat} :
    ∀ {data : List UInt8} {addr : Nat} {s : Migration}, s.input = .writing bitmap addr data offset len →
      run (@Migration.step logLen) s (List.replicate (data.length + 1) .input) =
        some ({ s with mem := writeBytes s.mem addr data }.markDirty bitmap offset len) := by
  intro data
  induction data with
  | nil =>
    intro addr s hinput
    have hmem : writeBytes s.mem addr [] = s.mem := by
      funext a
      exact writeBytes_of_outside (by rw [List.length_nil]; omega)
    have hstep : s.step (.input : MigrationAction logLen) = some (s.markDirty bitmap offset len) := by
      simp only [Migration.step, Migration.work, hinput]
    rw [hmem, List.length_nil, List.replicate_succ, run, hstep]
    rfl
  | cons byte data ih =>
    intro addr s hinput
    have hstep : s.step (.input : MigrationAction logLen) = some { s with
        mem := writeBytes s.mem addr [byte]
        input := .writing bitmap (addr + 1) data offset len } := by
      simp only [Migration.step, Migration.work, hinput]
    have happend := writeBytes_append s.mem addr [byte] data
    rw [List.singleton_append, List.length_singleton] at happend
    rw [List.length_cons, List.replicate_succ, run, hstep, happend]
    exact ih rfl

/-- `mark_dirty` of a slice, without interruption. -/
theorem run_markDirty (hlog : s.log.length = logLen) {bitmap : AtomicBitmapMmap}
    (hfit : bitmap.Fits logLen) {offset : Nat} (hoffset : offset ≤ wordMax) (len : Nat) : ∃ n log,
      run (@Migration.step logLen) (s.markDirty bitmap offset len) (List.replicate n .input) =
        some { s with log := log, input := .idle } ∧
      (BitmapMmapRegion.default.sliceAt offset).markDirty 0 len { inner := some bitmap, log := s.log } =
        some { inner := some bitmap, log := log } := by
  obtain ⟨log, hmark, -⟩ := bitmap.markDirty_spec offset len s.log (hlog ▸ hfit)
  have hbase : saturatingAdd 0 offset = offset := by
    rw [saturatingAdd_of_le (by omega), Nat.zero_add]
  have hslice : (BitmapMmapRegion.default.sliceAt offset).markDirty 0 len
      { inner := some bitmap, log := s.log } = some { inner := some bitmap, log := log } := by
    unfold BitmapMmapRegion.default BitmapMmapRegion.sliceAt BitmapMmapRegion.markDirty
    dsimp only
    rw [hbase, checkedAdd_of_le (by omega), Nat.add_zero]
    dsimp only
    rw [hmark]
  unfold AtomicBitmapMmap.markDirty at hmark
  unfold Migration.markDirty
  by_cases hlen : len = 0
  · rw [if_pos hlen] at hmark ⊢
    cases hmark
    exact ⟨0, s.log, rfl, hslice⟩
  · rw [if_neg hlen] at hmark ⊢
    let pc : InputPc := .marking bitmap (pageNumber offset)
      (pageNumber (saturatingAdd offset (len - 1)) + 1 - pageNumber offset)
    obtain ⟨n, hn⟩ := run_marking logLen (s := { s with input := pc }) rfl hmark
    exact ⟨n, log, hn, hslice⟩

/-- **A read that nothing comes between** is the closure of `read_to_desc` on the guest memory, and
`mark_dirty` of the slice on the log. -/
theorem read_uninterrupted (h : s.Inv logLen) (hidle : s.input = .idle)
    (region : LoggedRegion logLen) {offset len : Nat} (hle : offset + len ≤ region.region.size)
    {rx : RxState} (hmem : rx.mem = s.mem) {data : List UInt8} {input : List Incoming}
    (hread : Console.readVolatile len rx.input = (.ok data, input)) (hdata : data.length ≤ len)
    (total : Nat) :
    ∃ n t, run Migration.step s (.read region offset len (.ok data) :: List.replicate n .input) =
        some t ∧ t.mem = (rx.readPiece total len (region.region.start + offset)).2.mem ∧
      (BitmapMmapRegion.default.sliceAt offset).markDirty 0 data.length
        { inner := some region.bitmap, log := s.log } =
          some { inner := some region.bitmap, log := t.log } := by
  have hsize := AtomicBitmapMmap.new_len_le region.made
  let u : Migration := { s with mem := writeBytes s.mem (region.region.start + offset) data }
  have hlog : u.log.length = logLen := h.length
  have hwrite := run_writing logLen (s := s.readVolatile region offset len (.ok data)) rfl
  obtain ⟨n, log, hmark, hslice⟩ :=
    run_markDirty hlog (AtomicBitmapMmap.new_fits region.made)
      (show offset ≤ wordMax by omega) data.length
  have hstep : s.step (.read region offset len (.ok data)) =
      some (s.readVolatile region offset len (.ok data)) := if_pos ⟨hidle, hle, hdata⟩
  refine ⟨data.length + 1 + n, { u with log := log, input := .idle }, ?_, ?_, hslice⟩
  · rw [run, hstep, ← List.replicate_append_replicate]
    dsimp only
    rw [run_append, hwrite]
    exact hmark
  · rw [RxState.readPiece, hread, hmem]

/-! ### The last pass -/

/-- The device reads no more; what it has begun it ends, and the frontend goes on. -/
def LastPass : MigrationAction logLen → Prop
  | .read .. => False
  | _ => True

/-- From `s` the last pass comes to `t`, and it keeps the invariant. -/
def Passes (logLen : Nat) (s t : Migration) : Prop :=
  Reaches (@Migration.step logLen) (fun _ a => LastPass a) s t

theorem Passes.inv (hp : Passes logLen s t) (h : s.Inv logLen) : t.Inv logLen := by
  refine hp.invariant h fun s a t hs hlast hstep => hs.step ?_ hstep
  cases a with
  | read => exact hlast.elim
  | input | fetch | copy => trivial

theorem Passes.step {u : Migration} {a : MigrationAction logLen} (hstep : s.step a = some t)
    (hlast : LastPass a) (hrest : Passes logLen t u) : Passes logLen s u := by
  have hone : Passes logLen s t := .tail .refl hlast hstep
  exact hone.trans hrest

/-- `mark_dirty` comes to its end. -/
theorem passes_marking : ∀ {count page : Nat} {s : Migration} {bitmap : AtomicBitmapMmap},
    s.Inv logLen → s.input = .marking bitmap page count → ∃ t, Passes logLen s t ∧ t.input = .idle := by
  intro count
  induction count with
  | zero =>
    intro page s bitmap h hinput
    have hstep : s.step (.input : MigrationAction logLen) = some { s with input := .idle } := by
      simp only [Migration.step, Migration.work, hinput]
    exact ⟨_, .step hstep trivial .refl, rfl⟩
  | succ count ih =>
    intro page s bitmap h hinput
    have hok := h.inputOk
    rw [InputOk, hinput] at hok
    by_cases hout : bitmap.numberOfPages ≤ page
    · have hstep : s.step (.input : MigrationAction logLen) = some { s with input := .idle } := by
        simp only [Migration.step, Migration.work, hinput, if_pos hout]
      exact ⟨_, .step hstep trivial .refl, rfl⟩
    · obtain ⟨log, hfetch, hlen, -⟩ := fetchOr_page (hok page (Nat.lt_of_not_le hout))
      have hstep : s.step (.input : MigrationAction logLen) =
          some { s with log := log, input := .marking bitmap (page + 1) count } := by
        simp only [Migration.step, Migration.work, hinput, if_neg hout, hfetch]
      obtain ⟨t, hrest, hidle⟩ := ih (h.work hstep) rfl
      exact ⟨t, Passes.step hstep trivial hrest, hidle⟩

/-- So does the read. -/
theorem passes_writing : ∀ {data : List UInt8} {addr offset len : Nat} {s : Migration}
    {bitmap : AtomicBitmapMmap}, s.Inv logLen → s.input = .writing bitmap addr data offset len →
      ∃ t, Passes logLen s t ∧ t.input = .idle := by
  intro data
  induction data with
  | nil =>
    intro addr offset len s bitmap h hinput
    have hstep : s.step (.input : MigrationAction logLen) = some (s.markDirty bitmap offset len) := by
      simp only [Migration.step, Migration.work, hinput]
    have hmark := h.markDirty hinput
    by_cases hlen : len = 0
    · refine ⟨_, .step hstep trivial .refl, ?_⟩
      rw [Migration.markDirty, if_pos hlen]
    · obtain ⟨t, hrest, hidle⟩ := passes_marking hmark (by rw [Migration.markDirty, if_neg hlen])
      exact ⟨t, Passes.step hstep trivial hrest, hidle⟩
  | cons byte data ih =>
    intro addr offset len s bitmap h hinput
    have hstep : s.step (.input : MigrationAction logLen) = some { s with
        mem := writeBytes s.mem addr [byte]
        input := .writing bitmap (addr + 1) data offset len } := by
      simp only [Migration.step, Migration.work, hinput]
    obtain ⟨t, hrest, hidle⟩ := ih (h.writeByte hinput) rfl
    exact ⟨t, Passes.step hstep trivial hrest, hidle⟩

theorem passes_input (h : s.Inv logLen) : ∃ t, Passes logLen s t ∧ t.input = .idle := by
  cases hinput : s.input with
  | idle => exact ⟨s, .refl, hinput⟩
  | writing => exact passes_writing h hinput
  | marking => exact passes_marking h hinput

/-- The frontend takes the first `n` bytes of the log. -/
theorem passes_fetch (logLen : Nat) (s : Migration) : ∀ n : Nat,
    ∃ t, Passes logLen s t ∧ t.input = s.input ∧
      ∀ page, pageIsSet t.log page = true → n ≤ pageWord page ∧ pageIsSet s.log page = true := by
  intro n
  induction n with
  | zero => exact ⟨s, .refl, rfl, fun page hset => ⟨Nat.zero_le _, hset⟩⟩
  | succ n ih =>
    obtain ⟨t, hpass, hinput, hset⟩ := ih
    refine ⟨_, hpass.tail (a := .fetch n) trivial rfl, hinput, ?_⟩
    intro page hpage
    obtain ⟨hne, hold⟩ := pageIsSet_fetchWord.mp hpage
    obtain ⟨hle, hs⟩ := hset page hold
    exact ⟨by omega, hs⟩

/-- The frontend copies the rest of a page. -/
theorem passes_page (logLen : Nat) {page : Nat} {rest : List Nat} : ∀ {n : Nat} {s : Migration},
    s.fetched = page :: rest → s.copied + n + 1 = logPageSize →
      ∃ t, Passes logLen s t ∧ t.input = s.input ∧ t.log = s.log ∧ t.fetched = rest ∧ t.copied = 0 := by
  intro n
  induction n with
  | zero =>
    intro s hfetched hcopied
    have hstep : s.step (.copy : MigrationAction logLen) = some { s with
        copy := writeBytes s.copy (page * logPageSize + s.copied)
          [s.mem (page * logPageSize + s.copied)]
        fetched := rest
        copied := 0 } := by
      simp only [Migration.step, Migration.copyByte, hfetched]
      rw [if_pos (by omega)]
    exact ⟨_, .step hstep trivial .refl, rfl, rfl, rfl, rfl⟩
  | succ n ih =>
    intro s hfetched hcopied
    have hstep : s.step (.copy : MigrationAction logLen) = some { s with
        copy := writeBytes s.copy (page * logPageSize + s.copied)
          [s.mem (page * logPageSize + s.copied)]
        copied := s.copied + 1 } := by
      simp only [Migration.step, Migration.copyByte, hfetched]
      rw [if_neg (by omega)]
    obtain ⟨t, hrest, hinput, hlog, hdone⟩ := ih (s := { s with
      copy := writeBytes s.copy (page * logPageSize + s.copied)
        [s.mem (page * logPageSize + s.copied)]
      copied := s.copied + 1 }) hfetched (by dsimp only; omega)
    exact ⟨t, Passes.step hstep trivial hrest, hinput, hlog, hdone⟩

/-- The frontend copies all pages that it has fetched. -/
theorem passes_copy (logLen : Nat) : ∀ {pages : List Nat} {s : Migration}, s.fetched = pages →
    s.copied < logPageSize → ∃ t, Passes logLen s t ∧ t.input = s.input ∧ t.log = s.log ∧
      t.fetched = [] := by
  intro pages
  induction pages with
  | nil => exact fun {s} hfetched _ => ⟨s, .refl, rfl, rfl, hfetched⟩
  | cons page rest ih =>
    intro s hfetched hcopied
    obtain ⟨t, hpass, hinput, hlog, hrest, hzero⟩ :=
      passes_page logLen (n := logPageSize - s.copied - 1) hfetched (by omega)
    obtain ⟨u, hpass', hinput', hlog', hnil⟩ := ih hrest (by rw [hzero]; exact Nat.succ_pos _)
    exact ⟨u, hpass.trans hpass', hinput'.trans hinput, hlog'.trans hlog, hnil⟩

/-- Nothing is under way, and nothing is in the log. -/
structure Quiescent (s : Migration) : Prop where
  idle : s.input = .idle
  clean : ∀ page, pageIsSet s.log page = false
  fetched : s.fetched = []

theorem Inv.copy_eq (h : s.Inv logLen) (hq : s.Quiescent) : s.copy = s.mem := by
  funext a
  by_contra hne
  rcases h.willCopy a (Ne.symm hne) with hset | hfetched | hmark
  · rw [hq.clean] at hset
    cases hset
  · rw [hq.fetched] at hfetched
    exact hfetched
  · rw [hq.idle] at hmark
    exact hmark

theorem pageIsSet_of_length_le {log : MmapLogReg} {page : Nat} (h : log.length ≤ pageWord page) :
    pageIsSet log page = false := by
  rw [pageIsSet, List.getD_eq_default _ _ h]
  exact Nat.zero_testBit _

theorem Inv.passes (h : s.Inv logLen) : ∃ t, Passes logLen s t ∧ t.Quiescent := by
  obtain ⟨t, hpass₁, hidle⟩ := passes_input h
  have ht := hpass₁.inv h
  obtain ⟨u, hpass₂, hinput₂, hset⟩ := passes_fetch logLen t logLen
  have hu := hpass₂.inv ht
  obtain ⟨v, hpass₃, hinput₃, hlog, hnil⟩ := passes_copy logLen rfl hu.copied
  refine ⟨v, (hpass₁.trans hpass₂).trans hpass₃, hinput₃.trans (hinput₂.trans hidle), ?_, hnil⟩
  intro page
  rw [hlog, ← Bool.not_eq_true]
  intro hpage
  obtain ⟨hle, hold⟩ := hset page hpage
  rw [pageIsSet_of_length_le (ht.length ▸ hle)] at hold
  cases hold

end Migration

/-- **No input is lost in a migration.**  Whatever the device and the frontend have done before, in
whatever order their steps came: when nothing is under way and the log is clean, the copy is the
guest memory, byte by byte; and when the device reads no more, they can come to such a state. -/
theorem input_migrates (mem : Bytes) {logLen : Nat} {s : Migration}
    (hr : Reaches (@Migration.step logLen) (fun _ a => Migration.Aligned a)
      (.new mem logLen) s) :
    (s.Quiescent → s.copy = s.mem) ∧ ∃ t, Migration.Passes logLen s t ∧ t.Quiescent := by
  have h : s.Inv logLen := hr.invariant (Migration.inv_new mem logLen) fun _ _ _ h haligned hstep =>
    h.step haligned hstep
  exact ⟨h.copy_eq, h.passes⟩

/-- Two pages of guest memory from `0x1000`. -/
def twoPages : LoggedRegion 1 := ⟨⟨0x1000, 0x2000⟩, ⟨1, 2⟩, by decide⟩

/-- Three bytes are read across the two pages; the frontend takes the log when only the first page has
been marked. -/
def fetchedBetween : List (MigrationAction 1) :=
  [.read twoPages 0xfff 3 (.ok [1, 2, 3]), .input, .input, .input, .input, .input, .fetch 0, .input,
    .input]

theorem input_migrates_fetchedBetween :
    ∃ s, run Migration.step (.new (fun _ => 0) 1) fetchedBetween = some s ∧
      s.mem 0x2000 ≠ s.copy 0x2000 ∧ ∃ t, Migration.Passes 1 s t ∧ t.Quiescent := by
  obtain ⟨s, hrun, hdiffers⟩ : ∃ s, run Migration.step (.new (fun _ => 0) 1) fetchedBetween = some s ∧
      s.mem 0x2000 ≠ s.copy 0x2000 := ⟨_, rfl, by decide⟩
  have haligned : ∀ a ∈ fetchedBetween, Migration.Aligned a := by
    simp [fetchedBetween, Migration.Aligned, twoPages]
  have hreach := reaches_of_run fetchedBetween _ hrun
    (along_of_forall_mem fetchedBetween _ fun a ha _ => haligned a ha)
  exact ⟨s, hrun, hdiffers, (input_migrates _ hreach).2⟩

end VirtioPoc.Console
