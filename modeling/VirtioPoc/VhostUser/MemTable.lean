import VirtioPoc.Base.Run
import VirtioPoc.Virtio.Memory
import Mathlib.Data.List.Perm.Basic
import Mathlib.Data.List.Nodup
import Mathlib.Data.List.Sort

/-!
# Guest memory and the address mappings

`set_mem_table`, `add_mem_region`, `remove_mem_region` and `vmm_va_to_gpa` of
`vhost-user/src/handler.rs`.  The handler keeps two descriptions of the guest
memory: the regions installed in `atomic_mem`, and in `mappings` the user
address at which the front-end sees each of them.  The three messages update
them in three different ways, around calls that can fail.

The collections of regions are `vm-memory`'s, which is not part of this
repository: they are the parameter `VmMemory`, and `VmMemory.Lawful` states
what the handler relies on.  `MemTable.Consistent` is the invariant; that the
guest ranges do not overlap is what makes the `retain` by base alone exact.
-/

namespace VirtioPoc.VhostUser

open Base Virtio

/-! ### Messages and guest memory -/

/-- A memory region of a message, as the `vhost` crate lets it through: it is
not empty, and neither of its ranges leaves the address space. -/
structure VhostUserMemoryRegion where
  guestPhysAddr : Nat
  memorySize : Nat
  userAddr : Nat
  size_pos : 0 < memorySize
  guest_fits : guestPhysAddr + memorySize ≤ wordMax
  user_fits : userAddr + memorySize ≤ wordMax

/-- `GuestMemoryMmap`. -/
abbrev GuestMemory := List GuestRegion

/-- What the handler calls in `vm-memory`.  `mmapRegion` maps the file of a region; the others
return the new memory, or fail. -/
structure VmMemory (File : Type) where
  mmapRegion : VhostUserMemoryRegion → File → Bool
  fromRegions : List GuestRegion → Option GuestMemory
  insertRegion : GuestMemory → GuestRegion → Option GuestMemory
  removeRegion : GuestMemory → (base size : Nat) → Option GuestMemory

/-- **What the handler relies on**: regions are installed as given, never with an overlap, and
removed by their exact base and size. -/
structure VmMemory.Lawful {File : Type} (vm : VmMemory File) : Prop where
  fromRegions : ∀ {rs mem}, vm.fromRegions rs = some mem →
    mem = rs ∧ rs ≠ [] ∧ rs.Pairwise fun r r' => r.start + r.size ≤ r'.start
  insertRegion : ∀ {mem r mem'}, vm.insertRegion mem r = some mem' →
    mem'.Perm (r :: mem) ∧ ∀ r' ∈ mem, r.Apart r'
  removeRegion : ∀ {mem base size mem'}, vm.removeRegion mem base size = some mem' →
    ⟨base, size⟩ ∈ mem ∧ mem' = mem.erase ⟨base, size⟩

/-! ### The handler -/

structure AddrMapping where
  (vmmAddr size gpaBase : Nat)
  deriving DecidableEq

/-- The region that a mapping is for. -/
def AddrMapping.region (m : AddrMapping) : GuestRegion := ⟨m.gpaBase, m.size⟩

/-- The part of `VhostUserHandler` that is about memory. -/
structure MemTable where
  memoryUpdated : Bool
  mappings : List AddrMapping
  atomicMem : GuestMemory

def MemTable.new : MemTable := { memoryUpdated := false, mappings := [], atomicMem := [] }

inductive VhostUserError
  | mmapRegion
  | reqHandlerError
  deriving DecidableEq

section

variable {File : Type} (vm : VmMemory File)

/-- `GuestRegionMmap::new(region.mmap_region(file)?, region.guest_phys_addr)`. -/
def mapRegion (region : VhostUserMemoryRegion) (file : File) : Except VhostUserError GuestRegion :=
  if vm.mmapRegion region file then
    match GuestRegion.new region.guestPhysAddr region.memorySize with
    | none => .error .reqHandlerError
    | some guestRegion => .ok guestRegion
  else .error .mmapRegion

def VhostUserMemoryRegion.addrMapping (region : VhostUserMemoryRegion) : AddrMapping :=
  { vmmAddr := region.userAddr, size := region.memorySize, gpaBase := region.guestPhysAddr }

/-- The loop of `set_mem_table` over the regions and their files. -/
def collectRegions : List (VhostUserMemoryRegion × File) → List GuestRegion → List AddrMapping →
    Except VhostUserError (List GuestRegion × List AddrMapping)
  | [], regions, mappings => .ok (regions, mappings)
  | (region, file) :: rest, regions, mappings =>
    match mapRegion vm region file with
    | .error e => .error e
    | .ok guestRegion =>
      collectRegions rest (regions ++ [guestRegion]) (mappings ++ [region.addrMapping])

/-- The messages about guest memory, each with the files that come with it. -/
inductive MemMessage (File : Type)
  | setMemTable (ctx : List VhostUserMemoryRegion) (files : List File)
  | addMemRegion (region : VhostUserMemoryRegion) (file : File)
  | removeMemRegion (region : VhostUserMemoryRegion)

namespace MemTable

def setMemTable (ctx : List VhostUserMemoryRegion) (files : List File) (h : MemTable) :
    Except VhostUserError Unit × MemTable :=
  match collectRegions vm (ctx.zip files) [] [] with
  | .error e => (.error e, h)
  | .ok (regions, mappings) =>
    match vm.fromRegions regions with
    | none => (.error .reqHandlerError, h)
    | some mem => (.ok (), { memoryUpdated := true, mappings := mappings, atomicMem := mem })

def addMemRegion (region : VhostUserMemoryRegion) (file : File) (h : MemTable) :
    Except VhostUserError Unit × MemTable :=
  match mapRegion vm region file with
  | .error e => (.error e, h)
  | .ok guestRegion =>
    match vm.insertRegion h.atomicMem guestRegion with
    | none => (.error .reqHandlerError, h)
    | some mem =>
      (.ok (), { h with atomicMem := mem, mappings := h.mappings ++ [region.addrMapping] })

def removeMemRegion (region : VhostUserMemoryRegion) (h : MemTable) :
    Except VhostUserError Unit × MemTable :=
  match vm.removeRegion h.atomicMem region.guestPhysAddr region.memorySize with
  | none => (.error .reqHandlerError, h)
  | some mem =>
    (.ok (), { h with
      atomicMem := mem
      mappings := h.mappings.filter fun mapping => mapping.gpaBase ≠ region.guestPhysAddr })

def handle (h : MemTable) : MemMessage File → Except VhostUserError Unit × MemTable
  | .setMemTable ctx files => h.setMemTable vm ctx files
  | .addMemRegion region file => h.addMemRegion vm region file
  | .removeMemRegion region => h.removeMemRegion vm region

/-- A message is handled, whatever its result. -/
def step (h : MemTable) (msg : MemMessage File) : Option MemTable := some (h.handle vm msg).2

end MemTable

end

/-- `VhostUserHandlerError`, as far as a translation returns it. -/
inductive VhostUserHandlerError
  | missingMemoryMapping
  deriving DecidableEq

/-- The loop of `vmm_va_to_gpa`; `none` is an overflow of one of its two additions. -/
def findMapping (vmmVa : Nat) : List AddrMapping → Option (Except VhostUserHandlerError Nat)
  | [] => some (.error .missingMemoryMapping)
  | mapping :: rest =>
    if mapping.vmmAddr ≤ vmmVa then
      match checkedAdd mapping.vmmAddr mapping.size with
      | none => none
      | some mappingEnd =>
        if vmmVa < mappingEnd then
          match checkedAdd (vmmVa - mapping.vmmAddr) mapping.gpaBase with
          | none => none
          | some gpa => some (.ok gpa)
        else findMapping vmmVa rest
    else findMapping vmmVa rest

def MemTable.vmmVaToGpa (h : MemTable) (vmmVa : Nat) : Option (Except VhostUserHandlerError Nat) :=
  findMapping vmmVa h.mappings

/-! ### What a successful call installs -/

def AddrMapping.Contains (m : AddrMapping) (va : Nat) : Prop := m.vmmAddr ≤ va ∧ va < m.vmmAddr + m.size

/-- The bounds that a mapping has from the message it was made for. -/
structure AddrMapping.Valid (m : AddrMapping) : Prop where
  size_pos : 0 < m.size
  guest_fits : m.gpaBase + m.size ≤ wordMax
  user_fits : m.vmmAddr + m.size ≤ wordMax

theorem VhostUserMemoryRegion.addrMapping_valid (region : VhostUserMemoryRegion) :
    region.addrMapping.Valid := ⟨region.size_pos, region.guest_fits, region.user_fits⟩

section

variable {File : Type} {vm : VmMemory File} {region : VhostUserMemoryRegion} {file : File}

theorem mapRegion_eq_ok {r : GuestRegion} (h : mapRegion vm region file = .ok r) :
    r = region.addrMapping.region := by
  unfold mapRegion GuestRegion.new at h
  rw [checkedAdd_of_le region.guest_fits] at h
  split at h
  case isTrue =>
    cases h
    rfl
  case isFalse => cases h

/-- The loop pushes a region and its mapping for each message. -/
theorem collectRegions_eq_ok : ∀ (ctx : List (VhostUserMemoryRegion × File))
    {regions regions' : List GuestRegion} {mappings mappings' : List AddrMapping},
    collectRegions vm ctx regions mappings = .ok (regions', mappings') →
    ∃ pushed : List AddrMapping, regions' = regions ++ pushed.map AddrMapping.region ∧
      mappings' = mappings ++ pushed ∧ ∀ m ∈ pushed, m.Valid := by
  intro ctx
  induction ctx with
  | nil =>
    intro regions regions' mappings mappings' h
    cases h
    exact ⟨[], (List.append_nil _).symm, (List.append_nil _).symm, fun m hm => nomatch hm⟩
  | cons p ctx ih =>
    intro regions regions' mappings mappings' h
    obtain ⟨region, file⟩ := p
    rw [collectRegions] at h
    cases hr : mapRegion vm region file with
    | error e => rw [hr] at h; cases h
    | ok r =>
      rw [hr] at h
      obtain ⟨pushed, rfl, rfl, hvalid⟩ := ih h
      refine ⟨region.addrMapping :: pushed, ?_, ?_, ?_⟩
      · rw [mapRegion_eq_ok hr, List.map_cons, List.append_assoc, List.singleton_append]
      · rw [List.append_assoc, List.singleton_append]
      · intro m hm
        rcases List.mem_cons.mp hm with rfl | hm
        · exact region.addrMapping_valid
        · exact hvalid m hm

end

/-! ### The invariant -/

/-- Where the starts differ, removing a region is removing everything at its start. -/
theorem erase_eq_filter_start {l : List GuestRegion} {r : GuestRegion}
    (hl : (l.map GuestRegion.start).Nodup) (hr : r ∈ l) :
    l.erase r = l.filter fun r' => r'.start ≠ r.start := by
  rw [hl.of_map.erase_eq_filter]
  refine List.filter_congr fun r' hr' => ?_
  have hstart : r'.start = r.start ↔ r' = r :=
    ⟨fun h => List.inj_on_of_nodup_map hl hr' hr h, congrArg _⟩
  by_cases he : r' = r <;> simp [hstart, he]

namespace MemTable

/-- The mappings are those of the installed regions, with the bounds of the messages they came in,
and no two regions overlap. -/
structure Consistent (h : MemTable) : Prop where
  regions : (h.mappings.map AddrMapping.region).Perm h.atomicMem
  valid : ∀ m ∈ h.mappings, m.Valid
  apart : h.atomicMem.Pairwise GuestRegion.Apart

theorem consistent_new : Consistent new :=
  ⟨List.Perm.nil, fun _ hm => (List.not_mem_nil hm).elim, List.Pairwise.nil⟩

namespace Consistent

variable {h : MemTable} (hc : h.Consistent)
include hc

theorem size_pos {r : GuestRegion} (hr : r ∈ h.atomicMem) : 0 < r.size := by
  obtain ⟨m, hm, rfl⟩ := List.mem_map.mp (hc.regions.mem_iff.mpr hr)
  exact (hc.valid m hm).size_pos

theorem starts_nodup : (h.atomicMem.map GuestRegion.start).Nodup :=
  List.pairwise_map.mpr <| hc.apart.imp_of_mem fun hr hr' hap =>
    hap.start_ne (hc.size_pos hr) (hc.size_pos hr')

end Consistent

/-! ### Each message keeps it -/

section

variable {File : Type} {vm : VmMemory File} (hvm : vm.Lawful) {h : MemTable} (hc : h.Consistent)
include hvm hc

theorem consistent_setMemTable (ctx : List VhostUserMemoryRegion) (files : List File) :
    (h.setMemTable vm ctx files).2.Consistent := by
  unfold setMemTable
  cases hl : collectRegions vm (ctx.zip files) [] [] with
  | error e => exact hc
  | ok p =>
    obtain ⟨regions, mappings⟩ := p
    obtain ⟨pushed, hregions, hmappings, hvalid⟩ := collectRegions_eq_ok _ hl
    rw [List.nil_append] at hregions hmappings
    subst hregions hmappings
    dsimp only
    cases hf : vm.fromRegions (mappings.map AddrMapping.region) with
    | none => exact hc
    | some mem =>
      obtain ⟨rfl, -, hsorted⟩ := hvm.fromRegions hf
      exact ⟨List.Perm.refl _, hvalid, hsorted.imp Or.inl⟩

theorem consistent_addMemRegion (region : VhostUserMemoryRegion) (file : File) :
    (h.addMemRegion vm region file).2.Consistent := by
  unfold addMemRegion
  cases hr : mapRegion vm region file with
  | error e => exact hc
  | ok r =>
    obtain rfl := mapRegion_eq_ok hr
    dsimp only
    cases hi : vm.insertRegion h.atomicMem region.addrMapping.region with
    | none => exact hc
    | some mem =>
      obtain ⟨hperm, hapart⟩ := hvm.insertRegion hi
      refine ⟨?_, ?_, ?_⟩
      · calc (h.mappings ++ [region.addrMapping]).map AddrMapping.region
          _ = h.mappings.map AddrMapping.region ++ [region.addrMapping.region] := by
            rw [List.map_append]
            rfl
          _ |>.Perm (region.addrMapping.region :: h.mappings.map AddrMapping.region) :=
            List.perm_append_singleton _ _
          _ |>.Perm (region.addrMapping.region :: h.atomicMem) := hc.regions.cons _
          _ |>.Perm mem := hperm.symm
      · intro m hm
        rcases List.mem_append.mp hm with hm | hm
        · exact hc.valid m hm
        · rw [List.mem_singleton.mp hm]
          exact region.addrMapping_valid
      · exact (hperm.symm.pairwise_iff GuestRegion.Apart.symm).mp
          (List.pairwise_cons.mpr ⟨hapart, hc.apart⟩)

theorem consistent_removeMemRegion (region : VhostUserMemoryRegion) :
    (h.removeMemRegion vm region).2.Consistent := by
  unfold removeMemRegion
  cases hr : vm.removeRegion h.atomicMem region.guestPhysAddr region.memorySize with
  | none => exact hc
  | some mem =>
    obtain ⟨hmem, rfl⟩ := hvm.removeRegion hr
    refine ⟨?_, ?_, ?_⟩
    · rw [erase_eq_filter_start hc.starts_nodup hmem]
      have hfilter := hc.regions.filter fun r' => decide (r'.start ≠ region.guestPhysAddr)
      rw [List.filter_map] at hfilter
      exact hfilter
    · intro m hm
      exact hc.valid m (List.mem_filter.mp hm).1
    · exact hc.apart.sublist (List.erase_sublist)

theorem consistent_handle (msg : MemMessage File) : (h.handle vm msg).2.Consistent := by
  cases msg with
  | setMemTable ctx files => exact consistent_setMemTable hvm hc ctx files
  | addMemRegion region file => exact consistent_addMemRegion hvm hc region file
  | removeMemRegion region => exact consistent_removeMemRegion hvm hc region

end

/-! ### The memory after a message -/

section

variable {File : Type} {vm : VmMemory File} (hvm : vm.Lawful) {h t : MemTable}
include hvm

theorem ne_nil_of_setMemTable {ctx : List VhostUserMemoryRegion} {files : List File}
    (ht : h.setMemTable vm ctx files = (.ok (), t)) : t.atomicMem ≠ [] := by
  unfold setMemTable at ht
  split at ht
  · cases ht
  · split at ht
    · cases ht
    · rename_i mem hmem
      cases ht
      obtain ⟨rfl, hne, -⟩ := hvm.fromRegions hmem
      exact hne

theorem mem_of_addMemRegion {region : VhostUserMemoryRegion} {file : File}
    (ht : h.addMemRegion vm region file = (.ok (), t)) :
    region.addrMapping.region ∈ t.atomicMem := by
  unfold addMemRegion at ht
  split at ht
  · cases ht
  · rename_i r hr
    obtain rfl := mapRegion_eq_ok hr
    split at ht
    · cases ht
    · rename_i mem hmem
      cases ht
      exact (hvm.insertRegion hmem).1.mem_iff.mpr List.mem_cons_self

theorem mem_of_removeMemRegion {region : VhostUserMemoryRegion}
    (ht : h.removeMemRegion vm region = (.ok (), t)) {r : GuestRegion} (hr : r ∈ t.atomicMem) :
    r ∈ h.atomicMem := by
  unfold removeMemRegion at ht
  split at ht
  · cases ht
  · rename_i mem hmem
    cases ht
    obtain ⟨-, rfl⟩ := hvm.removeRegion hmem
    exact List.mem_of_mem_erase hr

end

/-- A message that fails changes nothing. -/
theorem handle_error {File : Type} {vm : VmMemory File} {h : MemTable} {msg : MemMessage File}
    {e : VhostUserError} (he : (h.handle vm msg).1 = .error e) : (h.handle vm msg).2 = h := by
  cases msg with
  | setMemTable ctx files =>
    rw [handle, setMemTable] at he ⊢
    cases hl : collectRegions vm (ctx.zip files) [] [] with
    | error e => rfl
    | ok p =>
      rw [hl] at he
      dsimp only at he ⊢
      cases hf : vm.fromRegions p.1 with
      | none => rfl
      | some mem => rw [hf] at he; cases he
  | addMemRegion region file =>
    rw [handle, addMemRegion] at he ⊢
    cases hr : mapRegion vm region file with
    | error e => rfl
    | ok r =>
      rw [hr] at he
      dsimp only at he ⊢
      cases hi : vm.insertRegion h.atomicMem r with
      | none => rfl
      | some mem => rw [hi] at he; cases he
  | removeMemRegion region =>
    rw [handle, removeMemRegion] at he ⊢
    cases hr : vm.removeRegion h.atomicMem region.guestPhysAddr region.memorySize with
    | none => rfl
    | some mem => rw [hr] at he; cases he

end MemTable

/-! ### Translation -/

/-- Among mappings in their bounds the loop never overflows: it translates through a mapping that
contains the address, and finds none only if there is none. -/
theorem findMapping_spec (va : Nat) : ∀ mappings : List AddrMapping,
    (∀ m ∈ mappings, m.Valid) →
    (∃ m ∈ mappings, m.Contains va ∧
      findMapping va mappings = some (.ok (va - m.vmmAddr + m.gpaBase))) ∨
    ((∀ m ∈ mappings, ¬ m.Contains va) ∧
      findMapping va mappings = some (.error .missingMemoryMapping)) := by
  intro mappings
  induction mappings with
  | nil =>
    intro _
    exact Or.inr ⟨fun m hm => (List.not_mem_nil hm).elim, rfl⟩
  | cons m rest ih =>
    intro hvalid
    have hm := hvalid m List.mem_cons_self
    have hrest := ih fun m' hm' => hvalid m' (List.mem_cons_of_mem _ hm')
    by_cases hc : m.Contains va
    · refine Or.inl ⟨m, List.mem_cons_self, hc, ?_⟩
      have hlt := hc.2
      have hguest := hm.guest_fits
      rw [findMapping, if_pos hc.1, checkedAdd_of_le hm.user_fits]
      dsimp only
      rw [if_pos hc.2, checkedAdd_of_le (by omega)]
    · -- the mapping is passed over, for one of its two ends
      have hnext : findMapping va (m :: rest) = findMapping va rest := by
        rw [findMapping, checkedAdd_of_le hm.user_fits]
        unfold AddrMapping.Contains at hc
        dsimp only
        by_cases hle : m.vmmAddr ≤ va
        · rw [if_pos hle, if_neg (by omega)]
        · rw [if_neg hle]
      rw [hnext]
      rcases hrest with ⟨m', hm', hc', hf⟩ | ⟨hnone, hf⟩
      · exact Or.inl ⟨m', List.mem_cons_of_mem _ hm', hc', hf⟩
      · refine Or.inr ⟨fun m' hm' => ?_, hf⟩
        rcases List.mem_cons.mp hm' with rfl | hm'
        · exact hc
        · exact hnone m' hm'

/-- What a translation returns for `va`, in terms of the mappings and the guest memory. -/
def MemTable.Translates (h : MemTable) (va : Nat) (res : Except VhostUserHandlerError Nat) : Prop :=
  (∀ gpa, res = .ok gpa → ∃ m ∈ h.mappings, ∃ r ∈ h.atomicMem, m.Contains va ∧
    r.start = m.gpaBase ∧ r.size = m.size ∧ gpa = r.start + (va - m.vmmAddr) ∧
    gpa < r.start + r.size) ∧
  ((∃ e, res = .error e) ↔ ∀ m ∈ h.mappings, ¬ m.Contains va)

theorem MemTable.Consistent.translates {h : MemTable} (hc : h.Consistent) (va : Nat) :
    ∃ res, h.vmmVaToGpa va = some res ∧ h.Translates va res := by
  rcases findMapping_spec va h.mappings hc.valid with ⟨m, hm, hin, hf⟩ | ⟨hnone, hf⟩
  · refine ⟨_, hf, ?_, ?_, ?_⟩
    · intro gpa hgpa
      cases hgpa
      have hr : m.region ∈ h.atomicMem := hc.regions.mem_iff.mp (List.mem_map_of_mem hm)
      refine ⟨m, hm, m.region, hr, hin, rfl, rfl, Nat.add_comm _ _, ?_⟩
      obtain ⟨hle, hlt⟩ := hin
      show va - m.vmmAddr + m.gpaBase < m.gpaBase + m.size
      omega
    · rintro ⟨e, he⟩
      cases he
    · intro hnone
      exact absurd hin (hnone m hm)
  · refine ⟨_, hf, ?_, fun _ => hnone, fun _ => ⟨_, rfl⟩⟩
    intro gpa hgpa
    cases hgpa

/-- **Translation matches the installed guest memory**, after any sequence of messages, from an
empty memory.  The mappings are, by base and size, the regions; a message that fails changes
neither; and every address translates, without overflow, to the same offset of the region of a
mapping that contains it, or to an error if there is no such mapping. -/
theorem translation_matches_memory {File : Type} {vm : VmMemory File} (hvm : vm.Lawful)
    {h : MemTable} (hr : Reaches (MemTable.step vm) (fun _ _ => True) MemTable.new h) :
    (h.mappings.map AddrMapping.region).Perm h.atomicMem ∧
    (h.atomicMem.map GuestRegion.start).Nodup ∧
    (∀ msg e, (h.handle vm msg).1 = .error e → (h.handle vm msg).2 = h) ∧
    ∀ va, ∃ res, h.vmmVaToGpa va = some res ∧ h.Translates va res := by
  have hc : h.Consistent := hr.invariant MemTable.consistent_new fun h msg h' hc _ hstep => by
    obtain rfl := Option.some.inj hstep
    exact MemTable.consistent_handle hvm hc msg
  exact ⟨hc.regions, hc.starts_nodup, fun _ _ => MemTable.handle_error, hc.translates⟩

/-- `vm-memory`'s collections of regions, for files that say whether they can be mapped. -/
def vmMemory : VmMemory Bool where
  mmapRegion _ file := file
  fromRegions rs :=
    if rs ≠ [] ∧ rs.Pairwise fun r r' => r.start + r.size ≤ r'.start then some rs else none
  insertRegion mem r :=
    if ∀ r' ∈ mem, r.start + r.size ≤ r'.start ∨ r'.start + r'.size ≤ r.start then
      some (mem.orderedInsert (fun r r' => r.start ≤ r'.start) r)
    else none
  removeRegion mem base size := if ⟨base, size⟩ ∈ mem then some (mem.erase ⟨base, size⟩) else none

theorem vmMemory_lawful : vmMemory.Lawful where
  fromRegions {rs mem} h := by
    obtain ⟨hrs, hmem⟩ := Option.ite_none_right_eq_some.mp h
    cases hmem
    exact ⟨rfl, hrs⟩
  insertRegion {mem r mem'} h := by
    obtain ⟨hapart, hmem⟩ := Option.ite_none_right_eq_some.mp h
    cases hmem
    exact ⟨List.perm_orderedInsert _ r mem, hapart⟩
  removeRegion {mem base size mem'} h := by
    obtain ⟨hin, hmem⟩ := Option.ite_none_right_eq_some.mp h
    cases hmem
    exact ⟨hin, rfl⟩

/-- Two regions whose user ranges overlap although their guest ranges do not. -/
def lowRegion : VhostUserMemoryRegion := ⟨0, 0x1000, 0x7000, by decide, by decide, by decide⟩
def highRegion : VhostUserMemoryRegion := ⟨0x4000, 0x2000, 0x7800, by decide, by decide, by decide⟩

/-- What is left after one region was installed, the other added, a file failed to map, and the
first region was removed. -/
def highOnly : MemTable :=
  { memoryUpdated := true, mappings := [⟨0x7800, 0x2000, 0x4000⟩], atomicMem := [⟨0x4000, 0x2000⟩] }

theorem translation_matches_memory_highOnly :
    (highOnly.mappings.map AddrMapping.region).Perm highOnly.atomicMem ∧
    (highOnly.atomicMem.map GuestRegion.start).Nodup ∧
    (∀ msg e, (highOnly.handle vmMemory msg).1 = .error e →
      (highOnly.handle vmMemory msg).2 = highOnly) ∧
    ∀ va, ∃ res, highOnly.vmmVaToGpa va = some res ∧ highOnly.Translates va res :=
  translation_matches_memory vmMemory_lawful <| reaches_of_run_any
    [.setMemTable [lowRegion] [true], .addMemRegion highRegion true, .addMemRegion highRegion false,
      .removeMemRegion lowRegion] rfl

end VirtioPoc.VhostUser
