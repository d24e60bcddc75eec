import VirtioPoc.Console.ProcessRx

/-!
# The end of the input

A read that returns nothing is the end of file: `process_rx` notes it in a flag,
two calls below the loop over the chains, and announces it with a `PORT_OPEN`
message when it has used the chain.  A chain that has got no byte is put back
instead, and then the worker waits for the next event, flag or not.

A descriptor gets what `fill` finds for the bytes of it that are mapped, and
`ending` says how that comes to its end.  After an error the worker goes on to
the next descriptor and forgets the bytes that the last one has got, and a read
for an empty descriptor returns nothing whatever there is to read.  So `GetsByte`
and `MeetsEof` follow the descriptors of a chain through the input.
-/

namespace VirtioPoc.Console

open Base Virtio

/-! ### The descriptors of a chain -/

/-- The first descriptor whose access does not fail gets a byte. -/
def GetsByte (regions : List GuestRegion) : List Descriptor → List Incoming → Prop
  | [], _ => False
  | desc :: descs, input =>
    let mapped := room regions desc.addr desc.len
    if findRegion regions desc.addr = none then GetsByte regions descs input
    else if ending mapped input = .error then GetsByte regions descs (fill mapped input).2
    else (fill mapped input).1 ≠ []

/-- A read returns nothing: for an empty descriptor, or because the input has ended, for this descriptor
or for one behind it. -/
def MeetsEof (regions : List GuestRegion) : List Descriptor → List Incoming → Prop
  | [], _ => False
  | desc :: descs, input =>
    let mapped := room regions desc.addr desc.len
    if findRegion regions desc.addr = none then MeetsEof regions descs input
    else desc.len = 0 ∨ ending mapped input = .endOfFile ∨
      (ending mapped input = .error ∨ (fill mapped input).1 ≠ []) ∧
        MeetsEof regions descs (fill mapped input).2

instance decidableGetsByte (regions : List GuestRegion) : (descs : List Descriptor) →
    (input : List Incoming) → Decidable (GetsByte regions descs input)
  | [], _ => .isFalse id
  | desc :: descs, input =>
    have := decidableGetsByte regions descs
    inferInstanceAs (Decidable (if findRegion regions desc.addr = none then
        GetsByte regions descs input
      else if ending (room regions desc.addr desc.len) input = .error then
        GetsByte regions descs (fill (room regions desc.addr desc.len) input).2
      else (fill (room regions desc.addr desc.len) input).1 ≠ []))

instance decidableMeetsEof (regions : List GuestRegion) : (descs : List Descriptor) →
    (input : List Incoming) → Decidable (MeetsEof regions descs input)
  | [], _ => .isFalse id
  | desc :: descs, input =>
    have := decidableMeetsEof regions descs
    inferInstanceAs (Decidable (if findRegion regions desc.addr = none then
        MeetsEof regions descs input
      else desc.len = 0 ∨ ending (room regions desc.addr desc.len) input = .endOfFile ∨
        (ending (room regions desc.addr desc.len) input = .error ∨
          (fill (room regions desc.addr desc.len) input).1 ≠ []) ∧
          MeetsEof regions descs (fill (room regions desc.addr desc.len) input).2))

namespace RxState

variable {regions : List GuestRegion} {portId : UInt32}

/-- What the closure does with the input: it reads a first part of what fills `want` bytes, or the
filling ends there. -/
theorem readPiece_input (s : RxState) (total addr : Nat) {len want : Nat} (hpos : 0 < len)
    (hle : len ≤ want) :
    (∃ data t, s.readPiece total len addr = (.ok data.length, t) ∧ data.length ≤ len ∧ data ≠ [] ∧
      t.eof = s.eof ∧ fill want s.input = (data ++ (fill (want - data.length) t.input).1,
        (fill (want - data.length) t.input).2) ∧
      ending want s.input = ending (want - data.length) t.input) ∨
    (∃ t, s.readPiece total len addr = (.ok 0, t) ∧ fill want s.input = ([], t.input) ∧
      ending want s.input ≠ .error ∧
      (t.eof = true ↔ s.eof = true ∨ ending want s.input = .endOfFile)) ∨
    ∃ e t, s.readPiece total len addr = (.error e, t) ∧ fill want s.input = ([], t.input) ∧
      ending want s.input = .error ∧ t.eof = s.eof := by
  rcases hread : readVolatile len s.input with ⟨(_ | _) | data, input⟩
  · obtain ⟨hfill, hending⟩ := fill_of_stop hpos hle (Or.inr (Or.inl ⟨rfl, hread⟩))
    refine Or.inr (Or.inl ⟨{ s with input := input }, by rw [readPiece, hread], hfill, ?_, ?_⟩)
    · rw [hending]
      decide
    · rw [hending]
      exact ⟨Or.inl, fun h => h.resolve_right (by decide)⟩
  · obtain ⟨hfill, hending⟩ := fill_of_stop hpos hle (Or.inr (Or.inr ⟨rfl, hread⟩))
    exact Or.inr (Or.inr ⟨_, { s with input := input }, by rw [readPiece, hread], hfill, hending, rfl⟩)
  · have hpiece : s.readPiece total len addr = (.ok data.length, { s with
        mem := writeBytes s.mem addr data
        input := input
        eof := s.eof || data.isEmpty
        ops := s.ops ++ [.read data] }) := by rw [readPiece, hread]
    by_cases hdata : data = []
    · subst hdata
      obtain ⟨hfill, hending⟩ := fill_of_stop hpos hle (Or.inl ⟨rfl, hread⟩)
      refine Or.inr (Or.inl ⟨_, hpiece, hfill, ?_, ?_⟩)
      · rw [hending]
        decide
      · exact iff_of_true (Bool.or_true _) (Or.inr hending)
    · obtain ⟨all, rest, -, htake, -⟩ := readVolatile_eq_ok hpos hread
      have hlen : data.length ≤ len := by
        rw [← htake, List.length_take]
        exact Nat.min_le_left _ _
      obtain ⟨hfill, hending⟩ := fill_of_read hpos hle hread hdata
      refine Or.inl ⟨data, _, hpiece, hlen, hdata, ?_, hfill, hending⟩
      show (s.eof || data.isEmpty) = s.eof
      rw [List.isEmpty_eq_false_iff.mpr hdata, Bool.or_false]

/-- A descriptor of no bytes inside the memory: the read returns nothing. -/
theorem readToDesc_empty {desc : Descriptor} (s : RxState)
    (hstart : (findRegion regions desc.addr).isSome) (hzero : desc.len = 0) :
    ∃ t, s.readToDesc regions desc = (.ok 0, t) ∧ t.eof = true := by
  refine ⟨(s.readPiece 0 0 desc.addr).2, ?_, Bool.or_true s.eof⟩
  unfold readToDesc
  rw [hzero]
  exact tryAccess_empty readPiece hstart s rfl

/-- From `s` to `t` an access has read `total` bytes, and the rest of the input fills the rest of the
`mapped` ones. -/
def FillsOn (mapped : Nat) (s : RxState) (total : Nat) (t : RxState) : Prop :=
  ∃ data : List UInt8, data.length = total ∧
    fill mapped s.input =
      (data ++ (fill (mapped - total) t.input).1, (fill (mapped - total) t.input).2) ∧
    ending mapped s.input = ending (mapped - total) t.input ∧ t.eof = s.eof

/-- A read has returned nothing. -/
def FillStops (mapped : Nat) (s : RxState) (total : Nat) (t : RxState) : Prop :=
  (fill mapped s.input).1.length = total ∧ t.input = (fill mapped s.input).2 ∧
    ending mapped s.input ≠ .error ∧
    (t.eof = true ↔ s.eof = true ∨ ending mapped s.input = .endOfFile)

/-- A read has failed. -/
def FillFails (mapped : Nat) (s : RxState) (_ : GuestMemoryError) (t : RxState) : Prop :=
  ending mapped s.input = .error ∧ t.input = (fill mapped s.input).2 ∧ t.eof = s.eof

/-- **Step lemma**: one call of the closure. -/
theorem FillsOn.readPiece {mapped total len : Nat} {s t : RxState} (h : FillsOn mapped s total t)
    (addr : Nat) (hpos : 0 < len) (hle : total + len ≤ mapped) :
    PieceOrFail (FillsOn mapped s) (FillStops mapped s) (FillFails mapped s) total len
      (readPiece total len addr t) := by
  obtain ⟨data, rfl, hfill, hending, heof⟩ := h
  rcases t.readPiece_input data.length addr hpos (show len ≤ mapped - data.length by omega) with
    ⟨more, u, hpiece, hmore, hne, heof', hfill', hending'⟩ |
    ⟨u, hpiece, hfill', hok, heof'⟩ | ⟨e, u, hpiece, hfill', herror, heof'⟩
  · refine Or.inl ⟨more.length, u, hpiece, hmore, fun hz => ?_, fun _ => ?_⟩
    · exact absurd (List.length_eq_zero_iff.mp hz) hne
    · refine ⟨data ++ more, List.length_append, ?_, ?_, heof'.trans heof⟩
      · rw [hfill, hfill', List.append_assoc, Nat.sub_sub]
      · rw [hending, hending', Nat.sub_sub]
  · rw [hfill', List.append_nil] at hfill
    rw [← hending, heof] at heof'
    rw [← hending] at hok
    exact Or.inl ⟨0, u, hpiece, Nat.zero_le len,
      fun _ => ⟨by rw [hfill], by rw [hfill], hok, heof'⟩, fun hz => absurd hz (Nat.lt_irrefl 0)⟩
  · rw [hfill', List.append_nil] at hfill
    exact Or.inr ⟨e, u, hpiece, hending.trans herror, by rw [hfill], heof'.trans heof⟩

/-- **What an access to a descriptor does with the input**, wherever the descriptor ends. -/
theorem readToDesc_input {desc : Descriptor} (s : RxState)
    (hstart : (findRegion regions desc.addr).isSome) (hpos : 0 < desc.len) :
    ∃ t, t.input = (fill (room regions desc.addr desc.len) s.input).2 ∧
      (t.eof = true ↔ s.eof = true ∨
        ending (room regions desc.addr desc.len) s.input = .endOfFile) ∧
      (ending (room regions desc.addr desc.len) s.input = .error ∧
          (∃ e, s.readToDesc regions desc = (.error e, t)) ∨
        ending (room regions desc.addr desc.len) s.input ≠ .error ∧ s.readToDesc regions desc =
          (.ok (fill (room regions desc.addr desc.len) s.input).1.length, t)) := by
  have h0 : FillsOn (room regions desc.addr desc.len) s 0 s := ⟨[], rfl, rfl, rfl, rfl⟩
  have hends := tryAccess_ends hstart
    (fun total len t (ht : FillsOn (room regions desc.addr desc.len) s total t) _ hlen hle =>
      ht.readPiece (desc.addr + total) (hlen.resolve_right (Nat.ne_of_gt hpos)) hle) h0
  generalize room regions desc.addr desc.len = mapped at hends ⊢
  rcases hends with ⟨n, t, hto, ⟨rfl, -, data, hlen, hfill, hending, heof⟩ | ⟨rfl, hinput, hok, heof⟩⟩ |
    ⟨e, t, hto, herror, hinput, heof⟩
  · rw [Nat.sub_self, fill_zero, List.append_nil] at hfill
    rw [Nat.sub_self, ending_zero] at hending
    refine ⟨t, by rw [hfill], ?_, Or.inr ⟨by rw [hending]; decide, by rw [hfill, hlen]; exact hto⟩⟩
    rw [heof, hending]
    exact ⟨Or.inl, fun h => h.resolve_right (by decide)⟩
  · exact ⟨t, hinput, heof, Or.inr ⟨hok, hto⟩⟩
  · refine ⟨t, hinput, ?_, Or.inl ⟨herror, e, hto⟩⟩
    rw [heof, herror]
    exact ⟨Or.inl, fun h => h.resolve_right (by decide)⟩

/-- **What the loop over the descriptors finds.** -/
theorem readChain_finds (regions : List GuestRegion) : ∀ (ds : List Descriptor) (n : Nat) (s : RxState),
    n ≤ (s.readChain regions ds n).1 ∧
      ((s.readChain regions ds n).1 ≠ n ↔ GetsByte regions ds s.input) ∧
      ((s.readChain regions ds n).2.eof = true ↔ s.eof = true ∨ MeetsEof regions ds s.input) := by
  intro ds
  induction ds with
  | nil =>
    intro n s
    exact ⟨Nat.le_refl n, ⟨fun hne => absurd rfl hne, False.elim⟩, Or.inl, fun h => h.resolve_right id⟩
  | cons desc ds ih =>
    intro n s
    rw [readChain, GetsByte, MeetsEof]
    cases hfind : findRegion regions desc.addr with
    | none =>
      have hto : s.readToDesc regions desc = (.error .invalidGuestAddress, s) :=
        tryAccess_outside readPiece desc.len hfind s
      rw [hto, if_pos rfl, if_pos rfl]
      exact ih n s
    | some region =>
      have hstart : (findRegion regions desc.addr).isSome := by rw [hfind]; rfl
      have hsome : some region ≠ none := fun h => by cases h
      rw [if_neg hsome, if_neg hsome]
      rcases Nat.eq_zero_or_pos desc.len with hzero | hpos
      · obtain ⟨t, hto, heof⟩ := readToDesc_empty s hstart hzero
        rw [hto, hzero, room, ending_zero, fill_zero]
        exact ⟨Nat.le_refl n, by simp, iff_of_true heof (Or.inr (Or.inl rfl))⟩
      · obtain ⟨t, hinput, heof, ⟨herror, e, hto⟩ | ⟨hok, hto⟩⟩ := readToDesc_input s hstart hpos
        · obtain ⟨hle, hgets, hmeets⟩ := ih n t
          rw [hto, if_pos herror, ← hinput, herror]
          refine ⟨hle, hgets, hmeets.trans ?_⟩
          rw [heof, herror]
          simp [Nat.ne_of_gt hpos]
        · rw [hto, if_neg hok]
          by_cases hdata : (fill (room regions desc.addr desc.len) s.input).1 = []
          · rw [hdata]
            refine ⟨Nat.le_refl n, by simp, heof.trans ?_⟩
            simp [Nat.ne_of_gt hpos, hok]
          · obtain ⟨k, hk⟩ := Nat.exists_eq_succ_of_ne_zero (mt List.length_eq_zero_iff.mp hdata)
            obtain ⟨hle, -, hmeets⟩ := ih (n + (k + 1)) { t with signalUsedQueue := true }
            rw [hk]
            dsimp only
            refine ⟨by omega, iff_of_true (by omega) hdata, hmeets.trans ?_⟩
            show t.eof = true ∨ MeetsEof regions ds t.input ↔ _
            rw [heof, hinput]
            simp [Nat.ne_of_gt hpos, hdata, or_assoc]

/-! ### The property -/

/-- **The end of file is announced**: when the worker waits or has returned after a read that returned
nothing, it has sent just one message that its port is closed. -/
def AnnouncesEof (portId : UInt32) (s : RxState) : Prop :=
  s.pc = .waiting ∨ s.pc = .returned → .read [] ∈ s.ops →
    s.ops.count (.portOpen portId false) = 1

/-- **The condition on a step**: a chain for which the end of file is met gets a byte as well. -/
def EofAfterData (regions : List GuestRegion) (s : RxState) : Action → Prop
  | .drain => ∀ chain avail, s.avail = chain :: avail →
      MeetsEof regions chain.writable s.input → GetsByte regions chain.writable s.input
  | _ => True

/-- The flag says what the record does, and nothing has been announced. -/
structure EofNoted (portId : UInt32) (s : RxState) : Prop where
  flag : s.eof = true ↔ PortOp.read [] ∈ s.ops
  quiet : s.ops.count (.portOpen portId false) = 0

theorem EofNoted.record {s : RxState} (h : s.EofNoted portId) (op : PortOp) (hread : op ≠ .read [])
    (hopen : op ≠ .portOpen portId false) : (s.record op).EofNoted portId where
  flag := by
    have hmem : PortOp.read [] ∈ s.ops ++ [op] ↔ PortOp.read [] ∈ s.ops := by simp [hread.symm]
    exact h.flag.trans hmem.symm
  quiet := by
    show (s.ops ++ [op]).count _ = 0
    rw [List.count_append, h.quiet, List.count_singleton, beq_false_of_ne hopen]
    rfl

theorem EofNoted.readPiece {s : RxState} (h : s.EofNoted portId) (total len addr : Nat) :
    (s.readPiece total len addr).2.EofNoted portId := by
  unfold RxState.readPiece
  rcases readVolatile len s.input with ⟨(_ | _) | data, input⟩
  · exact ⟨h.flag, h.quiet⟩
  · exact ⟨h.flag, h.quiet⟩
  · refine ⟨?_, ?_⟩
    · simp only [Bool.or_eq_true, h.flag, List.isEmpty_iff, List.mem_append, List.mem_singleton,
        PortOp.read.injEq]
      exact or_congr_right eq_comm
    · show (s.ops ++ [PortOp.read data]).count _ = 0
      rw [List.count_append, h.quiet, List.count_singleton]
      rfl

theorem EofNoted.readChain {s : RxState} (h : s.EofNoted portId) (regions : List GuestRegion)
    (ds : List Descriptor) (n : Nat) :
    (s.readChain regions ds n).2.EofNoted portId :=
  readChain_frame (fun total len addr _ h => h.readPiece total len addr)
    (fun _ h => ⟨h.flag, h.quiet⟩) ds n s h

theorem pc_readChain (regions : List GuestRegion) (ds : List Descriptor) (n : Nat) (s : RxState) :
    (s.readChain regions ds n).2.pc = s.pc := by
  refine readChain_frame (R := fun t => t.pc = s.pc) (fun total len addr t h => ?_) (fun _ h => h)
    ds n s rfl
  unfold readPiece
  rcases readVolatile len t.input with ⟨(_ | _) | data, input⟩ <;> exact h

/-- What announces the end of file. -/
theorem EofNoted.portOpen {s : RxState} (h : s.EofNoted portId) :
    AnnouncesEof portId { s.record (.portOpen portId false) with pc := .returned } := by
  intro _ _
  show (s.ops ++ [PortOp.portOpen portId false]).count _ = 1
  rw [List.count_append, h.quiet, List.count_singleton_self]

theorem EofNoted.waitEvent {s : RxState} (h : s.EofNoted portId) : s.waitEvent.EofNoted portId := by
  rcases s.waitEvent_cases with heq | ⟨-, heq⟩
  · have hs := h.record .signalUsedQueue nofun nofun
    rw [heq]
    exact ⟨hs.flag, hs.quiet⟩
  · rw [heq]
    exact ⟨h.flag, h.quiet⟩

/-! ### The steps -/

/-- A state that waits or has returned before anything was announced: the flag is not set. -/
theorem EofNoted.announcesEof_iff {s : RxState} (h : s.EofNoted portId)
    (hpc : s.pc = .waiting ∨ s.pc = .returned) : s.AnnouncesEof portId ↔ s.eof = false := by
  unfold AnnouncesEof
  rw [h.quiet, ← h.flag, ← Bool.not_eq_true]
  exact ⟨fun hall heof => absurd (hall hpc heof) nofun, fun hnot _ heof => absurd heof hnot⟩

theorem announcesEof_of_draining {s : RxState} (hpc : s.pc = .draining) : s.AnnouncesEof portId := by
  intro hstop
  rw [hpc] at hstop
  rcases hstop with h | h <;> cases h

/-- **The invariant between good states.**  A worker that takes chains has not met the end of file. -/
structure EofInv (portId : UInt32) (s : RxState) : Prop where
  noted : s.pc ≠ .returned → s.EofNoted portId
  draining : s.pc = .draining → s.eof = false

theorem waitEvent_pc (s : RxState) : s.waitEvent.pc = .waiting := by
  rcases s.waitEvent_cases with heq | ⟨-, heq⟩ <;> rw [heq]

theorem waitEvent_eof (s : RxState) : s.waitEvent.eof = s.eof := by
  rcases s.waitEvent_cases with heq | ⟨-, heq⟩
  · rw [heq]
    rfl
  · rw [heq]

theorem EofNoted.inv_waitEvent {s : RxState} (h : s.EofNoted portId) : s.waitEvent.EofInv portId where
  noted _ := h.waitEvent
  draining hpc := by
    rw [waitEvent_pc] at hpc
    cases hpc

theorem EofNoted.waitEvent_announcesEof {s : RxState} (h : s.EofNoted portId) :
    s.waitEvent.AnnouncesEof portId ↔ s.eof = false := by
  rw [h.waitEvent.announcesEof_iff (.inl s.waitEvent_pc), waitEvent_eof]

/-- An event comes when the flag is not set, and leaves it so. -/
theorem EofNoted.handleEvent {s : RxState} (h : s.EofNoted portId) (heof : s.eof = false)
    (token : WorkerToken) (readKick tryLockQueue : Bool) :
    (s.handleEvent token readKick tryLockQueue).EofInv portId ∧
      (s.handleEvent token readKick tryLockQueue).AnnouncesEof portId := by
  rcases s.handleEvent_cases token readKick tryLockQueue with heq | heq | heq
  · have hnoted : EofNoted portId { s with pc := .returned } := ⟨h.flag, h.quiet⟩
    rw [heq]
    exact ⟨⟨fun _ => hnoted, nofun⟩, (hnoted.announcesEof_iff (.inr rfl)).mpr heof⟩
  · rw [heq]
    exact ⟨h.inv_waitEvent, h.waitEvent_announcesEof.mpr heof⟩
  · rw [heq]
    exact ⟨⟨fun _ => ⟨h.flag, h.quiet⟩, fun _ => heof⟩, announcesEof_of_draining rfl⟩

theorem eofAfterData_cons {s : RxState} {chain : DescriptorChain} {avail : List DescriptorChain}
    (ha : s.avail = chain :: avail) : s.EofAfterData regions .drain ↔
      (MeetsEof regions chain.writable s.input → GetsByte regions chain.writable s.input) :=
  forall_next_iff ha

theorem EofNoted.drain_nil {s : RxState} (h : s.EofNoted portId) (heof : s.eof = false)
    (ha : s.avail = []) : (s.drain regions portId).EofInv portId ∧
      (s.drain regions portId).AnnouncesEof portId := by
  have hsignal : (if s.signalUsedQueue then s.record .signalUsedQueue else s).EofNoted portId ∧
      (if s.signalUsedQueue then s.record .signalUsedQueue else s).eof = false := by
    split
    · exact ⟨h.record .signalUsedQueue nofun nofun, heof⟩
    · exact ⟨h, heof⟩
  rw [RxState.drain_nil ha]
  exact ⟨hsignal.1.inv_waitEvent, hsignal.1.waitEvent_announcesEof.mpr hsignal.2⟩

theorem EofNoted.drain {s : RxState} (h : s.EofNoted portId) (hpc : s.pc = .draining)
    (heof : s.eof = false) : (s.drain regions portId).EofInv portId ∧
      ((s.drain regions portId).AnnouncesEof portId ↔ s.EofAfterData regions .drain) := by
  cases ha : s.avail with
  | nil =>
    refine ⟨(h.drain_nil heof ha).1, iff_of_true (h.drain_nil heof ha).2 fun chain avail hcons => ?_⟩
    cases ha.symm.trans hcons
  | cons chain avail =>
    have hrest : EofNoted portId { s with avail := avail } := ⟨h.flag, h.quiet⟩
    have hpop : (s.popChain chain avail).EofNoted portId := hrest.record _ nofun nofun
    have hnoted := hpop.readChain regions chain.writable 0
    obtain ⟨-, hgets, hmeets⟩ := readChain_finds regions chain.writable 0
      (s.popChain chain avail)
    have hmeets' : ((s.popChain chain avail).readChain regions chain.writable 0).2.eof = true ↔
        MeetsEof regions chain.writable s.input := by
      refine hmeets.trans ⟨fun hor => hor.resolve_left fun hset => ?_, Or.inr⟩
      cases heof.symm.trans hset
    have hkept := pc_readChain regions chain.writable 0 (s.popChain chain avail)
    rw [eofAfterData_cons ha]
    cases hread : (s.popChain chain avail).readChain regions chain.writable 0 with
    | mk bytesRead t =>
      rw [hread] at hnoted hkept hgets hmeets'
      by_cases hzero : bytesRead = 0
      · have hgot : ¬ GetsByte regions chain.writable s.input := fun hgot => hgets.mpr hgot hzero
        subst hzero
        have hback : EofNoted portId { t with avail := chain :: t.avail } :=
          ⟨hnoted.flag, hnoted.quiet⟩
        have hwait := hback.record .goToPreviousPosition nofun nofun
        rw [drain_putBack ha hread]
        refine ⟨hwait.inv_waitEvent, hwait.waitEvent_announcesEof.trans ?_⟩
        show t.eof = false ↔ _
        rw [← Bool.not_eq_true, hmeets']
        exact ⟨fun hnot hmet => absurd hmet hnot, fun hcond hmet => hgot (hcond hmet)⟩
      · have hgot : GetsByte regions chain.writable s.input := hgets.mp hzero
        have hused := hnoted.record (.addUsed chain (.ofNat bytesRead) (contents t.mem chain.writable))
          nofun nofun
        rw [drain_used ha hread hzero]
        cases heof' : t.eof with
        | true => exact ⟨⟨fun hne => absurd rfl hne, nofun⟩, iff_of_true hused.portOpen fun _ => hgot⟩
        | false =>
          exact ⟨⟨fun _ => hused, fun _ => heof'⟩,
            iff_of_true (announcesEof_of_draining (hkept.trans hpc)) fun _ => hgot⟩

theorem EofInv.step {s t : RxState} {a : Action} (h : s.EofInv portId) (hs : s.AnnouncesEof portId)
    (hstep : s.step regions portId a = some t) :
    t.EofInv portId ∧ (t.AnnouncesEof portId ↔ s.EofAfterData regions a) := by
  cases a with
  | event token readKick tryLockQueue =>
    obtain ⟨hpc, ht⟩ := Option.ite_none_right_eq_some.mp hstep
    cases ht
    have hnoted := h.noted (by rw [hpc]; nofun)
    have heof := (hnoted.announcesEof_iff (.inl hpc)).mp hs
    obtain ⟨hinv, hannounces⟩ := hnoted.handleEvent heof token readKick tryLockQueue
    exact ⟨hinv, iff_of_true hannounces trivial⟩
  | drain =>
    obtain ⟨hpc, ht⟩ := Option.ite_none_right_eq_some.mp hstep
    cases ht
    exact (h.noted (by rw [hpc]; nofun)).drain hpc (h.draining hpc)
  | publish chain | guestWrite mem =>
    cases hstep
    exact ⟨⟨fun hpc => ⟨(h.noted hpc).flag, (h.noted hpc).quiet⟩, h.draining⟩, iff_of_true hs trivial⟩

end RxState

/-- **When the end of the input is announced**: the states of a run all have it announced just when
every chain for which the end of file is met gets a byte as well. -/
theorem eof_announced_iff (regions : List GuestRegion) (portId : UInt32) (mem : Bytes)
    (input : List Incoming) (as : List RxState.Action)
    (hrun : (run (RxState.step regions portId) (.new mem input) as).isSome) :
    (∀ n t, run (RxState.step regions portId) (.new mem input) (as.take n) = some t →
        t.AnnouncesEof portId) ↔
      Along (RxState.step regions portId) (RxState.EofAfterData regions) (.new mem input) as :=
  forall_prefix_iff_along_of_good (I := RxState.EofInv portId)
    (fun _ _ _ h hs _ hstep => (h.step hs hstep).1) (fun _ _ _ h hs hstep => (h.step hs hstep).2) as _
    ⟨fun _ => ⟨iff_of_false Bool.false_ne_true List.not_mem_nil, rfl⟩, nofun⟩
    (fun _ hread => absurd hread List.not_mem_nil) hrun

/-- Two bytes and then the end of file: the chain is used, and the end announced. -/
theorem eof_announced_iff_two_bytes : ∃ s, rxAfter [.data [1, 2], .data []] = some s ∧
    s.pc = .returned ∧ .read [] ∈ s.ops ∧ s.AnnouncesEof 0 := by
  have hsome : (rxAfter [.data [1, 2], .data []]).isSome := rfl
  have halong : Along (RxState.step oneRegion 0) (RxState.EofAfterData oneRegion)
      (.new (fun _ => 0) [.data [1, 2], .data []]) takeOne := by
    refine ⟨trivial, fun s hs => ⟨trivial, fun t ht => ⟨?_, fun _ _ => trivial⟩⟩⟩
    cases hs
    cases ht
    intro chain avail ha
    cases ha
    decide
  have hall := (eof_announced_iff oneRegion 0 (fun _ => 0) _ takeOne hsome).mpr halong
  exact ⟨_, rfl, rfl, by decide, hall takeOne.length _ rfl⟩

/-- **The end of the input alone**: the chain is put back, and the worker waits with nothing said. -/
theorem eof_not_announced : ∃ s, rxAfter [.data []] = some s ∧ s.pc = .waiting ∧
    s.ops = [.pop twoDescriptors [], .read [], .goToPreviousPosition] ∧ ¬ s.AnnouncesEof 0 :=
  ⟨_, rfl, rfl, rfl, fun h => absurd (h (.inl rfl) (by decide)) (by decide)⟩

end VirtioPoc.Console
