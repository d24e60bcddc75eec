import VirtioPoc.Console.PortIo
import VirtioPoc.Base.Run

/-!
# The input worker of a console port

`process_rx.rs`.  The worker waits for an event, and then fills one chain after
the other from its input, until a chain gets nothing: that chain it puts back.
The guest may publish chains at any time, and write its memory between chains.

`port_input_exact` says when the guest gets the input as an exact stream.  A
read that stops in the middle of a descriptor ends the access to it, but not the
loop over the descriptors; so the stream has a gap when there is input again for
the next one.
-/

namespace VirtioPoc.Console

open Base Virtio

/-! ### The worker -/

structure RxState where
  pc : Pc
  mem : Bytes
  avail : List DescriptorChain
  input : List Incoming
  eof : Bool
  signalUsedQueue : Bool
  ops : List PortOp

namespace RxState

def new (mem : Bytes) (input : List Incoming) : RxState :=
  { pc := .waiting, mem := mem, avail := [], input := input, eof := false,
    signalUsedQueue := false, ops := [] }

def record (s : RxState) (op : PortOp) : RxState := { s with ops := s.ops ++ [op] }

/-- The closure of `read_to_desc`. -/
def readPiece (_total len addr : Nat) (s : RxState) : Except GuestMemoryError Nat × RxState :=
  match readVolatile len s.input with
  | (.ok data, input) =>
    (.ok data.length, { s with
      mem := writeBytes s.mem addr data
      input := input
      eof := s.eof || data.isEmpty
      ops := s.ops ++ [.read data] })
  | (.error .wouldBlock, input) => (.ok 0, { s with input := input })
  | (.error .other, input) => (.error .ioError, { s with input := input })

def readToDesc (regions : List GuestRegion) (desc : Descriptor) (s : RxState) :
    Except GuestMemoryError Nat × RxState :=
  tryAccess regions desc.len desc.addr readPiece s

/-- The loop over the writable descriptors of a chain. -/
def readChain (regions : List GuestRegion) : List Descriptor → Nat → RxState → Nat × RxState
  | [], bytesRead, s => (bytesRead, s)
  | desc :: descs, bytesRead, s =>
    match s.readToDesc regions desc with
    | (.ok 0, s) => (bytesRead, s)
    | (.ok (len + 1), s) =>
      readChain regions descs (bytesRead + (len + 1)) { s with signalUsedQueue := true }
    | (.error _, s) => readChain regions descs bytesRead s

/-- The top of the event loop. -/
def waitEvent (s : RxState) : RxState :=
  if s.signalUsedQueue then
    { s.record .signalUsedQueue with pc := .waiting, signalUsedQueue := false }
  else { s with pc := .waiting }

/-- An event, with what `read_kick` and `try_lock_queue` return for it. -/
def handleEvent (s : RxState) (token : WorkerToken) (readKick tryLockQueue : Bool) : RxState :=
  match token with
  | .stop => { s with pc := .returned }
  | .processQueue | .io =>
    if readKick = false then s.waitEvent
    else if tryLockQueue = false then s.waitEvent
    else { s with pc := .draining }

/-- One turn of the loop over the chains. -/
def drain (regions : List GuestRegion) (portId : UInt32) (s : RxState) : RxState :=
  match s.avail with
  | [] =>
    let s := if s.signalUsedQueue then s.record .signalUsedQueue else s
    s.waitEvent
  | chain :: avail =>
    let s := { s with avail := avail }.record (.pop chain (contents s.mem chain.readable))
    let (bytesRead, s) := s.readChain regions chain.writable 0
    if bytesRead = 0 then
      { s with avail := chain :: s.avail }.record .goToPreviousPosition |>.waitEvent
    else
      let s := s.record (.addUsed chain (.ofNat bytesRead) (contents s.mem chain.writable))
      if s.eof then { s.record (.portOpen portId false) with pc := .returned } else s

inductive Action
  | event (token : WorkerToken) (readKick tryLockQueue : Bool)
  | drain
  | publish (chain : DescriptorChain)
  | guestWrite (mem : Bytes)

def step (regions : List GuestRegion) (portId : UInt32) (s : RxState) : Action → Option RxState
  | .event token readKick tryLockQueue =>
    if s.pc = .waiting then some (s.handleEvent token readKick tryLockQueue) else none
  | .drain => if s.pc = .draining then some (s.drain regions portId) else none
  | .publish chain => some { s with avail := s.avail ++ [chain] }
  | .guestWrite mem => some { s with mem := mem }

end RxState

namespace RxState

/-- The chain has been popped, and `avail` is left. -/
def popChain (s : RxState) (chain : DescriptorChain) (avail : List DescriptorChain) : RxState :=
  { s with avail := avail }.record (.pop chain (contents s.mem chain.readable))

/-- The two ways to the top of the loop. -/
theorem waitEvent_cases (s : RxState) :
    s.waitEvent = { s.record .signalUsedQueue with pc := .waiting, signalUsedQueue := false } ∨
      s.signalUsedQueue = false ∧ s.waitEvent = { s with pc := .waiting } := by
  unfold waitEvent
  cases hflag : s.signalUsedQueue with
  | true => exact .inl (if_pos rfl)
  | false => exact .inr ⟨rfl, if_neg Bool.false_ne_true⟩

/-- **What an event does**: the worker returns, or it waits again, or it takes chains. -/
theorem handleEvent_cases (s : RxState) (token : WorkerToken) (readKick tryLockQueue : Bool) :
    s.handleEvent token readKick tryLockQueue = { s with pc := .returned } ∨
      s.handleEvent token readKick tryLockQueue = s.waitEvent ∨
      s.handleEvent token readKick tryLockQueue = { s with pc := .draining } := by
  cases token with
  | stop => exact .inl rfl
  | processQueue | io =>
    cases readKick with
    | false => exact .inr (.inl rfl)
    | true =>
      cases tryLockQueue with
      | false => exact .inr (.inl rfl)
      | true => exact .inr (.inr rfl)

variable {regions : List GuestRegion} {portId : UInt32} {s t : RxState} {chain : DescriptorChain}
  {avail : List DescriptorChain} {bytesRead : Nat}

/-- A condition on the chain that is taken next. -/
theorem forall_next_iff (ha : s.avail = chain :: avail) {P : DescriptorChain → Prop} :
    (∀ c cs, s.avail = c :: cs → P c) ↔ P chain := by
  rw [ha]
  exact ⟨fun hall => hall chain avail rfl, fun hone c cs hc => (List.cons.inj hc).1 ▸ hone⟩

/-- A turn that finds no chain. -/
theorem drain_nil (ha : s.avail = []) : s.drain regions portId =
    (if s.signalUsedQueue then s.record .signalUsedQueue else s).waitEvent := by
  simp only [drain, ha]

/-- A turn with a chain that gets nothing. -/
theorem drain_putBack (ha : s.avail = chain :: avail)
    (hread : (s.popChain chain avail).readChain regions chain.writable 0 = (0, t)) :
    s.drain regions portId =
      ({ t with avail := chain :: t.avail }.record .goToPreviousPosition).waitEvent := by
  unfold popChain at hread
  simp only [drain, ha, hread, if_true]

/-- A turn with a chain that gets bytes. -/
theorem drain_used (ha : s.avail = chain :: avail)
    (hread : (s.popChain chain avail).readChain regions chain.writable 0 = (bytesRead, t))
    (hne : bytesRead ≠ 0) :
    s.drain regions portId =
      let u := t.record (.addUsed chain (.ofNat bytesRead) (contents t.mem chain.writable))
      if t.eof then { u.record (.portOpen portId false) with pc := .returned } else u := by
  unfold popChain at hread
  simp only [drain, ha, hread, if_neg hne]
  rfl

end RxState

/-! ### One descriptor -/

/-- No read fails but for want of input. -/
def NoReadError (input : List Incoming) : Prop := .error ∉ input

instance (input : List Incoming) : Decidable (NoReadError input) := inferInstanceAs (Decidable (¬ _))

theorem NoReadError.tail {r : Incoming} {input : List Incoming} (h : NoReadError (r :: input)) :
    NoReadError input := fun hr => h (List.mem_cons_of_mem _ hr)

theorem NoReadError.readVolatile {input : List Incoming} (h : NoReadError input) (len : Nat) :
    (∃ bytes input', readVolatile len input = (.ok bytes, input') ∧ NoReadError input') ∨
    ∃ input', readVolatile len input = (.error .wouldBlock, input') ∧ NoReadError input' := by
  unfold Console.readVolatile
  split
  · exact Or.inl ⟨[], input, rfl, h⟩
  · cases input with
    | nil => exact Or.inr ⟨[], rfl, h⟩
    | cons r rest =>
      cases r with
      | data bytes =>
        refine Or.inl ⟨_, _, rfl, ?_⟩
        split
        · exact h.tail
        · intro hr
          rcases List.mem_cons.mp hr with hr | hr
          · cases hr
          · exact h.tail hr
      | wouldBlock => exact Or.inr ⟨rest, rfl, h.tail⟩
      | error => exact absurd List.mem_cons_self h

namespace RxState

/-- From `s` to `t` the port has read `data`, and the rest of the state that matters for what is
delivered is as it was. -/
structure HasRead (s : RxState) (data : List UInt8) (t : RxState) : Prop where
  consumed : consumed t.ops = consumed s.ops ++ data
  delivered : delivered t.ops = delivered s.ops
  avail : t.avail = s.avail
  noError : NoReadError t.input

theorem HasRead.trans {s t u : RxState} {data more : List UInt8} (h : HasRead s data t)
    (g : HasRead t more u) : HasRead s (data ++ more) u where
  consumed := by rw [g.consumed, h.consumed, List.append_assoc]
  delivered := g.delivered.trans h.delivered
  avail := g.avail.trans h.avail
  noError := g.noError

/-- What the closure does: it reads a first part of what is asked for, or it stops. -/
theorem readPiece_spec {s : RxState} (total addr : Nat) {len want : Nat} (hlen : 0 < len) (hle : len ≤ want)
    (h : NoReadError s.input) :
    ∃ data t, s.readPiece total len addr = (.ok data.length, t) ∧ data.length ≤ len ∧
      HasRead s data t ∧ t.mem = writeBytes s.mem addr data ∧
      (data = [] → fill want s.input = ([], t.input)) ∧
      (data ≠ [] → fill want s.input = (data ++ (fill (want - data.length) t.input).1,
        (fill (want - data.length) t.input).2)) := by
  rcases h.readVolatile len with ⟨data, input', hr, hne⟩ | ⟨input', hr, hne⟩
  · have hdata : data.length ≤ len := by
      have := length_fill_le s.input len
      by_cases hz : data = []
      · rw [hz]
        exact Nat.zero_le len
      · rw [(fill_of_read hlen (Nat.le_refl len) hr hz).1, List.length_append] at this
        omega
    have hpiece : s.readPiece total len addr = (.ok data.length, { s with
        mem := writeBytes s.mem addr data
        input := input'
        eof := s.eof || data.isEmpty
        ops := s.ops ++ [.read data] }) := by rw [readPiece, hr]
    refine ⟨data, _, hpiece, hdata, ⟨?_, ?_, rfl, hne⟩, rfl, ?_, ?_⟩
    · rw [consumed_append]
      simp [Console.consumed]
    · rw [delivered_append]
      simp [Console.delivered]
    · rintro rfl
      exact (fill_of_stop hlen hle (Or.inl ⟨rfl, hr⟩)).1
    · exact fun hne => (fill_of_read hlen hle hr hne).1
  · have hpiece : s.readPiece total len addr = (.ok 0, { s with input := input' }) := by
      rw [readPiece, hr]
    refine ⟨[], _, hpiece, Nat.zero_le len, ⟨?_, rfl, rfl, hne⟩, ?_, ?_, ?_⟩
    · rw [List.append_nil]
    · funext a
      rw [writeBytes]
      simp
    · exact fun _ => (fill_of_stop hlen hle (Or.inr (Or.inl ⟨rfl, hr⟩))).1
    · exact fun hne => absurd rfl hne

/-- From `s` to `t` an access has read `total` bytes into the descriptor, and the rest of the input
fills the rest of it. -/
def ReadsOn (desc : Descriptor) (s : RxState) (total : Nat) (t : RxState) : Prop :=
  ∃ data, data.length = total ∧ HasRead s data t ∧ t.mem = writeBytes s.mem desc.addr data ∧
    fill desc.len s.input =
      (data ++ (fill (desc.len - total) t.input).1, (fill (desc.len - total) t.input).2)

/-- The access is over: all that can be read for the descriptor is in it. -/
def ReadStops (desc : Descriptor) (s : RxState) (total : Nat) (t : RxState) : Prop :=
  ∃ data, data.length = total ∧ HasRead s data t ∧ t.mem = writeBytes s.mem desc.addr data ∧
    fill desc.len s.input = (data, t.input)

theorem ReadsOn.zero {desc : Descriptor} {s : RxState} (h : NoReadError s.input) :
    ReadsOn desc s 0 s := by
  refine ⟨[], rfl, ⟨(List.append_nil _).symm, rfl, rfl, h⟩, ?_, rfl⟩
  funext a
  rw [writeBytes]
  simp

theorem ReadsOn.full {desc : Descriptor} {s t : RxState} (h : ReadsOn desc s desc.len t) :
    ReadStops desc s desc.len t := by
  obtain ⟨data, hlen, hread, hmem, hfill⟩ := h
  rw [Nat.sub_self, fill_zero, List.append_nil] at hfill
  exact ⟨data, hlen, hread, hmem, hfill⟩

/-- **Step lemma**: one call of the closure. -/
theorem ReadsOn.readPiece {desc : Descriptor} {total len : Nat} {s t : RxState}
    (h : ReadsOn desc s total t) (hlen : 0 < len) (hle : total + len ≤ desc.len) :
    Piece (ReadsOn desc s) (ReadStops desc s) total len
      (readPiece total len (desc.addr + total) t) := by
  obtain ⟨data, rfl, hread, hmem, hfill⟩ := h
  obtain ⟨more, u, hpiece, hmore, hread', hmem', hstop, hgo⟩ :=
    readPiece_spec data.length (desc.addr + data.length) hlen
      (show len ≤ desc.len - data.length by omega) hread.noError
  refine ⟨more.length, u, hpiece, hmore, fun hz => ?_, fun hz => ?_⟩
  · obtain rfl := List.length_eq_zero_iff.mp hz
    have hall := hread.trans hread'
    rw [List.append_nil] at hall
    refine ⟨data, rfl, hall, ?_, ?_⟩
    · rw [hmem', hmem, ← writeBytes_append, List.append_nil]
    · rw [hfill, hstop rfl, List.append_nil]
  · have hne : more ≠ [] := List.ne_nil_of_length_pos hz
    refine ⟨data ++ more, List.length_append, hread.trans hread', ?_, ?_⟩
    · rw [hmem', hmem, ← writeBytes_append]
    · rw [hfill, hgo hne, List.append_assoc, Nat.sub_sub]

/-- **What an access to a descriptor reads**: as much as fills it before a read returns nothing. -/
theorem readToDesc_spec {regions : List GuestRegion} {desc : Descriptor} {s : RxState}
    (hpos : 0 < desc.len) (hin : Inside regions desc.addr desc.len) (h : NoReadError s.input) :
    ∃ t, s.readToDesc regions desc = (.ok (fill desc.len s.input).1.length, t) ∧
      HasRead s (fill desc.len s.input).1 t ∧
      t.mem = writeBytes s.mem desc.addr (fill desc.len s.input).1 ∧
      t.input = (fill desc.len s.input).2 := by
  obtain ⟨n, t, htry, hend⟩ := tryAccess_rule hin hpos
    (fun _ _ _ ht hlen hle => ReadsOn.readPiece ht hlen hle) (ReadsOn.zero h)
  have hdone : ReadStops desc s n t := by
    rcases hend with ⟨rfl, hfull⟩ | hstop
    · exact hfull.full
    · exact hstop
  obtain ⟨data, rfl, hread, hmem, hfill⟩ := hdone
  rw [hfill]
  exact ⟨t, htry, hread, hmem, rfl⟩

end RxState

/-! ### One chain -/

/-- **The reads of the chain leave no gap**: where one returns nothing in the middle of a descriptor,
behind some bytes, there is no further descriptor, or the next read returns nothing as well. -/
def Gapless : List Descriptor → List Incoming → Prop
  | [], _ => True
  | desc :: descs, input =>
    if (fill desc.len input).1.length = desc.len then Gapless descs (fill desc.len input).2
    else (fill desc.len input).1 = [] ∨ descs = [] ∨ Stopped (fill desc.len input).2

instance decidableGapless : (descs : List Descriptor) → (input : List Incoming) →
    Decidable (Gapless descs input)
  | [], _ => .isTrue trivial
  | desc :: descs, input =>
    have := decidableGapless descs (fill desc.len input).2
    inferInstanceAs (Decidable (if (fill desc.len input).1.length = desc.len then
      Gapless descs (fill desc.len input).2
    else (fill desc.len input).1 = [] ∨ descs = [] ∨ Stopped (fill desc.len input).2))

namespace RxState

variable {regions : List GuestRegion}

/-- **The frame rule of a chain**: what the closure keeps is kept. -/
theorem readChain_frame {R : RxState → Prop}
    (hpiece : ∀ total len addr s, R s → R (s.readPiece total len addr).2)
    (hsignal : ∀ s, R s → R { s with signalUsedQueue := true }) :
    ∀ (ds : List Descriptor) (n : Nat) (s : RxState), R s → R (s.readChain regions ds n).2 := by
  intro ds
  induction ds with
  | nil => exact fun _ _ h => h
  | cons desc ds ih =>
    intro n s h
    have hnext : R (s.readToDesc regions desc).2 := tryAccess_frame hpiece desc.addr h
    rw [readChain]
    generalize s.readToDesc regions desc = out at hnext ⊢
    obtain ⟨_ | (_ | len), t⟩ := out
    · exact ih _ _ hnext
    · exact hnext
    · exact ih _ _ (hsignal _ hnext)

/-- A chain whose first read finds nothing gets nothing. -/
theorem readChain_of_stopped {ds : List Descriptor} {s : RxState} (n : Nat)
    (hs : Sound regions ds) (h : NoReadError s.input) (hstop : ds = [] ∨ Stopped s.input) :
    ∃ t, s.readChain regions ds n = (n, t) ∧ HasRead s [] t ∧ t.mem = s.mem := by
  cases ds with
  | nil => exact ⟨s, rfl, ⟨(List.append_nil _).symm, rfl, rfl, h⟩, rfl⟩
  | cons d ds =>
    have hstopped := hstop.resolve_left (List.cons_ne_nil d ds)
    obtain ⟨hpos, hin⟩ := hs d List.mem_cons_self
    obtain ⟨t, hto, hread, hmem, -⟩ := readToDesc_spec hpos hin h
    rw [fill_of_stopped d.len hstopped] at hto hread hmem
    refine ⟨t, by rw [readChain, hto]; rfl, hread, ?_⟩
    rw [hmem]
    funext a
    rw [writeBytes]
    simp

/-- **What the chain gets**: the first bytes of its writable space are the bytes read for it. -/
theorem readChain_spec : ∀ (ds : List Descriptor) (n : Nat) {s : RxState}, Sound regions ds →
    ds.Pairwise Descriptor.Apart → NoReadError s.input → Gapless ds s.input →
    ∃ data t, s.readChain regions ds n = (n + data.length, t) ∧ HasRead s data t ∧
      data.length ≤ sumLen ds ∧ (contents t.mem ds).take data.length = data ∧
      ∀ a, (∀ d ∈ ds, a < d.addr ∨ d.addr + d.len ≤ a) → t.mem a = s.mem a := by
  intro ds
  induction ds with
  | nil =>
    intro n s _ _ h _
    exact ⟨[], s, rfl, ⟨(List.append_nil _).symm, rfl, rfl, h⟩, Nat.zero_le _, rfl, fun _ _ => rfl⟩
  | cons d ds ih =>
    intro n s hs hapart h hgap
    obtain ⟨hpos, hin⟩ := hs d List.mem_cons_self
    have hs' : Sound regions ds := fun e he => hs e (List.mem_cons_of_mem d he)
    obtain ⟨hd, hapart'⟩ := List.pairwise_cons.mp hapart
    obtain ⟨t, hto, hread, hmem, hinput⟩ := readToDesc_spec hpos hin h
    have hle := length_fill_le s.input d.len
    rw [Gapless, ← hinput] at hgap
    generalize hdata : (fill d.len s.input).1 = data at hto hread hmem hle hgap
    have hout : ∀ a, (∀ e ∈ d :: ds, a < e.addr ∨ e.addr + e.len ≤ a) → t.mem a = s.mem a := by
      intro a ha
      rw [hmem]
      have := ha d List.mem_cons_self
      exact writeBytes_of_outside (by omega)
    have hown : readBytes t.mem d.addr data.length = data := by
      rw [hmem]
      exact readBytes_writeBytes s.mem data d.addr
    have hloop (u : RxState) (m : Nat) (hne : data ≠ []) (hu : readChain regions ds
        (n + data.length) { t with signalUsedQueue := true } = (m, u)) :
        readChain regions (d :: ds) n s = (m, u) := by
      obtain ⟨k, hk⟩ := Nat.exists_eq_succ_of_ne_zero (mt List.length_eq_zero_iff.mp hne)
      rw [hk] at hto hu
      rw [readChain, hto]
      exact hu
    by_cases hfull : data.length = d.len
    · -- the descriptor is full, and the loop goes on behind it
      rw [if_pos hfull] at hgap
      obtain ⟨more, u, hchain, hread', hmore, htake, hout'⟩ :=
        ih (n + data.length) (s := { t with signalUsedQueue := true }) hs' hapart' hread.noError hgap
      have hkeep : readBytes u.mem d.addr d.len = data := by
        calc readBytes u.mem d.addr d.len
          _ = readBytes t.mem d.addr d.len := by
            refine readBytes_congr fun a h1 h2 => hout' a fun e he => ?_
            have := hd e he
            unfold Descriptor.Apart at this
            omega
          _ = data := hfull ▸ hown
      refine ⟨data ++ more, u, ?_, hread.trans ⟨hread'.consumed, hread'.delivered, hread'.avail,
        hread'.noError⟩, ?_, ?_, ?_⟩
      · rw [List.length_append, ← Nat.add_assoc]
        exact hloop u _ (List.ne_nil_of_length_pos (by omega)) hchain
      · rw [List.length_append, sumLen_cons]
        omega
      · rw [contents, hkeep, List.length_append, List.take_length_add_append, htake]
      · intro a ha
        rw [hout' a fun e he => ha e (List.mem_cons_of_mem d he)]
        exact hout a ha
    · rw [if_neg hfull] at hgap
      by_cases hne : data = []
      · refine ⟨data, t, ?_, hread, ?_, ?_, hout⟩
        · subst hne
          rw [readChain, hto]
          rfl
        · rw [sumLen_cons]
          omega
        · rw [take_contents hle, hown]
      · obtain ⟨u, hchain, hread', hmem'⟩ :=
          readChain_of_stopped (s := { t with signalUsedQueue := true }) (n + data.length) hs'
            hread.noError (hgap.resolve_left hne)
        have hall := hread.trans (u := u) ⟨hread'.consumed, hread'.delivered, hread'.avail,
          hread'.noError⟩
        rw [List.append_nil] at hall
        refine ⟨data, u, hloop u _ hne hchain, hall, ?_, ?_, ?_⟩
        · rw [sumLen_cons]
          omega
        · rw [take_contents hle, hmem']
          exact hown
        · rw [hmem']
          exact hout

/-! ### The run -/

/-- The chain that is taken next is sound, its writable descriptors do not overlap, and its reads
leave no gap. -/
def CleanStep (regions : List GuestRegion) (s : RxState) : Action → Prop
  | .drain => ∀ chain avail, s.avail = chain :: avail → Sound regions chain.writable ∧
      chain.writable.Pairwise Descriptor.Apart ∧ Gapless chain.writable s.input
  | _ => True

/-- All that the port has consumed was delivered. -/
structure Exact (s : RxState) : Prop where
  exact : delivered s.ops = Console.consumed s.ops
  noError : NoReadError s.input

theorem Exact.record {s : RxState} (h : Exact s) (op : PortOp) (hd : delivered [op] = [])
    (hc : Console.consumed [op] = []) : Exact (s.record op) where
  exact := by
    show delivered (s.ops ++ [op]) = Console.consumed (s.ops ++ [op])
    rw [delivered_append, consumed_append, h.exact, hd, hc]
  noError := h.noError

theorem Exact.waitEvent {s : RxState} (h : Exact s) : Exact s.waitEvent := by
  have hs := h.record .signalUsedQueue rfl rfl
  rcases s.waitEvent_cases with heq | ⟨-, heq⟩
  · rw [heq]
    exact ⟨hs.exact, hs.noError⟩
  · rw [heq]
    exact ⟨h.exact, h.noError⟩

theorem Exact.handleEvent {s : RxState} (h : Exact s) (token : WorkerToken)
    (readKick tryLockQueue : Bool) : Exact (s.handleEvent token readKick tryLockQueue) := by
  rcases s.handleEvent_cases token readKick tryLockQueue with heq | heq | heq
  · rw [heq]
    exact ⟨h.exact, h.noError⟩
  · rw [heq]
    exact h.waitEvent
  · rw [heq]
    exact ⟨h.exact, h.noError⟩

/-- The bytes of one chain, as the used ring reports them. -/
theorem Exact.addUsed {s t : RxState} {data space : List UInt8} (h : Exact s)
    (hread : HasRead s data t) (chain : DescriptorChain) (hlt : data.length < 2 ^ 32)
    (hspace : space.take data.length = data) :
    Exact (t.record (.addUsed chain (.ofNat data.length) space)) where
  exact := by
    have hnat : (UInt32.ofNat data.length).toNat = data.length := UInt32.toNat_ofNat_of_lt' hlt
    have hop : delivered [.addUsed chain (.ofNat data.length) space] = data := by
      simp only [delivered, List.flatMap_cons, List.flatMap_nil, List.append_nil, hnat, hspace]
    show delivered (t.ops ++ _) = Console.consumed (t.ops ++ _)
    rw [delivered_append, hop, hread.delivered, h.exact, consumed_append, hread.consumed]
    exact (List.append_nil _).symm
  noError := hread.noError

theorem Exact.drain {s : RxState} (h : Exact s) (portId : UInt32)
    (hclean : CleanStep regions s .drain) : Exact (s.drain regions portId) := by
  cases ha : s.avail with
  | nil =>
    rw [drain_nil ha]
    refine Exact.waitEvent ?_
    split
    · exact h.record .signalUsedQueue rfl rfl
    · exact h
  | cons chain avail =>
    obtain ⟨hsound, hapart, hgap⟩ := hclean chain avail ha
    have hrest : Exact { s with avail := avail } := ⟨h.exact, h.noError⟩
    have hpop : Exact (s.popChain chain avail) := hrest.record _ rfl rfl
    obtain ⟨data, t, hchain, hread, hsum, htake, -⟩ :=
      readChain_spec chain.writable 0 hsound hapart hpop.noError hgap
    rw [Nat.zero_add] at hchain
    by_cases hz : data.length = 0
    · rw [hz] at hchain
      obtain rfl := List.length_eq_zero_iff.mp hz
      rw [drain_putBack ha hchain]
      have ht : Exact { t with avail := chain :: t.avail } :=
        ⟨by rw [hread.delivered, hread.consumed, hpop.exact, List.append_nil], hread.noError⟩
      exact (ht.record .goToPreviousPosition rfl rfl).waitEvent
    · rw [drain_used ha hchain hz]
      have hlt : data.length < 2 ^ 32 := by
        have h1 := sumLen_filter_le (·.isWriteOnly) chain.descs
        have h2 := chain.sum_lt
        unfold DescriptorChain.writable at hsum
        omega
      have hused := hpop.addUsed hread chain hlt htake
      dsimp only
      split
      · have hopen := hused.record (.portOpen portId false) rfl rfl
        exact ⟨hopen.exact, hopen.noError⟩
      · exact hused

theorem Exact.step {portId : UInt32} {s t : RxState} {a : Action} (h : Exact s)
    (hclean : CleanStep regions s a) (hstep : s.step regions portId a = some t) : Exact t := by
  cases a with
  | event token readKick tryLockQueue =>
    obtain ⟨-, ht⟩ := Option.ite_none_right_eq_some.mp hstep
    obtain rfl := Option.some.inj ht
    exact h.handleEvent token readKick tryLockQueue
  | drain =>
    obtain ⟨-, ht⟩ := Option.ite_none_right_eq_some.mp hstep
    obtain rfl := Option.some.inj ht
    exact h.drain portId hclean
  | publish chain | guestWrite mem =>
    obtain rfl := Option.some.inj hstep
    exact ⟨h.exact, h.noError⟩

end RxState

/-- **When the guest gets the input as an exact stream**: in every state of a run in which the reads
of each chain leave no gap, the bytes delivered with the used chains are those consumed. -/
theorem port_input_exact {regions : List GuestRegion} {portId : UInt32} {mem : Bytes}
    {input : List Incoming} (hin : NoReadError input) {s : RxState}
    (hr : Reaches (RxState.step regions portId) (RxState.CleanStep regions) (.new mem input) s) :
    delivered s.ops = consumed s.ops :=
  have h : RxState.Exact s := hr.invariant ⟨rfl, hin⟩ fun _ _ _ h hclean hstep =>
    h.step hclean hstep
  h.exact

/-! ### Two runs over one chain -/

/-- A chain of two writable descriptors of four bytes each. -/
def twoDescriptors : DescriptorChain where
  headIndex := 0
  descs := [⟨0x1000, 4, true⟩, ⟨0x2000, 4, true⟩]
  sum_lt := by decide

def oneRegion : List GuestRegion := [⟨0, 0x10000⟩]

/-- The chain is published, kicked and taken. -/
def takeOne : List RxState.Action :=
  [.publish twoDescriptors, .event .processQueue true true, .drain]

/-- The worker over zeroed memory, with the given input. -/
def rxAfter (input : List Incoming) : Option RxState :=
  run (RxState.step oneRegion 0) (.new (fun _ => 0) input) takeOne

theorem sound_twoDescriptors : Sound oneRegion twoDescriptors.writable := by
  have hmem : GuestRegion.mk 0 0x10000 ∈ oneRegion := List.mem_cons_self
  intro d hd
  rcases List.mem_cons.mp hd with rfl | hd
  · exact ⟨by decide, fun a _ h2 => ⟨_, hmem, Nat.zero_le a, Nat.lt_trans h2 (by decide)⟩⟩
  · obtain rfl := List.mem_singleton.mp hd
    exact ⟨by decide, fun a _ h2 => ⟨_, hmem, Nat.zero_le a, Nat.lt_trans h2 (by decide)⟩⟩

theorem port_input_exact_five_bytes : ∃ s, rxAfter [.data [1, 2, 3, 4, 5]] = some s ∧
    delivered s.ops = consumed s.ops := by
  have hin : NoReadError [.data [1, 2, 3, 4, 5]] := by decide
  have halong : Along (RxState.step oneRegion 0) (RxState.CleanStep oneRegion)
      (.new (fun _ => 0) [.data [1, 2, 3, 4, 5]]) takeOne := by
    refine ⟨trivial, fun s hs => ⟨trivial, fun t ht => ⟨?_, fun _ _ => trivial⟩⟩⟩
    cases hs
    cases ht
    intro chain avail ha
    cases ha
    exact ⟨sound_twoDescriptors, by decide, by decide⟩
  exact ⟨_, rfl, port_input_exact hin (reaches_of_run takeOne _ rfl halong)⟩

/-- **The gap**: two bytes arrive, then nothing, then two more.  All four are reported as delivered,
but the driver finds the first two and two bytes that were never read. -/
theorem port_input_gap : ∃ s, rxAfter [.data [1, 2], .wouldBlock, .data [3, 4]] = some s ∧
    Reaches (RxState.step oneRegion 0) (fun _ _ => True)
      (.new (fun _ => 0) [.data [1, 2], .wouldBlock, .data [3, 4]]) s ∧
    consumed s.ops = [1, 2, 3, 4] ∧ delivered s.ops = [1, 2, 0, 0] ∧
    delivered s.ops ≠ consumed s.ops :=
  ⟨_, rfl, reaches_of_run_any takeOne rfl, by decide, by decide, by decide⟩

end VirtioPoc.Console
