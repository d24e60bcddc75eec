import VirtioPoc.Console.PortIo
import VirtioPoc.Base.Run

/-!
# The output worker of a console port

`process_tx.rs`.  The worker waits for an event, and then writes one chain after
the other to its output.  A write that would block is repeated until it does
not, inside the access to the descriptor; a write that takes only a part is
continued by `try_access`.

`port_output_exact` says that the operations of the worker are, in order, one
block for each chain: it is popped, its bytes are accepted, it is used.

Each call of `write_volatile` is recorded as an `Offer`, with what it returns:
the bytes, the number that their chain will have in the used ring, and their
position in the chain.
-/

namespace VirtioPoc.Console

open Base Virtio

/-! ### The worker -/

/-- The chains popped so far, each with the bytes of its readable descriptors. -/
def popped (ops : List PortOp) : List (DescriptorChain × List UInt8) :=
  ops.filterMap fun op => match op with
    | .pop chain data => some (chain, data)
    | _ => none

/-- The chains added to the used ring so far. -/
def used (ops : List PortOp) : List DescriptorChain :=
  ops.filterMap fun op => match op with
    | .addUsed chain _ _ => some chain
    | _ => none

/-- A call of `write_volatile`: the number of the chain in the used ring, the position in the chain
and the bytes that the output is offered, and the bytes that it takes of them or its error. -/
structure Offer where
  (chain pos : Nat)
  data : List UInt8
  result : Except IoError (List UInt8)
  deriving DecidableEq

/-- `published` is what the guest has made available so far, `base` the position of the current
descriptor in its chain, and `offers` the record of the writes; the worker sees none of them. -/
structure TxState where
  pc : Pc
  mem : Bytes
  avail : List DescriptorChain
  output : List Outgoing
  signalUsedQueue : Bool
  ops : List PortOp
  published : List DescriptorChain
  base : Nat
  offers : List Offer

/-- The loop in the closure of `write_desc_to_output`: after a write that would block it waits
until the output is writable, and tries again. -/
def writeUntilDone (chain pos : Nat) (bytes : List UInt8) :
    List Outgoing → Except IoError (List UInt8) × List Outgoing × List Offer
  | .wouldBlock :: rest =>
    let (result, output, offers) := writeUntilDone chain pos bytes rest
    (result, output, ⟨chain, pos, bytes, .error .wouldBlock⟩ :: offers)
  | output =>
    let (result, output) := writeVolatile bytes output
    (result, output, [⟨chain, pos, bytes, result⟩])

namespace TxState

def new (mem : Bytes) (output : List Outgoing) : TxState :=
  { pc := .waiting, mem := mem, avail := [], output := output, signalUsedQueue := false,
    ops := [], published := [], base := 0, offers := [] }

def record (s : TxState) (op : PortOp) : TxState := { s with ops := s.ops ++ [op] }

/-- The closure of `write_desc_to_output`. -/
def writePiece (total len addr : Nat) (s : TxState) : Except GuestMemoryError Nat × TxState :=
  match writeUntilDone (used s.ops).length (s.base + total) (readBytes s.mem addr len) s.output with
  | (.ok data, output, offers) =>
    (.ok data.length, { s with
      output := output
      ops := s.ops ++ [.accept data]
      offers := s.offers ++ offers })
  | (.error _, output, offers) =>
    (.error .ioError, { s with output := output, offers := s.offers ++ offers })

def writeDescToOutput (regions : List GuestRegion) (desc : Descriptor) (s : TxState) :
    Except GuestMemoryError Nat × TxState :=
  tryAccess regions desc.len desc.addr writePiece s

/-- The next descriptor begins behind this one. -/
def behind (s : TxState) (desc : Descriptor) : TxState := { s with base := s.base + desc.len }

/-- The loop over the readable descriptors of a chain; `none` is the failed assertion. -/
def writeChain (regions : List GuestRegion) :
    List Descriptor → Nat → TxState → Option Nat × TxState
  | [], bytesWritten, s => (some bytesWritten, s)
  | desc :: descs, bytesWritten, s =>
    match s.writeDescToOutput regions desc with
    | (.ok 0, s) => (some bytesWritten, s)
    | (.ok (n + 1), s) =>
      if n + 1 = desc.len then
        writeChain regions descs (bytesWritten + (n + 1))
          { s.behind desc with signalUsedQueue := true }
      else (none, s)
    | (.error _, s) => writeChain regions descs bytesWritten (s.behind desc)

/-- The top of the event loop. -/
def waitEvent (s : TxState) : TxState :=
  if s.signalUsedQueue then
    { s.record .signalUsedQueue with pc := .waiting, signalUsedQueue := false }
  else { s with pc := .waiting }

/-- An event, with what `read_kick` and `try_lock_queue` return for it. -/
def handleEvent (s : TxState) (token : WorkerToken) (readKick tryLockQueue : Bool) : TxState :=
  match token with
  | .stop => { s with pc := .returned }
  | .processQueue | .io =>
    if readKick = false then s.waitEvent
    else if tryLockQueue = false then s.waitEvent
    else { s with pc := .draining }

/-- One turn of the loop over the chains. -/
def drain (regions : List GuestRegion) (s : TxState) : TxState :=
  match s.avail with
  | [] => s.waitEvent
  | chain :: avail =>
    let s := { s with avail := avail, base := 0 }.record
      (.pop chain (contents s.mem chain.readable))
    match s.writeChain regions chain.readable 0 with
    | (none, s) => { s with pc := .panicked }
    | (some bytesWritten, s) =>
      if bytesWritten = 0 then
        { s with avail := chain :: s.avail }.record .goToPreviousPosition |>.waitEvent
      else s.record (.addUsed chain (.ofNat bytesWritten) (contents s.mem chain.writable))

inductive Action
  | event (token : WorkerToken) (readKick tryLockQueue : Bool)
  | drain
  | publish (chain : DescriptorChain)
  | guestWrite (mem : Bytes)

def step (regions : List GuestRegion) (s : TxState) : Action → Option TxState
  | .event token readKick tryLockQueue =>
    if s.pc = .waiting then some (s.handleEvent token readKick tryLockQueue) else none
  | .drain => if s.pc = .draining then some (s.drain regions) else none
  | .publish chain =>
    some { s with avail := s.avail ++ [chain], published := s.published ++ [chain] }
  | .guestWrite mem => some { s with mem := mem }

end TxState

namespace TxState

/-- The chain has been popped, and `avail` is left. -/
def popChain (s : TxState) (chain : DescriptorChain) (avail : List DescriptorChain) : TxState :=
  { s with avail := avail, base := 0 }.record (.pop chain (contents s.mem chain.readable))

/-- The two ways to the top of the loop. -/
theorem waitEvent_cases (s : TxState) :
    s.waitEvent = { s.record .signalUsedQueue with pc := .waiting, signalUsedQueue := false } ∨
      s.signalUsedQueue = false ∧ s.waitEvent = { s with pc := .waiting } := by
  unfold waitEvent
  cases hflag : s.signalUsedQueue with
  | true => exact .inl (if_pos rfl)
  | false => exact .inr ⟨rfl, if_neg Bool.false_ne_true⟩

/-- **What an event does**: the worker returns, or it waits again, or it takes chains. -/
theorem handleEvent_cases (s : TxState) (token : WorkerToken) (readKick tryLockQueue : Bool) :
    s.handleEvent token readKick tryLockQueue = { s with pc := .returned } ∨
      s.handleEvent token readKick tryLockQueue = s.waitEvent ∨
      s.handleEvent token readKick tryLockQueue = { s with pc := .draining } := by
  cases token with
  | stop => exact .inl rfl
  | processQueue | io =>
    cases readKick with
    | false => exact .inr (.inl rfl)
    | true =>
      cases tryLockQueue with
      | false => exact .inr (.inl rfl)
      | true => exact .inr (.inr rfl)

variable {regions : List GuestRegion} {s t : TxState} {chain : DescriptorChain}
  {avail : List DescriptorChain} {bytesWritten : Nat}

/-- A turn that finds no chain. -/
theorem drain_nil (ha : s.avail = []) : s.drain regions = s.waitEvent := by
  simp only [drain, ha]

/-- A turn in which the assertion fails. -/
theorem drain_panicked (ha : s.avail = chain :: avail)
    (hwrite : (s.popChain chain avail).writeChain regions chain.readable 0 = (none, t)) :
    s.drain regions = { t with pc := .panicked } := by
  unfold popChain at hwrite
  simp only [drain, ha, hwrite]

/-- A turn with a chain of which nothing is written. -/
theorem drain_putBack (ha : s.avail = chain :: avail)
    (hwrite : (s.popChain chain avail).writeChain regions chain.readable 0 = (some 0, t)) :
    s.drain regions =
      ({ t with avail := chain :: t.avail }.record .goToPreviousPosition).waitEvent := by
  unfold popChain at hwrite
  simp only [drain, ha, hwrite, if_true]

/-- A turn with a chain of which bytes are written. -/
theorem drain_used (ha : s.avail = chain :: avail)
    (hwrite : (s.popChain chain avail).writeChain regions chain.readable 0 = (some bytesWritten, t))
    (hne : bytesWritten ≠ 0) :
    s.drain regions =
      t.record (.addUsed chain (.ofNat bytesWritten) (contents t.mem chain.writable)) := by
  unfold popChain at hwrite
  simp only [drain, ha, hwrite, if_neg hne]

end TxState

/-! ### One descriptor -/

/-- Every write takes at least a byte, or would block. -/
def OnlyAccepts (output : List Outgoing) : Prop :=
  ∀ o ∈ output, o = .wouldBlock ∨ ∃ n, 0 < n ∧ o = .accept n

/-- **The retries end**, with a write that takes a first part of the bytes. -/
theorem writeUntilDone_spec (chain pos : Nat) {bytes : List UInt8} (hne : bytes ≠ []) :
    ∀ {output : List Outgoing}, OnlyAccepts output → ∃ n output' offers,
      writeUntilDone chain pos bytes output = (.ok (bytes.take n), output', offers) ∧
        0 < n ∧ n ≤ bytes.length ∧ OnlyAccepts output' := by
  have hlen : 0 < bytes.length := List.length_pos_iff.mpr hne
  intro output
  induction output with
  | nil =>
    intro h
    refine ⟨bytes.length, [], [⟨chain, pos, bytes, .ok bytes⟩], ?_, hlen, Nat.le_refl _, h⟩
    rw [List.take_length]
    rfl
  | cons o output ih =>
    intro h
    have htail : OnlyAccepts output := fun o' ho' => h o' (List.mem_cons_of_mem _ ho')
    rcases h o List.mem_cons_self with rfl | ⟨n, hn, rfl⟩
    · obtain ⟨n, output', offers, hdone, hrest⟩ := ih htail
      exact ⟨n, output', _, by rw [writeUntilDone, hdone], hrest⟩
    · refine ⟨min n bytes.length, output, [⟨chain, pos, bytes, .ok (bytes.take n)⟩], ?_, by omega,
        by omega, htail⟩
      rw [← List.take_take, List.take_length]
      rfl

namespace TxState

/-- From `s` to `t` the output has accepted `data`, in some number of writes, and nothing else
happened that matters here. -/
structure HasWritten (s : TxState) (data : List UInt8) (t : TxState) : Prop where
  ops : ∃ writes : List (List UInt8), writes.flatten = data ∧
    t.ops = s.ops ++ writes.map PortOp.accept
  mem : t.mem = s.mem
  avail : t.avail = s.avail
  published : t.published = s.published
  pc : t.pc = s.pc
  output : OnlyAccepts t.output

theorem HasWritten.trans {s t u : TxState} {data more : List UInt8} (h : HasWritten s data t)
    (g : HasWritten t more u) : HasWritten s (data ++ more) u where
  ops := by
    obtain ⟨ws, rfl, hs⟩ := h.ops
    obtain ⟨vs, rfl, ht⟩ := g.ops
    exact ⟨ws ++ vs, List.flatten_append, by rw [ht, hs, List.map_append, List.append_assoc]⟩
  mem := g.mem.trans h.mem
  avail := g.avail.trans h.avail
  published := g.published.trans h.published
  pc := g.pc.trans h.pc
  output := g.output

theorem HasWritten.refl {s : TxState} (h : OnlyAccepts s.output) : HasWritten s [] s where
  ops := ⟨[], rfl, (List.append_nil _).symm⟩
  mem := rfl
  avail := rfl
  published := rfl
  pc := rfl
  output := h

/-- **Step lemma**: one call of the closure. -/
theorem HasWritten.writePiece {s t : TxState} {addr total len : Nat}
    (h : HasWritten s (readBytes s.mem addr total) t) (hpos : 0 < len) :
    Piece (fun n => HasWritten s (readBytes s.mem addr n)) (fun _ _ => False) total len
      (writePiece total len (addr + total) t) := by
  have hbytes : readBytes t.mem (addr + total) len ≠ [] := by
    apply List.ne_nil_of_length_pos
    rw [length_readBytes]
    exact hpos
  obtain ⟨n, output', offers, hdone, hn, hnlen, hout⟩ :=
    writeUntilDone_spec (used t.ops).length (t.base + total) hbytes h.output
  rw [length_readBytes] at hnlen
  rw [take_readBytes _ _ hnlen, h.mem] at hdone
  have hpiece : t.writePiece total len (addr + total) = (.ok n, { t with
      output := output'
      ops := t.ops ++ [.accept (readBytes s.mem (addr + total) n)]
      offers := t.offers ++ offers }) := by
    rw [TxState.writePiece, h.mem, hdone]
    dsimp only
    rw [length_readBytes]
  refine ⟨n, _, hpiece, hnlen, fun hz => absurd hz (by omega), fun _ => ?_⟩
  show HasWritten s (readBytes s.mem addr (total + n)) _
  rw [readBytes_append]
  exact h.trans ⟨⟨[readBytes s.mem (addr + total) n], by simp, rfl⟩, rfl, rfl, rfl, rfl, hout⟩

/-- **An access to a descriptor writes all of it**, however the writes are cut. -/
theorem writeDescToOutput_spec {regions : List GuestRegion} {desc : Descriptor} {s : TxState}
    (hpos : 0 < desc.len) (hin : Inside regions desc.addr desc.len) (h : OnlyAccepts s.output) :
    ∃ t, s.writeDescToOutput regions desc = (.ok desc.len, t) ∧
      HasWritten s (readBytes s.mem desc.addr desc.len) t := by
  obtain ⟨n, t, htry, ⟨rfl, hall⟩ | hstop⟩ := tryAccess_rule hin hpos
    (fun _ _ _ ht hlen _ => HasWritten.writePiece ht hlen) (HasWritten.refl h)
  · exact ⟨t, htry, hall⟩
  · exact hstop.elim

/-! ### One chain -/

/-- **The frame rule of a chain**: what the closure keeps is kept. -/
theorem writeChain_frame {regions : List GuestRegion} {R : TxState → Prop}
    (hpiece : ∀ total len addr s, R s → R (s.writePiece total len addr).2)
    (hsignal : ∀ s, R s → R { s with signalUsedQueue := true })
    (hbehind : ∀ s desc, R s → R (s.behind desc)) :
    ∀ (ds : List Descriptor) (n : Nat) (s : TxState), R s → R (s.writeChain regions ds n).2 := by
  intro ds
  induction ds with
  | nil => exact fun _ _ h => h
  | cons desc ds ih =>
    intro n s h
    have hnext : R (s.writeDescToOutput regions desc).2 := tryAccess_frame hpiece desc.addr h
    rw [writeChain]
    generalize s.writeDescToOutput regions desc = out at hnext ⊢
    obtain ⟨_ | (_ | len), t⟩ := out
    · exact ih _ _ (hbehind t desc hnext)
    · exact hnext
    · by_cases hall : len + 1 = desc.len
      · simp only [if_pos hall]
        exact ih _ _ (hsignal _ (hbehind t desc hnext))
      · simp only [if_neg hall]
        exact hnext

/-- **A chain is written as a whole.** -/
theorem writeChain_spec {regions : List GuestRegion} : ∀ (ds : List Descriptor) (n : Nat)
    {s : TxState}, Sound regions ds → OnlyAccepts s.output →
    ∃ t, s.writeChain regions ds n = (some (n + sumLen ds), t) ∧
      HasWritten s (contents s.mem ds) t := by
  intro ds
  induction ds with
  | nil => exact fun n s _ h => ⟨s, rfl, HasWritten.refl h⟩
  | cons d ds ih =>
    intro n s hs h
    obtain ⟨hpos, hin⟩ := hs d List.mem_cons_self
    obtain ⟨t, hto, hwritten⟩ := writeDescToOutput_spec hpos hin h
    obtain ⟨u, hchain, hwritten'⟩ := ih (n + d.len) (s := { t.behind d with signalUsedQueue := true })
      (fun e he => hs e (List.mem_cons_of_mem d he)) hwritten.output
    have hmem : t.mem = s.mem := hwritten.mem
    refine ⟨u, ?_, ?_⟩
    · obtain ⟨k, hk⟩ := Nat.exists_eq_succ_of_ne_zero (Nat.ne_of_gt hpos)
      rw [hk] at hto hchain
      rw [sumLen_cons, hk, ← Nat.add_assoc, ← hchain, writeChain, hto]
      exact if_pos hk.symm
    · show HasWritten s (readBytes s.mem d.addr d.len ++ contents s.mem ds) u
      rw [← hmem]
      rw [← hmem] at hwritten
      exact hwritten.trans ⟨hwritten'.ops, hwritten'.mem, hwritten'.avail, hwritten'.published,
        hwritten'.pc, hwritten'.output⟩

end TxState

/-! ### The record of a run -/

@[simp] theorem popped_append (xs ys : List PortOp) : popped (xs ++ ys) = popped xs ++ popped ys :=
  List.filterMap_append

@[simp] theorem used_append (xs ys : List PortOp) : used (xs ++ ys) = used xs ++ used ys :=
  List.filterMap_append

theorem accepted_map_accept (writes : List (List UInt8)) :
    accepted (writes.map .accept) = writes.flatten := by
  induction writes with
  | nil => rfl
  | cons w ws ih =>
    rw [List.map_cons, List.flatten_cons, ← ih]
    rfl

theorem popped_map_accept (writes : List (List UInt8)) : popped (writes.map .accept) = [] := by
  induction writes with
  | nil => rfl
  | cons w ws ih => exact ih

theorem used_map_accept (writes : List (List UInt8)) : used (writes.map .accept) = [] := by
  induction writes with
  | nil => rfl
  | cons w ws ih => exact ih

/-- What is recorded for one chain: it is popped, its bytes are accepted in some number of writes,
and then it is used. -/
def chainOps (chain : DescriptorChain) (writes : List (List UInt8)) (space : List UInt8) :
    List PortOp :=
  .pop chain writes.flatten :: writes.map .accept ++
    [.addUsed chain (.ofNat writes.flatten.length) space]

/-- The record is that of the chains, one after the other, with signals between them. -/
inductive Completed : List PortOp → List (DescriptorChain × List UInt8) → Prop
  | nil : Completed [] []
  | signal {ops cs} (h : Completed ops cs) : Completed (ops ++ [.signalUsedQueue]) cs
  | chain {ops cs} (h : Completed ops cs) (chain : DescriptorChain) (writes : List (List UInt8))
      (space : List UInt8) :
      Completed (ops ++ chainOps chain writes space) (cs ++ [(chain, writes.flatten)])

namespace Completed

variable {ops : List PortOp} {cs : List (DescriptorChain × List UInt8)}

theorem popped_eq (h : Completed ops cs) : popped ops = cs := by
  induction h with
  | nil => rfl
  | signal _ ih =>
    rw [popped_append, ih]
    exact List.append_nil _
  | chain _ chain writes space ih =>
    have hone : popped (chainOps chain writes space) = [(chain, writes.flatten)] := by
      rw [chainOps, popped_append, ← List.singleton_append, popped_append, popped_map_accept]
      rfl
    rw [popped_append, ih, hone]

theorem used_eq (h : Completed ops cs) : used ops = cs.map Prod.fst := by
  induction h with
  | nil => rfl
  | signal _ ih =>
    rw [used_append, ih]
    exact List.append_nil _
  | chain _ chain writes space ih =>
    have hone : used (chainOps chain writes space) = [chain] := by
      rw [chainOps, used_append, ← List.singleton_append, used_append, used_map_accept]
      rfl
    rw [used_append, ih, hone, List.map_append]
    rfl

theorem accepted_eq (h : Completed ops cs) : accepted ops = cs.flatMap Prod.snd := by
  induction h with
  | nil => rfl
  | signal _ ih =>
    rw [accepted_append, ih]
    exact List.append_nil _
  | chain _ chain writes space ih =>
    have hone : accepted (chainOps chain writes space) = writes.flatten := by
      rw [chainOps, accepted_append, ← List.singleton_append, accepted_append, accepted_map_accept]
      exact List.append_nil _
    rw [accepted_append, ih, hone, List.flatMap_append, List.flatMap_singleton]

theorem not_put_back (h : Completed ops cs) : .goToPreviousPosition ∉ ops := by
  induction h with
  | nil => exact List.not_mem_nil
  | signal _ ih => simp [ih]
  | chain _ chain writes space ih => simp [chainOps, ih]

end Completed

/-! ### The run -/

namespace TxState

variable {regions : List GuestRegion}

/-- A chain that the guest publishes has readable descriptors, and they are sound. -/
def Publishes (regions : List GuestRegion) (_ : TxState) : Action → Prop
  | .publish chain => chain.readable ≠ [] ∧ Sound regions chain.readable
  | _ => True

/-- Between two chains all that was popped has been written and used. -/
structure Good (regions : List GuestRegion) (s : TxState) : Prop where
  completed : Completed s.ops (popped s.ops)
  order : (popped s.ops).map Prod.fst ++ s.avail = s.published
  sound : ∀ chain ∈ s.avail, chain.readable ≠ [] ∧ Sound regions chain.readable
  output : OnlyAccepts s.output
  running : s.pc ≠ .panicked

theorem Good.waitEvent {s : TxState} (h : Good regions s) : Good regions s.waitEvent := by
  rcases s.waitEvent_cases with heq | ⟨-, heq⟩
  · have hpopped : popped (s.ops ++ [.signalUsedQueue]) = popped s.ops := by
      rw [popped_append]
      exact List.append_nil _
    rw [heq]
    refine ⟨?_, ?_, h.sound, h.output, nofun⟩
    · show Completed (s.ops ++ [.signalUsedQueue]) (popped (s.ops ++ [.signalUsedQueue]))
      rw [hpopped]
      exact h.completed.signal
    · show (popped (s.ops ++ [.signalUsedQueue])).map Prod.fst ++ s.avail = s.published
      rw [hpopped]
      exact h.order
  · rw [heq]
    exact ⟨h.completed, h.order, h.sound, h.output, nofun⟩

theorem Good.handleEvent {s : TxState} (h : Good regions s) (token : WorkerToken)
    (readKick tryLockQueue : Bool) : Good regions (s.handleEvent token readKick tryLockQueue) := by
  rcases s.handleEvent_cases token readKick tryLockQueue with heq | heq | heq
  · rw [heq]
    exact ⟨h.completed, h.order, h.sound, h.output, nofun⟩
  · rw [heq]
    exact h.waitEvent
  · rw [heq]
    exact ⟨h.completed, h.order, h.sound, h.output, nofun⟩

/-- **One chain**: it is popped, written and used, and the worker goes on to the next. -/
theorem drain_spec {s : TxState} {chain : DescriptorChain} {avail : List DescriptorChain}
    (ha : s.avail = chain :: avail) (hne : chain.readable ≠ [])
    (hs : Sound regions chain.readable) (h : OnlyAccepts s.output) :
    ∃ writes space, writes.flatten = contents s.mem chain.readable ∧
      (s.drain regions).ops = s.ops ++ chainOps chain writes space ∧
      (s.drain regions).avail = avail ∧ (s.drain regions).published = s.published ∧
      (s.drain regions).pc = s.pc ∧ OnlyAccepts (s.drain regions).output := by
  obtain ⟨t, hchain, hwritten⟩ :=
    writeChain_spec (s := s.popChain chain avail) chain.readable 0 hs h
  obtain ⟨writes, hflat, hops⟩ := hwritten.ops
  have hlen : writes.flatten.length = sumLen chain.readable := by
    rw [hflat]
    exact length_contents _ _
  have hpos : sumLen chain.readable ≠ 0 := by
    obtain ⟨d, ds, hd⟩ := List.exists_cons_of_ne_nil hne
    have := (hs d (hd ▸ List.mem_cons_self)).1
    rw [hd, sumLen_cons]
    omega
  rw [Nat.zero_add] at hchain
  have hdrain : s.drain regions = t.record (.addUsed chain (.ofNat (sumLen chain.readable))
      (contents t.mem chain.writable)) := drain_used ha hchain hpos
  refine ⟨writes, contents t.mem chain.writable, hflat, ?_, ?_, ?_, ?_, ?_⟩
  · show (s.drain regions).ops = _
    rw [hdrain, chainOps, hlen, hflat]
    show t.ops ++ _ = _
    rw [hops]
    simp [popChain, TxState.record]
  · rw [hdrain]
    exact hwritten.avail
  · rw [hdrain]
    exact hwritten.published
  · rw [hdrain]
    exact hwritten.pc
  · rw [hdrain]
    exact hwritten.output

theorem Good.drain {s : TxState} (h : Good regions s) : Good regions (s.drain regions) := by
  cases ha : s.avail with
  | nil =>
    rw [drain_nil ha]
    exact h.waitEvent
  | cons chain avail =>
    obtain ⟨hne, hs⟩ := h.sound chain (ha ▸ List.mem_cons_self)
    obtain ⟨writes, space, -, hops, havail, hpub, hpc, hout⟩ := drain_spec ha hne hs h.output
    have hcompleted := h.completed.chain chain writes space
    have hpopped := hcompleted.popped_eq
    refine ⟨?_, ?_, ?_, hout, ?_⟩
    · rw [hops, hpopped]
      exact hcompleted
    · rw [hops, hpopped, havail, hpub, ← h.order, ha, List.map_append, List.append_assoc]
      rfl
    · rw [havail]
      exact fun c hc => h.sound c (ha ▸ List.mem_cons_of_mem chain hc)
    · rw [hpc]
      exact h.running

theorem Good.step {s t : TxState} {a : Action} (h : Good regions s) (hok : Publishes regions s a)
    (hstep : s.step regions a = some t) : Good regions t := by
  cases a with
  | event token readKick tryLockQueue =>
    obtain ⟨-, ht⟩ := Option.ite_none_right_eq_some.mp hstep
    obtain rfl := Option.some.inj ht
    exact h.handleEvent token readKick tryLockQueue
  | drain =>
    obtain ⟨-, ht⟩ := Option.ite_none_right_eq_some.mp hstep
    obtain rfl := Option.some.inj ht
    exact h.drain
  | publish chain =>
    obtain rfl := Option.some.inj hstep
    refine ⟨h.completed, ?_, ?_, h.output, h.running⟩
    · show (popped s.ops).map Prod.fst ++ (s.avail ++ [chain]) = s.published ++ [chain]
      rw [← List.append_assoc, h.order]
    · intro c hc
      rcases List.mem_append.mp hc with hc | hc
      · exact h.sound c hc
      · obtain rfl := List.mem_singleton.mp hc
        exact hok
  | guestWrite mem =>
    obtain rfl := Option.some.inj hstep
    exact ⟨h.completed, h.order, h.sound, h.output, h.running⟩

end TxState

/-- **The output is exactly what the guest sent**, in every state between two chains: the chains were
popped in the order of the available ring and none was put back, each was used once and after its
bytes, in the same order, and the output has accepted their bytes and no others.  The assertion has
not failed. -/
theorem port_output_exact {regions : List GuestRegion} {mem : Bytes} {output : List Outgoing}
    (hout : OnlyAccepts output) {s : TxState}
    (hr : Reaches (TxState.step regions) (TxState.Publishes regions) (.new mem output) s) :
    s.pc ≠ .panicked ∧ .goToPreviousPosition ∉ s.ops ∧
      (popped s.ops).map Prod.fst ++ s.avail = s.published ∧
      used s.ops = (popped s.ops).map Prod.fst ∧
      accepted s.ops = (popped s.ops).flatMap Prod.snd ∧
      Completed s.ops (popped s.ops) := by
  have h : TxState.Good regions s := hr.invariant
    ⟨Completed.nil, rfl, fun _ hc => absurd hc List.not_mem_nil, hout, nofun⟩
    fun _ _ _ h hok hstep => h.step hok hstep
  exact ⟨h.running, h.completed.not_put_back, h.order, h.completed.used_eq,
    h.completed.accepted_eq, h.completed⟩

/-! ### A run over one chain -/

/-- A chain of one readable descriptor that crosses from one region into the next. -/
def acrossRegions : DescriptorChain where
  headIndex := 3
  descs := [⟨0xffe, 4, false⟩]
  sum_lt := by decide

def twoRegions : List GuestRegion := [⟨0, 0x1000⟩, ⟨0x1000, 0x1000⟩]

theorem sound_acrossRegions : Sound twoRegions acrossRegions.readable := by
  intro d hd
  obtain rfl := List.mem_singleton.mp hd
  refine ⟨by decide, fun a h1 h2 => ?_⟩
  by_cases ha : a < 0x1000
  · exact ⟨⟨0, 0x1000⟩, List.mem_cons_self, Nat.zero_le a, ha⟩
  · exact ⟨⟨0x1000, 0x1000⟩, List.mem_cons_of_mem _ List.mem_cons_self, Nat.le_of_not_lt ha,
      Nat.lt_trans h2 (by decide)⟩

/-- Four bytes go out in three writes, one of which would block at first. -/
theorem port_output_exact_three_writes : ∃ s, run (TxState.step twoRegions)
      (.new (fun a => .ofNat a) [.accept 1, .wouldBlock, .accept 9])
      [.publish acrossRegions, .event .processQueue true true, .drain, .drain] = some s ∧
    s.pc = .waiting ∧ used s.ops = [acrossRegions] ∧ accepted s.ops = [0xfe, 0xff, 0, 1] ∧
    used s.ops = (popped s.ops).map Prod.fst ∧
    accepted s.ops = (popped s.ops).flatMap Prod.snd := by
  have hout : OnlyAccepts [.accept 1, .wouldBlock, .accept 9] := by
    intro o ho
    rcases List.mem_cons.mp ho with rfl | ho
    · exact Or.inr ⟨1, by decide, rfl⟩
    · rcases List.mem_cons.mp ho with rfl | ho
      · exact Or.inl rfl
      · exact Or.inr ⟨9, by decide, List.mem_singleton.mp ho⟩
  have hpub : acrossRegions.readable ≠ [] ∧ Sound twoRegions acrossRegions.readable :=
    ⟨by decide, sound_acrossRegions⟩
  have halong : Along (TxState.step twoRegions) (TxState.Publishes twoRegions)
      (.new (fun a => .ofNat a) [.accept 1, .wouldBlock, .accept 9])
      [.publish acrossRegions, .event .processQueue true true, .drain, .drain] :=
    ⟨hpub, fun _ _ => ⟨trivial, fun _ _ => ⟨trivial, fun _ _ => ⟨trivial, fun _ _ => trivial⟩⟩⟩⟩
  obtain ⟨-, -, -, hused, haccepted, -⟩ :=
    port_output_exact hout (reaches_of_run _ _ rfl halong)
  exact ⟨_, rfl, rfl, rfl, by decide, hused, haccepted⟩

end VirtioPoc.Console
