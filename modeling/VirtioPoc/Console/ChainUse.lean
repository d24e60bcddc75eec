import VirtioPoc.Console.ProcessRx
import VirtioPoc.Console.ProcessTx

/-!
# What becomes of the chains of a port

Both workers of a port take a chain, work on it, and then use it or put it back.
`Settled` says so of the record of a worker, for the chains in the order in which
the guest published them.  It holds for chains of any shape and for whatever the
input and the output do, and after every way out of the loops but one: the
failed assertion of `process_tx`, which ends the thread.
-/

namespace VirtioPoc.Console

open Base Virtio

/-- The operation moves the worker along the available or the used ring. -/
def PortOp.onQueue : PortOp → Bool
  | .pop .. | .addUsed .. | .goToPreviousPosition => true
  | .read _ | .accept _ | .signalUsedQueue | .portOpen .. => false

/-! ### The record of a worker -/

/-- Between the two records the worker has only used its port. -/
def OnlyWork (ops ops' : List PortOp) : Prop :=
  ∃ work, (∀ op ∈ work, op.onQueue = false) ∧ ops' = ops ++ work

theorem OnlyWork.refl (ops : List PortOp) : OnlyWork ops ops :=
  ⟨[], nofun, (List.append_nil ops).symm⟩

theorem OnlyWork.snoc {ops ops' : List PortOp} (h : OnlyWork ops ops') {op : PortOp}
    (hop : op.onQueue = false) : OnlyWork ops (ops' ++ [op]) := by
  obtain ⟨work, hwork, rfl⟩ := h
  refine ⟨work ++ [op], fun o ho => ?_, List.append_assoc ops work [op]⟩
  rcases List.mem_append.mp ho with ho | ho
  · exact hwork o ho
  · rw [List.mem_singleton.mp ho]
    exact hop

/-- **Every chain has its place.**  Whenever a chain is popped, it is the first of the published ones
that are not used, and then it is used, once and under its own head index, or put back, before another
one is popped.  The list is that of the used chains. -/
inductive Settled (published : List DescriptorChain) : List PortOp → List DescriptorChain → Prop
  | nil : Settled published [] []
  | work {ops cs op} (h : Settled published ops cs) (hop : op.onQueue = false) :
      Settled published (ops ++ [op]) cs
  | used {ops cs ops'} (h : Settled published ops cs) (chain : DescriptorChain) (data : List UInt8)
      (hnext : cs ++ [chain] <+: published) (hwork : OnlyWork (ops ++ [.pop chain data]) ops')
      (len : UInt32) (space : List UInt8) :
      Settled published (ops' ++ [.addUsed chain len space]) (cs ++ [chain])
  | putBack {ops cs ops'} (h : Settled published ops cs) (chain : DescriptorChain)
      (data : List UInt8) (hnext : cs ++ [chain] <+: published)
      (hwork : OnlyWork (ops ++ [.pop chain data]) ops') :
      Settled published (ops' ++ [.goToPreviousPosition]) cs

theorem used_of_onlyWork {ops ops' : List PortOp} (h : OnlyWork ops ops') : used ops' = used ops := by
  obtain ⟨work, hwork, rfl⟩ := h
  have hnone : used work = [] := by
    apply List.filterMap_eq_nil_iff.mpr
    intro op hop
    cases op with
    | addUsed => cases hwork _ hop
    | _ => rfl
  rw [used_append, hnone, List.append_nil]

namespace Settled

variable {published : List DescriptorChain} {ops : List PortOp} {cs : List DescriptorChain}

theorem used_ops (h : Settled published ops cs) : Console.used ops = cs := by
  induction h with
  | nil => rfl
  | work _ hop ih => exact (used_of_onlyWork ((OnlyWork.refl _).snoc hop)).trans ih
  | used _ chain data _ hwork len space ih =>
    rw [used_append, used_of_onlyWork hwork, used_append, ih]
    exact congrArg (· ++ [chain]) (List.append_nil _)
  | putBack _ chain data _ hwork ih =>
    rw [used_append, used_of_onlyWork hwork, used_append, ih]
    exact (List.append_nil _).trans (List.append_nil _)

/-- The guest may go on publishing. -/
theorem publish (h : Settled published ops cs) (chain : DescriptorChain) :
    Settled (published ++ [chain]) ops cs := by
  have hmore {xs : List DescriptorChain} (hx : xs <+: published) : xs <+: published ++ [chain] :=
    hx.trans (List.prefix_append published [chain])
  induction h with
  | nil => exact .nil
  | work _ hop ih => exact ih.work hop
  | used _ c data hnext hwork len space ih => exact ih.used c data (hmore hnext) hwork len space
  | putBack _ c data hnext hwork ih => exact ih.putBack c data (hmore hnext) hwork

end Settled

/-- The chains that are available are the published ones that are not used. -/
def Placed (published avail : List DescriptorChain) (ops : List PortOp) : Prop :=
  ∃ cs, Settled published ops cs ∧ cs ++ avail = published

namespace Placed

variable {published avail : List DescriptorChain} {ops ops' : List PortOp} {chain : DescriptorChain}
  {data : List UInt8}

theorem work (h : Placed published avail ops) {op : PortOp} (hop : op.onQueue = false) :
    Placed published avail (ops ++ [op]) := by
  obtain ⟨cs, hs, hcs⟩ := h
  exact ⟨cs, hs.work hop, hcs⟩

theorem publish (h : Placed published avail ops) (chain : DescriptorChain) :
    Placed (published ++ [chain]) (avail ++ [chain]) ops := by
  obtain ⟨cs, hs, rfl⟩ := h
  exact ⟨cs, hs.publish chain, (List.append_assoc cs avail [chain]).symm⟩

theorem prefix_of_next {cs : List DescriptorChain} (h : cs ++ chain :: avail = published) :
    cs ++ [chain] <+: published :=
  ⟨avail, by rw [← h, List.append_assoc]; rfl⟩

/-- A chain is popped, worked on, and used. -/
theorem used (h : Placed published (chain :: avail) ops)
    (hwork : OnlyWork (ops ++ [.pop chain data]) ops') (len : UInt32) (space : List UInt8) :
    Placed published avail (ops' ++ [.addUsed chain len space]) := by
  obtain ⟨cs, hs, hcs⟩ := h
  refine ⟨cs ++ [chain], hs.used chain data (prefix_of_next hcs) hwork len space, ?_⟩
  rw [List.append_assoc]
  exact hcs

/-- A chain is popped, worked on, and put back. -/
theorem putBack (h : Placed published (chain :: avail) ops)
    (hwork : OnlyWork (ops ++ [.pop chain data]) ops') :
    Placed published (chain :: avail) (ops' ++ [.goToPreviousPosition]) := by
  obtain ⟨cs, hs, hcs⟩ := h
  exact ⟨cs, hs.putBack chain data (prefix_of_next hcs) hwork, hcs⟩

end Placed

/-! ### The input worker -/

namespace RxState

variable {regions : List GuestRegion}

/-- What a step of the guest publishes. -/
def publishes : RxState → Action → List DescriptorChain
  | _, .publish chain => [chain]
  | _, .event .. | _, .drain | _, .guestWrite _ => []

/-- From `s` to `t` the worker has only used its port. -/
def Works (s t : RxState) : Prop := t.avail = s.avail ∧ OnlyWork s.ops t.ops

theorem Works.readPiece {s t : RxState} (h : Works s t) (total len addr : Nat) :
    Works s (t.readPiece total len addr).2 := by
  unfold RxState.readPiece
  split
  case h_1 data input _ => exact ⟨h.1, h.2.snoc rfl⟩
  case h_2 => exact h
  case h_3 => exact h

theorem works_readChain (regions : List GuestRegion) {s t : RxState} (ds : List Descriptor) (n : Nat)
    (h : Works s t) : Works s (t.readChain regions ds n).2 :=
  readChain_frame (fun total len addr _ h => h.readPiece total len addr) (fun _ h => ⟨h.1, h.2⟩) ds n t h

/-- The chains are where they belong. -/
def InPlace (p : RxState × List DescriptorChain) : Prop := Placed p.2 p.1.avail p.1.ops

variable {s : RxState} {published : List DescriptorChain}

theorem InPlace.waitEvent (h : InPlace (s, published)) : InPlace (s.waitEvent, published) := by
  rcases s.waitEvent_cases with heq | ⟨-, heq⟩
  · rw [heq]
    exact Placed.work h rfl
  · rw [heq]
    exact h

theorem InPlace.handleEvent (h : InPlace (s, published)) (token : WorkerToken)
    (readKick tryLockQueue : Bool) :
    InPlace (s.handleEvent token readKick tryLockQueue, published) := by
  rcases s.handleEvent_cases token readKick tryLockQueue with heq | heq | heq
  · rw [heq]
    exact h
  · rw [heq]
    exact h.waitEvent
  · rw [heq]
    exact h

theorem InPlace.drain (h : InPlace (s, published)) (portId : UInt32) :
    InPlace (s.drain regions portId, published) := by
  cases ha : s.avail with
  | nil =>
    rw [drain_nil ha]
    refine InPlace.waitEvent ?_
    split
    · exact Placed.work h rfl
    · exact h
  | cons chain avail =>
    have hplaced : Placed published (chain :: avail) s.ops := by
      rw [← ha]
      exact h
    have hworks := works_readChain regions (s := s.popChain chain avail) chain.writable 0
      ⟨rfl, OnlyWork.refl _⟩
    rcases hread : (s.popChain chain avail).readChain regions chain.writable 0 with ⟨bytesRead, t⟩
    rw [hread] at hworks
    obtain ⟨havail, hwork⟩ := hworks
    have havail : t.avail = avail := havail
    by_cases hzero : bytesRead = 0
    · subst hzero
      rw [drain_putBack ha hread]
      refine InPlace.waitEvent ?_
      show Placed published (chain :: t.avail) (t.ops ++ [.goToPreviousPosition])
      rw [havail]
      exact hplaced.putBack hwork
    · have hused := hplaced.used hwork (.ofNat bytesRead) (contents t.mem chain.writable)
      rw [← havail] at hused
      rw [drain_used ha hread hzero]
      dsimp only
      split
      case isTrue => exact hused.work rfl
      case isFalse => exact hused

theorem InPlace.step {portId : UInt32} {p q : RxState × List DescriptorChain} {a : Action}
    (h : InPlace p) (hstep : recording (RxState.step regions portId) publishes p a = some q) :
    InPlace q := by
  obtain ⟨s, published⟩ := p
  obtain ⟨t, published'⟩ := q
  obtain ⟨hs, hpub⟩ := recording_eq_some.mp hstep
  have hpub : published' = published ++ publishes s a := hpub
  subst hpub
  cases a with
  | event token readKick tryLockQueue =>
    obtain ⟨-, ht⟩ := Option.ite_none_right_eq_some.mp hs
    obtain rfl := Option.some.inj ht
    show InPlace (_, published ++ [])
    rw [List.append_nil]
    exact h.handleEvent token readKick tryLockQueue
  | drain =>
    obtain ⟨-, ht⟩ := Option.ite_none_right_eq_some.mp hs
    obtain rfl := Option.some.inj ht
    show InPlace (_, published ++ [])
    rw [List.append_nil]
    exact h.drain portId
  | publish chain =>
    obtain rfl := Option.some.inj hs
    exact Placed.publish h chain
  | guestWrite mem =>
    obtain rfl := Option.some.inj hs
    show InPlace (_, published ++ [])
    rw [List.append_nil]
    exact h

end RxState

/-! ### The output worker -/

namespace TxState

variable {regions : List GuestRegion}

/-- From `s` to `t` the worker has only used its port. -/
structure Works (s t : TxState) : Prop where
  avail : t.avail = s.avail
  published : t.published = s.published
  pc : t.pc = s.pc
  ops : OnlyWork s.ops t.ops

theorem Works.writePiece {s t : TxState} (h : Works s t) (total len addr : Nat) :
    Works s (t.writePiece total len addr).2 := by
  unfold TxState.writePiece
  split
  case h_1 => exact ⟨h.avail, h.published, h.pc, h.ops.snoc rfl⟩
  case h_2 => exact ⟨h.avail, h.published, h.pc, h.ops⟩

theorem works_writeChain (regions : List GuestRegion) {s t : TxState} (ds : List Descriptor) (n : Nat)
    (h : Works s t) : Works s (t.writeChain regions ds n).2 :=
  writeChain_frame (fun total len addr _ h => h.writePiece total len addr)
    (fun _ h => ⟨h.avail, h.published, h.pc, h.ops⟩)
    (fun _ _ h => ⟨h.avail, h.published, h.pc, h.ops⟩) ds n t h

/-- The writes for the chain that has been popped. -/
theorem works_popChain (regions : List GuestRegion) (s : TxState) (chain : DescriptorChain)
    (avail : List DescriptorChain) : Works (s.popChain chain avail)
      ((s.popChain chain avail).writeChain regions chain.readable 0).2 :=
  works_writeChain regions chain.readable 0 ⟨rfl, rfl, rfl, OnlyWork.refl _⟩

/-- The chains are where they belong, unless the worker has panicked. -/
def InPlace (s : TxState) : Prop := s.pc ≠ .panicked → Placed s.published s.avail s.ops

variable {s : TxState}

theorem inPlace_waitEvent (h : Placed s.published s.avail s.ops) : InPlace s.waitEvent := by
  rcases s.waitEvent_cases with heq | ⟨-, heq⟩
  · rw [heq]
    exact fun _ => h.work rfl
  · rw [heq]
    exact fun _ => h

theorem inPlace_handleEvent (h : Placed s.published s.avail s.ops) (token : WorkerToken)
    (readKick tryLockQueue : Bool) : InPlace (s.handleEvent token readKick tryLockQueue) := by
  rcases s.handleEvent_cases token readKick tryLockQueue with heq | heq | heq
  · rw [heq]
    exact fun _ => h
  · rw [heq]
    exact inPlace_waitEvent h
  · rw [heq]
    exact fun _ => h

theorem inPlace_drain (h : Placed s.published s.avail s.ops) : InPlace (s.drain regions) := by
  cases ha : s.avail with
  | nil =>
    rw [drain_nil ha]
    exact inPlace_waitEvent h
  | cons chain avail =>
    rw [ha] at h
    have hworks := works_popChain regions s chain avail
    rcases hwrite : (s.popChain chain avail).writeChain regions chain.readable 0 with
      ⟨_ | bytesWritten, t⟩
    · rw [drain_panicked ha hwrite]
      exact fun hpc => absurd rfl hpc
    · rw [hwrite] at hworks
      have havail : t.avail = avail := hworks.avail
      have hpublished : t.published = s.published := hworks.published
      by_cases hzero : bytesWritten = 0
      · subst hzero
        rw [drain_putBack ha hwrite]
        refine inPlace_waitEvent ?_
        show Placed t.published (chain :: t.avail) (t.ops ++ [.goToPreviousPosition])
        rw [havail, hpublished]
        exact h.putBack hworks.ops
      · rw [drain_used ha hwrite hzero]
        intro _
        show Placed t.published t.avail (t.ops ++ [_])
        rw [havail, hpublished]
        exact h.used hworks.ops (.ofNat bytesWritten) (contents t.mem chain.writable)

theorem InPlace.step {s t : TxState} {a : Action} (h : InPlace s)
    (hstep : s.step regions a = some t) : InPlace t := by
  cases a with
  | event token readKick tryLockQueue =>
    obtain ⟨hpc, ht⟩ := Option.ite_none_right_eq_some.mp hstep
    cases ht
    exact inPlace_handleEvent (h (by rw [hpc]; exact nofun)) token readKick tryLockQueue
  | drain =>
    obtain ⟨hpc, ht⟩ := Option.ite_none_right_eq_some.mp hstep
    cases ht
    exact inPlace_drain (h (by rw [hpc]; exact nofun))
  | publish chain =>
    cases hstep
    exact fun hpc => Placed.publish (h hpc) chain
  | guestWrite mem =>
    cases hstep
    exact h

end TxState

/-- **No chain is leaked or duplicated.**  In every state of either worker between two chains, and
after it has returned, each chain that was popped was used or put back, as `Settled` says, and the used
chains followed by those still available are the published ones, in order.  A worker that has panicked
is left out. -/
theorem port_chains_settled {regions : List GuestRegion} :
    (∀ {portId : UInt32} {mem : Bytes} {input : List Incoming} {s : RxState}
      {published : List DescriptorChain},
      Reaches (recording (RxState.step regions portId) RxState.publishes) (fun _ _ => True)
        (.new mem input, []) (s, published) →
      Settled published s.ops (used s.ops) ∧ used s.ops ++ s.avail = published) ∧
    (∀ {mem : Bytes} {output : List Outgoing} {s : TxState},
      Reaches (TxState.step regions) (fun _ _ => True) (.new mem output) s → s.pc ≠ .panicked →
      Settled s.published s.ops (used s.ops) ∧ used s.ops ++ s.avail = s.published) := by
  constructor
  · intro portId mem input s published hr
    have hplaced : RxState.InPlace (s, published) :=
      hr.invariant ⟨[], .nil, rfl⟩ fun _ _ _ h _ hstep => h.step hstep
    obtain ⟨cs, hsettled, hcs⟩ := hplaced
    rw [hsettled.used_ops]
    exact ⟨hsettled, hcs⟩
  · intro mem output s hr hpc
    have hplaced : TxState.InPlace s :=
      hr.invariant (fun _ => ⟨[], .nil, rfl⟩) fun _ _ _ h _ hstep => h.step hstep
    obtain ⟨cs, hsettled, hcs⟩ := hplaced hpc
    rw [hsettled.used_ops]
    exact ⟨hsettled, hcs⟩

/-- The chain is published, kicked, written and used, and there is no other. -/
def writeOne : List TxState.Action :=
  [.publish acrossRegions, .event .processQueue true true, .drain, .drain]

/-- The input has nothing, and the chain is put back; the output takes a chain, and it is used. -/
theorem port_chains_settled_put_back :
    (∃ p, run (recording (RxState.step oneRegion 0) RxState.publishes)
        (.new (fun _ => 0) [.wouldBlock], []) takeOne = some p ∧
      p.1.pc = .waiting ∧ p.1.avail = [twoDescriptors] ∧
      Settled p.2 p.1.ops (used p.1.ops) ∧ used p.1.ops ++ p.1.avail = p.2) ∧
    (∃ s, run (TxState.step twoRegions) (.new (fun a => .ofNat a) []) writeOne = some s ∧
      s.pc = .waiting ∧ s.avail = [] ∧
      Settled s.published s.ops (used s.ops) ∧ used s.ops ++ s.avail = s.published) := by
  constructor
  · have hsome : (run (recording (RxState.step oneRegion 0) RxState.publishes)
        (.new (fun _ => 0) [.wouldBlock], []) takeOne).isSome := rfl
    obtain ⟨⟨s, published⟩, hrun⟩ := Option.isSome_iff_exists.mp hsome
    have hsettled := port_chains_settled.1 (reaches_of_run_any takeOne hrun)
    have hstate : s.pc = .waiting ∧ s.avail = [twoDescriptors] := by
      cases hrun
      exact ⟨rfl, rfl⟩
    exact ⟨_, hrun, hstate.1, hstate.2, hsettled⟩
  · have hsome : (run (TxState.step twoRegions) (.new (fun a => .ofNat a) []) writeOne).isSome := rfl
    obtain ⟨s, hrun⟩ := Option.isSome_iff_exists.mp hsome
    have hstate : s.pc = .waiting ∧ s.avail = [] := by
      cases hrun
      exact ⟨rfl, rfl⟩
    have hsettled := port_chains_settled.2 (reaches_of_run_any writeOne hrun) (by
      rw [hstate.1]
      exact nofun)
    exact ⟨s, hrun, hstate.1, hstate.2, hsettled⟩

end VirtioPoc.Console
