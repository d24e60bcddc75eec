import VirtioPoc.Console.TxAttempt

/-!
# What the output is offered

The worker's state has the record of the writes of all attempts; a chain that is
put back keeps its number in the used ring for the next one.

`output_exact_of_wholeOrNothing` says that in a run in which each chain is written
as a whole, or not at all, no accepted byte is offered again and nothing of a used
chain is left out.
-/

namespace VirtioPoc.Console

open Base Virtio

/-! ### The offers of a run -/

/-- **No accepted byte is offered again.** -/
def NotRepeated (offers : List Offer) : Prop :=
  offers.Pairwise fun o o' => o.chain = o'.chain → ∀ p, o.Accepts p → ¬ o'.Offers p

/-- **Nothing of a used chain is left out**, unless a write of some of its bytes has failed. -/
def NotDropped (usedChains : List DescriptorChain) (offers : List Offer) : Prop :=
  ∀ k chain, usedChains[k]? = some chain →
    (∃ o ∈ offers, o.chain = k ∧ o.Failed) ∨
      ∀ p < sumLen chain.readable, ∃ o ∈ offers, o.chain = k ∧ o.Accepts p

theorem NotRepeated.append {offers more : List Offer} {chain bound : Nat} {bytes : List UInt8}
    (h : NotRepeated offers) (hmore : Attempted chain bytes bound more)
    (hnone : ∀ o ∈ offers, o.chain = chain → o.taken = []) : NotRepeated (offers ++ more) := by
  have hwithin : NotRepeated more := by
    refine hmore.notRepeated.imp ?_
    exact fun hp _ => hp
  refine List.pairwise_append.mpr ⟨h, hwithin, fun o ho o' ho' heq p haccepts => ?_⟩
  have hzero := hnone o ho (heq.trans (hmore.own o' ho').1)
  have hlt := haccepts.2
  have hle := haccepts.1
  rw [hzero, List.length_nil] at hlt
  omega

theorem NotDropped.append {usedChains : List DescriptorChain} {offers : List Offer}
    (h : NotDropped usedChains offers) (more : List Offer) : NotDropped usedChains (offers ++ more) := by
  intro k chain hk
  rcases h k chain hk with ⟨o, ho, hfailed⟩ | hall
  · exact .inl ⟨o, List.mem_append_left more ho, hfailed⟩
  · refine .inr fun p hp => ?_
    obtain ⟨o, ho, haccepts⟩ := hall p hp
    exact ⟨o, List.mem_append_left more ho, haccepts⟩

/-- One more chain is used, after an attempt that has failed or has written all of it. -/
theorem NotDropped.snoc {usedChains : List DescriptorChain} {offers more : List Offer}
    (h : NotDropped usedChains offers) {chain : DescriptorChain} {bound : Nat} {bytes : List UInt8}
    (hmore : Attempted usedChains.length bytes bound more)
    (hlast : (∃ o ∈ more, o.Failed) ∨ AllAccepted more 0 (sumLen chain.readable)) :
    NotDropped (usedChains ++ [chain]) (offers ++ more) := by
  intro k c hk
  by_cases hlt : k < usedChains.length
  · rw [List.getElem?_append_left hlt] at hk
    exact h.append more k c hk
  · obtain ⟨rfl, rfl⟩ : k = usedChains.length ∧ chain = c := by
      rw [List.getElem?_append_right (by omega)] at hk
      obtain ⟨hzero, hc⟩ := List.getElem?_eq_some_iff.mp hk
      simp only [List.length_singleton] at hzero
      exact ⟨by omega, by simpa using hc⟩
    rcases hlast with ⟨o, ho, hfailed⟩ | hall
    · exact .inl ⟨o, List.mem_append_right offers ho, (hmore.own o ho).1, hfailed⟩
    · refine .inr fun p hp => ?_
      obtain ⟨o, ho, haccepts⟩ := hall p p.zero_le hp
      exact ⟨o, List.mem_append_right offers ho, (hmore.own o ho).1, haccepts⟩

namespace TxState

variable {regions : List GuestRegion}

/-- **The offers are of the chains' own bytes.**  Each one has, at its position, those that its chain
had when it was popped, and what the output takes of them is what the worker has recorded. -/
structure OffersOwn (s : TxState) : Prop where
  own : ∀ o ∈ s.offers, ∃ chain bytes, s.published[o.chain]? = some chain ∧
    PortOp.pop chain bytes ∈ s.ops ∧ o.Of bytes
  accepted : accepted s.ops = s.offers.flatMap Offer.taken

/-- **The condition on a step.**  The chain that is taken next lies inside the memory.  If a write for
it fails halfway in a descriptor, another descriptor is written as a whole, or the assertion fails.  And
if a descriptor is written as a whole and the loop ends with bytes left, a write of some bytes fails. -/
def WholeOrNothing (regions : List GuestRegion) (s : TxState) : Action → Prop
  | .drain => ∀ chain avail, s.avail = chain :: avail →
      (∀ d ∈ chain.readable, Inside regions d.addr d.len) ∧
      (FailsHalfway regions chain.readable s.output →
        Wholly regions chain.readable s.output ∨ Cut regions chain.readable s.output) ∧
      (Wholly regions chain.readable s.output → EndsEarly regions chain.readable s.output →
        FailsOnBytes regions chain.readable s.output)
  | _ => True

/-- **The invariant.**  What has been offered under the number of the next chain belongs to attempts
after which it was put back. -/
structure OffersInv (s : TxState) : Prop where
  notRepeated : NotRepeated s.offers
  notDropped : NotDropped (used s.ops) s.offers
  putBack : s.pc ≠ .panicked → ∀ o ∈ s.offers, (used s.ops).length ≤ o.chain →
    o.chain = (used s.ops).length ∧ o.taken = []
  own : s.OffersOwn

/-- From `s` to `t` nothing is offered or used. -/
structure Quiet (s t : TxState) : Prop where
  offers : t.offers = s.offers
  published : s.published <+: t.published
  ops : s.ops ⊆ t.ops
  accepted : accepted t.ops = accepted s.ops
  used : used t.ops = used s.ops
  pc : t.pc ≠ .panicked → s.pc ≠ .panicked

variable {s t : TxState}

theorem OffersOwn.congr (h : s.OffersOwn) (hoffers : t.offers = s.offers)
    (hpublished : s.published <+: t.published) (hops : s.ops ⊆ t.ops)
    (haccepted : Console.accepted t.ops = Console.accepted s.ops) : t.OffersOwn where
  own o ho := by
    rw [hoffers] at ho
    obtain ⟨chain, bytes, hchain, hpop, hof⟩ := h.own o ho
    obtain ⟨hlt, rfl⟩ := List.getElem?_eq_some_iff.mp hchain
    exact ⟨_, bytes, List.prefix_iff_getElem?.mp hpublished _ hlt, hops hpop, hof⟩
  accepted := by rw [haccepted, hoffers, h.accepted]

theorem OffersInv.quiet (h : s.OffersInv) (hq : Quiet s t) : t.OffersInv where
  notRepeated := by
    rw [hq.offers]
    exact h.notRepeated
  notDropped := by
    rw [hq.offers, hq.used]
    exact h.notDropped
  putBack hpc := by
    rw [hq.offers, hq.used]
    exact h.putBack (hq.pc hpc)
  own := h.own.congr hq.offers hq.published hq.ops hq.accepted

/-- One more operation, which neither accepts bytes nor uses a chain. -/
theorem Quiet.record (s : TxState) {op : PortOp} (hused : Console.used [op] = [])
    (haccepted : Console.accepted [op] = []) : Quiet s (s.record op) where
  offers := rfl
  published := List.prefix_rfl
  ops := List.subset_append_left _ _
  accepted := (accepted_append _ _).trans (by rw [haccepted, List.append_nil])
  used := (used_append _ _).trans (by rw [hused, List.append_nil])
  pc := id

theorem quiet_waitEvent (hpc : s.pc ≠ .panicked) : Quiet s s.waitEvent := by
  rcases s.waitEvent_cases with heq | ⟨-, heq⟩
  · have hq : Quiet s (s.record .signalUsedQueue) := .record s rfl rfl
    rw [heq]
    exact ⟨hq.offers, hq.published, hq.ops, hq.accepted, hq.used, fun _ => hpc⟩
  · rw [heq]
    exact ⟨rfl, List.prefix_rfl, List.Subset.refl _, rfl, rfl, fun _ => hpc⟩

theorem quiet_handleEvent (hpc : s.pc ≠ .panicked) (token : WorkerToken)
    (readKick tryLockQueue : Bool) : Quiet s (s.handleEvent token readKick tryLockQueue) := by
  rcases s.handleEvent_cases token readKick tryLockQueue with heq | heq | heq
  · rw [heq]
    exact ⟨rfl, List.prefix_rfl, List.Subset.refl _, rfl, rfl, fun _ => hpc⟩
  · rw [heq]
    exact quiet_waitEvent hpc
  · rw [heq]
    exact ⟨rfl, List.prefix_rfl, List.Subset.refl _, rfl, rfl, fun _ => hpc⟩

section

variable {chain : DescriptorChain} {avail : List DescriptorChain} {bytesWritten : Option Nat}

/-- The first available chain is the published one behind the used ones. -/
theorem InPlace.next (h : s.InPlace) (hpc : s.pc ≠ .panicked) (ha : s.avail = chain :: avail) :
    s.published[(used s.ops).length]? = some chain := by
  obtain ⟨cs, hsettled, hcs⟩ := h hpc
  rw [hsettled.used_ops, ← hcs, ha, List.getElem?_append_right (Nat.le_refl _), Nat.sub_self]
  rfl

/-- **One attempt at the next chain** keeps what the invariant says of the offers. -/
theorem OffersInv.attempt (h : s.OffersInv) (hplace : s.InPlace) (hpc : s.pc ≠ .panicked)
    (ha : s.avail = chain :: avail) (hin : ∀ d ∈ chain.readable, Inside regions d.addr d.len)
    (hwrite : (s.popChain chain avail).writeChain regions chain.readable 0 = (bytesWritten, t)) :
    ∃ bytes bound more, Attempted (used s.ops).length bytes bound more ∧
      t.offers = s.offers ++ more ∧ used t.ops = used s.ops ∧ NotRepeated t.offers ∧ t.OffersOwn ∧
      ∀ m, bytesWritten = some m → Counted regions chain.readable s.output 0 0 m [] more := by
  have hpopped : used (s.popChain chain avail).ops = used s.ops :=
    (used_append _ _).trans (List.append_nil _)
  have hbegin : Attempt (s.popChain chain avail) (contents s.mem chain.readable) 0 []
      (s.popChain chain avail) :=
    ⟨rfl, rfl, (List.append_nil _).symm, (List.append_nil _).symm, nofun, .nil, nofun⟩
  have hbytes : contents (s.popChain chain avail).mem chain.readable =
      (contents s.mem chain.readable).drop 0 := rfl
  obtain ⟨bound, more, -, hattempt, hcounted⟩ :=
    writeChain_offers (t := s.popChain chain avail) chain.readable 0 hin hbegin hbytes
  have hworks := works_popChain regions s chain avail
  rw [hwrite] at hattempt hcounted hworks
  have hmore := hattempt.attempted
  rw [hpopped] at hmore
  have hoffers : t.offers = s.offers ++ more := hattempt.offers
  have hops : s.ops ++ [.pop chain (contents s.mem chain.readable)] ⊆ t.ops := by
    obtain ⟨work, -, hwork⟩ := hworks.ops
    rw [hwork]
    exact List.subset_append_left _ _
  have hpop : PortOp.pop chain (contents s.mem chain.readable) ∈ t.ops :=
    hops (List.mem_append_right _ List.mem_cons_self)
  have hpublished : t.published = s.published := hworks.published
  refine ⟨_, bound, more, hmore, hoffers, hattempt.used.trans hpopped, ?_, ⟨fun o ho => ?_, ?_⟩,
    hcounted⟩
  · rw [hoffers]
    exact h.notRepeated.append hmore fun o ho heq => (h.putBack hpc o ho (Nat.le_of_eq heq.symm)).2
  · rw [hoffers] at ho
    rw [hpublished]
    rcases List.mem_append.mp ho with ho | ho
    · obtain ⟨c, bytes, hchain, hpop, hof⟩ := h.own.own o ho
      exact ⟨c, bytes, hchain, hops (List.mem_append_left _ hpop), hof⟩
    · obtain ⟨hchain, hof⟩ := hmore.own o ho
      rw [hchain]
      exact ⟨chain, _, hplace.next hpc ha, hpop, hof⟩
  · rw [hoffers, List.flatMap_append, ← h.own.accepted, hattempt.accepted]
    refine congrArg (· ++ _) ?_
    exact (accepted_append _ _).trans (List.append_nil _)

/-- **One chain**, with the three ways in which its turn may end. -/
theorem OffersInv.drain_cons (h : s.OffersInv) (hplace : s.InPlace) (hpc : s.pc ≠ .panicked)
    (ha : s.avail = chain :: avail) (hok : s.WholeOrNothing regions .drain) :
    (s.drain regions).OffersInv := by
  obtain ⟨hin, hhalf, hends⟩ := hok chain avail ha
  rcases hwrite : (s.popChain chain avail).writeChain regions chain.readable 0 with
    ⟨_ | bytesWritten, t⟩
  · obtain ⟨bytes, bound, more, hmore, hoffers, hused, hnot, hown, -⟩ :=
      h.attempt hplace hpc ha hin hwrite
    rw [drain_panicked ha hwrite]
    refine ⟨hnot, ?_, fun hne => absurd rfl hne,
      hown.congr rfl List.prefix_rfl (List.Subset.refl _) rfl⟩
    show NotDropped (used t.ops) t.offers
    rw [hused, hoffers]
    exact h.notDropped.append more
  · obtain ⟨bytes, bound, more, hmore, hoffers, hused, hnot, hown, hcounted⟩ :=
      h.attempt hplace hpc ha hin hwrite
    have hcounted := hcounted bytesWritten rfl
    by_cases hzero : bytesWritten = 0
    · subst hzero
      -- no descriptor was written as a whole, so no write failed halfway
      have hnothing : NothingTaken more :=
        hcounted.nothing (fun hhalfway => (hhalf hhalfway).elim
          (fun hwhole => hcounted.wholly.mpr hwhole rfl) hcounted.notCut) rfl nofun
      have hback : t.OffersInv := by
        refine ⟨hnot, ?_, fun _ o ho hle => ?_, hown⟩
        · rw [hused, hoffers]
          exact h.notDropped.append more
        · rw [hused] at hle ⊢
          rw [hoffers] at ho
          rcases List.mem_append.mp ho with ho | ho
          · exact h.putBack hpc o ho hle
          · exact ⟨(hmore.own o ho).1, hnothing o ho⟩
      have hpct : t.pc ≠ .panicked := by
        have hworks := works_popChain regions s chain avail
        rw [hwrite] at hworks
        rw [hworks.pc]
        exact hpc
      rw [drain_putBack ha hwrite]
      have hq : Quiet t (t.record .goToPreviousPosition) := .record t rfl rfl
      have hagain := hback.quiet (t := { t with avail := chain :: t.avail }.record .goToPreviousPosition)
        ⟨hq.offers, hq.published, hq.ops, hq.accepted, hq.used, fun _ => hpct⟩
      refine hagain.quiet (quiet_waitEvent ?_)
      exact hpct
    · have hlast := hcounted.all (hends (hcounted.wholly.mp hzero))
        (Or.inr fun p hlo hhi => absurd hhi (Nat.not_lt.mpr hlo))
      rw [Nat.zero_add] at hlast
      have husedNow : used (t.ops ++ [.addUsed chain (.ofNat bytesWritten)
          (contents t.mem chain.writable)]) = used s.ops ++ [chain] := by
        rw [used_append, hused]
        rfl
      rw [drain_used ha hwrite hzero]
      refine ⟨hnot, ?_, fun _ o ho hle => ?_, hown.congr rfl List.prefix_rfl
        (List.subset_append_left _ _) ((accepted_append _ _).trans (List.append_nil _))⟩
      · show NotDropped (used (t.ops ++ [_])) t.offers
        rw [husedNow, hoffers]
        exact h.notDropped.snoc hmore hlast
      · have hle : (used (t.ops ++ [_])).length ≤ o.chain := hle
        have ho : o ∈ t.offers := ho
        rw [husedNow, List.length_append, List.length_singleton] at hle
        rw [hoffers] at ho
        rcases List.mem_append.mp ho with ho | ho
        · have := (h.putBack hpc o ho (by omega)).1
          omega
        · have := (hmore.own o ho).1
          omega

end

theorem OffersInv.step {a : Action} (h : s.OffersInv) (hplace : s.InPlace)
    (hok : s.WholeOrNothing regions a) (hstep : s.step regions a = some t) : t.OffersInv := by
  cases a with
  | event token readKick tryLockQueue =>
    obtain ⟨hpc, ht⟩ := Option.ite_none_right_eq_some.mp hstep
    cases ht
    exact h.quiet (quiet_handleEvent (by rw [hpc]; nofun) token readKick tryLockQueue)
  | drain =>
    obtain ⟨hpc, ht⟩ := Option.ite_none_right_eq_some.mp hstep
    cases ht
    have hne : s.pc ≠ .panicked := by rw [hpc]; nofun
    cases ha : s.avail with
    | nil =>
      rw [drain_nil ha]
      exact h.quiet (quiet_waitEvent hne)
    | cons chain avail => exact h.drain_cons hplace hne ha hok
  | publish chain =>
    cases hstep
    exact h.quiet ⟨rfl, List.prefix_append _ _, List.Subset.refl _, rfl, rfl, id⟩
  | guestWrite mem =>
    cases hstep
    exact h.quiet ⟨rfl, List.prefix_rfl, List.Subset.refl _, rfl, rfl, id⟩

end TxState

/-- **Nothing is repeated or dropped** in a run whose steps meet the condition, and what is offered
and accepted are the chains' own bytes. -/
theorem output_exact_of_wholeOrNothing {regions : List GuestRegion} {mem : Bytes}
    {output : List Outgoing} {s : TxState}
    (hr : Reaches (TxState.step regions) (TxState.WholeOrNothing regions) (.new mem output) s) :
    NotRepeated s.offers ∧ NotDropped (used s.ops) s.offers ∧ s.OffersOwn := by
  have hinv : s.InPlace ∧ s.OffersInv := by
    refine hr.invariant (I := fun s => s.InPlace ∧ s.OffersInv)
      ⟨fun _ => ⟨[], .nil, rfl⟩, .nil, nofun, nofun, nofun, rfl⟩ fun s a t h hok hstep => ?_
    exact ⟨h.1.step hstep, h.2.step h.1 hok hstep⟩
  exact ⟨hinv.2.notRepeated, hinv.2.notDropped, hinv.2.own⟩

/-- The output takes two bytes, would block, and takes the rest: every byte is offered until it is
accepted, and the chain is used. -/
theorem output_exact_of_wholeOrNothing_two_writes : ∃ s,
    run (TxState.step twoRegions)
      (.new (fun a => .ofNat a) [.accept 2, .wouldBlock, .accept 2]) writeOne = some s ∧
    used s.ops = [acrossRegions] ∧
    s.offers = [⟨0, 0, [254, 255], .ok [254, 255]⟩, ⟨0, 2, [0, 1], .error .wouldBlock⟩,
      ⟨0, 2, [0, 1], .ok [0, 1]⟩] ∧
    NotRepeated s.offers ∧ NotDropped (used s.ops) s.offers ∧ s.OffersOwn := by
  have hsome : (run (TxState.step twoRegions)
      (.new (fun a => .ofNat a) [.accept 2, .wouldBlock, .accept 2]) writeOne).isSome := rfl
  obtain ⟨s, hrun⟩ := Option.isSome_iff_exists.mp hsome
  have halong : Along (TxState.step twoRegions) (TxState.WholeOrNothing twoRegions)
      (.new (fun a => .ofNat a) [.accept 2, .wouldBlock, .accept 2]) writeOne := by
    refine ⟨trivial, fun s hs => ⟨trivial, fun t ht => ⟨?_, fun u hu => ⟨?_, fun _ _ => trivial⟩⟩⟩⟩
    · cases hs
      cases ht
      intro chain avail ha
      cases ha
      exact ⟨fun d hd => (sound_acrossRegions d hd).2, by decide, by decide⟩
    · cases hs
      cases ht
      cases hu
      intro chain avail ha
      cases ha
  have hexact := output_exact_of_wholeOrNothing (reaches_of_run _ _ hrun halong)
  have hstate : used s.ops = [acrossRegions] ∧
      s.offers = [⟨0, 0, [254, 255], .ok [254, 255]⟩, ⟨0, 2, [0, 1], .error .wouldBlock⟩,
        ⟨0, 2, [0, 1], .ok [0, 1]⟩] := by
    cases hrun
    exact ⟨rfl, rfl⟩
  exact ⟨s, hrun, hstate.1, hstate.2, hexact⟩

/-- A chain with eight bytes, and one with an empty descriptor between two others. -/
def eightBytes : DescriptorChain where
  headIndex := 1
  descs := [⟨0x100, 8, false⟩]
  sum_lt := by decide

def emptyBetween : DescriptorChain where
  headIndex := 2
  descs := [⟨0x100, 4, false⟩, ⟨0x200, 0, false⟩, ⟨0x300, 4, false⟩]
  sum_lt := by decide

/-- **Two failures.**  An error behind the first four of eight bytes makes the worker put the chain
back, and at the next kick it writes these bytes again; an empty descriptor ends the loop, and the chain
is used without its last four bytes, which were never offered. -/
theorem output_repeated_and_dropped :
    (∃ s, run (TxState.step oneRegion) (.new (fun a => .ofNat a) [.accept 4, .error])
        [.publish eightBytes, .event .processQueue true true, .drain, .event .io true true, .drain] =
          some s ∧
      s.offers = [⟨0, 0, [0, 1, 2, 3, 4, 5, 6, 7], .ok [0, 1, 2, 3]⟩,
        ⟨0, 4, [4, 5, 6, 7], .error .other⟩,
        ⟨0, 0, [0, 1, 2, 3, 4, 5, 6, 7], .ok [0, 1, 2, 3, 4, 5, 6, 7]⟩] ∧
      accepted s.ops = [0, 1, 2, 3, 0, 1, 2, 3, 4, 5, 6, 7] ∧ ¬ NotRepeated s.offers) ∧
    ∃ s, run (TxState.step oneRegion) (.new (fun a => .ofNat a) [])
        [.publish emptyBetween, .event .processQueue true true, .drain] = some s ∧
      s.offers = [⟨0, 0, [0, 1, 2, 3], .ok [0, 1, 2, 3]⟩, ⟨0, 4, [], .ok []⟩] ∧
      used s.ops = [emptyBetween] ∧ ¬ NotDropped (used s.ops) s.offers := by
  constructor
  · refine ⟨_, rfl, rfl, rfl, fun h => ?_⟩
    have hpair := List.pairwise_cons.mp h
    exact hpair.1 ⟨0, 0, [0, 1, 2, 3, 4, 5, 6, 7], .ok [0, 1, 2, 3, 4, 5, 6, 7]⟩ (by decide) rfl 0
      ⟨by decide, by decide⟩ ⟨by decide, by decide⟩
  · have hdropped : ¬ NotDropped [emptyBetween]
        [⟨0, 0, [0, 1, 2, 3], .ok [0, 1, 2, 3]⟩, ⟨0, 4, [], .ok []⟩] := by
      intro h
      have hnone : ∀ o ∈ [(⟨0, 0, [0, 1, 2, 3], .ok [0, 1, 2, 3]⟩ : Offer), ⟨0, 4, [], .ok []⟩],
          ¬ o.Failed ∧ ¬ o.Accepts 4 := by
        simp [Offer.Failed, Offer.Accepts, Offer.taken, Except.toOption]
      rcases h 0 emptyBetween rfl with ⟨o, ho, -, hfailed⟩ | hall
      · exact (hnone o ho).1 hfailed
      · obtain ⟨o, ho, -, haccepts⟩ := hall 4 (by decide)
        exact (hnone o ho).2 haccepts
    exact ⟨_, rfl, rfl, rfl, hdropped⟩

end VirtioPoc.Console
