import VirtioPoc.Console.EndOfFile
import VirtioPoc.Console.ProcessTx

/-!
# Signals for the used ring

Both workers of a port note in `signal_used_queue` that the guest has to be told
of a used chain, and tell it at the top of the event loop.  The output worker
comes back there after every chain that it cannot write, and returns from there
only.  The input worker has one more way out: it returns when it has announced
the end of file, with the flag set.
-/

namespace VirtioPoc.Console

open Base Virtio

/-! ### The record -/

/-- **Every used chain is signalled**: behind each `add_used` there is a signal. -/
def AllSignalled (ops : List PortOp) : Prop :=
  ∀ before chain len data after, ops = before ++ .addUsed chain len data :: after →
    .signalUsedQueue ∈ after

theorem allSignalled_nil : AllSignalled [] := by
  intro before chain len data after h
  have hne := congrArg List.length h
  simp at hne

theorem AllSignalled.snoc {ops : List PortOp} (h : AllSignalled ops) {op : PortOp}
    (hop : ∀ chain len data, op ≠ .addUsed chain len data) : AllSignalled (ops ++ [op]) := by
  intro before chain len data after heq
  rcases List.eq_nil_or_concat after with rfl | ⟨after, last, rfl⟩
  · obtain ⟨-, hlast⟩ := List.append_inj' heq rfl
    exact absurd (List.singleton_inj.mp hlast) (hop chain len data)
  · rw [List.concat_eq_append, ← List.cons_append, ← List.append_assoc] at heq
    obtain ⟨hinit, -⟩ := List.append_inj' heq rfl
    rw [List.concat_eq_append]
    exact List.mem_append_left _ (h before chain len data after hinit)

/-- A signal is enough for all that was used before. -/
theorem allSignalled_signal (ops : List PortOp) : AllSignalled (ops ++ [.signalUsedQueue]) := by
  intro before chain len data after heq
  rcases List.eq_nil_or_concat after with rfl | ⟨after, last, rfl⟩
  · obtain ⟨-, hlast⟩ := List.append_inj' heq rfl
    cases hlast
  · rw [List.concat_eq_append, ← List.cons_append, ← List.append_assoc] at heq
    obtain ⟨-, hlast⟩ := List.append_inj' heq rfl
    rw [List.concat_eq_append, ← hlast]
    exact List.mem_append_right _ List.mem_cons_self

/-- What has been used last, with no signal behind it. -/
theorem not_allSignalled {ops after : List PortOp} {chain : DescriptorChain} {len : UInt32}
    {data : List UInt8} (h : .signalUsedQueue ∉ after) :
    ¬ AllSignalled (ops ++ .addUsed chain len data :: after) :=
  fun hall => h (hall ops chain len data after rfl)

/-! ### The output worker -/

namespace TxState

variable {regions : List GuestRegion}

/-- **The property**, of a worker that waits or has returned. -/
def Signals (s : TxState) : Prop := s.pc = .waiting ∨ s.pc = .returned → AllSignalled s.ops

/-- What has not been signalled is noted. -/
def Noted (s : TxState) : Prop := s.signalUsedQueue = false → AllSignalled s.ops

structure SignalInv (s : TxState) : Prop where
  noted : s.Noted
  signals : s.Signals

theorem Noted.record {s : TxState} (h : s.Noted) (op : PortOp)
    (hop : ∀ chain len data, op ≠ .addUsed chain len data) : (s.record op).Noted :=
  fun hflag => (h hflag).snoc hop

theorem Noted.writePiece {s : TxState} (h : s.Noted) (total len addr : Nat) :
    (s.writePiece total len addr).2.Noted := by
  unfold TxState.writePiece
  rcases writeUntilDone (used s.ops).length (s.base + total) (readBytes s.mem addr len) s.output with
    ⟨_ | data, output, offers⟩
  · exact h
  · exact fun hflag => (h hflag).snoc nofun

theorem Noted.writeChain {s : TxState} (h : s.Noted) (regions : List GuestRegion)
    (ds : List Descriptor) (n : Nat) :
    (s.writeChain regions ds n).2.Noted :=
  writeChain_frame (fun total len addr _ h => h.writePiece total len addr) (fun _ _ => nofun)
    (fun _ _ h => h) ds n s h

theorem pc_writeChain (regions : List GuestRegion) (ds : List Descriptor) (n : Nat) (s : TxState) :
    (s.writeChain regions ds n).2.pc = s.pc := by
  refine writeChain_frame (R := fun t => t.pc = s.pc) (fun total len addr t h => ?_) (fun _ h => h)
    (fun _ _ h => h) ds n s rfl
  unfold writePiece
  rcases writeUntilDone (used t.ops).length (t.base + total) (readBytes t.mem addr len) t.output with
    ⟨_ | data, output, offers⟩ <;> exact h

/-- Once the flag is set it stays so for the chain. -/
theorem flag_writeChain (regions : List GuestRegion) (ds : List Descriptor) (n : Nat) {s : TxState}
    (h : s.signalUsedQueue = true) :
    (s.writeChain regions ds n).2.signalUsedQueue = true := by
  refine writeChain_frame (R := fun s => s.signalUsedQueue = true) (fun total len addr t h => ?_)
    (fun _ _ => rfl) (fun _ _ h => h) ds n s h
  unfold writePiece
  rcases writeUntilDone (used t.ops).length (t.base + total) (readBytes t.mem addr len) t.output with
    ⟨_ | data, output, offers⟩ <;> exact h

/-- A chain of which bytes were written has set the flag. -/
theorem flag_of_written : ∀ (ds : List Descriptor) (n m : Nat) (s t : TxState),
    s.writeChain regions ds n = (some m, t) → m ≠ n → t.signalUsedQueue = true := by
  intro ds
  induction ds with
  | nil =>
    intro n m s t h hne
    cases h
    exact absurd rfl hne
  | cons desc ds ih =>
    intro n m s t h hne
    rw [writeChain] at h
    rcases hdesc : s.writeDescToOutput regions desc with ⟨_ | (_ | len), u⟩
    · rw [hdesc] at h
      exact ih n m (u.behind desc) t h hne
    · rw [hdesc] at h
      cases h
      exact absurd rfl hne
    · rw [hdesc] at h
      dsimp only at h
      by_cases hall : len + 1 = desc.len
      · rw [if_pos hall] at h
        have hflag := flag_writeChain regions ds (n + (len + 1))
          (s := { u.behind desc with signalUsedQueue := true }) rfl
        rw [h] at hflag
        exact hflag
      · rw [if_neg hall] at h
        cases h

theorem Noted.waitEvent {s : TxState} (h : s.Noted) : s.waitEvent.SignalInv := by
  rcases s.waitEvent_cases with heq | ⟨hflag, heq⟩
  · rw [heq]
    exact ⟨fun _ => allSignalled_signal s.ops, fun _ => allSignalled_signal s.ops⟩
  · rw [heq]
    exact ⟨fun _ => h hflag, fun _ => h hflag⟩

theorem signals_of_running {s : TxState} (hpc : s.pc = .draining ∨ s.pc = .panicked) : s.Signals := by
  intro hstop
  rcases hpc with hpc | hpc <;> rw [hpc] at hstop <;> rcases hstop with h | h <;> cases h

theorem SignalInv.handleEvent {s : TxState} (h : s.SignalInv) (hpc : s.pc = .waiting)
    (token : WorkerToken) (readKick tryLockQueue : Bool) :
    (s.handleEvent token readKick tryLockQueue).SignalInv := by
  rcases s.handleEvent_cases token readKick tryLockQueue with heq | heq | heq
  · rw [heq]
    exact ⟨h.noted, fun _ => h.signals (.inl hpc)⟩
  · rw [heq]
    exact h.noted.waitEvent
  · rw [heq]
    exact ⟨h.noted, signals_of_running (.inl rfl)⟩

theorem SignalInv.drain {s : TxState} (h : s.SignalInv) (hpc : s.pc = .draining) :
    (s.drain regions).SignalInv := by
  cases ha : s.avail with
  | nil =>
    rw [drain_nil ha]
    exact h.noted.waitEvent
  | cons chain avail =>
    have hrest : Noted { s with avail := avail } := h.noted
    have hpop : (s.popChain chain avail).Noted := hrest.record _ nofun
    have hnoted := hpop.writeChain regions chain.readable 0
    have hkept := pc_writeChain regions chain.readable 0 (s.popChain chain avail)
    cases hwrite : (s.popChain chain avail).writeChain regions chain.readable 0 with
    | mk result t =>
      rw [hwrite] at hnoted hkept
      cases result with
      | none =>
        rw [drain_panicked ha hwrite]
        exact ⟨hnoted, signals_of_running (.inr rfl)⟩
      | some bytesWritten =>
        by_cases hzero : bytesWritten = 0
        · subst hzero
          have hback : Noted { t with avail := chain :: t.avail } := hnoted
          rw [drain_putBack ha hwrite]
          exact (hback.record .goToPreviousPosition nofun).waitEvent
        · have hflag := flag_of_written chain.readable 0 bytesWritten _ t hwrite hzero
          rw [drain_used ha hwrite hzero]
          exact ⟨fun hunset => absurd (hflag.symm.trans hunset) nofun,
            signals_of_running (.inl (hkept.trans hpc))⟩

theorem SignalInv.step {s t : TxState} {a : Action} (h : s.SignalInv)
    (hstep : s.step regions a = some t) : t.SignalInv := by
  cases a with
  | event token readKick tryLockQueue =>
    obtain ⟨hpc, ht⟩ := Option.ite_none_right_eq_some.mp hstep
    cases ht
    exact h.handleEvent hpc token readKick tryLockQueue
  | drain =>
    obtain ⟨hpc, ht⟩ := Option.ite_none_right_eq_some.mp hstep
    cases ht
    exact h.drain hpc
  | publish chain | guestWrite mem =>
    cases hstep
    exact ⟨h.noted, h.signals⟩

end TxState

/-! ### The input worker -/

namespace RxState

variable {regions : List GuestRegion} {portId : UInt32}

/-- **The property**, of a worker that waits or has returned. -/
def Signals (s : RxState) : Prop := s.pc = .waiting ∨ s.pc = .returned → AllSignalled s.ops

/-- What has not been signalled is noted. -/
def Noted (s : RxState) : Prop := s.signalUsedQueue = false → AllSignalled s.ops

/-- **The condition on a step**: a chain that gets bytes is not the last one, so the end of file has not
been met before, and is not met for the chain. -/
def NotLastChain (regions : List GuestRegion) (s : RxState) : Action → Prop
  | .drain => ∀ chain avail, s.avail = chain :: avail → GetsByte regions chain.writable s.input →
      s.eof = false ∧ ¬ MeetsEof regions chain.writable s.input
  | _ => True

theorem Noted.record {s : RxState} (h : s.Noted) (op : PortOp)
    (hop : ∀ chain len data, op ≠ .addUsed chain len data) : (s.record op).Noted :=
  fun hflag => (h hflag).snoc hop

theorem Noted.readPiece {s : RxState} (h : s.Noted) (total len addr : Nat) :
    (s.readPiece total len addr).2.Noted := by
  unfold RxState.readPiece
  rcases readVolatile len s.input with ⟨(_ | _) | data, input⟩
  · exact h
  · exact h
  · exact fun hflag => (h hflag).snoc nofun

theorem Noted.readChain {s : RxState} (h : s.Noted) (regions : List GuestRegion)
    (ds : List Descriptor) (n : Nat) : (s.readChain regions ds n).2.Noted :=
  readChain_frame (fun total len addr _ h => h.readPiece total len addr) (fun _ _ => nofun) ds n s h

theorem flag_readChain (regions : List GuestRegion) (ds : List Descriptor) (n : Nat) {s : RxState}
    (h : s.signalUsedQueue = true) : (s.readChain regions ds n).2.signalUsedQueue = true := by
  refine readChain_frame (R := fun s => s.signalUsedQueue = true) (fun total len addr t h => ?_)
    (fun _ _ => rfl) ds n s h
  unfold readPiece
  rcases readVolatile len t.input with ⟨(_ | _) | data, input⟩ <;> exact h

/-- A chain into which bytes were read has set the flag. -/
theorem flag_of_read : ∀ (ds : List Descriptor) (n m : Nat) (s t : RxState),
    s.readChain regions ds n = (m, t) → m ≠ n → t.signalUsedQueue = true := by
  intro ds
  induction ds with
  | nil =>
    intro n m s t h hne
    cases h
    exact absurd rfl hne
  | cons desc ds ih =>
    intro n m s t h hne
    rw [readChain] at h
    rcases hdesc : s.readToDesc regions desc with ⟨_ | (_ | len), u⟩
    · rw [hdesc] at h
      exact ih n m u t h hne
    · rw [hdesc] at h
      cases h
      exact absurd rfl hne
    · rw [hdesc] at h
      dsimp only at h
      have hflag := flag_readChain regions ds (n + (len + 1)) (s := { u with signalUsedQueue := true }) rfl
      rw [h] at hflag
      exact hflag

theorem Noted.waitEvent {s : RxState} (h : s.Noted) : s.waitEvent.Noted ∧ s.waitEvent.Signals := by
  rcases s.waitEvent_cases with heq | ⟨hflag, heq⟩
  · rw [heq]
    exact ⟨fun _ => allSignalled_signal s.ops, fun _ => allSignalled_signal s.ops⟩
  · rw [heq]
    exact ⟨fun _ => h hflag, fun _ => h hflag⟩

theorem signals_of_draining {s : RxState} (hpc : s.pc = .draining) : s.Signals := by
  intro hstop
  rw [hpc] at hstop
  rcases hstop with h | h <;> cases h

theorem Noted.handleEvent {s : RxState} (h : s.Noted) (hs : s.Signals) (hpc : s.pc = .waiting)
    (token : WorkerToken) (readKick tryLockQueue : Bool) :
    (s.handleEvent token readKick tryLockQueue).Noted ∧
      (s.handleEvent token readKick tryLockQueue).Signals := by
  rcases s.handleEvent_cases token readKick tryLockQueue with heq | heq | heq
  · rw [heq]
    exact ⟨h, fun _ => hs (.inl hpc)⟩
  · rw [heq]
    exact h.waitEvent
  · rw [heq]
    exact ⟨h, signals_of_draining rfl⟩

theorem notLastChain_cons {s : RxState} {chain : DescriptorChain} {avail : List DescriptorChain}
    (ha : s.avail = chain :: avail) : s.NotLastChain regions .drain ↔
      (GetsByte regions chain.writable s.input →
        s.eof = false ∧ ¬ MeetsEof regions chain.writable s.input) :=
  forall_next_iff ha

theorem Noted.drain_nil {s : RxState} (h : s.Noted) (ha : s.avail = []) :
    (s.drain regions portId).Noted ∧ (s.drain regions portId).Signals := by
  have hsignal : (if s.signalUsedQueue then s.record .signalUsedQueue else s).Noted := by
    split
    · exact h.record .signalUsedQueue nofun
    · exact h
  rw [RxState.drain_nil ha]
  exact hsignal.waitEvent

theorem Noted.drain {s : RxState} (h : s.Noted) (hpc : s.pc = .draining) :
    (s.drain regions portId).Noted ∧
      ((s.drain regions portId).Signals ↔ s.NotLastChain regions .drain) := by
  cases ha : s.avail with
  | nil =>
    refine ⟨(h.drain_nil ha).1, iff_of_true (h.drain_nil ha).2 fun chain avail hcons => ?_⟩
    cases ha.symm.trans hcons
  | cons chain avail =>
    have hrest : Noted { s with avail := avail } := h
    have hpop : (s.popChain chain avail).Noted := hrest.record _ nofun
    have hnoted := hpop.readChain regions chain.writable 0
    have hkept := pc_readChain regions chain.writable 0 (s.popChain chain avail)
    obtain ⟨-, hgets, hmeets⟩ := readChain_finds regions chain.writable 0
      (s.popChain chain avail)
    rw [notLastChain_cons ha]
    cases hread : (s.popChain chain avail).readChain regions chain.writable 0 with
    | mk bytesRead t =>
      rw [hread] at hnoted hkept hgets hmeets
      by_cases hzero : bytesRead = 0
      · have hgot : ¬ GetsByte regions chain.writable s.input := fun hgot => hgets.mpr hgot hzero
        subst hzero
        have hback : Noted { t with avail := chain :: t.avail } := hnoted
        have hwait := (hback.record .goToPreviousPosition nofun).waitEvent
        rw [drain_putBack ha hread]
        exact ⟨hwait.1, iff_of_true hwait.2 fun hgets => absurd hgets hgot⟩
      · have hgot : GetsByte regions chain.writable s.input := hgets.mp hzero
        have hflag : t.signalUsedQueue = true := flag_of_read chain.writable 0 bytesRead _ t hread hzero
        have hset {ops : List PortOp} (hunset : t.signalUsedQueue = false) : AllSignalled ops :=
          absurd (hflag.symm.trans hunset) nofun
        have hmet : t.eof = true ↔ s.eof = true ∨ MeetsEof regions chain.writable s.input := hmeets
        rw [drain_used ha hread hzero]
        cases heof : t.eof with
        | true =>
          refine ⟨hset, iff_of_false (fun hsignals => ?_) fun hnot => ?_⟩
          · have hops : AllSignalled ((t.ops ++ [.addUsed chain (.ofNat bytesRead)
                (contents t.mem chain.writable)]) ++ [.portOpen portId false]) := hsignals (.inr rfl)
            rw [List.append_assoc] at hops
            exact not_allSignalled (by simp) hops
          · obtain ⟨hbefore, hchain⟩ := hnot hgot
            rcases hmet.mp heof with hset | hmeets
            · cases hbefore.symm.trans hset
            · exact hchain hmeets
        | false =>
          rw [heof] at hmet
          obtain ⟨hbefore, hchain⟩ := not_or.mp (mt hmet.mpr nofun)
          exact ⟨hset, iff_of_true (signals_of_draining (hkept.trans hpc)) fun _ =>
            ⟨Bool.eq_false_of_not_eq_true hbefore, hchain⟩⟩

theorem Noted.step {s t : RxState} {a : Action} (h : s.Noted) (hs : s.Signals)
    (hstep : s.step regions portId a = some t) :
    t.Noted ∧ (t.Signals ↔ s.NotLastChain regions a) := by
  cases a with
  | event token readKick tryLockQueue =>
    obtain ⟨hpc, ht⟩ := Option.ite_none_right_eq_some.mp hstep
    cases ht
    obtain ⟨hnoted, hsignals⟩ := h.handleEvent hs hpc token readKick tryLockQueue
    exact ⟨hnoted, iff_of_true hsignals trivial⟩
  | drain =>
    obtain ⟨hpc, ht⟩ := Option.ite_none_right_eq_some.mp hstep
    cases ht
    exact h.drain hpc
  | publish chain | guestWrite mem =>
    cases hstep
    exact ⟨h, iff_of_true hs trivial⟩

end RxState

/-- **When the guest is notified.**  The output worker has signalled all used chains whenever it waits
or has returned, in every run; the input worker has in every state of a run just when the end of file is
not met by the time a chain has got its bytes. -/
theorem port_workers_signal (regions : List GuestRegion) :
    (∀ {mem : Bytes} {output : List Outgoing} {s : TxState},
      Reaches (TxState.step regions) (fun _ _ => True) (.new mem output) s → s.Signals) ∧
    ∀ (portId : UInt32) (mem : Bytes) (input : List Incoming) (as : List RxState.Action),
      (run (RxState.step regions portId) (.new mem input) as).isSome →
      ((∀ n t, run (RxState.step regions portId) (.new mem input) (as.take n) = some t → t.Signals) ↔
        Along (RxState.step regions portId) (RxState.NotLastChain regions) (.new mem input) as) := by
  constructor
  · intro mem output s hr
    have h : s.SignalInv := hr.invariant ⟨fun _ => allSignalled_nil, fun _ => allSignalled_nil⟩
      fun _ _ _ h _ hstep => h.step hstep
    exact h.signals
  · intro portId mem input as hrun
    exact forall_prefix_iff_along_of_good (I := RxState.Noted)
      (fun _ _ _ h hs _ hstep => (h.step hs hstep).1) (fun _ _ _ h hs hstep => (h.step hs hstep).2) as _
      (fun _ => allSignalled_nil) (fun _ => allSignalled_nil) hrun

/-- A chain is used by either worker, and the worker waits again. -/
theorem port_workers_signal_one_chain :
    (∃ s, run (TxState.step twoRegions) (.new (fun a => .ofNat a) [])
        [.publish acrossRegions, .event .processQueue true true, .drain, .drain] = some s ∧
      s.pc = .waiting ∧ used s.ops = [acrossRegions] ∧ AllSignalled s.ops) ∧
    ∃ s, run (RxState.step oneRegion 0) (.new (fun _ => 0) [.data [1, 2, 3]])
        (takeOne ++ [.drain]) = some s ∧
      s.pc = .waiting ∧ used s.ops = [twoDescriptors] ∧ AllSignalled s.ops := by
  constructor
  · have hsome : (run (TxState.step twoRegions) (.new (fun a => .ofNat a) [])
        [.publish acrossRegions, .event .processQueue true true, .drain, .drain]).isSome := rfl
    obtain ⟨s, hrun⟩ := Option.isSome_iff_exists.mp hsome
    have hstate : s.pc = .waiting ∧ used s.ops = [acrossRegions] := by
      cases hrun
      exact ⟨rfl, rfl⟩
    have hsignals := (port_workers_signal twoRegions).1 (reaches_of_run_any _ hrun)
    exact ⟨s, hrun, hstate.1, hstate.2, hsignals (.inl hstate.1)⟩
  · have hsome : (run (RxState.step oneRegion 0) (.new (fun _ => 0) [.data [1, 2, 3]])
        (takeOne ++ [.drain])).isSome := rfl
    have halong : Along (RxState.step oneRegion 0) (RxState.NotLastChain oneRegion)
        (.new (fun _ => 0) [.data [1, 2, 3]]) (takeOne ++ [.drain]) := by
      refine ⟨trivial, fun s hs => ⟨trivial, fun t ht => ⟨?_, fun u hu => ⟨?_, fun _ _ => trivial⟩⟩⟩⟩
      · cases hs
        cases ht
        intro chain avail ha
        cases ha
        decide
      · cases hs
        cases ht
        cases hu
        intro chain avail ha
        cases ha
    have hall := ((port_workers_signal oneRegion).2 0 _ _ _ hsome).mpr halong
    exact ⟨_, rfl, rfl, rfl, hall 4 _ rfl (.inl rfl)⟩

/-- **The last chain**: two bytes arrive and then the end of file.  The worker uses the chain, announces
the end, and returns without a signal. -/
theorem last_chain_not_signalled : ∃ s, rxAfter [.data [1, 2], .data []] = some s ∧
    s.pc = .returned ∧ used s.ops = [twoDescriptors] ∧ .signalUsedQueue ∉ s.ops ∧ ¬ s.Signals := by
  refine ⟨_, rfl, rfl, rfl, by decide, fun h => ?_⟩
  have hnone : .signalUsedQueue ∈ [PortOp.portOpen 0 false] :=
    h (.inr rfl) [.pop twoDescriptors [], .read [1, 2], .read []] twoDescriptors 2 _ _ rfl
  exact absurd hnone (by decide)

end VirtioPoc.Console
