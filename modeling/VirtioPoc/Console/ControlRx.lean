import VirtioPoc.Base.Run
import VirtioPoc.Console.Control

/-!
# The control receive queue

`MainWorker::process_rx`.  The worker pairs the messages that wait in
`ConsoleControl` with the chains that the guest has made available: it pops a
chain, pops a message, and writes the message to the chain.  Other threads push
messages at any time, and the guest publishes chains at any time.

A message is gone when it has been popped.  If it does not fit, or the write or
`add_used` fails, neither the message nor the chain is put back
(`lost_step`).  So at the end of a call everything is accounted for just when
this never happened: `control_messages_delivered_iff`.

The `unwrap`s on the notifications of the queue are taken to succeed.
-/

namespace VirtioPoc.Console.ControlRx

open Base

/-- A chain of the control receive queue, with the number of its writable bytes; `none` when the
`Writer` cannot be created. -/
structure Chain where
  headIndex : UInt16
  writer : Option UInt32
  deriving DecidableEq

/-- Where the worker is in `process_rx`. -/
inductive Pc
  | idle
  | looping (raiseIrq : Bool)
  | popped (chain : Chain) (raiseIrq : Bool)
  | writing (chain : Chain) (buf : Payload) (raiseIrq : Bool)
  | panicked
  deriving DecidableEq

/-- What the worker does to its queue and to the chains, in order. -/
inductive Op
  | pop (chain : Chain)
  | write (data : List UInt8)
  | addUsed (headIndex : UInt16) (len : UInt32)
  | goToPreviousPosition
  | signalUsedQueue
  deriving DecidableEq

/-- `pushed` and `published` are what the other threads and the guest have done so far; the worker
does not see them. -/
structure State where
  pc : Pc
  queue : List Payload
  avail : List Chain
  ops : List Op
  pushed : List Payload
  published : List Chain
  deriving DecidableEq

namespace State

def new : State :=
  { pc := .idle, queue := [], avail := [], ops := [], pushed := [], published := [] }

def record (s : State) (op : Op) : State := { s with ops := s.ops ++ [op] }

/-- After the loop. -/
def finish (s : State) (raiseIrq : Bool) : State :=
  if raiseIrq then { s.record .signalUsedQueue with pc := .idle } else { s with pc := .idle }

/-- `writer.write(&buf)` takes as much as there is room for. -/
def write (s : State) (chain : Chain) (buf : Payload) (raiseIrq : Bool)
    (writeSucceeds addUsedSucceeds : Bool) : State :=
  match chain.writer with
  | none => { s with pc := .panicked }
  | some space =>
    if writeSucceeds = false then { s with pc := .looping raiseIrq }
    else
      let n := min buf.deref.length space.toNat
      let s := s.record (.write (buf.deref.take n))
      if n ≠ buf.deref.length then { s with pc := .looping raiseIrq }
      else if addUsedSucceeds = false then { s with pc := .looping true }
      else { s.record (.addUsed chain.headIndex (.ofNat n)) with pc := .looping true }

end State

inductive Action
  | push (payload : Payload)
  | publish (chain : Chain)
  | processRx (readKick tryLockQueue : Bool)
  | popDescriptorChain
  | queuePop
  | write (writeSucceeds addUsedSucceeds : Bool)
  deriving DecidableEq

def step (s : State) : Action → Option State
  | .push payload => some { s with queue := s.queue ++ [payload], pushed := s.pushed ++ [payload] }
  | .publish chain =>
    some { s with avail := s.avail ++ [chain], published := s.published ++ [chain] }
  | .processRx readKick tryLockQueue =>
    match s.pc with
    | .idle => some { s with pc := if readKick && tryLockQueue then .looping false else .idle }
    | _ => none
  | .popDescriptorChain =>
    match s.pc with
    | .looping raiseIrq =>
      match s.avail with
      | [] => some (s.finish raiseIrq)
      | chain :: avail =>
        some { s.record (.pop chain) with pc := .popped chain raiseIrq, avail := avail }
    | _ => none
  | .queuePop =>
    match s.pc with
    | .popped chain raiseIrq =>
      match s.queue with
      | [] => some ({ s.record .goToPreviousPosition with avail := chain :: s.avail }.finish raiseIrq)
      | buf :: queue => some { s with pc := .writing chain buf raiseIrq, queue := queue }
    | _ => none
  | .write writeSucceeds addUsedSucceeds =>
    match s.pc with
    | .writing chain buf raiseIrq =>
      some (s.write chain buf raiseIrq writeSucceeds addUsedSucceeds)
    | _ => none

/-! ### What has been delivered -/

/-- The record is that of chains that were used for a whole message each, with its length, and of
chains that were put back. -/
inductive Delivered : List Op → List (Chain × List UInt8) → Prop
  | nil : Delivered [] []
  | signal {ops done} (h : Delivered ops done) : Delivered (ops ++ [.signalUsedQueue]) done
  | used {ops done} (h : Delivered ops done) (chain : Chain) (data : List UInt8) (len : UInt32)
      (hlen : len.toNat = data.length) :
      Delivered (ops ++ [.pop chain, .write data, .addUsed chain.headIndex len])
        (done ++ [(chain, data)])
  | putBack {ops done} (h : Delivered ops done) (chain : Chain) :
      Delivered (ops ++ [.pop chain, .goToPreviousPosition]) done

/-- What is being written fits, and the write and `add_used` succeed.  Where there is no `Writer`
the call does not end. -/
def Pc.Fits (writeSucceeds addUsedSucceeds : Bool) : Pc → Prop
  | .writing chain buf _ => ∀ space ∈ chain.writer,
    writeSucceeds = true ∧ buf.deref.length ≤ space.toNat ∧ addUsedSucceeds = true
  | _ => True

def Fits (s : State) : Action → Prop
  | .write writeSucceeds addUsedSucceeds => s.pc.Fits writeSucceeds addUsedSucceeds
  | _ => True

instance (writeSucceeds addUsedSucceeds : Bool) :
    (pc : Pc) → Decidable (pc.Fits writeSucceeds addUsedSucceeds)
  | .writing ⟨_, none⟩ _ _ => .isTrue nofun
  | .writing ⟨_, some space⟩ buf _ =>
    decidable_of_iff
      (writeSucceeds = true ∧ buf.deref.length ≤ space.toNat ∧ addUsedSucceeds = true)
      ⟨fun h _ hspace => Option.some.inj hspace ▸ h, fun h => h space rfl⟩
  | .idle | .looping _ | .popped _ _ | .panicked => .isTrue trivial

instance (s : State) : (a : Action) → Decidable (Fits s a)
  | .write writeSucceeds addUsedSucceeds =>
    inferInstanceAs (Decidable (s.pc.Fits writeSucceeds addUsedSucceeds))
  | .push _ | .publish _ | .processRx _ _ | .popDescriptorChain | .queuePop => .isTrue trivial

/-! ### What a step can do -/

variable {s t : State} {a : Action}

theorem processRx_cases {readKick tryLockQueue : Bool}
    (h : step s (.processRx readKick tryLockQueue) = some t) :
    s.pc = .idle ∧ ∃ pc, (pc = .looping false ∨ pc = .idle) ∧ t = { s with pc := pc } := by
  unfold step at h
  dsimp only at h
  split at h
  case h_2 => cases h
  case h_1 hpc =>
    cases h
    refine ⟨hpc, _, ?_, rfl⟩
    cases readKick && tryLockQueue with
    | false => exact .inr rfl
    | true => exact .inl rfl

theorem popDescriptorChain_cases (h : step s .popDescriptorChain = some t) :
    ∃ raiseIrq, s.pc = .looping raiseIrq ∧
      (t = s.finish raiseIrq ∨ ∃ chain avail, s.avail = chain :: avail ∧
        t = { s.record (.pop chain) with pc := .popped chain raiseIrq, avail := avail }) := by
  unfold step at h
  dsimp only at h
  split at h
  case h_2 => cases h
  case h_1 raiseIrq hpc =>
    refine ⟨raiseIrq, hpc, ?_⟩
    split at h
    case h_1 => cases h; exact .inl rfl
    case h_2 chain avail havail => cases h; exact .inr ⟨chain, avail, havail, rfl⟩

theorem queuePop_cases (h : step s .queuePop = some t) :
    ∃ chain raiseIrq, s.pc = .popped chain raiseIrq ∧
      (s.queue = [] ∧
        t = { s.record .goToPreviousPosition with avail := chain :: s.avail }.finish raiseIrq ∨
      ∃ buf queue, s.queue = buf :: queue ∧
        t = { s with pc := .writing chain buf raiseIrq, queue := queue }) := by
  unfold step at h
  dsimp only at h
  split at h
  case h_2 => cases h
  case h_1 chain raiseIrq hpc =>
    refine ⟨chain, raiseIrq, hpc, ?_⟩
    split at h
    case h_1 hqueue => cases h; exact .inl ⟨hqueue, rfl⟩
    case h_2 buf queue hqueue => cases h; exact .inr ⟨buf, queue, hqueue, rfl⟩

theorem write_cases {writeSucceeds addUsedSucceeds : Bool}
    (h : step s (.write writeSucceeds addUsedSucceeds) = some t) :
    ∃ chain buf raiseIrq, s.pc = .writing chain buf raiseIrq ∧
      t = s.write chain buf raiseIrq writeSucceeds addUsedSucceeds := by
  unfold step at h
  dsimp only at h
  split at h
  case h_2 => cases h
  case h_1 chain buf raiseIrq hpc => cases h; exact ⟨chain, buf, raiseIrq, hpc, rfl⟩

/-! ### Every message and every chain -/

/-- The chain that the worker has popped and is not done with. -/
def Pc.chains : Pc → List Chain
  | .popped chain _ | .writing chain _ _ => [chain]
  | _ => []

/-- The message that the worker has popped and is not done with. -/
def Pc.messages : Pc → List Payload
  | .writing _ buf _ => [buf]
  | _ => []

/-- Everything is accounted for: it was used, the worker has it in hand, or it is still waiting. -/
structure Accounted (s : State) (done : List (Chain × List UInt8)) : Prop where
  ops : ∃ ops, Delivered ops done ∧ s.ops = ops ++ s.pc.chains.map .pop
  pushed : s.pushed.map Payload.deref =
    done.map Prod.snd ++ (s.pc.messages ++ s.queue).map Payload.deref
  published : s.published = done.map Prod.fst ++ (s.pc.chains ++ s.avail)

theorem accounted_new : Accounted .new [] := ⟨⟨[], .nil, rfl⟩, rfl, rfl⟩

variable {done : List (Chain × List UInt8)}

/-- The end of the loop. -/
theorem accounted_finish (hops : Delivered s.ops done)
    (hpushed : s.pushed.map Payload.deref = done.map Prod.snd ++ s.queue.map Payload.deref)
    (hpublished : s.published = done.map Prod.fst ++ s.avail) (raiseIrq : Bool) :
    Accounted (s.finish raiseIrq) done := by
  cases raiseIrq with
  | false => exact ⟨⟨s.ops, hops, (List.append_nil _).symm⟩, hpushed, hpublished⟩
  | true => exact ⟨⟨_, hops.signal, (List.append_nil _).symm⟩, hpushed, hpublished⟩

/-- **A message that fits is delivered.** -/
theorem Accounted.write (h : Accounted s done) {chain : Chain} {buf : Payload} {raiseIrq : Bool}
    (hpc : s.pc = .writing chain buf raiseIrq) {writeSucceeds addUsedSucceeds : Bool}
    (hfits : s.pc.Fits writeSucceeds addUsedSucceeds)
    (ht : (s.write chain buf raiseIrq writeSucceeds addUsedSucceeds).pc ≠ .panicked) :
    ∃ done', Accounted (s.write chain buf raiseIrq writeSucceeds addUsedSucceeds) done' := by
  obtain ⟨⟨ops, hops, hs⟩, hpushed, hpublished⟩ := h
  rw [hpc] at hfits hs hpushed hpublished
  unfold State.write at ht ⊢
  cases hwriter : chain.writer with
  | none =>
    rw [hwriter] at ht
    exact absurd rfl ht
  | some space =>
    obtain ⟨rfl, hlen, rfl⟩ := hfits space hwriter
    have hmin : min buf.deref.length space.toNat = buf.deref.length := Nat.min_eq_left hlen
    have hwrap : (UInt32.ofNat buf.deref.length).toNat = buf.deref.length := by
      apply UInt32.toNat_ofNat_of_lt'
      exact Nat.lt_of_le_of_lt hlen space.toNat_lt
    refine ⟨done ++ [(chain, buf.deref)], ⟨_, hops.used chain buf.deref _ hwrap, ?_⟩, ?_, ?_⟩
    · simp [hmin, State.record, hs, Pc.chains]
    · simpa [hmin, State.record, Pc.messages] using hpushed
    · simpa [hmin, State.record, Pc.chains] using hpublished

/-- **Step lemma.** -/
theorem Accounted.step (h : Accounted s done) (hfits : Fits s a)
    (hstep : ControlRx.step s a = some t) (ht : t.pc ≠ .panicked) : ∃ done', Accounted t done' := by
  have ⟨⟨ops, hops, hs⟩, hpushed, hpublished⟩ := h
  cases a with
  | push payload =>
    cases hstep
    refine ⟨done, ⟨ops, hops, hs⟩, ?_, hpublished⟩
    simp [hpushed]
  | publish chain =>
    cases hstep
    refine ⟨done, ⟨ops, hops, hs⟩, hpushed, ?_⟩
    simp [hpublished]
  | processRx readKick tryLockQueue =>
    obtain ⟨hpc, pc, hpc', rfl⟩ := processRx_cases hstep
    rw [hpc] at hs hpushed hpublished
    rcases hpc' with rfl | rfl
    · exact ⟨done, ⟨ops, hops, hs⟩, hpushed, hpublished⟩
    · exact ⟨done, ⟨ops, hops, hs⟩, hpushed, hpublished⟩
  | popDescriptorChain =>
    obtain ⟨raiseIrq, hpc, hend⟩ := popDescriptorChain_cases hstep
    rw [hpc] at hs hpushed hpublished
    have hops' : s.ops = ops := hs.trans (List.append_nil _)
    rcases hend with rfl | ⟨chain, avail, havail, rfl⟩
    · exact ⟨done, accounted_finish (hops' ▸ hops) hpushed hpublished raiseIrq⟩
    · refine ⟨done, ⟨ops, hops, ?_⟩, hpushed, ?_⟩
      · simp [State.record, hops', Pc.chains]
      · rw [havail] at hpublished
        exact hpublished
  | queuePop =>
    obtain ⟨chain, raiseIrq, hpc, hend⟩ := queuePop_cases hstep
    rw [hpc] at hs hpushed hpublished
    rcases hend with ⟨hqueue, rfl⟩ | ⟨buf, queue, hqueue, rfl⟩
    · have hback : Delivered (s.ops ++ [.goToPreviousPosition]) done := by
        rw [hs, List.append_assoc]
        exact hops.putBack chain
      exact ⟨done, accounted_finish
        (s := { s.record .goToPreviousPosition with avail := chain :: s.avail })
        hback hpushed hpublished raiseIrq⟩
    · rw [hqueue] at hpushed
      exact ⟨done, ⟨ops, hops, hs⟩, hpushed, hpublished⟩
  | write writeSucceeds addUsedSucceeds =>
    obtain ⟨chain, buf, raiseIrq, hpc, rfl⟩ := write_cases hstep
    exact h.write hpc hfits ht

/-! ### Lost messages -/

def Op.isAddUsed : Op → Bool
  | .addUsed _ _ => true
  | _ => false

theorem Delivered.length_eq {ops : List Op} (h : Delivered ops done) :
    ops.countP Op.isAddUsed = done.length := by
  induction h with
  | nil => rfl
  | signal _ ih => rw [List.countP_append, ih]; rfl
  | used _ chain data len _ ih =>
    rw [List.countP_append, ih, List.length_append]
    rfl
  | putBack _ chain ih => rw [List.countP_append, ih]; rfl

/-- The messages that are not lost. -/
def kept (s : State) : Nat :=
  s.ops.countP Op.isAddUsed + s.pc.messages.length + s.queue.length

theorem kept_finish (s : State) (raiseIrq : Bool) :
    kept (s.finish raiseIrq) = s.ops.countP Op.isAddUsed + s.queue.length := by
  cases raiseIrq with
  | false => simp [kept, State.finish, Pc.messages]
  | true => simp [kept, State.finish, State.record, Pc.messages, Op.isAddUsed]

theorem pushed_finish (s : State) (raiseIrq : Bool) : (s.finish raiseIrq).pushed = s.pushed := by
  cases raiseIrq <;> rfl

theorem pushed_write (s : State) (chain : Chain) (buf : Payload) (raiseIrq writeSucceeds
    addUsedSucceeds : Bool) :
    (s.write chain buf raiseIrq writeSucceeds addUsedSucceeds).pushed = s.pushed := by
  unfold State.write
  split
  · rfl
  · split
    · rfl
    · dsimp only
      split
      · rfl
      · split <;> rfl

theorem fits_writing {chain : Chain} {space : UInt32} (hwriter : chain.writer = some space)
    {buf : Payload} {raiseIrq writeSucceeds addUsedSucceeds : Bool} :
    (Pc.writing chain buf raiseIrq).Fits writeSucceeds addUsedSucceeds ↔
      writeSucceeds = true ∧ buf.deref.length ≤ space.toNat ∧ addUsedSucceeds = true := by
  unfold Pc.Fits
  simp [hwriter]

/-- The message that is written is kept just when it fits. -/
theorem kept_write {chain : Chain} {buf : Payload} {raiseIrq writeSucceeds addUsedSucceeds : Bool}
    (hpc : s.pc = .writing chain buf raiseIrq)
    (ht : (s.write chain buf raiseIrq writeSucceeds addUsedSucceeds).pc ≠ .panicked) :
    kept (s.write chain buf raiseIrq writeSucceeds addUsedSucceeds) +
      (if s.pc.Fits writeSucceeds addUsedSucceeds then 0 else 1) = kept s := by
  unfold State.write at ht ⊢
  unfold kept
  cases hwriter : chain.writer with
  | none =>
    rw [hwriter] at ht
    exact absurd rfl ht
  | some space =>
    rw [hpc]
    simp only [fits_writing hwriter]
    cases writeSucceeds with
    | false =>
      simp [Pc.messages]
      omega
    | true =>
      by_cases hlen : buf.deref.length ≤ space.toNat
      · cases addUsedSucceeds with
        | false =>
          simp [hlen, State.record, Pc.messages, Op.isAddUsed]
          omega
        | true => simp [hlen, State.record, Pc.messages, Op.isAddUsed]
      · have hne : min buf.deref.length space.toNat ≠ buf.deref.length := by omega
        simp [hlen, hne, State.record, Pc.messages, Op.isAddUsed]
        omega

/-- **Where a message is lost**: just at a step that does not fit, one message at a time. -/
theorem lost_step (hstep : step s a = some t) (ht : t.pc ≠ .panicked) :
    kept t + s.pushed.length + (if Fits s a then 0 else 1) = kept s + t.pushed.length := by
  cases a with
  | push payload =>
    cases hstep
    simp [kept, Fits]
    omega
  | publish chain =>
    cases hstep
    simp [kept, Fits]
  | processRx readKick tryLockQueue =>
    obtain ⟨hpc, pc, rfl | rfl, rfl⟩ := processRx_cases hstep
    · simp [kept, hpc, Fits, Pc.messages]
    · simp [kept, hpc, Fits, Pc.messages]
  | popDescriptorChain =>
    obtain ⟨raiseIrq, hpc, rfl | ⟨chain, avail, havail, rfl⟩⟩ := popDescriptorChain_cases hstep
    · rw [kept_finish, pushed_finish]
      simp [kept, hpc, Fits, Pc.messages]
    · simp [kept, hpc, Fits, Pc.messages, State.record, Op.isAddUsed]
  | queuePop =>
    obtain ⟨chain, raiseIrq, hpc, ⟨hqueue, rfl⟩ | ⟨buf, queue, hqueue, rfl⟩⟩ := queuePop_cases hstep
    · rw [kept_finish, pushed_finish]
      simp [kept, hpc, Fits, Pc.messages, State.record, Op.isAddUsed]
    · simp [kept, hpc, hqueue, Fits, Pc.messages]
      omega
  | write writeSucceeds addUsedSucceeds =>
    obtain ⟨chain, buf, raiseIrq, hpc, rfl⟩ := write_cases hstep
    have hkept := kept_write hpc ht
    have hfits : Fits s (.write writeSucceeds addUsedSucceeds) ↔
      s.pc.Fits writeSucceeds addUsedSucceeds := Iff.rfl
    rw [pushed_write]
    simp only [hfits]
    omega

theorem step_panicked (hs : s.pc = .panicked) (hstep : step s a = some t) : t.pc = .panicked := by
  cases a with
  | push payload => cases hstep; exact hs
  | publish chain => cases hstep; exact hs
  | processRx readKick tryLockQueue =>
    have := (processRx_cases hstep).1
    rw [hs] at this
    cases this
  | popDescriptorChain =>
    obtain ⟨raiseIrq, hpc, _⟩ := popDescriptorChain_cases hstep
    rw [hs] at hpc
    cases hpc
  | queuePop =>
    obtain ⟨chain, raiseIrq, hpc, _⟩ := queuePop_cases hstep
    rw [hs] at hpc
    cases hpc
  | write writeSucceeds addUsedSucceeds =>
    obtain ⟨chain, buf, raiseIrq, hpc, _⟩ := write_cases hstep
    rw [hs] at hpc
    cases hpc

theorem run_panicked : ∀ {as : List Action} {s : State}, s.pc = .panicked →
    run step s as = some t → t.pc = .panicked := by
  intro as
  induction as with
  | nil => intro s hs h; cases h; exact hs
  | cons a as ih =>
    intro s hs h
    rw [run] at h
    cases hstep : step s a with
    | none => rw [hstep] at h; cases h
    | some r =>
      rw [hstep] at h
      exact ih (step_panicked hs hstep) h

/-- **Run lemma.**  What is lost stays lost. -/
theorem lost_run : ∀ {as : List Action} {s : State}, run step s as = some t → t.pc ≠ .panicked →
    kept t + s.pushed.length ≤ kept s + t.pushed.length ∧
      (¬ Along step Fits s as → kept t + s.pushed.length < kept s + t.pushed.length) := by
  intro as
  induction as with
  | nil =>
    intro s h _
    cases h
    exact ⟨Nat.le_refl _, fun h => absurd trivial h⟩
  | cons a as ih =>
    intro s h ht
    rw [run] at h
    cases hstep : step s a with
    | none => rw [hstep] at h; cases h
    | some r =>
      rw [hstep] at h
      have hr : r.pc ≠ .panicked := fun hr => ht (run_panicked hr h)
      obtain ⟨hle, hlt⟩ := ih h ht
      have hone := lost_step hstep hr
      by_cases hfits : Fits s a
      · rw [if_pos hfits] at hone
        refine ⟨by omega, fun hnot => ?_⟩
        have hrest : ¬ Along step Fits r as := by
          intro halong
          apply hnot
          refine ⟨hfits, fun r' hr' => ?_⟩
          cases hstep.symm.trans hr'
          exact halong
        have := hlt hrest
        omega
      · rw [if_neg hfits] at hone
        exact ⟨by omega, fun _ => by omega⟩

/-- **Control messages are delivered in order and not lost**, up to the end of a call, just when
each message that was written to a chain fitted into it. -/
theorem control_messages_delivered_iff {as : List Action} (hrun : run step .new as = some s)
    (hidle : s.pc = .idle) :
    (∃ done, Delivered s.ops done ∧
        s.pushed.map Payload.deref = done.map Prod.snd ++ s.queue.map Payload.deref ∧
        s.published = done.map Prod.fst ++ s.avail) ↔
      Along step Fits .new as := by
  have hlives : s.pc ≠ .panicked := by rw [hidle]; exact nofun
  constructor
  · rintro ⟨done, hdone, hpushed, -⟩
    by_contra hnot
    have hlost := (lost_run hrun hlives).2 hnot
    have hlen := congrArg List.length hpushed
    rw [List.length_map, List.length_append, List.length_map, List.length_map] at hlen
    have hkept : kept s = done.length + s.queue.length := by
      rw [kept, hdone.length_eq, hidle]
      rfl
    have hnew : kept State.new = 0 := rfl
    rw [hkept, hnew, hlen] at hlost
    simp [State.new] at hlost
  · intro halong
    have hreaches := reaches_of_run as State.new hrun halong
    have hinv : s.pc ≠ .panicked → ∃ done, Accounted s done := by
      refine hreaches.invariant (I := fun s => s.pc ≠ .panicked → ∃ done, Accounted s done)
        (fun _ => ⟨[], accounted_new⟩) ?_
      intro s a t hs hfits hstep ht
      obtain ⟨done, hdone⟩ := hs fun h => ht (step_panicked h hstep)
      exact hdone.step hfits hstep ht
    obtain ⟨done, ⟨ops, hops, hs⟩, hpushed, hpublished⟩ := hinv hlives
    rw [hidle] at hs hpushed hpublished
    have hops' : s.ops = ops := hs.trans (List.append_nil _)
    exact ⟨done, hops' ▸ hops, hpushed, hpublished⟩

/-- The run in which one message meets one chain of `space` writable bytes. -/
def oneMessage (space : UInt32) : List Action :=
  [.push (ConsoleControl.portAdd 0), .publish ⟨0, some space⟩, .processRx true true,
    .popDescriptorChain, .queuePop, .write true true, .popDescriptorChain]

theorem control_messages_delivered_iff_fits :
    ∃ (s : State) (done : List (Chain × List UInt8)),
      run step .new (oneMessage 8) = some s ∧ Delivered s.ops done ∧
      s.pushed.map Payload.deref = done.map Prod.snd ++ s.queue.map Payload.deref ∧
      s.published = done.map Prod.fst ++ s.avail := by
  obtain ⟨s, hs, hidle⟩ : ∃ s : State, run step .new (oneMessage 8) = some s ∧ s.pc = .idle :=
    ⟨_, rfl, rfl⟩
  obtain ⟨done, hdone⟩ := (control_messages_delivered_iff hs hidle).mpr (by decide)
  exact ⟨s, done, hs, hdone⟩

/-- Half of the message is written, and then both the message and the chain are gone. -/
theorem control_message_lost :
    ∃ s : State, run step .new (oneMessage 4) = some s ∧ s.pc = .idle ∧ s.queue = [] ∧ s.avail = [] ∧
      s.ops = [.pop ⟨0, some 4⟩, .write [0, 0, 0, 0]] ∧
      ¬ ∃ done, Delivered s.ops done ∧
        s.pushed.map Payload.deref = done.map Prod.snd ++ s.queue.map Payload.deref ∧
        s.published = done.map Prod.fst ++ s.avail := by
  refine ⟨_, rfl, rfl, rfl, rfl, by decide, ?_⟩
  rintro ⟨done, hdone, hpushed, -⟩
  have hzero : done.length = 0 := hdone.length_eq.symm
  obtain rfl := List.length_eq_zero_iff.mp hzero
  exact absurd (congrArg List.length hpushed) (by decide)

end VirtioPoc.Console.ControlRx
