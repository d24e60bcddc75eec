import VirtioPoc.Virtio.EventIdx
import VirtioPoc.Base.Run

/-!
# Wake-ups of the GPU worker

`handle_queue_event` step by step, with the driver publishing chains and kicking
in between.  The worker takes the kick before it drains the queue; with
`EVENT_IDX` it then writes the event index, and looks at the available index once
more before it returns.

What happens to a chain that is popped does not matter here; that it may fail, and
the worker returns an error, does.  The ring is started and enabled all the time.
-/

namespace VirtioPoc.Gpu

open Base Virtio

/-- Where the worker is: in the event loop, in `handle_queue_event` at the step of this name, or it has
returned an error. -/
inductive WakeupPc
  | waiting
  | readKick
  | tryLockQueue
  | processQueue
  | enableNotification
  | recheck
  | failed
  deriving DecidableEq

/-- A queue with its worker and its driver.  `owed` is the kicks that the driver has found to be
required and not sent yet, `counter` is that of the kick event, and `returned` says whether
`handle_queue_event` has returned `Ok`. -/
structure WakeupQueue (size : UInt16) where
  ring : AvailRing size
  availEvent : UInt16
  (owed counter : Nat)
  pc : WakeupPc
  returned : Bool

inductive WakeupAction
  /-- the driver publishes a chain -/
  | publish
  /-- the driver looks at the rule for what it published since the last look -/
  | check
  /-- the driver kicks, whether it has to or not -/
  | kick
  /-- the event loop reports the kick -/
  | wait
  | readKick
  | tryLockQueue
  | popDescriptorChain
  /-- `process_queue` returns an error -/
  | fail
  /-- `enable_notification` writes the event index -/
  | enableNotification
  /-- `enable_notification` reads the available index -/
  | recheck
  deriving DecidableEq

namespace WakeupQueue

variable {size : UInt16} (eventIdx : Bool)

/-- The rule asks for a kick for what was published since the last look; without `EVENT_IDX` it always
does. -/
def mustKick (s : WakeupQueue size) : Bool :=
  if eventIdx then vringNeedEvent s.availEvent s.ring.availIdx (.ofNat s.ring.checked) else true

def step (s : WakeupQueue size) : WakeupAction → Option (WakeupQueue size)
  | .publish =>
    match s.ring.publish with
    | none => none
    | some ring => some { s with ring := ring }
  | .check =>
    if s.ring.checked = s.ring.published then none
    else some { s with ring := s.ring.check, owed := s.owed + (s.mustKick eventIdx).toNat }
  | .kick => some { s with owed := s.owed - 1, counter := s.counter + 1 }
  | .wait => if s.pc = .waiting ∧ 0 < s.counter then some { s with pc := .readKick } else none
  | .readKick =>
    if s.pc = .readKick then some { s with counter := 0, pc := .tryLockQueue } else none
  | .tryLockQueue => if s.pc = .tryLockQueue then some { s with pc := .processQueue } else none
  | .popDescriptorChain =>
    if s.pc ≠ .processQueue then none
    else
      match s.ring.pop with
      | some ring => some { s with ring := ring }
      | none =>
        if eventIdx then some { s with pc := .enableNotification }
        else some { s with pc := .waiting, returned := true }
  | .fail => if s.pc = .processQueue then some { s with pc := .failed } else none
  | .enableNotification =>
    if s.pc = .enableNotification then
      some { s with availEvent := s.ring.nextAvail, pc := .recheck }
    else none
  | .recheck =>
    if s.pc ≠ .recheck then none
    else if s.ring.availIdx ≠ s.ring.nextAvail then some { s with pc := .processQueue }
    else some { s with pc := .waiting, returned := true }

/-- `handle_queue_event` has returned `Ok`, and the worker waits for the next event. -/
def HasReturned (s : WakeupQueue size) : Prop := s.pc = .waiting ∧ s.returned = true

/-- The driver still has to kick: it has found so, or the rule will ask for it. -/
def Obliged (s : WakeupQueue size) : Prop :=
  0 < s.owed ∨ s.ring.checked < s.ring.published ∧ s.mustKick eventIdx = true

/-- A wake-up is lost: the worker waits with a chain in the ring, and no kick is there or to come. -/
def Lost (s : WakeupQueue size) : Prop :=
  s.HasReturned ∧ s.ring.popped < s.ring.published ∧ s.counter = 0 ∧ ¬ s.Obliged eventIdx

/-! ### What a step does -/

/-- The step of `a` from `s`, with a case for each branch of the source. -/
inductive Transition (s : WakeupQueue size) : WakeupAction → WakeupQueue size → Prop
  | publish (ring) (hring : s.ring.publish = some ring) : Transition s .publish { s with ring := ring }
  | check : Transition s .check
      { s with ring := s.ring.check, owed := s.owed + (s.mustKick eventIdx).toNat }
  | kick : Transition s .kick { s with owed := s.owed - 1, counter := s.counter + 1 }
  | wait (hpc : s.pc = .waiting) (hkick : 0 < s.counter) : Transition s .wait { s with pc := .readKick }
  | readKick (hpc : s.pc = .readKick) :
      Transition s .readKick { s with counter := 0, pc := .tryLockQueue }
  | tryLockQueue (hpc : s.pc = .tryLockQueue) :
      Transition s .tryLockQueue { s with pc := .processQueue }
  | pop (ring) (hpc : s.pc = .processQueue) :
      Transition s .popDescriptorChain { s with ring := ring }
  | drained (hpc : s.pc = .processQueue) (heventIdx : eventIdx = true) :
      Transition s .popDescriptorChain { s with pc := .enableNotification }
  | empties (hpc : s.pc = .processQueue) (heventIdx : eventIdx = false)
      (hempty : s.ring.published = s.ring.popped) :
      Transition s .popDescriptorChain { s with pc := .waiting, returned := true }
  | fail (hpc : s.pc = .processQueue) : Transition s .fail { s with pc := .failed }
  | enableNotification (hpc : s.pc = .enableNotification) : Transition s .enableNotification
      { s with availEvent := s.ring.nextAvail, pc := .recheck }
  | again (hpc : s.pc = .recheck) : Transition s .recheck { s with pc := .processQueue }
  | done (hpc : s.pc = .recheck) (hempty : s.ring.published = s.ring.popped) :
      Transition s .recheck { s with pc := .waiting, returned := true }

variable {eventIdx} {s t : WakeupQueue size} {a : WakeupAction}

theorem transition_of_step (h : s.step eventIdx a = some t) : s.Transition eventIdx a t := by
  cases a with
  | publish =>
    rw [step] at h
    split at h
    case h_1 => cases h
    case h_2 ring hring => cases h; exact .publish ring hring
  | check =>
    obtain ⟨-, h⟩ := Option.ite_none_left_eq_some.mp h
    cases h
    exact .check
  | kick => cases h; exact .kick
  | wait =>
    obtain ⟨⟨hpc, hkick⟩, h⟩ := Option.ite_none_right_eq_some.mp h
    cases h
    exact .wait hpc hkick
  | readKick =>
    obtain ⟨hpc, h⟩ := Option.ite_none_right_eq_some.mp h
    cases h
    exact .readKick hpc
  | tryLockQueue =>
    obtain ⟨hpc, h⟩ := Option.ite_none_right_eq_some.mp h
    cases h
    exact .tryLockQueue hpc
  | popDescriptorChain =>
    obtain ⟨hpc, h⟩ := Option.ite_none_left_eq_some.mp h
    have hpc := not_not.mp hpc
    split at h
    case h_1 ring hring => cases h; exact .pop ring hpc
    case h_2 hring =>
      split at h
      case isTrue heventIdx => cases h; exact .drained hpc heventIdx
      case isFalse heventIdx =>
        cases h
        exact .empties hpc (Bool.not_eq_true _ ▸ heventIdx) (s.ring.pop_eq_none.mp hring)
  | fail =>
    obtain ⟨hpc, h⟩ := Option.ite_none_right_eq_some.mp h
    cases h
    exact .fail hpc
  | enableNotification =>
    obtain ⟨hpc, h⟩ := Option.ite_none_right_eq_some.mp h
    cases h
    exact .enableNotification hpc
  | recheck =>
    obtain ⟨hpc, h⟩ := Option.ite_none_left_eq_some.mp h
    have hpc := not_not.mp hpc
    split at h
    case isTrue => cases h; exact .again hpc
    case isFalse hidx =>
      cases h
      exact .done hpc (s.ring.availIdx_eq_nextAvail.mp (not_not.mp hidx))

/-! ### The invariant -/

/-- From the write of the event index on it is the next chain; and once the worker has returned, what is
in the ring was published since the last look at the rule, unless a kick is there or owed. -/
structure Awake (eventIdx : Bool) (s : WakeupQueue size) : Prop where
  availEvent : s.pc = .recheck ∨ s.HasReturned → eventIdx = true → s.availEvent = s.ring.nextAvail
  unpopped : s.HasReturned → s.ring.popped < s.ring.published →
    0 < s.counter ∨ 0 < s.owed ∨ s.ring.checked ≤ s.ring.popped

/-- The rule asks for a kick when the worker has returned. -/
theorem Awake.mustKick (h : Awake eventIdx s) (hreturned : s.HasReturned)
    (hlt : s.ring.popped < s.ring.published) (hchecked : s.ring.checked ≤ s.ring.popped) :
    s.mustKick eventIdx = true := by
  unfold WakeupQueue.mustKick
  split
  case isFalse => rfl
  case isTrue heventIdx =>
    rw [h.availEvent (.inr hreturned) heventIdx]
    exact (s.ring.vringNeedEvent_nextAvail hlt).mpr hchecked

/-- A state in which the worker is in `handle_queue_event`, before the event index is written. -/
theorem awake_of_busy (hwaiting : s.pc ≠ .waiting) (hrecheck : s.pc ≠ .recheck) : Awake eventIdx s where
  availEvent h := absurd h (not_or.mpr ⟨hrecheck, fun h => hwaiting h.1⟩)
  unpopped h := absurd h.1 hwaiting

/-- **Step lemma.** -/
theorem Awake.step (h : Awake eventIdx s) (hstep : s.step eventIdx a = some t) : Awake eventIdx t := by
  cases transition_of_step hstep with
  | publish ring hring =>
    obtain ⟨hpublished, hpopped, hchecked⟩ := s.ring.publish_eq_some hring
    have hnext : ring.nextAvail = s.ring.nextAvail := by unfold AvailRing.nextAvail; rw [hpopped]
    refine ⟨fun hpc heventIdx => (h.availEvent hpc heventIdx).trans hnext.symm, fun hret _ => ?_⟩
    show 0 < s.counter ∨ 0 < s.owed ∨ ring.checked ≤ ring.popped
    rw [hchecked, hpopped]
    rcases Nat.lt_or_ge s.ring.popped s.ring.published with hlt | hge
    · exact h.unpopped hret hlt
    · exact .inr (.inr (Nat.le_trans s.ring.checked_le hge))
  | check =>
    refine ⟨h.availEvent, fun hret hlt => ?_⟩
    have hlt : s.ring.popped < s.ring.published := hlt
    rcases h.unpopped hret hlt with hcounter | howed | hchecked
    · exact .inl hcounter
    · exact .inr (.inl (Nat.lt_add_right _ howed))
    · refine .inr (.inl ?_)
      show 0 < s.owed + (s.mustKick eventIdx).toNat
      rw [h.mustKick hret hlt hchecked]
      exact Nat.succ_pos _
  | kick => exact ⟨h.availEvent, fun _ _ => .inl (Nat.succ_pos _)⟩
  | wait hpc hkick => exact awake_of_busy nofun nofun
  | readKick hpc => exact awake_of_busy nofun nofun
  | tryLockQueue hpc => exact awake_of_busy nofun nofun
  | pop ring hpc => exact awake_of_busy (by rw [hpc]; nofun) (by rw [hpc]; nofun)
  | drained hpc heventIdx => exact awake_of_busy nofun nofun
  | empties hpc heventIdx hempty =>
    refine ⟨fun _ htrue => (nomatch heventIdx.symm.trans htrue), fun _ hlt => ?_⟩
    exact absurd hempty (Nat.ne_of_gt hlt)
  | fail hpc => exact awake_of_busy nofun nofun
  | enableNotification hpc => exact ⟨fun _ _ => rfl, fun hret => nomatch hret.1⟩
  | again hpc => exact awake_of_busy nofun nofun
  | done hpc hempty =>
    exact ⟨fun _ => h.availEvent (.inl hpc), fun _ hlt => absurd hempty (Nat.ne_of_gt hlt)⟩

end WakeupQueue

/-- **No wake-up is lost**, whatever was in the ring when the worker took its first event. -/
theorem no_wakeup_lost {size : UInt16} {eventIdx : Bool} {s₀ s : WakeupQueue size}
    (hwaiting : s₀.pc = .waiting) (hfirst : s₀.returned = false)
    (hr : Reaches (WakeupQueue.step eventIdx) (fun _ _ => True) s₀ s) : ¬ s.Lost eventIdx := by
  have h0 : WakeupQueue.Awake eventIdx s₀ := by
    have hnot : ¬ s₀.HasReturned := fun h => nomatch hfirst.symm.trans h.2
    refine ⟨fun h => absurd h (not_or.mpr ⟨?_, hnot⟩), fun h => absurd h hnot⟩
    rw [hwaiting]
    exact nofun
  have h : s.Awake eventIdx := hr.invariant h0 fun _ _ _ h _ hstep => h.step hstep
  rintro ⟨hret, hlt, hzero, hnot⟩
  rcases h.unpopped hret hlt with hcounter | howed | hchecked
  · exact absurd hzero (Nat.ne_of_gt hcounter)
  · exact hnot (.inl howed)
  · exact hnot (.inr ⟨Nat.lt_of_le_of_lt hchecked hlt, h.mustKick hret hlt hchecked⟩)

/-- A queue of eight before the first chain. -/
def freshQueue : WakeupQueue 8 where
  ring :=
    { published := 0, popped := 0, checked := 0, popped_le := Nat.le_refl 0
      published_le := by decide, checked_le := Nat.le_refl 0, published_lt := by decide }
  availEvent := 0
  owed := 0
  counter := 0
  pc := .waiting
  returned := false

/-- A chain is popped; another one, for which no kick is required, comes before the event index is
written, and a third one when the worker has returned. -/
def threeChains : List WakeupAction :=
  [.publish, .check, .kick, .wait, .readKick, .tryLockQueue, .popDescriptorChain, .popDescriptorChain,
    .publish, .check, .enableNotification, .recheck, .popDescriptorChain, .popDescriptorChain,
    .enableNotification, .recheck, .publish]

theorem no_wakeup_lost_threeChains :
    ∃ s, run (WakeupQueue.step true) freshQueue threeChains = some s ∧ s.HasReturned ∧
      s.ring.popped = 2 ∧ s.ring.published = 3 ∧ s.owed = 0 ∧ ¬ s.Lost true := by
  have hsome : (run (WakeupQueue.step true) freshQueue threeChains).isSome := rfl
  obtain ⟨s, hrun⟩ := Option.isSome_iff_exists.mp hsome
  have hs : s.HasReturned ∧ s.ring.popped = 2 ∧ s.ring.published = 3 ∧ s.owed = 0 := by
    cases hrun
    exact ⟨⟨rfl, rfl⟩, rfl, rfl, rfl⟩
  obtain ⟨hret, hpopped, hpublished, howed⟩ := hs
  have hlost := no_wakeup_lost rfl rfl (reaches_of_run_any threeChains hrun)
  exact ⟨s, hrun, hret, hpopped, hpublished, howed, hlost⟩

end VirtioPoc.Gpu
