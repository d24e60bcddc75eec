import VirtioPoc.Base.Run
import Mathlib.Tactic.Common

/-!
# Kicks of a ring that is disabled

What a worker does with a kick: `read_kick` reads the counter of the event and
then looks at `enabled`, `try_lock_queue` looks at it twice, and only then the
queue is drained.  The counter is gone by then, and `set_vring_enable` wakes
nobody.

The ring is started all the time.  The worker is any of those that drain a queue
on an event: it may also be woken by another file than the kick.
-/

namespace VirtioPoc.VhostUser

open Base

/-- Where the worker is: in its event loop; in `read_kick` before the counter is read and after it; in
`try_lock_queue` before the lock and with it; or in the loop over the chains. -/
inductive KickPc
  | waiting
  | readKick
  | kickRead
  | tryLockQueue
  | locked
  | draining
  deriving DecidableEq

/-- The counter has been read, and there is a look at `enabled` still to come. -/
def KickPc.hasRead : KickPc → Bool
  | .kickRead | .tryLockQueue | .locked => true
  | .waiting | .readKick | .draining => false

/-- A started ring with its worker.  Chains are counted: those the guest has published, those it has
kicked for, and those the worker has popped. -/
structure KickedRing where
  (published kicked popped : Nat)
  counter : Nat
  enabled : Bool
  pc : KickPc
  deriving DecidableEq

inductive KickAction
  | publish
  /-- the guest kicks for all that it has published -/
  | kick
  | setVringEnable (enable : Bool)
  /-- the event loop reports the kick -/
  | kickEvent
  /-- it reports another file for which the worker looks at the queue -/
  | otherEvent
  /-- the next step of the worker -/
  | work
  deriving DecidableEq

namespace KickedRing

/-- All that is published is popped. -/
def new (base : Nat) (enabled : Bool) : KickedRing :=
  { published := base, kicked := base, popped := base, counter := 0, enabled := enabled, pc := .waiting }

def work (s : KickedRing) : Option KickedRing :=
  match s.pc with
  | .waiting => none
  | .readKick => some { s with counter := 0, pc := .kickRead }
  | .kickRead => some { s with pc := if s.enabled then .tryLockQueue else .waiting }
  | .tryLockQueue => some { s with pc := if s.enabled then .locked else .waiting }
  | .locked => some { s with pc := if s.enabled then .draining else .waiting }
  | .draining =>
    if s.popped < s.published then some { s with popped := s.popped + 1 }
    else some { s with pc := .waiting }

def step (s : KickedRing) : KickAction → Option KickedRing
  | .publish => some { s with published := s.published + 1 }
  | .kick => some { s with kicked := s.published, counter := s.counter + 1 }
  | .setVringEnable enable => some { s with enabled := enable }
  | .kickEvent => if s.pc = .waiting ∧ 0 < s.counter then some { s with pc := .readKick } else none
  | .otherEvent => if s.pc = .waiting then some { s with pc := .readKick } else none
  | .work => s.work

/-- A chain was kicked for and is not popped. -/
def Kicked (s : KickedRing) : Prop := s.popped < s.kicked

/-- The ring is enabled and the worker waits, and nothing tells it of a chain that was kicked for. -/
def Hung (s : KickedRing) : Prop :=
  s.enabled = true ∧ s.Kicked ∧ s.counter = 0 ∧ s.pc = .waiting

/-- **The condition on a step.**  While there is a chain that was kicked for, the counter is read only
when the ring is enabled; and the ring is not disabled between this and the last look at `enabled`,
unless there is another kick. -/
def Heeds (s : KickedRing) : KickAction → Prop
  | .work => s.pc = .readKick → s.Kicked → s.enabled = true
  | .setVringEnable false => s.pc.hasRead = true → s.Kicked → 0 < s.counter
  | _ => True

instance (s : KickedRing) : Decidable s.Kicked := inferInstanceAs (Decidable (s.popped < s.kicked))

instance (s : KickedRing) : Decidable s.Hung :=
  inferInstanceAs (Decidable (s.enabled = true ∧ s.Kicked ∧ s.counter = 0 ∧ s.pc = .waiting))

instance (s : KickedRing) : ∀ a, Decidable (s.Heeds a)
  | .work => inferInstanceAs (Decidable (s.pc = .readKick → s.Kicked → s.enabled = true))
  | .setVringEnable false =>
    inferInstanceAs (Decidable (s.pc.hasRead = true → s.Kicked → 0 < s.counter))
  | .setVringEnable true | .publish | .kick | .kickEvent | .otherEvent => .isTrue trivial

/-! ### The invariant -/

/-- A kick that was sent is in the counter, or the worker has read it and will drain the queue. -/
structure Remembers (s : KickedRing) : Prop where
  kicked_le : s.kicked ≤ s.published
  pending : s.Kicked → 0 < s.counter ∨ s.pc = .draining ∨ s.pc.hasRead = true ∧ s.enabled = true

variable {s t : KickedRing} {a : KickAction}

theorem Remembers.work (h : s.Remembers) (hheeds : s.Heeds .work) (hstep : s.work = some t) :
    t.Remembers := by
  unfold KickedRing.work at hstep
  cases hpc : s.pc with
  | waiting =>
    rw [hpc] at hstep
    cases hstep
  | readKick =>
    rw [hpc] at hstep
    cases hstep
    exact ⟨h.kicked_le, fun hkicked => .inr (.inr ⟨rfl, hheeds hpc hkicked⟩)⟩
  | draining =>
    rw [hpc] at hstep
    dsimp only at hstep
    split at hstep
    case isTrue => cases hstep; exact ⟨h.kicked_le, fun _ => .inr (.inl rfl)⟩
    case isFalse hempty =>
      cases hstep
      exact ⟨h.kicked_le, fun hkicked => absurd (Nat.lt_of_lt_of_le hkicked h.kicked_le) hempty⟩
  | kickRead | tryLockQueue | locked =>
    rw [hpc] at hstep
    cases hstep
    refine ⟨h.kicked_le, fun hkicked => ?_⟩
    rcases h.pending hkicked with hcounter | hdraining | ⟨-, henabled⟩
    · exact .inl hcounter
    · cases hpc.symm.trans hdraining
    · simp [henabled, KickPc.hasRead]

/-- A worker that waits finds a kick that was sent in the counter. -/
theorem Remembers.counter_of_waiting (h : s.Remembers) (hpc : s.pc = .waiting) (hkicked : s.Kicked) :
    0 < s.counter := by
  rcases h.pending hkicked with hcounter | hdraining | ⟨hread, -⟩
  · exact hcounter
  · cases hpc.symm.trans hdraining
  · rw [hpc] at hread
    cases hread

/-- **Step lemma.** -/
theorem Remembers.step (h : s.Remembers) (hheeds : s.Heeds a) (hstep : s.step a = some t) :
    t.Remembers := by
  cases a with
  | work => exact h.work hheeds hstep
  | publish => cases hstep; exact ⟨Nat.le_succ_of_le h.kicked_le, h.pending⟩
  | kick => cases hstep; exact ⟨Nat.le_refl _, fun _ => .inl (Nat.succ_pos _)⟩
  | setVringEnable enable =>
    cases hstep
    refine ⟨h.kicked_le, fun hkicked => ?_⟩
    rcases h.pending hkicked with hcounter | hdraining | ⟨hread, -⟩
    · exact .inl hcounter
    · exact .inr (.inl hdraining)
    · cases enable with
      | true => exact .inr (.inr ⟨hread, rfl⟩)
      | false => exact .inl (hheeds hread hkicked)
  | kickEvent =>
    obtain ⟨⟨-, hcounter⟩, hstep⟩ := Option.ite_none_right_eq_some.mp hstep
    cases hstep
    exact ⟨h.kicked_le, fun _ => .inl hcounter⟩
  | otherEvent =>
    obtain ⟨hpc, hstep⟩ := Option.ite_none_right_eq_some.mp hstep
    cases hstep
    exact ⟨h.kicked_le, fun hkicked => .inl (h.counter_of_waiting hpc hkicked)⟩

theorem Remembers.not_hung (h : s.Remembers) : ¬ s.Hung := by
  rintro ⟨-, hkicked, hzero, hpc⟩
  exact absurd hzero (Nat.ne_of_gt (h.counter_of_waiting hpc hkicked))

/-- A worker that has read the counter finds the ring disabled: it goes back to its event loop, and hangs
when the ring is enabled. -/
theorem hung_of_disabled (hread : s.pc.hasRead = true) (hdisabled : s.enabled = false)
    (hkicked : s.Kicked) (hcounter : s.counter = 0) :
    ∃ t, run KickedRing.step s [.work, .setVringEnable true] = some t ∧ t.Hung := by
  have hwork : s.work = some { s with pc := .waiting } := by
    unfold KickedRing.work
    cases hpc : s.pc with
    | kickRead | tryLockQueue | locked => rw [hdisabled]; rfl
    | waiting | readKick | draining =>
      rw [hpc] at hread
      cases hread
  refine ⟨{ s with pc := .waiting, enabled := true }, ?_, rfl, hkicked, hcounter, rfl⟩
  rw [run, KickedRing.step, hwork]
  rfl

/-- A step that does not meet the condition leads to a hang. -/
theorem hung_of_not_heeds (hstep : s.step a = some t) (hnot : ¬ s.Heeds a) :
    ∃ u, run KickedRing.step t [.work, .setVringEnable true] = some u ∧ u.Hung := by
  cases a with
  | work =>
    obtain ⟨hpc, hnot⟩ := Classical.not_imp.mp hnot
    obtain ⟨hkicked, hdisabled⟩ := Classical.not_imp.mp hnot
    have hread : s.work = some { s with counter := 0, pc := .kickRead } := by
      unfold KickedRing.work
      rw [hpc]
    cases hread.symm.trans hstep
    exact hung_of_disabled rfl (Bool.not_eq_true _ ▸ hdisabled) hkicked rfl
  | setVringEnable enable =>
    cases enable with
    | true => exact absurd trivial hnot
    | false =>
      obtain ⟨hread, hnot⟩ := Classical.not_imp.mp hnot
      obtain ⟨hkicked, hcounter⟩ := Classical.not_imp.mp hnot
      cases hstep
      exact hung_of_disabled hread rfl hkicked (Nat.eq_zero_of_not_pos hcounter)
  | _ => exact absurd trivial hnot

theorem remembers_new (base : Nat) (enabled : Bool) : (new base enabled).Remembers :=
  ⟨Nat.le_refl _, fun hkicked => absurd hkicked (Nat.lt_irrefl _)⟩

end KickedRing

/-- **A kick is not forgotten** in a run whose steps all meet the condition; and after a step that does
not meet it, the worker hangs in some way to go on. -/
theorem kick_not_forgotten {base : Nat} {enabled : Bool} {s : KickedRing}
    (hr : Reaches KickedRing.step KickedRing.Heeds (.new base enabled) s) :
    ¬ s.Hung ∧ ∀ a t, s.step a = some t → ¬ s.Heeds a →
      ∃ as u, run KickedRing.step t as = some u ∧ u.Hung := by
  have h : s.Remembers :=
    hr.invariant (KickedRing.remembers_new base enabled) fun _ _ _ h hheeds hstep => h.step hheeds hstep
  refine ⟨h.not_hung, fun a t hstep hnot => ?_⟩
  obtain ⟨u, hrun, hhung⟩ := KickedRing.hung_of_not_heeds hstep hnot
  exact ⟨_, u, hrun, hhung⟩

/-- The guest kicks, and the ring is enabled before the worker reads the counter. -/
def enabledInTime : List KickAction :=
  [.publish, .kick, .kickEvent, .setVringEnable true, .work, .work, .work, .work, .work, .work]

theorem kick_not_forgotten_enabledInTime :
    ∃ s, run KickedRing.step (.new 0 false) enabledInTime = some s ∧ s.popped = 1 ∧ s.pc = .waiting ∧
      ¬ s.Hung := by
  have hrun : run KickedRing.step (.new 0 false) enabledInTime = some
      { published := 1, kicked := 1, popped := 1, counter := 0, enabled := true, pc := .waiting } := rfl
  refine ⟨_, hrun, rfl, rfl, (kick_not_forgotten (reaches_of_run _ _ hrun ?_)).1⟩
  decide

/-- **A kick that is forgotten**: the worker takes it while the ring is disabled. -/
theorem kick_forgotten :
    ∃ s, run KickedRing.step (.new 0 false)
        [.publish, .kick, .kickEvent, .work, .work, .setVringEnable true] = some s ∧ s.Hung :=
  ⟨_, rfl, by decide⟩

end VirtioPoc.VhostUser
