import VirtioPoc.VhostUser.Handler
import VirtioPoc.VhostUser.VringLock

/-!
# Rings that the frontend disables

`set_vring_enable` stores the flag and returns, without the lock of the queue.  A
worker looks at the flag for the last time before it has its guard, so a worker
that is past this look goes on until it drops the guard.  Nobody else gets one
while the flag is off.

The messages here are those that change the flag or the acknowledged
protocol-features bit, without which `set_vring_enable` is refused;
`views_of_handle` says that they are the handler's.
-/

namespace VirtioPoc.VhostUser

open Base

variable {ι : Type} [DecidableEq ι]

def VringAction.isSetEnabled : VringAction ι → Bool
  | .setEnabled _ => true
  | _ => false

theorem QueueUse.ready_apply (use : QueueUse) (q : Queue) : (use.apply q).ready = q.ready := by
  cases use <;> rfl

namespace SharedVring

/-- The worker has a guard, or is past its last look at `enabled` and will get one. -/
def PastLook (s : SharedVring ι) (i : ι) : Prop :=
  s.workers i = .holding ∨ s.workers i = .rechecked ∧ s.queue.ready = true

omit [DecidableEq ι] in
instance (s : SharedVring ι) (i : ι) : Decidable (s.PastLook i) :=
  inferInstanceAs (Decidable (_ ∨ _))

variable {s t : SharedVring ι} {a : VringAction ι} {i j : ι}

omit [DecidableEq ι] in
theorem PastLook.hasLock (h : s.PastLook i) : (s.workers i).hasLock = true := by
  obtain hi | ⟨hi, -⟩ := h
  · rw [hi]
    rfl
  · rw [hi]
    rfl

/-- A worker that moves to another place is not past its last look there. -/
theorem pastLook_of_setWorker (pc : WorkerPc) (hholding : pc ≠ .holding)
    (hrechecked : pc ≠ .rechecked) (h : (s.setWorker i pc).PastLook j) : s.PastLook j := by
  by_cases hij : j = i
  · simp [PastLook, hij, hholding, hrechecked] at h
  · rw [PastLook, setWorker_of_ne s pc hij] at h
    exact h

/-- **While the flag is off**, nobody comes past the last look. -/
theorem pastLook_of_step (hex : s.Excluded) (hoff : s.enabled = false) (hstep : s.step a = some t)
    (h : t.PastLook j) : s.PastLook j := by
  cases transition_of_step hstep with
  | check i hi =>
    rw [hoff] at h
    exact pastLook_of_setWorker .idle nofun nofun h
  | lock i hi => exact pastLook_of_setWorker .locked nofun nofun h
  | recheck i hi henabled => cases henabled.symm.trans hoff
  | takeGuard i hi hready =>
    by_cases hij : j = i
    · subst hij
      exact .inr ⟨hi, hready⟩
    · rw [PastLook, setWorker_of_ne s .holding hij] at h
      exact h
  | disabled i hi | stopped i hi | dropGuard i hi => exact pastLook_of_setWorker .idle nofun nofun h
  | use i use hi =>
    obtain hj | ⟨hj, hready⟩ := h
    · exact .inl hj
    · exact .inr ⟨hj, (use.ready_apply s.queue).symm.trans hready⟩
  | handlerUnlocks call hh =>
    -- the handler had the lock, which a worker past its look has
    have hown : s.owner = some .handler := hex.handler (by rw [hh]; rfl)
    have hlock : (s.workers j).hasLock = true := h.hasLock
    cases (hex.worker j hlock).symm.trans hown
  | _ => exact h

theorem enabled_of_step (ha : a.isSetEnabled = false) (hstep : s.step a = some t) :
    t.enabled = s.enabled := by
  cases transition_of_step hstep with
  | setEnabled => cases ha
  | _ => rfl

end SharedVring

/-! ### The messages -/

/-- A ring with its threads and what the handler knows of it; `disabled` is whether the last message that
the frontend has enabled or disabled the ring with is a `set_vring_enable` that has disabled it. -/
structure EnabledVring (ι : Type) where
  vring : SharedVring ι
  protocolFeatures : Bool
  disabled : Bool
  /-- the workers that were past their last look when the ring was disabled, and still are -/
  earlier : ι → Bool

inductive EnableAction (ι : Type)
  /-- a step of a worker, or of the handler in `start`, `stop` or the configuration of the queue -/
  | vring (a : VringAction ι)
  | setVringEnable (enable : Bool)
  /-- `set_features`, with the protocol features or without them -/
  | setFeatures (protocolFeatures : Bool)
  | resetOwner
  /-- `reset_device`, up to its call of `stop` -/
  | resetDevice
  deriving DecidableEq

namespace EnabledVring

def new (queue : Queue) (enabled protocolFeatures : Bool) : EnabledVring ι :=
  { vring := .new queue enabled, protocolFeatures := protocolFeatures, disabled := false,
    earlier := fun _ => false }

def step (s : EnabledVring ι) : EnableAction ι → Option (EnabledVring ι)
  | .vring a =>
    if a.isSetEnabled then none
    else
      (s.vring.step a).map fun vring =>
        { s with vring := vring, earlier := fun i => s.earlier i && vring.workers i ≠ .idle }
  | .setVringEnable enable =>
    if s.vring.handler ≠ .idle then none
    else if ! s.protocolFeatures then some s
    else
      some { s with
        vring := { s.vring with enabled := enable }
        disabled := ! enable
        earlier := fun i => s.vring.PastLook i }
  | .setFeatures protocolFeatures =>
    if s.vring.handler ≠ .idle then none
    else if protocolFeatures then some { s with protocolFeatures := true }
    else
      -- all rings are enabled
      some { s with
        vring := { s.vring with enabled := true }, protocolFeatures := false, disabled := false }
  | .resetOwner => if s.vring.handler ≠ .idle then none else some { s with protocolFeatures := false }
  | .resetDevice =>
    if s.vring.handler ≠ .idle then none
    else some { s with vring := { s.vring with enabled := false }, protocolFeatures := false }

variable {s t : EnabledVring ι} {a : EnableAction ι}

/-- While the ring is disabled, the flag is off, and who is past the last look was so before. -/
structure Settled (s : EnabledVring ι) : Prop where
  excluded : s.vring.Excluded
  off : s.disabled = true → s.vring.enabled = false
  earlier : s.disabled = true → ∀ i, s.vring.PastLook i → s.earlier i = true

/-- **Step lemma.** -/
theorem Settled.step (h : s.Settled) (hstep : s.step a = some t) : t.Settled := by
  cases a with
  | vring a =>
    obtain ⟨ha, hstep⟩ := Option.ite_none_left_eq_some.mp hstep
    obtain ⟨vring, hvring, rfl⟩ := Option.map_eq_some_iff.mp hstep
    refine ⟨h.excluded.step hvring, fun hdisabled => ?_, fun hdisabled i hi => ?_⟩
    · rw [← h.off hdisabled]
      exact SharedVring.enabled_of_step (by simpa using ha) hvring
    · have hs : s.vring.PastLook i :=
        SharedVring.pastLook_of_step h.excluded (h.off hdisabled) hvring hi
      have hplace : vring.workers i ≠ .idle := by
        intro hidle
        have hlock := hi.hasLock
        rw [hidle] at hlock
        cases hlock
      simp [h.earlier hdisabled i hs, hplace]
  | setVringEnable enable =>
    obtain ⟨-, hstep⟩ := Option.ite_none_left_eq_some.mp hstep
    split at hstep
    · cases hstep
      exact h
    · cases hstep
      refine ⟨⟨h.excluded.worker, h.excluded.handler⟩, fun hdisabled => ?_, fun _ i hi => ?_⟩
      · simpa using hdisabled
      · exact decide_eq_true hi
  | setFeatures protocolFeatures =>
    obtain ⟨-, hstep⟩ := Option.ite_none_left_eq_some.mp hstep
    split at hstep
    · cases hstep
      exact ⟨h.excluded, h.off, h.earlier⟩
    · cases hstep
      exact ⟨⟨h.excluded.worker, h.excluded.handler⟩, nofun, nofun⟩
  | resetOwner =>
    obtain ⟨-, hstep⟩ := Option.ite_none_left_eq_some.mp hstep
    cases hstep
    exact ⟨h.excluded, h.off, h.earlier⟩
  | resetDevice =>
    obtain ⟨-, hstep⟩ := Option.ite_none_left_eq_some.mp hstep
    cases hstep
    exact ⟨⟨h.excluded.worker, h.excluded.handler⟩, fun _ => rfl, h.earlier⟩

omit [DecidableEq ι] in
theorem settled_new (queue : Queue) (enabled protocolFeatures : Bool) :
    (new queue enabled protocolFeatures : EnabledVring ι).Settled :=
  ⟨SharedVring.excluded_new queue enabled, nofun, nofun⟩

/-- Only a worker with a guard can do something with the queue. -/
theorem step_use_eq_none {i : ι} (hi : s.vring.workers i ≠ .holding) (use : QueueUse) :
    s.step (.vring (.use i use)) = none := by
  simp [step, VringAction.isSetEnabled, SharedVring.step, hi]

end EnabledVring

/-! ### The handler's own definitions -/

/-- The step for a message, at the ring with the number `index`. -/
def EnableAction.ofMessage {File : Type} (index : Nat) : Message File → Option (EnableAction ι)
  | .setVringEnable i enable => if i.toNat = index then some (.setVringEnable enable) else none
  | .setFeatures features => some (.setFeatures (features &&& protocolFeaturesBit ≠ 0))
  | .resetOwner => some .resetOwner
  | .resetDevice => some .resetDevice
  | _ => none

/-- The handler has the same flag for the ring, and has acknowledged the same. -/
structure EnabledVring.Views {δ : Type} (s : EnabledVring ι) (h : VhostUserHandler δ) (index : Nat) :
    Prop where
  enabled : ∃ vring, h.vrings[index]? = some vring ∧ vring.enabled = s.vring.enabled
  protocolFeatures : s.protocolFeatures = decide (h.ackedFeatures &&& protocolFeaturesBit ≠ 0)

namespace VhostUserHandler

variable {δ File : Type} {vm : VmMemory File} {dev : VhostUserDevice δ} {env : Env}
  {h t : VhostUserHandler δ} {reply : Reply} {index : Nat} {s : EnabledVring ι}

theorem enabled_ringFeatures (features : UInt64) (vring : Vring) :
    (ringFeatures features vring).enabled =
      (vring.enabled || ! decide (features &&& protocolFeaturesBit ≠ 0)) := by
  unfold ringFeatures
  by_cases hbit : features &&& protocolFeaturesBit = 0 <;> simp [hbit, Vring.setEnabled]

theorem enabled_stop {vring vring' : Vring} {updateEpolls : Bool}
    (h : vring.stop updateEpolls = some vring') : vring'.enabled = vring.enabled := by
  obtain ⟨-, h⟩ := Option.ite_none_right_eq_some.mp h
  cases h
  rfl

theorem enabled_stopVrings {env : Env} : ∀ {vrings vrings' : List Vring} {k : Nat},
    stopVrings env k vrings = some vrings' → ∀ {vring : Vring}, vrings[index]? = some vring →
      ∃ vring', vrings'[index]? = some vring' ∧ vring'.enabled = false := by
  induction index with
  | zero =>
    intro vrings vrings' k h vring hget
    cases vrings with
    | nil => cases hget
    | cons first rest =>
      rw [stopVrings] at h
      split at h
      case h_1 => cases h
      case h_2 stopped hstop =>
        split at h
        case h_1 => cases h
        case h_2 => cases h; exact ⟨stopped, rfl, enabled_stop hstop⟩
  | succ index ih =>
    intro vrings vrings' k h vring hget
    cases vrings with
    | nil => cases hget
    | cons first rest =>
      rw [stopVrings] at h
      split at h
      case h_1 => cases h
      case h_2 =>
        split at h
        case h_1 => cases h
        case h_2 hrest => cases h; exact ih hrest hget

/-- **The messages are the steps**: what a message that returns `Ok` does to the flag of a ring and to the
acknowledged features. -/
theorem views_of_handle {msg : Message File} {a : EnableAction ι} (hs : s.Views h index)
    (hidle : s.vring.handler = .idle) (ha : EnableAction.ofMessage index msg = some a)
    (ht : h.handle vm dev env msg = some (.ok reply, t)) :
    ∃ s', s.step a = some s' ∧ s'.Views t index := by
  obtain ⟨⟨vring, hget, henabled⟩, hfeatures⟩ := hs
  have hlt : index < h.vrings.length := (List.getElem?_eq_some_iff.mp hget).1
  have hnone : false = decide ((0 : UInt64) &&& protocolFeaturesBit ≠ 0) := by decide
  cases msg with
  | setVringEnable i enable =>
    obtain ⟨hi, ha⟩ := Option.ite_none_right_eq_some.mp ha
    cases ha
    subst hi
    unfold handle setVringEnable checkFeature at ht
    dsimp only at ht
    by_cases hbit : h.ackedFeatures &&& protocolFeaturesBit = 0
    · rw [if_neg (not_not.mpr hbit)] at ht
      cases ht
    · rw [if_pos hbit] at ht
      dsimp only at ht
      rw [hget] at ht
      cases ht
      have hacked : s.protocolFeatures = true := hfeatures.trans (decide_eq_true hbit)
      refine ⟨_, by rw [EnabledVring.step, if_neg (not_not.mpr hidle), hacked, if_neg (by decide)], ?_⟩
      exact ⟨⟨vring.setEnabled enable, List.getElem?_set_self hlt, rfl⟩, hacked.symm.trans hfeatures⟩
  | setFeatures features =>
    cases ha
    unfold handle setFeatures at ht
    dsimp only at ht
    split at ht
    case isTrue => cases ht
    case isFalse =>
      split at ht
      case h_1 => cases ht
      case h_2 =>
        cases ht
        have hring : (h.vrings.map (ringFeatures features))[index]? =
            some (ringFeatures features vring) := by rw [List.getElem?_map, hget]; rfl
        rw [EnabledVring.step, if_neg (not_not.mpr hidle)]
        split
        case isTrue hbit =>
          refine ⟨_, rfl, ⟨_, hring, ?_⟩, hbit.symm⟩
          rw [enabled_ringFeatures, hbit, Bool.not_true, Bool.or_false]
          exact henabled
        case isFalse hbit =>
          have hbit := Bool.not_eq_true _ ▸ hbit
          refine ⟨_, rfl, ⟨_, hring, ?_⟩, hbit.symm⟩
          rw [enabled_ringFeatures, hbit, Bool.not_false, Bool.or_true]
  | resetOwner =>
    cases ha
    cases ht
    rw [EnabledVring.step, if_neg (not_not.mpr hidle)]
    exact ⟨_, rfl, ⟨vring, hget, henabled⟩, hnone⟩
  | resetDevice =>
    cases ha
    unfold handle resetDevice at ht
    dsimp only at ht
    split at ht
    case h_1 => cases ht
    case h_2 vrings hstop =>
      split at ht
      case h_1 => cases ht
      case h_2 => cases ht
      case h_3 =>
        cases ht
        rw [EnabledVring.step, if_neg (not_not.mpr hidle)]
        exact ⟨_, rfl, enabled_stopVrings hstop hget, hnone⟩
  | _ => cases ha

end VhostUserHandler

/-! ### Rings that are disabled -/

/-- **A disabled ring is not processed**, but by a worker that was past its last look at `enabled` when
the ring was disabled, and with the guard of then. -/
theorem disabled_not_processed {queue : Queue} {enabled protocolFeatures : Bool} {s : EnabledVring ι}
    (hr : Reaches EnabledVring.step (fun _ _ => True) (.new queue enabled protocolFeatures) s)
    (hdisabled : s.disabled = true) {i : ι} (hi : s.earlier i = false) (use : QueueUse) :
    s.step (.vring (.use i use)) = none := by
  have h : s.Settled := hr.invariant (EnabledVring.settled_new queue enabled protocolFeatures)
    fun _ _ _ h _ hstep => h.step hstep
  refine EnabledVring.step_use_eq_none (fun hholding => ?_) use
  have hearlier := h.earlier hdisabled i (.inl hholding)
  cases hearlier.symm.trans hi

/-- Worker 0 has a guard and worker 1 waits for the lock when the ring is disabled; then worker 0 drops
its guard. -/
def disableWaiting : List (EnableAction Nat) :=
  List.replicate 4 (.vring (.tryLockQueue 0)) ++
    [.vring (.tryLockQueue 1), .setVringEnable false, .vring (.dropGuard 0), .vring (.tryLockQueue 1)]

theorem disabled_not_processed_waiting : ∃ s,
    run EnabledVring.step (.new readyQueue true true) disableWaiting = some s ∧ s.disabled = true ∧
    s.vring.workers 1 = .locked ∧ ∀ i ∈ [0, 1], ∀ use, s.step (.vring (.use i use)) = none := by
  have hsome : (run EnabledVring.step (.new readyQueue true true) disableWaiting).isSome := rfl
  obtain ⟨s, hrun⟩ := Option.isSome_iff_exists.mp hsome
  have hs : s.disabled = true ∧ s.vring.workers 1 = .locked ∧ ∀ i ∈ [0, 1], s.earlier i = false := by
    cases hrun
    exact ⟨rfl, rfl, by decide⟩
  obtain ⟨hdisabled, hlocked, hearlier⟩ := hs
  refine ⟨s, hrun, hdisabled, hlocked, fun i hi use => ?_⟩
  exact disabled_not_processed (reaches_of_run_any disableWaiting hrun) hdisabled (hearlier i hi) use

/-- **A ring that is processed** after the `set_vring_enable` that has disabled it: by worker 0, which
has its guard already, and by worker 1 after a `set_features`. -/
theorem disabled_processed :
    let takeGuard (i : Nat) : List (EnableAction Nat) := List.replicate 4 (.vring (.tryLockQueue i))
    (∃ s t, run EnabledVring.step (.new readyQueue true true)
        (takeGuard 0 ++ [.setVringEnable false]) = some s ∧
      s.disabled = true ∧ s.vring.enabled = false ∧ s.vring.uses = [] ∧
      s.step (.vring (.use 0 .popDescriptorChain)) = some t ∧
      t.vring.uses = [(0, .popDescriptorChain)]) ∧
    ∃ s t u, (EnabledVring.new readyQueue true true).step (.setVringEnable false) = some s ∧
      s.disabled = true ∧ s.vring.enabled = false ∧ s.vring.uses = [] ∧
      run EnabledVring.step s (.setFeatures false :: takeGuard 1) = some t ∧
      t.step (.vring (.use 1 .popDescriptorChain)) = some u ∧
      u.vring.uses = [(1, .popDescriptorChain)] :=
  ⟨⟨_, _, rfl, rfl, rfl, rfl, rfl, rfl⟩, ⟨_, _, _, rfl, rfl, rfl, rfl, rfl, rfl, rfl⟩⟩

end VirtioPoc.VhostUser
