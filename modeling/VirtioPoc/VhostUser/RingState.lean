import VirtioPoc.Base.History
import VirtioPoc.VhostUser.Handler
import VirtioPoc.VhostUser.Activation

/-!
# The states of the rings

By the vhost-user protocol a ring is started or stopped, and enabled or disabled,
and which of these it is follows from the messages.  `RingTable` is that state
machine: the features that were acknowledged and, for each ring, its state and its
descriptors.  It knows nothing of the device, of the guest memory or of the
kernel.

`ring_table_of_run` says that the handler refines it, and `started_iff_since`
when a ring is started, from the messages alone.
-/

namespace VirtioPoc.VhostUser

open Base

/-! ### The state machine -/

structure RingState where
  maxSize : UInt16
  (started enabled : Bool)
  (kick call err : Option Fd)
  deriving DecidableEq

namespace RingState

variable (r : RingState)

/-- A kick starts a ring that is stopped. -/
def setKick (file : Option Fd) : RingState :=
  { r with kick := file, started := r.started || file.isSome }

/-- So does a call event, if there is a kick. -/
def setCall (file : Option Fd) : RingState :=
  { r with call := file, started := r.started || r.kick.isSome }

def setErr (file : Option Fd) : RingState := { r with err := file }

def getBase : RingState := { r with started := false, kick := none, call := none }

/-- The descriptors stay. -/
def reset : RingState := { r with started := false, enabled := false }

def setEnabled (enable : Bool) : RingState := { r with enabled := enable }

def setFeatures (features : UInt64) : RingState :=
  { r with enabled := r.enabled || decide (features &&& protocolFeaturesBit = 0) }

end RingState

structure RingTable where
  acked : UInt64
  rings : List RingState

namespace RingTable

variable (s : RingTable)

def modify (index : Nat) (f : RingState → RingState) : RingTable :=
  { s with rings := s.rings.modify index f }

/-- The state after a message, where `avail` are the features that the device offers. -/
def next {File : Type} (avail : UInt64) : Message File → RingTable
  | .resetOwner => { s with acked := 0 }
  | .resetDevice => { acked := 0, rings := s.rings.map .reset }
  | .setFeatures features =>
    if features &&& ~~~ avail ≠ 0 then s
    else { acked := features, rings := s.rings.map (.setFeatures · features) }
  | .setVringKick index file => s.modify index.toNat (.setKick · file)
  | .setVringCall index file => s.modify index.toNat (.setCall · file)
  | .setVringErr index file => s.modify index.toNat (.setErr · file)
  | .getVringBase index => s.modify index.toNat .getBase
  | .setVringEnable index enable =>
    if s.acked &&& protocolFeaturesBit ≠ 0 then s.modify index.toNat (.setEnabled · enable) else s
  | _ => s

/-- No message adds a ring or takes one away. -/
theorem length_next {File : Type} (avail : UInt64) (msg : Message File) :
    (s.next avail msg).rings.length = s.rings.length := by
  cases msg with
  | setFeatures features =>
    rw [next]
    split
    case isTrue => rfl
    case isFalse => exact List.length_map _
  | setVringEnable index enable =>
    rw [next]
    split
    case isTrue => exact List.length_modify ..
    case isFalse => rfl
  | resetDevice => exact List.length_map _
  | setVringKick | setVringCall | setVringErr | getVringBase => exact List.length_modify ..
  | _ => rfl

end RingTable

/-! ### The handler -/

def Vring.state (v : Vring) : RingState :=
  { maxSize := v.queue.maxSize, started := v.isStarted, enabled := v.enabled, kick := v.kick,
    call := v.call, err := v.err }

theorem Queue.maxSize_setSize (q : Queue) (size : UInt16) : (q.setSize size).maxSize = q.maxSize := by
  unfold Queue.setSize
  split <;> rfl

theorem Vring.state_setQueueInfo (v : Vring) (descTable availRing usedRing : UInt64) :
    (v.setQueueInfo descTable availRing usedRing).2.state = v.state := by
  unfold setQueueInfo Queue.trySetDescTableAddress Queue.trySetAvailRingAddress
    Queue.trySetUsedRingAddress
  by_cases hdesc : descTable &&& 0xf ≠ 0
  · simp only [if_pos hdesc]
  · by_cases havail : availRing &&& 0x1 ≠ 0
    · simp only [if_neg hdesc, if_pos havail]
      rfl
    · by_cases hused : usedRing &&& 0x3 ≠ 0
      · simp only [if_neg hdesc, if_neg havail, if_pos hused]
        rfl
      · simp only [if_neg hdesc, if_neg havail, if_neg hused]
        rfl

theorem Vring.state_ringFeatures (v : Vring) (features : UInt64) :
    (VhostUserHandler.ringFeatures features v).state = v.state.setFeatures features := by
  unfold VhostUserHandler.ringFeatures RingState.setFeatures
  by_cases hbit : features &&& protocolFeaturesBit = 0
  · simp only [hbit, decide_true, Bool.or_true]
    rfl
  · simp only [hbit, decide_false, Bool.or_false]
    rfl

/-- The rings after `reset_device`. -/
theorem state_of_stopVrings {env : Env} : ∀ {vrings vrings' : List Vring} {k : Nat},
    stopVrings env k vrings = some vrings' →
      vrings'.map Vring.state = (vrings.map Vring.state).map .reset := by
  intro vrings
  induction vrings with
  | nil =>
    intro vrings' k h
    cases h
    rfl
  | cons vring rest ih =>
    intro vrings' k h
    rw [stopVrings] at h
    split at h
    case h_1 => cases h
    case h_2 stopped hstop =>
      split at h
      case h_1 => cases h
      case h_2 rest' hrest =>
        obtain ⟨-, hv⟩ := Option.ite_none_right_eq_some.mp hstop
        cases hv
        cases h
        rw [List.map_cons, List.map_cons, List.map_cons, ih hrest]
        rfl

namespace VhostUserHandler

variable {δ File : Type} {vm : VmMemory File} {dev : VhostUserDevice δ} {env : Env}
  {h t : VhostUserHandler δ} {r : Except RequestError Reply}

def table (h : VhostUserHandler δ) : RingTable := ⟨h.ackedFeatures, h.vrings.map Vring.state⟩

/-- A ring that changes as the state machine says. -/
theorem table_setVring {index : Nat} {vring vring' : Vring} {f : RingState → RingState}
    (hget : h.vrings[index]? = some vring) (hf : vring'.state = f vring.state) :
    (h.setVring index vring').table = h.table.modify index f := by
  have hrings : (h.vrings.set index vring').map Vring.state =
      (h.vrings.map Vring.state).modify index f := by
    apply List.ext_getElem?
    intro j
    rw [List.getElem?_map, List.getElem?_modify, List.getElem?_map]
    by_cases hj : index = j
    · subst hj
      have hlt := (List.getElem?_eq_some_iff.mp hget).1
      rw [List.getElem?_set_self hlt, hget]
      simp [hf]
    · rw [List.getElem?_set_ne hj]
      simp [hj]
  show RingTable.mk _ _ = RingTable.mk _ _
  rw [setVring, hrings]
  rfl

/-- A change of a ring that the state machine does not see. -/
theorem table_setVring_of_state {index : Nat} {vring vring' : Vring}
    (hget : h.vrings[index]? = some vring) (hstate : vring'.state = vring.state) :
    (h.setVring index vring').table = h.table := by
  rw [table_setVring (f := id) hget hstate, RingTable.modify, List.modify_id]

/-- There is no such ring. -/
theorem table_modify_of_none {index : Nat} (hget : h.vrings[index]? = none)
    (f : RingState → RingState) : h.table.modify index f = h.table := by
  have hrings : (h.vrings.map Vring.state).modify index f = h.vrings.map Vring.state := by
    apply List.modify_eq_self
    rw [List.length_map]
    exact List.getElem?_eq_none_iff.mp hget
  show RingTable.mk _ _ = RingTable.mk _ _
  rw [show h.table.rings = h.vrings.map Vring.state from rfl, hrings]
  rfl

/-- A message for one ring, which is refused when there is no such ring. -/
theorem table_of_ring {index : Nat} {f : RingState → RingState} {onRing : Vring → Outcome δ}
    (hring : ∀ vring, h.vrings[index]? = some vring → onRing vring = some (r, t) →
      t.table = h.table.modify index f)
    (ht : (match h.vrings[index]? with
      | none => some (.error .invalidParam, h)
      | some vring => onRing vring) = some (r, t)) : t.table = h.table.modify index f := by
  split at ht
  case h_1 hget => cases ht; exact (table_modify_of_none hget f).symm
  case h_2 vring hget => exact hring vring hget ht

theorem table_activateDevice (ht : h.activateDevice dev = some (r, t)) : t.table = h.table := by
  unfold activateDevice at ht
  split at ht <;> cases ht <;> rfl

/-- `initialize_vring` starts the ring if it has a kick. -/
theorem table_initializeVring {index : Nat} {updateEpolls : Bool}
    (ht : h.initializeVring dev index updateEpolls = some (r, t)) :
    t.table = h.table.modify index fun r => { r with started := r.started || r.kick.isSome } := by
  unfold initializeVring at ht
  split at ht
  case h_1 => cases ht
  case h_2 vring hget =>
    split at ht
    case isFalse hstart =>
      cases ht
      have hstate : vring.state = { vring.state with
          started := vring.state.started || vring.state.kick.isSome } := by
        have hready : vring.isStarted = vring.queue.ready := rfl
        simp only [Vring.state, hready]
        cases hq : vring.queue.ready <;> cases hk : vring.kick <;>
          simp_all [Vring.hasKickEvent]
      exact (table_setVring_of_state hget rfl).symm.trans
        (table_setVring (f := fun r => { r with started := r.started || r.kick.isSome }) hget hstate)
    case isTrue hstart =>
      split at ht
      case h_1 => cases ht
      case h_2 vring' hready =>
        obtain rfl : { vring with queue := vring.queue.setReady true } = vring' :=
          congrArg Prod.snd hready
        simp only [Bool.and_eq_true] at hstart
        have hkick : vring.kick.isSome = true := hstart.2
        have hstate : Vring.state { vring with queue := vring.queue.setReady true } =
            { vring.state with started := vring.state.started || vring.state.kick.isSome } := by
          simp [Vring.state, Vring.isStarted, Queue.setReady, hkick]
        have htable := table_setVring (f := fun r => { r with started := r.started || r.kick.isSome })
          hget hstate
        dsimp only at ht
        split at ht
        case isFalse => cases ht; exact htable
        case isTrue => exact (table_activateDevice ht).trans htable

/-- A kick or a call event is replaced, and then the ring is initialized. -/
theorem table_setVring_initializeVring {index : Nat} {vring vring' : Vring} {updateEpolls : Bool}
    {f : RingState → RingState} (hget : h.vrings[index]? = some vring)
    (hf : vring'.state = f vring.state)
    (ht : (h.setVring index vring').initializeVring dev index updateEpolls = some (r, t)) :
    t.table = h.table.modify index fun r =>
      { f r with started := (f r).started || (f r).kick.isSome } := by
  rw [table_initializeVring ht, table_setVring hget hf, RingTable.modify, RingTable.modify,
    List.modify_modify_eq]
  rfl

theorem table_setVringNum {index num : UInt32} (ht : h.setVringNum index num = some (r, t)) :
    t.table = h.table := by
  unfold setVringNum at ht
  split at ht
  case h_1 => cases ht; rfl
  case h_2 vring hget =>
    split at ht
    case h_1 => cases ht
    case h_2 =>
      split at ht
      case isTrue => cases ht; rfl
      case isFalse =>
        cases ht
        apply table_setVring_of_state hget
        rw [Vring.state, Vring.isStarted, Queue.maxSize_setSize, Queue.ready_setSize]
        rfl

theorem table_setVringAddr {index : UInt32} {descriptor used available : UInt64}
    (ht : h.setVringAddr env index descriptor used available = some (r, t)) : t.table = h.table := by
  unfold setVringAddr at ht
  split at ht
  case isTrue => cases ht; rfl
  case isFalse =>
    split at ht
    case h_1 => cases ht
    case h_2 => cases ht; rfl
    case h_3 descTable availRing usedRing _ =>
      split at ht
      case h_1 => cases ht; rfl
      case h_2 vring hget =>
        have hstate := vring.state_setQueueInfo descTable availRing usedRing
        split at ht
        case h_1 vring' hset =>
          rw [hset] at hstate
          cases ht
          exact table_setVring_of_state hget hstate
        case h_2 vring' hset =>
          rw [hset] at hstate
          split at ht
          case h_1 => cases ht; exact table_setVring_of_state hget hstate
          case h_2 => cases ht; exact table_setVring_of_state hget hstate

theorem table_getVringBase {index : UInt32} (ht : h.getVringBase env index = some (r, t)) :
    t.table = h.table.modify index.toNat .getBase := by
  refine table_of_ring (fun vring hget ht => ?_) ht
  split at ht
  case h_1 => cases ht
  case h_2 stopped hstop =>
    obtain ⟨-, hv⟩ := Option.ite_none_right_eq_some.mp hstop
    cases hv
    dsimp only at ht
    split at ht
    case h_1 => cases ht
    case h_2 vring' hkick =>
      obtain rfl : { vring with queue := vring.queue.setReady false, kick := none } = vring' :=
        congrArg Prod.snd hkick
      cases ht
      exact table_setVring hget rfl

theorem table_setVringKick {index : UInt8} {file : Option Fd}
    (ht : h.setVringKick dev env index file = some (r, t)) :
    t.table = h.table.modify index.toNat (.setKick · file) := by
  refine table_of_ring (fun vring hget ht => ?_) ht
  split at ht
  case h_1 => cases ht
  case h_2 vring' hkick =>
    obtain rfl : { vring with kick := file } = vring' := congrArg Prod.snd hkick
    exact table_setVring_initializeVring (f := fun r => { r with kick := file }) hget rfl ht

theorem table_setVringCall {index : UInt8} {file : Option Fd}
    (ht : h.setVringCall dev env index file = some (r, t)) :
    t.table = h.table.modify index.toNat (.setCall · file) := by
  refine table_of_ring (fun vring hget ht => ?_) ht
  exact table_setVring_initializeVring (f := fun r => { r with call := file }) hget rfl ht

theorem table_setVringEnable {index : UInt32} {enable : Bool}
    (ht : h.setVringEnable index enable = some (r, t)) :
    t.table = if h.ackedFeatures &&& protocolFeaturesBit ≠ 0 then
      h.table.modify index.toNat (.setEnabled · enable) else h.table := by
  unfold setVringEnable checkFeature at ht
  by_cases hacked : h.ackedFeatures &&& protocolFeaturesBit ≠ 0
  · rw [if_pos hacked] at ht ⊢
    refine table_of_ring (fun vring hget ht => ?_) ht
    cases ht
    exact table_setVring hget rfl
  · rw [if_neg hacked] at ht ⊢
    cases ht
    rfl

/-- **Step lemma.** -/
theorem table_handle {msg : Message File} (ht : h.handle vm dev env msg = some (r, t)) :
    t.table = h.table.next (dev.availFeatures h.device) msg := by
  cases msg with
  | setVringNum index num => exact table_setVringNum ht
  | setVringAddr index descriptor used available => exact table_setVringAddr ht
  | getVringBase index => exact table_getVringBase ht
  | setVringKick index file => exact table_setVringKick ht
  | setVringCall index file => exact table_setVringCall ht
  | setVringEnable index enable => exact table_setVringEnable ht
  | setVringBase index base =>
    unfold handle setVringBase at ht
    dsimp only at ht
    split at ht
    case h_1 => cases ht; rfl
    case h_2 vring hget => cases ht; exact table_setVring_of_state hget rfl
  | setVringErr index file =>
    refine table_of_ring (fun vring hget ht => ?_) ht
    cases ht
    exact table_setVring hget rfl
  | resetDevice =>
    unfold handle resetDevice at ht
    dsimp only at ht
    split at ht
    case h_1 => cases ht
    case h_2 vrings hstop =>
      split at ht
      case h_1 | h_2 => cases ht
      case h_3 =>
        cases ht
        show RingTable.mk _ _ = RingTable.mk _ _
        rw [state_of_stopVrings hstop]
        rfl
  | setFeatures features =>
    unfold handle setFeatures at ht
    dsimp only at ht
    split at ht
    case isTrue hrefused => cases ht; exact (if_pos hrefused).symm
    case isFalse hoffered =>
      split at ht
      case h_1 => cases ht
      case h_2 =>
        cases ht
        refine Eq.trans ?_ (if_neg hoffered).symm
        show RingTable.mk _ _ = RingTable.mk _ _
        rw [List.map_map, table, List.map_map]
        congr 1
        apply List.map_congr_left
        intro vring _
        exact Vring.state_ringFeatures vring features
  | memory msg =>
    unfold handle memory at ht
    dsimp only at ht
    split at ht <;> cases ht <;> rfl
  | getConfig offset size =>
    unfold handle getConfig at ht
    dsimp only at ht
    split at ht <;> cases ht <;> rfl
  | setConfig offset buf =>
    unfold handle setConfig at ht
    dsimp only at ht
    split at ht <;> cases ht <;> rfl
  | setOwner =>
    unfold handle setOwner at ht
    dsimp only at ht
    split at ht <;> cases ht <;> rfl
  | setLogBase =>
    unfold handle setLogBase at ht
    dsimp only at ht
    split at ht <;> cases ht <;> rfl
  | setDeviceStateFd | checkDeviceState => cases ht
  | resetOwner | setProtocolFeatures | setGpuSocket | getFeatures | getProtocolFeatures | getQueueNum
  | setBackendReqFd | getInflightFd | setInflightFd | getMaxMemSlots =>
    cases ht
    rfl

theorem length_vrings_handle {msg : Message File} (ht : h.handle vm dev env msg = some (r, t)) :
    t.vrings.length = h.vrings.length := by
  have hlength := RingTable.length_next h.table (dev.availFeatures h.device) msg
  rw [← table_handle ht] at hlength
  simpa [table] using hlength

end VhostUserHandler

/-- **The handler refines the state machine**, where the device always offers the same features. -/
theorem ring_table_of_run {δ File : Type} {vm : VmMemory File} {dev : VhostUserDevice δ}
    {avail : UInt64} (hoffers : ∀ device, dev.availFeatures device = avail)
    {h t : VhostUserHandler δ} {as : List (Message File × Env)}
    (hrun : run (VhostUserHandler.step vm dev) h as = some t) :
    t.table = (as.map Prod.fst).foldl (fun s => s.next avail) h.table := by
  refine run_history (I := fun as t =>
    t.table = (as.map Prod.fst).foldl (fun s => s.next avail) h.table) rfl ?_ as t hrun
  intro as s a t _ hs hstep
  obtain ⟨⟨r, t'⟩, ht, rfl⟩ := Option.map_eq_some_iff.mp hstep
  show t'.table = ((as ++ [a]).map Prod.fst).foldl (fun s => s.next avail) h.table
  rw [VhostUserHandler.table_handle ht, hoffers, hs, List.map_append, List.foldl_append]
  rfl

theorem ring_table_of_run_twoRings :
    ∃ t, run (VhostUserHandler.step vmMemory twoRings) twoRingsNew memoryFirst = some t ∧
      t.table =
        (memoryFirst.map Prod.fst).foldl (fun s => s.next protocolFeaturesBit) twoRingsNew.table := by
  obtain ⟨t, ht⟩ : ∃ t, run (VhostUserHandler.step vmMemory twoRings) twoRingsNew memoryFirst = some t :=
    ⟨_, rfl⟩
  exact ⟨t, ht, ring_table_of_run (fun _ => rfl) ht⟩

/-! ### When a ring is started -/

section

variable {File : Type}

/-- The ring `i` gets a kick. -/
def GivesKick (i : Nat) : Message File → Prop
  | .setVringKick index file => index.toNat = i ∧ file.isSome
  | _ => False

def TakesKick (i : Nat) : Message File → Prop
  | .setVringKick index file => index.toNat = i ∧ file = none
  | .getVringBase index => index.toNat = i
  | _ => False

/-- A message with a call event for the ring, or with none. -/
def IsCall (i : Nat) : Message File → Prop
  | .setVringCall index _ => index.toNat = i
  | _ => False

def StopsRing (i : Nat) : Message File → Prop
  | .getVringBase index => index.toNat = i
  | .resetDevice => True
  | _ => False

/-- The ring has a kick after these messages. -/
def HasKickBy (i : Nat) : List (Message File) → Prop :=
  Since (fun _ => GivesKick i) (¬ TakesKick i ·)

/-- The ring is started after these messages: since it has got a kick, or a call event while it had
one, it was not stopped. -/
def IsStartedBy (i : Nat) : List (Message File) → Prop :=
  Since (fun before msg => GivesKick i msg ∨ IsCall i msg ∧ HasKickBy i before) (¬ StopsRing i ·)

/-- What a message does to whether a ring is started, and to whether it has a kick. -/
structure RingStep (i : Nat) (msg : Message File) (r r' : RingState) : Prop where
  kick : r'.kick.isSome ↔ GivesKick i msg ∨ ¬ TakesKick i msg ∧ r.kick.isSome
  started : r'.started ↔
    (GivesKick i msg ∨ IsCall i msg ∧ r.kick.isSome) ∨ ¬ StopsRing i msg ∧ r.started

variable {i : Nat} {s : RingTable} {r' : RingState}

theorem RingStep.of_not {msg : Message File} {r r' : RingState} (hgives : ¬ GivesKick i msg)
    (htakes : ¬ TakesKick i msg) (hcall : ¬ IsCall i msg) (hstops : ¬ StopsRing i msg)
    (hkick : r'.kick = r.kick) (hstarted : r'.started = r.started) : RingStep i msg r r' := by
  constructor
  · simp only [hgives, htakes, hkick, false_or, not_false_eq_true, true_and]
  · simp only [hgives, hcall, hstops, hstarted, false_and, false_or, not_false_eq_true, true_and]

/-- A message for the ring at `index`. -/
theorem exists_ringStep_modify {msg : Message File} {index : Nat} {f : RingState → RingState}
    (hr' : (s.modify index f).rings[i]? = some r')
    (hself : ∀ r, index = i → RingStep i msg r (f r))
    (hother : ∀ r, index ≠ i → RingStep i msg r r) :
    ∃ r, s.rings[i]? = some r ∧ RingStep i msg r r' := by
  rw [RingTable.modify, List.getElem?_modify] at hr'
  obtain ⟨r, hr, rfl⟩ := Option.map_eq_some_iff.mp hr'
  refine ⟨r, hr, ?_⟩
  by_cases hindex : index = i
  · rw [if_pos hindex]
    exact hself r hindex
  · rw [if_neg hindex]
    exact hother r hindex

/-- A message for all the rings. -/
theorem exists_ringStep_map {msg : Message File} {f : RingState → RingState}
    (hr' : (s.rings.map f)[i]? = some r') (hall : ∀ r, RingStep i msg r (f r)) :
    ∃ r, s.rings[i]? = some r ∧ RingStep i msg r r' := by
  rw [List.getElem?_map] at hr'
  obtain ⟨r, hr, rfl⟩ := Option.map_eq_some_iff.mp hr'
  exact ⟨r, hr, hall r⟩

theorem ringStep_next {avail : UInt64} {msg : Message File}
    (hr' : (s.next avail msg).rings[i]? = some r') :
    ∃ r, s.rings[i]? = some r ∧ RingStep i msg r r' := by
  cases msg with
  | setVringKick index file =>
    refine exists_ringStep_modify hr' (fun r hindex => ⟨?_, ?_⟩) fun r hindex => ⟨?_, ?_⟩
    · cases file <;> simp [GivesKick, TakesKick, RingState.setKick, hindex]
    · cases file <;> simp [GivesKick, IsCall, StopsRing, RingState.setKick, hindex]
    · simp [GivesKick, TakesKick, hindex]
    · simp [GivesKick, IsCall, StopsRing, hindex]
  | setVringCall index file =>
    refine exists_ringStep_modify hr' (fun r hindex => ⟨?_, ?_⟩) fun r hindex => ⟨?_, ?_⟩
    · simp [GivesKick, TakesKick, RingState.setCall]
    · simp [GivesKick, IsCall, StopsRing, RingState.setCall, hindex, or_comm]
    · simp [GivesKick, TakesKick]
    · simp [GivesKick, IsCall, StopsRing, hindex]
  | getVringBase index =>
    refine exists_ringStep_modify hr' (fun r hindex => ⟨?_, ?_⟩) fun r hindex => ⟨?_, ?_⟩
    · simp [GivesKick, TakesKick, RingState.getBase, hindex]
    · simp [GivesKick, IsCall, StopsRing, RingState.getBase, hindex]
    · simp [GivesKick, TakesKick, hindex]
    · simp [GivesKick, IsCall, StopsRing, hindex]
  | resetDevice =>
    refine exists_ringStep_map hr' fun r => ⟨?_, ?_⟩
    · simp [GivesKick, TakesKick, RingState.reset]
    · simp [GivesKick, IsCall, StopsRing, RingState.reset]
  | setFeatures features =>
    rw [RingTable.next] at hr'
    split at hr'
    case isTrue => exact ⟨r', hr', .of_not id id id id rfl rfl⟩
    case isFalse => exact exists_ringStep_map hr' fun r => .of_not id id id id rfl rfl
  | setVringEnable index enable =>
    rw [RingTable.next] at hr'
    split at hr'
    case isTrue =>
      exact exists_ringStep_modify hr' (fun r _ => .of_not id id id id rfl rfl)
        fun r _ => .of_not id id id id rfl rfl
    case isFalse => exact ⟨r', hr', .of_not id id id id rfl rfl⟩
  | setVringErr index file =>
    exact exists_ringStep_modify hr' (fun r _ => .of_not id id id id rfl rfl)
      fun r _ => .of_not id id id id rfl rfl
  | _ => exact ⟨r', hr', .of_not id id id id rfl rfl⟩

end

/-! ### Whole runs -/

/-- What is known of a ring of the handler after these messages. -/
structure RingHistory {File : Type} (i : Nat) (msgs : List (Message File)) (r : RingState) :
    Prop where
  kick : r.kick.isSome ↔ HasKickBy i msgs
  started : r.started ↔ IsStartedBy i msgs

theorem RingHistory.concat {File : Type} {i : Nat} {msgs : List (Message File)}
    {msg : Message File} {r r' : RingState} (hr : RingHistory i msgs r)
    (hstep : RingStep i msg r r') : RingHistory i (msgs ++ [msg]) r' := by
  constructor
  · rw [hstep.kick, hr.kick, HasKickBy, since_concat]
  · rw [hstep.started, hr.kick, hr.started, IsStartedBy, since_concat]

theorem forall₂_of_newVrings : ∀ {sizes : List UInt16} {vrings : List Vring},
    newVrings sizes = .ok vrings →
      List.Forall₂ (fun maxSize vring => Vring.new maxSize = .ok vring) sizes vrings := by
  intro sizes
  induction sizes with
  | nil =>
    intro vrings hnew
    cases hnew
    exact .nil
  | cons maxSize rest ih =>
    intro vrings hnew
    rw [newVrings] at hnew
    split at hnew
    case h_1 => cases hnew
    case h_2 vring hvring =>
      split at hnew
      case h_1 => cases hnew
      case h_2 vrings' hrest =>
        cases hnew
        exact .cons hvring (ih hrest)

theorem Vring.state_new {maxSize : UInt16} {vring : Vring} (hnew : Vring.new maxSize = .ok vring) :
    vring.state =
      { maxSize := maxSize, started := false, enabled := false, kick := none, call := none,
        err := none } := by
  unfold Vring.new Queue.new at hnew
  split at hnew
  · cases hnew
  · cases hnew
    rfl

section

variable {δ File : Type} {vm : VmMemory File} {dev : VhostUserDevice δ} {device : δ}
  {h t : VhostUserHandler δ} {as : List (Message File × Env)}

theorem VhostUserHandler.state_of_new (hnew : new dev device = .ok h) {i : Nat} {r : RingState}
    (hr : h.table.rings[i]? = some r) : ∃ maxSize, r =
      { maxSize := maxSize, started := false, enabled := false, kick := none, call := none,
        err := none } := by
  unfold new at hnew
  split at hnew
  case h_1 => cases hnew
  case h_2 vrings hvrings =>
    cases hnew
    obtain ⟨vring, hvring, rfl⟩ := Option.map_eq_some_iff.mp (List.getElem?_map.symm.trans hr)
    obtain ⟨hlt, rfl⟩ := List.getElem?_eq_some_iff.mp hvring
    have hnews := forall₂_of_newVrings hvrings
    exact ⟨_, Vring.state_new (hnews.get (hnews.length_eq ▸ hlt) hlt)⟩

theorem ringHistory_of_run (hnew : VhostUserHandler.new dev device = .ok h)
    (hrun : run (VhostUserHandler.step vm dev) h as = some t) (i : Nat) (r : RingState) :
    t.table.rings[i]? = some r → RingHistory i (as.map Prod.fst) r := by
  refine run_history (I := fun as t => ∀ r,
    t.table.rings[i]? = some r → RingHistory i (as.map Prod.fst) r) ?_ ?_ as t hrun r
  · intro r hr
    obtain ⟨maxSize, rfl⟩ := VhostUserHandler.state_of_new hnew hr
    exact ⟨iff_of_false nofun not_since_nil, iff_of_false nofun not_since_nil⟩
  · intro as s a t _ hs hstep r' hr'
    obtain ⟨⟨res, t'⟩, ht, rfl⟩ := Option.map_eq_some_iff.mp hstep
    have htable : t'.table.rings[i]? = some r' := hr'
    rw [VhostUserHandler.table_handle ht] at htable
    obtain ⟨r, hr, hring⟩ := ringStep_next htable
    rw [List.map_append]
    exact (hs r hr).concat hring

end

/-- **When a ring is started.**  It was once started, by a kick or by a call event that has found
one, and neither `get_vring_base` nor `reset_device` has come since. -/
theorem started_iff_since {δ File : Type} {vm : VmMemory File} {dev : VhostUserDevice δ} {device : δ}
    {h : VhostUserHandler δ} (hnew : VhostUserHandler.new dev device = .ok h)
    {as : List (Message File × Env)} {t : VhostUserHandler δ}
    (hrun : run (VhostUserHandler.step vm dev) h as = some t) {i : Nat} {vring : Vring}
    (hget : t.vrings[i]? = some vring) : vring.isStarted ↔ IsStartedBy i (as.map Prod.fst) := by
  have hring : t.table.rings[i]? = some vring.state := by
    show (t.vrings.map Vring.state)[i]? = some vring.state
    rw [List.getElem?_map, hget]
    rfl
  exact (ringHistory_of_run hnew hrun i vring.state hring).started

/-- A ring is restarted by a call event: `reset_device` has left its kick. -/
def restarted : List (Message Bool × Env) :=
  [(.setVringKick 0 (some 5), willing), (.resetDevice, willing), (.setVringCall 0 (some 6), willing)]

theorem started_iff_since_restarted :
    ∃ t vring, run (VhostUserHandler.step vmMemory twoRings) twoRingsNew restarted = some t ∧
      t.vrings[0]? = some vring ∧ (vring.isStarted ↔ IsStartedBy 0 (restarted.map Prod.fst)) := by
  obtain ⟨t, vring, ht, hget⟩ :
      ∃ t vring, run (VhostUserHandler.step vmMemory twoRings) twoRingsNew restarted = some t ∧
        t.vrings[0]? = some vring := ⟨_, _, rfl, rfl⟩
  have hnew : VhostUserHandler.new twoRings 0 = .ok twoRingsNew := rfl
  exact ⟨t, vring, ht, hget, started_iff_since hnew ht hget⟩

end VirtioPoc.VhostUser
