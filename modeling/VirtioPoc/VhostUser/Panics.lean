import VirtioPoc.VhostUser.DeviceEffect
import VirtioPoc.VhostUser.RingState

/-!
# Messages that panic

The handler has an `unwrap` wherever it stops or starts a ring, resets the device
or indexes a list, and two messages that are a `todo!`.  `Crashes` says what has
to go wrong for each message: a call of the kernel, or one of the device.

The others never do: an index of a ring is checked before it is used for the list
of the requested queues, and no translation overflows.  That takes the invariant
`Sound`, so `survives_iff` is about the states of a run.
-/

namespace VirtioPoc.VhostUser

open Base

namespace VhostUserHandler

variable {δ File : Type}

/-! ### What has to go wrong -/

/-- `update_epolls` fails where its result is unwrapped. -/
def EpollFails (h : VhostUserHandler δ) (env : Env) : Message File → Prop
  | .resetDevice => ∃ k vring, h.vrings[k]? = some vring ∧ vring.kick.isSome ∧
      env.updateEpolls k = false
  | .getVringBase index => ∃ vring, h.vrings[index.toNat]? = some vring ∧ vring.kick.isSome ∧
      env.updateEpolls 0 = false
  | .setVringKick index file => ∃ vring, h.vrings[index.toNat]? = some vring ∧
      (vring.isStarted = true ∧ (vring.kick.isSome ∨ file.isSome) ∧ env.updateEpolls 0 = false ∨
        vring.isStarted = false ∧ file.isSome ∧ env.updateEpolls 1 = false)
  | .setVringCall index _ => ∃ vring, h.vrings[index.toNat]? = some vring ∧
      vring.isStarted = false ∧ vring.kick.isSome ∧ env.updateEpolls 0 = false
  | _ => False

/-- The device panics in a call of its own, or `reset` fails, whose result is unwrapped. -/
def DeviceFails (dev : VhostUserDevice δ) (h : VhostUserHandler δ) : Message File → Prop
  | .resetDevice => ∀ supported device, dev.reset h.device ≠ some (.ok supported, device)
  | .setFeatures features => features &&& ~~~ dev.availFeatures h.device = 0 ∧
      dev.setAckedFeatures features h.device = none
  | .getConfig offset size =>
    dev.readConfig offset.toNat (List.replicate size.toNat 0) h.device = none
  | msg => ∃ vrings, h.activation msg = some vrings ∧
      dev.activate h.memTable.atomicMem vrings h.device = none

/-- The messages that are a `todo!`. -/
def IsTodo : Message File → Prop
  | .setDeviceStateFd | .checkDeviceState => True
  | _ => False

/-- **What has to go wrong** in a message for a panic. -/
def Crashes (dev : VhostUserDevice δ) (h : VhostUserHandler δ) (a : Message File × Env) : Prop :=
  IsTodo a.1 ∨ h.EpollFails a.2 a.1 ∨ h.DeviceFails dev a.1

/-! ### The invariant -/

/-- There are as many rings as requested queues, and the mappings are those of the guest memory. -/
structure Sound (h : VhostUserHandler δ) : Prop where
  rings : h.vrings.length = h.requestedQueues.length
  memTable : h.memTable.Consistent

variable {vm : VmMemory File} {dev : VhostUserDevice δ} {env : Env} {h t : VhostUserHandler δ}
  {r : Except RequestError Reply}

theorem sound_new {device : δ} (hnew : new dev device = .ok h) : h.Sound := by
  unfold new at hnew
  split at hnew
  case h_1 => cases hnew
  case h_2 vrings hvrings =>
    cases hnew
    exact ⟨(forall₂_of_newVrings hvrings).length_eq.symm, MemTable.consistent_new⟩

/-- The requested queues stay, and so does the memory but for the messages about it. -/
structure Keeps (h t : VhostUserHandler δ) : Prop where
  requestedQueues : t.requestedQueues = h.requestedQueues
  memTable : t.memTable = h.memTable

theorem Keeps.refl (h : VhostUserHandler δ) : Keeps h h := ⟨rfl, rfl⟩

theorem RingChange.keeps (hchange : RingChange h t) : Keeps h t := by
  cases hchange <;> exact ⟨rfl, rfl⟩

theorem keeps_activateDevice (ht : h.activateDevice dev = some (r, t)) : Keeps h t := by
  unfold activateDevice at ht
  split at ht <;> cases ht <;> exact ⟨rfl, rfl⟩

theorem keeps_initializeVring {index : Nat} {updateEpolls : Bool}
    (ht : h.initializeVring dev index updateEpolls = some (r, t)) : Keeps h t := by
  unfold initializeVring at ht
  split at ht
  case h_1 => cases ht
  case h_2 =>
    split at ht
    case isFalse => cases ht; exact .refl h
    case isTrue =>
      split at ht
      case h_1 => cases ht
      case h_2 vring' _ =>
        dsimp only at ht
        split at ht
        case isFalse => cases ht; exact ⟨rfl, rfl⟩
        case isTrue =>
          have hkeeps := keeps_activateDevice ht
          exact ⟨hkeeps.requestedQueues, hkeeps.memTable⟩

theorem keeps_handle {msg : Message File} (ht : h.handle vm dev env msg = some (r, t))
    (hmsg : ∀ m, msg ≠ .memory m) : Keeps h t := by
  cases msg with
  | memory m => exact absurd rfl (hmsg m)
  | setVringKick index file =>
    unfold handle setVringKick at ht
    dsimp only at ht
    split at ht
    case h_1 => cases ht; exact .refl h
    case h_2 =>
      split at ht
      case h_1 => cases ht
      case h_2 =>
        have hkeeps := keeps_initializeVring ht
        exact ⟨hkeeps.requestedQueues, hkeeps.memTable⟩
  | setVringCall index file =>
    unfold handle setVringCall at ht
    dsimp only at ht
    split at ht
    case h_1 => cases ht; exact .refl h
    case h_2 =>
      have hkeeps := keeps_initializeVring ht
      exact ⟨hkeeps.requestedQueues, hkeeps.memTable⟩
  | resetDevice =>
    unfold handle resetDevice at ht
    dsimp only at ht
    split at ht
    case h_1 => cases ht
    case h_2 =>
      split at ht
      case h_1 | h_2 => cases ht
      case h_3 => cases ht; exact ⟨rfl, rfl⟩
  | setFeatures features =>
    unfold handle setFeatures at ht
    dsimp only at ht
    split at ht
    case isTrue => cases ht; exact .refl h
    case isFalse =>
      split at ht
      case h_1 => cases ht
      case h_2 => cases ht; exact ⟨rfl, rfl⟩
  | setOwner =>
    unfold handle setOwner at ht
    dsimp only at ht
    split at ht <;> cases ht <;> exact ⟨rfl, rfl⟩
  | setConfig offset buf =>
    unfold handle setConfig at ht
    dsimp only at ht
    split at ht <;> cases ht <;> exact ⟨rfl, rfl⟩
  | resetOwner | setProtocolFeatures | setGpuSocket => cases ht; exact ⟨rfl, rfl⟩
  | _ => exact (ringChange_of_handle ht trivial).keeps

theorem sound_handle (hvm : vm.Lawful) (hs : h.Sound) {msg : Message File}
    (ht : h.handle vm dev env msg = some (r, t)) : t.Sound := by
  have hlength := length_vrings_handle ht
  cases msg with
  | memory m =>
    have hconsistent := MemTable.consistent_handle hvm hs.memTable m
    unfold handle memory at ht
    dsimp only at ht
    split at ht
    case h_1 hhandle | h_2 hhandle =>
      rw [hhandle] at hconsistent
      cases ht
      exact ⟨hs.rings, hconsistent⟩
  | _ =>
    have hkeeps := keeps_handle ht nofun
    refine ⟨?_, ?_⟩
    · rw [hlength, hkeeps.requestedQueues]
      exact hs.rings
    · rw [hkeeps.memTable]
      exact hs.memTable

/-! ### One message -/

theorem epollsUpdated_eq_false {old new : Option Fd} {updateEpolls : Bool} :
    Vring.epollsUpdated old new updateEpolls = false ↔
      (old.isSome ∨ new.isSome) ∧ updateEpolls = false := by
  cases old <;> cases new <;> simp [Vring.epollsUpdated]

theorem stop_eq_none {vring : Vring} {updateEpolls : Bool} :
    vring.stop updateEpolls = none ↔ vring.kick.isSome ∧ updateEpolls = false := by
  cases hkick : vring.kick <;> simp [Vring.stop, Vring.epollsUpdated, hkick]

theorem activateDevice_eq_none : h.activateDevice dev = none ↔
    dev.activate h.memTable.atomicMem h.vrings h.device = none := by
  unfold activateDevice
  split
  case h_1 hcall => exact iff_of_true rfl hcall
  case h_2 hcall | h_3 hcall => exact iff_of_false nofun (hcall ▸ nofun)

/-- `initialize_vring` panics when it starts the ring, and that fails or the activation panics. -/
theorem initializeVring_eq_none {index : Nat} {vring : Vring} {updateEpolls : Bool}
    (hget : h.vrings[index]? = some vring) :
    h.initializeVring dev index updateEpolls = none ↔
      (vring.isStarted = false ∧ vring.kick.isSome ∧ updateEpolls = false) ∨
        ∃ vrings, h.startActivation index = some vrings ∧
          dev.activate h.memTable.atomicMem vrings h.device = none := by
  unfold initializeVring startActivation
  rw [hget]
  dsimp only
  have hstarted : vring.isStarted = vring.queue.ready := rfl
  by_cases hstart : (! vring.queue.ready && vring.hasKickEvent) = true
  · have hstart' := hstart
    rw [Bool.and_eq_true, Bool.not_eq_true'] at hstart'
    obtain ⟨hready, hkick⟩ := hstart'
    have hkick : vring.kick.isSome = true := hkick
    rw [if_pos hstart, hstarted, hstart, Bool.true_and]
    cases updateEpolls with
    | false =>
      have hfails : vring.start false = (false, { vring with queue := vring.queue.setReady true }) := by
        rw [Vring.start, epollsUpdated_eq_false.mpr ⟨.inr hkick, rfl⟩]
      rw [hfails]
      exact iff_of_true rfl (.inl ⟨hready, hkick, rfl⟩)
    | true =>
      have hworks : vring.start true = (true, { vring with queue := vring.queue.setReady true }) := by
        simp [Vring.start, Vring.epollsUpdated]
      rw [hworks]
      dsimp only
      by_cases hactive : (! h.deviceActivated && h.memTable.memoryUpdated) = true
      · have hactive' : (! (h.setVring index { vring with queue := vring.queue.setReady true
          }).deviceActivated && (h.setVring index { vring with queue := vring.queue.setReady true
          }).memTable.memoryUpdated) = true := hactive
        rw [if_pos hactive', if_pos hactive, activateDevice_eq_none]
        constructor
        · exact fun hcall => .inr ⟨_, rfl, hcall⟩
        · rintro (⟨-, -, hfalse⟩ | ⟨vrings, hvrings, hcall⟩)
          · cases hfalse
          · cases hvrings
            exact hcall
      · have hactive' : ¬ (! (h.setVring index { vring with queue := vring.queue.setReady true
          }).deviceActivated && (h.setVring index { vring with queue := vring.queue.setReady true
          }).memTable.memoryUpdated) = true := hactive
        rw [if_neg hactive', if_neg hactive]
        simp
  · have hstart' := hstart
    rw [Bool.not_eq_true] at hstart'
    rw [if_neg hstart, hstarted, hstart', Bool.false_and, Bool.false_and]
    refine iff_of_false nofun ?_
    rintro (⟨hready, hkick, -⟩ | ⟨vrings, hvrings, -⟩)
    · exact hstart (by rw [hready]; exact hkick)
    · cases hvrings

theorem stopVrings_eq_none : ∀ {vrings : List Vring} {k : Nat},
    stopVrings env k vrings = none ↔
      ∃ i vring, vrings[i]? = some vring ∧ vring.kick.isSome ∧ env.updateEpolls (k + i) = false := by
  intro vrings
  induction vrings with
  | nil =>
    intro k
    rw [stopVrings]
    simp
  | cons vring rest ih =>
    intro k
    rw [stopVrings]
    have hshift : (∃ i v, (vring :: rest)[i]? = some v ∧ v.kick.isSome ∧
        env.updateEpolls (k + i) = false) ↔ (vring.kick.isSome ∧ env.updateEpolls k = false) ∨
          ∃ i v, rest[i]? = some v ∧ v.kick.isSome ∧ env.updateEpolls (k + 1 + i) = false := by
      constructor
      · rintro ⟨i, v, hv, hfails⟩
        cases i with
        | zero =>
          cases hv
          exact .inl hfails
        | succ i =>
          refine .inr ⟨i, v, hv, ?_⟩
          rwa [show k + 1 + i = k + (i + 1) by omega]
      · rintro (hfails | ⟨i, v, hv, hfails⟩)
        · exact ⟨0, vring, rfl, hfails⟩
        · refine ⟨i + 1, v, hv, ?_⟩
          rwa [show k + (i + 1) = k + 1 + i by omega]
    have hfails : (vring.setEnabled false).stop (env.updateEpolls k) = none ↔
        vring.kick.isSome ∧ env.updateEpolls k = false := stop_eq_none
    rw [hshift, ← ih (k := k + 1)]
    split
    case h_1 hstop => exact iff_of_true rfl (.inl (hfails.mp hstop))
    case h_2 stopped hstop =>
      have hworks : ¬ (vring.kick.isSome ∧ env.updateEpolls k = false) := by
        rw [← hfails, hstop]
        exact Option.some_ne_none stopped
      rw [or_iff_right hworks]
      split
      case h_1 hrest => exact iff_of_true rfl hrest
      case h_2 vrings hrest =>
        rw [hrest]
        exact iff_of_false (Option.some_ne_none _) (Option.some_ne_none _)

/-- No translation overflows. -/
theorem vmmVaToGpa_ne_none (hs : h.Sound) (va : UInt64) : h.vmmVaToGpa va ≠ none := by
  obtain ⟨res, hres, -⟩ := hs.memTable.translates va.toNat
  unfold vmmVaToGpa
  rw [hres]
  cases res with
  | error e => cases e; exact nofun
  | ok gpa => exact nofun

theorem ringAddresses_ne_none (hs : h.Sound) (descriptor used available : UInt64) :
    h.ringAddresses descriptor used available ≠ none := by
  unfold ringAddresses
  split
  case h_1 hnone => exact absurd hnone (vmmVaToGpa_ne_none hs descriptor)
  case h_2 => exact nofun
  case h_3 =>
    split
    case h_1 hnone => exact absurd hnone (vmmVaToGpa_ne_none hs available)
    case h_2 => exact nofun
    case h_3 =>
      split
      case h_1 hnone => exact absurd hnone (vmmVaToGpa_ne_none hs used)
      case h_2 | h_3 => exact nofun

theorem setVringAddr_ne_none (hs : h.Sound) (index : UInt32) (descriptor used available : UInt64) :
    h.setVringAddr env index descriptor used available ≠ none := by
  unfold setVringAddr
  split
  case isTrue => exact nofun
  case isFalse =>
    split
    case h_1 hnone => exact absurd hnone (ringAddresses_ne_none hs descriptor used available)
    case h_2 => exact nofun
    case h_3 =>
      split
      case h_1 => exact nofun
      case h_2 =>
        split
        case h_1 => exact nofun
        case h_2 => split <;> exact nofun

/-- A ring that exists was requested. -/
theorem setVringNum_ne_none (hs : h.Sound) (index num : UInt32) : h.setVringNum index num ≠ none := by
  unfold setVringNum
  split
  case h_1 => exact nofun
  case h_2 vring hget =>
    obtain ⟨hlt, -⟩ := List.getElem?_eq_some_iff.mp hget
    rw [List.getElem?_eq_getElem (hs.rings ▸ hlt)]
    dsimp only
    split <;> exact nofun

/-- Once the ring is stopped, taking its kick away cannot fail. -/
theorem getVringBase_eq_none {index : UInt32} : h.getVringBase env index = none ↔
    ∃ vring, h.vrings[index.toNat]? = some vring ∧ vring.kick.isSome ∧
      env.updateEpolls 0 = false := by
  unfold getVringBase
  split
  case h_1 hget => exact iff_of_false nofun (by rw [hget]; simp)
  case h_2 vring hget =>
    rw [hget]
    split
    case h_1 hstop => exact iff_of_true rfl ⟨vring, rfl, stop_eq_none.mp hstop⟩
    case h_2 stopped hstop =>
      have hstopped := Vring.isStarted_stop hstop
      refine iff_of_false ?_ ?_
      · rw [Vring.setKick, hstopped]
        exact nofun
      · rintro ⟨v, hv, hfails⟩
        cases hv
        rw [stop_eq_none.mpr hfails] at hstop
        cases hstop

theorem resetDevice_eq_none : h.resetDevice dev env = none ↔
    (∃ k vring, h.vrings[k]? = some vring ∧ vring.kick.isSome ∧ env.updateEpolls k = false) ∨
      ∀ supported device, dev.reset h.device ≠ some (.ok supported, device) := by
  have hstop : stopVrings env 0 h.vrings = none ↔
      ∃ k vring, h.vrings[k]? = some vring ∧ vring.kick.isSome ∧ env.updateEpolls k = false := by
    rw [stopVrings_eq_none]
    simp only [Nat.zero_add]
  unfold resetDevice
  rw [← hstop]
  split
  case h_1 hnone => exact iff_of_true rfl (.inl hnone)
  case h_2 vrings hvrings =>
    rw [or_iff_right (by rw [hvrings]; exact nofun)]
    split
    case h_1 hreset => exact iff_of_true rfl (by rw [hreset]; exact nofun)
    case h_2 hreset => exact iff_of_true rfl (by rw [hreset]; exact nofun)
    case h_3 supported device hreset =>
      exact iff_of_false nofun fun hfails => hfails supported device hreset

theorem setFeatures_eq_none {features : UInt64} : h.setFeatures dev features = none ↔
    features &&& ~~~ dev.availFeatures h.device = 0 ∧
      dev.setAckedFeatures features h.device = none := by
  unfold setFeatures
  split
  case isTrue hoffered => exact iff_of_false nofun fun hfails => hoffered hfails.1
  case isFalse hoffered =>
    rw [and_iff_right (not_not.mp hoffered)]
    split
    case h_1 hcall => exact iff_of_true rfl hcall
    case h_2 hcall => exact iff_of_false nofun (by rw [hcall]; exact nofun)

theorem setVringKick_eq_none {index : UInt8} {file : Option Fd} :
    h.setVringKick dev env index file = none ↔
      h.EpollFails env (.setVringKick index file : Message File) ∨
        h.DeviceFails dev (.setVringKick index file : Message File) := by
  unfold setVringKick EpollFails DeviceFails activation
  dsimp only
  cases hget : h.vrings[index.toNat]? with
  | none => exact iff_of_false nofun (by simp)
  | some vring =>
    have hget' : (h.setVring index.toNat { vring with kick := file }).vrings[index.toNat]? =
        some { vring with kick := file } :=
      List.getElem?_set_self (List.getElem?_eq_some_iff.mp hget).1
    have hready : Vring.isStarted { vring with kick := file } = vring.isStarted := rfl
    have hkick : vring.setKick file (env.updateEpolls 0) =
        (! vring.isStarted || Vring.epollsUpdated vring.kick file (env.updateEpolls 0),
          { vring with kick := file }) := rfl
    simp only [Option.some.injEq, exists_eq_left']
    rw [hkick]
    cases hstarted : vring.isStarted with
    | true =>
      cases hupdated : Vring.epollsUpdated vring.kick file (env.updateEpolls 0) with
      | false =>
        obtain ⟨hsome, hfails⟩ := epollsUpdated_eq_false.mp hupdated
        exact iff_of_true rfl (.inl (.inl ⟨rfl, hsome, hfails⟩))
      | true =>
        refine (initializeVring_eq_none hget').trans (or_congr (iff_of_false ?_ ?_) Iff.rfl)
        · rw [hready, hstarted]
          exact nofun
        · rintro (⟨-, hfails⟩ | ⟨hfalse, -⟩)
          · rw [epollsUpdated_eq_false.mpr hfails] at hupdated
            cases hupdated
          · cases hfalse
    | false =>
      refine (initializeVring_eq_none hget').trans (or_congr ?_ Iff.rfl)
      rw [hready, hstarted]
      refine ⟨.inr, ?_⟩
      rintro (⟨hfalse, -⟩ | hfails)
      · cases hfalse
      · exact hfails

theorem setVringCall_eq_none {index : UInt8} {file : Option Fd} :
    h.setVringCall dev env index file = none ↔
      h.EpollFails env (.setVringCall index file : Message File) ∨
        h.DeviceFails dev (.setVringCall index file : Message File) := by
  unfold setVringCall EpollFails DeviceFails activation
  dsimp only
  cases hget : h.vrings[index.toNat]? with
  | none => exact iff_of_false nofun (by simp)
  | some vring =>
    have hget' : (h.setVring index.toNat (vring.setCall file)).vrings[index.toNat]? =
        some (vring.setCall file) :=
      List.getElem?_set_self (List.getElem?_eq_some_iff.mp hget).1
    simp only [Option.some.injEq, exists_eq_left']
    exact (initializeVring_eq_none hget').trans (or_congr Iff.rfl Iff.rfl)

theorem getConfig_eq_none {offset size : UInt32} : h.getConfig dev offset size = none ↔
    dev.readConfig offset.toNat (List.replicate size.toNat 0) h.device = none := by
  unfold getConfig
  split
  case h_1 hcall => exact iff_of_true rfl hcall
  case h_2 hcall | h_3 hcall => exact iff_of_false nofun (by rw [hcall]; exact nofun)

/-- The messages that only read, or that write without a call. -/
def Plain : Message File → Prop
  | .setOwner | .resetOwner | .memory _ | .getFeatures | .setVringBase .. | .setVringErr ..
  | .getProtocolFeatures | .setProtocolFeatures _ | .getQueueNum | .setVringEnable ..
  | .setConfig .. | .setBackendReqFd | .setGpuSocket | .getInflightFd | .setInflightFd
  | .getMaxMemSlots | .setLogBase => True
  | _ => False

theorem handle_ne_none {msg : Message File} (hmsg : Plain msg) :
    h.handle vm dev env msg ≠ none := by
  cases msg with
  | setOwner => unfold handle setOwner; dsimp only; split <;> exact nofun
  | memory m => unfold handle memory; dsimp only; split <;> exact nofun
  | setVringBase index base => unfold handle setVringBase; dsimp only; split <;> exact nofun
  | setVringErr index file => unfold handle setVringErr; dsimp only; split <;> exact nofun
  | setConfig offset buf => unfold handle setConfig; dsimp only; split <;> exact nofun
  | setLogBase => unfold handle setLogBase; dsimp only; split <;> exact nofun
  | setVringEnable index enable =>
    unfold handle setVringEnable
    dsimp only
    split
    case h_1 => exact nofun
    case h_2 => split <;> exact nofun
  | resetOwner | getFeatures | getProtocolFeatures | setProtocolFeatures | getQueueNum
  | setBackendReqFd | setGpuSocket | getInflightFd | setInflightFd | getMaxMemSlots => exact nofun
  | resetDevice | setFeatures | setVringNum | setVringAddr | getVringBase | setVringKick
  | setVringCall | getConfig | setDeviceStateFd | checkDeviceState => cases hmsg

/-- **Exactly these messages panic.** -/
theorem handle_eq_none_iff (hs : h.Sound) {msg : Message File} :
    h.handle vm dev env msg = none ↔ h.Crashes dev (msg, env) := by
  unfold Crashes
  cases msg with
  | setVringKick index file => exact setVringKick_eq_none.trans (or_iff_right id).symm
  | setVringCall index file => exact setVringCall_eq_none.trans (or_iff_right id).symm
  | resetDevice => exact resetDevice_eq_none.trans (or_iff_right id).symm
  | setFeatures features =>
    exact setFeatures_eq_none.trans ((or_iff_right id).trans (or_iff_right id)).symm
  | getConfig offset size =>
    exact getConfig_eq_none.trans ((or_iff_right id).trans (or_iff_right id)).symm
  | getVringBase index =>
    refine getVringBase_eq_none.trans ((or_iff_right id).trans (or_iff_left ?_)).symm
    rintro ⟨vrings, hvrings, -⟩
    cases hvrings
  | setDeviceStateFd | checkDeviceState => exact iff_of_true rfl (.inl trivial)
  | setVringAddr index descriptor used available =>
    refine iff_of_false (setVringAddr_ne_none hs index descriptor used available) ?_
    rintro (htodo | hepoll | ⟨vrings, hvrings, -⟩)
    all_goals contradiction
  | setVringNum index num =>
    refine iff_of_false (setVringNum_ne_none hs index num) ?_
    rintro (htodo | hepoll | ⟨vrings, hvrings, -⟩)
    all_goals contradiction
  | _ =>
    refine iff_of_false (handle_ne_none trivial) ?_
    rintro (htodo | hepoll | ⟨vrings, hvrings, -⟩)
    all_goals contradiction

end VhostUserHandler

/-- **When no message of a run panics.**  For each message there is the state that it finds: no call
of the kernel or of the device fails whose result is unwrapped, the device does not panic in it, and it
is not a `todo!`.  That no worker has crashed with the lock of a ring, which would be poisoned then, is
taken for granted. -/
theorem survives_iff {δ File : Type} {vm : VmMemory File} (hvm : vm.Lawful) {dev : VhostUserDevice δ}
    {device : δ} {h : VhostUserHandler δ} (hnew : VhostUserHandler.new dev device = .ok h)
    (as : List (Message File × Env)) :
    (run (VhostUserHandler.step vm dev) h as).isSome = true ↔
      Along (VhostUserHandler.step vm dev) (fun h a => ¬ h.Crashes dev a) h as := by
  refine run_isSome_iff_along (I := VhostUserHandler.Sound) ?_ ?_ as h
    (VhostUserHandler.sound_new hnew)
  · intro s a t hs hstep
    obtain ⟨⟨r, t'⟩, ht, rfl⟩ := Option.map_eq_some_iff.mp hstep
    exact VhostUserHandler.sound_handle hvm hs ht
  · intro s a hs
    rw [not_not, VhostUserHandler.step, Option.map_eq_none_iff]
    exact VhostUserHandler.handle_eq_none_iff hs

/-- The kick of a started ring is taken away, and the kernel does not let go of it. -/
def notLetGo : List (Message Bool × Env) :=
  [(.setVringKick 0 (some 5), willing), (.resetDevice, { willing with updateEpolls := fun _ => false })]

theorem survives_iff_notLetGo :
    ¬ Along (VhostUserHandler.step vmMemory twoRings) (fun h a => ¬ h.Crashes twoRings a) twoRingsNew
      notLetGo := by
  have hnew : VhostUserHandler.new twoRings 0 = .ok twoRingsNew := rfl
  have hpanics : run (VhostUserHandler.step vmMemory twoRings) twoRingsNew notLetGo = none := rfl
  intro halong
  have hsurvives := (survives_iff vmMemory_lawful hnew notLetGo).mpr halong
  rw [hpanics] at hsurvives
  cases hsurvives

end VirtioPoc.VhostUser
