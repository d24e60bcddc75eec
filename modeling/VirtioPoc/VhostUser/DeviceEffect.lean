import VirtioPoc.VhostUser.Handler

/-!
# What a message does to the device

Six kinds of messages reach the device, or what the handler keeps beside it: its
flag, the acked features and the record of the calls.  `DeviceEffect` has a case
for each of them, and one for all the others; `deviceEffect_of_handle` is the
inversion lemma.
-/

namespace VirtioPoc.VhostUser

namespace VhostUserHandler

variable {δ File : Type}

/-- The rings that the device is activated with when the ring at `index` is initialized, if it is. -/
def startActivation (h : VhostUserHandler δ) (index : Nat) : Option (List Vring) :=
  match h.vrings[index]? with
  | none => none
  | some vring =>
    if ! vring.isStarted && vring.hasKickEvent && ! h.deviceActivated && h.memTable.memoryUpdated then
      some (h.vrings.set index { vring with queue := vring.queue.setReady true })
    else none

/-- The rings that the device is activated with by the message, if it is. -/
def activation (h : VhostUserHandler δ) : Message File → Option (List Vring)
  | .setVringKick index file =>
    match h.vrings[index.toNat]? with
    | none => none
    | some vring => (h.setVring index.toNat { vring with kick := file }).startActivation index.toNat
  | .setVringCall index file =>
    match h.vrings[index.toNat]? with
    | none => none
    | some vring => (h.setVring index.toNat (vring.setCall file)).startActivation index.toNat
  | _ => none

/-- The device, its flag, its features and its calls are the same. -/
structure SameDevice (h t : VhostUserHandler δ) : Prop where
  device : t.device = h.device
  deviceActivated : t.deviceActivated = h.deviceActivated
  ackedFeatures : t.ackedFeatures = h.ackedFeatures
  calls : t.calls = h.calls

theorem SameDevice.refl (h : VhostUserHandler δ) : SameDevice h h := ⟨rfl, rfl, rfl, rfl⟩

theorem RingChange.sameDevice {h t : VhostUserHandler δ} (hchange : RingChange h t) :
    SameDevice h t := by
  cases hchange with
  | refl => exact .refl h
  | setVring => exact ⟨rfl, rfl, rfl, rfl⟩

inductive DeviceEffect (dev : VhostUserDevice δ) (h : VhostUserHandler δ) :
    Message File → VhostUserHandler δ → Prop
  | same {msg t} (hreset : msg ≠ .resetDevice) (howner : msg ≠ .resetOwner)
      (hidle : h.activation msg = none) (hsame : SameDevice h t) : DeviceEffect dev h msg t
  | resetOwner {t} (hdevice : t.device = h.device) (hflag : t.deviceActivated = h.deviceActivated)
      (hacked : t.ackedFeatures = 0) (hcalls : t.calls = h.calls) : DeviceEffect dev h .resetOwner t
  | resetDevice {t supported} (hcall : dev.reset h.device = some (.ok supported, t.device))
      (hflag : t.deviceActivated = h.deviceActivated) (hacked : t.ackedFeatures = 0)
      (hcalls : t.calls = h.calls ++ [.reset]) : DeviceEffect dev h .resetDevice t
  | setFeatures {features t} (hoffered : features &&& ~~~ dev.availFeatures h.device = 0)
      (hcall : dev.setAckedFeatures features h.device = some t.device)
      (hflag : t.deviceActivated = h.deviceActivated) (hacked : t.ackedFeatures = features)
      (hcalls : t.calls = h.calls ++ [.setAckedFeatures features]) :
      DeviceEffect dev h (.setFeatures features) t
  | activate {msg t vrings result} (hactivation : h.activation msg = some vrings)
      (hcall : dev.activate h.memTable.atomicMem vrings h.device = some (result, t.device))
      (hflag : t.deviceActivated = true) (hacked : t.ackedFeatures = h.ackedFeatures)
      (hcalls : t.calls = h.calls ++ [.activate result.isOk]) : DeviceEffect dev h msg t
  | setConfig {offset buf t} (hdevice : t.device = (dev.writeConfig offset.toNat buf h.device).2)
      (hflag : t.deviceActivated = h.deviceActivated) (hacked : t.ackedFeatures = h.ackedFeatures)
      (hcalls : t.calls = h.calls) : DeviceEffect dev h (.setConfig offset buf) t
  | setGpuSocket {t} (hdevice : t.device = dev.setGpuSocket h.device)
      (hflag : t.deviceActivated = h.deviceActivated) (hacked : t.ackedFeatures = h.ackedFeatures)
      (hcalls : t.calls = h.calls) : DeviceEffect dev h .setGpuSocket t

variable {vm : VmMemory File} {dev : VhostUserDevice δ} {env : Env} {h t : VhostUserHandler δ}
  {r : Except RequestError Reply}

/-- What `initialize_vring` does to the device: nothing, or it activates it. -/
theorem initializeVring_effect {index : Nat} {updateEpolls : Bool}
    (ht : h.initializeVring dev index updateEpolls = some (r, t)) :
    h.startActivation index = none ∧ SameDevice h t ∨
    ∃ vrings result, h.startActivation index = some vrings ∧
      dev.activate h.memTable.atomicMem vrings h.device = some (result, t.device) ∧
      t.deviceActivated = true ∧ t.ackedFeatures = h.ackedFeatures ∧
      t.calls = h.calls ++ [.activate result.isOk] := by
  cases hget : h.vrings[index]? with
  | none =>
    rw [initializeVring, hget] at ht
    cases ht
  | some vring =>
    have hstarted : vring.isStarted = vring.queue.ready := rfl
    rw [initializeVring, hget] at ht
    rw [startActivation, hget]
    dsimp only at ht ⊢
    rw [hstarted]
    split at ht
    case isFalse hstart =>
      cases ht
      rw [Bool.not_eq_true] at hstart
      rw [hstart, Bool.false_and, Bool.false_and, if_neg Bool.false_ne_true]
      exact .inl ⟨rfl, .refl h⟩
    case isTrue hstart =>
      rw [hstart, Bool.true_and]
      split at ht
      case h_1 => cases ht
      case h_2 vring' hready =>
        obtain rfl : { vring with queue := vring.queue.setReady true } = vring' :=
          congrArg Prod.snd hready
        split at ht
        case isFalse hactive =>
          have hactive : ¬ (! h.deviceActivated && h.memTable.memoryUpdated) = true := hactive
          cases ht
          rw [if_neg hactive]
          exact .inl ⟨rfl, ⟨rfl, rfl, rfl, rfl⟩⟩
        case isTrue hactive =>
          have hactive : (! h.deviceActivated && h.memTable.memoryUpdated) = true := hactive
          rw [if_pos hactive]
          unfold activateDevice at ht
          split at ht
          case h_1 => cases ht
          case h_2 hcall => cases ht; exact .inr ⟨_, _, rfl, hcall, rfl, rfl, rfl⟩
          case h_3 hcall => cases ht; exact .inr ⟨_, _, rfl, hcall, rfl, rfl, rfl⟩

/-- The change of a ring before it is initialized does not matter to the device. -/
theorem deviceEffect_of_initializeVring {msg : Message File} {index : Nat} {vring : Vring}
    {updateEpolls : Bool} (hreset : msg ≠ .resetDevice) (howner : msg ≠ .resetOwner)
    (hactivation : h.activation msg = (h.setVring index vring).startActivation index)
    (ht : (h.setVring index vring).initializeVring dev index updateEpolls = some (r, t)) :
    DeviceEffect dev h msg t := by
  rcases initializeVring_effect ht with
    ⟨hidle, hsame⟩ | ⟨vrings, result, hact, hcall, hflag, hacked, hcalls⟩
  · exact .same hreset howner (hactivation.trans hidle)
      ⟨hsame.device, hsame.deviceActivated, hsame.ackedFeatures, hsame.calls⟩
  · exact .activate (hactivation.trans hact) hcall hflag hacked hcalls

theorem deviceEffect_setVringKick {index : UInt8} {file : Option Fd}
    (ht : h.setVringKick dev env index file = some (r, t)) :
    DeviceEffect dev h (.setVringKick index file : Message File) t := by
  unfold setVringKick at ht
  split at ht
  case h_1 hget =>
    cases ht
    have hidle : h.activation (.setVringKick index file : Message File) = none := by
      unfold activation
      dsimp only
      rw [hget]
    exact .same nofun nofun hidle (.refl h)
  case h_2 vring hget =>
    split at ht
    case h_1 => cases ht
    case h_2 vring' hkick =>
      obtain rfl : { vring with kick := file } = vring' := congrArg Prod.snd hkick
      refine deviceEffect_of_initializeVring nofun nofun ?_ ht
      unfold activation
      dsimp only
      rw [hget]

theorem deviceEffect_setVringCall {index : UInt8} {file : Option Fd}
    (ht : h.setVringCall dev env index file = some (r, t)) :
    DeviceEffect dev h (.setVringCall index file : Message File) t := by
  unfold setVringCall at ht
  split at ht
  case h_1 hget =>
    cases ht
    have hidle : h.activation (.setVringCall index file : Message File) = none := by
      unfold activation
      dsimp only
      rw [hget]
    exact .same nofun nofun hidle (.refl h)
  case h_2 vring hget =>
    refine deviceEffect_of_initializeVring nofun nofun ?_ ht
    unfold activation
    dsimp only
    rw [hget]

theorem deviceEffect_resetDevice (ht : h.resetDevice dev env = some (r, t)) :
    DeviceEffect dev h (.resetDevice : Message File) t := by
  unfold resetDevice at ht
  split at ht
  case h_1 => cases ht
  case h_2 =>
    split at ht
    case h_1 => cases ht
    case h_2 => cases ht
    case h_3 hcall => cases ht; exact .resetDevice hcall rfl rfl rfl

theorem deviceEffect_setFeatures {features : UInt64}
    (ht : h.setFeatures dev features = some (r, t)) :
    DeviceEffect dev h (.setFeatures features : Message File) t := by
  unfold setFeatures at ht
  split at ht
  case isTrue => cases ht; exact .same nofun nofun rfl (.refl h)
  case isFalse hoffered =>
    split at ht
    case h_1 => cases ht
    case h_2 hcall => cases ht; exact .setFeatures (not_not.mp hoffered) hcall rfl rfl rfl

/-- **What a message does to the device.** -/
theorem deviceEffect_of_handle {msg : Message File} (ht : h.handle vm dev env msg = some (r, t)) :
    DeviceEffect dev h msg t := by
  cases msg with
  | setVringKick index file => exact deviceEffect_setVringKick ht
  | setVringCall index file => exact deviceEffect_setVringCall ht
  | resetDevice => exact deviceEffect_resetDevice ht
  | setFeatures features => exact deviceEffect_setFeatures ht
  | resetOwner => cases ht; exact .resetOwner rfl rfl rfl rfl
  | setGpuSocket => cases ht; exact .setGpuSocket rfl rfl rfl rfl
  | setConfig offset buf =>
    unfold handle setConfig at ht
    dsimp only at ht
    split at ht
    case h_1 hcall => cases ht; exact .setConfig (by rw [hcall]) rfl rfl rfl
    case h_2 hcall => cases ht; exact .setConfig (by rw [hcall]) rfl rfl rfl
  | setOwner =>
    refine .same nofun nofun rfl ?_
    unfold handle setOwner at ht
    dsimp only at ht
    split at ht <;> cases ht <;> exact ⟨rfl, rfl, rfl, rfl⟩
  | memory msg =>
    refine .same nofun nofun rfl ?_
    unfold handle memory at ht
    dsimp only at ht
    split at ht <;> cases ht <;> exact ⟨rfl, rfl, rfl, rfl⟩
  | setProtocolFeatures features => cases ht; exact .same nofun nofun rfl ⟨rfl, rfl, rfl, rfl⟩
  | _ => exact .same nofun nofun rfl (ringChange_of_handle ht trivial).sameDevice

end VhostUserHandler

end VirtioPoc.VhostUser
