import VirtioPoc.VhostUser.Backend
import VirtioPoc.VhostUser.DeviceEffect
import VirtioPoc.VhostUser.Activation
import VirtioPoc.Console.Device

/-!
# The negotiated features

The handler and the wrapped device both keep the features that the frontend has
acknowledged.  `set_features` changes both, `reset_owner` and `reset_device` set
those of the handler to zero.

`features_agree_iff` says in which runs the two are the same in every state.
-/

namespace VirtioPoc.VhostUser

open Base

/-! ### Bits -/

/-- The features that the device keeps are those of the handler without the bit `p`. -/
theorem masked_features {f p avail : UInt64} (hp : f &&& p = p)
    (hoffered : f &&& ~~~ (avail ||| p) = 0) : (f ^^^ p) &&& avail = f &&& ~~~ p := by
  rw [← UInt64.toBitVec_inj] at hp hoffered ⊢
  ext i hi
  have hp := congrArg (·[i]) hp
  have hoffered := congrArg (·[i]) hoffered
  simp only [UInt64.toBitVec_and, UInt64.toBitVec_or, UInt64.toBitVec_xor, UInt64.toBitVec_not,
    BitVec.getElem_and, BitVec.getElem_or, BitVec.getElem_xor, BitVec.getElem_not,
    UInt64.toBitVec_ofNat, BitVec.getElem_zero] at hp hoffered ⊢
  grind

/-! ### Agreement -/

/-- A device whose `set_acked_features` keeps what it is given of the features it offers; otherwise the
device changes its features at most when it is reset.  Its states are `valid` ones. -/
structure StoresMasked {ε : Type} (device : VirtioDevice ε) (valid : ε → Prop) : Prop where
  setAckedFeatures : ∀ f e, valid e →
    device.ackedFeatures (device.setAckedFeatures f e) = f &&& device.availFeatures e
  avail_setAckedFeatures : ∀ f e, valid e →
    device.availFeatures (device.setAckedFeatures f e) = device.availFeatures e
  activate : ∀ mem vrings e r e', valid e → device.activate mem vrings e = some (r, e') →
    device.ackedFeatures e' = device.ackedFeatures e ∧
      device.availFeatures e' = device.availFeatures e
  valid_setAckedFeatures : ∀ f e, valid e → valid (device.setAckedFeatures f e)
  valid_activate : ∀ mem vrings e r e', valid e → device.activate mem vrings e = some (r, e') → valid e'
  valid_reset : ∀ e r e', valid e → device.reset e = some (r, e') → valid e'

/-- The messages but those that write the configuration space or give the device its socket. -/
def Negotiates {File : Type} : Message File → Prop
  | .setConfig _ _ => False
  | .setGpuSocket => False
  | _ => True

variable {δ ε File : Type}

/-- A message that negotiates, with what the environment answers. -/
abbrev Negotiation (File : Type) := { a : Message File × Env // Negotiates a.1 }

namespace VhostUserHandler

variable (impl : VhostUserDeviceImplementer δ ε) (vm : VmMemory File)

def negotiate (h : VhostUserHandler δ) (a : Negotiation File) : Option (VhostUserHandler δ) :=
  h.step vm impl.toDevice a.1

/-- The wrapped device. -/
def wrapped (h : VhostUserHandler δ) : ε := impl.asRef h.device

/-- The device keeps the features of the handler without the protocol-features bit, and it offers
them all. -/
def FeaturesAgree (h : VhostUserHandler δ) : Prop :=
  impl.device.ackedFeatures (h.wrapped impl) = h.ackedFeatures &&& ~~~ protocolFeaturesBit ∧
    impl.device.ackedFeatures (h.wrapped impl) &&& ~~~ impl.device.availFeatures (h.wrapped impl) = 0

/-- **The condition on a message.**  When the handler forgets its features, the device has none: after
its own reset, where it is reset. -/
def ForgetsNothing (h : VhostUserHandler δ) (a : Negotiation File) : Prop :=
  match a.1.1 with
  | .resetOwner => impl.device.ackedFeatures (h.wrapped impl) = 0
  | .resetDevice => ∀ supported e, impl.device.reset (h.wrapped impl) = some (.ok supported, e) →
      impl.device.ackedFeatures e = 0
  | _ => True

variable {impl vm} {h t : VhostUserHandler δ}

/-- A method of the device is called through the implementer. -/
theorem method_eq_some {α : Type} {d d' : δ} {r : α} {result : Option (α × ε)}
    (h : result.map (impl.putBack d) = some (r, d')) : result = some (r, impl.asRef d') := by
  obtain ⟨out, hout, hback⟩ := Option.map_eq_some_iff.mp h
  cases hback
  rw [hout, impl.asRef_asMut]

theorem featuresAgree_of_zero (hacked : h.ackedFeatures = 0) :
    h.FeaturesAgree impl ↔ impl.device.ackedFeatures (h.wrapped impl) = 0 := by
  unfold FeaturesAgree
  rw [hacked, UInt64.zero_and]
  refine and_iff_left_of_imp fun hzero => ?_
  rw [hzero, UInt64.zero_and]

/-- A `set_features` that returns has passed on the features without the protocol-features bit. -/
theorem wrapped_setFeatures {features : UInt64}
    (hcall : impl.setAckedFeatures features h.device = some t.device) :
    features &&& protocolFeaturesBit = protocolFeaturesBit ∧ t.wrapped impl =
      impl.device.setAckedFeatures (features ^^^ protocolFeaturesBit) (h.wrapped impl) := by
  unfold VhostUserDeviceImplementer.setAckedFeatures at hcall
  split at hcall
  case isFalse => cases hcall
  case isTrue hbit =>
    refine ⟨hbit, ?_⟩
    rw [wrapped, ← Option.some.inj hcall, impl.asRef_asMut]
    rfl

variable {valid : ε → Prop}

theorem featuresAgree_setFeatures (hd : StoresMasked impl.device valid)
    (hvalid : valid (h.wrapped impl)) {features : UInt64}
    (hoffered : features &&& ~~~ impl.availFeatures h.device = 0)
    (hcall : impl.setAckedFeatures features h.device = some t.device)
    (hacked : t.ackedFeatures = features) : t.FeaturesAgree impl := by
  obtain ⟨hbit, hdevice⟩ := wrapped_setFeatures hcall
  have hmask := masked_features hbit hoffered
  unfold FeaturesAgree
  rw [hdevice, hd.setAckedFeatures _ _ hvalid, hd.avail_setAckedFeatures _ _ hvalid, hacked]
  refine ⟨hmask, ?_⟩
  rw [UInt64.and_assoc, UInt64.and_not_self, UInt64.and_zero]

theorem valid_step (hd : StoresMasked impl.device valid) {a : Negotiation File}
    (hvalid : valid (h.wrapped impl)) (hstep : h.negotiate impl vm a = some t) :
    valid (t.wrapped impl) := by
  obtain ⟨⟨msg, env⟩, hmsg⟩ := a
  obtain ⟨⟨r, t'⟩, ht, rfl⟩ := Option.map_eq_some_iff.mp hstep
  unfold wrapped at hvalid ⊢
  cases deviceEffect_of_handle ht with
  | same hreset howner hidle hsame => rwa [hsame.device]
  | resetOwner hdevice hflag hacked hcalls => rwa [hdevice]
  | resetDevice hcall hflag hacked hcalls => exact hd.valid_reset _ _ _ hvalid (method_eq_some hcall)
  | setFeatures hoffered hcall hflag hacked hcalls =>
    have hdevice := (wrapped_setFeatures hcall).2
    unfold wrapped at hdevice
    rw [hdevice]
    exact hd.valid_setAckedFeatures _ _ hvalid
  | activate hactivation hcall hflag hacked hcalls =>
    exact hd.valid_activate _ _ _ _ _ hvalid (method_eq_some hcall)
  | setConfig hdevice hflag hacked hcalls => exact absurd hmsg id
  | setGpuSocket hdevice hflag hacked hcalls => exact absurd hmsg id

/-- **Step lemma.** -/
theorem featuresAgree_step_iff (hd : StoresMasked impl.device valid) {a : Negotiation File}
    (hvalid : valid (h.wrapped impl)) (ha : h.FeaturesAgree impl)
    (hstep : h.negotiate impl vm a = some t) :
    t.FeaturesAgree impl ↔ h.ForgetsNothing impl a := by
  obtain ⟨⟨msg, env⟩, hmsg⟩ := a
  obtain ⟨⟨r, t'⟩, ht, rfl⟩ := Option.map_eq_some_iff.mp hstep
  cases deviceEffect_of_handle ht with
  | same hreset howner hidle hsame =>
    refine iff_of_true ?_ ?_
    · unfold FeaturesAgree wrapped
      rw [hsame.device, hsame.ackedFeatures]
      exact ha
    · unfold ForgetsNothing
      cases msg with
      | resetOwner => exact absurd rfl howner
      | resetDevice => exact absurd rfl hreset
      | _ => trivial
  | resetOwner hdevice hflag hacked hcalls =>
    rw [featuresAgree_of_zero hacked, wrapped, hdevice]
    exact Iff.rfl
  | resetDevice hcall hflag hacked hcalls =>
    rw [featuresAgree_of_zero hacked]
    have hreset := method_eq_some hcall
    constructor
    · intro hzero supported e he
      cases hreset.symm.trans he
      exact hzero
    · exact fun hforgets => hforgets _ _ hreset
  | setFeatures hoffered hcall hflag hacked hcalls =>
    exact iff_of_true (featuresAgree_setFeatures hd hvalid hoffered hcall hacked) trivial
  | activate hactivation hcall hflag hacked hcalls =>
    obtain ⟨hkept, hoffered⟩ := hd.activate _ _ _ _ _ hvalid (method_eq_some hcall)
    refine iff_of_true ?_ ?_
    · unfold FeaturesAgree wrapped
      rw [hkept, hoffered, hacked]
      exact ha
    · unfold ForgetsNothing
      cases msg with
      | resetOwner => cases hactivation
      | resetDevice => cases hactivation
      | _ => trivial
  | setConfig hdevice hflag hacked hcalls => exact absurd hmsg id
  | setGpuSocket hdevice hflag hacked hcalls => exact absurd hmsg id

theorem wrapped_new {device : δ} (hnew : new impl.toDevice device = .ok h) :
    h.wrapped impl = impl.asRef device ∧ h.ackedFeatures = 0 := by
  unfold new at hnew
  split at hnew
  case h_1 => cases hnew
  case h_2 => cases hnew; exact ⟨rfl, rfl⟩

end VhostUserHandler

/-- **Handler and device agree on the features** at every point of a run just when the handler never
forgets features that the device keeps. -/
theorem features_agree_iff {δ ε File : Type} {impl : VhostUserDeviceImplementer δ ε}
    {valid : ε → Prop} (hd : StoresMasked impl.device valid) {vm : VmMemory File} {device : δ}
    {h : VhostUserHandler δ} (hnew : VhostUserHandler.new impl.toDevice device = .ok h)
    (hvalid : valid (impl.asRef device))
    (hfresh : impl.device.ackedFeatures (impl.asRef device) = 0) {as : List (Negotiation File)}
    (hrun : (run (VhostUserHandler.negotiate impl vm) h as).isSome) :
    (∀ n t, run (VhostUserHandler.negotiate impl vm) h (as.take n) = some t → t.FeaturesAgree impl) ↔
      Along (VhostUserHandler.negotiate impl vm) (VhostUserHandler.ForgetsNothing impl) h as := by
  obtain ⟨hdevice, hacked⟩ := VhostUserHandler.wrapped_new hnew
  refine forall_prefix_iff_along (I := fun h => valid (h.wrapped impl))
    (fun _ _ _ hvalid hstep => VhostUserHandler.valid_step hd hvalid hstep)
    (fun _ _ _ hvalid ha hstep => VhostUserHandler.featuresAgree_step_iff hd hvalid ha hstep)
    as h ?_ ?_ hrun
  · rw [hdevice]
    exact hvalid
  · rw [VhostUserHandler.featuresAgree_of_zero hacked, hdevice]
    exact hfresh

/-! ### The console -/

/-- The console as a virtio device, in a system that answers `os`. -/
def consoleDevice (ι ο : Type) (os : ConsoleDevice.Os) : VirtioDevice (ConsoleDevice.Console ι ο Vring) where
  availFeatures console := console.availFeatures
  ackedFeatures console := console.ackedFeatures
  setAckedFeatures f console := console.setAckedFeatures f
  queues console := console.queues
  readConfig offset data console := some (console.readConfig offset data)
  writeConfig offset data console := console.writeConfig offset data
  activate _ vrings console :=
    (console.activate os fun index => vrings[index]?).map fun out => (out.1, out.2.1)
  reset console := some console.reset

/-- `VhostUserConsole`. -/
def vhostUserConsole (ι ο : Type) (os : ConsoleDevice.Os) :
    VhostUserDeviceImplementer (ConsoleDevice.Console ι ο Vring) (ConsoleDevice.Console ι ο Vring) where
  device := consoleDevice ι ο os
  asRef console := console
  asMut console _ := console
  asRef_asMut _ _ := rfl
  protocolFeatures _ := 0x209
  setGpuSocket console := console

/-- A console never changes the features that it offers. -/
def OffersAll {ι ο Q : Type} (console : ConsoleDevice.Console ι ο Q) : Prop :=
  console.availFeatures = ConsoleDevice.availableFeatures

theorem storesMasked_console (ι ο : Type) (os : ConsoleDevice.Os) :
    StoresMasked (consoleDevice ι ο os) OffersAll where
  setAckedFeatures f console hall := by
    show ConsoleDevice.availableFeatures &&& f = f &&& console.availFeatures
    rw [UInt64.and_comm, ← hall]
  avail_setAckedFeatures _ _ _ := rfl
  activate mem vrings console r console' hall h := by
    obtain ⟨out, hout, hr⟩ := Option.map_eq_some_iff.mp h
    cases hr
    exact (ConsoleDevice.Console.features_activate hout).symm
  valid_setAckedFeatures _ _ hall := hall
  valid_activate mem vrings console r console' hall h := by
    obtain ⟨out, hout, hr⟩ := Option.map_eq_some_iff.mp h
    cases hr
    exact (ConsoleDevice.Console.features_activate hout).1.trans hall
  valid_reset console r console' hall h := by
    cases h
    exact hall

/-- A console in a system where nothing fails. -/
def oneVhostUserConsole :
    VhostUserDeviceImplementer (ConsoleDevice.Console Unit Unit Vring)
      (ConsoleDevice.Console Unit Unit Vring) :=
  vhostUserConsole Unit Unit .willing

/-- The console of `oneConsole` with its four rings, in the handler before the first message. -/
def consoleNew : VhostUserHandler (ConsoleDevice.Console Unit Unit Vring) :=
  let vring : Vring :=
    { queue := ⟨256, 256, false, 0, 0, 0, 0, 0, false⟩, enabled := false, kick := none, call := none,
      err := none }
  { device := ConsoleDevice.oneConsoleNew Vring, deviceActivated := false,
    requestedQueues := [256, 256, 256, 256], owned := false, featuresAcked := false,
    ackedFeatures := 0, ackedProtocolFeatures := 0, memTable := .new,
    vrings := [vring, vring, vring, vring], calls := [] }

/-- `VIRTIO_F_VERSION_1` and the protocol features. -/
def versionFeatures : UInt64 := 0x140000000

/-- The features are set, and a ring is enabled. -/
def setAndEnable : List (Negotiation Bool) :=
  [⟨(.setOwner, willing), trivial⟩, ⟨(.setFeatures versionFeatures, willing), trivial⟩,
    ⟨(.setVringEnable 0 true, willing), trivial⟩]

theorem features_agree_iff_setAndEnable :
    (run (VhostUserHandler.negotiate oneVhostUserConsole vmMemory) consoleNew setAndEnable).isSome =
      true ∧
    ∀ n t, run (VhostUserHandler.negotiate oneVhostUserConsole vmMemory) consoleNew
        (setAndEnable.take n) = some t → t.FeaturesAgree oneVhostUserConsole := by
  have hnew : VhostUserHandler.new oneVhostUserConsole.toDevice (ConsoleDevice.oneConsoleNew Vring) =
      .ok consoleNew := rfl
  have hd : StoresMasked oneVhostUserConsole.device OffersAll :=
    storesMasked_console Unit Unit .willing
  refine ⟨rfl, (features_agree_iff hd hnew rfl rfl rfl).mpr ?_⟩
  exact ⟨trivial, fun _ _ => ⟨trivial, fun _ _ => ⟨trivial, fun _ _ => trivial⟩⟩⟩

/-- **A device that keeps features** which the handler has forgotten. -/
theorem features_disagree :
    let set : Negotiation Bool := ⟨(.setFeatures versionFeatures, willing), trivial⟩
    let resetOwner : Negotiation Bool := ⟨(.resetOwner, willing), trivial⟩
    let resetDevice : Negotiation Bool := ⟨(.resetDevice, willing), trivial⟩
    VhostUserHandler.new oneVhostUserConsole.toDevice (ConsoleDevice.oneConsoleNew Vring) =
      .ok consoleNew ∧
    ∀ as ∈ [[set, resetOwner], [set, resetDevice]], ∃ t,
      run (VhostUserHandler.negotiate oneVhostUserConsole vmMemory) consoleNew as = some t ∧
      t.ackedFeatures = 0 ∧ t.device.ackedFeatures = 0x100000000 ∧
      ¬ t.FeaturesAgree oneVhostUserConsole := by
  intro set resetOwner resetDevice
  refine ⟨rfl, ?_⟩
  have hdisagree {t : VhostUserHandler (ConsoleDevice.Console Unit Unit Vring)}
      (hacked : t.ackedFeatures = 0) (hdevice : t.device.ackedFeatures = 0x100000000) :
      ¬ t.FeaturesAgree oneVhostUserConsole := by
    intro hagree
    have hzero : t.device.ackedFeatures = 0 :=
      (VhostUserHandler.featuresAgree_of_zero hacked).mp hagree
    rw [hdevice] at hzero
    exact absurd hzero (by decide)
  intro as has
  rcases List.mem_cons.mp has with rfl | has
  · exact ⟨_, rfl, rfl, by decide, hdisagree rfl (by decide)⟩
  · obtain rfl := List.mem_singleton.mp has
    exact ⟨_, rfl, rfl, by decide, hdisagree rfl (by decide)⟩

end VirtioPoc.VhostUser
