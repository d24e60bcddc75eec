import VirtioPoc.VhostUser.Handler

/-!
# Virtio devices behind the handler

`VirtioDevice` is the trait of a virtio device that does not know of vhost-user.
`VhostUserDeviceImplementer` of `backend.rs` makes it a `VhostUserDevice`: it
adds the protocol-features bit to the features that are offered, and takes it
off the acknowledged ones.
-/

namespace VirtioPoc.VhostUser

/-- The trait, over the guest memory and the rings of the handler; a method that may panic returns an
`Option`. -/
structure VirtioDevice (ε : Type) where
  availFeatures : ε → UInt64
  ackedFeatures : ε → UInt64
  setAckedFeatures : (ackedFeatures : UInt64) → ε → ε
  queues : ε → List UInt16
  readConfig : (offset : Nat) → (data : List UInt8) → ε → Option (Except Unit (List UInt8))
  writeConfig : (offset : Nat) → (data : List UInt8) → ε → Except Unit Unit × ε
  activate : GuestMemory → List Vring → ε → Option (Except Unit Unit × ε)
  reset : ε → Option (Except Unit Bool × ε)

/-- The trait: a value of `δ` has a virtio device in it. -/
structure VhostUserDeviceImplementer (δ ε : Type) where
  device : VirtioDevice ε
  asRef : δ → ε
  /-- What is left after the device has been changed through `as_mut`. -/
  asMut : ε → δ → δ
  asRef_asMut : ∀ e d, asRef (asMut e d) = e
  protocolFeatures : δ → UInt64
  setGpuSocket : δ → δ

namespace VhostUserDeviceImplementer

variable {δ ε : Type} (impl : VhostUserDeviceImplementer δ ε)

def availFeatures (d : δ) : UInt64 := impl.device.availFeatures (impl.asRef d) ||| protocolFeaturesBit

def ackedFeatures (d : δ) : UInt64 := impl.device.ackedFeatures (impl.asRef d) ||| protocolFeaturesBit

def setAckedFeatures (ackedFeatures : UInt64) (d : δ) : Option δ :=
  if ackedFeatures &&& protocolFeaturesBit = protocolFeaturesBit then
    some (impl.asMut
      (impl.device.setAckedFeatures (ackedFeatures ^^^ protocolFeaturesBit) (impl.asRef d)) d)
  else none

/-- The result of a method of the device, with the device put back. -/
def putBack {α : Type} (d : δ) (out : α × ε) : α × δ := (out.1, impl.asMut out.2 d)

/-- The implementation of `VhostUserDevice`. -/
def toDevice : VhostUserDevice δ where
  protocolFeatures := impl.protocolFeatures
  availFeatures := impl.availFeatures
  setAckedFeatures := impl.setAckedFeatures
  queues d := impl.device.queues (impl.asRef d)
  readConfig offset data d := impl.device.readConfig offset data (impl.asRef d)
  writeConfig offset data d := impl.putBack d (impl.device.writeConfig offset data (impl.asRef d))
  activate mem vrings d := (impl.device.activate mem vrings (impl.asRef d)).map (impl.putBack d)
  reset d := (impl.device.reset (impl.asRef d)).map (impl.putBack d)
  setGpuSocket := impl.setGpuSocket

end VhostUserDeviceImplementer

end VirtioPoc.VhostUser
