import VirtioPoc.VhostUser.MemTable
import VirtioPoc.VhostUser.Vring

/-!
# The handler of vhost-user messages

`VhostUserHandler` of `handler.rs`, over any implementation of the trait
`VhostUserDevice` on a state of its own.  A message is handled as a whole; its
result is the reply or error, with the handler after it, and `none` is a panic.

The guest memory and the rings are those of `MemTable` and `Vring`.  What
`set_log_base` does to the bitmaps of the guest memory is in `DirtyLog`; here it
only has a result.
-/

namespace VirtioPoc.VhostUser

/-! ### The device -/

/-- The trait; a method that may panic returns an `Option`. -/
structure VhostUserDevice (δ : Type) where
  protocolFeatures : δ → UInt64
  availFeatures : δ → UInt64
  setAckedFeatures : (ackedFeatures : UInt64) → δ → Option δ
  queues : δ → List UInt16
  readConfig : (offset : Nat) → (data : List UInt8) → δ → Option (Except Unit (List UInt8))
  writeConfig : (offset : Nat) → (data : List UInt8) → δ → Except Unit Unit × δ
  activate : GuestMemory → List Vring → δ → Option (Except Unit Unit × δ)
  reset : δ → Option (Except Unit Bool × δ)
  setGpuSocket : δ → δ

/-- The calls of the device that changed what it does, in order. -/
inductive DeviceCall
  | setAckedFeatures (ackedFeatures : UInt64)
  | activate (succeeded : Bool)
  | reset
  deriving DecidableEq

/-! ### Messages -/

/-- `VHOST_USER_F_PROTOCOL_FEATURES`. -/
def protocolFeaturesBit : UInt64 := 0x40000000

/-- `1 << VIRTIO_RING_F_EVENT_IDX`. -/
def eventIdxBit : UInt64 := 0x20000000

def maxMemSlots : UInt64 := 509

inductive Message (File : Type)
  | setOwner
  | resetOwner
  | resetDevice
  | getFeatures
  | setFeatures (features : UInt64)
  | memory (msg : MemMessage File)
  | setVringNum (index num : UInt32)
  | setVringAddr (index : UInt32) (descriptor used available : UInt64)
  | setVringBase (index base : UInt32)
  | getVringBase (index : UInt32)
  | setVringKick (index : UInt8) (file : Option Fd)
  | setVringCall (index : UInt8) (file : Option Fd)
  | setVringErr (index : UInt8) (file : Option Fd)
  | getProtocolFeatures
  | setProtocolFeatures (features : UInt64)
  | getQueueNum
  | setVringEnable (index : UInt32) (enable : Bool)
  | getConfig (offset size : UInt32)
  | setConfig (offset : UInt32) (buf : List UInt8)
  | setBackendReqFd
  | setGpuSocket
  | getInflightFd
  | setInflightFd
  | getMaxMemSlots
  | setDeviceStateFd
  | checkDeviceState
  | setLogBase

inductive Reply
  | ok
  | u64 (value : UInt64)
  | vringState (index num : UInt32)
  | config (data : List UInt8)
  deriving DecidableEq

/-- The errors of all messages; those of the messages about memory are a `VhostUserError`. -/
inductive RequestError
  | vhostUser (e : VhostUserError)
  | invalidOperation (text : String)
  | invalidParam
  | inactiveFeature (features : UInt64)
  | backendInternalError
  deriving DecidableEq

/-- What the kernel and the guest memory answer during one message: the results of `update_epolls`
by the number of the call, the used index that is found in a used ring, and whether `set_log_base`
can map its file and make its bitmaps. -/
structure Env where
  updateEpolls : Nat → Bool
  usedIdx : GuestMemory → UInt64 → Option UInt16
  setLogBase : Bool

/-! ### The handler -/

structure VhostUserHandler (δ : Type) where
  device : δ
  deviceActivated : Bool
  requestedQueues : List UInt16
  (owned featuresAcked : Bool)
  (ackedFeatures ackedProtocolFeatures : UInt64)
  memTable : MemTable
  vrings : List Vring
  calls : List DeviceCall

/-- The result of a message, with the handler after it. -/
abbrev Outcome (δ : Type) := Option (Except RequestError Reply × VhostUserHandler δ)

def newVrings : List UInt16 → Except VirtQueError (List Vring)
  | [] => .ok []
  | maxSize :: rest =>
    match Vring.new maxSize with
    | .error e => .error e
    | .ok vring =>
      match newVrings rest with
      | .error e => .error e
      | .ok vrings => .ok (vring :: vrings)

/-- The loop of `reset_device`, from the ring with the number `k`. -/
def stopVrings (env : Env) : (k : Nat) → List Vring → Option (List Vring)
  | _, [] => some []
  | k, vring :: rest =>
    match (vring.setEnabled false).stop (env.updateEpolls k) with
    | none => none
    | some vring =>
      match stopVrings env (k + 1) rest with
      | none => none
      | some vrings => some (vring :: vrings)

namespace VhostUserHandler

variable {δ File : Type} (vm : VmMemory File) (dev : VhostUserDevice δ) (env : Env)

def new (device : δ) : Except VirtQueError (VhostUserHandler δ) :=
  match newVrings (dev.queues device) with
  | .error e => .error e
  | .ok vrings => .ok
    { device := device, deviceActivated := false, requestedQueues := dev.queues device,
      owned := false, featuresAcked := false, ackedFeatures := 0, ackedProtocolFeatures := 0,
      memTable := .new, vrings := vrings, calls := [] }

variable (h : VhostUserHandler δ)

/-- The rings after the one at `index` has changed. -/
def setVring (index : Nat) (vring : Vring) : VhostUserHandler δ :=
  { h with vrings := h.vrings.set index vring }

def vmmVaToGpa (vmmVa : UInt64) : Option (Except RequestError UInt64) :=
  match h.memTable.vmmVaToGpa vmmVa.toNat with
  | none => none
  | some (.error .missingMemoryMapping) => some (.error (.vhostUser .reqHandlerError))
  | some (.ok gpa) => some (.ok (.ofNat gpa))

/-- `device.activate`, with its error as that of the message. -/
def activateDevice : Outcome δ :=
  match dev.activate h.memTable.atomicMem h.vrings h.device with
  | none => none
  | some (.ok (), device) =>
    some (.ok .ok, { h with device := device, calls := h.calls ++ [.activate true] })
  | some (.error (), device) =>
    some (.error .backendInternalError,
      { h with device := device, calls := h.calls ++ [.activate false] })

def initializeVring (index : Nat) (updateEpolls : Bool) : Outcome δ :=
  match h.vrings[index]? with
  | none => none
  | some vring =>
    if ! vring.queue.ready && vring.hasKickEvent then
      match vring.start updateEpolls with
      | (false, _) => none
      | (true, vring) =>
        let h := h.setVring index vring
        if ! h.deviceActivated && h.memTable.memoryUpdated then
          activateDevice dev { h with deviceActivated := true }
        else some (.ok .ok, h)
    else some (.ok .ok, h)

def setOwner : Outcome δ :=
  if h.owned then some (.error (.invalidOperation "already claimed"), h)
  else some (.ok .ok, { h with owned := true })

def resetOwner : Outcome δ :=
  some (.ok .ok, { h with
    owned := false, featuresAcked := false, ackedFeatures := 0, ackedProtocolFeatures := 0 })

def resetDevice : Outcome δ :=
  match stopVrings env 0 h.vrings with
  | none => none
  | some vrings =>
    match dev.reset h.device with
    | none => none
    | some (.error (), _) => none
    | some (.ok _, device) =>
      some (.ok .ok, { h with
        vrings := vrings, featuresAcked := false, ackedFeatures := 0, device := device
        calls := h.calls ++ [.reset] })

/-- What `set_features` does to each ring. -/
def ringFeatures (features : UInt64) (vring : Vring) : Vring :=
  let vring := if features &&& protocolFeaturesBit = 0 then vring.setEnabled true else vring
  { vring with queue := vring.queue.setEventIdx (features &&& eventIdxBit ≠ 0) }

def setFeatures (features : UInt64) : Outcome δ :=
  if features &&& ~~~ dev.availFeatures h.device ≠ 0 then some (.error .invalidParam, h)
  else
    match dev.setAckedFeatures features h.device with
    | none => none
    | some device =>
      some (.ok .ok, { h with
        ackedFeatures := features, featuresAcked := true
        vrings := h.vrings.map (ringFeatures features), device := device
        calls := h.calls ++ [.setAckedFeatures features] })

def memory (msg : MemMessage File) : Outcome δ :=
  match h.memTable.handle vm msg with
  | (.error e, memTable) => some (.error (.vhostUser e), { h with memTable := memTable })
  | (.ok (), memTable) => some (.ok .ok, { h with memTable := memTable })

def setVringNum (index num : UInt32) : Outcome δ :=
  match h.vrings[index.toNat]? with
  | none => some (.error .invalidParam, h)
  | some vring =>
    match h.requestedQueues[index.toNat]? with
    | none => none
    | some maxSize =>
      if num = 0 ∨ num > maxSize.toUInt32 then some (.error .invalidParam, h)
      else
        some (.ok .ok, h.setVring index.toNat { vring with queue := vring.queue.setSize num.toUInt16 })

/-- The three translations of `set_vring_addr`, in its order. -/
def ringAddresses (descriptor used available : UInt64) :
    Option (Except RequestError (UInt64 × UInt64 × UInt64)) :=
  match h.vmmVaToGpa descriptor with
  | none => none
  | some (.error e) => some (.error e)
  | some (.ok descTable) =>
    match h.vmmVaToGpa available with
    | none => none
    | some (.error e) => some (.error e)
    | some (.ok availRing) =>
      match h.vmmVaToGpa used with
      | none => none
      | some (.error e) => some (.error e)
      | some (.ok usedRing) => some (.ok (descTable, availRing, usedRing))

def setVringAddr (index : UInt32) (descriptor used available : UInt64) : Outcome δ :=
  if h.memTable.mappings = [] then some (.error .invalidParam, h)
  else
    match h.ringAddresses descriptor used available with
    | none => none
    | some (.error e) => some (.error e, h)
    | some (.ok (descTable, availRing, usedRing)) =>
      match h.vrings[index.toNat]? with
      | none => some (.error .invalidParam, h)
      | some vring =>
        match vring.setQueueInfo descTable availRing usedRing with
        | (.error _, vring) => some (.error .invalidParam, h.setVring index.toNat vring)
        | (.ok (), vring) =>
          match env.usedIdx h.memTable.atomicMem vring.queue.usedRing with
          | none => some (.error .backendInternalError, h.setVring index.toNat vring)
          | some idx =>
            some (.ok .ok,
              h.setVring index.toNat { vring with queue := vring.queue.setNextUsed idx })

def setVringBase (index base : UInt32) : Outcome δ :=
  match h.vrings[index.toNat]? with
  | none => some (.error .invalidParam, h)
  | some vring =>
    some (.ok .ok,
      h.setVring index.toNat { vring with queue := vring.queue.setNextAvail base.toUInt16 })

def getVringBase (index : UInt32) : Outcome δ :=
  match h.vrings[index.toNat]? with
  | none => some (.error .invalidParam, h)
  | some vring =>
    match vring.stop (env.updateEpolls 0) with
    | none => none
    | some vring =>
      let nextAvail := vring.queue.nextAvail
      match vring.setKick none (env.updateEpolls 1) with
      | (false, _) => none
      | (true, vring) =>
        some (.ok (.vringState index nextAvail.toUInt32),
          h.setVring index.toNat (vring.setCall none))

def setVringKick (index : UInt8) (file : Option Fd) : Outcome δ :=
  match h.vrings[index.toNat]? with
  | none => some (.error .invalidParam, h)
  | some vring =>
    match vring.setKick file (env.updateEpolls 0) with
    | (false, _) => none
    | (true, vring) => (h.setVring index.toNat vring).initializeVring dev index.toNat (env.updateEpolls 1)

def setVringCall (index : UInt8) (file : Option Fd) : Outcome δ :=
  match h.vrings[index.toNat]? with
  | none => some (.error .invalidParam, h)
  | some vring =>
    (h.setVring index.toNat (vring.setCall file)).initializeVring dev index.toNat (env.updateEpolls 0)

def setVringErr (index : UInt8) (file : Option Fd) : Outcome δ :=
  match h.vrings[index.toNat]? with
  | none => some (.error .invalidParam, h)
  | some vring => some (.ok .ok, h.setVring index.toNat (vring.setErr file))

def setProtocolFeatures (features : UInt64) : Outcome δ :=
  some (.ok .ok, { h with ackedProtocolFeatures := features })

def checkFeature (feat : UInt64) : Except RequestError Unit :=
  if h.ackedFeatures &&& feat ≠ 0 then .ok () else .error (.inactiveFeature feat)

def setVringEnable (index : UInt32) (enable : Bool) : Outcome δ :=
  match h.checkFeature protocolFeaturesBit with
  | .error e => some (.error e, h)
  | .ok () =>
    match h.vrings[index.toNat]? with
    | none => some (.error .invalidParam, h)
    | some vring => some (.ok .ok, h.setVring index.toNat (vring.setEnabled enable))

def getConfig (offset size : UInt32) : Outcome δ :=
  match dev.readConfig offset.toNat (List.replicate size.toNat 0) h.device with
  | none => none
  | some (.error ()) => some (.error .backendInternalError, h)
  | some (.ok data) => some (.ok (.config data), h)

def setConfig (offset : UInt32) (buf : List UInt8) : Outcome δ :=
  match dev.writeConfig offset.toNat buf h.device with
  | (.error (), device) => some (.error .backendInternalError, { h with device := device })
  | (.ok (), device) => some (.ok .ok, { h with device := device })

def setLogBase : Outcome δ :=
  if env.setLogBase then some (.ok .ok, h) else some (.error (.vhostUser .reqHandlerError), h)

def handle : Message File → Outcome δ
  | .setOwner => h.setOwner
  | .resetOwner => h.resetOwner
  | .resetDevice => h.resetDevice dev env
  | .getFeatures => some (.ok (.u64 (dev.availFeatures h.device)), h)
  | .setFeatures features => h.setFeatures dev features
  | .memory msg => h.memory vm msg
  | .setVringNum index num => h.setVringNum index num
  | .setVringAddr index descriptor used available => h.setVringAddr env index descriptor used available
  | .setVringBase index base => h.setVringBase index base
  | .getVringBase index => h.getVringBase env index
  | .setVringKick index file => h.setVringKick dev env index file
  | .setVringCall index file => h.setVringCall dev env index file
  | .setVringErr index file => h.setVringErr index file
  | .getProtocolFeatures => some (.ok (.u64 (dev.protocolFeatures h.device)), h)
  | .setProtocolFeatures features => h.setProtocolFeatures features
  | .getQueueNum => some (.ok (.u64 (.ofNat h.requestedQueues.length)), h)
  | .setVringEnable index enable => h.setVringEnable index enable
  | .getConfig offset size => h.getConfig dev offset size
  | .setConfig offset buf => h.setConfig dev offset buf
  | .setBackendReqFd => some (.ok .ok, h)
  | .setGpuSocket => some (.ok .ok, { h with device := dev.setGpuSocket h.device })
  | .getInflightFd => some (.error (.invalidOperation "not supported"), h)
  | .setInflightFd => some (.error (.invalidOperation "not supported"), h)
  | .getMaxMemSlots => some (.ok (.u64 maxMemSlots), h)
  | .setDeviceStateFd => none
  | .checkDeviceState => none
  | .setLogBase => h.setLogBase env

/-- A message that returns, whatever its result. -/
def step (h : VhostUserHandler δ) (a : Message File × Env) : Option (VhostUserHandler δ) :=
  (h.handle vm dev a.2 a.1).map Prod.snd

/-! ### Messages for one ring -/

/-- The messages that change one ring at most, or only read. -/
def OneRing : Message File → Prop
  | .setVringNum .. | .setVringAddr .. | .setVringBase .. | .getVringBase _ | .setVringErr ..
  | .setVringEnable .. | .getFeatures | .getProtocolFeatures | .getQueueNum | .getConfig ..
  | .setBackendReqFd | .getInflightFd | .setInflightFd | .getMaxMemSlots | .setDeviceStateFd
  | .checkDeviceState | .setLogBase => True
  | _ => False

/-- One ring has changed at most, and it was not started by that. -/
inductive RingChange (h : VhostUserHandler δ) : VhostUserHandler δ → Prop
  | refl : RingChange h h
  | setVring {index vring vring'} (hget : h.vrings[index]? = some vring)
      (hready : vring'.isStarted = true → vring.isStarted = true) :
      RingChange h (h.setVring index vring')

variable {vm dev env h} {t : VhostUserHandler δ} {r : Except RequestError Reply}

/-- A message for one ring, which is refused when there is no such ring. -/
theorem ringChange_of_ring {index : Nat} {onRing : Vring → Outcome δ}
    (hring : ∀ vring, h.vrings[index]? = some vring → onRing vring = some (r, t) → RingChange h t)
    (ht : (match h.vrings[index]? with
      | none => some (.error .invalidParam, h)
      | some vring => onRing vring) = some (r, t)) : RingChange h t := by
  split at ht
  case h_1 => cases ht; exact .refl
  case h_2 vring hget => exact hring vring hget ht

theorem ringChange_setVringAddr {index : UInt32} {descriptor used available : UInt64}
    (ht : h.setVringAddr env index descriptor used available = some (r, t)) : RingChange h t := by
  unfold setVringAddr at ht
  split at ht
  case isTrue => cases ht; exact .refl
  case isFalse =>
    split at ht
    case h_1 => cases ht
    case h_2 => cases ht; exact .refl
    case h_3 descTable availRing usedRing _ =>
      refine ringChange_of_ring (fun vring hget ht => ?_) ht
      have hinfo := vring.isStarted_setQueueInfo descTable availRing usedRing
      split at ht
      case h_1 vring' hset =>
        rw [hset] at hinfo
        cases ht
        exact .setVring hget fun h => hinfo.symm.trans h
      case h_2 vring' hset =>
        rw [hset] at hinfo
        split at ht
        case h_1 => cases ht; exact .setVring hget fun h => hinfo.symm.trans h
        case h_2 => cases ht; exact .setVring hget fun h => hinfo.symm.trans h

theorem ringChange_getVringBase {index : UInt32} (ht : h.getVringBase env index = some (r, t)) :
    RingChange h t := by
  refine ringChange_of_ring (fun vring hget ht => ?_) ht
  split at ht
  case h_1 => cases ht
  case h_2 stopped hstop =>
    have hstopped := Vring.isStarted_stop hstop
    dsimp only at ht
    split at ht
    case h_1 => cases ht
    case h_2 vring' hkick =>
      have hvring' : vring'.isStarted = stopped.isStarted := by
        rw [← Vring.isStarted_setKick stopped none (env.updateEpolls 1), hkick]
      cases ht
      apply RingChange.setVring hget
      rw [Vring.isStarted_setCall, hvring', hstopped]
      exact nofun

theorem ringChange_setVringNum {index num : UInt32} (ht : h.setVringNum index num = some (r, t)) :
    RingChange h t := by
  refine ringChange_of_ring (fun vring hget ht => ?_) ht
  split at ht
  case h_1 => cases ht
  case h_2 =>
    split at ht
    case isTrue => cases ht; exact .refl
    case isFalse =>
      cases ht
      apply RingChange.setVring hget
      unfold Vring.isStarted
      rw [Queue.ready_setSize]
      exact id

theorem ringChange_setVringEnable {index : UInt32} {enable : Bool}
    (ht : h.setVringEnable index enable = some (r, t)) : RingChange h t := by
  unfold setVringEnable at ht
  split at ht
  case h_1 => cases ht; exact .refl
  case h_2 =>
    refine ringChange_of_ring (fun vring hget ht => ?_) ht
    cases ht
    exact .setVring hget id

theorem ringChange_of_handle {msg : Message File} (ht : h.handle vm dev env msg = some (r, t))
    (hmsg : OneRing msg) : RingChange h t := by
  cases msg with
  | setVringAddr index descriptor used available => exact ringChange_setVringAddr ht
  | getVringBase index => exact ringChange_getVringBase ht
  | setVringNum index num => exact ringChange_setVringNum ht
  | setVringEnable index enable => exact ringChange_setVringEnable ht
  | setVringBase index base =>
    refine ringChange_of_ring (fun vring hget ht => ?_) ht
    cases ht
    exact .setVring hget id
  | setVringErr index file =>
    refine ringChange_of_ring (fun vring hget ht => ?_) ht
    cases ht
    exact .setVring hget id
  | getConfig offset size =>
    unfold handle getConfig at ht
    dsimp only at ht
    split at ht <;> cases ht <;> exact .refl
  | setLogBase =>
    unfold handle setLogBase at ht
    dsimp only at ht
    split at ht <;> cases ht <;> exact .refl
  | setDeviceStateFd | checkDeviceState => cases ht
  | getFeatures | getProtocolFeatures | getQueueNum | setBackendReqFd | getInflightFd | setInflightFd
  | getMaxMemSlots =>
    cases ht
    exact .refl
  | setOwner | resetOwner | resetDevice | setFeatures | memory | setVringKick | setVringCall
  | setProtocolFeatures | setConfig | setGpuSocket => cases hmsg

end VhostUserHandler

end VirtioPoc.VhostUser
