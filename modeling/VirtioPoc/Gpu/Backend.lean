import VirtioPoc.Gpu.Device
import VirtioPoc.VhostUser.Backend
import VirtioPoc.VhostUser.ActivationFlag
import VirtioPoc.VhostUser.RingState

/-!
# The GPU behind the handler

`VhostUserGpuBackend` of `vhost-gpu`: the GPU device as an implementer of the
vhost-user trait.

The handler activates the device once at most, so that the GPU backend has to be
there when that happens, and a worker that was told to quit is never replaced.
`worker_iff` says after which messages a worker is running.
-/

namespace VirtioPoc.Gpu

open Base VhostUser

variable {β File : Type}

/-- What is outside of the device: the answers of the system at an activation, whether the worker obeys
when it is told to quit, and the GPU backend that comes with a message. -/
structure Outside (β : Type) where
  os : GuestMemory → List Vring → GpuDevice β → Os
  obeys : GpuDevice β → Bool
  gpuBackend : GpuDevice β → β

/-- The GPU as a virtio device. -/
def gpuDevice (out : Outside β) : VirtioDevice (GpuDevice β) where
  availFeatures _ := GpuDevice.availFeatures
  ackedFeatures device := device.ackedFeatures
  setAckedFeatures ackedFeatures device := device.setAckedFeatures ackedFeatures
  queues _ := GpuDevice.queues
  readConfig offset data device :=
    (device.readConfig offset data).map fun result => result.mapError fun _ => ()
  writeConfig offset data device := ((GpuDevice.writeConfig offset data).mapError fun _ => (), device)
  activate mem vrings device :=
    (device.activate (out.os mem vrings device) fun index => vrings[index]?).map fun result =>
      (result.1.mapError fun _ => (), result.2)
  reset device := device.reset (out.obeys device)

/-- `VhostUserGpuBackend`, with `MQ`, `CONFIG`, `REPLY_ACK` and `BACKEND_SEND_FD`. -/
def vhostUserGpuBackend (out : Outside β) :
    VhostUserDeviceImplementer (GpuDevice β) (GpuDevice β) where
  device := gpuDevice out
  asRef device := device
  asMut device _ := device
  asRef_asMut _ _ := rfl
  protocolFeatures _ := 0x609
  setGpuSocket device := device.setGpuSocket (out.gpuBackend device)

/-- A message to the GPU. -/
abbrev gpuStep (vm : VmMemory File) (out : Outside β) :
    VhostUserHandler (GpuDevice β) → Message File × Env → Option (VhostUserHandler (GpuDevice β)) :=
  VhostUserHandler.step vm (vhostUserGpuBackend out).toDevice

section

variable {out : Outside β} {device device' : GpuDevice β}

theorem activate_eq_some {mem : GuestMemory} {vrings : List Vring} {result : Except Unit Unit}
    (h : (vhostUserGpuBackend out).toDevice.activate mem vrings device = some (result, device')) :
    ∃ result', device.activate (out.os mem vrings device) (fun index => vrings[index]?) =
      some (result', device') := by
  obtain ⟨⟨result₁, device₁⟩, hmapped, hpair⟩ := Option.map_eq_some_iff.mp h
  obtain ⟨⟨result₂, device₂⟩, hactivate, hpair'⟩ := Option.map_eq_some_iff.mp hmapped
  cases hpair'
  cases hpair
  exact ⟨result₂, hactivate⟩

theorem stop_of_reset {supported : Bool}
    (h : (vhostUserGpuBackend out).toDevice.reset device = some (.ok supported, device')) :
    device.stop (out.obeys device) = some device' := by
  obtain ⟨⟨result, device₁⟩, hreset, hpair⟩ := Option.map_eq_some_iff.mp h
  obtain ⟨device₂, hstop, hpair'⟩ := Option.map_eq_some_iff.mp hreset
  cases hpair'
  cases hpair
  exact hstop

end

/-! ### What has happened -/

section

variable (vm : VmMemory File) (out : Outside β) (h : VhostUserHandler (GpuDevice β))

/-- The message activates the device, in the state that the messages before it have led to. -/
def Activates (before : List (Message File × Env)) (a : Message File × Env) : Prop :=
  ∃ s, run (gpuStep vm out) h before = some s ∧ (s.activation a.1).isSome

/-- It starts a worker: the GPU backend has come before it, and nothing fails. -/
def StartsWorker (before : List (Message File × Env)) (a : Message File × Env) : Prop :=
  ∃ s vrings, run (gpuStep vm out) h before = some s ∧ s.activation a.1 = some vrings ∧
    .setGpuSocket ∈ before.map Prod.fst ∧
    let os := out.os s.memTable.atomicMem vrings s.device
    os.tryClone = true ∧ os.rutabagaNew = true ∧ os.workerNew = true

end

section

variable {vm : VmMemory File} {out : Outside β} {h s t : VhostUserHandler (GpuDevice β)}
  {before as : List (Message File × Env)} {a : Message File × Env}

/-- What is known after the messages `as`.  Until the device is activated, it has no worker, and its exit
event is not signalled. -/
structure WorkerHistory (vm : VmMemory File) (out : Outside β) (h : VhostUserHandler (GpuDevice β))
    (as : List (Message File × Env)) (t : VhostUserHandler (GpuDevice β)) : Prop where
  twoRings : t.vrings.length = 2
  gpuBackend : t.deviceActivated = false →
    (t.device.gpuBackend.isSome ↔ .setGpuSocket ∈ as.map Prod.fst)
  idle : t.deviceActivated = false → t.device.workerThread = none ∧ t.device.exitEvent = 0
  worker : (∃ n, t.device.workerThread = some (.running n)) ↔
    Since (StartsWorker vm out h) (fun b => b.1 ≠ .resetDevice) as
  notSignalled : ∀ n, t.device.workerThread = some (.running n) → n = 0
  activated : Once (Activates vm out h) as → t.deviceActivated = true
  atMostOnce : AtMostOnce (Activates vm out h) as

/-- A message that neither activates nor resets the device. -/
theorem WorkerHistory.same (hw : WorkerHistory vm out h as s)
    (hrun : run (gpuStep vm out) h as = some s) (hidle : s.activation a.1 = none)
    (hreset : a.1 ≠ .resetDevice) (hlength : t.vrings.length = s.vrings.length)
    (hflag : t.deviceActivated = s.deviceActivated)
    (hbackend : t.device.gpuBackend.isSome ↔ a.1 = .setGpuSocket ∨ s.device.gpuBackend.isSome)
    (hthread : t.device.workerThread = s.device.workerThread)
    (hexit : t.device.exitEvent = s.device.exitEvent) : WorkerHistory vm out h (as ++ [a]) t := by
  have hstarts : ¬ StartsWorker vm out h as a := by
    rintro ⟨s', vrings, hrun', hactivation, -⟩
    cases hrun.symm.trans hrun'
    cases hidle.symm.trans hactivation
  have hactivates : ¬ Activates vm out h as a := by
    rintro ⟨s', hrun', hactivation⟩
    cases hrun.symm.trans hrun'
    rw [hidle] at hactivation
    cases hactivation
  refine ⟨hlength.trans hw.twoRings, fun hf => ?_, fun hf => ?_, ?_, ?_, ?_, ?_⟩
  · rw [hbackend, hw.gpuBackend (hflag ▸ hf), List.map_append, List.mem_append, List.map_singleton,
      List.mem_singleton, or_comm, eq_comm (a := a.1)]
  · rw [hthread, hexit]
    exact hw.idle (hflag ▸ hf)
  · rw [hthread, hw.worker, since_concat, or_iff_right hstarts, and_iff_right hreset]
  · rw [hthread]
    exact hw.notSignalled
  · rw [once_concat, or_iff_right hactivates, hflag]
    exact hw.activated
  · exact hw.atMostOnce.concat fun h => absurd h hactivates

theorem length_of_startActivation {index : Nat} {vrings : List Vring}
    (hstart : s.startActivation index = some vrings) : vrings.length = s.vrings.length := by
  unfold VhostUserHandler.startActivation at hstart
  split at hstart
  case h_1 => cases hstart
  case h_2 =>
    split at hstart
    case isTrue => cases hstart; exact List.length_set
    case isFalse => cases hstart

theorem length_of_activation {msg : Message File} {vrings : List Vring}
    (hactivation : s.activation msg = some vrings) : vrings.length = s.vrings.length := by
  cases msg with
  | setVringKick index file | setVringCall index file =>
    unfold VhostUserHandler.activation at hactivation
    dsimp only at hactivation
    split at hactivation
    case h_1 => cases hactivation
    case h_2 => exact (length_of_startActivation hactivation).trans List.length_set
  | _ => cases hactivation

/-- **The activation**: it fails before it has taken anything, or it spawns a thread. -/
theorem WorkerHistory.activate (hw : WorkerHistory vm out h as s)
    (hrun : run (gpuStep vm out) h as = some s) {vrings : List Vring} {result : Except Unit Unit}
    (hactivation : s.activation a.1 = some vrings)
    (hcall : (vhostUserGpuBackend out).toDevice.activate s.memTable.atomicMem vrings s.device =
      some (result, t.device))
    (hlength : t.vrings.length = s.vrings.length) (hflag : t.deviceActivated = true) :
    WorkerHistory vm out h (as ++ [a]) t := by
  have hidle : s.deviceActivated = false := VhostUserHandler.activation_eq_some hactivation
  obtain ⟨hnone, hzero⟩ := hw.idle hidle
  have hnever : ¬ Since (StartsWorker vm out h) (fun b => b.1 ≠ .resetDevice) as := by
    rw [← hw.worker, hnone]
    exact nofun
  have hrings : vrings.length = 2 := (length_of_activation hactivation).trans hw.twoRings
  have hstarts : StartsWorker vm out h as a ↔ .setGpuSocket ∈ as.map Prod.fst ∧
      let os := out.os s.memTable.atomicMem vrings s.device
      os.tryClone = true ∧ os.rutabagaNew = true ∧ os.workerNew = true := by
    constructor
    · rintro ⟨s', vrings', hrun', hactivation', hrest⟩
      cases hrun.symm.trans hrun'
      cases hactivation.symm.trans hactivation'
      exact hrest
    · exact fun hrest => ⟨s, vrings, hrun, hactivation, hrest⟩
  have hworker {n : Nat} : t.device.workerThread = some (.running n) ↔
      StartsWorker vm out h as a ∧ n = 0 := by
    obtain ⟨result', hactivate⟩ := activate_eq_some hcall
    have hqueues : (vrings[controlQueue]?).isSome ∧ (vrings[cursorQueue]?).isSome := by
      simp [controlQueue, cursorQueue, hrings]
    rw [hstarts, ← hw.gpuBackend hidle]
    rcases s.device.activate_cases (out.os s.memTable.atomicMem vrings s.device)
        (fun index => vrings[index]?) with ⟨⟨e, he⟩, hnot⟩ | ⟨hspawn, htakes, hbackend⟩
    · have hsame : s.device = t.device :=
        congrArg Prod.snd (Option.some.inj (he.symm.trans hactivate))
      rw [← hsame, hnone]
      exact iff_of_false nofun fun h => hnot ⟨⟨h.1.2.1, hqueues⟩, h.1.1⟩
    · rw [GpuDevice.running_iff_of_spawnWorker (hspawn.symm.trans hactivate), hzero]
      constructor
      · rintro ⟨⟨hrutabaga, hmade⟩, hn⟩
        exact ⟨⟨hbackend, htakes.1, hrutabaga, hmade⟩, hn.symm⟩
      · rintro ⟨⟨-, -, hrutabaga, hmade⟩, hn⟩
        exact ⟨⟨hrutabaga, hmade⟩, hn.symm⟩
  have hactive : ¬ t.deviceActivated = false := by
    rw [hflag]
    exact nofun
  refine ⟨hlength.trans hw.twoRings, fun hf => absurd hf hactive, fun hf => absurd hf hactive, ?_,
    fun n hn => (hworker.mp hn).2, fun _ => hflag, hw.atMostOnce.concat fun _ honce => ?_⟩
  · rw [since_concat, or_iff_left fun h => hnever h.2]
    constructor
    · rintro ⟨n, hn⟩
      exact (hworker.mp hn).1
    · exact fun hstarts => ⟨0, hworker.mpr ⟨hstarts, rfl⟩⟩
  · -- the flag would have been set by the earlier one
    exact nomatch hidle.symm.trans (hw.activated honce)

/-- After `reset_device` there is no worker. -/
theorem WorkerHistory.reset (hw : WorkerHistory vm out h as s) {env : Env} {supported : Bool}
    (hcall : (vhostUserGpuBackend out).toDevice.reset s.device = some (.ok supported, t.device))
    (hlength : t.vrings.length = s.vrings.length) (hflag : t.deviceActivated = s.deviceActivated) :
    WorkerHistory vm out h (as ++ [(.resetDevice, env)]) t := by
  obtain ⟨hthread, hbackend, hexit⟩ := GpuDevice.stop_cases (stop_of_reset hcall)
  have hactivates : ¬ Activates vm out h as (.resetDevice, env) := by
    rintro ⟨s', -, hactivation⟩
    cases hactivation
  refine ⟨hlength.trans hw.twoRings, fun hf => ?_, fun hf => ?_, ?_, ?_, ?_, ?_⟩
  · rw [hbackend, hw.gpuBackend (hflag ▸ hf), List.map_append, List.mem_append]
    exact (or_iff_left (by simp)).symm
  · obtain ⟨hnone, hzero⟩ := hw.idle (hflag ▸ hf)
    rw [hthread, hexit, hnone]
    exact ⟨rfl, hzero⟩
  · rw [hthread, since_concat]
    refine iff_of_false nofun ?_
    rintro (⟨s', vrings, -, hactivation, -⟩ | ⟨hnot, -⟩)
    · cases hactivation
    · exact hnot rfl
  · rw [hthread]
    exact nofun
  · rw [once_concat, or_iff_right hactivates, hflag]
    exact hw.activated
  · exact hw.atMostOnce.concat fun h => absurd h hactivates

/-- **Step lemma.** -/
theorem WorkerHistory.step (hw : WorkerHistory vm out h as s)
    (hrun : run (gpuStep vm out) h as = some s) (hstep : gpuStep vm out s a = some t) :
    WorkerHistory vm out h (as ++ [a]) t := by
  obtain ⟨⟨r, t'⟩, ht, rfl⟩ := Option.map_eq_some_iff.mp hstep
  obtain ⟨msg, env⟩ := a
  have hlength := VhostUserHandler.length_vrings_handle ht
  by_cases hsocket : msg = .setGpuSocket
  · subst hsocket
    cases ht
    exact hw.same hrun rfl nofun rfl rfl (iff_of_true rfl (.inl rfl)) rfl rfl
  · cases VhostUserHandler.deviceEffect_of_handle ht with
    | same hreset _ hidle hsame =>
      refine hw.same hrun hidle hreset hlength hsame.deviceActivated ?_ ?_ ?_
      · rw [hsame.device]
        exact (or_iff_right hsocket).symm
      · rw [hsame.device]
      · rw [hsame.device]
    | resetOwner hdevice hflag =>
      refine hw.same hrun rfl nofun hlength hflag ?_ ?_ ?_
      · rw [hdevice]
        exact (or_iff_right hsocket).symm
      · rw [hdevice]
      · rw [hdevice]
    | setConfig hdevice hflag =>
      have hdevice : t'.device = s.device := hdevice
      refine hw.same hrun rfl nofun hlength hflag ?_ ?_ ?_
      · rw [hdevice]
        exact (or_iff_right hsocket).symm
      · rw [hdevice]
      · rw [hdevice]
    | @setFeatures features _ _ hcall hflag =>
      obtain ⟨-, hdevice⟩ := Option.ite_none_right_eq_some.mp hcall
      have hdevice : t'.device = s.device.setAckedFeatures (features ^^^ protocolFeaturesBit) :=
        (Option.some.inj hdevice).symm
      refine hw.same hrun rfl nofun hlength hflag ?_ ?_ ?_
      · rw [hdevice]
        exact (or_iff_right hsocket).symm
      · rw [hdevice]
        rfl
      · rw [hdevice]
        rfl
    | activate hactivation hcall hflag => exact hw.activate hrun hactivation hcall hlength hflag
    | resetDevice hcall hflag => exact hw.reset hcall hlength hflag
    | setGpuSocket => exact absurd rfl hsocket

theorem workerHistory_new {numCapsets : UInt32}
    (hnew : VhostUserHandler.new (vhostUserGpuBackend out).toDevice (GpuDevice.new numCapsets) = .ok h) :
    WorkerHistory vm out h [] h := by
  cases hnew
  refine ⟨rfl, fun _ => iff_of_false nofun List.not_mem_nil, fun _ => ⟨rfl, rfl⟩,
    iff_of_false ?_ not_since_nil, nofun, fun h => absurd h not_once_nil, atMostOnce_nil⟩
  rintro ⟨n, hn⟩
  cases hn

end

/-- **When a worker runs.**  The GPU device behind the handler has a running worker just when the message
that has activated it came after a GPU backend, the activation did not fail, and no `reset_device`
came since.  The worker was not told to quit from the start, and no second message activates the device,
whatever has become of the first activation. -/
theorem worker_iff {vm : VmMemory File} {out : Outside β} {numCapsets : UInt32}
    {h t : VhostUserHandler (GpuDevice β)}
    (hnew : VhostUserHandler.new (vhostUserGpuBackend out).toDevice (GpuDevice.new numCapsets) = .ok h)
    {as : List (Message File × Env)} (hrun : run (gpuStep vm out) h as = some t) :
    ((∃ n, t.device.workerThread = some (.running n)) ↔
      Since (StartsWorker vm out h) (fun b => b.1 ≠ .resetDevice) as) ∧
    (∀ n, t.device.workerThread = some (.running n) → n = 0) ∧
    AtMostOnce (Activates vm out h) as := by
  have hw : WorkerHistory vm out h as t := run_history (workerHistory_new hnew)
    (fun _ _ _ _ hrun hw hstep => hw.step hrun hstep) as t hrun
  exact ⟨hw.worker, hw.notSignalled, hw.atMostOnce⟩

/-- Nothing fails. -/
def willingOutside : Outside Unit := ⟨fun _ _ _ => GpuDevice.willingOs, fun _ => true, fun _ => ()⟩

/-- The GPU with its two rings, in the handler before the first message. -/
def gpuNew : VhostUserHandler (GpuDevice Unit) :=
  let vring : Vring :=
    { queue := ⟨256, 256, false, 0, 0, 0, 0, 0, false⟩, enabled := false, kick := none, call := none,
      err := none }
  { device := GpuDevice.new 2, deviceActivated := false, requestedQueues := [256, 256], owned := false,
    featuresAcked := false, ackedFeatures := 0, ackedProtocolFeatures := 0, memTable := .new,
    vrings := [vring, vring], calls := [] }

/-- A read behind the end of the configuration panics. -/
example : gpuNew.handle vmMemory (vhostUserGpuBackend willingOutside).toDevice willing
    (.getConfig 17 1) = none := rfl

/-- The backend comes before the ring is started, and the device is reset at the end. -/
def socketFirst : List (Message Bool × Env) :=
  [(.setGpuSocket, willing), (.memory (.setMemTable [lowRegion] [true]), willing),
    (.setVringKick 0 (some 5), willing), (.resetDevice, willing), (.setVringCall 1 none, willing)]

theorem worker_iff_socketFirst :
    ∃ t, run (gpuStep vmMemory willingOutside) gpuNew socketFirst = some t ∧
      ((∃ n, t.device.workerThread = some (.running n)) ↔
        Since (StartsWorker vmMemory willingOutside gpuNew) (fun b => b.1 ≠ .resetDevice)
          socketFirst) := by
  obtain ⟨t, ht⟩ : ∃ t, run (gpuStep vmMemory willingOutside) gpuNew socketFirst = some t := ⟨_, rfl⟩
  have hnew : VhostUserHandler.new (vhostUserGpuBackend willingOutside).toDevice (GpuDevice.new 2) =
      .ok gpuNew := rfl
  exact ⟨t, ht, (worker_iff hnew ht).1⟩

end VirtioPoc.Gpu
