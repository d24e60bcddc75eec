import VirtioPoc.Base.History
import VirtioPoc.Gpu.Scanouts
import VirtioPoc.VhostUser.ConfigRead

/-!
# The GPU device

`GpuDevice` of `device.rs`.  `activate` takes the GPU backend out of the device,
spawns a thread and waits until the worker in it is made; `stop` writes to the
exit event and joins the thread.

The exit event is made once, with the device.  Its clones have one counter and
nothing reads it, so that a worker that is made after another one was stopped
finds it signalled.  The counter is taken not to overflow.

`serves_iff` says of each activation in a sequence of calls whether a worker
serves the queues after it.
-/

namespace VirtioPoc.Gpu

open Base
open VhostUser (VirtioGpuConfig gpuReadConfig)
open ConsoleDevice (removeQueue)

def controlQueue : Nat := 0
def cursorQueue : Nat := 1

/-- What the system answers during an activation: to the clone of the exit event and to the spawn; and
in the thread, whether rutabaga and the worker can be made. -/
structure Os where
  (tryClone spawn rutabagaNew workerNew : Bool)
  deriving DecidableEq

/-- The thread of a `JoinHandle`: it has panicked without a rutabaga, it has returned without a worker,
or it runs, with the counter of the exit event when the worker was made. -/
inductive WorkerThread
  | panicked
  | returned
  | running (exitEvent : Nat)
  deriving DecidableEq

/-- Without the configuration of rutabaga, of which only the number of capsets is read here. -/
structure GpuDevice (β : Type) where
  virtioCfg : VirtioGpuConfig
  ackedFeatures : UInt64
  workerThread : Option WorkerThread
  exitEvent : Nat
  gpuBackend : Option β

inductive ActivateError
  | cloneExitEvent
  | missingControlQueue
  | missingGpuBackend
  | recv
  | workerNew
  deriving DecidableEq

variable {β Q : Type}

namespace GpuDevice

def new (numCapsets : UInt32) : GpuDevice β :=
  { virtioCfg := { eventsRead := 0, eventsClear := 0, numScanouts := .ofNat virtioGpuMaxScanouts,
                   numCapsets := numCapsets }
    ackedFeatures := 0, workerThread := none, exitEvent := 0, gpuBackend := none }

/-- `VERSION_1`, `RING_RESET`, `NOTIFY_ON_EMPTY`, `INDIRECT_DESC`, `EVENT_IDX`, and of the GPU `VIRGL`,
`EDID`, `RESOURCE_BLOB` and `CONTEXT_INIT`. -/
def availFeatures : UInt64 :=
  let bit (n : UInt64) : UInt64 := 1 <<< n
  bit 32 ||| bit 40 ||| bit 24 ||| bit 28 ||| bit 29 ||| bit 0 ||| bit 1 ||| bit 3 ||| bit 4

def queues : List UInt16 := [256, 256]

variable (device : GpuDevice β)

def setGpuSocket (gpuBackend : β) : GpuDevice β := { device with gpuBackend := some gpuBackend }

def setAckedFeatures (ackedFeatures : UInt64) : GpuDevice β :=
  { device with ackedFeatures := ackedFeatures &&& availFeatures }

/-- `none` is the panic of the slice. -/
def readConfig (offset : Nat) (data : List UInt8) : Option (Except String (List UInt8)) :=
  gpuReadConfig (VirtioGpuConfig.layout.toBytes device.virtioCfg) offset data

def writeConfig (_ : Nat) (_ : List UInt8) : Except String Unit := .error "Not supported"

/-- The thread is spawned, and the device waits for the result of its initialization; `none` is the
panic of a spawn that fails. -/
def spawnWorker (os : Os) : Option (Except ActivateError Unit × GpuDevice β) :=
  if ! os.spawn then none
  else if ! os.rutabagaNew then some (.error .recv, { device with workerThread := some .panicked })
  else if ! os.workerNew then
    some (.error .workerNew, { device with workerThread := some .returned })
  else some (.ok (), { device with workerThread := some (.running device.exitEvent) })

def activate (os : Os) (queues : Nat → Option Q) :
    Option (Except ActivateError Unit × GpuDevice β) :=
  if ! os.tryClone then some (.error .cloneExitEvent, device)
  else
    match removeQueue queues controlQueue with
    | none => some (.error .missingControlQueue, device)
    | some (_, queues) =>
      match removeQueue queues cursorQueue with
      | none => some (.error .missingControlQueue, device)
      | some _ =>
        match device.gpuBackend with
        | none => some (.error .missingGpuBackend, device)
        | some _ => { device with gpuBackend := none }.spawnWorker os

/-- `obeys` says of a worker that runs whether it returns without an error when it is told to quit.
`none` is the panic of the join. -/
def stop (obeys : Bool) : Option (GpuDevice β) :=
  match device.workerThread with
  | none => some device
  | some thread =>
    let device := { device with workerThread := none, exitEvent := device.exitEvent + 1 }
    match thread with
    | .panicked => none
    | .returned => some device
    | .running _ => if obeys then some device else none

/-- The implementation of the trait. -/
def reset (obeys : Bool) : Option (Except Unit Bool × GpuDevice β) :=
  (device.stop obeys).map fun device => (.ok false, device)

end GpuDevice

/-! ### Sequences of calls -/

namespace GpuDevice

inductive Call (β Q : Type)
  | setGpuSocket (gpuBackend : β)
  | activate (os : Os) (queues : Nat → Option Q)
  | stop (obeys : Bool)
  | reset (obeys : Bool)

/-- A call that returns. -/
def step (device : GpuDevice β) : Call β Q → Option (GpuDevice β)
  | .setGpuSocket gpuBackend => some (device.setGpuSocket gpuBackend)
  | .activate os queues => (device.activate os queues).map Prod.snd
  | .stop obeys => device.stop obeys
  | .reset obeys => (device.reset obeys).map Prod.snd

/-- The activation succeeds, and the exit event of the worker that it starts is not signalled. -/
def Serves (device : GpuDevice β) (os : Os) (queues : Nat → Option Q) : Prop :=
  ∃ device', device.activate os queues = some (.ok (), device') ∧
    device'.workerThread = some (.running 0)

namespace Call

/-- An activation that comes to the GPU backend: the exit event can be cloned, and the two queues are
there. -/
def Takes : Call β Q → Prop
  | .activate os queues => os.tryClone = true ∧ (queues controlQueue).isSome ∧
      (queues cursorQueue).isSome
  | .setGpuSocket _ | .stop _ | .reset _ => False

def IsSetGpuSocket : Call β Q → Prop
  | .setGpuSocket _ => True
  | .activate _ _ | .stop _ | .reset _ => False

def Stops : Call β Q → Prop
  | .stop _ | .reset _ => True
  | .setGpuSocket _ | .activate _ _ => False

end Call

/-- The device was given a GPU backend, and none of the activations since has come to it. -/
def HasSocket (earlier : List (Call β Q)) : Prop :=
  Since (fun _ c => c.IsSetGpuSocket) (fun c => ¬ c.Takes) earlier

/-- The call spawns a thread. -/
def Spawns (earlier : List (Call β Q)) (c : Call β Q) : Prop := c.Takes ∧ HasSocket earlier

/-- A thread was spawned, and the device was not stopped since. -/
def HasThread (earlier : List (Call β Q)) : Prop := Since Spawns (fun c => ¬ c.Stops) earlier

/-- The device was stopped while it had a thread. -/
def StoppedThread (earlier : List (Call β Q)) : Prop :=
  Once (fun before c => c.Stops ∧ HasThread before) earlier

/-- What the device is after the `earlier` calls. -/
structure After (earlier : List (Call β Q)) (device : GpuDevice β) : Prop where
  gpuBackend : device.gpuBackend.isSome ↔ HasSocket earlier
  workerThread : device.workerThread.isSome ↔ HasThread earlier
  exitEvent : device.exitEvent ≠ 0 ↔ StoppedThread earlier

variable {device device' : GpuDevice β} {os : Os} {queues : Nat → Option Q} {c : Call β Q}
  {earlier : List (Call β Q)}

theorem hasSocket_concat :
    HasSocket (earlier ++ [c]) ↔ c.IsSetGpuSocket ∨ ¬ c.Takes ∧ HasSocket earlier := since_concat

theorem hasThread_concat :
    HasThread (earlier ++ [c]) ↔ Spawns earlier c ∨ ¬ c.Stops ∧ HasThread earlier := since_concat

theorem stoppedThread_concat :
    StoppedThread (earlier ++ [c]) ↔ c.Stops ∧ HasThread earlier ∨ StoppedThread earlier :=
  once_concat

theorem removeQueue_of_isSome {queues : Nat → Option Q} {i : Nat} (h : (queues i).isSome) :
    ∃ queue, removeQueue queues i = some (queue, Function.update queues i none) := by
  obtain ⟨queue, hqueue⟩ := Option.isSome_iff_exists.mp h
  exact ⟨queue, by rw [removeQueue, hqueue]⟩

theorem removeQueue_of_not_isSome {queues : Nat → Option Q} {i : Nat} (h : ¬ (queues i).isSome) :
    removeQueue queues i = none := by
  rw [removeQueue, Option.not_isSome_iff_eq_none.mp h]

/-- **What an activation does**: it fails and changes nothing, or it takes the GPU backend and spawns a
thread. -/
theorem activate_cases (device : GpuDevice β) (os : Os) (queues : Nat → Option Q) :
    (∃ e, device.activate os queues = some (.error e, device)) ∧
        ¬ ((.activate os queues : Call β Q).Takes ∧ device.gpuBackend.isSome) ∨
      device.activate os queues = { device with gpuBackend := none }.spawnWorker os ∧
        (.activate os queues : Call β Q).Takes ∧ device.gpuBackend.isSome := by
  unfold activate
  by_cases hclone : os.tryClone = true
  · rw [hclone, Bool.not_true, if_neg Bool.false_ne_true]
    by_cases hcontrol : (queues controlQueue).isSome
    · obtain ⟨control, hremove⟩ := removeQueue_of_isSome hcontrol
      have hrest : Function.update queues controlQueue none cursorQueue = queues cursorQueue :=
        Function.update_of_ne (by decide) ..
      rw [hremove]
      dsimp only
      by_cases hcursor : (queues cursorQueue).isSome
      · obtain ⟨cursor, hremove'⟩ := removeQueue_of_isSome (hrest.symm ▸ hcursor)
        rw [hremove']
        dsimp only
        cases hbackend : device.gpuBackend with
        | none => exact .inl ⟨⟨_, rfl⟩, fun h => nomatch h.2⟩
        | some backend => exact .inr ⟨rfl, ⟨hclone, hcontrol, hcursor⟩, rfl⟩
      · rw [removeQueue_of_not_isSome (hrest.symm ▸ hcursor)]
        exact .inl ⟨⟨_, rfl⟩, fun h => hcursor h.1.2.2⟩
    · rw [removeQueue_of_not_isSome hcontrol]
      exact .inl ⟨⟨_, rfl⟩, fun h => hcontrol h.1.2.1⟩
  · rw [Bool.not_eq_true] at hclone
    rw [hclone, Bool.not_false, if_pos rfl]
    refine .inl ⟨⟨_, rfl⟩, fun h => ?_⟩
    cases hclone.symm.trans h.1.1

/-- However the initialization ends, the device has a thread then. -/
theorem spawnWorker_cases {result : Except ActivateError Unit}
    (h : device.spawnWorker os = some (result, device')) :
    device'.workerThread.isSome ∧ device'.gpuBackend = device.gpuBackend ∧
      device'.exitEvent = device.exitEvent ∧
      (result = .ok () ↔ os.rutabagaNew = true ∧ os.workerNew = true) ∧
      (result = .ok () → device'.workerThread = some (.running device.exitEvent)) := by
  unfold spawnWorker at h
  cases hspawn : os.spawn <;> cases hrutabaga : os.rutabagaNew <;> cases hworker : os.workerNew <;>
    simp only [hspawn, hrutabaga, hworker, Bool.not_true, Bool.not_false, if_true, if_false,
      Bool.false_eq_true, reduceCtorEq] at h <;>
    cases h <;> simp

theorem running_iff_of_spawnWorker {result : Except ActivateError Unit} {n : Nat}
    (h : device.spawnWorker os = some (result, device')) :
    device'.workerThread = some (.running n) ↔
      (os.rutabagaNew = true ∧ os.workerNew = true) ∧ device.exitEvent = n := by
  unfold spawnWorker at h
  cases hspawn : os.spawn <;> cases hrutabaga : os.rutabagaNew <;> cases hworker : os.workerNew <;>
    simp only [hspawn, hrutabaga, hworker, Bool.not_true, Bool.not_false, if_true, if_false,
      Bool.false_eq_true, reduceCtorEq] at h <;>
    cases h <;> simp

/-- A stop that returns leaves no thread, and it has signalled if there was one. -/
theorem stop_cases {obeys : Bool} (h : device.stop obeys = some device') :
    device'.workerThread = none ∧ device'.gpuBackend = device.gpuBackend ∧
      (device'.exitEvent = if device.workerThread.isSome then device.exitEvent + 1
        else device.exitEvent) := by
  unfold stop at h
  split at h
  case h_1 hnone =>
    cases h
    exact ⟨hnone, rfl, by rw [hnone]; rfl⟩
  case h_2 thread hthread =>
    rw [hthread]
    dsimp only at h
    split at h
    case h_1 => cases h
    case h_2 => cases h; exact ⟨rfl, rfl, rfl⟩
    case h_3 =>
      split at h
      case isTrue => cases h; exact ⟨rfl, rfl, rfl⟩
      case isFalse => cases h

theorem after_new (numCapsets : UInt32) : After ([] : List (Call β Q)) (new numCapsets) where
  gpuBackend := iff_of_false nofun not_since_nil
  workerThread := iff_of_false nofun not_since_nil
  exitEvent := iff_of_false (fun h => h rfl) not_once_nil

/-- A call that stops the device. -/
theorem After.stop (ha : After earlier device) {obeys : Bool} (hc : c.Stops) (htakes : ¬ c.Takes)
    (hsocket : ¬ c.IsSetGpuSocket) (hstep : device.stop obeys = some device') :
    After (earlier ++ [c]) device' := by
  obtain ⟨hthread, hbackend, hexit⟩ := stop_cases hstep
  have hspawns : ¬ Spawns earlier c := fun h => htakes h.1
  refine ⟨?_, ?_, ?_⟩
  · rw [hbackend, ha.gpuBackend, hasSocket_concat, or_iff_right hsocket, and_iff_right htakes]
  · rw [hthread, hasThread_concat, or_iff_right hspawns]
    exact iff_of_false nofun fun h => h.1 hc
  · rw [hexit, stoppedThread_concat, and_iff_right hc, ← ha.workerThread]
    cases hold : device.workerThread.isSome with
    | false =>
      simp only [Bool.false_eq_true, if_false, false_or]
      exact ha.exitEvent
    | true => simp

theorem After.activate (ha : After earlier device)
    (hstep : device.step (.activate os queues : Call β Q) = some device') :
    After (earlier ++ [.activate os queues]) device' := by
  have hsocket : ¬ (.activate os queues : Call β Q).IsSetGpuSocket := id
  have hstops : ¬ (.activate os queues : Call β Q).Stops := id
  have hstopped : StoppedThread (earlier ++ [(.activate os queues : Call β Q)]) ↔
      StoppedThread earlier := by
    rw [stoppedThread_concat, or_iff_right fun h => hstops h.1]
  obtain ⟨⟨result, device₁⟩, hout, rfl⟩ := Option.map_eq_some_iff.mp hstep
  rcases device.activate_cases os queues with ⟨⟨e, he⟩, hnot⟩ | ⟨hspawn, htakes, hbackend⟩
  · -- the activation fails before it has taken anything
    cases he.symm.trans hout
    have hspawns : ¬ Spawns earlier (.activate os queues) := by
      rw [Spawns, ← ha.gpuBackend]
      exact hnot
    refine ⟨?_, ?_, ?_⟩
    · rw [hasSocket_concat, or_iff_right hsocket, ha.gpuBackend]
      refine ⟨fun h => ⟨fun ht => hspawns ⟨ht, h⟩, h⟩, And.right⟩
    · rw [hasThread_concat, or_iff_right hspawns, and_iff_right hstops]
      exact ha.workerThread
    · rw [hstopped]
      exact ha.exitEvent
  · obtain ⟨hthread, hnone, hexit, -⟩ := spawnWorker_cases (hspawn.symm.trans hout)
    refine ⟨?_, ?_, ?_⟩
    · rw [hnone, hasSocket_concat, or_iff_right hsocket]
      exact iff_of_false nofun fun h => h.1 htakes
    · rw [hasThread_concat]
      exact iff_of_true hthread (.inl ⟨htakes, ha.gpuBackend.mp hbackend⟩)
    · rw [hstopped, hexit]
      exact ha.exitEvent

/-- **Step lemma.** -/
theorem After.step (ha : After earlier device) (hstep : device.step c = some device') :
    After (earlier ++ [c]) device' := by
  cases c with
  | setGpuSocket gpuBackend =>
    cases hstep
    have hspawns : ¬ Spawns earlier (.setGpuSocket gpuBackend : Call β Q) := fun h => h.1
    refine ⟨?_, ?_, ?_⟩
    · rw [hasSocket_concat]
      exact iff_of_true rfl (.inl trivial)
    · rw [hasThread_concat, or_iff_right hspawns]
      exact ha.workerThread.trans (and_iff_right id).symm
    · rw [stoppedThread_concat]
      exact ha.exitEvent.trans (or_iff_right fun h => h.1).symm
  | activate os queues => exact ha.activate hstep
  | stop obeys => exact ha.stop trivial id id hstep
  | reset obeys =>
    obtain ⟨⟨result, device₁⟩, hreset, rfl⟩ := Option.map_eq_some_iff.mp hstep
    obtain ⟨device₂, hstop, hpair⟩ := Option.map_eq_some_iff.mp hreset
    cases hpair
    exact ha.stop trivial id id hstop

/-- **Which activations serve.**  After any calls, an activation starts a worker that is not told to quit
from the start just when nothing fails, the two queues are there, the device was given a GPU backend
since it took the last one, and it was never stopped while it had a thread. -/
theorem serves_iff {numCapsets : UInt32} {calls : List (Call β Q)}
    (hrun : run step (new numCapsets) calls = some device) (os : Os) (queues : Nat → Option Q) :
    device.Serves os queues ↔
      (os.tryClone = true ∧ os.spawn = true ∧ os.rutabagaNew = true ∧ os.workerNew = true) ∧
      ((queues controlQueue).isSome ∧ (queues cursorQueue).isSome) ∧
      HasSocket calls ∧ ¬ StoppedThread calls := by
  have ha : After calls device := run_history (after_new numCapsets)
    (fun _ _ _ _ _ ha hstep => ha.step hstep) calls device hrun
  rw [← ha.gpuBackend, ← ha.exitEvent, not_not, Serves]
  rcases device.activate_cases os queues with ⟨⟨e, he⟩, hnot⟩ | ⟨hspawn, htakes, hbackend⟩
  · rw [he]
    refine iff_of_false (by simp) fun h => hnot ⟨⟨h.1.1, h.2.1⟩, h.2.2.1⟩
  · rw [hspawn]
    cases hs : os.spawn with
    | false =>
      rw [show spawnWorker _ os = none by simp [spawnWorker, hs]]
      exact iff_of_false (by simp) fun h => nomatch h.1.2.1
    | true =>
      obtain ⟨result, device₁, hout⟩ : ∃ result device₁,
          spawnWorker { device with gpuBackend := none } os = some (result, device₁) := by
        unfold spawnWorker
        rw [hs]
        cases os.rutabagaNew <;> cases os.workerNew <;> exact ⟨_, _, rfl⟩
      obtain ⟨-, -, -, hok, hrunning⟩ := spawnWorker_cases hout
      rw [hout]
      constructor
      · rintro ⟨device₂, hsome, hserves⟩
        cases hsome
        obtain ⟨hrutabaga, hworker⟩ := hok.mp rfl
        have hzero := (hrunning rfl).symm.trans hserves
        refine ⟨⟨htakes.1, rfl, hrutabaga, hworker⟩, htakes.2, hbackend, ?_⟩
        simpa using hzero
      · rintro ⟨⟨-, -, hrutabaga, hworker⟩, -, -, hzero⟩
        obtain rfl := hok.mpr ⟨hrutabaga, hworker⟩
        refine ⟨device₁, rfl, ?_⟩
        rw [hrunning rfl, hzero]

/-- Nothing fails. -/
def willingOs : Os := ⟨true, true, true, true⟩

/-- The two queues of the GPU. -/
def bothQueues (index : Nat) : Option Nat := if index < 2 then some index else none

/-- An activation fails before it takes the backend, and the next one serves. -/
theorem serves_iff_retried :
    let calls : List (Call Unit Nat) :=
      [.setGpuSocket (), .activate { willingOs with tryClone := false } bothQueues]
    ∃ device, run step (new 2) calls = some device ∧ device.Serves willingOs bothQueues := by
  intro calls
  obtain ⟨device, hrun⟩ : ∃ device, run step (new 2) calls = some device := ⟨_, rfl⟩
  refine ⟨device, hrun, (serves_iff hrun willingOs bothQueues).mpr
    ⟨⟨rfl, rfl, rfl, rfl⟩, ⟨rfl, rfl⟩, ⟨[], _, _, rfl, trivial, ?_⟩, ?_⟩⟩
  · intro c hc htakes
    obtain rfl := List.mem_singleton.mp hc
    exact nomatch htakes.1
  · rintro ⟨before, c, after, hcalls, ⟨hstops, -⟩, -⟩
    have hc : c ∈ calls := hcalls ▸ List.mem_append_right _ List.mem_cons_self
    simp only [calls, List.mem_cons, List.not_mem_nil, or_false] at hc
    rcases hc with rfl | rfl <;> exact hstops

/-- A second worker, which finds the exit event signalled. -/
example : ((run step (new 2 : GpuDevice Unit) [.setGpuSocket (), .activate willingOs bothQueues,
    .stop true, .setGpuSocket ()]).bind fun device => device.activate willingOs bothQueues).map
      (fun out => (out.1, out.2.workerThread)) = some (.ok (), some (.running 1)) := rfl

end GpuDevice

end VirtioPoc.Gpu
