import VirtioPoc.Console.Device
import VirtioPoc.Base.Run

/-!
# The life of the console device

By the contract of the trait a device may be activated again once `reset` has
returned `Ok(true)`.  The console returns it, but its ports are gone after the
first `activate`, and its stop event is signalled after the first `stop`.

`lifecycle_honoured_iff` says in which sequences of calls no call panics, and
each activation starts the workers of all ports with a stop event that is not
signalled.
-/

namespace VirtioPoc.ConsoleDevice

open Base

variable {ι ο Q : Type}

/-! ### Calls -/

inductive Call (Q : Type)
  | activate (os : Os) (queues : Nat → Option Q)
  | stop
  | reset

namespace Call

def IsActivate : Call Q → Prop
  | .activate _ _ => True
  | .stop | .reset => False

end Call

/-- The directions for which the port has a worker. -/
def Port.directions (port : Port ι ο) : List QueueDirection :=
  (if port.input.isSome then [.rx] else []) ++ if port.output.isSome then [.tx] else []

/-- The workers of the ports from the one at `index` on, each with its port and its queue. -/
def workersFrom (queues : Nat → Option Q) :
    (index : Nat) → List (Port ι ο) → List (UInt32 × QueueDirection × Option Q)
  | _, [] => []
  | index, port :: rest =>
    port.directions.map (fun d => (port.portId, d, queues (portIdToQueueIdx d index))) ++
      workersFrom queues (index + 1) rest

def Started.worker (w : Started Q) : UInt32 × QueueDirection × Option Q :=
  (w.portId, w.direction, some w.queue)

namespace Console

/-- A call that returns. -/
def step (console : Console ι ο Q) : Call Q → Option (Console ι ο Q)
  | .activate os queues => (console.activate os queues).map fun out => out.2.1
  | .stop => some console.stop
  | .reset => some console.reset.2

/-- The call does not panic, and if it is an activation that succeeds then the workers of the
configured ports are started, each of them once, and their stop event is not signalled. -/
def Honoured (configured : List (Port ι ο)) (console : Console ι ο Q) : Call Q → Prop
  | .activate os queues =>
    match console.activate os queues with
    | none => False
    | some (.error (), _, _) => True
    | some (.ok (), _, started) =>
      started.map Started.worker = workersFrom queues 0 configured ∧ ∀ w ∈ started, w.stopfd = 0
  | .stop => True
  | .reset => True

end Console

/-- The clones and threads for the ports from the one at `index` on can be made. -/
def Os.StartsFrom (os : Os) (index : Nat) (ports : List (Port ι ο)) : Prop :=
  ∀ i port, ports[i]? = some port → os.clonePort (index + i) = true ∧
    ∀ d ∈ port.directions, os.startThread d (index + i) = true

/-- What an activation needs to start the workers of the ports: every queue that the device has
requested, the clones and the threads. -/
def Ready (os : Os) (queues : Nat → Option Q) (ports : List (Port ι ο)) : Prop :=
  (∀ i < numQueues ports.length, (queues i).isSome) ∧ os.StartsFrom 0 ports ∧ os.spawn = true

/-- **The condition on a call** that comes after the `earlier` ones.  An activation is the first one;
and if the stop event can be cloned for it, then it is the first of all calls, and it is given what it
needs. -/
def Allowed (configured : List (Port ι ο)) (earlier : List (Call Q)) : Call Q → Prop
  | .activate os queues => (∀ c ∈ earlier, ¬ c.IsActivate) ∧
    (os.tryClone = true → earlier = [] ∧ Ready os queues configured)
  | .stop => True
  | .reset => True

/-! ### Queues of the ports -/

theorem portIdToQueueIdx_inj {d d' : QueueDirection} {i j : Nat}
    (h : portIdToQueueIdx d i = portIdToQueueIdx d' j) : d = d' ∧ i = j := by
  cases d <;> cases d' <;> simp only [portIdToQueueIdx] at h <;> split at h <;> split at h <;>
    simp <;> omega

theorem portIdToQueueIdx_ne_control (d : QueueDirection) (i : Nat) :
    portIdToQueueIdx d i ≠ controlRxqIndex ∧ portIdToQueueIdx d i ≠ controlTxqIndex := by
  unfold controlRxqIndex controlTxqIndex
  cases d <;> simp only [portIdToQueueIdx] <;> split <;> omega

/-- The requested queues are the two control queues and those of the ports. -/
theorem all_queues_iff {queues : Nat → Option Q} {n : Nat} (hn : 0 < n) :
    (∀ i < numQueues n, (queues i).isSome) ↔
      (queues controlRxqIndex).isSome ∧ (queues controlTxqIndex).isSome ∧
        ∀ i < n, ∀ d, (queues (portIdToQueueIdx d i)).isSome := by
  unfold numQueues controlRxqIndex controlTxqIndex
  constructor
  · intro h
    refine ⟨h 2 (by omega), h 3 (by omega), fun i hi d => h _ ?_⟩
    cases d <;> simp only [portIdToQueueIdx] <;> split <;> omega
  · rintro ⟨hrx, htx, hports⟩ k hk
    by_cases hfirst : k < 4
    · obtain rfl | rfl | rfl | rfl : k = 0 ∨ k = 1 ∨ k = 2 ∨ k = 3 := by omega
      · exact hports 0 hn .rx
      · exact hports 0 hn .tx
      · exact hrx
      · exact htx
    · obtain ⟨i, hi, hk⟩ : ∃ i, i ≠ 0 ∧ (k = 2 + 2 * i ∨ k = 2 + 2 * i + 1) :=
        ⟨(k - 2) / 2, by omega, by omega⟩
      have hlt : i < n := by omega
      rcases hk with rfl | rfl
      · have h := hports i hlt .rx
        rw [portIdToQueueIdx, if_neg hi] at h
        exact h
      · have h := hports i hlt .tx
        rw [portIdToQueueIdx, if_neg hi] at h
        exact h

/-! ### What an activation starts -/

theorem removeQueue_eq_some {queues rest : Nat → Option Q} {index : Nat} {queue : Q}
    (h : removeQueue queues index = some (queue, rest)) :
    queues index = some queue ∧ rest = Function.update queues index none := by
  unfold removeQueue at h
  split at h
  case h_1 => cases h
  case h_2 hq => cases h; exact ⟨hq, rfl⟩

theorem removeQueue_eq_none {queues : Nat → Option Q} {index : Nat} :
    removeQueue queues index = none ↔ ¬ (queues index).isSome := by
  unfold removeQueue
  split
  case h_1 hq => simp [hq]
  case h_2 hq => simp [hq]

namespace Port

/-- A worker starts if it is not wanted, or the system lets it. -/
theorem startWorker_spec (port : Port ι ο) (d : QueueDirection) (wanted ok : Bool) (queue : Q)
    (stopfd : Nat) : port.startWorker d wanted ok queue stopfd =
      if wanted = true → ok = true then
        some (if wanted then [⟨port.portId, d, queue, stopfd⟩] else [])
      else none := by
  unfold startWorker
  cases wanted <;> cases ok <;> rfl

/-- The workers of a port are all started, or it panics.  The stop event is signalled on the way only
if the port was active. -/
theorem start_spec (os : Os) (index : Nat) (port : Port ι ο) (rxQueue txQueue : Q) (stopfd : Nat) :
    (port.start os index rxQueue txQueue stopfd = none ∧
      ¬ ∀ d ∈ port.directions, os.startThread d index = true) ∨
    (∀ d ∈ port.directions, os.startThread d index = true) ∧
      ∃ port' stopfd' started,
        port.start os index rxQueue txQueue stopfd = some (port', stopfd', started) ∧
        (started = port.directions.map fun d =>
          ⟨port.portId, d, match d with | .rx => rxQueue | .tx => txQueue, stopfd'⟩) ∧
        (port.state = .inactive → stopfd' = stopfd) := by
  obtain ⟨port₁, stopfd₁, hshutdown, hid, hin, hout, hinactive⟩ : ∃ port₁ stopfd₁,
      port.shutdown stopfd = (port₁, stopfd₁) ∧ port₁.portId = port.portId ∧
      port₁.input = port.input ∧ port₁.output = port.output ∧
      (port.state = .inactive → stopfd₁ = stopfd) := by
    unfold shutdown
    cases hstate : port.state with
    | inactive => exact ⟨_, _, rfl, rfl, rfl, rfl, fun _ => rfl⟩
    | active rxThread txThread => exact ⟨_, _, rfl, rfl, rfl, rfl, fun h => (nomatch h)⟩
  unfold start directions
  rw [hshutdown]
  dsimp only
  rw [startWorker_spec, startWorker_spec, hid, hin, hout]
  cases port.input.isSome <;> cases port.output.isSome <;>
    cases hrx : os.startThread .rx index <;> cases htx : os.startThread .tx index <;>
    simp [hrx, htx] <;> exact hinactive

end Port

/-- The ports from the one at `index` on can be started. -/
def CanStart (os : Os) (queues : Nat → Option Q) (index : Nat) (ports : List (Port ι ο)) : Prop :=
  (∀ i < ports.length, ∀ d, (queues (portIdToQueueIdx d (index + i))).isSome) ∧
    os.StartsFrom index ports

theorem canStart_cons {os : Os} {queues : Nat → Option Q} {index : Nat} {port : Port ι ο}
    {rest : List (Port ι ο)} : CanStart os queues index (port :: rest) ↔
      ((∀ d, (queues (portIdToQueueIdx d index)).isSome) ∧ os.clonePort index = true ∧
        ∀ d ∈ port.directions, os.startThread d index = true) ∧
      CanStart os queues (index + 1) rest := by
  constructor
  · rintro ⟨hqueues, hstarts⟩
    obtain ⟨hclone, hthreads⟩ := hstarts 0 port rfl
    refine ⟨⟨hqueues 0 (Nat.succ_pos _), hclone, hthreads⟩, fun i hi d => ?_, fun i p hp => ?_⟩
    · rw [Nat.add_right_comm, Nat.add_assoc]
      exact hqueues (i + 1) (Nat.succ_lt_succ hi) d
    · rw [Nat.add_right_comm, Nat.add_assoc]
      exact hstarts (i + 1) p hp
  · rintro ⟨⟨hqueues, hclone, hthreads⟩, hrest, hstarts⟩
    constructor
    · intro i hi d
      cases i with
      | zero => exact hqueues d
      | succ i =>
        rw [← Nat.add_assoc, Nat.add_right_comm]
        exact hrest i (Nat.lt_of_succ_lt_succ hi) d
    · intro i p hp
      cases i with
      | zero =>
        obtain rfl : port = p := Option.some.inj hp
        exact ⟨hclone, hthreads⟩
      | succ i =>
        rw [← Nat.add_assoc, Nat.add_right_comm]
        exact hstarts i p hp

/-- The two queues that a port takes are not those of the ports after it. -/
theorem laterQueues_kept {queues portQueues : Nat → Option Q} {index : Nat}
    (hqueues : ∀ i d, index ≤ i →
      portQueues (portIdToQueueIdx d i) = queues (portIdToQueueIdx d i)) :
    ∀ i d, index + 1 ≤ i → Function.update (Function.update portQueues
      (portIdToQueueIdx .rx index) none) (portIdToQueueIdx .tx index) none
      (portIdToQueueIdx d i) = queues (portIdToQueueIdx d i) := by
  intro i d hi
  have hne (d' : QueueDirection) : portIdToQueueIdx d i ≠ portIdToQueueIdx d' index := by
    intro h
    have := (portIdToQueueIdx_inj h).2
    omega
  rw [Function.update_of_ne (hne .tx), Function.update_of_ne (hne .rx), hqueues i d (by omega)]

/-- The queues left over by the ports from the one at `index` on: theirs are gone, and no others. -/
structure Taken (index count : Nat) (portQueues left : Nat → Option Q) : Prop where
  gone : ∀ i d, index ≤ i → i < index + count → left (portIdToQueueIdx d i) = none
  kept : ∀ k, (∀ i d, index ≤ i → i < index + count → k ≠ portIdToQueueIdx d i) →
    left k = portQueues k

theorem Taken.cons {portQueues left : Nat → Option Q} {index count : Nat}
    (h : Taken (index + 1) count (Function.update (Function.update portQueues
      (portIdToQueueIdx .rx index) none) (portIdToQueueIdx .tx index) none) left) :
    Taken index (count + 1) portQueues left where
  gone i d hi hlt := by
    by_cases hfirst : i = index
    · subst hfirst
      rw [h.kept _ fun j d' hj _ heq => by
        have := (portIdToQueueIdx_inj heq).2
        omega]
      cases d with
      | rx =>
        have hapart : portIdToQueueIdx .rx i ≠ portIdToQueueIdx .tx i :=
          fun heq => nomatch (portIdToQueueIdx_inj heq).1
        rw [Function.update_of_ne hapart]
        exact Function.update_self ..
      | tx => exact Function.update_self ..
    · exact h.gone i d (by omega) (by omega)
  kept k hk := by
    rw [h.kept k fun j d hj hlt => hk j d (by omega) (by omega),
      Function.update_of_ne (hk index .tx le_rfl (by omega)),
      Function.update_of_ne (hk index .rx le_rfl (by omega))]

/-- The loop starts the workers of the ports, each with its own queues, or it panics; no other queue
is taken.  If no port was active then the stop event is not signalled on the way. -/
theorem startPorts_spec (os : Os) {queues : Nat → Option Q} :
    ∀ (ports : List (Port ι ο)) (index : Nat) (portQueues : Nat → Option Q) (stopfd : Nat),
      (∀ i d, index ≤ i → portQueues (portIdToQueueIdx d i) = queues (portIdToQueueIdx d i)) →
      (startPorts os index ports portQueues stopfd = none ∧ ¬ CanStart os queues index ports) ∨
      CanStart os queues index ports ∧ ∃ ports' portQueues' stopfd' started,
        startPorts os index ports portQueues stopfd = some (ports', portQueues', stopfd', started) ∧
        started.map Started.worker = workersFrom queues index ports ∧
        Taken index ports.length portQueues portQueues' ∧
        ((∀ port ∈ ports, port.state = .inactive) →
          stopfd' = stopfd ∧ ∀ w ∈ started, w.stopfd = stopfd) := by
  intro ports
  induction ports with
  | nil =>
    intro index portQueues stopfd _
    refine .inr ⟨⟨nofun, nofun⟩, [], portQueues, stopfd, [], rfl, rfl, ⟨?_, fun _ _ => rfl⟩,
      fun _ => ⟨rfl, nofun⟩⟩
    intro i d hi hlt
    simp at hlt
    omega
  | cons port rest ih =>
    intro index portQueues stopfd hqueues
    rw [canStart_cons, startPorts]
    have hapart : portIdToQueueIdx .tx index ≠ portIdToQueueIdx .rx index :=
      fun h => nomatch (portIdToQueueIdx_inj h).1
    cases hrx : removeQueue portQueues (portIdToQueueIdx .rx index) with
    | none =>
      rw [removeQueue_eq_none, hqueues index .rx le_rfl] at hrx
      exact .inl ⟨rfl, fun h => hrx (h.1.1 .rx)⟩
    | some out =>
      obtain ⟨rxQueue, queues₁⟩ := out
      obtain ⟨hrxQueue, rfl⟩ := removeQueue_eq_some hrx
      dsimp only
      cases htx : removeQueue _ (portIdToQueueIdx .tx index) with
      | none =>
        rw [removeQueue_eq_none, Function.update_of_ne hapart, hqueues index .tx le_rfl] at htx
        exact .inl ⟨rfl, fun h => htx (h.1.1 .tx)⟩
      | some out =>
        obtain ⟨txQueue, queues₂⟩ := out
        obtain ⟨htxQueue, rfl⟩ := removeQueue_eq_some htx
        rw [Function.update_of_ne hapart] at htxQueue
        dsimp only
        cases hclone : os.clonePort index with
        | false => exact .inl ⟨rfl, fun h => nomatch h.1.2.1⟩
        | true =>
          rw [if_neg (by decide)]
          rcases Port.start_spec os index port rxQueue txQueue stopfd with
            ⟨hnone, hnot⟩ | ⟨hthreads, port', stopfd₁, started, hstart, hstarted, hsame⟩
          · rw [hnone]
            exact .inl ⟨rfl, fun h => hnot h.1.2.2⟩
          · rw [hstart]
            dsimp only
            have hqueue (d : QueueDirection) : queues (portIdToQueueIdx d index) =
                some (match d with | .rx => rxQueue | .tx => txQueue) := by
              rw [← hqueues index d le_rfl]
              cases d with
              | rx => exact hrxQueue
              | tx => exact htxQueue
            rcases ih (index + 1) _ stopfd₁ (laterQueues_kept hqueues) with
              ⟨hnone, hnot⟩ | ⟨hcan, ports', portQueues', stopfd₂, startedRest, hrest, hworkers,
                htaken, hquiet⟩
            · rw [hnone]
              exact .inl ⟨rfl, fun h => hnot h.2⟩
            · rw [hrest]
              refine .inr ⟨⟨⟨fun d => by rw [hqueue]; rfl, rfl, hthreads⟩, hcan⟩, _, _, _, _, rfl,
                ?_, htaken.cons, fun hinactive => ?_⟩
              · rw [List.map_append, hworkers, workersFrom, hstarted, List.map_map]
                congr 1
                refine List.map_congr_left fun d _ => ?_
                show (_, _, _) = _
                rw [hqueue]
              · obtain ⟨hport, hrestInactive⟩ := List.forall_mem_cons.mp hinactive
                obtain rfl := hsame hport
                obtain ⟨rfl, hstopfd⟩ := hquiet hrestInactive
                refine ⟨rfl, fun w hw => ?_⟩
                rcases List.mem_append.mp hw with hw | hw
                · rw [hstarted] at hw
                  obtain ⟨d, -, rfl⟩ := List.mem_map.mp hw
                  rfl
                · exact hstopfd w hw

/-- The main worker takes the control queues and starts the ports, or it panics. -/
theorem MainWorker.new_spec (os : Os) (queues : Nat → Option Q) (ports : List (Port ι ο))
    (stopfd : Nat) :
    (new os queues ports stopfd = none ∧ ¬ ((queues controlRxqIndex).isSome ∧
      (queues controlTxqIndex).isSome ∧ CanStart os queues 0 ports)) ∨
    ((queues controlRxqIndex).isSome ∧ (queues controlTxqIndex).isSome ∧
        CanStart os queues 0 ports) ∧ ∃ worker stopfd' started,
      new os queues ports stopfd = some (worker, stopfd', started) ∧
      queues controlRxqIndex = some worker.controlRxq ∧
      queues controlTxqIndex = some worker.controlTxq ∧
      started.map Started.worker = workersFrom queues 0 ports ∧
      Taken 0 ports.length (Function.update (Function.update queues controlRxqIndex none)
        controlTxqIndex none) worker.portQueues ∧
      ((∀ port ∈ ports, port.state = .inactive) →
        stopfd' = stopfd ∧ ∀ w ∈ started, w.stopfd = stopfd) := by
  rw [new]
  cases hrx : removeQueue queues controlRxqIndex with
  | none =>
    rw [removeQueue_eq_none] at hrx
    exact .inl ⟨rfl, fun h => hrx h.1⟩
  | some out =>
    obtain ⟨controlRxq, queues₁⟩ := out
    obtain ⟨hrxQueue, rfl⟩ := removeQueue_eq_some hrx
    have hapart : controlTxqIndex ≠ controlRxqIndex := by decide
    dsimp only
    cases htx : removeQueue _ controlTxqIndex with
    | none =>
      rw [removeQueue_eq_none, Function.update_of_ne hapart] at htx
      exact .inl ⟨rfl, fun h => htx h.2.1⟩
    | some out =>
      obtain ⟨controlTxq, queues₂⟩ := out
      obtain ⟨htxQueue, rfl⟩ := removeQueue_eq_some htx
      rw [Function.update_of_ne hapart] at htxQueue
      dsimp only
      have hkept : ∀ i d, 0 ≤ i → (Function.update (Function.update queues controlRxqIndex none)
          controlTxqIndex none) (portIdToQueueIdx d i) = queues (portIdToQueueIdx d i) := by
        intro i d _
        obtain ⟨hne₁, hne₂⟩ := portIdToQueueIdx_ne_control d i
        rw [Function.update_of_ne hne₂, Function.update_of_ne hne₁]
      rcases startPorts_spec os ports 0 _ stopfd hkept with
        ⟨hnone, hnot⟩ | ⟨hcan, ports', queues', stopfd', started, hstart, hworkers, htaken, hquiet⟩
      · rw [hnone]
        exact .inl ⟨rfl, fun h => hnot h.2.2⟩
      · rw [hstart]
        exact .inr ⟨⟨by rw [hrxQueue]; rfl, by rw [htxQueue]; rfl, hcan⟩, _, stopfd', started, rfl,
          hrxQueue, htxQueue, hworkers, htaken, hquiet⟩

theorem ready_iff {os : Os} {queues : Nat → Option Q} {ports : List (Port ι ο)} (hne : ports ≠ []) :
    Ready os queues ports ↔ (queues controlRxqIndex).isSome ∧ (queues controlTxqIndex).isSome ∧
      CanStart os queues 0 ports ∧ os.spawn = true := by
  unfold Ready CanStart
  rw [all_queues_iff (List.length_pos_iff.mpr hne)]
  simp only [Nat.zero_add, and_assoc]

namespace Console

/-- The workers of all ports are started, or the activation panics. -/
theorem activate_spec {console : Console ι ο Q} {os : Os} (queues : Nat → Option Q)
    (hne : console.ports ≠ []) (hinactive : ∀ port ∈ console.ports, port.state = .inactive)
    (hclone : os.tryClone = true) :
    (console.activate os queues = none ∧ ¬ Ready os queues console.ports) ∨
    Ready os queues console.ports ∧ ∃ worker started, console.activate os queues =
        some (.ok (), { console with ports := [], workerThread := some worker }, started) ∧
      started.map Started.worker = workersFrom queues 0 console.ports ∧
      ∀ w ∈ started, w.stopfd = console.stopfd := by
  rw [ready_iff hne, activate, if_neg (by rwa [List.isEmpty_iff])]
  dsimp only
  rw [hclone, if_neg (by decide)]
  rcases MainWorker.new_spec os queues console.ports console.stopfd with
    ⟨hnone, hnot⟩ | ⟨⟨hrx, htx, hcan⟩, worker, stopfd', started, hnew, -, -, hworkers, -, hquiet⟩
  · rw [hnone]
    exact .inl ⟨rfl, fun h => hnot ⟨h.1, h.2.1, h.2.2.1⟩⟩
  · obtain ⟨rfl, hstopfd⟩ := hquiet hinactive
    rw [hnew]
    cases hspawn : os.spawn with
    | false => exact .inl ⟨rfl, fun h => nomatch h.2.2.2⟩
    | true => exact .inr ⟨⟨hrx, htx, hcan, rfl⟩, worker, started, rfl, hworkers, hstopfd⟩

/-! ### Sequences of calls -/

theorem newPorts_spec {descriptions : List (PortDescription ι ο)} :
    ∀ {portId : UInt32} {ports : List (Port ι ο)}, newPorts portId descriptions = some ports →
      (∀ port ∈ ports, port.state = .inactive) ∧
      (descriptions.head?.map PortDescription.isConsole = some true →
        ∃ port rest, ports = port :: rest ∧ port.directions ≠ []) := by
  induction descriptions with
  | nil =>
    intro portId ports h
    cases h
    exact ⟨nofun, nofun⟩
  | cons description rest ih =>
    intro portId ports h
    rw [newPorts] at h
    split at h
    case h_1 => cases h
    case h_2 port hport =>
      split at h
      case h_1 => cases h
      case h_2 ports' hrest =>
        cases h
        have hinactive : port.state = .inactive := by
          unfold Port.new at hport
          split at hport <;> cases hport <;> rfl
        refine ⟨List.forall_mem_cons.mpr ⟨hinactive, (ih hrest).1⟩, fun hconsole => ?_⟩
        refine ⟨port, ports', rfl, ?_⟩
        unfold Port.new at hport
        split at hport <;> cases hport
        case h_1 => exact nofun
        case h_3 => cases hconsole
        case h_4 => cases hconsole

/-- A console that is new: its ports have no threads, and there is a worker to start. -/
theorem new_spec {descriptions : List (PortDescription ι ο)} {console : Console ι ο Q}
    (hnew : new descriptions = some console) :
    console.stopfd = 0 ∧ (∀ port ∈ console.ports, port.state = .inactive) ∧
      ∃ port rest, console.ports = port :: rest ∧ port.directions ≠ [] := by
  unfold new at hnew
  split at hnew
  case h_1 => cases hnew
  case h_2 first rest =>
    split at hnew
    case isTrue => cases hnew
    case isFalse hconsole =>
      split at hnew
      case h_1 => cases hnew
      case h_2 ports hports =>
        cases hnew
        obtain ⟨hinactive, hfirst⟩ := newPorts_spec hports
        refine ⟨rfl, hinactive, hfirst ?_⟩
        rw [List.head?_cons, Option.map_some, Option.some.injEq]
        simpa using hconsole

/-- How the console is after the `earlier` calls. -/
structure After (configured : List (Port ι ο)) (earlier : List (Call Q)) (console : Console ι ο Q) :
    Prop where
  ports : console.ports = configured ∧ (∀ c ∈ earlier, ¬ c.IsActivate) ∨
    console.ports = [] ∧ ∃ c ∈ earlier, c.IsActivate
  stopfd : console.stopfd = 0 ↔ ∀ c ∈ earlier, c.IsActivate

variable {configured : List (Port ι ο)} {earlier : List (Call Q)} {console t : Console ι ο Q}

/-- An activation after the earlier calls panics, or the stop event cannot be cloned, or the workers
are started. -/
theorem activate_cases (ha : After configured earlier console) (hne : configured ≠ [])
    (hinactive : ∀ port ∈ configured, port.state = .inactive) (os : Os) (queues : Nat → Option Q) :
    (console.activate os queues = none ∧ ¬ Allowed configured earlier (.activate os queues)) ∨
    (∀ c ∈ earlier, ¬ c.IsActivate) ∧
      (os.tryClone = false ∧
          console.activate os queues = some (.error (), { console with ports := [] }, []) ∨
        os.tryClone = true ∧ Ready os queues configured ∧ ∃ worker started,
          console.activate os queues =
            some (.ok (), { console with ports := [], workerThread := some worker }, started) ∧
          started.map Started.worker = workersFrom queues 0 configured ∧
          ∀ w ∈ started, w.stopfd = console.stopfd) := by
  rcases ha.ports with ⟨rfl, hnone⟩ | ⟨hempty, c, hc, hact⟩
  · cases hclone : os.tryClone with
    | false =>
      refine .inr ⟨hnone, .inl ⟨rfl, ?_⟩⟩
      unfold activate
      rw [if_neg (by rwa [List.isEmpty_iff]), hclone]
      rfl
    | true =>
      rcases activate_spec queues hne hinactive hclone with
        ⟨hpanics, hnot⟩ | ⟨hready, hstarted⟩
      · exact .inl ⟨hpanics, fun h => hnot (h.2 hclone).2⟩
      · exact .inr ⟨hnone, .inr ⟨rfl, hready, hstarted⟩⟩
  · refine .inl ⟨?_, fun h => h.1 c hc hact⟩
    unfold activate
    rw [hempty]
    rfl

theorem workersFrom_ne_nil {queues : Nat → Option Q} {index : Nat} {port : Port ι ο}
    {rest : List (Port ι ο)} (hport : port.directions ≠ []) :
    workersFrom queues index (port :: rest) ≠ [] := by
  rw [workersFrom]
  exact List.append_ne_nil_of_left_ne_nil (mt List.map_eq_nil_iff.mp hport) _

/-- **Step lemma.** -/
theorem honoured_iff (ha : After configured earlier console)
    (hinactive : ∀ port ∈ configured, port.state = .inactive)
    (hfirst : ∃ port rest, configured = port :: rest ∧ port.directions ≠ []) (c : Call Q) :
    console.Honoured configured c ↔ Allowed configured earlier c := by
  obtain ⟨port, rest, rfl, hport⟩ := hfirst
  cases c with
  | stop => exact Iff.rfl
  | reset => exact Iff.rfl
  | activate os queues =>
    unfold Honoured
    dsimp only
    rcases activate_cases ha (List.cons_ne_nil _ _) hinactive os queues with
      ⟨hpanics, hnot⟩ | ⟨hfirst, ⟨hclone, hfails⟩ |
        ⟨hclone, hready, worker, started, hstarts, hworkers, hstopfd⟩⟩
    · rw [hpanics]
      exact iff_of_false id hnot
    · rw [hfails]
      exact iff_of_true trivial ⟨hfirst, fun h => nomatch hclone.symm.trans h⟩
    · rw [hstarts]
      have hstarted : started ≠ [] := by
        rintro rfl
        exact workersFrom_ne_nil hport hworkers.symm
      obtain ⟨w, hw⟩ := List.exists_mem_of_ne_nil started hstarted
      constructor
      · rintro ⟨-, hsilent⟩
        have hzero : console.stopfd = 0 := (hstopfd w hw).symm.trans (hsilent w hw)
        refine ⟨hfirst, fun _ => ⟨?_, hready⟩⟩
        exact List.eq_nil_iff_forall_not_mem.mpr fun c hc => hfirst c hc (ha.stopfd.mp hzero c hc)
      · intro hallowed
        obtain ⟨rfl, -⟩ := hallowed.2 hclone
        exact ⟨hworkers, fun w hw => (hstopfd w hw).trans (ha.stopfd.mpr nofun)⟩

/-- A call that is honoured returns. -/
theorem Honoured.returns {c : Call Q} (h : console.Honoured configured c) :
    ∃ t, console.step c = some t := by
  cases c with
  | stop => exact ⟨_, rfl⟩
  | reset => exact ⟨_, rfl⟩
  | activate os queues =>
    unfold Honoured at h
    dsimp only at h
    split at h
    case h_1 => exact absurd h id
    case h_2 t started hfails => exact ⟨t, by rw [step, hfails]; rfl⟩
    case h_3 t started hstarts => exact ⟨t, by rw [step, hstarts]; rfl⟩

theorem After.stop (ha : After configured earlier console) {c : Call Q} (hc : ¬ c.IsActivate) :
    After configured (earlier ++ [c]) console.stop := by
  refine ⟨ha.ports.imp (And.imp_right ?_) (And.imp_right ?_), iff_of_false (Nat.succ_ne_zero _) ?_⟩
  · intro hnone
    rw [List.forall_mem_append, List.forall_mem_singleton]
    exact ⟨hnone, hc⟩
  · rintro ⟨c', hc', hact⟩
    exact ⟨c', List.mem_append_left _ hc', hact⟩
  · rw [List.forall_mem_append, List.forall_mem_singleton]
    exact fun h => hc h.2

theorem After.step (ha : After configured earlier console) (hne : configured ≠ [])
    (hinactive : ∀ port ∈ configured, port.state = .inactive) {c : Call Q}
    (hstep : console.step c = some t) : After configured (earlier ++ [c]) t := by
  cases c with
  | activate os queues =>
    obtain ⟨out, hout, rfl⟩ := Option.map_eq_some_iff.mp hstep
    have ht : out.2.1.ports = [] ∧ out.2.1.stopfd = console.stopfd := by
      rcases activate_cases ha hne hinactive os queues with
        ⟨hpanics, -⟩ | ⟨-, ⟨-, hfails⟩ | ⟨-, -, worker, started, hstarts, -⟩⟩
      · cases hpanics.symm.trans hout
      · cases hfails.symm.trans hout
        exact ⟨rfl, rfl⟩
      · cases hstarts.symm.trans hout
        exact ⟨rfl, rfl⟩
    refine ⟨.inr ⟨ht.1, _, List.mem_append_right _ (List.mem_singleton.mpr rfl), trivial⟩, ?_⟩
    rw [ht.2, ha.stopfd, List.forall_mem_append, List.forall_mem_singleton]
    exact (and_iff_left trivial).symm
  | stop => cases hstep; exact ha.stop id
  | reset => cases hstep; exact ha.stop id

/-- The calls from the state after the `earlier` ones. -/
theorem along_honoured_iff (hinactive : ∀ port ∈ configured, port.state = .inactive)
    (hfirst : ∃ port rest, configured = port :: rest ∧ port.directions ≠ []) :
    ∀ (calls earlier : List (Call Q)) (console : Console ι ο Q), After configured earlier console →
      (Along step (Honoured configured) console calls ↔
        ∀ before c after, calls = before ++ c :: after → Allowed configured (earlier ++ before) c) := by
  intro calls
  induction calls with
  | nil =>
    intro earlier console _
    refine iff_of_true trivial fun before c after h => ?_
    cases before <;> cases h
  | cons c calls ih =>
    intro earlier console ha
    have hne : configured ≠ [] := by
      obtain ⟨port, rest, rfl, -⟩ := hfirst
      exact List.cons_ne_nil _ _
    rw [Along, honoured_iff ha hinactive hfirst]
    constructor
    · rintro ⟨hallowed, hrest⟩ before c' after hcalls
      cases before with
      | nil =>
        cases hcalls
        rw [List.append_nil]
        exact hallowed
      | cons c' before =>
        cases hcalls
        obtain ⟨t, ht⟩ := ((honoured_iff ha hinactive hfirst c).mpr hallowed).returns
        have := (ih _ t (ha.step hne hinactive ht)).mp (hrest t ht) before c' after rfl
        rwa [List.append_assoc] at this
    · intro h
      constructor
      · have := h [] c calls rfl
        rwa [List.append_nil] at this
      · intro t ht
        refine (ih (earlier ++ [c]) t (ha.step hne hinactive ht)).mpr fun before c' after hcalls => ?_
        rw [List.append_assoc]
        exact h (c :: before) c' after (by rw [hcalls]; rfl)

theorem after_new {descriptions : List (PortDescription ι ο)} (hnew : new descriptions = some console) :
    After console.ports [] console :=
  ⟨.inl ⟨rfl, nofun⟩, iff_of_true (new_spec hnew).1 nofun⟩

end Console

/-- **The calls are all honoured** just when each activation is the first of all calls and is given
what it needs, or is the first activation and its stop event cannot be cloned. -/
theorem lifecycle_honoured_iff {descriptions : List (PortDescription ι ο)} {console : Console ι ο Q}
    (hnew : Console.new descriptions = some console) (calls : List (Call Q)) :
    Along Console.step (Console.Honoured console.ports) console calls ↔
      ∀ before c after, calls = before ++ c :: after → Allowed console.ports before c := by
  obtain ⟨-, hinactive, hfirst⟩ := Console.new_spec hnew
  exact Console.along_honoured_iff hinactive hfirst calls [] console (Console.after_new hnew)

/-- The four queues of a console with one port. -/
def fourQueues (index : Nat) : Option Nat := if index < 4 then some index else none

/-- The console is activated once, then stopped and reset. -/
def usedOnce : List (Call Nat) := [.activate .willing fourQueues, .stop, .reset, .reset]

theorem lifecycle_honoured_iff_usedOnce :
    Along Console.step (Console.Honoured (oneConsoleNew Nat).ports) (oneConsoleNew Nat) usedOnce := by
  have hnew : Console.new oneConsole = some (oneConsoleNew Nat) := rfl
  refine (lifecycle_honoured_iff hnew usedOnce).mpr fun before c after hcalls => ?_
  cases before with
  | nil =>
    cases hcalls
    refine ⟨nofun, fun _ => ⟨rfl, by decide, ?_, rfl⟩⟩
    exact fun i port _ => ⟨rfl, fun d _ => rfl⟩
  | cons _ before =>
    have hmem : c ∈ [.stop, .reset, .reset] := by
      rw [List.tail_eq_of_cons_eq hcalls]
      exact List.mem_append_right _ List.mem_cons_self
    cases c with
    | activate os queues => simp at hmem
    | stop => trivial
    | reset => trivial

/-- By the contract the device was never activated, or it was reset since. -/
def FollowsContract (calls : List (Call Q)) : Prop :=
  ∀ before os queues after, calls = before ++ .activate os queues :: after →
    (∀ c ∈ before, ¬ c.IsActivate) ∨
      ∃ earlier later, before = earlier ++ .reset :: later ∧ ∀ c ∈ later, ¬ c.IsActivate

/-- **Sequences that the contract allows**: after a reset the activation panics, and a reset before the
activation makes the workers start with a stop event that is signalled. -/
theorem lifecycle_not_honoured :
    let activate : Call Nat := .activate .willing fourQueues
    (FollowsContract [activate, .reset, activate] ∧
      run Console.step (oneConsoleNew Nat) [activate, .reset, activate] = none ∧
      ¬ Along Console.step (Console.Honoured (oneConsoleNew Nat).ports) (oneConsoleNew Nat)
        [activate, .reset, activate]) ∧
    FollowsContract [.reset, activate] ∧
      (∃ console t, run Console.step (oneConsoleNew Nat) [.reset] = some console ∧
        console.activate .willing fourQueues = some (.ok (), t, [⟨0, .rx, 0, 1⟩, ⟨0, .tx, 1, 1⟩])) ∧
      ¬ Along Console.step (Console.Honoured (oneConsoleNew Nat).ports) (oneConsoleNew Nat)
        [.reset, activate] := by
  dsimp only
  refine ⟨⟨?_, rfl, ?_⟩, ?_, ⟨_, _, rfl, rfl⟩, ?_⟩
  · intro before os queues after hcalls
    rcases before with _ | ⟨c₁, _ | ⟨c₂, _ | ⟨c₃, before⟩⟩⟩
    · exact .inl nofun
    · cases hcalls
    · cases hcalls
      exact .inr ⟨[.activate .willing fourQueues], [], rfl, nofun⟩
    · cases before <;> cases hcalls
  · intro h
    exact (h.2 _ rfl).2 _ rfl |>.1
  · intro before os queues after hcalls
    rcases before with _ | ⟨c₁, _ | ⟨c₂, before⟩⟩
    · cases hcalls
    · cases hcalls
      exact .inr ⟨[], [], rfl, nofun⟩
    · cases before <;> cases hcalls
  · intro h
    exact absurd ((h.2 _ rfl).1.2 ⟨0, .rx, 0, 1⟩ List.mem_cons_self) (by decide)

end VirtioPoc.ConsoleDevice
