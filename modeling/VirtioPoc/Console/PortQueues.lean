import VirtioPoc.Console.Lifecycle
import Mathlib.Data.Set.Function

/-!
# Ports and queues

`port_queue_mapping.rs`.  Port 0 has the queues before the two control queues and
the other ports those after them, so three formulas have to fit together.  They
do: the ports in their two directions correspond to the queues that are no
control queues (`portIdToQueueIdx_bijOn`), and `queue_idx_to_port_id` goes back.

The sums are in `usize`, and none is larger than the index that comes out of it,
which is below `num_queues`.
-/

namespace VirtioPoc.ConsoleDevice

variable {ι ο Q : Type}

/-- `none` is the panic. -/
def queueIdxToPortId (queueIndex : Nat) : Option (QueueDirection × Nat) :=
  let portId :=
    match queueIndex with
    | 0 | 1 => some 0
    | 2 | 3 => none
    | _ => some (queueIndex / 2 - 1)
  portId.map fun portId => (if queueIndex % 2 = 0 then .rx else .tx, portId)

/-- The queues of `n` ports that are no control queues. -/
def portQueueIndices (n : Nat) : Set Nat :=
  { i | i < numQueues n ∧ i ≠ controlRxqIndex ∧ i ≠ controlTxqIndex }

theorem queueIdxToPortId_of_ge {i : Nat} (h : 4 ≤ i) :
    queueIdxToPortId i = some (if i % 2 = 0 then .rx else .tx, i / 2 - 1) := by
  obtain ⟨k, rfl⟩ := Nat.exists_eq_add_of_le' h
  rfl

/-- The two mappings are inverse to each other, on the ports, -/
theorem queueIdxToPortId_portIdToQueueIdx (d : QueueDirection) (portId : Nat) :
    queueIdxToPortId (portIdToQueueIdx d portId) = some (d, portId) := by
  by_cases hid : portId = 0
  · subst hid
    cases d <;> rfl
  · cases d with
    | rx =>
      have hmod : (2 + 2 * portId) % 2 = 0 := by omega
      have hdiv : (2 + 2 * portId) / 2 - 1 = portId := by omega
      rw [portIdToQueueIdx, if_neg hid, queueIdxToPortId_of_ge (by omega), if_pos hmod, hdiv]
    | tx =>
      have hmod : ¬ (2 + 2 * portId + 1) % 2 = 0 := by omega
      have hdiv : (2 + 2 * portId + 1) / 2 - 1 = portId := by omega
      rw [portIdToQueueIdx, if_neg hid, queueIdxToPortId_of_ge (by omega), if_neg hmod, hdiv]

/-- and on the queues of ports. -/
theorem portIdToQueueIdx_queueIdxToPortId {n i : Nat} (hn : 1 ≤ n) (hi : i ∈ portQueueIndices n) :
    ∃ d portId, queueIdxToPortId i = some (d, portId) ∧ portId < n ∧
      portIdToQueueIdx d portId = i := by
  obtain ⟨hlt, hrx, htx⟩ := hi
  unfold numQueues controlRxqIndex controlTxqIndex at *
  by_cases hfirst : i < 4
  · obtain rfl | rfl : i = 0 ∨ i = 1 := by omega
    · exact ⟨.rx, 0, rfl, hn, rfl⟩
    · exact ⟨.tx, 0, rfl, hn, rfl⟩
  · have hid : ¬ i / 2 - 1 = 0 := by omega
    have hge := queueIdxToPortId_of_ge (Nat.le_of_not_lt hfirst)
    by_cases hmod : i % 2 = 0
    · rw [if_pos hmod] at hge
      exact ⟨.rx, _, hge, by omega, by rw [portIdToQueueIdx, if_neg hid]; omega⟩
    · rw [if_neg hmod] at hge
      exact ⟨.tx, _, hge, by omega, by rw [portIdToQueueIdx, if_neg hid]; omega⟩

theorem portIdToQueueIdx_mapsTo {n portId : Nat} (h : portId < n) (d : QueueDirection) :
    portIdToQueueIdx d portId ∈ portQueueIndices n := by
  refine ⟨?_, portIdToQueueIdx_ne_control d portId⟩
  rw [numQueues]
  cases d <;> simp only [portIdToQueueIdx] <;> split <;> omega

/-- **Ports and queues correspond one to one.** -/
theorem portIdToQueueIdx_bijOn {n : Nat} (hn : 1 ≤ n) :
    Set.BijOn (fun p : QueueDirection × Nat => portIdToQueueIdx p.1 p.2) { p | p.2 < n }
      (portQueueIndices n) := by
  refine ⟨fun p hp => portIdToQueueIdx_mapsTo hp p.1, fun p _ p' _ h => ?_, fun i hi => ?_⟩
  · obtain ⟨hd, hid⟩ := portIdToQueueIdx_inj h
    exact Prod.ext hd hid
  · obtain ⟨d, portId, -, hlt, rfl⟩ := portIdToQueueIdx_queueIdxToPortId hn hi
    exact ⟨(d, portId), hlt, rfl⟩

/-! ### The start of the main worker -/

/-- One queue for each index below `numQueues`. -/
def OneForEach (queues : Nat → Option Q) (n : Nat) : Prop :=
  ∀ i, (queues i).isSome ↔ i < numQueues n

/-- With all queues in the map, the ports can start if the system lets them. -/
theorem canStart_iff_startsFrom {os : Os} {queues : Nat → Option Q} {ports : List (Port ι ο)}
    (h : OneForEach queues ports.length) :
    CanStart os queues 0 ports ↔ os.StartsFrom 0 ports := by
  refine and_iff_right fun i hi d => (h _).mpr ?_
  rw [Nat.zero_add]
  exact (portIdToQueueIdx_mapsTo hi d).1

/-- When the control queues and those of all ports are taken, nothing is left. -/
theorem Taken.none_left {queues left : Nat → Option Q} {n : Nat} (hn : 1 ≤ n)
    (hqueues : OneForEach queues n)
    (h : Taken 0 n (Function.update (Function.update queues controlRxqIndex none)
      controlTxqIndex none) left) (i : Nat) : left i = none := by
  by_cases hi : i ∈ portQueueIndices n
  · obtain ⟨d, portId, -, hlt, rfl⟩ := portIdToQueueIdx_queueIdxToPortId hn hi
    exact h.gone portId d (Nat.zero_le _) (by omega)
  · rw [h.kept i fun portId d _ hlt heq => hi (heq ▸ portIdToQueueIdx_mapsTo (by omega) d)]
    by_cases htx : i = controlTxqIndex
    · subst htx
      exact Function.update_self ..
    · rw [Function.update_of_ne htx]
      by_cases hrx : i = controlRxqIndex
      · subst hrx
        exact Function.update_self ..
      · rw [Function.update_of_ne hrx, ← Option.not_isSome_iff_eq_none, hqueues]
        exact fun hlt => hi ⟨hlt, hrx, htx⟩

/-- **The start-up finds every queue and leaves none over**: with one queue for each index, it fails
only if the system does not let the ports start, and else each port has got its own two queues and
none is left in the map. -/
theorem MainWorker.new_takes_all {os : Os} {queues : Nat → Option Q} {ports : List (Port ι ο)}
    (hne : 1 ≤ ports.length) (hqueues : OneForEach queues ports.length) (stopfd : Nat) :
    (MainWorker.new os queues ports stopfd = none ↔ ¬ os.StartsFrom 0 ports) ∧
      ∀ worker stopfd' started,
        MainWorker.new os queues ports stopfd = some (worker, stopfd', started) →
        queues controlRxqIndex = some worker.controlRxq ∧
        queues controlTxqIndex = some worker.controlTxq ∧
        started.map Started.worker = workersFrom queues 0 ports ∧
        ∀ i, worker.portQueues i = none := by
  have hrx : (queues controlRxqIndex).isSome :=
    (hqueues _).mpr (by rw [numQueues, controlRxqIndex]; omega)
  have htx : (queues controlTxqIndex).isSome :=
    (hqueues _).mpr (by rw [numQueues, controlTxqIndex]; omega)
  rcases new_spec os queues ports stopfd with
    ⟨hnone, hnot⟩ | ⟨⟨-, -, hcan⟩, worker, stopfd', started, hnew, hrx', htx', hworkers, htaken, -⟩
  · rw [hnone]
    refine ⟨iff_of_true rfl fun hstarts => hnot ⟨hrx, htx, ?_⟩, nofun⟩
    exact (canStart_iff_startsFrom hqueues).mpr hstarts
  · rw [hnew]
    refine ⟨iff_of_false nofun (not_not.mpr ((canStart_iff_startsFrom hqueues).mp hcan)), ?_⟩
    rintro worker₁ stopfd₁ started₁ ⟨⟩
    exact ⟨hrx', htx', hworkers, htaken.none_left hne hqueues⟩

/-- **The mapping fits the start-up**, for every number of ports: it is a bijection from the ports in
their directions to the queues that are no control queues, with `queue_idx_to_port_id` as its inverse;
and so the start-up finds every queue it looks for and leaves none over. -/
theorem queue_mapping_fits (ι ο Q : Type) (n : Nat) (hn : 1 ≤ n) :
    Set.BijOn (fun p : QueueDirection × Nat => portIdToQueueIdx p.1 p.2) { p | p.2 < n }
        { i | i < numQueues n ∧ i ≠ controlRxqIndex ∧ i ≠ controlTxqIndex } ∧
      (∀ d portId, portId < n → queueIdxToPortId (portIdToQueueIdx d portId) = some (d, portId)) ∧
      (∀ i, i < numQueues n ∧ i ≠ controlRxqIndex ∧ i ≠ controlTxqIndex → ∃ d portId,
        queueIdxToPortId i = some (d, portId) ∧ portId < n ∧ portIdToQueueIdx d portId = i) ∧
      ∀ (os : Os) (queues : Nat → Option Q) (ports : List (Port ι ο)) (stopfd : Nat),
        ports.length = n → OneForEach queues n →
        (MainWorker.new os queues ports stopfd = none ↔ ¬ os.StartsFrom 0 ports) ∧
          ∀ worker stopfd' started,
            MainWorker.new os queues ports stopfd = some (worker, stopfd', started) →
            queues controlRxqIndex = some worker.controlRxq ∧
            queues controlTxqIndex = some worker.controlTxq ∧
            started.map Started.worker = workersFrom queues 0 ports ∧
            ∀ i, worker.portQueues i = none := by
  refine ⟨portIdToQueueIdx_bijOn hn, fun d portId _ => queueIdxToPortId_portIdToQueueIdx d portId,
    fun i hi => portIdToQueueIdx_queueIdxToPortId hn hi, fun os queues ports stopfd hlen hone => ?_⟩
  subst hlen
  exact MainWorker.new_takes_all hn hone stopfd

/-- With two ports, the worker of the second one that reads its input has queue 4. -/
theorem queue_mapping_fits_two : queueIdxToPortId 4 = some (.rx, 1) ∧
    ∃ worker stopfd' started, MainWorker.new .willing (fun i => if i < 6 then some i else none)
      [⟨⟨true, []⟩, 0, .inactive, some (), some ()⟩, ⟨⟨false, []⟩, 1, .inactive, some (), none⟩] 0 =
        some (worker, stopfd', started) ∧
      started.map Started.worker = [(0, .rx, some 0), (0, .tx, some 1), (1, .rx, some 4)] ∧
      ∀ i, worker.portQueues i = none := by
  obtain ⟨-, hinv, -, hnew⟩ := queue_mapping_fits Unit Unit Nat 2 (by decide)
  refine ⟨hinv .rx 1 (by decide), ?_⟩
  have hone : OneForEach (fun i => if i < 6 then some i else none) 2 := by
    intro i
    by_cases hi : i < 6
    · simp [hi, numQueues]
    · simp [hi, numQueues]
  obtain ⟨hfails, hfound⟩ := hnew .willing _ [⟨⟨true, []⟩, 0, .inactive, some (), some ()⟩,
    ⟨⟨false, []⟩, 1, .inactive, some (), none⟩] 0 rfl hone
  obtain ⟨⟨worker, stopfd', started⟩, hsome⟩ := Option.ne_none_iff_exists'.mp fun hnone =>
    hfails.mp hnone fun _ _ _ => ⟨rfl, fun _ _ => rfl⟩
  obtain ⟨-, -, hworkers, hleft⟩ := hfound worker stopfd' started hsome
  exact ⟨worker, stopfd', started, hsome, hworkers, hleft⟩

end VirtioPoc.ConsoleDevice
