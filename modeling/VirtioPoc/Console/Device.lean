import VirtioPoc.Console.Control
import Mathlib.Logic.Function.Basic

/-!
# The console device

`device.rs`, with the ports of `port.rs` and the construction of the `MainWorker`
of `console_control.rs`: what `activate`, `stop` and `reset` do, and which worker
threads are started on the way.

The stop event and its clones have one counter, and nothing in the device reads
it.  A call that panics has no result.  That a thread is joined takes no time,
and the thread has not panicked.
-/

namespace VirtioPoc.ConsoleDevice

inductive QueueDirection
  | rx
  | tx
  deriving DecidableEq

def portIdToQueueIdx : QueueDirection → (portId : Nat) → Nat
  | .rx, portId => if portId = 0 then 0 else 2 + 2 * portId
  | .tx, portId => if portId = 0 then 1 else 2 + 2 * portId + 1

def numQueues (numPorts : Nat) : Nat := 2 + 2 * numPorts

def controlRxqIndex : Nat := 2
def controlTxqIndex : Nat := 3

/-- What the system answers during an activation: the clones of the stop event for the main worker and
for each port, the clone and the thread for each worker of a port, and the main thread. -/
structure Os where
  tryClone : Bool
  clonePort : (portId : Nat) → Bool
  startThread : QueueDirection → (portId : Nat) → Bool
  spawn : Bool

/-! ### Ports -/

inductive PortDescription (ι ο : Type)
  | console (input : Option ι) (output : Option ο)
  | inputPipe (name : List UInt8) (input : ι)
  | outputPipe (name : List UInt8) (output : ο)

def PortDescription.isConsole {ι ο : Type} : PortDescription ι ο → Bool
  | .console .. => true
  | .inputPipe .. | .outputPipe .. => false

inductive PortState
  | inactive
  | active (rxThread txThread : Bool)
  deriving DecidableEq

structure Port (ι ο : Type) extends Console.Port where
  portId : UInt32
  state : PortState
  input : Option ι
  output : Option ο

/-- A worker thread of a port that was started, with the counter of its stop event at that time. -/
structure Started (Q : Type) where
  portId : UInt32
  direction : QueueDirection
  queue : Q
  stopfd : Nat
  deriving DecidableEq

variable {ι ο Q : Type}

namespace Port

def new (portId : UInt32) : PortDescription ι ο → Option (Port ι ο)
  | .console (some input) (some output) =>
    some { portId := portId, name := [], isConsole := true, state := .inactive, input := some input,
           output := some output }
  | .console _ _ => none
  | .inputPipe name input =>
    some { portId := portId, name := name, isConsole := false, state := .inactive,
           input := some input, output := none }
  | .outputPipe name output =>
    some { portId := portId, name := name, isConsole := false, state := .inactive, input := none,
           output := some output }

/-- The threads of an active port are stopped through the stop event that all have in common. -/
def shutdown (port : Port ι ο) (stopfd : Nat) : Port ι ο × Nat :=
  match port.state with
  | .inactive => (port, stopfd)
  | .active _ _ => ({ port with state := .active false false }, stopfd + 1)

/-- The worker for one direction, if the port has an input or output for it. -/
def startWorker (port : Port ι ο) (direction : QueueDirection) (wanted ok : Bool) (queue : Q)
    (stopfd : Nat) : Option (List (Started Q)) :=
  if wanted then
    if ok then some [⟨port.portId, direction, queue, stopfd⟩] else none
  else some []

def start (os : Os) (index : Nat) (port : Port ι ο) (rxQueue txQueue : Q) (stopfd : Nat) :
    Option (Port ι ο × Nat × List (Started Q)) :=
  let (port, stopfd) := port.shutdown stopfd
  match port.startWorker .rx port.input.isSome (os.startThread .rx index) rxQueue stopfd with
  | none => none
  | some rx =>
    match port.startWorker .tx port.output.isSome (os.startThread .tx index) txQueue stopfd with
    | none => none
    | some tx =>
      some ({ port with state := .active port.input.isSome port.output.isSome }, stopfd, rx ++ tx)

end Port

/-! ### The main worker -/

structure MainWorker (ι ο Q : Type) where
  (controlRxq controlTxq : Q)
  portQueues : Nat → Option Q
  ports : List (Port ι ο)

/-- A `remove` from the map of queues. -/
def removeQueue (queues : Nat → Option Q) (index : Nat) : Option (Q × (Nat → Option Q)) :=
  match queues index with
  | none => none
  | some queue => some (queue, Function.update queues index none)

/-- The loop of `start_ports`, from the port at `index`. -/
def startPorts (os : Os) : (index : Nat) → List (Port ι ο) → (portQueues : Nat → Option Q) →
    (stopfd : Nat) → Option (List (Port ι ο) × (Nat → Option Q) × Nat × List (Started Q))
  | _, [], portQueues, stopfd => some ([], portQueues, stopfd, [])
  | index, port :: rest, portQueues, stopfd =>
    match removeQueue portQueues (portIdToQueueIdx .rx index) with
    | none => none
    | some (rxQueue, portQueues) =>
      match removeQueue portQueues (portIdToQueueIdx .tx index) with
      | none => none
      | some (txQueue, portQueues) =>
        if ! os.clonePort index then none
        else
          match port.start os index rxQueue txQueue stopfd with
          | none => none
          | some (port, stopfd, started) =>
            match startPorts os (index + 1) rest portQueues stopfd with
            | none => none
            | some (ports, portQueues, stopfd, startedRest) =>
              some (port :: ports, portQueues, stopfd, started ++ startedRest)

def MainWorker.new (os : Os) (queues : Nat → Option Q) (ports : List (Port ι ο)) (stopfd : Nat) :
    Option (MainWorker ι ο Q × Nat × List (Started Q)) :=
  match removeQueue queues controlRxqIndex with
  | none => none
  | some (controlRxq, queues) =>
    match removeQueue queues controlTxqIndex with
    | none => none
    | some (controlTxq, queues) =>
      match startPorts os 0 ports queues stopfd with
      | none => none
      | some (ports, queues, stopfd, started) =>
        some (⟨controlRxq, controlTxq, queues, ports⟩, stopfd, started)

/-! ### The device -/

structure VirtioConsoleConfig where
  (cols rows : UInt16)
  (maxNrPorts emergWr : UInt32)
  deriving DecidableEq

def VirtioConsoleConfig.new (cols rows : UInt16) (maxNrPorts : UInt32) : VirtioConsoleConfig :=
  { cols := cols, rows := rows, maxNrPorts := maxNrPorts, emergWr := 0 }

def VirtioConsoleConfig.layout : Base.Layout VirtioConsoleConfig :=
  .iso (.prod .u16 <| .prod .u16 <| .prod .u32 .u32)
    ⟨fun (a, b, c, d) => ⟨a, b, c, d⟩, fun s => (s.cols, s.rows, s.maxNrPorts, s.emergWr),
      fun _ => rfl, fun _ => rfl⟩

/-- `AVAIL_FEATURES`: `VIRTIO_CONSOLE_F_SIZE`, `VIRTIO_CONSOLE_F_MULTIPORT` and `VIRTIO_F_VERSION_1`. -/
def availableFeatures : UInt64 := 0x100000003

def queueSize : UInt16 := 256

structure Console (ι ο Q : Type) where
  ports : List (Port ι ο)
  queues : List UInt16
  workerThread : Option (MainWorker ι ο Q)
  stopfd : Nat
  (availFeatures ackedFeatures : UInt64)
  config : VirtioConsoleConfig

namespace Console

/-- The ports with their numbers, from `portId` on. -/
def newPorts : (portId : UInt32) → List (PortDescription ι ο) → Option (List (Port ι ο))
  | _, [] => some []
  | portId, description :: rest =>
    match Port.new portId description with
    | none => none
    | some port =>
      match newPorts (portId + 1) rest with
      | none => none
      | some ports => some (port :: ports)

def new (descriptions : List (PortDescription ι ο)) : Option (Console ι ο Q) :=
  match descriptions with
  | [] => none
  | first :: _ =>
    if ! first.isConsole then none
    else
      match newPorts 0 descriptions with
      | none => none
      | some ports =>
        some { ports := ports, queues := List.replicate (numQueues descriptions.length) queueSize,
               workerThread := none, stopfd := 0, availFeatures := availableFeatures,
               ackedFeatures := 0, config := .new 80 24 (.ofNat ports.length) }

variable (console : Console ι ο Q)

def setAckedFeatures (ackedFeatures : UInt64) : Console ι ο Q :=
  { console with ackedFeatures := availableFeatures &&& ackedFeatures }

def readConfig (offset : Nat) (data : List UInt8) : Except Unit (List UInt8) :=
  let config := VirtioConsoleConfig.layout.toBytes console.config
  if offset ≥ config.length then .error ()
  else
    let read := (config.drop offset).take data.length
    .ok (read ++ data.drop read.length)

def writeConfig (_ : Nat) (_ : List UInt8) : Except Unit Unit × Console ι ο Q := (.error (), console)

/-- The ports are taken before the stop event is cloned. -/
def activate (os : Os) (queues : Nat → Option Q) :
    Option (Except Unit Unit × Console ι ο Q × List (Started Q)) :=
  if console.ports.isEmpty then none
  else
    let ports := console.ports
    let console := { console with ports := [] }
    if ! os.tryClone then some (.error (), console, [])
    else
      match MainWorker.new os queues ports console.stopfd with
      | none => none
      | some (worker, stopfd, started) =>
        if ! os.spawn then none
        else some (.ok (), { console with workerThread := some worker, stopfd := stopfd }, started)

def stop : Console ι ο Q :=
  { console with stopfd := console.stopfd + 1, workerThread := none }

def reset : Except Unit Bool × Console ι ο Q := (.ok true, console.stop)

variable {console : Console ι ο Q}

/-- An activation leaves the features alone. -/
theorem features_activate {os : Os} {queues : Nat → Option Q} {r : Except Unit Unit}
    {t : Console ι ο Q} {started : List (Started Q)}
    (h : console.activate os queues = some (r, t, started)) :
    t.availFeatures = console.availFeatures ∧ t.ackedFeatures = console.ackedFeatures := by
  unfold activate at h
  split at h
  case isTrue => cases h
  case isFalse =>
    dsimp only at h
    split at h
    case isTrue => cases h; exact ⟨rfl, rfl⟩
    case isFalse =>
      split at h
      case h_1 => cases h
      case h_2 =>
        split at h
        case isTrue => cases h
        case isFalse => cases h; exact ⟨rfl, rfl⟩

end Console

/-- Nothing fails. -/
def Os.willing : Os :=
  { tryClone := true, clonePort := fun _ => true, startThread := fun _ _ => true, spawn := true }

/-- One port, with an input and an output. -/
def oneConsole : List (PortDescription Unit Unit) := [.console (some ()) (some ())]

/-- The console before the first call. -/
def oneConsoleNew (Q : Type) : Console Unit Unit Q :=
  { ports := [{ portId := 0, name := [], isConsole := true, state := .inactive, input := some (),
                output := some () }],
    queues := [256, 256, 256, 256], workerThread := none, stopfd := 0,
    availFeatures := availableFeatures, ackedFeatures := 0, config := .new 80 24 1 }

end VirtioPoc.ConsoleDevice
