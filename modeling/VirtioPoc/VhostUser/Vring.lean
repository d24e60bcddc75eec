import VirtioPoc.Base.Word

/-!
# Vrings

`Vring` of `vring.rs`, and of virtio-queue's `Queue` what it is configured with.
A ring is started when its queue is ready.

Whether an `epoll_ctl` succeeds is up to the kernel; a function that calls
`update_epolls` has the result as an argument.  A function that has changed
something when it fails returns the changed ring with the error.
-/

namespace VirtioPoc.VhostUser

/-! ### The queue -/

inductive VirtQueError
  | invalidMaxSize
  | invalidDescTableAlign
  | invalidAvailRingAlign
  | invalidUsedRingAlign
  deriving DecidableEq

structure Queue where
  (maxSize size : UInt16)
  ready : Bool
  (descTable availRing usedRing : UInt64)
  (nextAvail nextUsed : UInt16)
  eventIdxEnabled : Bool
  deriving DecidableEq

namespace Queue

/-- `MAX_QUEUE_SIZE` of virtio-queue. -/
def maxQueueSize : UInt16 := 32768

def IsPowerOfTwo (n : UInt16) : Prop := n ≠ 0 ∧ n &&& (n - 1) = 0

instance (n : UInt16) : Decidable (IsPowerOfTwo n) := inferInstanceAs (Decidable (_ ∧ _))

def new (maxSize : UInt16) : Except VirtQueError Queue :=
  if maxSize > maxQueueSize ∨ ¬ IsPowerOfTwo maxSize then .error .invalidMaxSize
  else .ok
    { maxSize := maxSize, size := maxSize, ready := false, descTable := 0, availRing := 0,
      usedRing := 0, nextAvail := 0, nextUsed := 0, eventIdxEnabled := false }

def setReady (q : Queue) (ready : Bool) : Queue := { q with ready := ready }

/-- A size that is not valid is ignored. -/
def setSize (q : Queue) (size : UInt16) : Queue :=
  if size > q.maxSize ∨ ¬ IsPowerOfTwo size then q else { q with size := size }

def trySetDescTableAddress (q : Queue) (addr : UInt64) : Except VirtQueError Queue :=
  if addr &&& 0xf ≠ 0 then .error .invalidDescTableAlign else .ok { q with descTable := addr }

def trySetAvailRingAddress (q : Queue) (addr : UInt64) : Except VirtQueError Queue :=
  if addr &&& 0x1 ≠ 0 then .error .invalidAvailRingAlign else .ok { q with availRing := addr }

def trySetUsedRingAddress (q : Queue) (addr : UInt64) : Except VirtQueError Queue :=
  if addr &&& 0x3 ≠ 0 then .error .invalidUsedRingAlign else .ok { q with usedRing := addr }

def setNextAvail (q : Queue) (nextAvail : UInt16) : Queue := { q with nextAvail := nextAvail }

def setNextUsed (q : Queue) (nextUsed : UInt16) : Queue := { q with nextUsed := nextUsed }

def setEventIdx (q : Queue) (enabled : Bool) : Queue := { q with eventIdxEnabled := enabled }

end Queue

/-! ### The ring -/

/-- A file descriptor. -/
abbrev Fd := Nat

structure Vring where
  queue : Queue
  enabled : Bool
  (kick call err : Option Fd)
  deriving DecidableEq

namespace Vring

def new (maxSize : UInt16) : Except VirtQueError Vring :=
  (Queue.new maxSize).map fun queue =>
    { queue := queue, enabled := false, kick := none, call := none, err := none }

def isStarted (v : Vring) : Bool := v.queue.ready

def hasKickEvent (v : Vring) : Bool := v.kick.isSome

def setEnabled (v : Vring) (enabled : Bool) : Vring := { v with enabled := enabled }

/-- The addresses are set one after the other, up to the first that is not aligned. -/
def setQueueInfo (v : Vring) (descTable availRing usedRing : UInt64) :
    Except VirtQueError Unit × Vring :=
  match v.queue.trySetDescTableAddress descTable with
  | .error e => (.error e, v)
  | .ok queue =>
    match queue.trySetAvailRingAddress availRing with
    | .error e => (.error e, { v with queue := queue })
    | .ok queue =>
      match queue.trySetUsedRingAddress usedRing with
      | .error e => (.error e, { v with queue := queue })
      | .ok queue => (.ok (), { v with queue := queue })

/-- The result of `update_epolls`, which does nothing without a descriptor. -/
def epollsUpdated (old new : Option Fd) (updateEpolls : Bool) : Bool :=
  (old.isNone && new.isNone) || updateEpolls

/-- `none` is an error of `update_epolls`; then the queue stays ready. -/
def stop (v : Vring) (updateEpolls : Bool) : Option Vring :=
  if epollsUpdated v.kick none updateEpolls then some { v with queue := v.queue.setReady false }
  else none

/-- The queue is ready also when `update_epolls` fails. -/
def start (v : Vring) (updateEpolls : Bool) : Bool × Vring :=
  (epollsUpdated none v.kick updateEpolls, { v with queue := v.queue.setReady true })

def setCall (v : Vring) (file : Option Fd) : Vring := { v with call := file }

def setErr (v : Vring) (file : Option Fd) : Vring := { v with err := file }

/-- The kick is replaced also when `update_epolls` fails. -/
def setKick (v : Vring) (file : Option Fd) (updateEpolls : Bool) : Bool × Vring :=
  (! v.isStarted || epollsUpdated v.kick file updateEpolls, { v with kick := file })

end Vring

/-! ### What starts and stops a ring -/

section

variable {q q' : Queue} {addr : UInt64}

theorem Queue.ready_setSize (q : Queue) (size : UInt16) : (q.setSize size).ready = q.ready := by
  unfold Queue.setSize
  split <;> rfl

theorem Queue.ready_trySetDescTableAddress (h : q.trySetDescTableAddress addr = .ok q') :
    q'.ready = q.ready := by
  unfold Queue.trySetDescTableAddress at h
  split at h
  case isTrue => cases h
  case isFalse => cases h; rfl

theorem Queue.ready_trySetAvailRingAddress (h : q.trySetAvailRingAddress addr = .ok q') :
    q'.ready = q.ready := by
  unfold Queue.trySetAvailRingAddress at h
  split at h
  case isTrue => cases h
  case isFalse => cases h; rfl

theorem Queue.ready_trySetUsedRingAddress (h : q.trySetUsedRingAddress addr = .ok q') :
    q'.ready = q.ready := by
  unfold Queue.trySetUsedRingAddress at h
  split at h
  case isTrue => cases h
  case isFalse => cases h; rfl

end

namespace Vring

theorem isStarted_new {maxSize : UInt16} {v : Vring} (h : new maxSize = .ok v) :
    v.isStarted = false := by
  unfold new Queue.new at h
  split at h
  · cases h
  · cases h
    rfl

theorem isStarted_setQueueInfo (v : Vring) (descTable availRing usedRing : UInt64) :
    (v.setQueueInfo descTable availRing usedRing).2.isStarted = v.isStarted := by
  unfold setQueueInfo isStarted
  split
  case h_1 => rfl
  case h_2 hdesc =>
    have hdesc := Queue.ready_trySetDescTableAddress hdesc
    split
    case h_1 => exact hdesc
    case h_2 havail =>
      have havail := Queue.ready_trySetAvailRingAddress havail
      split
      case h_1 => exact havail.trans hdesc
      case h_2 hused =>
        have hused := Queue.ready_trySetUsedRingAddress hused
        exact hused.trans (havail.trans hdesc)

theorem isStarted_stop {v v' : Vring} {updateEpolls : Bool} (h : v.stop updateEpolls = some v') :
    v'.isStarted = false := by
  obtain ⟨-, hv⟩ := Option.ite_none_right_eq_some.mp h
  cases hv
  rfl

@[simp] theorem isStarted_start (v : Vring) (updateEpolls : Bool) :
    (v.start updateEpolls).2.isStarted = true := rfl

@[simp] theorem isStarted_setKick (v : Vring) (file : Option Fd) (updateEpolls : Bool) :
    (v.setKick file updateEpolls).2.isStarted = v.isStarted := rfl

@[simp] theorem isStarted_setCall (v : Vring) (file : Option Fd) :
    (v.setCall file).isStarted = v.isStarted := rfl

end Vring

end VirtioPoc.VhostUser
