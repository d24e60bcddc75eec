import VirtioPoc.Base.Loop
import VirtioPoc.Gpu.Answer
import Mathlib.Data.List.TakeWhile

/-!
# The loop of the GPU worker

`GpuWorker::run` waits for a batch of events and handles them one after the
other.  Here the arm of `Quit` is a `return`, and so is the `?` behind a wait or
a queue event that fails.  So, other than the worker of the console, this one
leaves both of its loops, and how the events are put into batches does not
matter.

An event comes with what its queue holds at that time, and with the guest memory
that is loaded for it.  `event_poll` is a parameter beside the methods of
`VirtioGpu`; through it the fence handler may run, and `none` is a panic there.
-/

namespace VirtioPoc.Gpu

open Base Virtio

/-! ### An event on a queue -/

/-- The chains that an event on the queue brings to `process_queue`, if it is processed. -/
def DeviceQueue.served (q : DeviceQueue) : List RequestChain :=
  if q.eventIdxEnabled then q.avail ++ q.later.flatten else q.avail

/-- The event is handled: the kick can be read, and if the queue is processed then each of its chains
can be answered. -/
def DeviceQueue.Handled (q : DeviceQueue) (size : Nat) : Prop :=
  q.readKick = .ok false ∨
    q.readKick = .ok true ∧ (q.tryLockQueue = false ∨ ∀ chain ∈ q.served, chain.Answerable size)

instance (q : DeviceQueue) (size : Nat) : Decidable (q.Handled size) :=
  inferInstanceAs (Decidable (_ ∨ _ ∧ (_ ∨ _)))

section

variable {σ : Type} {gpu : VirtioGpu σ} {q : DeviceQueue} {size : Nat}

theorem DeviceQueue.HasTable.mono {chains chains' : List RequestChain}
    (hq : q.HasTable size chains) (h : ∀ chain ∈ chains', chain ∈ chains) :
    q.HasTable size chains' :=
  ⟨hq.addUsed, fun chain hchain => hq.outside chain (h chain hchain)⟩

theorem processUntilEmpty_ok_iff (regions : List GuestRegion) (hplain : gpu.Plain) :
    ∀ (later : List (List RequestChain)) (chains : List RequestChain),
      q.HasTable size (chains ++ later.flatten) → ∀ s : WorkerState σ,
      ((∃ t, processUntilEmpty gpu regions q chains later s = some (.ok (), t)) ↔
        ∀ chain ∈ chains ++ later.flatten, chain.Answerable size) := by
  intro later
  induction later with
  | nil =>
    intro chains hq s
    rw [List.flatten_nil, List.append_nil] at hq ⊢
    rw [← processQueue_ok_iff regions hplain chains hq false s, processUntilEmpty]
    rcases processQueue gpu regions q chains false s with _ | ⟨_ | notify, t⟩ <;> simp
  | cons more later ih =>
    intro chains hq s
    have hfirst : q.HasTable size chains := hq.mono fun c hc => List.mem_append_left _ hc
    have hrest : q.HasTable size (more ++ later.flatten) :=
      hq.mono fun c hc => List.mem_append_right _ hc
    have hiff := processQueue_ok_iff regions hplain chains hfirst false s
    rw [List.flatten_cons, List.forall_mem_append, ← hiff, processUntilEmpty]
    rcases processQueue gpu regions q chains false s with _ | ⟨_ | notify, t⟩
    · simp
    · simp
    · dsimp only
      rw [ih more hrest]
      exact (and_iff_right ⟨notify, t, rfl⟩).symm

/-- **Which events on a queue are handled.** -/
theorem handleQueueEvent_ok_iff (regions : List GuestRegion) (hplain : gpu.Plain)
    (hq : q.HasTable size q.served) (s : WorkerState σ) :
    (∃ t, handleQueueEvent gpu regions q s = some (.ok (), t)) ↔ q.Handled size := by
  unfold handleQueueEvent DeviceQueue.Handled
  rcases hkick : q.readKick with e | _ | _
  · simp
  · simp
  · cases hlock : q.tryLockQueue with
    | false => simp
    | true =>
      cases hidx : q.eventIdxEnabled with
      | true =>
        have hserved : q.served = q.avail ++ q.later.flatten := by rw [DeviceQueue.served, hidx]; rfl
        have hiff := processUntilEmpty_ok_iff regions hplain q.later q.avail (hserved ▸ hq) s
        simpa [hserved] using hiff
      | false =>
        have hserved : q.served = q.avail := by rw [DeviceQueue.served, hidx]; rfl
        have hiff := processQueue_ok_iff regions hplain q.avail (hserved ▸ hq) false s
        rw [hserved]
        rcases hrun : processQueue gpu regions q q.avail false s with _ | ⟨_ | notify, t⟩ <;>
          simp [hrun] at hiff ⊢ <;> simpa using hiff

end

/-! ### The loop -/

namespace GpuWorker

inductive WorkerToken
  | quit
  | controlQ
  | cursorQ
  | poll
  deriving DecidableEq

/-- An event, with the guest memory and the queue that its handling finds. -/
inductive WorkerEvent
  | quit
  | controlQ (regions : List GuestRegion) (q : DeviceQueue)
  | cursorQ (regions : List GuestRegion) (q : DeviceQueue)
  | poll

def WorkerEvent.token : WorkerEvent → WorkerToken
  | .quit => .quit
  | .controlQ _ _ => .controlQ
  | .cursorQ _ _ => .cursorQ
  | .poll => .poll

inductive RunError
  | wait
  | device (e : DeviceError)
  deriving DecidableEq

/-- The worker with the events that it has handled, and with what was done to their queues; `result`
is what `run` returns. -/
structure RunState (σ : Type) where
  gpu : σ
  handled : List (WorkerToken × List QueueOp)
  result : Option (Except RunError Unit)

section

variable {σ : Type} (gpu : VirtioGpu σ) (eventPoll : σ → Option σ)

/-- An arm that calls `handle_queue_event`. -/
def queueEvent (token : WorkerToken) (regions : List GuestRegion) (q : DeviceQueue)
    (s : RunState σ) : Except (RunState σ) (Flow × RunState σ) :=
  match handleQueueEvent gpu regions q (.new s.gpu) with
  | none => .error s
  | some (.error e, w) => .ok (.leave, { s with gpu := w.gpu, result := some (.error (.device e)) })
  | some (.ok (), w) =>
    .ok (.next, { s with gpu := w.gpu, handled := s.handled ++ [(token, w.ops)] })

/-- The body of the loop over a batch. -/
def handleEvent (event : WorkerEvent) (s : RunState σ) : Except (RunState σ) (Flow × RunState σ) :=
  match event with
  | .quit => .ok (.leave, { s with result := some (.ok ()) })
  | .controlQ regions q => queueEvent gpu .controlQ regions q s
  | .cursorQ regions q => queueEvent gpu .cursorQ regions q s
  | .poll =>
    match eventPoll s.gpu with
    | none => .error s
    | some g => .ok (.next, { s with gpu := g, handled := s.handled ++ [(.poll, [])] })

/-- The body of the outer loop, with what `wait` returns. -/
def handleWait (wait : Except Unit (List WorkerEvent)) (s : RunState σ) :
    Except (RunState σ) (Flow × RunState σ) :=
  match wait with
  | .error () => .ok (.leave, { s with result := some (.error .wait) })
  | .ok events => innerLoop (handleEvent gpu eventPoll) events s

def run (waits : List (Except Unit (List WorkerEvent))) (g : σ) : Exit (RunState σ) :=
  waitLoop (handleWait gpu eventPoll) waits { gpu := g, handled := [], result := none }

/-! ### One loop -/

/-- What a wait brings, one after the other; `none` is a wait that failed. -/
def itemsOf : Except Unit (List WorkerEvent) → List (Option WorkerEvent)
  | .error () => [none]
  | .ok events => events.map some

/-- All that the waits bring. -/
def items (waits : List (Except Unit (List WorkerEvent))) : List (Option WorkerEvent) :=
  (waits.map itemsOf).flatten

def handleItem (item : Option WorkerEvent) (s : RunState σ) :
    Except (RunState σ) (Flow × RunState σ) :=
  match item with
  | none => .ok (.leave, { s with result := some (.error .wait) })
  | some event => handleEvent gpu eventPoll event s

theorem innerLoop_map_some (events : List WorkerEvent) : ∀ s : RunState σ,
    innerLoop (handleItem gpu eventPoll) (events.map some) s =
      innerLoop (handleEvent gpu eventPoll) events s := by
  induction events with
  | nil => exact fun _ => rfl
  | cons event events ih =>
    intro s
    rw [List.map_cons, innerLoop, innerLoop, handleItem]
    rcases handleEvent gpu eventPoll event s with r | ⟨_ | _, r⟩
    · rfl
    · exact ih r
    · rfl

theorem handleWait_eq (wait : Except Unit (List WorkerEvent)) (s : RunState σ) :
    handleWait gpu eventPoll wait s = innerLoop (handleItem gpu eventPoll) (itemsOf wait) s := by
  cases wait with
  | error => rfl
  | ok events => exact (innerLoop_map_some gpu eventPoll events s).symm

/-- **The batches do not matter.** -/
theorem run_eq (waits : List (Except Unit (List WorkerEvent))) (g : σ) :
    run gpu eventPoll waits g = waitLoop (handleItem gpu eventPoll) (items waits) ⟨g, [], none⟩ := by
  have hwait (s : RunState σ) : waitLoop (handleWait gpu eventPoll) waits s =
      waitLoop (innerLoop (handleItem gpu eventPoll)) (waits.map itemsOf) s := by
    induction waits generalizing s with
    | nil => rfl
    | cons wait waits ih =>
      rw [List.map_cons, waitLoop, waitLoop, handleWait_eq]
      rcases innerLoop (handleItem gpu eventPoll) (itemsOf wait) s with r | ⟨_ | _, r⟩
      · rfl
      · exact ih r
      · rfl
  rw [run, hwait, waitLoop_innerLoop, items]

/-! ### The life of the worker -/

/-- What the waits bring before the first `Quit`. -/
def beforeQuit (waits : List (Except Unit (List WorkerEvent))) : List (Option WorkerEvent) :=
  (items waits).takeWhile fun item => item.map WorkerEvent.token ≠ some .quit

/-- **The worker obeys**: it returns without an error, and it has handled just the events that were
delivered before the first `Quit`, in their order. -/
def ObeysQuit (waits : List (Except Unit (List WorkerEvent))) (g : σ) : Prop :=
  ∃ t, run gpu eventPoll waits g = .returned t ∧ t.result = some (.ok ()) ∧
    t.handled.map (fun entry => some entry.1) =
      (beforeQuit waits).map fun item => item.map WorkerEvent.token

/-- What the waits bring lets the worker go on. -/
def Survives (size : Nat) : Option WorkerEvent → Prop
  | none | some .quit => False
  | some (.controlQ _ q) | some (.cursorQ _ q) => q.Handled size
  | some .poll => True

/-- The queue of an event, with its descriptor table. -/
def HasTable (size : Nat) : Option WorkerEvent → Prop
  | some (.controlQ _ q) | some (.cursorQ _ q) => q.HasTable size q.served
  | none | some .quit | some .poll => True

end

section

variable {σ : Type} {gpu : VirtioGpu σ} {eventPoll : σ → Option σ} {size : Nat}

theorem queueEvent_next {token : WorkerToken} {regions : List GuestRegion} {q : DeviceQueue}
    {s t : RunState σ} (h : queueEvent gpu token regions q s = .ok (.next, t)) :
    t.handled.map Prod.fst = s.handled.map Prod.fst ++ [token] := by
  unfold queueEvent at h
  split at h
  case h_1 => cases h
  case h_2 => cases h
  case h_3 => cases h; simp

theorem queueEvent_next_iff (hplain : gpu.Plain) (token : WorkerToken) (regions : List GuestRegion)
    {q : DeviceQueue} (hq : q.HasTable size q.served) (s : RunState σ) :
    (∃ t, queueEvent gpu token regions q s = .ok (.next, t)) ↔ q.Handled size := by
  rw [← handleQueueEvent_ok_iff regions hplain hq (.new s.gpu), queueEvent]
  rcases handleQueueEvent gpu regions q (.new s.gpu) with _ | ⟨_ | _, w⟩ <;> simp

/-- What goes on is recorded. -/
theorem handleItem_next {item : Option WorkerEvent} {s t : RunState σ}
    (h : handleItem gpu eventPoll item s = .ok (.next, t)) :
    t.handled.map Prod.fst = s.handled.map Prod.fst ++ (item.map WorkerEvent.token).toList := by
  cases item with
  | none => cases h
  | some event =>
    cases event with
    | quit => cases h
    | controlQ regions q | cursorQ regions q => exact queueEvent_next h
    | poll =>
      unfold handleItem handleEvent at h
      dsimp only at h
      split at h
      case h_1 => cases h
      case h_2 => cases h; simp [WorkerEvent.token]

/-- What goes on is what the worker survives. -/
theorem handleItem_next_iff (hplain : gpu.Plain) (hpoll : ∀ s, (eventPoll s).isSome)
    {item : Option WorkerEvent} (htable : HasTable size item) (s : RunState σ) :
    (∃ t, handleItem gpu eventPoll item s = .ok (.next, t)) ↔ Survives size item := by
  cases item with
  | none => simp [handleItem, Survives]
  | some event =>
    cases event with
    | quit => simp [handleItem, handleEvent, Survives]
    | controlQ regions q | cursorQ regions q => exact queueEvent_next_iff hplain _ regions htable s
    | poll =>
      obtain ⟨g, hg⟩ := Option.isSome_iff_exists.mp (hpoll s.gpu)
      simp [handleItem, handleEvent, Survives, hg]

/-- The worker returns without an error at a `Quit` alone, and changes nothing there. -/
theorem handleItem_leave_ok {item : Option WorkerEvent} {s t : RunState σ}
    (h : handleItem gpu eventPoll item s = .ok (.leave, t)) (hok : t.result = some (.ok ())) :
    item = some .quit ∧ t.handled = s.handled := by
  have hqueue {token : WorkerToken} {regions : List GuestRegion} {q : DeviceQueue} :
      queueEvent gpu token regions q s ≠ .ok (.leave, t) := by
    intro hq
    unfold queueEvent at hq
    split at hq
    case h_1 => cases hq
    case h_2 => cases hq; cases hok
    case h_3 => cases hq
  cases item with
  | none => cases h; cases hok
  | some event =>
    cases event with
    | quit => cases h; exact ⟨rfl, rfl⟩
    | controlQ regions q | cursorQ regions q => exact absurd h hqueue
    | poll =>
      unfold handleItem handleEvent at h
      dsimp only at h
      split at h <;> cases h

theorem ne_quit_of_survives {item : Option WorkerEvent} (h : Survives size item) :
    item.map WorkerEvent.token ≠ some .quit := by
  cases item with
  | none => exact nofun
  | some event => cases event <;> first | exact absurd h id | exact nofun

/-- The tokens of what has gone on. -/
theorem handled_of_innerLoop {as : List (Option WorkerEvent)} {s t : RunState σ}
    (h : innerLoop (handleItem gpu eventPoll) as s = .ok (.next, t))
    (hs : s.handled = []) (has : ∀ a ∈ as, Survives size a) :
    t.handled.map (fun entry => some entry.1) = as.map fun item => item.map WorkerEvent.token := by
  have hrecord := innerLoop_record (fun s => s.handled.map Prod.fst)
    (fun item => (item.map WorkerEvent.token).toList) (fun _ _ _ => handleItem_next) as s t h
  have htokens : ∀ as : List (Option WorkerEvent), (∀ a ∈ as, Survives size a) →
      (as.flatMap fun item => (item.map WorkerEvent.token).toList).map some =
        as.map fun item => item.map WorkerEvent.token := by
    intro as
    induction as with
    | nil => exact fun _ => rfl
    | cons a as ih =>
      intro has
      rw [List.forall_mem_cons] at has
      cases a with
      | none => exact absurd has.1 id
      | some event => simp [ih has.2]
  rw [← htokens as has, ← List.nil_append (as.flatMap _), ← List.map_nil (f := Prod.fst), ← hs,
    ← hrecord, List.map_map]
  rfl

/-- What the waits bring, around the first `Quit`. -/
theorem items_split {waits : List (Except Unit (List WorkerEvent))}
    (h : some .quit ∈ items waits) :
    ∃ after, items waits = beforeQuit waits ++ some .quit :: after := by
  let p (item : Option WorkerEvent) : Bool := item.map WorkerEvent.token ≠ some .quit
  have hsplit : beforeQuit waits ++ (items waits).dropWhile p = items waits :=
    List.takeWhile_append_dropWhile
  cases hrest : (items waits).dropWhile p with
  | nil =>
    rw [hrest, List.append_nil] at hsplit
    rw [← hsplit] at h
    exact absurd (List.mem_takeWhile_imp h) (by simp [WorkerEvent.token])
  | cons a after =>
    have ha : p a = false := by
      have hhead := List.head_dropWhile_not p (l := items waits) (by rw [hrest]; exact nofun)
      simpa only [hrest, List.head_cons] using hhead
    have hquit : a = some .quit := by
      cases a with
      | none => simp [p] at ha
      | some event => cases event <;> simp [p, WorkerEvent.token] at ha ⊢
    rw [hrest, hquit] at hsplit
    exact ⟨after, hsplit.symm⟩

end

end GpuWorker

end VirtioPoc.Gpu
