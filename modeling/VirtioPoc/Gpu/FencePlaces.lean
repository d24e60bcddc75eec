import VirtioPoc.Gpu.FenceSystem
import Mathlib.Data.List.Perm.Basic

/-!
# Where the requests are

Every request that was popped is in one place: in a used ring, in the table of
fences, or in the hand of the worker or of the fence handler.  But the handler
takes a descriptor from the table before it tries to lock the queue, and drops it
when the ring is disabled or stopped; then the request is nowhere.

`request_in_one_place` is about the runs in which this does not happen.
-/

namespace VirtioPoc.Gpu

open Base

namespace FenceSystem

/-! ### Where a request is -/

/-- The requests that a used ring has elements for. -/
def usedOn (s : FenceSystem) (ring : QueueId) : List Request :=
  (s.used.filter (·.ring = ring)).map (·.request)

/-- The requests that the table has descriptors for. -/
def parked (s : FenceSystem) : List Request := s.fenceState.descs.map (·.descIndex)

/-- All the requests that are somewhere. -/
def places (s : FenceSystem) : List Request :=
  s.used.map (·.request) ++ s.parked ++ s.worker.hand.toList ++ s.handler.hand.toList

end FenceSystem

def HandlerPc.adding : HandlerPc → Bool
  | .addingUsed .. => true
  | _ => false

theorem Request.hand_encode (r : Request) (response : GpuResponse) :
    (r.encode response).hand = some r := by
  unfold Request.encode
  split
  · rfl
  · rfl
  · split <;> rfl

theorem Request.hand_execute (r : Request) (result : Option GpuResponse) :
    (r.execute result).hand = some r := by
  have hanswer (response : GpuResponse) : (r.answer response).hand = some r := by
    unfold Request.answer
    split
    · rfl
    · split
      · rfl
      · exact r.hand_encode response
  unfold Request.execute
  split
  · rfl
  · exact hanswer _
  · exact hanswer _

namespace FenceSystem

/-- **The places of the requests**: each request that was popped is in one place. -/
structure Placed (s : FenceSystem) : Prop where
  count : ∀ r, s.popped.count r = s.places.count r
  serial : ∀ r ∈ s.popped, r.serial < s.popped.length
  nodup : s.popped.Nodup
  ring : ∀ u ∈ s.used, u.ring = .control ∨ u.ring = u.request.queue

theorem count_places (s : FenceSystem) (r : Request) : s.places.count r =
    (s.used.map (·.request)).count r + s.parked.count r + s.worker.hand.toList.count r +
      s.handler.hand.toList.count r := by
  rw [places, List.count_append, List.count_append, List.count_append]

theorem placed_new (enabled ready : QueueId → Bool) : (new enabled ready).Placed where
  count _ := rfl
  serial _ hr := absurd hr List.not_mem_nil
  nodup := List.nodup_nil
  ring _ hu := absurd hu List.not_mem_nil

/-! ### What a step moves -/

/-- The request that the handler drops, if it has one in hand and finds the control ring disabled or,
under the lock, stopped. -/
def dropped (s : FenceSystem) : FenceAction → Option Request
  | .handlerStep _ =>
    match s.handler with
    | .tryingLock _ _ desc => if s.enabled .control then none else some desc.descIndex
    | .locking _ _ desc => if s.lockable .control then none else some desc.descIndex
    | _ => none
  | _ => none

/-- Where the parts are the same, so are the places. -/
theorem count_places_congr {s t : FenceSystem} {r : Request} (hused : t.used = s.used)
    (hparked : t.parked = s.parked) (hworker : t.worker.hand = s.worker.hand)
    (hhandler : t.handler.hand = s.handler.hand) :
    t.places.count r = s.places.count r := by
  rw [count_places, count_places, hused, hparked, hworker, hhandler]

theorem count_places_pop {s : FenceSystem} (hhand : s.worker.hand = none) (queue : QueueId)
    (chain : RequestChain) (r : Request) : (s.pop queue chain).places.count r =
      s.places.count r + [(⟨queue, s.popped.length, chain⟩ : Request)].count r := by
  have hhand' : (s.pop queue chain).worker.hand = some ⟨queue, s.popped.length, chain⟩ := by
    show WorkerPc.hand (if _ then _ else _) = _
    split <;> rfl
  rw [count_places, count_places, hhand, hhand']
  show (s.used.map _).count r + s.parked.count r + _ + s.handler.hand.toList.count r = _
  simp only [Option.toList_some, Option.toList_none, List.count_nil]
  omega

/-- `process_fence` parks the request in hand, or lets the worker go on with it. -/
theorem count_places_processFence {s : FenceSystem} {r : Request} {len : UInt32}
    (hw : s.worker = .processingFence r len) (r' : Request) :
    (s.processFence r len).places.count r' = s.places.count r' := by
  unfold FenceSystem.processFence FenceState.processFence
  split
  · -- parked: from the hand to the table
    rw [count_places, count_places, hw]
    simp only [parked, WorkerPc.hand, List.map_append, List.map_cons, List.map_nil,
      List.count_append, Option.toList_some, Option.toList_none, List.count_nil,
      Bool.false_eq_true, if_false]
    omega
  · exact count_places_congr rfl rfl (by rw [hw]; rfl) rfl

/-- The handler takes a descriptor: the request goes from the table to its hand. -/
theorem count_places_scanTake {s : FenceSystem} {fence : RutabagaFence} {i : Nat}
    {desc : FenceDescriptor Request} (hh : s.handler = .scanning fence i)
    (hd : s.fenceState.descs[i]? = some desc) (r : Request) :
    { s with
      fenceState := s.fenceState.remove i
      handler := .tryingLock fence i desc : FenceSystem }.places.count r = s.places.count r := by
  obtain ⟨hi, hget⟩ := List.getElem?_eq_some_iff.mp hd
  have herase := List.getElem_cons_eraseIdx_perm hi
  rw [hget] at herase
  have hparked : s.parked.count r =
      (desc.descIndex :: (s.fenceState.descs.eraseIdx i).map (·.descIndex)).count r :=
    ((herase.map FenceDescriptor.descIndex).count_eq r).symm
  rw [count_places, count_places, hh, hparked]
  simp only [parked, HandlerPc.hand, FenceState.remove, List.count_cons,
    Option.toList_some, Option.toList_none, List.count_nil]
  omega

/-- A request goes from the hand of a thread to a used ring. -/
theorem count_places_addUsed {s t : FenceSystem} {ring : QueueId} {r r' : Request} {len : UInt32}
    (hused : t.used = s.used ++ [{ ring := ring, request := r, len := len }])
    (hparked : t.parked = s.parked)
    (hhand : s.worker.hand.toList.count r' + s.handler.hand.toList.count r' =
      [r].count r' + t.worker.hand.toList.count r' + t.handler.hand.toList.count r') :
    t.places.count r' = s.places.count r' := by
  have hone : [UsedElem.mk ring r len].map (·.request) = [r] := rfl
  rw [count_places, count_places, hused, hparked, List.map_append, List.count_append, hone]
  omega

/-- **What a step moves**: a request enters the places when it is popped, and leaves them only when
the handler drops it. -/
theorem count_step {s t : FenceSystem} {a : FenceAction} (hstep : s.step a = some t) (r : Request) :
    t.places.count r + (s.dropped a).toList.count r + s.popped.count r =
      s.places.count r + t.popped.count r := by
  have hsame {t : FenceSystem} (hd : s.dropped a = none) (hpopped : t.popped = s.popped)
      (hplaces : t.places.count r = s.places.count r) :
      t.places.count r + (s.dropped a).toList.count r + s.popped.count r =
        s.places.count r + t.popped.count r := by
    rw [hd, hpopped, hplaces]
    rfl
  cases transition_of_step hstep with
  | setEnabled | setReady => exact hsame rfl rfl (count_places_congr rfl rfl rfl rfl)
  | event queue hw | lockQueue queue hw =>
    refine hsame rfl rfl (count_places_congr rfl rfl ?_ rfl)
    rw [hw]
    dsimp only
    split <;> rfl
  | pop queue chain hw =>
    rw [count_places_pop (by rw [hw]; rfl)]
    show _ + List.count r [] + _ = _ + (s.popped ++ _).count r
    rw [List.count_append, List.count_nil]
    omega
  | leave queue hw => exact hsame rfl rfl (count_places_congr rfl rfl (by rw [hw]; rfl) rfl)
  | execute r' result hw =>
    exact hsame rfl rfl
      (count_places_congr rfl rfl (by rw [hw]; exact r'.hand_execute result) rfl)
  | fenceCreated r' response ok hw =>
    exact hsame rfl rfl
      (count_places_congr rfl rfl (by rw [hw]; exact r'.hand_encode response) rfl)
  | fenceFailed r' response e hw =>
    exact hsame rfl rfl (count_places_congr rfl rfl (by rw [hw]; exact r'.hand_encode e) rfl)
  | processFence r' len hw => exact hsame rfl rfl (count_places_processFence hw r)
  | workerAdded r' len hw =>
    refine hsame rfl rfl (count_places_addUsed (r := r') rfl rfl ?_)
    rw [hw]
    simp only [WorkerPc.hand, FenceSystem.addUsed, Option.toList_some, Option.toList_none,
      List.count_nil]
    omega
  | workerFailed r' len hw =>
    exact hsame rfl rfl (count_places_congr rfl rfl (by rw [hw]; rfl) rfl)
  | fenceCompleted fence hh =>
    exact hsame rfl rfl (count_places_congr rfl rfl rfl (by rw [hh]; rfl))
  | scanEnd fence i ok hh =>
    exact hsame (by rw [dropped, hh]) rfl (count_places_congr rfl rfl rfl (by rw [hh]; rfl))
  | scanTake fence i desc ok hh hd =>
    exact hsame (by rw [dropped, hh]) rfl (count_places_scanTake hh hd r)
  | scanSkip fence i desc ok hh =>
    exact hsame (by rw [dropped, hh]) rfl (count_places_congr rfl rfl rfl (by rw [hh]; rfl))
  | handlerChecks fence i desc ok hh | handlerLocks fence i desc ok hh =>
    rw [count_places, count_places, dropped, hh]
    dsimp only
    split <;> simp only [HandlerPc.hand, parked, Option.toList_some, Option.toList_none,
      List.count_nil] <;> omega
  | handlerAdded fence i desc hh =>
    refine hsame (by rw [dropped, hh]) rfl
      (count_places_addUsed (r := desc.descIndex) rfl rfl ?_)
    rw [hh]
    simp only [HandlerPc.hand, FenceSystem.addUsed, Option.toList_some, Option.toList_none,
      List.count_nil]
    omega
  | handlerFailed fence i desc hh =>
    exact hsame (by rw [dropped, hh]) rfl (count_places_congr rfl rfl rfl (by rw [hh]; rfl))

/-- A chain that is popped gets the next serial number. -/
theorem popped_step {s t : FenceSystem} {a : FenceAction} (hstep : s.step a = some t) :
    t.popped = s.popped ∨ ∃ queue chain, t.popped = s.popped ++ [⟨queue, s.popped.length, chain⟩] := by
  cases transition_of_step hstep with
  | pop queue chain => exact Or.inr ⟨queue, chain, rfl⟩
  | processFence r len =>
    refine Or.inl ?_
    unfold FenceSystem.processFence
    rfl
  | _ => exact Or.inl rfl

/-- The worker uses a chain on the queue that it took it from, the handler on the control queue. -/
theorem used_step {s t : FenceSystem} {a : FenceAction} (hstep : s.step a = some t) :
    t.used = s.used ∨ (∃ r len, s.worker = .addingUsed r len ∧ t.used = s.used ++ [⟨r.queue, r, len⟩]) ∨
    ∃ fence i desc, s.handler = .addingUsed fence i desc ∧
      t.used = s.used ++ [⟨.control, desc.descIndex, desc.len⟩] := by
  cases transition_of_step hstep with
  | workerAdded r len hw => exact Or.inr (Or.inl ⟨r, len, hw, rfl⟩)
  | handlerAdded fence i desc hh => exact Or.inr (Or.inr ⟨fence, i, desc, hh, rfl⟩)
  | processFence r len =>
    refine Or.inl ?_
    unfold FenceSystem.processFence
    rfl
  | _ => exact Or.inl rfl

/-- The requests that were popped are told apart by their serial numbers. -/
structure Distinct (s : FenceSystem) : Prop where
  serial : ∀ r ∈ s.popped, r.serial < s.popped.length
  nodup : s.popped.Nodup

theorem Distinct.step {s t : FenceSystem} (h : s.Distinct) {a : FenceAction}
    (hstep : s.step a = some t) : t.Distinct := by
  rcases popped_step hstep with hp | ⟨queue, chain, hp⟩
  · exact ⟨hp ▸ h.serial, hp ▸ h.nodup⟩
  · have hfresh : (⟨queue, s.popped.length, chain⟩ : Request) ∉ s.popped :=
      fun hm => Nat.lt_irrefl _ (h.serial _ hm)
    refine ⟨fun r hr => ?_, ?_⟩
    · rw [hp] at hr ⊢
      rw [List.length_append, List.length_singleton]
      rcases List.mem_append.mp hr with hr | hr
      · exact Nat.lt_succ_of_lt (h.serial r hr)
      · obtain rfl := List.mem_singleton.mp hr
        exact Nat.lt_succ_self _
    · rw [hp]
      exact List.nodup_append.mpr ⟨h.nodup, List.nodup_singleton _, fun a ha b hb => by
        obtain rfl := List.mem_singleton.mp hb
        exact fun he => hfresh (he ▸ ha)⟩

/-- If the handler is about to check the control ring, with a descriptor in hand, it finds the ring
enabled, and under the lock also started. -/
def RingUp (s : FenceSystem) : Prop :=
  match s.handler with
  | .tryingLock .. => s.enabled .control = true
  | .locking .. => s.lockable .control = true
  | _ => True

/-- Where the ring is up, nothing is dropped. -/
theorem RingUp.dropped_eq_none {s : FenceSystem} (h : s.RingUp) (ok : Bool) :
    s.dropped (.handlerStep ok) = none := by
  unfold RingUp at h
  cases hh : s.handler with
  | tryingLock | locking =>
    rw [hh] at h
    simp only [dropped, hh]
    exact if_pos h
  | _ => simp only [dropped, hh]

theorem Placed.step {s t : FenceSystem} (h : s.Placed) {a : FenceAction}
    (hup : ∀ ok, a = .handlerStep ok → s.RingUp) (hstep : s.step a = some t) : t.Placed := by
  have hdropped : s.dropped a = none := by
    cases a with
    | handlerStep ok => exact (hup ok rfl).dropped_eq_none ok
    | _ => rfl
  have hdistinct := Distinct.step ⟨h.serial, h.nodup⟩ hstep
  refine ⟨fun r => ?_, hdistinct.serial, hdistinct.nodup, fun u hu => ?_⟩
  · have hcount := count_step hstep r
    rw [hdropped, h.count, Option.toList_none, List.count_nil] at hcount
    omega
  · rcases used_step hstep with he | ⟨r, len, -, he⟩ | ⟨fence, i, desc, -, he⟩
    · exact h.ring u (he ▸ hu)
    · rw [he] at hu
      rcases List.mem_append.mp hu with hu | hu
      · exact h.ring u hu
      · obtain rfl := List.mem_singleton.mp hu
        exact Or.inr rfl
    · rw [he] at hu
      rcases List.mem_append.mp hu with hu | hu
      · exact h.ring u hu
      · obtain rfl := List.mem_singleton.mp hu
        exact Or.inl rfl

/-! ### Between two requests -/

/-- Neither `process_queue_chain` nor the fence handler is running, and `process_queue` has not
returned an error. -/
def AtRest (s : FenceSystem) : Prop :=
  s.worker.hand = none ∧ (s.handler = .idle ∨ ∃ desc, s.handler = .panicked desc)

/-- The handler finds the control ring up, and can add its element. -/
def QueueAvailable (s : FenceSystem) : FenceAction → Prop
  | .handlerStep addUsedSucceeds => s.RingUp ∧ (s.handler.adding = true → addUsedSucceeds = true)
  | _ => True

/-- A handler that can add its elements does not panic. -/
theorem not_panicked_step {s t : FenceSystem} {a : FenceAction} (hok : s.QueueAvailable a)
    (h : ∀ desc, s.handler ≠ .panicked desc) (hstep : s.step a = some t) :
    ∀ desc, t.handler ≠ .panicked desc := by
  intro desc
  cases transition_of_step hstep with
  | handlerFailed fence i desc hh => cases hok.2 (by rw [hh]; rfl)
  | handlerChecks | handlerLocks => dsimp only; split <;> exact nofun
  | fenceCompleted => exact nofun
  | scanEnd => exact nofun
  | scanTake => exact nofun
  | scanSkip => exact nofun
  | handlerAdded => exact nofun
  | _ => exact h desc

theorem count_usedOn_control {s : FenceSystem} (h : s.Placed) {r : Request}
    (hr : r.queue = .control) :
    (s.usedOn .control).count r = (s.used.map (·.request)).count r := by
  have hring := h.ring
  unfold usedOn
  generalize s.used = used at hring
  induction used with
  | nil => rfl
  | cons u us ih =>
    have htail := ih fun v hv => hring v (List.mem_cons_of_mem u hv)
    by_cases hu : u.ring = .control
    · rw [List.filter_cons_of_pos (by simpa using hu), List.map_cons, List.map_cons,
        List.count_cons, List.count_cons, htail]
    · -- an element of the cursor ring is not for this request
      have hne : u.request ≠ r := by
        rintro rfl
        rcases hring u List.mem_cons_self with hc | hq
        · exact hu hc
        · exact hu (hq.trans hr)
      rw [List.filter_cons_of_neg (by simpa using hu), List.map_cons,
        List.count_cons_of_ne hne, htail]

/-- Where nothing is in hand, a request is in a used ring or in the table as often as it was popped. -/
theorem Placed.atRest {s : FenceSystem} (h : s.Placed) (hrest : s.AtRest)
    (hlives : ∀ desc, s.handler ≠ .panicked desc) (r : Request) :
    (s.used.map (·.request)).count r + s.parked.count r = s.popped.count r := by
  have hidle : s.handler = .idle := by
    rcases hrest.2 with hh | ⟨desc, hh⟩
    · exact hh
    · exact absurd hh (hlives desc)
  have hcount := h.count r
  rw [count_places, hrest.1, hidle] at hcount
  simp only [HandlerPc.hand, Option.toList_none, List.count_nil] at hcount
  omega

/-- The places of a run in which the handler always finds the queue available. -/
theorem placed_of_queueAvailable {ok : FenceSystem → FenceAction → Prop} {enabled ready : QueueId → Bool}
    {s : FenceSystem} (hr : Reaches step ok (.new enabled ready) s)
    (hok : ∀ s a, ok s a → s.QueueAvailable a) :
    s.Placed ∧ ∀ desc, s.handler ≠ .panicked desc := by
  constructor
  · exact hr.invariant (placed_new enabled ready)
      fun s a _ h ha hstep => h.step (fun _ heq => by subst heq; exact (hok s _ ha).1) hstep
  · exact hr.invariant (I := fun s => ∀ desc, s.handler ≠ .panicked desc) (fun _ => nofun)
      fun s a _ h ha hstep => not_panicked_step (hok s a ha) h hstep

end FenceSystem

/-- **No request is lost or answered twice** in a run in which the handler, with a descriptor in hand,
always finds the queue available: between two requests, each request of the control queue that was
popped has exactly one element in the used ring, or exactly one descriptor in the table. -/
theorem request_in_one_place {enabled ready : QueueId → Bool} {s : FenceSystem}
    (hr : Reaches FenceSystem.step FenceSystem.QueueAvailable (.new enabled ready) s)
    (hrest : s.AtRest) {r : Request} (hpop : r ∈ s.popped) (hq : r.queue = .control) :
    ((s.usedOn .control).count r = 1 ∧ s.parked.count r = 0) ∨
    ((s.usedOn .control).count r = 0 ∧ s.parked.count r = 1) := by
  obtain ⟨h, hlives⟩ := FenceSystem.placed_of_queueAvailable hr fun _ _ => id
  have hcount := h.atRest hrest hlives r
  rw [List.count_eq_one_of_mem h.nodup hpop, ← FenceSystem.count_usedOn_control h hq] at hcount
  omega

/-! ### A request with a fence -/

namespace FenceSystem

instance (s : FenceSystem) : Decidable s.RingUp := by
  unfold RingUp
  split <;> infer_instance

instance (s : FenceSystem) : (a : FenceAction) → Decidable (s.QueueAvailable a)
  | .handlerStep _ => inferInstanceAs (Decidable (_ ∧ _))
  | .setEnabled .. | .setReady .. | .event _ | .lockQueue | .pop _ | .execute _ | .createFence _
  | .processFence | .addUsed _ | .fenceCompleted _ => .isTrue trivial

end FenceSystem

/-- A `CTX_DESTROY` with fence 1 on the global ring. -/
def fencedChain : RequestChain where
  headIndex := 3
  reader := some ([0x01, 0x02, 0, 0, 1, 0, 0, 0, 1] ++ List.replicate 15 0)
  writer := some 24

def fencedRequest : Request := { queue := .control, serial := 0, chain := fencedChain }

/-- The request is popped, and parked on its fence. -/
def parkOne : List FenceAction :=
  [.event .control, .lockQueue, .pop (some fencedChain), .execute (some .okNoData),
    .createFence (.ok .okNoData), .processFence, .pop none]

/-- The fence is complete, and the handler runs for some steps. -/
def completeOne (steps : Nat) : List FenceAction :=
  .fenceCompleted ⟨1, 1, 0, 0⟩ :: List.replicate steps (.handlerStep true)

/-- Both rings are enabled and started. -/
def bothUp : FenceSystem := .new (fun _ => true) (fun _ => true)

theorem request_in_one_place_completed : ∃ s,
    run FenceSystem.step bothUp (parkOne ++ completeOne 5) = some s ∧ s.AtRest ∧
    fencedRequest ∈ s.popped ∧
    (((s.usedOn .control).count fencedRequest = 1 ∧ s.parked.count fencedRequest = 0) ∨
      ((s.usedOn .control).count fencedRequest = 0 ∧ s.parked.count fencedRequest = 1)) := by
  have halong : Along FenceSystem.step FenceSystem.QueueAvailable bothUp
      (parkOne ++ completeOne 5) := by decide
  have hrest {s} (h : run FenceSystem.step bothUp (parkOne ++ completeOne 5) = some s) :
      s.AtRest ∧ fencedRequest ∈ s.popped := by
    cases h
    exact ⟨⟨rfl, Or.inl rfl⟩, List.mem_cons_self⟩
  have hrun : (run FenceSystem.step bothUp (parkOne ++ completeOne 5)).isSome := rfl
  obtain ⟨s, hs⟩ := Option.isSome_iff_exists.mp hrun
  exact ⟨s, hs, (hrest hs).1, (hrest hs).2,
    request_in_one_place (reaches_of_run _ _ hs halong) (hrest hs).1 (hrest hs).2 rfl⟩

/-- The ring is disabled while the request is parked. -/
def loseOne : List FenceAction := parkOne ++ .setEnabled .control false :: completeOne 3

/-- **The lost request**: when the fence is complete, the handler takes the descriptor from the table,
finds the ring disabled, and drops it. -/
theorem request_lost : ∃ s, run FenceSystem.step bothUp loseOne = some s ∧
    Reaches FenceSystem.step (fun _ _ => True) bothUp s ∧ s.AtRest ∧
    fencedRequest ∈ s.popped ∧ fencedRequest.queue = .control ∧
    fencedRequest ∉ s.usedOn .control ∧ fencedRequest ∉ s.parked :=
  ⟨_, rfl, reaches_of_run_any loseOne rfl, ⟨rfl, Or.inl rfl⟩, List.mem_cons_self, rfl,
    List.not_mem_nil, List.not_mem_nil⟩

end VirtioPoc.Gpu
