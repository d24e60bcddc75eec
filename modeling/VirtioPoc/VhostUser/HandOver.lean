import VirtioPoc.Base.Slots
import VirtioPoc.VhostUser.Panics
import VirtioPoc.VhostUser.SetupOrder
import VirtioPoc.VhostUser.VringSettings

/-!
# Handing over a ring

In a migration a ring goes from one backend to another.  `get_vring_base` stops it
and tells its next available index.  The other backend gets this index by
`set_vring_base`, and the size and the addresses by `set_vring_num` and
`set_vring_addr`; the next used index it finds in guest memory by itself.

The machine is one ring with its driver, the backend in charge and the frontend.
The driver and the device share the two rings of slots, and the queue of the
handler has the device's indices.  `hand_over_exact` says that nothing is popped or
seen twice or left out, however often the ring is handed over; but what is in
flight at that moment is returned by nobody.
-/

namespace VirtioPoc.VhostUser

open Base

/-! ### The ring -/

section

variable {A : Type}

/-- `pop_descriptor_chain`. -/
def Queue.pop (q : Queue) (avail : Slots A) : Option (A × Queue) :=
  if q.ready then
    (avail.get q.size q.nextAvail).map fun a => (a, q.setNextAvail (q.nextAvail + 1))
  else none

/-- `go_to_previous_position`. -/
def Queue.goToPreviousPosition (q : Queue) : Queue := q.setNextAvail (q.nextAvail - 1)

def Queue.addUsed (q : Queue) (used : Slots A) (a : A) : Slots A × Queue :=
  (used.put q.size q.nextUsed a, q.setNextUsed (q.nextUsed + 1))

end

/-- A ring in guest memory, with its driver, the backend in charge, and what has happened.
`inFlight` is what this backend has popped and not returned, `lost` what those before it had in
flight when they lost the ring. -/
structure Migration (δ A : Type) where
  (avail used : Slots A)
  lastUsed : UInt16
  handler : VhostUserHandler δ
  (inFlight lost : List A)
  (published popped returned consumed : List A)

inductive MigrationAction (δ File A : Type)
  | publish (a : A)
  | consume
  | pop
  | putBack
  | addUsed (a : A)
  | message (msg : Message File) (env : Env)
  | takeOver (env : Env) (dest : VhostUserHandler δ) (settings : List (Message File × Env))

namespace Migration

variable {δ File A : Type} [DecidableEq A]

/-- The driver publishes only as many chains as it has descriptors for.  A chain can be put back by
the device that has just popped it.  For `takeOver` the frontend asks for the base, and makes the
settings at the other backend; all of them have to be acknowledged. -/
def step (vm : VmMemory File) (dev : VhostUserDevice δ) (size : UInt16) (index : UInt32)
    (s : Migration δ A) : MigrationAction δ File A → Option (Migration δ A)
  | .publish a =>
    if s.published.length < s.consumed.length + size.toNat then
      some { s with avail := s.avail.put size s.avail.idx a, published := s.published ++ [a] }
    else none
  | .consume =>
    (s.used.get size s.lastUsed).map fun a =>
      { s with lastUsed := s.lastUsed + 1, consumed := s.consumed ++ [a] }
  | .pop =>
    match s.handler.vrings[index.toNat]? with
    | none => none
    | some vring =>
      (vring.queue.pop s.avail).map fun p => { s with
        handler := s.handler.setVring index.toNat { vring with queue := p.2 }
        inFlight := s.inFlight ++ [p.1], popped := s.popped ++ [p.1] }
  | .putBack =>
    match s.handler.vrings[index.toNat]?, s.inFlight.getLast? with
    | some vring, some a =>
      if s.popped.getLast? = some a then
        let queue := vring.queue.goToPreviousPosition
        some { s with
          handler := s.handler.setVring index.toNat { vring with queue := queue }
          inFlight := s.inFlight.dropLast, popped := s.popped.dropLast }
      else none
    | _, _ => none
  | .addUsed a =>
    match s.handler.vrings[index.toNat]? with
    | none => none
    | some vring =>
      if a ∈ s.inFlight then
        let p := vring.queue.addUsed s.used a
        some { s with
          used := p.1, handler := s.handler.setVring index.toNat { vring with queue := p.2 }
          inFlight := s.inFlight.erase a, returned := s.returned ++ [a] }
      else none
  | .message msg env => (s.handler.handle vm dev env msg).map fun p => { s with handler := p.2 }
  | .takeOver env dest settings =>
    match s.handler.getVringBase env index,
      answers (fun h a => VhostUserHandler.handle vm dev a.2 h a.1) dest settings with
    | some (.ok _, _), some (rs, handler) =>
      if rs.all fun p => p.2.isOk then
        some { s with handler := handler, inFlight := [], lost := s.lost ++ s.inFlight }
      else none
    | _, _ => none

/-- Where the descriptor table and the two rings are. -/
structure RingPlace where
  (descTable availRing usedRing : UInt64)

/-- The frontend hands over what it has been told: the settings are different ones, and among them
are the size, the base and the addresses of the ring.  They have to be in the memory of the other
backend, which finds there the used index that the device has left.  The old backend does nothing
more with the ring. -/
structure TakesOver (size : UInt16) (index : UInt32) (place : RingPlace) (s : Migration δ A)
    (env : Env) (dest : VhostUserHandler δ) (settings : List (Message File × Env)) : Prop where
  setup : ∀ a ∈ settings, VhostUserHandler.Setup a.1
  places : settings.Pairwise fun a b => ∀ p, VhostUserHandler.place a.1 = some p →
    VhostUserHandler.place b.1 ≠ some p
  num : ∃ env, (.setVringNum index size.toUInt32, env) ∈ settings
  base : ∀ base h, s.handler.getVringBase env index = some (.ok (.vringState index base), h) →
    ∃ env, (.setVringBase index base, env) ∈ settings
  addr : ∃ descriptor used available env,
    (.setVringAddr index descriptor used available, env) ∈ settings ∧
      dest.ringAddresses descriptor used available =
        some (.ok (place.descTable, place.availRing, place.usedRing)) ∧
      env.usedIdx dest.memTable.atomicMem place.usedRing = some s.used.idx
  fits : ∀ vring, dest.vrings[index.toNat]? = some vring → size ≤ vring.queue.maxSize

/-- What the frontend does: at a backend in charge it leaves the size, the addresses and the index of
the ring alone. -/
def Orderly (size : UInt16) (index : UInt32) (place : RingPlace) (s : Migration δ A) :
    MigrationAction δ File A → Prop
  | .message msg _ => ∀ setting, VhostUserHandler.place msg = some (index.toNat, setting) →
    setting = .err ∨ setting = .enabled
  | .takeOver env dest settings => s.TakesOver size index place env dest settings
  | _ => True

end Migration

/-! ### What a message leaves of a queue -/

theorem Queue.IsPowerOfTwo.dvd {n : UInt16} (h : IsPowerOfTwo n) : n.toNat ∣ 65536 := by
  obtain ⟨hne, hand⟩ := h
  have hpos : n.toNat ≠ 0 := fun h0 => hne (UInt16.toNat_inj.mp h0)
  have hsub : (n - 1).toNat = n.toNat - 1 :=
    UInt16.toNat_sub_of_le _ _ (by rw [UInt16.le_iff_toNat_le]; exact Nat.pos_of_ne_zero hpos)
  have hland : n.toNat &&& (n.toNat - 1) = 0 := by
    rw [← hsub, ← UInt16.toNat_and, hand]
    rfl
  obtain ⟨k, hk⟩ := (Nat.and_sub_one_eq_zero_iff_isPowerOfTwo hpos).mp hland
  have hlt := n.toNat_lt
  rw [hk] at hlt ⊢
  have hk16 : k < 16 := (Nat.pow_lt_pow_iff_right (by decide)).mp hlt
  exact pow_dvd_pow 2 hk16.le

theorem Vring.setQueueInfo_ok (v : Vring) {v' : Vring} {descTable availRing usedRing : UInt64}
    (h : v.setQueueInfo descTable availRing usedRing = (.ok (), v')) :
    v' = { v with queue := { v.queue with
      descTable := descTable, availRing := availRing, usedRing := usedRing } } := by
  unfold setQueueInfo Queue.trySetDescTableAddress Queue.trySetAvailRingAddress
    Queue.trySetUsedRingAddress at h
  by_cases hdesc : descTable &&& 0xf ≠ 0
  · simp only [if_pos hdesc] at h
    cases h
  · by_cases havail : availRing &&& 0x1 ≠ 0
    · simp only [if_neg hdesc, if_pos havail] at h
      cases h
    · by_cases hused : usedRing &&& 0x3 ≠ 0
      · simp only [if_neg hdesc, if_neg havail, if_pos hused] at h
        cases h
      · simp only [if_neg hdesc, if_neg havail, if_neg hused] at h
        cases h
        rfl

/-- A queue without what starting it and the features change. -/
def Queue.core (q : Queue) : Queue := { q with ready := false, eventIdxEnabled := false }

/-- Only three of the settings are about the queue. -/
theorem Vring.core_patch (v : Vring) {p : RingPatch}
    (hp : ∀ setting, p.setting = some setting → setting = .err ∨ setting = .enabled) :
    (v.patch p).queue.core = v.queue.core := by
  cases p with
  | keep | err | enabled => rfl
  | size | addresses | nextAvail => exact absurd (hp _ rfl) (by decide)

namespace VhostUserHandler

variable {δ File : Type} {vm : VmMemory File} {dev : VhostUserDevice δ} {env : Env}
  {h t : VhostUserHandler δ} {r : Except RequestError Reply}

/-- The queues without what starting them and the features change. -/
def cores (h : VhostUserHandler δ) : List Queue := h.vrings.map (·.queue.core)

theorem cores_setVring {index : Nat} {vring vring' : Vring} (hget : h.vrings[index]? = some vring)
    (hcore : vring'.queue.core = vring.queue.core) : (h.setVring index vring').cores = h.cores := by
  apply List.ext_getElem?
  intro j
  show ((h.vrings.set index vring').map _)[j]? = (h.vrings.map _)[j]?
  rw [List.getElem?_map, List.getElem?_map]
  by_cases hj : index = j
  · subst hj
    rw [List.getElem?_set_self (List.getElem?_eq_some_iff.mp hget).1, hget, Option.map_some,
      Option.map_some, hcore]
  · rw [List.getElem?_set_ne hj]

theorem cores_activateDevice (ht : h.activateDevice dev = some (r, t)) : t.cores = h.cores := by
  unfold activateDevice at ht
  split at ht <;> cases ht <;> rfl

theorem cores_initializeVring {index : Nat} {updateEpolls : Bool}
    (ht : h.initializeVring dev index updateEpolls = some (r, t)) : t.cores = h.cores := by
  unfold initializeVring at ht
  split at ht
  case h_1 => cases ht
  case h_2 vring hget =>
    split at ht
    case isFalse => cases ht; rfl
    case isTrue =>
      split at ht
      case h_1 => cases ht
      case h_2 vring' hstart =>
        obtain rfl : { vring with queue := vring.queue.setReady true } = vring' :=
          congrArg Prod.snd hstart
        have hcores :
            (h.setVring index { vring with queue := vring.queue.setReady true }).cores = h.cores :=
          cores_setVring hget rfl
        dsimp only at ht
        split at ht
        case isFalse => cases ht; exact hcores
        case isTrue => exact (cores_activateDevice ht).trans hcores

theorem core_of_stopVrings : ∀ {vrings vrings' : List Vring} {k : Nat},
    stopVrings env k vrings = some vrings' →
      vrings'.map (·.queue.core) = vrings.map (·.queue.core) := by
  intro vrings
  induction vrings with
  | nil =>
    intro vrings' k h
    cases h
    rfl
  | cons vring rest ih =>
    intro vrings' k h
    rw [stopVrings] at h
    split at h
    case h_1 => cases h
    case h_2 stopped hstop =>
      split at h
      case h_1 => cases h
      case h_2 rest' hrest =>
        obtain ⟨-, hv⟩ := Option.ite_none_right_eq_some.mp hstop
        cases hv
        cases h
        rw [List.map_cons, List.map_cons, ih hrest]
        rfl

/-- The messages that are no settings leave the queues. -/
theorem cores_handle {msg : Message File} (hmsg : ¬ Setup msg)
    (ht : h.handle vm dev env msg = some (r, t)) : t.cores = h.cores := by
  cases msg with
  | getVringBase index =>
    unfold handle getVringBase at ht
    dsimp only at ht
    split at ht
    case h_1 => cases ht; rfl
    case h_2 vring hget =>
      split at ht
      case h_1 => cases ht
      case h_2 stopped hstop =>
        obtain ⟨-, hv⟩ := Option.ite_none_right_eq_some.mp hstop
        cases hv
        dsimp only at ht
        split at ht
        case h_1 => cases ht
        case h_2 vring' hkick =>
          obtain rfl : { vring with queue := vring.queue.setReady false, kick := none } = vring' :=
            congrArg Prod.snd hkick
          cases ht
          exact cores_setVring hget rfl
  | setVringKick index file =>
    unfold handle setVringKick at ht
    dsimp only at ht
    split at ht
    case h_1 => cases ht; rfl
    case h_2 vring hget =>
      split at ht
      case h_1 => cases ht
      case h_2 vring' hkick =>
        obtain rfl : { vring with kick := file } = vring' := congrArg Prod.snd hkick
        exact (cores_initializeVring ht).trans (cores_setVring hget rfl)
  | setVringCall index file =>
    unfold handle setVringCall at ht
    dsimp only at ht
    split at ht
    case h_1 => cases ht; rfl
    case h_2 vring hget => exact (cores_initializeVring ht).trans (cores_setVring hget rfl)
  | resetDevice =>
    unfold handle resetDevice at ht
    dsimp only at ht
    split at ht
    case h_1 => cases ht
    case h_2 vrings hstop =>
      split at ht
      case h_1 | h_2 => cases ht
      case h_3 =>
        cases ht
        exact core_of_stopVrings hstop
  | setFeatures features =>
    unfold handle setFeatures at ht
    dsimp only at ht
    split at ht
    case isTrue => cases ht; rfl
    case isFalse =>
      split at ht
      case h_1 => cases ht
      case h_2 =>
        cases ht
        show (h.vrings.map _).map _ = h.vrings.map _
        rw [List.map_map]
        apply List.map_congr_left
        intro vring _
        show (ringFeatures features vring).queue.core = vring.queue.core
        unfold ringFeatures
        dsimp only
        split <;> rfl
  | memory msg =>
    unfold handle memory at ht
    dsimp only at ht
    split at ht <;> cases ht <;> rfl
  | setConfig offset buf =>
    unfold handle setConfig at ht
    dsimp only at ht
    split at ht <;> cases ht <;> rfl
  | setOwner =>
    unfold handle setOwner at ht
    dsimp only at ht
    split at ht <;> cases ht <;> rfl
  | setLogBase =>
    unfold handle setLogBase at ht
    dsimp only at ht
    split at ht <;> cases ht <;> rfl
  | setDeviceStateFd | checkDeviceState => cases ht
  | resetOwner | setProtocolFeatures | setGpuSocket => cases ht; rfl
  | _ => exact absurd trivial hmsg

/-- **A message that does not set the queue of a ring** leaves it, but for what starting it and the
features change. -/
theorem core_handle {msg : Message File} {i : Nat}
    (hmsg : ∀ setting, place msg = some (i, setting) → setting = .err ∨ setting = .enabled)
    (ht : h.handle vm dev env msg = some (r, t)) : t.cores[i]? = h.cores[i]? := by
  by_cases hsetup : Setup msg
  · rw [handle_eq_commit hsetup, commit] at ht
    obtain ⟨_, -, hafter⟩ := Option.map_eq_some_iff.mp ht
    obtain rfl : h.after (h.change dev env msg) = t := congrArg Prod.snd hafter
    have hset := fun setting (hc : (h.change dev env msg).setting = some (i, setting)) =>
      hmsg setting (place_of_change hc)
    unfold after
    split
    case h_1 index _ p hc =>
      rw [hc] at hset
      show ((h.vrings.modify index (·.patch p)).map _)[i]? = (h.vrings.map _)[i]?
      rw [List.getElem?_map, List.getElem?_map, List.getElem?_modify]
      by_cases hi : index = i
      · subst hi
        cases h.vrings[index]? with
        | none => rfl
        | some vring =>
          have hcore := vring.core_patch fun setting hp =>
            hset setting (by rw [Change.setting, hp]; rfl)
          simp [hcore]
      · simp [hi]
    case h_2 => rfl
  · rw [cores_handle hsetup ht]

/-- No setting changes the limit of a ring. -/
theorem maxSizes_after (c : Change) :
    (h.after c).vrings.map (·.queue.maxSize) = h.vrings.map (·.queue.maxSize) := by
  unfold after
  split
  case h_1 index _ p =>
    show (h.vrings.modify index (·.patch p)).map _ = h.vrings.map _
    have hpatch (v : Vring) : (v.patch p).queue.maxSize = v.queue.maxSize := by
      cases p with
      | size size => exact Queue.maxSize_setSize v.queue size
      | _ => rfl
    apply List.ext_getElem?
    intro j
    rw [List.getElem?_map, List.getElem?_map, List.getElem?_modify]
    cases h.vrings[j]? with
    | none => rfl
    | some vring => by_cases hj : index = j <;> simp [hj, hpatch]
  case h_2 => rfl

/-! ### What a setting that is acknowledged leaves -/


theorem size_of_setVringNum {index : UInt32} {size : UInt16} {reply : Reply}
    (hpow : Queue.IsPowerOfTwo size)
    (hfits : ∀ vring, h.vrings[index.toNat]? = some vring → size ≤ vring.queue.maxSize)
    (ht : h.setVringNum index size.toUInt32 = some (.ok reply, t)) :
    ∃ vring, t.vrings[index.toNat]? = some vring ∧ vring.queue.size = size := by
  rcases setVringNum_cases ht with ⟨hr, -⟩ | ⟨vring, maxSize, hget, hmax, hpos, hle⟩
  · cases hr
  · rw [setVringNum_of_accepted hget hmax hpos hle] at ht
    cases ht
    refine ⟨_, vrings_setVring_self hget _, ?_⟩
    have hsize : size.toUInt32.toUInt16 = size := UInt16.toUInt16_toUInt32 size
    have hvalid : ¬ (size > vring.queue.maxSize ∨ ¬ Queue.IsPowerOfTwo size) := by
      rw [not_or, not_not]
      exact ⟨UInt16.not_lt.mpr (hfits vring hget), hpow⟩
    show (vring.queue.setSize size.toUInt32.toUInt16).size = size
    rw [hsize, Queue.setSize, if_neg hvalid]

theorem nextAvail_of_setVringBase {index base : UInt32} {reply : Reply}
    (ht : h.setVringBase index base = some (.ok reply, t)) :
    ∃ vring, t.vrings[index.toNat]? = some vring ∧ vring.queue.nextAvail = base.toUInt16 := by
  unfold setVringBase at ht
  split at ht
  case h_1 => cases ht
  case h_2 vring hget =>
    cases ht
    exact ⟨_, vrings_setVring_self hget _, rfl⟩

theorem ringAddresses_congr {descriptor used available : UInt64} (hmem : t.memTable = h.memTable) :
    t.ringAddresses descriptor used available = h.ringAddresses descriptor used available := by
  unfold ringAddresses vmmVaToGpa
  rw [hmem]

theorem addresses_of_setVringAddr {index : UInt32} {reply : Reply}
    {descriptor used available descTable availRing usedRing : UInt64} {idx : UInt16}
    (haddr : h.ringAddresses descriptor used available = some (.ok (descTable, availRing, usedRing)))
    (hidx : env.usedIdx h.memTable.atomicMem usedRing = some idx)
    (ht : h.setVringAddr env index descriptor used available = some (.ok reply, t)) :
    ∃ vring, t.vrings[index.toNat]? = some vring ∧ vring.queue.descTable = descTable ∧
      vring.queue.availRing = availRing ∧ vring.queue.usedRing = usedRing ∧
      vring.queue.nextUsed = idx := by
  unfold setVringAddr at ht
  split at ht
  case isTrue => cases ht
  case isFalse =>
    rw [haddr] at ht
    dsimp only at ht
    split at ht
    case h_1 => cases ht
    case h_2 vring hget =>
      split at ht
      case h_1 => cases ht
      case h_2 vring' hset =>
        obtain rfl := vring.setQueueInfo_ok hset
        dsimp only at ht
        rw [hidx] at ht
        cases ht
        exact ⟨_, vrings_setVring_self hget _, rfl, rfl, rfl, rfl⟩

end VhostUserHandler

namespace Migration

/-! ### The ring at another backend -/

variable {δ File A : Type} {vm : VmMemory File} {dev : VhostUserDevice δ}
  {size : UInt16} {index : UInt32} {place : RingPlace} {s t : Migration δ A}

/-- The queue is that of the driver's ring, with as much popped and returned. -/
structure Serves (size : UInt16) (place : RingPlace) (popped returned : Nat) (q : Queue) : Prop where
  size : q.size = size
  descTable : q.descTable = place.descTable
  availRing : q.availRing = place.availRing
  usedRing : q.usedRing = place.usedRing
  nextAvail : q.nextAvail = .ofNat popped
  nextUsed : q.nextUsed = .ofNat returned

theorem Serves.of_core {popped returned : Nat} {q q' : Queue}
    (h : Serves size place popped returned q) (hcore : q'.core = q.core) : Serves size place popped returned q' := by
  have hfield {X : Type} (f : Queue → X) (hf : ∀ q : Queue, f q.core = f q) : f q' = f q := by
    rw [← hf q', hcore, hf q]
  exact {
    size := (hfield Queue.size fun _ => rfl).trans h.size
    descTable := (hfield Queue.descTable fun _ => rfl).trans h.descTable
    availRing := (hfield Queue.availRing fun _ => rfl).trans h.availRing
    usedRing := (hfield Queue.usedRing fun _ => rfl).trans h.usedRing
    nextAvail := (hfield Queue.nextAvail fun _ => rfl).trans h.nextAvail
    nextUsed := (hfield Queue.nextUsed fun _ => rfl).trans h.nextUsed }

/-- The settings leave the memory and the limits of the rings. -/
theorem settings_keep {settings : List (Message File × Env)} {h h' : VhostUserHandler δ}
    {rs : List ((Message File × Env) × Except RequestError Reply)}
    (hsetup : ∀ a ∈ settings, VhostUserHandler.Setup a.1)
    (ht : answers (fun h a => VhostUserHandler.handle vm dev a.2 h a.1) h settings = some (rs, h')) :
    h'.memTable = h.memTable ∧
      h'.vrings.map (·.queue.maxSize) = h.vrings.map (·.queue.maxSize) := by
  refine answers_invariant (I := fun g => g.memTable = h.memTable ∧
    g.vrings.map (·.queue.maxSize) = h.vrings.map (·.queue.maxSize)) ?_ ⟨rfl, rfl⟩ ht
  rintro ⟨msg, env⟩ ha g r g' ⟨hmem, hmax⟩ hg'
  have hmsg := hsetup _ ha
  have hkeeps := VhostUserHandler.keeps_handle hg' fun m hm => by
    rw [show msg = .memory m from hm] at hmsg
    exact hmsg
  refine ⟨hkeeps.memTable.trans hmem, Eq.trans ?_ hmax⟩
  rw [VhostUserHandler.handle_eq_commit hmsg, VhostUserHandler.commit] at hg'
  obtain ⟨_, -, hafter⟩ := Option.map_eq_some_iff.mp hg'
  obtain rfl := congrArg Prod.snd hafter
  exact VhostUserHandler.maxSizes_after _

/-- **The ring as it was** is at the backend that takes over. -/
theorem serves_of_takesOver {env : Env} {dest h : VhostUserHandler δ}
    {settings : List (Message File × Env)}
    {rs : List ((Message File × Env) × Except RequestError Reply)} {popped returned : Nat}
    {vring : Vring} (hpow : Queue.IsPowerOfTwo size)
    (hover : s.TakesOver size index place env dest settings)
    (hget : s.handler.vrings[index.toNat]? = some vring)
    (hq : Serves size place popped returned vring.queue) (hused : s.used.idx = .ofNat returned)
    (hbase : s.handler.getVringBase env index ≠ none)
    (ht : answers (fun h a => VhostUserHandler.handle vm dev a.2 h a.1) dest settings = some (rs, h))
    (hok : ∀ p ∈ rs, p.2.isOk = true) :
    ∃ vring, h.vrings[index.toNat]? = some vring ∧ Serves size place popped returned vring.queue := by
  -- each of the three settings can be taken to be the last
  have hlast {a : Message File × Env} (ha : a ∈ settings) :
      ∃ (u : VhostUserHandler δ) (reply : Reply), u.memTable = dest.memTable ∧
        u.vrings.map (·.queue.maxSize) = dest.vrings.map (·.queue.maxSize) ∧
        u.handle vm dev a.2 a.1 = some (.ok reply, h) := by
    obtain ⟨others, rs', u, r, hothers, hu, hr, hmem⟩ := answers_last
      (VhostUserHandler.pairwise_independent hover.setup hover.places) ha ht
    obtain ⟨hkept, hmax⟩ := settings_keep (fun b hb => hover.setup b (hothers b hb)) hu
    cases r with
    | error e => exact absurd (hok _ hmem) Bool.false_ne_true
    | ok reply => exact ⟨u, reply, hkept, hmax, hr⟩
  obtain ⟨env₁, hnum⟩ := hover.num
  obtain ⟨u₁, reply₁, -, hmax₁, hu₁⟩ := hlast hnum
  have hfits : ∀ vring, u₁.vrings[index.toNat]? = some vring → size ≤ vring.queue.maxSize := by
    intro vring hget
    have hring := congrArg (·[index.toNat]?) hmax₁
    simp only [List.getElem?_map, hget, Option.map_some] at hring
    obtain ⟨w, hw, hlimit⟩ := Option.map_eq_some_iff.mp hring.symm
    exact hlimit ▸ hover.fits w hw
  obtain ⟨vring₁, hget₁, hsize⟩ := VhostUserHandler.size_of_setVringNum hpow hfits hu₁
  have hreply : ∃ h', s.handler.getVringBase env index =
      some (.ok (.vringState index vring.queue.nextAvail.toUInt32), h') :=
    (VhostUserHandler.getVringBase_cases env hget).resolve_left fun hnone => hbase hnone.2
  obtain ⟨h', hh'⟩ := hreply
  obtain ⟨env₂, hbase⟩ := hover.base _ h' hh'
  obtain ⟨u₂, reply₂, -, -, hu₂⟩ := hlast hbase
  obtain ⟨vring₂, hget₂, hnext⟩ := VhostUserHandler.nextAvail_of_setVringBase hu₂
  obtain ⟨descriptor, used, available, env₃, haddr, hplace, hidx⟩ := hover.addr
  obtain ⟨u₃, reply₃, hkept₃, -, hu₃⟩ := hlast haddr
  have hplace₃ : u₃.ringAddresses descriptor used available =
      some (.ok (place.descTable, place.availRing, place.usedRing)) := by
    rw [VhostUserHandler.ringAddresses_congr hkept₃]
    exact hplace
  rw [← hkept₃] at hidx
  obtain ⟨vring₃, hget₃, hdesc, havail, husedRing, hnextUsed⟩ :=
    VhostUserHandler.addresses_of_setVringAddr hplace₃ hidx hu₃
  obtain rfl := Option.some.inj (hget₁.symm.trans hget₂)
  obtain rfl := Option.some.inj (hget₁.symm.trans hget₃)
  refine ⟨vring₁, hget₁, hsize, hdesc, havail, husedRing, ?_, hnextUsed.trans hused⟩
  rw [hnext, UInt16.toUInt16_toUInt32]
  exact hq.nextAvail

/-! ### The invariant -/

/-- The slots hold what the driver has not seen returned, the queue of the backend in charge is that
of the ring, and every chain that was popped is accounted for. -/
structure Inv (size : UInt16) (index : UInt32) (place : RingPlace) (s : Migration δ A) : Prop where
  avail : s.avail.Holds size s.published s.consumed.length
  used : s.used.Holds size s.returned s.consumed.length
  lastUsed : s.lastUsed = .ofNat s.consumed.length
  popped : s.popped <+: s.published
  consumed : s.consumed <+: s.returned
  chains : s.popped.Perm (s.returned ++ s.inFlight ++ s.lost)
  ring : ∃ vring, s.handler.vrings[index.toNat]? = some vring ∧
    Serves size place s.popped.length s.returned.length vring.queue

theorem Inv.returned_le (h : s.Inv size index place) :
    s.returned.length + s.inFlight.length ≤ s.popped.length := by
  have hlength := h.chains.length_eq
  rw [List.length_append, List.length_append] at hlength
  omega

theorem prefix_concat {l m : List A} {a : A} (h : l <+: m) (ha : m[l.length]? = some a) :
    l ++ [a] <+: m := by
  obtain ⟨rest, rfl⟩ := h
  rw [List.getElem?_append_right (Nat.le_refl _), Nat.sub_self] at ha
  cases rest with
  | nil => cases ha
  | cons b rest =>
    obtain rfl : b = a := Option.some.inj ha
    exact ⟨rest, by rw [List.append_assoc]; rfl⟩

theorem Inv.publish (h : s.Inv size index place) (hsize : size.toNat ∣ 65536) {a : A}
    (hroom : s.published.length < s.consumed.length + size.toNat) :
    Inv size index place
      { s with avail := s.avail.put size s.avail.idx a, published := s.published ++ [a] } := by
  have hput := h.avail.put hsize hroom a
  rw [← h.avail.idx] at hput
  exact ⟨hput, h.used, h.lastUsed, h.popped.trans (List.prefix_append ..), h.consumed, h.chains,
    h.ring⟩

theorem Inv.consume (h : s.Inv size index place) (hsize : size.toNat ∣ 65536) {a : A}
    (ha : s.used.get size s.lastUsed = some a) :
    Inv size index place { s with lastUsed := s.lastUsed + 1, consumed := s.consumed ++ [a] } := by
  have hle := h.consumed.length_le
  rw [h.lastUsed, h.used.get hsize (Nat.le_refl _) hle] at ha
  have hlt := (List.getElem?_eq_some_iff.mp ha).1
  have hret := h.returned_le
  have hpop := h.popped.length_le
  have hlast : s.lastUsed + 1 = .ofNat (s.consumed.length + 1) := by
    rw [h.lastUsed, Slots.ofNat_succ]
  have hlength : (s.consumed ++ [a]).length = s.consumed.length + 1 := List.length_append
  refine ⟨?_, ?_, ?_, h.popped, prefix_concat h.consumed ha, h.chains, h.ring⟩
  · show s.avail.Holds size s.published (s.consumed ++ [a]).length
    rw [hlength]
    exact h.avail.free (by omega)
  · show s.used.Holds size s.returned (s.consumed ++ [a]).length
    rw [hlength]
    exact h.used.free hlt
  · show s.lastUsed + 1 = .ofNat (s.consumed ++ [a]).length
    rw [hlength, hlast]

theorem Inv.pop (h : s.Inv size index place) (hsize : size.toNat ∣ 65536) {vring : Vring} {a : A}
    {q : Queue} (hget : s.handler.vrings[index.toNat]? = some vring)
    (hpop : vring.queue.pop s.avail = some (a, q)) :
    Inv size index place { s with
      handler := s.handler.setVring index.toNat { vring with queue := q }
      inFlight := s.inFlight ++ [a], popped := s.popped ++ [a] } := by
  obtain ⟨v, hv, hq⟩ := h.ring
  obtain rfl := Option.some.inj (hget.symm.trans hv)
  obtain ⟨-, hpop⟩ := Option.ite_none_right_eq_some.mp hpop
  obtain ⟨b, hb, hab⟩ := Option.map_eq_some_iff.mp hpop
  cases hab
  have hret := h.returned_le
  have hcons := h.consumed.length_le
  rw [hq.size, hq.nextAvail, h.avail.get hsize (by omega) h.popped.length_le] at hb
  have hlength : (s.popped ++ [a]).length = s.popped.length + 1 := List.length_append
  refine ⟨h.avail, h.used, h.lastUsed, prefix_concat h.popped hb, h.consumed, ?_, ?_⟩
  · refine (h.chains.append_right [a]).trans ?_
    show (s.returned ++ s.inFlight ++ s.lost ++ [a]).Perm (s.returned ++ (s.inFlight ++ [a]) ++ s.lost)
    simp only [List.append_assoc]
    exact (List.perm_append_comm.append_left _).append_left _
  · refine ⟨_, VhostUserHandler.vrings_setVring_self hget _, hq.size, hq.descTable, hq.availRing,
      hq.usedRing, ?_, hq.nextUsed⟩
    show vring.queue.nextAvail + 1 = .ofNat (s.popped ++ [a]).length
    rw [hlength, hq.nextAvail, Slots.ofNat_succ]

theorem Inv.putBack (h : s.Inv size index place) {vring : Vring} {a : A}
    (hget : s.handler.vrings[index.toNat]? = some vring) (hflight : s.inFlight.getLast? = some a)
    (hlast : s.popped.getLast? = some a) :
    Inv size index place { s with
      handler := s.handler.setVring index.toNat
        { vring with queue := vring.queue.goToPreviousPosition }
      inFlight := s.inFlight.dropLast, popped := s.popped.dropLast } := by
  obtain ⟨v, hv, hq⟩ := h.ring
  obtain rfl := Option.some.inj (hget.symm.trans hv)
  have hflight := List.dropLast_append_getLast? a hflight
  have hlast := List.dropLast_append_getLast? a hlast
  have hchains := h.chains
  rw [← hflight, ← hlast] at hchains
  have hlength : s.popped.dropLast.length + 1 = s.popped.length := by
    rw [← congrArg List.length hlast, List.length_append, List.length_singleton]
  refine ⟨h.avail, h.used, h.lastUsed, (List.dropLast_prefix _).trans h.popped, h.consumed, ?_, ?_⟩
  · apply (List.perm_append_right_iff [a]).mp
    refine hchains.trans ?_
    simp only [List.append_assoc]
    exact (List.perm_append_comm.append_left _).append_left _
  · refine ⟨_, VhostUserHandler.vrings_setVring_self hget _, hq.size, hq.descTable, hq.availRing,
      hq.usedRing, ?_, hq.nextUsed⟩
    show vring.queue.nextAvail - 1 = .ofNat s.popped.dropLast.length
    rw [hq.nextAvail, ← hlength, ← Slots.ofNat_succ, UInt16.add_sub_cancel]

theorem Inv.addUsed [DecidableEq A] (h : s.Inv size index place) (hsize : size.toNat ∣ 65536)
    {vring : Vring} {a : A} (hget : s.handler.vrings[index.toNat]? = some vring)
    (ha : a ∈ s.inFlight) :
    Inv size index place { s with
      used := (vring.queue.addUsed s.used a).1
      handler := s.handler.setVring index.toNat
        { vring with queue := (vring.queue.addUsed s.used a).2 }
      inFlight := s.inFlight.erase a, returned := s.returned ++ [a] } := by
  obtain ⟨v, hv, hq⟩ := h.ring
  obtain rfl := Option.some.inj (hget.symm.trans hv)
  have hpos := List.length_pos_of_mem ha
  have hret := h.returned_le
  have hpop := h.popped.length_le
  have hfits := h.avail.fits
  have hput := h.used.put hsize (by omega) a
  rw [← hq.nextUsed] at hput
  refine ⟨h.avail, ?_, h.lastUsed, h.popped, h.consumed.trans (List.prefix_append ..), ?_, ?_⟩
  · show (s.used.put vring.queue.size vring.queue.nextUsed a).Holds _ _ _
    rw [hq.size]
    exact hput
  · refine h.chains.trans ?_
    show (s.returned ++ s.inFlight ++ s.lost).Perm (s.returned ++ [a] ++ s.inFlight.erase a ++ s.lost)
    refine List.Perm.append_right _ ?_
    rw [List.append_assoc]
    exact (List.perm_cons_erase ha).append_left _
  · refine ⟨_, VhostUserHandler.vrings_setVring_self hget _, hq.size, hq.descTable, hq.availRing,
      hq.usedRing, hq.nextAvail, ?_⟩
    show vring.queue.nextUsed + 1 = .ofNat (s.returned ++ [a]).length
    rw [hq.nextUsed, Slots.ofNat_succ, List.length_append, List.length_singleton]

theorem Inv.message (h : s.Inv size index place) {msg : Message File} {env : Env}
    {r : Except RequestError Reply} {handler : VhostUserHandler δ}
    (hmsg : ∀ setting, VhostUserHandler.place msg = some (index.toNat, setting) →
      setting = .err ∨ setting = .enabled)
    (ht : s.handler.handle vm dev env msg = some (r, handler)) :
    Inv size index place { s with handler := handler } := by
  refine ⟨h.avail, h.used, h.lastUsed, h.popped, h.consumed, h.chains, ?_⟩
  obtain ⟨vring, hget, hq⟩ := h.ring
  have hcore := VhostUserHandler.core_handle hmsg ht
  rw [VhostUserHandler.cores, VhostUserHandler.cores, List.getElem?_map, List.getElem?_map, hget,
    Option.map_some] at hcore
  obtain ⟨vring', hget', hsame⟩ := Option.map_eq_some_iff.mp hcore
  exact ⟨vring', hget', hq.of_core hsame⟩

/-- **Step lemma.** -/
theorem Inv.step [DecidableEq A] (h : s.Inv size index place) (hpow : Queue.IsPowerOfTwo size)
    {a : MigrationAction δ File A} (hok : s.Orderly size index place a)
    (ht : s.step vm dev size index a = some t) : t.Inv size index place := by
  have hsize := hpow.dvd
  cases a with
  | publish a =>
    obtain ⟨hroom, ht⟩ := Option.ite_none_right_eq_some.mp ht
    cases ht
    exact h.publish hsize hroom
  | consume =>
    obtain ⟨a, ha, rfl⟩ := Option.map_eq_some_iff.mp ht
    exact h.consume hsize ha
  | pop =>
    unfold Migration.step at ht
    dsimp only at ht
    split at ht
    case h_1 => cases ht
    case h_2 vring hget =>
      obtain ⟨p, hpop, rfl⟩ := Option.map_eq_some_iff.mp ht
      exact h.pop hsize hget hpop
  | putBack =>
    unfold Migration.step at ht
    dsimp only at ht
    split at ht
    case h_1 vring a hget hflight =>
      obtain ⟨hlast, ht⟩ := Option.ite_none_right_eq_some.mp ht
      cases ht
      exact h.putBack hget hflight hlast
    case h_2 => cases ht
  | addUsed a =>
    unfold Migration.step at ht
    dsimp only at ht
    split at ht
    case h_1 => cases ht
    case h_2 vring hget =>
      obtain ⟨ha, ht⟩ := Option.ite_none_right_eq_some.mp ht
      cases ht
      exact h.addUsed hsize hget ha
  | message msg env =>
    obtain ⟨p, hp, rfl⟩ := Option.map_eq_some_iff.mp ht
    exact h.message hok hp
  | takeOver env dest settings =>
    unfold Migration.step at ht
    dsimp only at ht
    split at ht
    case h_1 reply h' rs handler hbase hsettings =>
      obtain ⟨hall, ht⟩ := Option.ite_none_right_eq_some.mp ht
      cases ht
      obtain ⟨vring, hget, hq⟩ := h.ring
      refine ⟨h.avail, h.used, h.lastUsed, h.popped, h.consumed, ?_, ?_⟩
      · refine h.chains.trans ?_
        show (s.returned ++ s.inFlight ++ s.lost).Perm (s.returned ++ [] ++ (s.lost ++ s.inFlight))
        simp only [List.append_nil, List.append_assoc]
        exact List.perm_append_comm.append_left _
      · exact serves_of_takesOver hpow hok hget hq h.used.idx
          (by rw [hbase]; exact Option.some_ne_none _) hsettings (List.all_eq_true.mp hall)
    case h_2 => cases ht

/-- The ring before anything has happened. -/
def new (handler : VhostUserHandler δ) : Migration δ A :=
  { avail := .empty, used := .empty, lastUsed := 0, handler := handler, inFlight := [], lost := []
    published := [], popped := [], returned := [], consumed := [] }

end Migration

/-- **A ring is handed over exactly.**  Whatever the driver, the backends and the frontend do in any
order, and however often the ring is handed over: what is popped is what was published, each chain
once and in order; what the driver sees returned is what was returned, each once and in order; and
each chain that was popped was returned, is in flight, or was in flight at a hand-over. -/
theorem hand_over_exact {δ File A : Type} [DecidableEq A] {vm : VmMemory File}
    {dev : VhostUserDevice δ} {size : UInt16} {index : UInt32} {place : Migration.RingPlace}
    (hpow : Queue.IsPowerOfTwo size) {h : VhostUserHandler δ} {vring : Vring}
    (hget : h.vrings[index.toNat]? = some vring)
    (hnew : Migration.Serves size place 0 0 vring.queue) {s : Migration δ A}
    (hs : Reaches (Migration.step vm dev size index)
      (fun s (a : MigrationAction δ File A) => s.Orderly size index place a) (.new h) s) :
    s.popped <+: s.published ∧ s.consumed <+: s.returned ∧
      s.popped.Perm (s.returned ++ s.inFlight ++ s.lost) ∧
      ∃ vring, s.handler.vrings[index.toNat]? = some vring ∧
        Migration.Serves size place s.popped.length s.returned.length vring.queue := by
  have hinv : s.Inv size index place := by
    refine hs.invariant (I := fun s => s.Inv size index place) ?_ fun s a t hs hok hstep =>
      hs.step hpow hok hstep
    exact ⟨.empty, .empty, rfl, List.nil_prefix, List.nil_prefix, .refl _, vring, hget, hnew⟩
  exact ⟨hinv.popped, hinv.consumed, hinv.chains, hinv.ring⟩

/-! ### A ring that is handed over -/

/-- The backend that has the ring at first. -/
def source : VhostUserHandler UInt64 :=
  { twoRingsNew with vrings := twoRingsNew.vrings.map fun vring =>
      { vring with queue := { vring.queue with availRing := 0x100, usedRing := 0x200 } } }

/-- The other one has the memory at another place. -/
def destination : VhostUserHandler UInt64 :=
  { twoRingsNew with memTable := ⟨true, [⟨0x7000, 0x1000, 0⟩], [⟨0, 0x1000⟩]⟩ }

/-- Two of three chains are popped, and the second is returned. -/
def atSource : List (MigrationAction UInt64 Bool Nat) :=
  [.message (.setVringKick 0 (some 5)) willing, .publish 3, .publish 1, .publish 4, .pop, .pop,
    .addUsed 1]

/-- In an order of its own, and with a setting of the other ring. -/
def ringHandedOver : List (Message Bool × Env) :=
  [(.setVringAddr 0 0x7000 0x7200 0x7100, { willing with usedIdx := fun _ _ => some 1 }),
    (.setVringNum 1 4, willing), (.setVringBase 0 2, willing), (.setVringNum 0 8, willing)]

def atDestination : List (MigrationAction UInt64 Bool Nat) :=
  [.message (.setVringKick 0 (some 6)) willing, .pop, .putBack, .pop, .addUsed 4, .consume, .consume]

/-- When the ring is to be handed over. -/
def leaving : Migration UInt64 Nat :=
  (run (Migration.step vmMemory twoRings 8 0) (.new source) atSource).getD (.new source)

theorem takesOver_leaving :
    leaving.TakesOver 8 0 ⟨0, 0x100, 0x200⟩ willing destination ringHandedOver where
  setup := by simp [ringHandedOver, VhostUserHandler.Setup]
  places := by simp [ringHandedOver, VhostUserHandler.place]
  num := ⟨willing, by simp [ringHandedOver]⟩
  base base h hbase := by
    obtain rfl : 2 = base := by
      cases hbase
      rfl
    exact ⟨willing, by simp [ringHandedOver]⟩
  addr := ⟨0x7000, 0x7200, 0x7100, { willing with usedIdx := fun _ _ => some 1 },
    List.mem_cons_self, rfl, rfl⟩
  fits vring hget := by
    cases hget
    decide

/-- The other backend has it. -/
def arriving : Migration UInt64 Nat :=
  (leaving.step vmMemory twoRings 8 0 (.takeOver willing destination ringHandedOver)).getD leaving

theorem hand_over_exact_inFlight : ∃ s : Migration UInt64 Nat,
    run (Migration.step vmMemory twoRings 8 0) (.new source)
      (atSource ++ .takeOver willing destination ringHandedOver :: atDestination) = some s ∧
    s.lost = [3] ∧ s.popped <+: s.published ∧ s.consumed <+: s.returned ∧
      s.popped.Perm (s.returned ++ s.inFlight ++ s.lost) ∧
      ∃ vring, s.handler.vrings[(0 : UInt32).toNat]? = some vring ∧
        Migration.Serves 8 ⟨0, 0x100, 0x200⟩ s.popped.length s.returned.length vring.queue := by
  have hleaving : Reaches (Migration.step vmMemory twoRings 8 0)
      (Migration.Orderly 8 0 ⟨0, 0x100, 0x200⟩) (.new source) leaving := by
    apply reaches_of_run atSource _ rfl
    apply along_of_forall_mem
    simp [atSource, Migration.Orderly, VhostUserHandler.place]
  have harriving : Reaches (Migration.step vmMemory twoRings 8 0)
      (Migration.Orderly 8 0 ⟨0, 0x100, 0x200⟩) (.new source) arriving :=
    hleaving.tail (a := .takeOver willing destination ringHandedOver) takesOver_leaving rfl
  have hend : Along (Migration.step vmMemory twoRings 8 0)
      (Migration.Orderly 8 0 ⟨0, 0x100, 0x200⟩) arriving atDestination := by
    apply along_of_forall_mem
    simp [atDestination, Migration.Orderly, VhostUserHandler.place]
  have hpow : Queue.IsPowerOfTwo 8 := by decide
  have hget : source.vrings[(0 : UInt32).toNat]? =
      some ⟨⟨8, 8, false, 0, 0x100, 0x200, 0, 0, false⟩, false, none, none, none⟩ := rfl
  exact ⟨_, rfl, rfl, hand_over_exact hpow hget ⟨rfl, rfl, rfl, rfl, rfl, rfl⟩
    (harriving.trans (reaches_of_run atDestination arriving rfl hend))⟩

end VirtioPoc.VhostUser
