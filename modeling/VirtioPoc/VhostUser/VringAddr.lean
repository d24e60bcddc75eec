import VirtioPoc.VhostUser.Handler

/-!
# The addresses of a ring

`set_vring_addr` translates three addresses, gives them to the queue one after the
other, and reads the used index from the new used ring.  The queue refuses an
address that is not aligned, which a translation can well be: the offset between
the two address spaces comes from the frontend.

A refusal of the second or of the third address, or a used index that cannot be
read, ends the message after the addresses before it have been set.
`all_or_nothing_iff` says for which messages this shows.
-/

namespace VirtioPoc.VhostUser

/-! ### The three setters -/

/-- What `set_queue_info` leaves in the ring: the addresses up to the first that is not aligned. -/
theorem Vring.setQueueInfo_eq (v : Vring) (descTable availRing usedRing : UInt64) :
    v.setQueueInfo descTable availRing usedRing =
      if descTable &&& 0xf ≠ 0 then (.error .invalidDescTableAlign, v)
      else if availRing &&& 0x1 ≠ 0 then
        (.error .invalidAvailRingAlign, { v with queue := { v.queue with descTable := descTable } })
      else if usedRing &&& 0x3 ≠ 0 then
        (.error .invalidUsedRingAlign,
          { v with queue := { v.queue with descTable := descTable, availRing := availRing } })
      else
        (.ok (), { v with queue := { v.queue with
          descTable := descTable, availRing := availRing, usedRing := usedRing } }) := by
  unfold setQueueInfo Queue.trySetDescTableAddress Queue.trySetAvailRingAddress
    Queue.trySetUsedRingAddress
  by_cases hdesc : descTable &&& 0xf = 0
  · by_cases havail : availRing &&& 0x1 = 0
    · by_cases hused : usedRing &&& 0x3 = 0
      · simp [hdesc, havail, hused]
      · simp [hdesc, havail, hused]
    · simp [hdesc, havail]
  · simp [hdesc]

/-- The addresses of a queue and its next used index. -/
def Queue.addresses (q : Queue) : UInt64 × UInt64 × UInt64 × UInt16 :=
  (q.descTable, q.availRing, q.usedRing, q.nextUsed)

namespace VhostUserHandler

variable {δ : Type}

/-! ### The property -/

def addresses (h : VhostUserHandler δ) (index : Nat) : Option (UInt64 × UInt64 × UInt64 × UInt16) :=
  h.vrings[index]?.map fun vring => vring.queue.addresses

/-- **All or nothing**: an error leaves the addresses of the ring and its next used index; and without
an error they are the translations, and the index that is found in the new used ring. -/
def AllOrNothing (env : Env) (h : VhostUserHandler δ) (index : UInt32)
    (descriptor used available : UInt64) : Prop :=
  ∀ r t, h.setVringAddr env index descriptor used available = some (r, t) →
    match r with
    | .error _ => t.addresses index.toNat = h.addresses index.toNat
    | .ok _ => ∃ descTable availRing usedRing idx,
        h.vmmVaToGpa descriptor = some (.ok descTable) ∧
        h.vmmVaToGpa available = some (.ok availRing) ∧
        h.vmmVaToGpa used = some (.ok usedRing) ∧
        env.usedIdx h.memTable.atomicMem usedRing = some idx ∧
        t.addresses index.toNat = some (descTable, availRing, usedRing, idx)

/-- The message comes to the setters of a ring `vring`, with these addresses. -/
structure ReachesSetters (h : VhostUserHandler δ) (index : UInt32)
    (descriptor used available : UInt64) (vring : Vring) (descTable availRing usedRing : UInt64) :
    Prop where
  mappings : h.memTable.mappings ≠ []
  translated : h.ringAddresses descriptor used available = some (.ok (descTable, availRing, usedRing))
  ring : h.vrings[index.toNat]? = some vring

/-- **The condition**: what has been set when an address is refused or the used index cannot be read is
what the ring had before. -/
def RefusedInTime (env : Env) (h : VhostUserHandler δ) (index : UInt32)
    (descriptor used available : UInt64) : Prop :=
  ∀ vring descTable availRing usedRing,
    h.ReachesSetters index descriptor used available vring descTable availRing usedRing →
    descTable &&& 0xf = 0 →
      (availRing &&& 0x1 ≠ 0 → descTable = vring.queue.descTable) ∧
      (availRing &&& 0x1 = 0 → usedRing &&& 0x3 ≠ 0 →
        descTable = vring.queue.descTable ∧ availRing = vring.queue.availRing) ∧
      (availRing &&& 0x1 = 0 → usedRing &&& 0x3 = 0 →
        env.usedIdx h.memTable.atomicMem usedRing = none →
        descTable = vring.queue.descTable ∧ availRing = vring.queue.availRing ∧
          usedRing = vring.queue.usedRing)

/-! ### The message -/

variable {env : Env} {h t : VhostUserHandler δ} {r : Except RequestError Reply} {index : UInt32}
  {descriptor used available descTable availRing usedRing : UInt64} {vring vring' : Vring}

theorem ringAddresses_eq_ok :
    h.ringAddresses descriptor used available = some (.ok (descTable, availRing, usedRing)) ↔
      h.vmmVaToGpa descriptor = some (.ok descTable) ∧
        h.vmmVaToGpa available = some (.ok availRing) ∧ h.vmmVaToGpa used = some (.ok usedRing) := by
  unfold ringAddresses
  rcases h.vmmVaToGpa descriptor with _ | _ | _
  · simp
  · simp
  · rcases h.vmmVaToGpa available with _ | _ | _
    · simp
    · simp
    · rcases h.vmmVaToGpa used with _ | _ | _ <;> simp

/-- A message that does not come to the setters returns an error, and the handler as it was. -/
theorem setVringAddr_early
    (hnot : ∀ vring descTable availRing usedRing,
      ¬ h.ReachesSetters index descriptor used available vring descTable availRing usedRing)
    (ht : h.setVringAddr env index descriptor used available = some (r, t)) :
    (∃ e, r = .error e) ∧ t = h := by
  unfold setVringAddr at ht
  by_cases hm : h.memTable.mappings = []
  · rw [if_pos hm] at ht
    cases ht
    exact ⟨⟨_, rfl⟩, rfl⟩
  · rw [if_neg hm] at ht
    cases haddr : h.ringAddresses descriptor used available with
    | none => rw [haddr] at ht; cases ht
    | some res =>
      rw [haddr] at ht
      cases res with
      | error e => cases ht; exact ⟨⟨_, rfl⟩, rfl⟩
      | ok addrs =>
        obtain ⟨descTable, availRing, usedRing⟩ := addrs
        cases hget : h.vrings[index.toNat]? with
        | none =>
          dsimp only at ht
          rw [hget] at ht
          cases ht
          exact ⟨⟨_, rfl⟩, rfl⟩
        | some vring => exact absurd ⟨hm, haddr, hget⟩ (hnot vring descTable availRing usedRing)

theorem addresses_setVring (hget : h.vrings[index.toNat]? = some vring) :
    (h.setVring index.toNat vring').addresses index.toNat = some vring'.queue.addresses := by
  have hlt : index.toNat < h.vrings.length := (List.getElem?_eq_some_iff.mp hget).1
  simp only [addresses, setVring, List.getElem?_set_self hlt, Option.map_some]

/-- What the message does from the setters on. -/
theorem setVringAddr_eq
    (hreach : h.ReachesSetters index descriptor used available vring descTable availRing usedRing) :
    h.setVringAddr env index descriptor used available =
      match vring.setQueueInfo descTable availRing usedRing with
      | (.error _, vring) => some (.error .invalidParam, h.setVring index.toNat vring)
      | (.ok (), vring) =>
        match env.usedIdx h.memTable.atomicMem vring.queue.usedRing with
        | none => some (.error .backendInternalError, h.setVring index.toNat vring)
        | some idx =>
          some (.ok .ok,
            h.setVring index.toNat { vring with queue := vring.queue.setNextUsed idx }) := by
  obtain ⟨hm, haddr, hget⟩ := hreach
  rw [setVringAddr, if_neg hm, haddr]
  generalize h.vrings[index.toNat]? = ring at hget ⊢
  subst hget
  rfl

/-- A message that comes to the setters: the condition for its ring and its addresses. -/
theorem allOrNothing_iff_of_reaches
    (hreach : h.ReachesSetters index descriptor used available vring descTable availRing usedRing) :
    h.AllOrNothing env index descriptor used available ↔ (descTable &&& 0xf = 0 →
      (availRing &&& 0x1 ≠ 0 → descTable = vring.queue.descTable) ∧
      (availRing &&& 0x1 = 0 → usedRing &&& 0x3 ≠ 0 →
        descTable = vring.queue.descTable ∧ availRing = vring.queue.availRing) ∧
      (availRing &&& 0x1 = 0 → usedRing &&& 0x3 = 0 →
        env.usedIdx h.memTable.atomicMem usedRing = none →
        descTable = vring.queue.descTable ∧ availRing = vring.queue.availRing ∧
          usedRing = vring.queue.usedRing)) := by
  have hold : h.addresses index.toNat = some vring.queue.addresses := by
    rw [addresses, hreach.ring, Option.map_some]
  have hnew (vring' : Vring) : (h.setVring index.toNat vring').addresses index.toNat =
      some vring'.queue.addresses := addresses_setVring hreach.ring
  obtain ⟨hd, ha, hu⟩ := ringAddresses_eq_ok.mp hreach.translated
  unfold AllOrNothing
  rw [setVringAddr_eq hreach, Vring.setQueueInfo_eq]
  by_cases hdesc : descTable &&& 0xf = 0
  · by_cases havail : availRing &&& 0x1 = 0
    · by_cases hused : usedRing &&& 0x3 = 0
      · cases hidx : env.usedIdx h.memTable.atomicMem usedRing with
        | none => simp [hdesc, havail, hused, hidx, hold, hnew, Queue.addresses]
        | some idx =>
          simp [hdesc, havail, hused, hidx, hd, ha, hu, hnew, Queue.addresses, Queue.setNextUsed]
      · simp [hdesc, havail, hused, hold, hnew, Queue.addresses]
    · simp [hdesc, havail, hold, hnew, Queue.addresses]
  · simp [hdesc, hold, hnew]

end VhostUserHandler

/-- **When `set_vring_addr` is all or nothing**, for every handler, every ring and every three
addresses. -/
theorem all_or_nothing_iff {δ : Type} (env : Env) (h : VhostUserHandler δ) (index : UInt32)
    (descriptor used available : UInt64) :
    h.AllOrNothing env index descriptor used available ↔
      h.RefusedInTime env index descriptor used available := by
  constructor
  · intro hall vring descTable availRing usedRing hreach
    exact (VhostUserHandler.allOrNothing_iff_of_reaches hreach).mp hall
  · intro htime
    by_cases hearly : ∀ vring descTable availRing usedRing,
        ¬ h.ReachesSetters index descriptor used available vring descTable availRing usedRing
    · intro r t ht
      obtain ⟨⟨e, rfl⟩, rfl⟩ := VhostUserHandler.setVringAddr_early hearly ht
      rfl
    · push Not at hearly
      obtain ⟨vring, descTable, availRing, usedRing, hreach⟩ := hearly
      exact (VhostUserHandler.allOrNothing_iff_of_reaches hreach).mpr
        (htime vring descTable availRing usedRing hreach)

def mappedRing : Vring :=
  { queue :=
      { maxSize := 8, size := 8, ready := false, descTable := 0x100, availRing := 0x200,
        usedRing := 0x300, nextAvail := 0, nextUsed := 7, eventIdxEnabled := false }
    enabled := true, kick := none, call := none, err := none }

/-- A handler with one ring and a mapping whose addresses are those of the guest. -/
def mappedHandler : VhostUserHandler Unit :=
  { device := (), deviceActivated := false, requestedQueues := [8], owned := true,
    featuresAcked := true, ackedFeatures := 0, ackedProtocolFeatures := 0,
    memTable := { memoryUpdated := true, mappings := [⟨0, 0x10000, 0⟩], atomicMem := [] }
    vrings := [mappedRing], calls := [] }

/-- An avail ring that is not aligned is refused when the descriptor table has been replaced, and a
used index that cannot be read is noticed when all three addresses have been. -/
theorem set_vring_addr_half_done :
    let env : Env := { updateEpolls := fun _ => true, usedIdx := fun _ _ => none, setLogBase := true }
    ((mappedHandler.setVringAddr env 0 0x1000 0x3000 0x2001).map fun out =>
        (out.1, out.2.addresses 0)) =
      some (.error .invalidParam, some (0x1000, 0x200, 0x300, 7)) ∧
    ((mappedHandler.setVringAddr env 0 0x1000 0x3000 0x2000).map fun out =>
        (out.1, out.2.addresses 0)) =
      some (.error .backendInternalError, some (0x1000, 0x2000, 0x3000, 7)) ∧
    ¬ mappedHandler.AllOrNothing env 0 0x1000 0x3000 0x2001 := by
  refine ⟨by decide, by decide, fun hall => ?_⟩
  have hreach : mappedHandler.ReachesSetters 0 0x1000 0x3000 0x2001 mappedRing
      0x1000 0x2001 0x3000 := ⟨by decide, by decide, rfl⟩
  exact absurd (((VhostUserHandler.allOrNothing_iff_of_reaches hreach).mp hall (by decide)).1
    (by decide)) (by decide)

end VirtioPoc.VhostUser
