import VirtioPoc.VhostUser.Handler

/-!
# Settings of a vring

`set_vring_num` and `set_vring_base` acknowledge a setting, and the queue has to
have it after that.  The handler compares `num` with the maximal size, but the
queue also wants a power of two and ignores what is none; and `base` is cut to
16 bits.  `settings_in_effect_iff` says which settings are in effect when they
are acknowledged.
-/

namespace VirtioPoc.VhostUser

namespace VhostUserHandler

variable {δ : Type}

/-- **A size that is acknowledged is in effect**, one that is refused changes nothing, and no other
ring is touched. -/
structure NumInEffect (h : VhostUserHandler δ) (index num : UInt32) : Prop where
  accepted : ∀ reply t, h.setVringNum index num = some (.ok reply, t) →
    ∃ vring, t.vrings[index.toNat]? = some vring ∧ vring.queue.size.toNat = num.toNat
  refused : ∀ e t, h.setVringNum index num = some (.error e, t) → t = h
  others : ∀ r t, h.setVringNum index num = some (r, t) →
    ∀ j, j ≠ index.toNat → t.vrings[j]? = h.vrings[j]?

/-- **A base that is acknowledged is what the next `get_vring_base` reports**, if its `update_epolls`
succeed (else it panics); one that is refused changes nothing, and no other ring is touched. -/
structure BaseInEffect (h : VhostUserHandler δ) (index base : UInt32) : Prop where
  accepted : ∀ reply t env, h.setVringBase index base = some (.ok reply, t) →
    (∀ r t', t.getVringBase env index = some (r, t') → r = .ok (.vringState index base)) ∧
      ((∀ k, env.updateEpolls k = true) → t.getVringBase env index ≠ none)
  refused : ∀ e t, h.setVringBase index base = some (.error e, t) → t = h
  others : ∀ r t, h.setVringBase index base = some (r, t) →
    ∀ j, j ≠ index.toNat → t.vrings[j]? = h.vrings[j]?

variable {h : VhostUserHandler δ} {index num base : UInt32} {vring : Vring} {maxSize : UInt16}

theorem vrings_setVring_of_ne (h : VhostUserHandler δ) {i j : Nat} (vring : Vring) (hj : j ≠ i) :
    (h.setVring i vring).vrings[j]? = h.vrings[j]? :=
  List.getElem?_set_ne hj.symm

theorem vrings_setVring_self {i : Nat} (hget : h.vrings[i]? = some vring) (vring' : Vring) :
    (h.setVring i vring').vrings[i]? = some vring' := by
  obtain ⟨hlt, -⟩ := List.getElem?_eq_some_iff.mp hget
  exact List.getElem?_set_self hlt

/-! ### The size -/

/-- The handler takes a size from 1 to the maximal size of the queue. -/
theorem setVringNum_of_accepted (hget : h.vrings[index.toNat]? = some vring)
    (hmax : h.requestedQueues[index.toNat]? = some maxSize) (hpos : num ≠ 0)
    (hle : num.toNat ≤ maxSize.toNat) : h.setVringNum index num = some (.ok .ok,
      h.setVring index.toNat { vring with queue := vring.queue.setSize num.toUInt16 }) := by
  have hcheck : ¬ (num = 0 ∨ num > maxSize.toUInt32) := by
    rw [not_or]
    refine ⟨hpos, ?_⟩
    rw [gt_iff_lt, UInt32.lt_iff_toNat_lt, UInt16.toNat_toUInt32]
    omega
  rw [setVringNum, hget, hmax]
  exact if_neg hcheck

theorem setVringNum_cases {r : Except RequestError Reply} {t : VhostUserHandler δ}
    (ht : h.setVringNum index num = some (r, t)) :
    r = .error .invalidParam ∧ t = h ∨
      ∃ vring maxSize, h.vrings[index.toNat]? = some vring ∧
        h.requestedQueues[index.toNat]? = some maxSize ∧ num ≠ 0 ∧ num.toNat ≤ maxSize.toNat := by
  rw [setVringNum] at ht
  cases hget : h.vrings[index.toNat]? with
  | none =>
    rw [hget] at ht
    cases ht
    exact .inl ⟨rfl, rfl⟩
  | some vring =>
    rw [hget] at ht
    dsimp only at ht
    cases hmax : h.requestedQueues[index.toNat]? with
    | none =>
      rw [hmax] at ht
      cases ht
    | some maxSize =>
      rw [hmax] at ht
      dsimp only at ht
      by_cases hcheck : num = 0 ∨ num > maxSize.toUInt32
      · rw [if_pos hcheck] at ht
        cases ht
        exact .inl ⟨rfl, rfl⟩
      · rw [not_or, gt_iff_lt, UInt32.lt_iff_toNat_lt, UInt16.toNat_toUInt32] at hcheck
        exact .inr ⟨vring, maxSize, rfl, rfl, hcheck.1, by omega⟩

/-- The queue has the size exactly if the size is valid for it, or is the one it has already. -/
theorem size_setSize_iff (q : Queue) (hfits : num.toNat < 2 ^ 16) :
    (q.setSize num.toUInt16).size.toNat = num.toNat ↔
      num.toNat ≤ q.maxSize.toNat ∧ Queue.IsPowerOfTwo num.toUInt16 ∨ q.size.toNat = num.toNat := by
  have hnum : num.toUInt16.toNat = num.toNat := by
    rw [UInt32.toNat_toUInt16]
    exact Nat.mod_eq_of_lt hfits
  rw [Queue.setSize]
  by_cases hvalid : num.toUInt16 > q.maxSize ∨ ¬ Queue.IsPowerOfTwo num.toUInt16
  · rw [if_pos hvalid]
    refine ⟨.inr, fun hor => hor.elim (fun hand => ?_) id⟩
    rcases hvalid with hgt | hpow
    · rw [gt_iff_lt, UInt16.lt_iff_toNat_lt, hnum] at hgt
      omega
    · exact absurd hand.2 hpow
  · rw [if_neg hvalid]
    rw [not_or, not_not, gt_iff_lt, UInt16.lt_iff_toNat_lt, hnum] at hvalid
    exact iff_of_true hnum (.inl ⟨by omega, hvalid.2⟩)

theorem numInEffect_iff : h.NumInEffect index num ↔
    ∀ vring maxSize, h.vrings[index.toNat]? = some vring →
      h.requestedQueues[index.toNat]? = some maxSize → num ≠ 0 → num.toNat ≤ maxSize.toNat →
      num.toNat ≤ vring.queue.maxSize.toNat ∧ Queue.IsPowerOfTwo num.toUInt16 ∨
        vring.queue.size.toNat = num.toNat := by
  constructor
  · intro hnum vring maxSize hget hmax hpos hle
    have hfits : num.toNat < 2 ^ 16 := by have := maxSize.toNat_lt; omega
    have ht := setVringNum_of_accepted hget hmax hpos hle
    obtain ⟨vring', hget', hsize⟩ := hnum.accepted .ok _ ht
    rw [vrings_setVring_self hget] at hget'
    obtain rfl := Option.some.inj hget'
    exact (size_setSize_iff vring.queue hfits).mp hsize
  · intro hcond
    refine ⟨fun reply t ht => ?_, fun e t ht => ?_, fun r t ht => ?_⟩
    · rcases setVringNum_cases ht with ⟨hr, -⟩ | ⟨vring, maxSize, hget, hmax, hpos, hle⟩
      · cases hr
      · have hfits : num.toNat < 2 ^ 16 := by have := maxSize.toNat_lt; omega
        rw [setVringNum_of_accepted hget hmax hpos hle] at ht
        cases ht
        exact ⟨_, vrings_setVring_self hget _, (size_setSize_iff vring.queue hfits).mpr
          (hcond vring maxSize hget hmax hpos hle)⟩
    · rcases setVringNum_cases ht with ⟨-, rfl⟩ | ⟨vring, maxSize, hget, hmax, hpos, hle⟩
      · rfl
      · rw [setVringNum_of_accepted hget hmax hpos hle] at ht
        cases ht
    · rcases setVringNum_cases ht with ⟨-, rfl⟩ | ⟨vring, maxSize, hget, hmax, hpos, hle⟩
      · exact fun _ _ => rfl
      · rw [setVringNum_of_accepted hget hmax hpos hle] at ht
        cases ht
        exact fun j hj => vrings_setVring_of_ne h _ hj

/-! ### The base -/

/-- `get_vring_base` panics when the `update_epolls` of `stop` fails, and else reports the index of
the queue.  The `update_epolls` of `set_kick` is not called, since the ring is stopped by then. -/
theorem getVringBase_cases (env : Env) (hget : h.vrings[index.toNat]? = some vring) :
    Vring.epollsUpdated vring.kick none (env.updateEpolls 0) = false ∧
      h.getVringBase env index = none ∨
    ∃ t, h.getVringBase env index =
      some (.ok (.vringState index vring.queue.nextAvail.toUInt32), t) := by
  rw [getVringBase, hget]
  dsimp only
  rw [Vring.stop]
  cases hupdated : Vring.epollsUpdated vring.kick none (env.updateEpolls 0) with
  | false => exact .inl ⟨rfl, rfl⟩
  | true => exact .inr ⟨_, rfl⟩

theorem setVringBase_cases {r : Except RequestError Reply} {t : VhostUserHandler δ}
    (ht : h.setVringBase index base = some (r, t)) :
    r = .error .invalidParam ∧ t = h ∨
      ∃ vring, h.vrings[index.toNat]? = some vring ∧ r = .ok .ok ∧ t = h.setVring index.toNat
        { vring with queue := vring.queue.setNextAvail base.toUInt16 } := by
  rw [setVringBase] at ht
  cases hget : h.vrings[index.toNat]? with
  | none =>
    rw [hget] at ht
    cases ht
    exact .inl ⟨rfl, rfl⟩
  | some vring =>
    rw [hget] at ht
    cases ht
    exact .inr ⟨vring, rfl, rfl, rfl⟩

/-- A value survives being cut to 16 bits exactly if it fits in them. -/
theorem toUInt16_toUInt32_eq_iff : base.toUInt16.toUInt32 = base ↔ base.toNat < 2 ^ 16 := by
  rw [← UInt32.toNat_inj, UInt16.toNat_toUInt32, UInt32.toNat_toUInt16]
  omega

theorem baseInEffect_iff :
    h.BaseInEffect index base ↔ (index.toNat < h.vrings.length → base.toNat < 2 ^ 16) := by
  constructor
  · intro hbase hlt
    have hget : h.vrings[index.toNat]? = some (h.vrings.get ⟨index.toNat, hlt⟩) :=
      List.getElem?_eq_getElem hlt
    have ht : h.setVringBase index base = some (.ok .ok, h.setVring index.toNat
        { h.vrings.get ⟨index.toNat, hlt⟩ with
          queue := (h.vrings.get ⟨index.toNat, hlt⟩).queue.setNextAvail base.toUInt16 }) := by
      rw [setVringBase, hget]
    let env : Env := { updateEpolls := fun _ => true, usedIdx := fun _ _ => none, setLogBase := true }
    obtain ⟨hreport, hreturns⟩ := hbase.accepted .ok _ env ht
    rcases getVringBase_cases env (vrings_setVring_self hget _) with ⟨-, hnone⟩ | ⟨t', ht'⟩
    · exact absurd hnone (hreturns fun _ => rfl)
    · have hstate := hreport _ t' ht'
      rw [Except.ok.injEq, Reply.vringState.injEq] at hstate
      exact toUInt16_toUInt32_eq_iff.mp hstate.2
  · intro hcond
    refine ⟨fun reply t env ht => ?_, fun e t ht => ?_, fun r t ht => ?_⟩
    · rcases setVringBase_cases ht with ⟨hr, -⟩ | ⟨vring, hget, -, rfl⟩
      · cases hr
      · have hfits := hcond (List.getElem?_eq_some_iff.mp hget).1
        rcases getVringBase_cases env (vrings_setVring_self hget _) with
          ⟨hupdated, hnone⟩ | ⟨t', ht'⟩
        · rw [hnone]
          refine ⟨fun r t' h => (nomatch h), fun hall => ?_⟩
          rw [Vring.epollsUpdated, hall, Bool.or_true] at hupdated
          cases hupdated
        · rw [ht']
          refine ⟨fun r t'' h => ?_, fun _ => Option.some_ne_none _⟩
          obtain ⟨rfl, -⟩ := Prod.mk.inj (Option.some.inj h)
          show Except.ok (Reply.vringState index base.toUInt16.toUInt32) = _
          rw [toUInt16_toUInt32_eq_iff.mpr hfits]
    · rcases setVringBase_cases ht with ⟨-, rfl⟩ | ⟨vring, hget, hr, -⟩
      · rfl
      · cases hr
    · rcases setVringBase_cases ht with ⟨-, rfl⟩ | ⟨vring, hget, -, rfl⟩
      · exact fun _ _ => rfl
      · exact fun j hj => vrings_setVring_of_ne h _ hj

/-- **Which acknowledged settings are in effect**: a size that the queue takes as valid or has
already, and a base of 16 bits. -/
theorem settings_in_effect_iff (h : VhostUserHandler δ) (index num base : UInt32) :
    h.NumInEffect index num ∧ h.BaseInEffect index base ↔
      (∀ vring maxSize, h.vrings[index.toNat]? = some vring →
        h.requestedQueues[index.toNat]? = some maxSize → num ≠ 0 → num.toNat ≤ maxSize.toNat →
        num.toNat ≤ vring.queue.maxSize.toNat ∧ Queue.IsPowerOfTwo num.toUInt16 ∨
          vring.queue.size.toNat = num.toNat) ∧
      (index.toNat < h.vrings.length → base.toNat < 2 ^ 16) :=
  and_congr numInEffect_iff baseInEffect_iff

/-- A size of 100 is acknowledged, and the queue keeps its size of 256. -/
theorem settings_not_in_effect : ¬ ∀ (h : VhostUserHandler Unit) (index num base : UInt32),
    h.NumInEffect index num ∧ h.BaseInEffect index base := by
  intro hall
  let queue : Queue :=
    { maxSize := 256, size := 256, ready := false, descTable := 0, availRing := 0, usedRing := 0,
      nextAvail := 0, nextUsed := 0, eventIdxEnabled := false }
  let h : VhostUserHandler Unit :=
    { device := (), deviceActivated := false, requestedQueues := [256], owned := true,
      featuresAcked := true, ackedFeatures := 0, ackedProtocolFeatures := 0, memTable := .new,
      vrings := [⟨queue, false, none, none, none⟩], calls := [] }
  obtain ⟨hnum, -⟩ := hall h 0 100 65536
  rcases numInEffect_iff.mp hnum _ 256 rfl rfl (by decide) (by decide) with ⟨-, hpow⟩ | hsize
  · exact absurd hpow (by decide)
  · exact absurd hsize (by decide)

end VhostUserHandler

end VirtioPoc.VhostUser
