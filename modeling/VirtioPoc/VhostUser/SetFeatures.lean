import VirtioPoc.VhostUser.Features

/-!
# Setting the features

`set_features` of the handler with the `set_acked_features` of the implementer
behind it.  The handler takes every set of offered features: one without the
protocol-features bit has it enable all rings.  The implementer asserts that the
bit is there, so such a set ends in a panic, after the rings have been enabled.
-/

namespace VirtioPoc.VhostUser

theorem xor_eq_and_not {f p : UInt64} (hp : f &&& p = p) : f ^^^ p = f &&& ~~~ p := by
  rw [← UInt64.toBitVec_inj] at hp ⊢
  ext i hi
  have hp := congrArg (·[i]) hp
  simp only [UInt64.toBitVec_and, UInt64.toBitVec_xor, UInt64.toBitVec_not, BitVec.getElem_and,
    BitVec.getElem_xor, BitVec.getElem_not] at hp ⊢
  grind

namespace VhostUserHandler

variable {δ ε : Type} (impl : VhostUserDeviceImplementer δ ε)

/-- What a ring has to be after features have been accepted. -/
structure RingNegotiated (features : UInt64) (old new : Vring) : Prop where
  eventIdx : new.queue.eventIdxEnabled = decide (features &&& eventIdxBit ≠ 0)
  enabled : features &&& protocolFeaturesBit = 0 → new.enabled = true
  untouched : features &&& protocolFeaturesBit ≠ 0 → new.enabled = old.enabled

/-- What the handler has to be after features have been accepted. -/
structure Negotiated (features : UInt64) (h t : VhostUserHandler δ) : Prop where
  acked : t.ackedFeatures = features
  rings : List.Forall₂ (RingNegotiated features) h.vrings t.vrings
  device : t.wrapped impl =
    impl.device.setAckedFeatures (features &&& ~~~ protocolFeaturesBit) (h.wrapped impl)

/-- **The property**: features that are not offered are refused, and nothing changes; all others are
accepted. -/
def Negotiable (h : VhostUserHandler δ) (features : UInt64) : Prop :=
  if features &&& ~~~ impl.availFeatures h.device ≠ 0 then
    h.setFeatures impl.toDevice features = some (.error .invalidParam, h)
  else ∃ t, h.setFeatures impl.toDevice features = some (.ok .ok, t) ∧ h.Negotiated impl features t

variable {impl} {h : VhostUserHandler δ} {features : UInt64}

theorem ringFeatures_negotiated (features : UInt64) (vring : Vring) :
    RingNegotiated features vring (ringFeatures features vring) := by
  unfold ringFeatures
  by_cases hbit : features &&& protocolFeaturesBit = 0
  · rw [if_pos hbit]
    exact ⟨rfl, fun _ => rfl, fun hne => absurd hbit hne⟩
  · rw [if_neg hbit]
    exact ⟨rfl, fun h0 => absurd h0 hbit, fun _ => rfl⟩

theorem forall₂_ringFeatures (features : UInt64) (vrings : List Vring) :
    List.Forall₂ (RingNegotiated features) vrings (vrings.map (ringFeatures features)) :=
  List.forall₂_map_right_iff.mpr
    (List.forall₂_same.mpr fun vring _ => ringFeatures_negotiated features vring)

/-- Offered features with the protocol-features bit are accepted. -/
theorem setFeatures_accepted (hoffered : features &&& ~~~ impl.availFeatures h.device = 0)
    (hbit : features &&& protocolFeaturesBit = protocolFeaturesBit) :
    ∃ t, h.setFeatures impl.toDevice features = some (.ok .ok, t) ∧ h.Negotiated impl features t := by
  have hcall : impl.toDevice.setAckedFeatures features h.device = some (impl.asMut
      (impl.device.setAckedFeatures (features ^^^ protocolFeaturesBit) (h.wrapped impl)) h.device) :=
    if_pos hbit
  have hguard : ¬ features &&& ~~~ impl.toDevice.availFeatures h.device ≠ 0 := not_not.mpr hoffered
  refine ⟨_, by rw [setFeatures, if_neg hguard, hcall], rfl, forall₂_ringFeatures _ _, ?_⟩
  rw [wrapped, impl.asRef_asMut, xor_eq_and_not hbit]

/-- Without the bit the implementer panics. -/
theorem setFeatures_panics (hoffered : features &&& ~~~ impl.availFeatures h.device = 0)
    (hbit : features &&& protocolFeaturesBit ≠ protocolFeaturesBit) :
    h.setFeatures impl.toDevice features = none := by
  have hcall : impl.toDevice.setAckedFeatures features h.device = none := if_neg hbit
  have hguard : ¬ features &&& ~~~ impl.toDevice.availFeatures h.device ≠ 0 := not_not.mpr hoffered
  rw [setFeatures, if_neg hguard, hcall]

end VhostUserHandler

/-- **Which features can be negotiated**, for every device, every state of the handler and every 64-bit
value: those that have the protocol-features bit, and those that are not offered are refused. -/
theorem negotiable_iff {δ ε : Type} (impl : VhostUserDeviceImplementer δ ε) (h : VhostUserHandler δ)
    (features : UInt64) :
    h.Negotiable impl features ↔ features &&& ~~~ impl.availFeatures h.device ≠ 0 ∨
      features &&& protocolFeaturesBit = protocolFeaturesBit := by
  unfold VhostUserHandler.Negotiable
  by_cases hoffered : features &&& ~~~ impl.availFeatures h.device = 0
  · rw [if_neg (not_not.mpr hoffered)]
    constructor
    · rintro ⟨t, ht, -⟩
      by_contra hbit
      rw [VhostUserHandler.setFeatures_panics hoffered (not_or.mp hbit).2] at ht
      cases ht
    · rintro (hne | hbit)
      · exact absurd hoffered hne
      · exact VhostUserHandler.setFeatures_accepted hoffered hbit
  · rw [if_pos hoffered]
    exact iff_of_true (if_pos hoffered) (.inl hoffered)

/-- `VIRTIO_F_VERSION_1` alone is offered by a console, and setting it panics. -/
theorem version_not_negotiable :
    (0x100000000 : UInt64) &&& ~~~ oneVhostUserConsole.availFeatures consoleNew.device = 0 ∧
      consoleNew.setFeatures oneVhostUserConsole.toDevice 0x100000000 = none ∧
      ¬ consoleNew.Negotiable oneVhostUserConsole 0x100000000 := by
  have hoffered :
      (0x100000000 : UInt64) &&& ~~~ oneVhostUserConsole.availFeatures consoleNew.device = 0 := by
    decide
  have hpanic : consoleNew.setFeatures oneVhostUserConsole.toDevice 0x100000000 = none :=
    VhostUserHandler.setFeatures_panics hoffered (by decide)
  refine ⟨hoffered, hpanic, fun hall => ?_⟩
  rw [VhostUserHandler.Negotiable, if_neg (not_not.mpr hoffered)] at hall
  obtain ⟨t, ht, -⟩ := hall
  rw [hpanic] at ht
  cases ht

end VirtioPoc.VhostUser
