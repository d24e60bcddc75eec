import Mathlib.Tactic.Common

/-!
# Positions in the available ring

The driver publishes chains and the device pops them, both in the order of their
positions.  Positions do not end; an index is a position modulo 2^16, and the
driver has at most `size` chains in the ring, so indices tell positions apart.

With `EVENT_IDX` the device writes the index at which it wants to be notified,
and the driver compares it with the indices before and after what it published.
-/

namespace VirtioPoc.Virtio

/-- The rule of the driver: the event is among the chains published since `old`. -/
def vringNeedEvent (event new old : UInt16) : Bool := new - event - 1 < new - old

/-- What is published, what is popped, and what was published when the driver last looked at the
rule. -/
structure AvailRing (size : UInt16) where
  (published popped checked : Nat)
  popped_le : popped ≤ published
  published_le : published ≤ popped + size.toNat
  checked_le : checked ≤ published
  published_lt : published < checked + 65536

namespace AvailRing

variable {size : UInt16} (ring : AvailRing size)

def availIdx : UInt16 := .ofNat ring.published

def nextAvail : UInt16 := .ofNat ring.popped

theorem availIdx_eq_nextAvail : ring.availIdx = ring.nextAvail ↔ ring.published = ring.popped := by
  have hsize := size.toNat_lt
  have hle := ring.popped_le
  have hfits := ring.published_le
  rw [availIdx, nextAvail, ← UInt16.toNat_inj, UInt16.toNat_ofNat', UInt16.toNat_ofNat']
  omega

/-- Publish one chain, if there is room for it in the ring. -/
def publish : Option (AvailRing size) :=
  if h : ring.published < ring.popped + size.toNat ∧ ring.published + 1 < ring.checked + 65536 then
    some { published := ring.published + 1, popped := ring.popped, checked := ring.checked
           popped_le := Nat.le_succ_of_le ring.popped_le, published_le := h.1
           checked_le := Nat.le_succ_of_le ring.checked_le, published_lt := h.2 }
  else none

/-- Pop the next chain; there is none only if the indices are equal. -/
def pop : Option (AvailRing size) :=
  if h : ring.availIdx = ring.nextAvail then none
  else
    have hne : ring.published ≠ ring.popped := mt ring.availIdx_eq_nextAvail.mpr h
    some { published := ring.published, popped := ring.popped + 1, checked := ring.checked
           popped_le := Nat.lt_of_le_of_ne ring.popped_le hne.symm
           published_le := by have := ring.published_le; omega
           checked_le := ring.checked_le, published_lt := ring.published_lt }

/-- The driver has looked at the rule. -/
def check : AvailRing size :=
  { published := ring.published, popped := ring.popped, checked := ring.published
    popped_le := ring.popped_le, published_le := ring.published_le, checked_le := Nat.le_refl _
    published_lt := Nat.lt_add_of_pos_right (by decide) }

theorem pop_eq_none : ring.pop = none ↔ ring.published = ring.popped := by
  rw [← availIdx_eq_nextAvail]
  unfold pop
  split
  case isTrue h => exact iff_of_true rfl h
  case isFalse h => exact iff_of_false nofun h

theorem publish_eq_some {ring' : AvailRing size} (h : ring.publish = some ring') :
    ring'.published = ring.published + 1 ∧ ring'.popped = ring.popped ∧
      ring'.checked = ring.checked := by
  unfold publish at h
  split at h
  case isTrue => cases h; exact ⟨rfl, rfl, rfl⟩
  case isFalse => cases h

/-- With the event at the next chain to pop, the rule asks for a notification just when the chains
published since the last look include it. -/
theorem vringNeedEvent_nextAvail (hlt : ring.popped < ring.published) :
    vringNeedEvent ring.nextAvail ring.availIdx (.ofNat ring.checked) = true ↔
      ring.checked ≤ ring.popped := by
  have hsize := size.toNat_lt
  have hfits := ring.published_le
  have hchecked := ring.checked_le
  have hclose := ring.published_lt
  unfold vringNeedEvent availIdx nextAvail
  rw [decide_eq_true_iff, UInt16.lt_iff_toNat_lt, UInt16.toNat_sub, UInt16.toNat_sub,
    UInt16.toNat_sub]
  simp only [UInt16.toNat_ofNat']
  have hone : (1 : UInt16).toNat = 1 := rfl
  rw [hone]
  omega

end AvailRing

end VirtioPoc.Virtio
