import Mathlib.Data.List.Basic
import Mathlib.Logic.Function.Basic

/-!
# Queues in a ring of slots

A producer writes its entries one after the other into the slots of a ring, and
publishes an index; a consumer takes them with an index of its own.  Positions do
not end, indices are positions modulo 2^16, and slots are indices modulo the size.
So the size has to divide 2^16: only then does a position keep its slot when the
indices wrap around.

`Slots.Holds` is what producer and consumer rely on: the slots hold what has been
written, from the first position on that is not free again.  `Holds.put`, `Holds.get`
and `Holds.free` are the rules for it.
-/

namespace VirtioPoc.Base

variable {A : Type*}

/-- The slots, and the index that is published. -/
structure Slots (A : Type*) where
  slot : Nat → Option A
  idx : UInt16

namespace Slots

def empty : Slots A := ⟨fun _ => none, 0⟩

/-- The producer, whose next index is `idx`, writes an entry and publishes it. -/
def put (size : UInt16) (r : Slots A) (idx : UInt16) (a : A) : Slots A :=
  { slot := Function.update r.slot (idx % size).toNat (some a), idx := idx + 1 }

/-- What the consumer, whose next index is `idx`, finds there. -/
def get (size : UInt16) (r : Slots A) (idx : UInt16) : Option A :=
  if idx = r.idx then none else r.slot (idx % size).toNat

/-- The slots hold what is in `written` from the position `n` on. -/
structure Holds (size : UInt16) (r : Slots A) (written : List A) (n : Nat) : Prop where
  le : n ≤ written.length
  fits : written.length ≤ n + size.toNat
  idx : r.idx = .ofNat written.length
  slot : ∀ p, n ≤ p → p < written.length → r.slot (p % size.toNat) = written[p]?

variable {size : UInt16} {r : Slots A} {written : List A} {n : Nat}

/-- A divisor of 2^16 that fits into 16 bits is half of it at most. -/
theorem size_le (hsize : size.toNat ∣ 65536) : size.toNat ≤ 32768 := by
  obtain ⟨k, hk⟩ := hsize
  have hlt := size.toNat_lt
  cases k with
  | zero => omega
  | succ k =>
    cases k with
    | zero => omega
    | succ k =>
      have hle : size.toNat * 2 ≤ size.toNat * (k + 1 + 1) := Nat.mul_le_mul_left _ (by omega)
      omega

/-- **A position keeps its slot** when its index wraps around. -/
theorem slot_of_position (hsize : size.toNat ∣ 65536) (p : Nat) :
    (UInt16.ofNat p % size).toNat = p % size.toNat := by
  rw [UInt16.toNat_mod, UInt16.toNat_ofNat']
  exact Nat.mod_mod_of_dvd p hsize

theorem ofNat_succ (p : Nat) : UInt16.ofNat p + 1 = .ofNat (p + 1) := by
  rw [UInt16.ofNat_add]
  rfl

/-- Two positions that the ring has room for have different slots. -/
theorem mod_ne {p q : Nat} (hlt : p < q) (hroom : q < p + n) : p % n ≠ q % n := by
  intro h
  have hp := Nat.div_add_mod p n
  have hq := Nat.div_add_mod q n
  have hdiv : p / n ≤ q / n := Nat.div_le_div_right (Nat.le_of_lt hlt)
  rcases Nat.eq_or_lt_of_le hdiv with heq | hdiv
  · rw [heq] at hp
    omega
  · have hnext : n * (p / n + 1) ≤ n * (q / n) := Nat.mul_le_mul_left n hdiv
    rw [Nat.mul_add, Nat.mul_one] at hnext
    omega

namespace Holds

theorem empty : Holds size (empty : Slots A) [] 0 :=
  ⟨Nat.le_refl 0, Nat.zero_le _, rfl, fun _ _ h => absurd h (Nat.not_lt_zero _)⟩

/-- **What the consumer finds** at its position is the next entry, or nothing if there is none. -/
theorem get (h : Holds size r written n) (hsize : size.toNat ∣ 65536) {p : Nat} (hp : n ≤ p)
    (hle : p ≤ written.length) : r.get size (.ofNat p) = written[p]? := by
  have hfits := h.fits
  have hsmall := size_le hsize
  have hidx : UInt16.ofNat p = r.idx ↔ p = written.length := by
    rw [h.idx, ← UInt16.toNat_inj, UInt16.toNat_ofNat', UInt16.toNat_ofNat']
    omega
  rw [Slots.get]
  by_cases hempty : p = written.length
  · rw [if_pos (hidx.mpr hempty), List.getElem?_eq_none (by omega)]
  · rw [if_neg (mt hidx.mp hempty), slot_of_position hsize]
    exact h.slot p hp (by omega)

/-- The slot of the first entry is free for the producer. -/
theorem free (h : Holds size r written n) (hlt : n < written.length) :
    Holds size r written (n + 1) := by
  have hfits := h.fits
  exact ⟨hlt, by omega, h.idx, fun p hp => h.slot p (by omega)⟩

/-- **An entry is written** where there is room for it. -/
theorem put (h : Holds size r written n) (hsize : size.toNat ∣ 65536)
    (hroom : written.length < n + size.toNat) (a : A) :
    Holds size (r.put size (.ofNat written.length) a) (written ++ [a]) n := by
  have hle := h.le
  refine ⟨?_, ?_, ?_, fun p hp hlt => ?_⟩
  · rw [List.length_append]
    omega
  · rw [List.length_append, List.length_singleton]
    omega
  · rw [List.length_append, List.length_singleton]
    exact ofNat_succ _
  · rw [List.length_append, List.length_singleton] at hlt
    show Function.update r.slot _ _ _ = _
    rw [slot_of_position hsize]
    by_cases hlast : p = written.length
    · rw [hlast, Function.update_self, List.getElem?_concat_length]
    · have hslot : p % size.toNat ≠ written.length % size.toNat := mod_ne (by omega) (by omega)
      rw [Function.update_of_ne hslot, h.slot p hp (by omega),
        List.getElem?_append_left (by omega)]

end Holds

end Slots

end VirtioPoc.Base
