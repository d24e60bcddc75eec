import Mathlib.Data.Finset.Card
import Mathlib.Data.Finset.Image
import Mathlib.Data.Finset.Range
import Mathlib.Data.Finset.SDiff

/-!
# Masks of flags

Each member of a type has a number, and a word is the mask of a set when its bits
are the numbers of the members: `Denotes number x S`.  The operations of masks are
those of sets, two masks are equal when the sets are, and the count of ones is the
number of members.
-/

namespace VirtioPoc.Base

variable {α : Type*} {w : Nat} {number : α → Nat} {x y : BitVec w}

/-- Each flag has a bit of its own in a word of `w` bits. -/
structure Numbered (number : α → Nat) (w : Nat) : Prop where
  injective : Function.Injective number
  lt : ∀ a, number a < w

/-- The bits of `x` are the numbers of the members of `S`. -/
def Denotes (number : α → Nat) (x : BitVec w) (S : Finset α) : Prop :=
  ∀ i, x.getLsbD i = true ↔ ∃ a ∈ S, number a = i

namespace Denotes

theorem empty : Denotes number (0#w) ∅ := by
  intro i
  rw [BitVec.getLsbD_zero]
  refine iff_of_false Bool.false_ne_true ?_
  rintro ⟨a, ha, -⟩
  exact Finset.notMem_empty a ha

theorem single (hn : Numbered number w) (a : α) :
    Denotes number (BitVec.twoPow w (number a)) {a} := by
  intro i
  rw [BitVec.getLsbD_twoPow, decide_eq_true (hn.lt a), Bool.true_and, decide_eq_true_iff]
  simp only [Finset.mem_singleton, exists_eq_left]

theorem mem_iff {S : Finset α} (hn : Numbered number w) (hx : Denotes number x S) (a : α) :
    x.getLsbD (number a) = true ↔ a ∈ S := by
  rw [hx]
  refine ⟨?_, fun ha => ⟨a, ha, rfl⟩⟩
  rintro ⟨b, hb, hab⟩
  rw [← hn.injective hab]
  exact hb

/-- **Equal masks** are masks of equal sets. -/
theorem eq_iff {S T : Finset α} (hn : Numbered number w) (hx : Denotes number x S)
    (hy : Denotes number y T) : x = y ↔ S = T := by
  constructor
  · rintro rfl
    ext a
    rw [← hx.mem_iff hn, hy.mem_iff hn]
  · rintro rfl
    refine BitVec.eq_of_getLsbD_eq fun i _ => ?_
    rw [Bool.eq_iff_iff, hx, hy]

variable [DecidableEq α] {S T : Finset α}

theorem union (hx : Denotes number x S) (hy : Denotes number y T) :
    Denotes number (x ||| y) (S ∪ T) := by
  intro i
  rw [BitVec.getLsbD_or, Bool.or_eq_true, hx, hy]
  simp only [Finset.mem_union, or_and_right, exists_or]

theorem inter (hn : Numbered number w) (hx : Denotes number x S) (hy : Denotes number y T) :
    Denotes number (x &&& y) (S ∩ T) := by
  intro i
  rw [BitVec.getLsbD_and, Bool.and_eq_true, hx]
  constructor
  · rintro ⟨⟨a, ha, rfl⟩, hi⟩
    exact ⟨a, Finset.mem_inter.mpr ⟨ha, (hy.mem_iff hn a).mp hi⟩, rfl⟩
  · rintro ⟨a, ha, rfl⟩
    obtain ⟨haS, haT⟩ := Finset.mem_inter.mp ha
    exact ⟨⟨a, haS, rfl⟩, (hy.mem_iff hn a).mpr haT⟩

theorem sdiff (hn : Numbered number w) (hx : Denotes number x S) (hy : Denotes number y T) :
    Denotes number (x &&& ~~~ y) (S \ T) := by
  intro i
  rw [BitVec.getLsbD_and, Bool.and_eq_true, hx]
  constructor
  · rintro ⟨⟨a, ha, rfl⟩, hi⟩
    rw [BitVec.getLsbD_not, decide_eq_true (hn.lt a), Bool.true_and, Bool.not_eq_true'] at hi
    refine ⟨a, Finset.mem_sdiff.mpr ⟨ha, fun haT => ?_⟩, rfl⟩
    cases hi.symm.trans ((hy.mem_iff hn a).mpr haT)
  · rintro ⟨a, ha, rfl⟩
    obtain ⟨haS, haT⟩ := Finset.mem_sdiff.mp ha
    refine ⟨⟨a, haS, rfl⟩, ?_⟩
    rw [BitVec.getLsbD_not, decide_eq_true (hn.lt a), Bool.true_and, Bool.not_eq_true',
      Bool.eq_false_iff]
    exact fun h => haT ((hy.mem_iff hn a).mp h)

omit [DecidableEq α] in
theorem eq_zero_iff (hn : Numbered number w) (hx : Denotes number x S) : x = 0#w ↔ S = ∅ :=
  hx.eq_iff hn empty

end Denotes

theorem cpopNatRec_eq_card (x : BitVec w) (n : Nat) :
    x.cpopNatRec n 0 = ((Finset.range n).filter fun i => x.getLsbD i = true).card := by
  induction n with
  | zero => rfl
  | succ n ih =>
    rw [BitVec.cpopNatRec_succ, BitVec.cpopNatRec_add, ih, Finset.range_add_one,
      Finset.filter_insert]
    cases x.getLsbD n with
    | false => simp
    | true => simp

/-- **The count of ones** is the number of members. -/
theorem Denotes.toNat_cpop {S : Finset α} (hn : Numbered number w) (hx : Denotes number x S) :
    x.cpop.toNat = S.card := by
  have hset : ((Finset.range w).filter fun i => x.getLsbD i = true) =
      S.map ⟨number, hn.injective⟩ := by
    ext i
    rw [Finset.mem_filter, Finset.mem_range, hx, Finset.mem_map]
    refine and_iff_right_of_imp ?_
    rintro ⟨a, -, rfl⟩
    exact hn.lt a
  rw [BitVec.toNat_cpop, cpopNatRec_eq_card, hset, Finset.card_map]

end VirtioPoc.Base
