import VirtioPoc.Virtio.Memory

/-!
# Descriptor chains

The chains a guest makes available, as `virtio-queue` yields them.  The iterator
over a chain ends before the lengths of its descriptors add up to `2 ^ 32`, and
a chain carries that bound here.
-/

namespace VirtioPoc.Virtio

structure Descriptor where
  (addr len : Nat)
  isWriteOnly : Bool
  deriving DecidableEq

def sumLen (descs : List Descriptor) : Nat := (descs.map Descriptor.len).sum

structure DescriptorChain where
  headIndex : UInt16
  descs : List Descriptor
  sum_lt : sumLen descs < 2 ^ 32
  deriving DecidableEq

namespace DescriptorChain

/-- `chain.into_iter().readable()`. -/
def readable (c : DescriptorChain) : List Descriptor := c.descs.filter (! ·.isWriteOnly)

/-- `chain.into_iter().writable()`. -/
def writable (c : DescriptorChain) : List Descriptor := c.descs.filter (·.isWriteOnly)

end DescriptorChain

/-- What is in guest memory at the descriptors, one after the other. -/
def contents (mem : Bytes) : List Descriptor → List UInt8
  | [] => []
  | d :: ds => readBytes mem d.addr d.len ++ contents mem ds

@[simp] theorem length_contents (mem : Bytes) : ∀ ds : List Descriptor,
    (contents mem ds).length = sumLen ds := by
  intro ds
  induction ds with
  | nil => rfl
  | cons d ds ih =>
    rw [contents, List.length_append, length_readBytes, ih, sumLen, sumLen, List.map_cons,
      List.sum_cons]

theorem sumLen_cons (d : Descriptor) (ds : List Descriptor) :
    sumLen (d :: ds) = d.len + sumLen ds := by
  rw [sumLen, List.map_cons, List.sum_cons, sumLen]

/-- The first bytes of a chain are those of its first descriptor. -/
theorem take_contents {mem : Bytes} {d : Descriptor} {ds : List Descriptor} {n : Nat}
    (h : n ≤ d.len) : (contents mem (d :: ds)).take n = readBytes mem d.addr n := by
  rw [contents, List.take_append_of_le_length (by rw [length_readBytes]; exact h),
    take_readBytes mem d.addr h]

theorem sumLen_filter_le (p : Descriptor → Bool) : ∀ ds : List Descriptor,
    sumLen (ds.filter p) ≤ sumLen ds := by
  intro ds
  induction ds with
  | nil => exact Nat.le_refl _
  | cons d ds ih =>
    unfold sumLen at ih ⊢
    by_cases hp : p d = true
    · rw [List.filter_cons_of_pos hp, List.map_cons, List.map_cons, List.sum_cons, List.sum_cons]
      omega
    · rw [List.filter_cons_of_neg hp, List.map_cons, List.sum_cons]
      omega

/-- The two descriptors share no address. -/
def Descriptor.Apart (d e : Descriptor) : Prop := d.addr + d.len ≤ e.addr ∨ e.addr + e.len ≤ d.addr

instance (d e : Descriptor) : Decidable (d.Apart e) := inferInstanceAs (Decidable (_ ∨ _))

/-- The descriptors are not empty and lie inside guest memory. -/
def Sound (regions : List GuestRegion) (ds : List Descriptor) : Prop :=
  ∀ d ∈ ds, 0 < d.len ∧ Inside regions d.addr d.len

end VirtioPoc.Virtio
