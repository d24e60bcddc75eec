import Mathlib.Algebra.Order.Ring.Nat

/-!
# Machine words

`usize` and `u64` on a 64-bit host.  A word is a natural number here, and an
operation that can leave the range says so: `checkedAdd` is `checked_add` (and
also a plain `+` of a build with overflow checks, where `none` is the panic),
`saturatingAdd` is `saturating_add`.
-/

namespace VirtioPoc.Base

/-- `u64::MAX`, and `usize::MAX` on a 64-bit host. -/
def wordMax : Nat := 2 ^ 64 - 1

def checkedAdd (a b : Nat) : Option Nat := if a + b ≤ wordMax then some (a + b) else none

def checkedMul (a b : Nat) : Option Nat := if a * b ≤ wordMax then some (a * b) else none

def saturatingAdd (a b : Nat) : Nat := min (a + b) wordMax

/-- A plain `-` of a build with overflow checks, where `none` is the panic. -/
def checkedSub (a b : Nat) : Option Nat := if b ≤ a then some (a - b) else none

theorem checkedAdd_eq_some {a b c : Nat} :
    checkedAdd a b = some c ↔ a + b ≤ wordMax ∧ a + b = c := by
  unfold checkedAdd
  split <;> simp_all

theorem checkedAdd_of_le {a b : Nat} (h : a + b ≤ wordMax) : checkedAdd a b = some (a + b) :=
  if_pos h

theorem checkedMul_of_le {a b : Nat} (h : a * b ≤ wordMax) : checkedMul a b = some (a * b) :=
  if_pos h

theorem checkedSub_of_le {a b : Nat} (h : b ≤ a) : checkedSub a b = some (a - b) := if_pos h

theorem saturatingAdd_of_le {a b : Nat} (h : a + b ≤ wordMax) : saturatingAdd a b = a + b :=
  Nat.min_eq_left h

end VirtioPoc.Base
