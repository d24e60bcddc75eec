import Mathlib.Logic.Relation

/-!
# Who waits for whom

At one moment each thread holds some locks, and waits for some.  A deadlock is a
cycle of threads, each of which waits for a lock that the next one holds; the
cycle of one thread is a thread that waits for a lock of its own.

Only a thread that holds a lock can be on a cycle.  So where no more than two
threads hold locks, there is nothing longer than a cycle of two.
-/

namespace VirtioPoc.Base

/-- The locks that each thread holds, and those that it waits for. -/
structure Locking (T L : Type*) where
  holds : T → L → Prop
  waits : T → L → Prop

namespace Locking

variable {T L : Type*} {k : Locking T L} {a b : T}

/-- The first thread waits for a lock that the second one holds. -/
def WaitsOn (k : Locking T L) (t u : T) : Prop := ∃ l, k.waits t l ∧ k.holds u l

def Deadlocked (k : Locking T L) : Prop := ∃ t, Relation.TransGen k.WaitsOn t t

theorem deadlocked_of_self (h : k.WaitsOn a a) : k.Deadlocked := ⟨a, .single h⟩

theorem deadlocked_of_pair (hab : k.WaitsOn a b) (hba : k.WaitsOn b a) : k.Deadlocked :=
  ⟨a, .tail (.single hab) hba⟩

/-- Where only two threads hold locks, a deadlock is between them, or of one of them with itself. -/
theorem deadlocked_iff_of_holders (hholders : ∀ t l, k.holds t l → t = a ∨ t = b) :
    k.Deadlocked ↔ k.WaitsOn a a ∨ k.WaitsOn b b ∨ (k.WaitsOn a b ∧ k.WaitsOn b a) := by
  have hheld {t u : T} (h : k.WaitsOn t u) : u = a ∨ u = b := by
    obtain ⟨l, -, hl⟩ := h
    exact hholders u l hl
  constructor
  · rintro ⟨t, ht⟩
    -- the first and the last step of the cycle
    obtain ⟨x, htx, -⟩ := Relation.TransGen.head'_iff.mp ht
    obtain ⟨y, hty, hyt⟩ := Relation.TransGen.tail'_iff.mp ht
    have ht' : t = a ∨ t = b := hheld hyt
    have hy : y = a ∨ y = b := by
      rcases Relation.ReflTransGen.cases_tail hty with rfl | ⟨z, -, hz⟩
      · exact ht'
      · exact hheld hz
    rcases ht' with rfl | rfl
    · rcases hheld htx with rfl | rfl
      · exact Or.inl htx
      · rcases hy with rfl | rfl
        · exact Or.inl hyt
        · exact Or.inr (Or.inr ⟨htx, hyt⟩)
    · rcases hheld htx with rfl | rfl
      · rcases hy with rfl | rfl
        · exact Or.inr (Or.inr ⟨hyt, htx⟩)
        · exact Or.inr (Or.inl hyt)
      · exact Or.inr (Or.inl htx)
  · rintro (h | h | ⟨hab, hba⟩)
    · exact deadlocked_of_self h
    · exact deadlocked_of_self h
    · exact deadlocked_of_pair hab hba

end Locking

end VirtioPoc.Base
