import VirtioPoc.Base.Run
import Mathlib.Data.List.Perm.Basic

/-!
# Actions in any order

A machine that answers its actions.  Two actions are independent when from every
state they can be taken in either order, with the same answers and the same state
at the end.  Then any actions that are pairwise independent can be taken in any
order: `answers_perm`.
-/

namespace VirtioPoc.Base

variable {S A R : Type*}

/-- Take the actions one after the other, and keep the answers. -/
def answers (step : S → A → Option (R × S)) : S → List A → Option (List (A × R) × S)
  | s, [] => some ([], s)
  | s, a :: as =>
    match step s a with
    | none => none
    | some (r, t) => (answers step t as).map fun p => ((a, r) :: p.1, p.2)

/-- Both answers, and the state after them. -/
def both (step : S → A → Option (R × S)) (s : S) (a b : A) : Option ((R × R) × S) :=
  match step s a with
  | none => none
  | some (r, t) => (step t b).map fun p => ((r, p.1), p.2)

def Independent (step : S → A → Option (R × S)) (a b : A) : Prop :=
  ∀ s, both step s a b = (both step s b a).map fun p => (p.1.swap, p.2)

variable {step : S → A → Option (R × S)}

theorem independent_symm {a b : A} (h : Independent step a b) : Independent step b a := by
  intro s
  rw [h s, Option.map_map]
  exact Option.map_id.symm ▸ rfl

theorem answers_cons_cons (s : S) (a b : A) (as : List A) :
    answers step s (a :: b :: as) = (both step s a b).bind fun p =>
      (answers step p.2 as).map fun q => ((a, p.1.1) :: (b, p.1.2) :: q.1, q.2) := by
  rw [answers, both]
  cases step s a with
  | none => rfl
  | some p =>
    dsimp only
    rw [answers]
    cases step p.2 b with
    | none => rfl
    | some q =>
      dsimp only [Option.map_some, Option.bind_some]
      rw [Option.map_map]
      rfl

theorem answers_swap {a b : A} (h : Independent step a b) {as : List A} {s t : S}
    {rs : List (A × R)} (ht : answers step s (a :: b :: as) = some (rs, t)) :
    ∃ rs', answers step s (b :: a :: as) = some (rs', t) ∧ rs.Perm rs' := by
  rw [answers_cons_cons, h s] at ht
  rw [answers_cons_cons]
  cases hboth : both step s b a with
  | none =>
    rw [hboth] at ht
    cases ht
  | some p =>
    rw [hboth] at ht
    dsimp only [Option.map_some, Option.bind_some, Prod.swap] at ht ⊢
    obtain ⟨q, hq, hrs⟩ := Option.map_eq_some_iff.mp ht
    cases hrs
    rw [hq]
    exact ⟨_, rfl, .swap _ _ _⟩

/-- **Any order** gives the same answers to the same actions, and the same state. -/
theorem answers_perm {as bs : List A} (hperm : as.Perm bs) : as.Pairwise (Independent step) →
    ∀ {s t : S} {rs : List (A × R)}, answers step s as = some (rs, t) →
      ∃ rs', answers step s bs = some (rs', t) ∧ rs.Perm rs' := by
  induction hperm with
  | nil => exact fun _ _ _ rs ht => ⟨rs, ht, .refl rs⟩
  | cons a _ ih =>
    intro has s t rs ht
    rw [answers] at ht ⊢
    cases hstep : step s a with
    | none =>
      rw [hstep] at ht
      cases ht
    | some p =>
      rw [hstep] at ht
      obtain ⟨q, hq, hrs⟩ := Option.map_eq_some_iff.mp ht
      cases hrs
      obtain ⟨rs', hrest, hsame⟩ := ih (List.pairwise_cons.mp has).2 hq
      dsimp only
      rw [hrest]
      exact ⟨_, rfl, hsame.cons _⟩
  | swap a b l =>
    intro has s t rs ht
    exact answers_swap ((List.pairwise_cons.mp has).1 a List.mem_cons_self) ht
  | trans hab _ ih₁ ih₂ =>
    intro has s t rs ht
    obtain ⟨rs₁, ht₁, hsame₁⟩ := ih₁ has ht
    obtain ⟨rs₂, ht₂, hsame₂⟩ := ih₂ (hab.pairwise has independent_symm) ht₁
    exact ⟨rs₂, ht₂, hsame₁.trans hsame₂⟩

/-- What is refused in one order is refused in every order. -/
theorem answers_eq_none_iff {as bs : List A} (hperm : as.Perm bs)
    (has : as.Pairwise (Independent step)) (s : S) :
    answers step s as = none ↔ answers step s bs = none := by
  have hbs := hperm.pairwise has independent_symm
  constructor
  · intro hnone
    cases hb : answers step s bs with
    | none => rfl
    | some p =>
      obtain ⟨rs, hrs, -⟩ := answers_perm hperm.symm hbs hb
      cases hnone.symm.trans hrs
  · intro hnone
    cases ha : answers step s as with
    | none => rfl
    | some p =>
      obtain ⟨rs, hrs, -⟩ := answers_perm hperm has ha
      cases hnone.symm.trans hrs

/-- The last action of a list, from the state that the others lead to. -/
theorem answers_concat {as : List A} {a : A} : ∀ {s t : S} {rs : List (A × R)},
    answers step s (as ++ [a]) = some (rs, t) →
      ∃ rs' u r, answers step s as = some (rs', u) ∧ step u a = some (r, t) ∧ rs = rs' ++ [(a, r)] := by
  induction as with
  | nil =>
    intro s t rs h
    rw [List.nil_append, answers] at h
    cases ha : step s a with
    | none =>
      rw [ha] at h
      cases h
    | some p =>
      rw [ha] at h
      cases h
      exact ⟨[], s, p.1, rfl, ha, rfl⟩
  | cons b as ih =>
    intro s t rs h
    rw [List.cons_append, answers] at h
    cases hb : step s b with
    | none =>
      rw [hb] at h
      cases h
    | some p =>
      rw [hb] at h
      obtain ⟨q, hq, hrs⟩ := Option.map_eq_some_iff.mp h
      cases hrs
      obtain ⟨rs', u, r, hu, hr, hsame⟩ := ih hq
      refine ⟨(b, p.1) :: rs', u, r, ?_, hr, by rw [hsame]; rfl⟩
      rw [answers, hb]
      exact Option.map_eq_some_iff.mpr ⟨_, hu, rfl⟩

/-- **Each action can be taken to be the last**: from the state that the others lead to, it gives its
answer and the state at the end. -/
theorem answers_last {as : List A} (has : as.Pairwise (Independent step)) {a : A} (ha : a ∈ as)
    {s t : S} {rs : List (A × R)} (ht : answers step s as = some (rs, t)) :
    ∃ others rs' u r, (∀ b ∈ others, b ∈ as) ∧ answers step s others = some (rs', u) ∧
      step u a = some (r, t) ∧ (a, r) ∈ rs := by
  obtain ⟨before, after, rfl⟩ := List.append_of_mem ha
  have hperm : (before ++ a :: after).Perm (before ++ after ++ [a]) :=
    List.perm_middle.trans (List.perm_append_singleton a _).symm
  obtain ⟨rs', ht', hsame⟩ := answers_perm hperm has ht
  obtain ⟨rs', u, r, hu, hr, rfl⟩ := answers_concat ht'
  refine ⟨before ++ after, rs', u, r, fun b hb => ?_, hu, hr,
    hsame.mem_iff.mpr (List.mem_append_right _ List.mem_cons_self)⟩
  exact List.mem_append.mpr ((List.mem_append.mp hb).imp_right (List.mem_cons_of_mem a))

/-- What each action keeps is kept by all of them. -/
theorem answers_invariant {I : S → Prop} : ∀ {as : List A} {s t : S} {rs : List (A × R)},
    (∀ a ∈ as, ∀ s r t, I s → step s a = some (r, t) → I t) → I s →
      answers step s as = some (rs, t) → I t := by
  intro as
  induction as with
  | nil =>
    intro s t rs _ hs h
    cases h
    exact hs
  | cons a as ih =>
    intro s t rs hI hs h
    rw [answers] at h
    cases ha : step s a with
    | none =>
      rw [ha] at h
      cases h
    | some p =>
      rw [ha] at h
      obtain ⟨q, hq, hrs⟩ := Option.map_eq_some_iff.mp h
      cases hrs
      exact ih (fun b hb => hI b (List.mem_cons_of_mem a hb))
        (hI a List.mem_cons_self s p.1 p.2 hs ha) hq

end VirtioPoc.Base
