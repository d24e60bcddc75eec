import VirtioPoc.Base.Run
import Mathlib.Data.List.Basic
import Mathlib.Data.List.Induction

/-!
# What has happened since

The past of a state is the list of the actions that have led to it.
`Since P Q as` says that at some point of it an action has met `P`, which may
look at what came before it, and that all the actions after it meet `Q`.
`AtMostOnce P as` says that `P` is met once at most.

`run_history` is the induction over the past of a run.  With `since_concat` for
its step, a fact about the states becomes one about the actions alone.
-/

namespace VirtioPoc.Base

variable {S A : Type*}

/-- An action has met `P`, with those before it, and all the actions since meet `Q`. -/
def Since (P : List A → A → Prop) (Q : A → Prop) (as : List A) : Prop :=
  ∃ before a after, as = before ++ a :: after ∧ P before a ∧ ∀ b ∈ after, Q b

/-- An action has met `P`. -/
def Once (P : List A → A → Prop) (as : List A) : Prop := Since P (fun _ => True) as

/-- An action meets `P` only where none of those before it has. -/
def AtMostOnce (P : List A → A → Prop) (as : List A) : Prop :=
  ∀ before a after, as = before ++ a :: after → P before a → ¬ Once P before

variable {P : List A → A → Prop} {Q : A → Prop} {as : List A} {a : A}

theorem not_since_nil : ¬ Since P Q [] := by
  rintro ⟨before, a, after, h, -⟩
  cases before <;> cases h

/-- **The last action** is the one that has met `P`, or one of those since. -/
theorem since_concat : Since P Q (as ++ [a]) ↔ P as a ∨ Q a ∧ Since P Q as := by
  constructor
  · rintro ⟨before, b, after, h, hP, hQ⟩
    rcases List.eq_nil_or_concat' after with rfl | ⟨after, c, rfl⟩
    · obtain ⟨rfl, hb⟩ := List.append_inj' h rfl
      obtain rfl := List.singleton_inj.mp hb
      exact .inl hP
    · rw [← List.cons_append, ← List.append_assoc] at h
      obtain ⟨rfl, hc⟩ := List.append_inj' h rfl
      obtain rfl := List.singleton_inj.mp hc
      rw [List.forall_mem_append, List.forall_mem_singleton] at hQ
      exact .inr ⟨hQ.2, before, b, after, rfl, hP, hQ.1⟩
  · rintro (hP | ⟨hQ, before, b, after, rfl, hP, hafter⟩)
    · exact ⟨as, a, [], rfl, hP, fun _ h => absurd h List.not_mem_nil⟩
    · refine ⟨before, b, after ++ [a], by rw [List.append_assoc]; rfl, hP, ?_⟩
      rw [List.forall_mem_append, List.forall_mem_singleton]
      exact ⟨hafter, hQ⟩

theorem not_once_nil : ¬ Once P [] := not_since_nil

theorem once_concat : Once P (as ++ [a]) ↔ P as a ∨ Once P as := by
  rw [Once, since_concat, true_and]
  exact Iff.rfl

theorem atMostOnce_nil : AtMostOnce P [] := by
  intro before a after h
  cases before <;> cases h

theorem AtMostOnce.concat (has : AtMostOnce P as) (ha : P as a → ¬ Once P as) :
    AtMostOnce P (as ++ [a]) := by
  intro before b after h hb
  rcases List.eq_nil_or_concat' after with rfl | ⟨after, c, rfl⟩
  · obtain ⟨rfl, hab⟩ := List.append_inj' h rfl
    obtain rfl := List.singleton_inj.mp hab
    exact ha hb
  · rw [← List.cons_append, ← List.append_assoc] at h
    exact has before b after (List.append_inj' h rfl).1 hb

variable {step : S → A → Option S} {s₀ t : S}

theorem run_concat : run step s₀ (as ++ [a]) = (run step s₀ as).bind fun s => step s a := by
  rw [run_append]
  refine Option.bind_congr fun s _ => ?_
  rw [run]
  cases step s a <;> rfl

theorem run_concat_eq_some : run step s₀ (as ++ [a]) = some t ↔
    ∃ s, run step s₀ as = some s ∧ step s a = some t := by
  rw [run_append, Option.bind_eq_some_iff]
  refine exists_congr fun s => and_congr_right fun _ => ?_
  rw [run]
  cases step s a <;> rfl

/-- **The induction over the past**: what holds at the start with an empty past, and is kept by each
step when its action is put on record, holds of every run and where it ends. -/
theorem run_history {I : List A → S → Prop} (h0 : I [] s₀)
    (hI : ∀ as s a t, run step s₀ as = some s → I as s → step s a = some t → I (as ++ [a]) t) :
    ∀ (as : List A) (t : S), run step s₀ as = some t → I as t := by
  intro as
  induction as using List.reverseRecOn with
  | nil =>
    intro t h
    cases h
    exact h0
  | append_singleton as a ih =>
    intro t h
    obtain ⟨s, hs, hstep⟩ := run_concat_eq_some.mp h
    exact hI as s a t hs (ih s hs) hstep

end VirtioPoc.Base
