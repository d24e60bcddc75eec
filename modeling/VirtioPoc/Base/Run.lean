import Mathlib.Logic.Basic

/-!
# Runs of an executable step function

A machine is given by `step : S → A → Option S`: from state `s` the action `a`
either leads to one state or is not enabled.  An action carries whatever the
environment decides at that step, so a machine with an environment is still a
function.

`Reaches step ok s₀ s` says that `s` is reached from `s₀` by enabled steps, each
of which meets `ok`.  `Reaches.invariant` is the induction rule: what holds at
the start and is kept by one such step holds in every state reached.

`recording` is the same machine with a record of what its steps have done, for
statements about the past of a state.
-/

namespace VirtioPoc.Base

variable {S A : Type*}

/-- Take the actions of the list one after the other. -/
def run (step : S → A → Option S) : S → List A → Option S
  | s, [] => some s
  | s, a :: as =>
    match step s a with
    | none => none
    | some t => run step t as

/-- Every step of the run along the list meets `ok`. -/
def Along (step : S → A → Option S) (ok : S → A → Prop) : S → List A → Prop
  | _, [] => True
  | s, a :: as => ok s a ∧ ∀ t, step s a = some t → Along step ok t as

/-- The states reached from `s₀` by steps that meet `ok`. -/
inductive Reaches (step : S → A → Option S) (ok : S → A → Prop) (s₀ : S) : S → Prop
  | refl : Reaches step ok s₀ s₀
  | tail {s t : S} {a : A} (prior : Reaches step ok s₀ s) (hok : ok s a)
      (hstep : step s a = some t) : Reaches step ok s₀ t

variable {step : S → A → Option S} {ok : S → A → Prop} {s₀ s t : S}

namespace Reaches

/-- **The invariant rule.** -/
theorem invariant {I : S → Prop} (h : Reaches step ok s₀ s) (h0 : I s₀)
    (hI : ∀ s a t, I s → ok s a → step s a = some t → I t) : I s := by
  induction h with
  | refl => exact h0
  | tail _ hok hstep ih => exact hI _ _ _ ih hok hstep

theorem trans {r : S} (h : Reaches step ok s₀ s) (g : Reaches step ok s r) :
    Reaches step ok s₀ r := by
  induction g with
  | refl => exact h
  | tail _ hok hstep ih => exact .tail ih hok hstep

end Reaches

instance decidableAlong [∀ s a, Decidable (ok s a)] :
    (as : List A) → (s : S) → Decidable (Along step ok s as)
  | [], _ => .isTrue trivial
  | a :: as, s =>
    match hs : step s a with
    | none =>
      decidable_of_iff (ok s a) ⟨fun h => ⟨h, fun t ht => by rw [hs] at ht; cases ht⟩, And.left⟩
    | some t =>
      have := decidableAlong as t
      decidable_of_iff (ok s a ∧ Along step ok t as)
        ⟨fun h => ⟨h.1, fun t' ht => by rw [hs] at ht; cases ht; exact h.2⟩,
          fun h => ⟨h.1, h.2 t hs⟩⟩

theorem along_of_forall (h : ∀ s a, ok s a) : ∀ (as : List A) (s : S), Along step ok s as := by
  intro as
  induction as with
  | nil => exact fun _ => trivial
  | cons a as ih => exact fun s => ⟨h s a, fun t _ => ih t⟩

/-- Where only the action matters. -/
theorem along_of_forall_mem : ∀ (as : List A) (s : S), (∀ a ∈ as, ∀ s, ok s a) →
    Along step ok s as := by
  intro as
  induction as with
  | nil => exact fun _ _ => trivial
  | cons a as ih =>
    intro s h
    exact ⟨h a List.mem_cons_self s, fun t _ => ih t fun b hb => h b (List.mem_cons_of_mem a hb)⟩

theorem run_append (bs : List A) : ∀ (as : List A) (s : S),
    run step s (as ++ bs) = (run step s as).bind fun t => run step t bs := by
  intro as
  induction as with
  | nil => exact fun _ => rfl
  | cons a as ih =>
    intro s
    rw [List.cons_append, run, run]
    cases step s a with
    | none => rfl
    | some t => exact ih t

theorem along_concat {a : A} : ∀ {as : List A} {s : S}, Along step ok s (as ++ [a]) ↔
    Along step ok s as ∧ ∀ t, run step s as = some t → ok t a := by
  intro as
  induction as with
  | nil =>
    intro s
    rw [List.nil_append, Along, Along, run, true_and]
    refine ⟨fun h t ht => ?_, fun h => ⟨h s rfl, fun _ _ => trivial⟩⟩
    cases ht
    exact h.1
  | cons b as ih =>
    intro s
    rw [List.cons_append, Along, Along, run]
    cases hb : step s b with
    | none => exact ⟨fun h => ⟨⟨h.1, nofun⟩, nofun⟩, fun h => ⟨h.1.1, nofun⟩⟩
    | some r =>
      have hrest : (∀ t, some r = some t → Along step ok t (as ++ [a])) ↔
          Along step ok r (as ++ [a]) :=
        ⟨fun h => h r rfl, fun h t ht => Option.some.inj ht ▸ h⟩
      have hrest' : (∀ t, some r = some t → Along step ok t as) ↔ Along step ok r as :=
        ⟨fun h => h r rfl, fun h t ht => Option.some.inj ht ▸ h⟩
      rw [hrest, hrest', ih, and_assoc]

/-- A list of actions that runs through reaches its last state. -/
theorem reaches_of_run : ∀ (as : List A) (s : S), run step s as = some t →
    Along step ok s as → Reaches step ok s t := by
  intro as
  induction as with
  | nil =>
    intro s h _
    obtain rfl : s = t := Option.some.inj h
    exact .refl
  | cons a as ih =>
    intro s h hok
    rw [run] at h
    cases hs : step s a with
    | none => rw [hs] at h; cases h
    | some r =>
      rw [hs] at h
      exact (Reaches.tail .refl hok.1 hs).trans (ih r h (hok.2 r hs))

/-- The same where nothing is asked of the steps. -/
theorem reaches_of_run_any (as : List A) {s : S} (h : run step s as = some t) :
    Reaches step (fun _ _ => True) s t :=
  reaches_of_run as s h (along_of_forall (fun _ _ => trivial) as s)

/-- **The exact rule.**  If among the steps from good states those that meet `ok` are just the ones
that lead to a good state, then the states of a run are all good just when its steps all meet `ok`.
The invariant has only to be kept between good states. -/
theorem forall_prefix_iff_along_of_good {I P : S → Prop}
    (hI : ∀ s a t, I s → P s → P t → step s a = some t → I t)
    (hP : ∀ s a t, I s → P s → step s a = some t → (P t ↔ ok s a)) :
    ∀ (as : List A) (s : S), I s → P s → (run step s as).isSome →
      ((∀ n t, run step s (as.take n) = some t → P t) ↔ Along step ok s as) := by
  intro as
  induction as with
  | nil =>
    intro s _ hs _
    refine ⟨fun _ => trivial, fun _ n t ht => ?_⟩
    rw [List.take_nil] at ht
    cases ht
    exact hs
  | cons a as ih =>
    intro s hIs hs hrun
    rw [run] at hrun
    cases ha : step s a with
    | none => rw [ha] at hrun; cases hrun
    | some r =>
      rw [ha] at hrun
      have hrest {n : Nat} {t : S} (ht : run step r (as.take n) = some t) :
          run step s ((a :: as).take (n + 1)) = some t := by
        rw [List.take_succ_cons, run, ha]
        exact ht
      constructor
      · intro h
        have hr : P r := h 1 r (hrest (n := 0) (by rw [List.take_zero, run]))
        refine ⟨(hP s a r hIs hs ha).mp hr, fun t ht => ?_⟩
        cases ha.symm.trans ht
        exact (ih r (hI s a r hIs hs hr ha) hr hrun).mp fun n t ht => h (n + 1) t (hrest ht)
      · rintro ⟨hok, halong⟩ n t ht
        have hr : P r := (hP s a r hIs hs ha).mpr hok
        cases n with
        | zero =>
          rw [List.take_zero, run] at ht
          cases ht
          exact hs
        | succ n =>
          rw [List.take_succ_cons, run, ha] at ht
          exact (ih r (hI s a r hIs hs hr ha) hr hrun).mpr (halong r ha) n t ht

/-- The same with an invariant of all states. -/
theorem forall_prefix_iff_along {I P : S → Prop}
    (hI : ∀ s a t, I s → step s a = some t → I t)
    (hP : ∀ s a t, I s → P s → step s a = some t → (P t ↔ ok s a)) :
    ∀ (as : List A) (s : S), I s → P s → (run step s as).isSome →
      ((∀ n t, run step s (as.take n) = some t → P t) ↔ Along step ok s as) :=
  forall_prefix_iff_along_of_good (fun s a t hs _ _ hstep => hI s a t hs hstep) hP

/-- **The survival rule.**  Where a step is refused just when it does not meet `ok`, a run goes
through just when its steps all meet `ok`. -/
theorem run_isSome_iff_along {I : S → Prop} (hI : ∀ s a t, I s → step s a = some t → I t)
    (hok : ∀ s a, I s → (step s a = none ↔ ¬ ok s a)) :
    ∀ (as : List A) (s : S), I s → ((run step s as).isSome = true ↔ Along step ok s as) := by
  intro as
  induction as with
  | nil => exact fun _ _ => iff_of_true rfl trivial
  | cons a as ih =>
    intro s hs
    rw [run, Along]
    cases ha : step s a with
    | none => exact iff_of_false nofun fun h => (hok s a hs).mp ha h.1
    | some r =>
      have hmeets : ok s a := Classical.byContradiction fun hnot => by
        rw [(hok s a hs).mpr hnot] at ha
        cases ha
      refine (ih r (hI s a r hs ha)).trans ⟨fun h => ⟨hmeets, ?_⟩, fun h => h.2 r rfl⟩
      intro t ht
      cases ht
      exact h

/-- **Two machines in lockstep.**  Where related states take every action to related states, every
list of actions runs through on both sides and ends in related states. -/
theorem run_lockstep {T : Type*} {step' : T → A → Option T} {R : S → T → Prop}
    (hR : ∀ s s' a, R s s' → ∃ t t', step s a = some t ∧ step' s' a = some t' ∧ R t t') :
    ∀ (as : List A) (s : S) (s' : T), R s s' →
      ∃ t t', run step s as = some t ∧ run step' s' as = some t' ∧ R t t' := by
  intro as
  induction as with
  | nil => exact fun s s' h => ⟨s, s', rfl, rfl, h⟩
  | cons a as ih =>
    intro s s' h
    obtain ⟨t, t', ht, ht', hrel⟩ := hR s s' a h
    obtain ⟨u, u', hu, hu', hrel'⟩ := ih t t' hrel
    exact ⟨u, u', by rw [run, ht]; exact hu, by rw [run, ht']; exact hu', hrel'⟩

/-! ### A record of the run -/

section

variable {H : Type*} {note : S → A → List H} {p q : S × List H} {a : A}

/-- The machine that also keeps a record; `note` is what a step adds to it. -/
def recording (step : S → A → Option S) (note : S → A → List H) (p : S × List H) (a : A) :
    Option (S × List H) :=
  (step p.1 a).map fun t => (t, p.2 ++ note p.1 a)

theorem recording_eq_some :
    recording step note p a = some q ↔ step p.1 a = some q.1 ∧ q.2 = p.2 ++ note p.1 a := by
  unfold recording
  rw [Option.map_eq_some_iff]
  constructor
  · rintro ⟨t, ht, rfl⟩
    exact ⟨ht, rfl⟩
  · rintro ⟨ht, hq⟩
    exact ⟨q.1, ht, by rw [← hq]⟩

end

end VirtioPoc.Base
