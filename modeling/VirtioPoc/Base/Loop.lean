import Mathlib.Logic.Basic

/-!
# Loops within loops

A body of a loop ends by going on or by leaving the loop, or it panics with the
state it has come to.  `forLoop` goes through a list; `waitLoop` goes round for
each of the things it waits for, and when there is none it goes on waiting.

Leaving a loop leaves that loop alone.  A loop around it sees only that the
inner one has ended.  A `return` within the inner loop leaves both: `innerLoop`
is an inner loop as the body of the outer one, and the two are one loop over all
the elements (`waitLoop_innerLoop`).
-/

namespace VirtioPoc.Base

variable {S A B : Type*}

/-- How a body ends. -/
inductive Flow
  | next
  | leave

/-- Where a `waitLoop` has come to. -/
inductive Exit (S : Type*)
  | returned (s : S)
  | waiting (s : S)
  | panicked (s : S)

/-- The state at the end, also if it is a panic. -/
def ended : Except S S → S
  | .ok s => s
  | .error s => s

/-- A loop over the elements of a list. -/
def forLoop (body : A → S → Except S (Flow × S)) : List A → S → Except S S
  | [], s => .ok s
  | a :: as, s =>
    match body a s with
    | .error t => .error t
    | .ok (.leave, t) => .ok t
    | .ok (.next, t) => forLoop body as t

/-- A loop without an end of its own. -/
def waitLoop (body : A → S → Except S (Flow × S)) : List A → S → Exit S
  | [], s => .waiting s
  | a :: as, s =>
    match body a s with
    | .error t => .panicked t
    | .ok (.leave, t) => .returned t
    | .ok (.next, t) => waitLoop body as t

/-- The state that a body ends in. -/
def bodyState : Except S (Flow × S) → S
  | .ok (_, s) => s
  | .error s => s

def Exit.state : Exit S → S
  | .returned s | .waiting s | .panicked s => s

variable {body : A → S → Except S (Flow × S)}

/-- **The invariant rule.** -/
theorem forLoop_invariant {I : S → Prop} (h : ∀ a s, I s → I (bodyState (body a s))) :
    ∀ (as : List A) (s : S), I s → I (ended (forLoop body as s)) := by
  intro as
  induction as with
  | nil => exact fun _ hs => hs
  | cons a as ih =>
    intro s hs
    have ha := h a s hs
    rw [forLoop]
    rcases hbody : body a s with r | ⟨_ | _, r⟩
    · rw [hbody] at ha
      exact ha
    · rw [hbody] at ha
      exact ih r ha
    · rw [hbody] at ha
      exact ha

theorem waitLoop_invariant {I : S → Prop} (h : ∀ a s, I s → I (bodyState (body a s))) :
    ∀ (as : List A) (s : S), I s → I (waitLoop body as s).state := by
  intro as
  induction as with
  | nil => exact fun _ hs => hs
  | cons a as ih =>
    intro s hs
    have ha := h a s hs
    rw [waitLoop]
    rcases hbody : body a s with r | ⟨_ | _, r⟩
    · rw [hbody] at ha
      exact ha
    · rw [hbody] at ha
      exact ih r ha
    · rw [hbody] at ha
      exact ha

/-- A loop whose body never leaves it does not return. -/
theorem waitLoop_ne_returned (h : ∀ a s t, body a s ≠ .ok (.leave, t)) :
    ∀ (as : List A) (s t : S), waitLoop body as s ≠ .returned t := by
  intro as
  induction as with
  | nil => exact fun _ _ => nofun
  | cons a as ih =>
    intro s t
    rw [waitLoop]
    rcases hbody : body a s with r | ⟨_ | _, r⟩
    · exact nofun
    · exact ih r t
    · exact absurd hbody (h a s r)

/-- **The record of an inner loop**: it is left at the first element at which the body leaves it. -/
theorem forLoop_record (stop : A → Bool) (record : S → List A)
    (hnext : ∀ a s t, body a s = .ok (.next, t) → stop a = false ∧ record t = record s ++ [a])
    (hleave : ∀ a s t, body a s = .ok (.leave, t) → stop a = true ∧ record t = record s) :
    ∀ (as : List A) (s t : S), forLoop body as s = .ok t →
      record t = record s ++ as.takeWhile fun a => ! stop a := by
  intro as
  induction as with
  | nil =>
    intro s t h
    obtain rfl : s = t := Except.ok.inj h
    exact (List.append_nil _).symm
  | cons a as ih =>
    intro s t h
    rw [forLoop] at h
    rcases hbody : body a s with r | ⟨_ | _, r⟩
    · rw [hbody] at h
      cases h
    · obtain ⟨hstop, hrecord⟩ := hnext a s r hbody
      rw [hbody] at h
      rw [ih r t h, hrecord, List.takeWhile_cons, hstop, List.append_assoc]
      rfl
    · obtain ⟨hstop, hrecord⟩ := hleave a s r hbody
      rw [hbody] at h
      obtain rfl : r = t := Except.ok.inj h
      rw [hrecord, List.takeWhile_cons, hstop]
      exact (List.append_nil _).symm

/-- **Rounds that record the same**: however the loop ends, its record has grown by one block for each
round, and there was a round if there was an element. -/
theorem forLoop_rounds (record : S → List B) (block : List B)
    (herror : ∀ a s t, body a s = .error t → record t = record s ++ block)
    (hok : ∀ a s f t, body a s = .ok (f, t) → record t = record s ++ block) :
    ∀ (as : List A) (s : S), ∃ k, (as = [] ↔ k = 0) ∧
      record (ended (forLoop body as s)) = record s ++ (List.replicate k block).flatten := by
  intro as
  induction as with
  | nil => exact fun s => ⟨0, by simp, by simp [forLoop, ended]⟩
  | cons a as ih =>
    intro s
    rw [forLoop]
    rcases hbody : body a s with r | ⟨_ | _, r⟩
    · exact ⟨1, by simp, by simp [ended, herror a s r hbody]⟩
    · obtain ⟨k, -, hk⟩ := ih r
      refine ⟨k + 1, by simp, ?_⟩
      rw [hk, hok a s .next r hbody, List.replicate_succ, List.flatten_cons, List.append_assoc]
    · exact ⟨1, by simp, by simp [ended, hok a s .leave r hbody]⟩

/-- A loop whose body always returns does too. -/
theorem forLoop_isOk (h : ∀ a s, ∃ r, body a s = .ok r) : ∀ (as : List A) (s : S),
    ∃ t, forLoop body as s = .ok t := by
  intro as
  induction as with
  | nil => exact fun s => ⟨s, rfl⟩
  | cons a as ih =>
    intro s
    obtain ⟨⟨_ | _, r⟩, hbody⟩ := h a s
    · obtain ⟨t, ht⟩ := ih r
      exact ⟨t, by rw [forLoop, hbody]; exact ht⟩
    · exact ⟨r, by rw [forLoop, hbody]⟩

/-- **The record of an outer loop** whose body always goes on. -/
theorem waitLoop_record (record : S → List B) (note : A → List B)
    (h : ∀ a s, ∃ t, body a s = .ok (.next, t) ∧ record t = record s ++ note a) :
    ∀ (as : List A) (s : S), ∃ t, waitLoop body as s = .waiting t ∧
      record t = record s ++ as.flatMap note := by
  intro as
  induction as with
  | nil => exact fun s => ⟨s, rfl, (List.append_nil _).symm⟩
  | cons a as ih =>
    intro s
    obtain ⟨r, hbody, hrecord⟩ := h a s
    obtain ⟨t, ht, hrest⟩ := ih r
    refine ⟨t, by rw [waitLoop, hbody]; exact ht, ?_⟩
    rw [hrest, hrecord, List.flatMap_cons, List.append_assoc]

/-! ### Leaving both loops -/

/-- An inner loop whose end is that of a round of the outer one. -/
def innerLoop (body : A → S → Except S (Flow × S)) : List A → S → Except S (Flow × S)
  | [], s => .ok (.next, s)
  | a :: as, s =>
    match body a s with
    | .error t => .error t
    | .ok (.leave, t) => .ok (.leave, t)
    | .ok (.next, t) => innerLoop body as t

theorem waitLoop_append (bs : List A) : ∀ (as : List A) (s : S),
    waitLoop body (as ++ bs) s =
      match innerLoop body as s with
      | .error t => .panicked t
      | .ok (.leave, t) => .returned t
      | .ok (.next, t) => waitLoop body bs t := by
  intro as
  induction as with
  | nil => exact fun _ => rfl
  | cons a as ih =>
    intro s
    rw [List.cons_append, waitLoop, innerLoop]
    rcases body a s with r | ⟨_ | _, r⟩
    · rfl
    · exact ih r
    · rfl

/-- **Two loops that are left together** are one. -/
theorem waitLoop_innerLoop : ∀ (batches : List (List A)) (s : S),
    waitLoop (innerLoop body) batches s = waitLoop body batches.flatten s := by
  intro batches
  induction batches with
  | nil => exact fun _ => rfl
  | cons batch batches ih =>
    intro s
    rw [List.flatten_cons, waitLoop_append, waitLoop]
    rcases innerLoop body batch s with r | ⟨_ | _, r⟩
    · rfl
    · exact ih r
    · rfl

/-- **Where a loop returns**: at an element at which the body leaves it, when it has gone on at all
those before. -/
theorem waitLoop_eq_returned : ∀ (as : List A) (s t : S), waitLoop body as s = .returned t ↔
    ∃ before a after r, as = before ++ a :: after ∧ innerLoop body before s = .ok (.next, r) ∧
      body a r = .ok (.leave, t) := by
  intro as
  induction as with
  | nil =>
    intro s t
    refine ⟨fun h => (nomatch h), ?_⟩
    rintro ⟨before, a, after, r, h, -⟩
    cases before <;> cases h
  | cons a as ih =>
    intro s t
    constructor
    · intro h
      rw [waitLoop] at h
      rcases hbody : body a s with r | ⟨_ | _, r⟩
      · rw [hbody] at h
        cases h
      · rw [hbody] at h
        obtain ⟨before, b, after, u, rfl, hbefore, hleave⟩ := (ih r t).mp h
        refine ⟨a :: before, b, after, u, rfl, ?_, hleave⟩
        rw [innerLoop, hbody]
        exact hbefore
      · rw [hbody] at h
        cases h
        exact ⟨[], a, as, s, rfl, rfl, hbody⟩
    · rintro ⟨before, b, after, r, has, hbefore, hleave⟩
      rw [has, waitLoop_append, hbefore]
      show waitLoop body (b :: after) r = .returned t
      rw [waitLoop, hleave]

/-- **When a loop goes through**, if it only depends on the elements whether the body goes on. -/
theorem innerLoop_next_iff {P : A → Prop} : ∀ (as : List A),
    (∀ a ∈ as, ∀ s, (∃ t, body a s = .ok (.next, t)) ↔ P a) →
    ∀ s, (∃ t, innerLoop body as s = .ok (.next, t)) ↔ ∀ a ∈ as, P a := by
  intro as
  induction as with
  | nil => exact fun _ s => ⟨fun _ _ ha => absurd ha List.not_mem_nil, fun _ => ⟨s, rfl⟩⟩
  | cons a as ih =>
    intro h s
    have ha := h a List.mem_cons_self
    have hrest := ih fun b hb => h b (List.mem_cons_of_mem a hb)
    rw [List.forall_mem_cons, innerLoop]
    rcases hbody : body a s with r | ⟨_ | _, r⟩
    · refine iff_of_false (by simp) fun hall => ?_
      obtain ⟨t, ht⟩ := (ha s).mpr hall.1
      cases hbody.symm.trans ht
    · have hPa : P a := (ha s).mp ⟨r, hbody⟩
      exact (hrest r).trans (and_iff_right hPa).symm
    · refine iff_of_false (by simp) fun hall => ?_
      obtain ⟨t, ht⟩ := (ha s).mpr hall.1
      cases hbody.symm.trans ht

/-- **The record of a loop that goes through.** -/
theorem innerLoop_record (record : S → List B) (note : A → List B)
    (h : ∀ a s t, body a s = .ok (.next, t) → record t = record s ++ note a) :
    ∀ (as : List A) (s t : S), innerLoop body as s = .ok (.next, t) →
      record t = record s ++ as.flatMap note := by
  intro as
  induction as with
  | nil =>
    intro s t hloop
    cases hloop
    exact (List.append_nil _).symm
  | cons a as ih =>
    intro s t hloop
    rw [innerLoop] at hloop
    rcases hbody : body a s with r | ⟨_ | _, r⟩
    · rw [hbody] at hloop
      cases hloop
    · rw [hbody] at hloop
      rw [ih r t hloop, h a s r hbody, List.flatMap_cons, List.append_assoc]
    · rw [hbody] at hloop
      cases hloop

end VirtioPoc.Base
