import Mathlib.Data.List.Basic

/-!
# In-place scans

A loop over the indices of a vector that removes the elements it is looking for
and hands each of them on.  When it removes an element the index stays, since the
next element has moved to it; else the index goes up.  The length that bounds the
loop shrinks as it runs.

`scanLoop_eq` says that such a loop is a stable partition.  Its invariant is that
what stands before the index is not looked for.
-/

namespace VirtioPoc.Base

variable {A S B : Type*} (hit : A → Bool) (take : S → A → Option S)

/-- The loop, from index `i` on; `none` is a panic of `take`. -/
def scanLoop (xs : List A) (i : Nat) (s : S) : Option (List A × S) :=
  if h : i < xs.length then
    if hit (xs.get ⟨i, h⟩) then
      match take s (xs.get ⟨i, h⟩) with
      | none => none
      | some t => scanLoop (xs.eraseIdx i) i t
    else scanLoop xs (i + 1) s
  else some (xs, s)
termination_by xs.length - i
decreasing_by
  · rw [List.length_eraseIdx_of_lt h]
    omega
  · omega

variable {hit take}

theorem scanLoop_nil (pre : List A) (s : S) :
    scanLoop hit take pre pre.length s = some (pre, s) := by
  rw [scanLoop, dif_neg (Nat.lt_irrefl _)]

theorem scanLoop_cons (pre : List A) (a : A) (rest : List A) (s : S) :
    scanLoop hit take (pre ++ a :: rest) pre.length s =
      if hit a then (take s a).bind fun t => scanLoop hit take (pre ++ rest) pre.length t
      else scanLoop hit take (pre ++ a :: rest) (pre.length + 1) s := by
  have hlt : pre.length < (pre ++ a :: rest).length := by simp
  have hget : (pre ++ a :: rest).get ⟨pre.length, hlt⟩ = a := by simp
  have herase : (pre ++ a :: rest).eraseIdx pre.length = pre ++ rest := by
    rw [List.eraseIdx_append_of_length_le (Nat.le_refl _), Nat.sub_self, List.eraseIdx_zero, List.tail_cons]
  rw [scanLoop, dif_pos hlt, hget, herase]
  cases take s a <;> rfl

/-- **An in-place scan is a stable partition**: the elements it looks for are handed on in their
order, and the others stay in theirs. -/
theorem scanLoop_eq (rest : List A) : ∀ (pre : List A) (s : S),
    scanLoop hit take (pre ++ rest) pre.length s = ((rest.filter hit).foldlM take s).map
      fun t => (pre ++ rest.filter (! hit ·), t) := by
  induction rest with
  | nil =>
    intro pre s
    simp [scanLoop_nil]
  | cons a rest ih =>
    intro pre s
    rw [scanLoop_cons]
    by_cases ha : hit a = true
    · rw [if_pos ha, List.filter_cons_of_pos ha, List.filter_cons_of_neg (by simp [ha]),
        List.foldlM_cons]
      cases take s a with
      | none => rfl
      | some t => exact ih pre t
    · have hpre : pre ++ a :: rest = (pre ++ [a]) ++ rest := by simp
      have hlen : pre.length + 1 = (pre ++ [a]).length := by simp
      rw [if_neg ha, List.filter_cons_of_neg ha, List.filter_cons_of_pos (by simp [ha]), hpre, hlen,
        ih (pre ++ [a]) s, List.append_assoc]
      rfl

/-- The same from the start. -/
theorem scanLoop_zero (xs : List A) (s : S) : scanLoop hit take xs 0 s =
    ((xs.filter hit).foldlM take s).map fun t => (xs.filter (! hit ·), t) :=
  scanLoop_eq xs [] s

/-- Elements handed on one after the other, where each is taken and put on record. -/
theorem foldlM_record {I : S → Prop} {record : S → List B} {note : A → B}
    (h : ∀ a s, I s → ∃ t, take s a = some t ∧ I t ∧ record t = record s ++ [note a]) :
    ∀ (as : List A) (s : S), I s →
      ∃ t, as.foldlM take s = some t ∧ I t ∧ record t = record s ++ as.map note := by
  intro as
  induction as with
  | nil => exact fun s hs => ⟨s, rfl, hs, (List.append_nil _).symm⟩
  | cons a as ih =>
    intro s hs
    obtain ⟨r, hr, hI, hrecord⟩ := h a s hs
    obtain ⟨t, ht, hI', hrest⟩ := ih r hI
    refine ⟨t, by rw [List.foldlM_cons, hr]; exact ht, hI', ?_⟩
    rw [hrest, hrecord, List.map_cons, List.append_assoc]
    rfl

end VirtioPoc.Base
