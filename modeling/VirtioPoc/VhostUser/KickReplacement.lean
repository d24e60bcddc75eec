import VirtioPoc.VhostUser.KickRegistration

/-!
# Replacing the kick of a running ring

`Vring::set_kick` of a started ring with nothing else going on: the workers have
registered the old kick and none of them is in `register_self`.

The old kick leaves the ring with `swap`, and its descriptor is taken out of the
`Arc` by `old_kick_efd.map(|fd| fd.as_raw_fd())`, which drops the `Arc`.  So the
number that is handed to `update_epolls` is the number of a closed descriptor,
and the walk fails at the first epoll that it comes to.
-/

namespace VirtioPoc.VhostUser

open Base

namespace KickRegistration

variable {n : Nat} {token : Fin n → UInt64} {s t u : KickRegistration n} {old : Fd}

/-- A started ring: the live epolls of its list have the kick, no worker is in the middle of
`register_self`, and the handler has no message. -/
structure Settled (token : Fin n → UInt64) (old : Fd) (s : KickRegistration n) : Prop where
  idle : s.handler = .idle
  started : s.vring.isStarted = true
  kick : s.vring.kick = some old
  workers : ∀ i kick, s.workers i ≠ .loaded kick ∧ s.workers i ≠ .added kick
  tokens : ∀ entry ∈ s.epolls, entry.2 = token entry.1
  registered : ∀ entry ∈ s.epolls, s.live entry.1 = true → (old, entry.2) ∈ s.interest entry.1

/-- The epoll has the new kick, once and with its own token, in the place of the old one. -/
def Moved (old : Fd) (file : Option Fd) (s : KickRegistration n) (entry : Fin n × UInt64) : Prop :=
  (s.interest entry.1).has old = false ∧
    ∀ new, file = some new →
      (s.interest entry.1).filter (fun e => e.1 = new) = [(new, entry.2)]

/-- The handler gets to the end of the message by itself, and there `P` holds. -/
def Returns (token : Fin n → UInt64) (P : KickRegistration n → Prop) (s : KickRegistration n) : Prop :=
  ∃ k t, run (step token) s (List.replicate k .handlerStep) = some t ∧ t.handler = .returned ∧ P t

/-- `set_kick(file)` returns `Ok`, and has moved the registration in every live epoll. -/
def SetKickMoves (token : Fin n → UInt64) (old : Fd) (file : Option Fd) (s : KickRegistration n) :
    Prop :=
  ∃ t, s.step token (.setVringKick file) = some t ∧
    t.Returns token fun t => ∀ entry ∈ s.epolls, s.live entry.1 = true → t.Moved old file entry

theorem returns_of_handlerStep {P : KickRegistration n → Prop} (h : s.handlerStep = some t)
    (hs : s.handler ≠ .returned) : s.Returns token P ↔ t.Returns token P := by
  constructor
  · rintro ⟨_ | k, u, hu, hreturned, hP⟩
    · cases hu
      exact absurd hreturned hs
    · rw [List.replicate_succ, run, step, h] at hu
      exact ⟨k, u, hu, hreturned, hP⟩
  · rintro ⟨k, u, hu, hreturned, hP⟩
    refine ⟨k + 1, u, ?_, hreturned, hP⟩
    rw [List.replicate_succ, run, step, h]
    exact hu

theorem not_returns_of_panicked {P : KickRegistration n → Prop} {e : EpollError}
    (h : s.handler = .panicked e) : ¬ s.Returns token P := by
  rintro ⟨_ | k, u, hu, hreturned, -⟩
  · cases hu
    cases h.symm.trans hreturned
  · have hstep : s.handlerStep = none := by rw [handlerStep, h]
    rw [List.replicate_succ, run, step, hstep] at hu
    cases hu

/-- The descriptor of a kick that nobody holds is closed: the walk fails at a live epoll. -/
theorem walk_closed (hheld : ¬ s.Held old) {i : Fin n} (hlive : s.live i = true) (tok : UInt64)
    (rest : List (Fin n × UInt64)) :
    s.walk (some old) i tok rest = { s with handler := .panicked .badFd } := by
  have hclosed : ((some old).any fun kick => decide (s.Held kick)) = false := by simpa using hheld
  rw [walk, if_pos hlive, hclosed]
  rfl

theorem walk_dead {i : Fin n} (hdead : s.live i = false) (old : Option Fd) (tok : UInt64)
    (rest : List (Fin n × UInt64)) :
    s.walk old i tok rest = { s with handler := .walking old rest } :=
  if_neg (by rw [hdead]; exact Bool.false_ne_true)

/-- The walk with a closed kick gets through just when it meets no live epoll. -/
theorem returns_of_walking {P : KickRegistration n → Prop} : ∀ (rest : List (Fin n × UInt64))
    (s : KickRegistration n), s.handler = .walking (some old) rest → ¬ s.Held old →
    (s.Returns token P ↔ (∀ entry ∈ rest, s.live entry.1 = false) ∧
      P { s with handler := .returned }) := by
  intro rest
  induction rest with
  | nil =>
    intro s hh _
    have hstep : s.handlerStep = some { s with handler := .returned } := by rw [handlerStep, hh]
    rw [returns_of_handlerStep hstep (by simp [hh])]
    constructor
    · rintro ⟨_ | k, u, hu, _, hP⟩
      · cases hu
        exact ⟨List.forall_mem_nil _, hP⟩
      · rw [List.replicate_succ, run] at hu
        cases hu
    · rintro ⟨-, hP⟩
      exact ⟨0, _, rfl, rfl, hP⟩
  | cons entry rest ih =>
    intro s hh hheld
    obtain ⟨i, tok⟩ := entry
    have hstep : s.handlerStep = some (s.walk (some old) i tok rest) := by rw [handlerStep, hh]
    rw [returns_of_handlerStep hstep (by simp [hh]), List.forall_mem_cons]
    cases hlive : s.live i with
    | true =>
      have hpanic : (s.walk (some old) i tok rest).handler = .panicked .badFd := by
        rw [walk_closed hheld hlive]
      simp [not_returns_of_panicked hpanic]
    | false =>
      rw [walk_dead hlive, ih { s with handler := .walking (some old) rest } rfl hheld]
      simp

/-- Where the walk meets a live epoll it stops there, and has changed none. -/
theorem panics_of_walking : ∀ (rest : List (Fin n × UInt64)) (s : KickRegistration n),
    s.handler = .walking (some old) rest → ¬ s.Held old →
    (∃ entry ∈ rest, s.live entry.1 = true) →
    ∃ k, run (step token) s (List.replicate k .handlerStep) =
      some { s with handler := .panicked .badFd } := by
  intro rest
  induction rest with
  | nil => exact fun s _ _ h => absurd h (by simp)
  | cons entry rest ih =>
    intro s hh hheld h
    obtain ⟨i, tok⟩ := entry
    have hstep : s.handlerStep = some (s.walk (some old) i tok rest) := by rw [handlerStep, hh]
    cases hlive : s.live i with
    | true =>
      refine ⟨1, ?_⟩
      rw [List.replicate_one, run, step, hstep, walk_closed hheld hlive]
      rfl
    | false =>
      have hrest : ∃ entry ∈ rest, s.live entry.1 = true := by simpa [hlive] using h
      obtain ⟨k, hk⟩ := ih { s with handler := .walking (some old) rest } rfl hheld hrest
      refine ⟨k + 1, ?_⟩
      rw [List.replicate_succ, run, step, hstep, walk_dead hlive]
      exact hk

/-- The ring has the new kick, and the walk with the old one is about to begin. -/
def walkAll (s : KickRegistration n) (old : Fd) (file : Option Fd) : KickRegistration n :=
  { s with vring := { s.vring with kick := file }, handler := .walking (some old) s.epolls }

theorem Settled.swap (h : s.Settled token old) {file : Option Fd} (hfile : file ≠ some old) :
    ∃ t, s.step token (.setVringKick file) = some t ∧ t.handler ≠ .returned ∧
      t.handlerStep = some (s.walkAll old file) := by
  have hguard : ¬ (s.handler ≠ .idle ∨ file ≠ none ∧ file = s.vring.kick) := by
    rw [h.idle, h.kick]
    simp [hfile]
  refine ⟨{ s with vring := { s.vring with kick := file }, handler := .swapped (some old) }, ?_,
    nofun, ?_⟩
  · rw [step, if_neg hguard, h.kick]
  · have hstarted : ({ s.vring with kick := file } : Vring).isStarted = true := h.started
    rw [handlerStep, hstarted]
    rfl

theorem Settled.not_held (h : s.Settled token old) : ¬ s.Held old := by
  rintro ⟨i, hi⟩
  exact (h.workers i (some old)).1 hi

theorem Settled.moves_iff (h : s.Settled token old) {file : Option Fd} (hfile : file ≠ some old) :
    s.SetKickMoves token old file ↔ ∀ entry ∈ s.epolls, s.live entry.1 = false := by
  obtain ⟨t, ht, hnot, hstep⟩ := h.swap hfile
  have hheld : ¬ (s.walkAll old file).Held old := h.not_held
  have hreturns (P : KickRegistration n → Prop) : t.Returns token P ↔
      (∀ entry ∈ s.epolls, s.live entry.1 = false) ∧
        P { s.walkAll old file with handler := .returned } :=
    (returns_of_handlerStep hstep hnot).trans (returns_of_walking s.epolls _ rfl hheld)
  constructor
  · rintro ⟨t', ht', hmoved⟩
    cases ht.symm.trans ht'
    exact ((hreturns _).mp hmoved).1
  · intro hdead
    refine ⟨t, ht, (hreturns _).mpr ⟨hdead, fun entry he hlive => ?_⟩⟩
    cases (hdead entry he).symm.trans hlive

end KickRegistration

/-- **When the kick of a running ring can be replaced**: when no epoll of its list lives.  Else the
message fails at the first one that does, with the new kick in the ring and the epolls as they were. -/
theorem set_kick_moves_iff {n : Nat} {token : Fin n → UInt64} {old : Fd} {s : KickRegistration n}
    (hs : s.Settled token old) (file : Option Fd) (hfile : file ≠ some old) :
    (s.SetKickMoves token old file ↔ ∀ entry ∈ s.epolls, s.live entry.1 = false) ∧
      ((∃ entry ∈ s.epolls, s.live entry.1 = true) →
        ∃ k t, run (KickRegistration.step token) s
            (.setVringKick file :: List.replicate k .handlerStep) = some t ∧
          t.handler = .panicked .badFd ∧ t.interest = s.interest ∧ t.vring.kick = file) := by
  refine ⟨hs.moves_iff hfile, fun hlive => ?_⟩
  obtain ⟨t, ht, -, hstep⟩ := hs.swap hfile
  obtain ⟨k, hk⟩ : ∃ k, run (KickRegistration.step token) (s.walkAll old file)
      (List.replicate k .handlerStep) = some { s.walkAll old file with handler := .panicked .badFd } :=
    KickRegistration.panics_of_walking s.epolls _ rfl hs.not_held hlive
  refine ⟨k + 1, { s.walkAll old file with handler := .panicked .badFd }, ?_, rfl, rfl, rfl⟩
  rw [run, ht, List.replicate_succ]
  dsimp only
  rw [run, KickRegistration.step, hstep]
  exact hk

/-- One worker that has registered kick 5 for token 3. -/
def settledRing (live : Bool) : KickRegistration 1 :=
  { vring := ringWithKick true (some 5), epolls := [(0, 3)], interest := fun _ => [(5, 3)],
    live := fun _ => live, workers := fun _ => .done (some 5), handler := .idle }

theorem settledRing_settled (live : Bool) : (settledRing live).Settled (fun _ => 3) 5 where
  idle := rfl
  started := rfl
  kick := rfl
  workers _ _ := ⟨nofun, nofun⟩
  tokens _ he := by
    obtain rfl := List.mem_singleton.mp he
    rfl
  registered _ he _ := by
    obtain rfl := List.mem_singleton.mp he
    exact List.mem_singleton_self _

theorem set_kick_moves_iff_dropped :
    (settledRing false).SetKickMoves (fun _ => 3) 5 (some 7) ∧
      ∃ k t, run (KickRegistration.step fun _ => 3) (settledRing true)
          (.setVringKick none :: List.replicate k .handlerStep) = some t ∧
        t.handler = .panicked .badFd ∧ t.interest = (settledRing true).interest ∧
        t.vring.kick = none :=
  ⟨(set_kick_moves_iff (settledRing_settled false) (some 7) (by decide)).1.mpr fun _ _ => rfl,
    (set_kick_moves_iff (settledRing_settled true) none nofun).2
      ⟨(0, 3), List.mem_singleton_self _, rfl⟩⟩

/-- The state is reached by the worker's registration, and neither message gets to its end. -/
theorem running_kick_not_replaced :
    (∃ s, run (KickRegistration.step fun _ => 3) (.new (ringWithKick true (some 5)))
        [.loadKick 0, .registerKick 0, .addEpoll 0] = some s ∧ s.Settled (fun _ : Fin 1 => 3) 5) ∧
      ¬ (settledRing true).SetKickMoves (fun _ => 3) 5 (some 7) ∧
      ¬ (settledRing true).SetKickMoves (fun _ => 3) 5 none := by
  have hlive (h : ∀ entry ∈ (settledRing true).epolls, (settledRing true).live entry.1 = false) :
      False := by
    cases h (0, 3) (List.mem_singleton_self _)
  refine ⟨⟨_, rfl, rfl, rfl, rfl, fun i kick => ?_, fun entry he => ?_, fun entry he _ => ?_⟩,
    fun h => hlive (((settledRing_settled true).moves_iff (by decide)).mp h),
    fun h => hlive (((settledRing_settled true).moves_iff (by decide)).mp h)⟩
  · obtain rfl : i = 0 := Subsingleton.elim _ _
    exact ⟨nofun, nofun⟩
  · obtain rfl := List.mem_singleton.mp he
    rfl
  · obtain rfl := List.mem_singleton.mp he
    exact List.mem_singleton_self _

end VirtioPoc.VhostUser
