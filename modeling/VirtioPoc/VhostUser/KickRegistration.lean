import VirtioPoc.Base.Run
import VirtioPoc.VhostUser.Handler
import Mathlib.Data.Fintype.Basic
import Mathlib.Logic.Function.Basic

/-!
# The registration of kicks

A worker registers a ring with its epoll: it loads the kick, adds it to the epoll
if there is one, and joins the list of epolls of the ring.  Nothing protects the
three steps together.  Meanwhile `set_vring_kick` swaps the kick, and walks the
list if the ring is started; else it starts the ring, which walks the list too.

The walk takes every epoll of the list to have the old kick, and not to have the
new one.  `set_kick` has closed the old kick by then, unless a worker still has it
loaded.
-/

namespace VirtioPoc.VhostUser

open Base

/-! ### Epolls -/

inductive EpollError
  | exists
  | notFound
  | badFd
  deriving DecidableEq

/-- What an epoll waits for, with the tokens. -/
abbrev Interest := List (Fd × UInt64)

def Interest.has (l : Interest) (fd : Fd) : Bool := l.any fun entry => entry.1 = fd

def registerKick (l : Interest) (kick : Fd) (token : UInt64) : Except EpollError Interest :=
  if l.has kick then .error .exists else .ok (l ++ [(kick, token)])

/-- `EPOLL_CTL_DEL` also needs the descriptor to be open. -/
def unregisterKick (l : Interest) (kick : Fd) (isOpen : Bool) : Except EpollError Interest :=
  if ! isOpen then .error .badFd
  else if l.has kick then .ok (l.filter fun entry => entry.1 ≠ kick)
  else .error .notFound

/-- What `update_epolls` does to one epoll. -/
def updateEpoll (old new : Option Fd) (isOpen : Bool) (token : UInt64) (l : Interest) :
    Except EpollError Interest := do
  let l ← match old with
    | some kick => unregisterKick l kick isOpen
    | none => pure l
  match new with
    | some kick => registerKick l kick token
    | none => pure l

/-- What a worker leaves in its epoll. -/
def kickEntry (token : UInt64) : Option Fd → Interest
  | none => []
  | some kick => [(kick, token)]

section

variable {old new k : Option Fd} {isOpen : Bool} {token tok : UInt64} {l l' : Interest} {kick : Fd}

@[simp] theorem has_kickEntry : (kickEntry token k).has kick = true ↔ k = some kick := by
  cases k <;> simp [kickEntry, Interest.has]

theorem registerKick_eq_ok :
    registerKick l kick token = .ok l' ↔ l.has kick = false ∧ l' = l ++ [(kick, token)] := by
  unfold registerKick
  split
  case isTrue h => simp [h]
  case isFalse h => simp [h, eq_comm]

theorem unregisterKick_eq_ok :
    unregisterKick l kick isOpen = .ok l' ↔
      isOpen = true ∧ l.has kick = true ∧ l' = l.filter fun entry => entry.1 ≠ kick := by
  unfold unregisterKick
  cases isOpen
  · simp
  · by_cases h : l.has kick = true
    · simp [h, eq_comm]
    · simp [h]

/-- An epoll to which the new kick is added has it once. -/
theorem filter_of_registerKick (h : registerKick l kick token = .ok l') :
    l'.filter (fun entry => entry.1 = kick) = [(kick, token)] := by
  obtain ⟨hhas, rfl⟩ := registerKick_eq_ok.mp h
  have hnone : l.filter (fun entry => entry.1 = kick) = [] := by
    simpa [Interest.has, List.filter_eq_nil_iff] using hhas
  rw [List.filter_append, hnone]
  simp

theorem filter_of_updateEpoll (h : updateEpoll old (some kick) isOpen token l = .ok l') :
    l'.filter (fun entry => entry.1 = kick) = [(kick, token)] := by
  cases old with
  | none => exact filter_of_registerKick h
  | some o =>
    cases ho : unregisterKick l o isOpen with
    | error e =>
      rw [updateEpoll, ho] at h
      cases h
    | ok m =>
      rw [updateEpoll, ho] at h
      exact filter_of_registerKick h

/-- When the walk succeeds at the epoll of a worker that has added `k`: the old kick is open, and the
worker has added it. -/
theorem updateEpoll_some_iff (hnew : new ≠ some kick) :
    (∃ l, updateEpoll (some kick) new isOpen token (kickEntry tok k) = .ok l) ↔
      isOpen = true ∧ k = some kick := by
  constructor
  · rintro ⟨l, hl⟩
    cases hkick : unregisterKick (kickEntry tok k) kick isOpen with
    | error e =>
      rw [updateEpoll, hkick] at hl
      cases hl
    | ok m =>
      obtain ⟨hopen, hhas, -⟩ := unregisterKick_eq_ok.mp hkick
      exact ⟨hopen, has_kickEntry.mp hhas⟩
  · rintro ⟨hopen, rfl⟩
    have hkick : unregisterKick (kickEntry tok (some kick)) kick isOpen = .ok [] :=
      unregisterKick_eq_ok.mpr ⟨hopen, has_kickEntry.mpr rfl, by simp [kickEntry]⟩
    rw [updateEpoll, hkick]
    cases new with
    | none => exact ⟨[], rfl⟩
    | some fd => exact ⟨[(fd, token)], rfl⟩

/-- The same where there is no old kick: the worker has not added the new one. -/
theorem updateEpoll_none_iff :
    (∃ l, updateEpoll none new isOpen token (kickEntry tok k) = .ok l) ↔ (new ≠ none → k ≠ new) := by
  cases new with
  | none => exact ⟨fun _ h => absurd rfl h, fun _ => ⟨kickEntry tok k, rfl⟩⟩
  | some kick =>
    constructor
    · rintro ⟨l, hl⟩ - rfl
      obtain ⟨hhas, -⟩ := registerKick_eq_ok.mp hl
      cases hhas.symm.trans (has_kickEntry.mpr rfl)
    · intro hk
      have hhas : (kickEntry tok k).has kick = false := by
        rw [← Bool.not_eq_true, has_kickEntry]
        exact hk nofun
      exact ⟨_, registerKick_eq_ok.mpr ⟨hhas, rfl⟩⟩

end

/-! ### The threads -/

/-- Where a worker is in `register_self`, with the kick that it has loaded. -/
inductive RegisterPc
  | idle
  | loaded (kick : Option Fd)
  | added (kick : Option Fd)
  | done (kick : Option Fd)
  | failed (e : EpollError)
  deriving DecidableEq

/-- The kick that the worker has added to its epoll. -/
def RegisterPc.kick : RegisterPc → Option Fd
  | .added kick | .done kick => kick
  | .idle | .loaded _ | .failed _ => none

/-- Where the handler is in `set_vring_kick`; `rest` is what is left of the list to walk. -/
inductive SetKickPc (n : Nat)
  | idle
  | swapped (old : Option Fd)
  | starting
  | walking (old : Option Fd) (rest : List (Fin n × UInt64))
  | returned
  | panicked (e : EpollError)
  deriving DecidableEq

def SetKickPc.isWalking {n : Nat} : SetKickPc n → Bool
  | .walking .. => true
  | _ => false

/-- A ring with the epolls of its workers; `live` are those that are not dropped. -/
structure KickRegistration (n : Nat) where
  vring : Vring
  epolls : List (Fin n × UInt64)
  interest : Fin n → Interest
  live : Fin n → Bool
  workers : Fin n → RegisterPc
  handler : SetKickPc n

inductive RegistrationAction (n : Nat)
  | setVringKick (file : Option Fd)
  | handlerStep
  | loadKick (i : Fin n)
  | registerKick (i : Fin n)
  | addEpoll (i : Fin n)
  | dropEpoll (i : Fin n)
  deriving DecidableEq

/-- What `set_vring_kick` makes of the ring when no `epoll_ctl` fails. -/
def Vring.setVringKick (v : Vring) (file : Option Fd) : Vring :=
  let v := (v.setKick file true).2
  if ! v.isStarted && v.hasKickEvent then (v.start true).2 else v

namespace KickRegistration

variable {n : Nat}

def new (vring : Vring) : KickRegistration n :=
  { vring := vring, epolls := [], interest := fun _ => [], live := fun _ => true,
    workers := fun _ => .idle, handler := .idle }

def setWorker (s : KickRegistration n) (i : Fin n) (pc : RegisterPc) : KickRegistration n :=
  { s with workers := Function.update s.workers i pc }

def setInterest (s : KickRegistration n) (i : Fin n) (l : Interest) : KickRegistration n :=
  { s with interest := Function.update s.interest i l }

/-- A worker has the old kick loaded, which keeps it open. -/
def Held (s : KickRegistration n) (kick : Fd) : Prop := ∃ i, s.workers i = .loaded (some kick)

instance (s : KickRegistration n) (kick : Fd) : Decidable (s.Held kick) :=
  inferInstanceAs (Decidable (∃ _, _))

/-- The walk comes to the epoll of `i`; a dropped one is passed over. -/
def walk (s : KickRegistration n) (old : Option Fd) (i : Fin n) (token : UInt64)
    (rest : List (Fin n × UInt64)) : KickRegistration n :=
  if s.live i then
    match updateEpoll old s.vring.kick (old.any fun kick => s.Held kick) token (s.interest i) with
    | .ok l => { s.setInterest i l with handler := .walking old rest }
    | .error e => { s with handler := .panicked e }
  else { s with handler := .walking old rest }

/-- `walking` has the lock of the list. -/
def handlerStep (s : KickRegistration n) : Option (KickRegistration n) :=
  match s.handler with
  | .idle | .returned | .panicked _ => none
  | .swapped old =>
    if s.vring.isStarted then some { s with handler := .walking old s.epolls }
    else if s.vring.hasKickEvent then
      some { s with
        vring := { s.vring with queue := s.vring.queue.setReady true }, handler := .starting }
    else some { s with handler := .returned }
  | .starting => some { s with handler := .walking none s.epolls }
  | .walking _ [] => some { s with handler := .returned }
  | .walking old ((i, token) :: rest) => some (s.walk old i token rest)

/-- `token i` is what worker `i` asks for.  The file of a message is a descriptor of its own. -/
def step (token : Fin n → UInt64) (s : KickRegistration n) :
    RegistrationAction n → Option (KickRegistration n)
  | .setVringKick file =>
    if s.handler ≠ .idle ∨ file ≠ none ∧ file = s.vring.kick then none
    else some { s with vring := { s.vring with kick := file }, handler := .swapped s.vring.kick }
  | .handlerStep => s.handlerStep
  | .loadKick i => if s.workers i = .idle then some (s.setWorker i (.loaded s.vring.kick)) else none
  | .registerKick i =>
    match s.workers i with
    | .loaded none => some (s.setWorker i (.added none))
    | .loaded (some kick) =>
      match VhostUser.registerKick (s.interest i) kick (token i) with
      | .ok l => some ((s.setInterest i l).setWorker i (.added (some kick)))
      | .error e => some (s.setWorker i (.failed e))
    | _ => none
  | .addEpoll i =>
    match s.workers i with
    | .added kick =>
      if s.handler.isWalking then none
      else
        some { s.setWorker i (.done kick) with
          epolls := s.epolls.filter (fun entry => s.live entry.1) ++ [(i, token i)] }
    | _ => none
  | .dropEpoll i =>
    match s.workers i with
    | .done _ => some { s with live := Function.update s.live i false }
    | _ => none

/-! ### The property -/

/-- The epoll waits for the kick once, with the token of the worker. -/
def Registered (token : Fin n → UInt64) (s : KickRegistration n) (i : Fin n) : Prop :=
  ∀ kick, s.vring.kick = some kick →
    (s.interest i).filter (fun entry => entry.1 = kick) = [(kick, token i)]

/-- No `epoll_ctl` has failed; and when `set_vring_kick` has returned, every epoll that has joined the
list and lives waits for the kick. -/
structure Sound (token : Fin n → UInt64) (s : KickRegistration n) : Prop where
  handler : ∀ e, s.handler ≠ .panicked e
  workers : ∀ i e, s.workers i ≠ .failed e
  registered : s.handler = .returned → ∀ entry ∈ s.epolls, s.live entry.1 = true →
    s.Registered token entry.1

/-- The walk comes to a live epoll.  If there was an old kick, the worker had loaded it, and another one
still has it loaded; if not, the worker had not loaded the new one. -/
def OrderlyWalk (s : KickRegistration n) : SetKickPc n → Prop
  | .walking (some old) ((i, _) :: _) =>
    s.live i = true → s.Held old ∧ s.workers i = .done (some old)
  | .walking none ((i, _) :: _) =>
    s.live i = true → s.vring.kick ≠ none → s.workers i ≠ .done s.vring.kick
  | _ => True

instance (s : KickRegistration n) : (pc : SetKickPc n) → Decidable (s.OrderlyWalk pc)
  | .walking (some _) (_ :: _) => inferInstanceAs (Decidable (_ → _))
  | .walking none (_ :: _) => inferInstanceAs (Decidable (_ → _ → _))
  | .walking (some _) [] | .walking none [] | .idle | .swapped _ | .starting | .returned
  | .panicked _ => .isTrue trivial

/-- **The condition on a step**: of the walk; and a worker that joins the list when the message has
returned had loaded its kick. -/
def Orderly (s : KickRegistration n) : RegistrationAction n → Prop
  | .handlerStep => s.OrderlyWalk s.handler
  | .addEpoll i => s.handler = .returned → s.vring.kick ≠ none → s.workers i = .added s.vring.kick
  | _ => True

instance (s : KickRegistration n) : (a : RegistrationAction n) → Decidable (s.Orderly a)
  | .handlerStep => inferInstanceAs (Decidable (s.OrderlyWalk s.handler))
  | .addEpoll _ => inferInstanceAs (Decidable (_ → _ → _))
  | .setVringKick _ | .loadKick _ | .registerKick _ | .dropEpoll _ => .isTrue trivial

/-! ### What a step does -/

/-- The step of `a` from `s`, with a case for each branch of the source. -/
inductive Transition (token : Fin n → UInt64) (s : KickRegistration n) :
    RegistrationAction n → KickRegistration n → Prop
  | swap (file) (hh : s.handler = .idle) (hfile : file ≠ none → file ≠ s.vring.kick) :
      Transition token s (.setVringKick file)
        { s with vring := { s.vring with kick := file }, handler := .swapped s.vring.kick }
  | update (old) (hh : s.handler = .swapped old) (hstarted : s.vring.isStarted = true) :
      Transition token s .handlerStep { s with handler := .walking old s.epolls }
  | start (old) (hh : s.handler = .swapped old) (hstopped : s.vring.isStarted = false)
      (hkick : s.vring.hasKickEvent = true) :
      Transition token s .handlerStep { s with
        vring := { s.vring with queue := s.vring.queue.setReady true }, handler := .starting }
  | noKick (old) (hh : s.handler = .swapped old) (hkick : s.vring.kick = none) :
      Transition token s .handlerStep { s with handler := .returned }
  | updateStarted (hh : s.handler = .starting) :
      Transition token s .handlerStep { s with handler := .walking none s.epolls }
  | walked (old) (hh : s.handler = .walking old []) :
      Transition token s .handlerStep { s with handler := .returned }
  | walk (old i tok rest) (hh : s.handler = .walking old ((i, tok) :: rest)) :
      Transition token s .handlerStep (s.walk old i tok rest)
  | loadKick (i) (hi : s.workers i = .idle) :
      Transition token s (.loadKick i) (s.setWorker i (.loaded s.vring.kick))
  | noRegister (i) (hi : s.workers i = .loaded none) :
      Transition token s (.registerKick i) (s.setWorker i (.added none))
  | register (i kick l) (hi : s.workers i = .loaded (some kick))
      (hl : VhostUser.registerKick (s.interest i) kick (token i) = .ok l) :
      Transition token s (.registerKick i) ((s.setInterest i l).setWorker i (.added (some kick)))
  | refused (i kick e) (hi : s.workers i = .loaded (some kick))
      (he : VhostUser.registerKick (s.interest i) kick (token i) = .error e) :
      Transition token s (.registerKick i) (s.setWorker i (.failed e))
  | addEpoll (i kick) (hi : s.workers i = .added kick) (hh : s.handler.isWalking = false) :
      Transition token s (.addEpoll i) { s.setWorker i (.done kick) with
        epolls := s.epolls.filter (fun entry => s.live entry.1) ++ [(i, token i)] }
  | dropEpoll (i kick) (hi : s.workers i = .done kick) :
      Transition token s (.dropEpoll i) { s with live := Function.update s.live i false }

variable {token : Fin n → UInt64} {s t : KickRegistration n} {a : RegistrationAction n}

theorem transition_of_handlerStep (h : s.handlerStep = some t) : s.Transition token .handlerStep t := by
  unfold handlerStep at h
  split at h
  case h_1 | h_2 | h_3 => cases h
  case h_4 old hh =>
    split at h
    case isTrue hstarted =>
      cases h
      exact .update old hh hstarted
    case isFalse hstopped =>
      split at h
      case isTrue hkick =>
        cases h
        exact .start old hh (by simpa using hstopped) hkick
      case isFalse hkick =>
        cases h
        exact .noKick old hh (by simpa [Vring.hasKickEvent] using hkick)
  case h_5 hh =>
    cases h
    exact .updateStarted hh
  case h_6 old hh =>
    cases h
    exact .walked old hh
  case h_7 old i tok rest hh =>
    cases h
    exact .walk old i tok rest hh

theorem transition_of_step (h : s.step token a = some t) : s.Transition token a t := by
  cases a with
  | setVringKick file =>
    obtain ⟨hnot, h⟩ := Option.ite_none_left_eq_some.mp h
    obtain ⟨hh, hfile⟩ := not_or.mp hnot
    cases h
    exact .swap file (not_not.mp hh) (not_and.mp hfile)
  | handlerStep => exact transition_of_handlerStep h
  | loadKick i =>
    obtain ⟨hi, h⟩ := Option.ite_none_right_eq_some.mp h
    cases h
    exact .loadKick i hi
  | registerKick i =>
    simp only [step] at h
    split at h
    case h_1 hi =>
      cases h
      exact .noRegister i hi
    case h_2 kick hi =>
      split at h
      case h_1 l hl =>
        cases h
        exact .register i kick l hi hl
      case h_2 e he =>
        cases h
        exact .refused i kick e hi he
    case h_3 => cases h
  | addEpoll i =>
    simp only [step] at h
    split at h
    case h_1 kick hi =>
      obtain ⟨hh, h⟩ := Option.ite_none_left_eq_some.mp h
      cases h
      exact .addEpoll i kick hi (by simpa using hh)
    case h_2 => cases h
  | dropEpoll i =>
    simp only [step] at h
    split at h
    case h_1 kick hi =>
      cases h
      exact .dropEpoll i kick hi
    case h_2 => cases h

/-! ### The invariant -/

/-- The epoll has what its worker has added, and nothing else. -/
def Untouched (token : Fin n → UInt64) (s : KickRegistration n) (i : Fin n) : Prop :=
  s.interest i = kickEntry (token i) (s.workers i).kick

/-- The walk has been at some epolls of the list, and they wait for the kick; the others are untouched.
The old kick is not the new one. -/
def HandlerInv (token : Fin n → UInt64) (s : KickRegistration n) : Prop :=
  match s.handler with
  | .idle | .starting => ∀ entry ∈ s.epolls, s.Untouched token entry.1
  | .swapped old =>
    (old ≠ none → s.vring.kick ≠ old) ∧ ∀ entry ∈ s.epolls, s.Untouched token entry.1
  | .walking old rest =>
    (old ≠ none → s.vring.kick ≠ old) ∧ (∀ entry ∈ rest, s.Untouched token entry.1) ∧
      ∃ before, s.epolls = before ++ rest ∧
        ∀ entry ∈ before, s.live entry.1 = true → s.Registered token entry.1
  | .returned | .panicked _ => True

structure Inv (token : Fin n → UInt64) (s : KickRegistration n) : Prop where
  outside : ∀ i, (∀ kick, s.workers i ≠ .done kick) → s.live i = true ∧ s.Untouched token i
  joined : ∀ entry ∈ s.epolls, entry.2 = token entry.1 ∧ ∃ kick, s.workers entry.1 = .done kick
  nodup : (s.epolls.map Prod.fst).Nodup
  handler : s.HandlerInv token

theorem inv_new (vring : Vring) : (new vring : KickRegistration n).Inv token where
  outside _ _ := ⟨rfl, rfl⟩
  joined _ h := nomatch h
  nodup := .nil
  handler _ h := nomatch h

/-- What the handler relies on is about the epolls of the list. -/
theorem HandlerInv.congr (h : s.HandlerInv token) (hvring : t.vring = s.vring)
    (hepolls : t.epolls = s.epolls) (hhandler : t.handler = s.handler)
    (hlisted : ∀ entry ∈ s.epolls, t.workers entry.1 = s.workers entry.1 ∧
      t.interest entry.1 = s.interest entry.1 ∧ (t.live entry.1 = true → s.live entry.1 = true)) :
    t.HandlerInv token := by
  have huntouched {entry : Fin n × UInt64} (he : entry ∈ s.epolls)
      (hs : s.Untouched token entry.1) : t.Untouched token entry.1 := by
    obtain ⟨hworker, hinterest, -⟩ := hlisted entry he
    rw [Untouched, hinterest, hworker]
    exact hs
  have hregistered {entry : Fin n × UInt64} (he : entry ∈ s.epolls)
      (hs : s.Registered token entry.1) : t.Registered token entry.1 := by
    obtain ⟨-, hinterest, -⟩ := hlisted entry he
    rw [Registered, hinterest, hvring]
    exact hs
  unfold HandlerInv at h ⊢
  rw [hhandler, hvring, hepolls]
  cases hh : s.handler with
  | idle | starting =>
    rw [hh] at h
    exact fun entry he => huntouched he (h entry he)
  | swapped old =>
    rw [hh] at h
    exact ⟨h.1, fun entry he => huntouched he (h.2 entry he)⟩
  | walking old rest =>
    rw [hh] at h
    obtain ⟨hold, hrest, before, hsplit, hbefore⟩ := h
    refine ⟨hold, fun entry he => huntouched ?_ (hrest entry he), before, hsplit,
      fun entry he hlive => ?_⟩
    · simp [hsplit, he]
    · have hmem : entry ∈ s.epolls := by simp [hsplit, he]
      exact hregistered hmem (hbefore entry he ((hlisted entry hmem).2.2 hlive))
  | returned | panicked => trivial

/-- A worker that has not joined the list goes on. -/
theorem Inv.move (h : s.Inv token) {i : Fin n} (hi : ∀ kick, s.workers i ≠ .done kick) {l : Interest}
    {pc : RegisterPc} (hl : l = kickEntry (token i) pc.kick) :
    ((s.setInterest i l).setWorker i pc).Inv token := by
  have hothers {j : Fin n} (hj : j ≠ i) :
      ((s.setInterest i l).setWorker i pc).workers j = s.workers j ∧
        ((s.setInterest i l).setWorker i pc).interest j = s.interest j :=
    ⟨Function.update_of_ne hj .., Function.update_of_ne hj ..⟩
  have hlisted {entry : Fin n × UInt64} (he : entry ∈ s.epolls) : entry.1 ≠ i := by
    intro hentry
    obtain ⟨-, kick, hkick⟩ := h.joined entry he
    exact hi kick (hentry ▸ hkick)
  refine ⟨fun j hj => ?_, fun entry he => ?_, h.nodup, ?_⟩
  · by_cases hij : j = i
    · subst hij
      refine ⟨(h.outside j hi).1, ?_⟩
      simp [Untouched, setWorker, setInterest, hl]
    · obtain ⟨hworker, hinterest⟩ := hothers hij
      rw [hworker] at hj
      rw [Untouched, hworker, hinterest]
      exact h.outside j hj
  · rw [(hothers (hlisted he)).1]
    exact h.joined entry he
  · refine h.handler.congr rfl rfl rfl fun entry he => ?_
    obtain ⟨hworker, hinterest⟩ := hothers (hlisted he)
    exact ⟨hworker, hinterest, id⟩

theorem setInterest_self (s : KickRegistration n) (i : Fin n) : s.setInterest i (s.interest i) = s := by
  simp [setInterest]

theorem Inv.setWorker (h : s.Inv token) {i : Fin n} (hi : ∀ kick, s.workers i ≠ .done kick)
    {pc : RegisterPc} (hpc : pc.kick = (s.workers i).kick) : (s.setWorker i pc).Inv token := by
  have hmove : ((s.setInterest i (s.interest i)).setWorker i pc).Inv token :=
    h.move hi (by rw [hpc]; exact (h.outside i hi).2)
  rw [setInterest_self] at hmove
  exact hmove

/-- A worker joins the list, while nobody walks it. -/
theorem Inv.addEpoll (h : s.Inv token) {i : Fin n} {kick : Option Fd}
    (hi : s.workers i = .added kick) (hh : s.handler.isWalking = false) :
    Inv token { s.setWorker i (.done kick) with
      epolls := s.epolls.filter (fun entry => s.live entry.1) ++ [(i, token i)] } := by
  have hnot : ∀ kick, s.workers i ≠ .done kick := by simp [hi]
  have hdone : (s.setWorker i (.done kick)).Inv token := h.setWorker hnot (by rw [hi]; rfl)
  have huntouched : (s.setWorker i (.done kick)).Untouched token i := by
    have hs := (h.outside i hnot).2
    rw [Untouched, hi] at hs
    simpa [Untouched, KickRegistration.setWorker, RegisterPc.kick] using hs
  have hnew : i ∉ s.epolls.map Prod.fst := by
    intro hmem
    obtain ⟨entry, he, rfl⟩ := List.mem_map.mp hmem
    obtain ⟨-, k, hk⟩ := h.joined entry he
    exact hnot k hk
  have hlisted {P : Fin n × UInt64 → Prop} (hall : ∀ entry ∈ s.epolls, P entry)
      (hlast : P (i, token i)) :
      ∀ entry ∈ s.epolls.filter (fun entry => s.live entry.1) ++ [(i, token i)], P entry := by
    intro entry he
    obtain he | he := List.mem_append.mp he
    · exact hall entry (List.mem_filter.mp he).1
    · rw [List.mem_singleton.mp he]
      exact hlast
  refine ⟨hdone.outside, hlisted hdone.joined ⟨rfl, kick, ?_⟩, ?_, ?_⟩
  · simp [KickRegistration.setWorker]
  · rw [List.map_append, List.nodup_append]
    refine ⟨h.nodup.sublist (List.filter_sublist.map Prod.fst), List.nodup_singleton i, ?_⟩
    rintro j hj k hk rfl
    rw [List.map_singleton, List.mem_singleton] at hk
    obtain ⟨entry, he, hentry⟩ := List.mem_map.mp hj
    exact hnew (List.mem_map.mpr ⟨entry, (List.mem_filter.mp he).1, hentry.trans hk⟩)
  · have hs := hdone.handler
    unfold HandlerInv at hs ⊢
    cases hcase : s.handler with
    | idle | starting =>
      simp only [KickRegistration.setWorker, hcase] at hs ⊢
      exact hlisted hs huntouched
    | swapped old =>
      simp only [KickRegistration.setWorker, hcase] at hs ⊢
      exact ⟨hs.1, hlisted hs.2 huntouched⟩
    | walking old rest =>
      rw [hcase] at hh
      cases hh
    | returned | panicked => simp only [KickRegistration.setWorker, hcase]

/-- What is known of the list while it is walked. -/
theorem Inv.walking (h : s.Inv token) {old : Option Fd} {rest : List (Fin n × UInt64)}
    (hh : s.handler = .walking old rest) :
    (old ≠ none → s.vring.kick ≠ old) ∧ (∀ entry ∈ rest, s.Untouched token entry.1) ∧
      ∃ before, s.epolls = before ++ rest ∧
        ∀ entry ∈ before, s.live entry.1 = true → s.Registered token entry.1 := by
  have hhandler := h.handler
  rw [HandlerInv, hh] at hhandler
  exact hhandler

section

variable {old : Option Fd} {i : Fin n} {tok : UInt64} {rest : List (Fin n × UInt64)}

/-- The walk goes on behind an epoll which is dropped, or waits for the kick now. -/
theorem Inv.walkOn (h : s.Inv token) (hh : s.handler = .walking old ((i, tok) :: rest)) (l : Interest)
    (hl : s.live i = true →
      ∀ kick, s.vring.kick = some kick → l.filter (fun entry => entry.1 = kick) = [(kick, token i)]) :
    Inv token { s.setInterest i l with handler := .walking old rest } := by
  obtain ⟨hold, hrest, before, hsplit, hbefore⟩ := h.walking hh
  have hnodup := h.nodup
  rw [hsplit, List.map_append, List.map_cons, List.nodup_append, List.nodup_cons] at hnodup
  obtain ⟨-, ⟨hnotRest, -⟩, hdisjoint⟩ := hnodup
  have hmem : (i, tok) ∈ s.epolls := by simp [hsplit]
  obtain ⟨-, kick, hdone⟩ := h.joined _ hmem
  have hothers {j : Fin n} (hj : j ≠ i) : (s.setInterest i l).interest j = s.interest j :=
    Function.update_of_ne hj ..
  refine ⟨fun j hj => ?_, h.joined, h.nodup, hold, fun entry he => ?_, before ++ [(i, tok)],
    by simp [setInterest, hsplit], fun entry he hlive => ?_⟩
  · have hij : j ≠ i := fun hij => hj kick (hij ▸ hdone)
    obtain ⟨hlive, hs⟩ := h.outside j hj
    exact ⟨hlive, (hothers hij).trans hs⟩
  · have hij : entry.1 ≠ i := fun hij => hnotRest (List.mem_map.mpr ⟨entry, he, hij⟩)
    exact (hothers hij).trans (hrest entry (List.mem_cons_of_mem _ he))
  · obtain he | he := List.mem_append.mp he
    · have hij : entry.1 ≠ i :=
        hdisjoint entry.1 (List.mem_map_of_mem he) i List.mem_cons_self
      intro k hk
      have hs := hbefore entry he hlive k hk
      rw [← hothers hij] at hs
      exact hs
    · cases List.mem_singleton.mp he
      intro k hk
      show (Function.update s.interest i l i).filter _ = _
      rw [Function.update_self]
      exact hl hlive k hk

theorem Inv.walk (h : s.Inv token) (hh : s.handler = .walking old ((i, tok) :: rest)) :
    (s.walk old i tok rest).Inv token := by
  obtain ⟨-, -, before, hsplit, -⟩ := h.walking hh
  have htok : tok = token i := (h.joined (i, tok) (by simp [hsplit])).1
  unfold KickRegistration.walk
  split
  case isFalse hlive =>
    have hon := h.walkOn hh (s.interest i) fun hl => absurd hl hlive
    rw [setInterest_self] at hon
    exact hon
  case isTrue =>
    split
    case h_1 l hl =>
      refine h.walkOn hh l fun _ kick hkick => ?_
      rw [hkick] at hl
      exact htok ▸ filter_of_updateEpoll hl
    case h_2 => exact ⟨h.outside, h.joined, h.nodup, trivial⟩

end

/-- **Step lemma.** -/
theorem Inv.step (h : s.Inv token) (hstep : s.step token a = some t) : t.Inv token := by
  cases transition_of_step hstep with
  | swap file hh hfile =>
    have hhandler := h.handler
    rw [HandlerInv, hh] at hhandler
    refine ⟨h.outside, h.joined, h.nodup, fun hold hsame => ?_, hhandler⟩
    have hsame : file = s.vring.kick := hsame
    exact hfile (by rw [hsame]; exact hold) hsame
  | update old hh =>
    have hhandler := h.handler
    rw [HandlerInv, hh] at hhandler
    exact ⟨h.outside, h.joined, h.nodup, hhandler.1, hhandler.2, [], rfl, nofun⟩
  | start old hh =>
    have hhandler := h.handler
    rw [HandlerInv, hh] at hhandler
    exact ⟨h.outside, h.joined, h.nodup, hhandler.2⟩
  | noKick => exact ⟨h.outside, h.joined, h.nodup, trivial⟩
  | updateStarted hh =>
    have hhandler := h.handler
    rw [HandlerInv, hh] at hhandler
    exact ⟨h.outside, h.joined, h.nodup, nofun, hhandler, [], rfl, nofun⟩
  | walked => exact ⟨h.outside, h.joined, h.nodup, trivial⟩
  | walk old i tok rest hh => exact h.walk hh
  | loadKick i hi | noRegister i hi => exact h.setWorker (by simp [hi]) (by rw [hi]; rfl)
  | register i kick l hi hl =>
    have hnot : ∀ kick, s.workers i ≠ .done kick := by simp [hi]
    have hs := (h.outside i hnot).2
    rw [Untouched, hi] at hs
    rw [hs] at hl
    exact h.move hnot (registerKick_eq_ok.mp hl).2
  | refused i kick e hi he => exact h.setWorker (by simp [hi]) (by rw [hi]; rfl)
  | addEpoll i kick hi hh => exact h.addEpoll hi hh
  | dropEpoll i kick hi =>
    refine ⟨fun j hj => ?_, h.joined, h.nodup, ?_⟩
    · have hij : j ≠ i := fun hij => hj kick (hij ▸ hi)
      obtain ⟨hlive, hs⟩ := h.outside j hj
      exact ⟨(Function.update_of_ne hij ..).trans hlive, hs⟩
    · refine h.handler.congr rfl rfl rfl fun entry _ => ⟨rfl, rfl, fun hlive => ?_⟩
      by_cases hij : entry.1 = i
      · simp [hij] at hlive
      · simpa [hij] using hlive

/-! ### The steps that meet the condition -/

/-- While the message is on its way, only failures count. -/
theorem Sound.handler_step (hs : s.Sound token) (hworkers : t.workers = s.workers)
    (hhandler : ∀ e, t.handler ≠ .panicked e) (hreturned : t.handler ≠ .returned) : t.Sound token where
  handler := hhandler
  workers i e := by
    rw [hworkers]
    exact hs.workers i e
  registered hh := absurd hh hreturned

theorem Sound.setWorker (hs : s.Sound token) (i : Fin n) (pc : RegisterPc) (hpc : ∀ e, pc ≠ .failed e) :
    (s.setWorker i pc).Sound token where
  handler := hs.handler
  workers j e := by
    by_cases hij : j = i
    · simpa [KickRegistration.setWorker, hij] using hpc e
    · simpa [KickRegistration.setWorker, hij] using hs.workers j e
  registered := hs.registered

theorem sound_walk_iff (hs : s.Sound token) {old : Option Fd} {i : Fin n} {tok : UInt64}
    {rest : List (Fin n × UInt64)} :
    (s.walk old i tok rest).Sound token ↔
      (s.live i = true → ∃ l, updateEpoll old s.vring.kick (old.any fun kick => s.Held kick) tok
        (s.interest i) = .ok l) := by
  unfold KickRegistration.walk
  split
  case isFalse hlive =>
    exact ⟨fun _ h => absurd h hlive, fun _ => hs.handler_step rfl nofun nofun⟩
  case isTrue hlive =>
    split
    case h_1 l hl => exact ⟨fun _ _ => ⟨l, hl⟩, fun _ => hs.handler_step rfl nofun nofun⟩
    case h_2 e he =>
      refine ⟨fun ht => absurd rfl (ht.handler e), fun hok => ?_⟩
      obtain ⟨l, hl⟩ := hok hlive
      cases hl.symm.trans he

theorem walk_orderly_iff (h : s.Inv token) {old : Option Fd} {i : Fin n} {tok : UInt64}
    {rest : List (Fin n × UInt64)} (hh : s.handler = .walking old ((i, tok) :: rest)) :
    (s.live i = true → ∃ l, updateEpoll old s.vring.kick (old.any fun kick => s.Held kick) tok
      (s.interest i) = .ok l) ↔ s.Orderly .handlerStep := by
  obtain ⟨hold, hrest, before, hsplit, -⟩ := h.walking hh
  obtain ⟨-, k, hk⟩ := h.joined (i, tok) (by simp [hsplit])
  have hinterest : s.interest i = kickEntry (token i) k := by
    have huntouched := hrest (i, tok) List.mem_cons_self
    rw [Untouched, hk] at huntouched
    exact huntouched
  rw [Orderly, hh, hinterest]
  cases old with
  | none =>
    refine imp_congr_right fun _ => ?_
    rw [updateEpoll_none_iff, hk]
    simp
  | some kick =>
    refine imp_congr_right fun _ => ?_
    rw [updateEpoll_some_iff (hold nofun), hk]
    simp

/-- A worker that joins the list has its epoll as it has loaded the kick. -/
theorem registered_iff_of_added (h : s.Inv token) {i : Fin n} {kick : Option Fd}
    (hi : s.workers i = .added kick) :
    s.Registered token i ↔ (s.vring.kick ≠ none → s.workers i = .added s.vring.kick) := by
  have hs := (h.outside i (by simp [hi])).2
  rw [Untouched, hi] at hs
  rw [Registered, hs, hi]
  cases hkick : s.vring.kick with
  | none => simp
  | some fd =>
    cases kick with
    | none => simp [kickEntry, RegisterPc.kick]
    | some k =>
      by_cases hk : k = fd <;> simp [kickEntry, RegisterPc.kick, hk]

theorem sound_addEpoll_iff (h : s.Inv token) (hs : s.Sound token) {i : Fin n} {kick : Option Fd}
    (hi : s.workers i = .added kick) :
    Sound token { s.setWorker i (.done kick) with
      epolls := s.epolls.filter (fun entry => s.live entry.1) ++ [(i, token i)] } ↔
      s.Orderly (.addEpoll i) := by
  have hlive : s.live i = true := (h.outside i (by simp [hi])).1
  have hdone : (s.setWorker i (.done kick)).Sound token := hs.setWorker i _ nofun
  rw [Orderly, ← registered_iff_of_added h hi]
  constructor
  · intro ht hh
    exact ht.registered hh (i, token i) (by simp) hlive
  · intro hlast
    refine ⟨hdone.handler, hdone.workers, fun hh entry he hentry => ?_⟩
    obtain he | he := List.mem_append.mp he
    · exact hs.registered hh entry (List.mem_filter.mp he).1 hentry
    · cases List.mem_singleton.mp he
      exact hlast hh

/-- **Exactness of the condition.** -/
theorem sound_step_iff (h : s.Inv token) (hs : s.Sound token) (hstep : s.step token a = some t) :
    t.Sound token ↔ s.Orderly a := by
  cases transition_of_step hstep with
  | swap => exact iff_of_true (hs.handler_step rfl nofun nofun) trivial
  | update old hh | start old hh =>
    exact iff_of_true (hs.handler_step rfl nofun nofun) (by rw [Orderly, hh]; trivial)
  | updateStarted hh =>
    exact iff_of_true (hs.handler_step rfl nofun nofun) (by rw [Orderly, hh]; trivial)
  | noKick old hh hkick =>
    refine iff_of_true ⟨nofun, hs.workers, fun _ entry _ _ kick hk => ?_⟩ (by rw [Orderly, hh]; trivial)
    cases hk.symm.trans hkick
  | walked old hh =>
    obtain ⟨-, -, before, hsplit, hbefore⟩ := h.walking hh
    rw [List.append_nil] at hsplit
    refine iff_of_true ⟨nofun, hs.workers, fun _ entry he => hbefore entry (hsplit ▸ he)⟩ ?_
    rw [Orderly, hh]
    cases old <;> trivial
  | walk old i tok rest hh => rw [sound_walk_iff hs, walk_orderly_iff h hh]
  | loadKick i hi | noRegister i hi => exact iff_of_true (hs.setWorker i _ nofun) trivial
  | register i kick l hi hl =>
    have hset := hs.setWorker i (.added (some kick)) nofun
    refine iff_of_true ⟨hset.handler, hset.workers, fun hh entry he hlive k hk => ?_⟩ trivial
    have hij : entry.1 ≠ i := by
      intro hij
      obtain ⟨-, k, hdone⟩ := h.joined entry he
      cases hdone.symm.trans (hij ▸ hi)
    show (Function.update s.interest i l entry.1).filter _ = _
    rw [Function.update_of_ne hij]
    exact hs.registered hh entry he hlive k hk
  | refused i kick e hi he =>
    -- the epoll is empty
    have hempty := (h.outside i (by simp [hi])).2
    rw [Untouched, hi] at hempty
    rw [hempty] at he
    cases he
  | addEpoll i kick hi hh => exact sound_addEpoll_iff h hs hi
  | dropEpoll i kick hi =>
    refine iff_of_true ⟨hs.handler, hs.workers, fun hh entry he hlive => ?_⟩ trivial
    refine hs.registered hh entry he ?_
    by_cases hij : entry.1 = i
    · simp [hij] at hlive
    · simpa [hij] using hlive

/-! ### The message as a whole -/

/-- How far the message has changed the ring, which was `vring` before it. -/
def Changed (vring : Vring) (s : KickRegistration n) : Prop :=
  match s.handler with
  | .idle => s.vring = vring
  | .swapped _ => s.vring = (vring.setKick s.vring.kick true).2
  | .starting | .walking .. | .returned => s.vring = vring.setVringKick s.vring.kick
  | .panicked _ => True

theorem walk_handler (s : KickRegistration n) (old : Option Fd) (i : Fin n) (tok : UInt64)
    (rest : List (Fin n × UInt64)) : (s.walk old i tok rest).vring = s.vring ∧
      ((s.walk old i tok rest).handler = .walking old rest ∨
        ∃ e, (s.walk old i tok rest).handler = .panicked e) := by
  unfold walk
  split
  · split
    · exact ⟨rfl, .inl rfl⟩
    · exact ⟨rfl, .inr ⟨_, rfl⟩⟩
  · exact ⟨rfl, .inl rfl⟩

theorem Changed.step {vring : Vring} (h : s.Changed vring) (hstep : s.step token a = some t) :
    t.Changed vring := by
  unfold Changed at h
  cases transition_of_step hstep with
  | swap file hh =>
    rw [hh] at h
    cases h
    rfl
  | update old hh hstarted =>
    rw [hh] at h
    show s.vring = vring.setVringKick s.vring.kick
    rw [Vring.setVringKick, ← h, hstarted]
    rfl
  | start old hh hstopped hkick =>
    rw [hh] at h
    show ({ s.vring with queue := s.vring.queue.setReady true } : Vring) =
      vring.setVringKick s.vring.kick
    rw [Vring.setVringKick, ← h, hstopped, hkick]
    rfl
  | noKick old hh hkick =>
    rw [hh] at h
    show s.vring = vring.setVringKick s.vring.kick
    rw [Vring.setVringKick, ← h, Vring.hasKickEvent, hkick, Option.isSome_none, Bool.and_false]
    rfl
  | updateStarted hh | walked old hh => rw [hh] at h; exact h
  | walk old i tok rest hh =>
    rw [hh] at h
    unfold Changed
    obtain ⟨hvring, hhandler | ⟨e, hhandler⟩⟩ := s.walk_handler old i tok rest
    · rw [hhandler, hvring]
      exact h
    · rw [hhandler]
      trivial
  | _ => exact h

theorem vring_of_returned {vring : Vring}
    (hr : Reaches (step token) (fun _ _ => True) (.new vring) s) (hh : s.handler = .returned) :
    s.vring = vring.setVringKick s.vring.kick := by
  have h : s.Changed vring := hr.invariant rfl fun _ _ _ h _ hstep => h.step hstep
  rw [Changed, hh] at h
  exact h

end KickRegistration

namespace VhostUserHandler

variable {δ : Type} {dev : VhostUserDevice δ} {env : Env} {h t : VhostUserHandler δ}
  {r : Except RequestError Reply} {vring : Vring}

theorem vrings_activateDevice (ht : h.activateDevice dev = some (r, t)) : t.vrings = h.vrings := by
  unfold activateDevice at ht
  split at ht
  case h_1 => cases ht
  case h_2 => cases ht; rfl
  case h_3 => cases ht; rfl

theorem vring_initializeVring {index : Nat} {updateEpolls : Bool} (hget : h.vrings[index]? = some vring)
    (ht : h.initializeVring dev index updateEpolls = some (r, t)) :
    t.vrings[index]? = some (if ! vring.isStarted && vring.hasKickEvent then (vring.start true).2
      else vring) := by
  have hlt : index < h.vrings.length := (List.getElem?_eq_some_iff.mp hget).1
  have hstarted : vring.isStarted = vring.queue.ready := rfl
  rw [initializeVring, hget] at ht
  rw [hstarted]
  dsimp only at ht
  split at ht
  case isFalse hnot =>
    cases ht
    rw [if_neg hnot, hget]
  case isTrue hstart =>
    rw [if_pos hstart]
    split at ht
    case h_1 => cases ht
    case h_2 vring' hready =>
      obtain rfl : (vring.start true).2 = vring' := congrArg Prod.snd hready
      have hset : (h.setVring index (vring.start true).2).vrings[index]? =
          some (vring.start true).2 := List.getElem?_set_self hlt
      split at ht
      case isTrue => rw [vrings_activateDevice ht]; exact hset
      case isFalse => cases ht; exact hset

theorem vring_setVringKick {index : UInt8} {file : Option Fd}
    (hget : h.vrings[index.toNat]? = some vring)
    (ht : h.setVringKick dev env index file = some (r, t)) :
    t.vrings[index.toNat]? = some (vring.setVringKick file) := by
  have hlt : index.toNat < h.vrings.length := (List.getElem?_eq_some_iff.mp hget).1
  rw [setVringKick, hget] at ht
  dsimp only at ht
  split at ht
  case h_1 => cases ht
  case h_2 vring' hkick =>
    obtain rfl : (vring.setKick file true).2 = vring' := congrArg Prod.snd hkick
    exact vring_initializeVring (List.getElem?_set_self hlt) ht

/-- **The steps refine the message**: when it has returned, the ring is as the handler's own definition
leaves it. -/
theorem vring_setVringKick_eq {n : Nat} {token : Fin n → UInt64} {s : KickRegistration n}
    (hr : Reaches (KickRegistration.step token) (fun _ _ => True) (.new vring) s)
    (hh : s.handler = .returned) {index : UInt8} (hget : h.vrings[index.toNat]? = some vring)
    (ht : h.setVringKick dev env index s.vring.kick = some (r, t)) :
    t.vrings[index.toNat]? = some s.vring := by
  rw [KickRegistration.vring_of_returned hr hh]
  exact vring_setVringKick hget ht

end VhostUserHandler

/-- **When kicks are registered**: the states of a run are sound just when its steps meet the condition,
for any number of workers, from any ring that no epoll has joined. -/
theorem kick_registered_iff {n : Nat} (token : Fin n → UInt64) (vring : Vring)
    (as : List (RegistrationAction n))
    (hrun : (run (KickRegistration.step token) (.new vring) as).isSome) :
    (∀ m t, run (KickRegistration.step token) (.new vring) (as.take m) = some t → t.Sound token) ↔
      Along (KickRegistration.step token) KickRegistration.Orderly (.new vring) as :=
  forall_prefix_iff_along (I := KickRegistration.Inv token) (fun _ _ _ h hstep => h.step hstep)
    (fun _ _ _ h hs hstep => KickRegistration.sound_step_iff h hs hstep) as _
    (KickRegistration.inv_new vring) ⟨nofun, nofun, nofun⟩ hrun

/-- A ring of 8 descriptors. -/
def ringWithKick (ready : Bool) (kick : Option Fd) : Vring :=
  { queue :=
      { maxSize := 8, size := 8, ready := ready, descTable := 0, availRing := 0, usedRing := 0,
        nextAvail := 0, nextUsed := 0, eventIdxEnabled := false }
    enabled := true, kick := kick, call := none, err := none }

/-- Worker 0 registers before the message, and worker 1 loads the new kick but joins the list last. -/
def twoRegistrations : List (RegistrationAction 2) :=
  [.loadKick 0, .registerKick 0, .addEpoll 0, .setVringKick (some 7), .loadKick 1, .handlerStep,
    .handlerStep, .handlerStep, .handlerStep, .registerKick 1, .addEpoll 1]

theorem kick_registered_iff_two : ∃ s,
    run (KickRegistration.step fun i => i.val.toUInt64) (.new (ringWithKick false none)) twoRegistrations
      = some s ∧
    s.handler = .returned ∧ s.epolls = [(0, 0), (1, 1)] ∧ s.Sound fun i => i.val.toUInt64 := by
  have hsome : (run (KickRegistration.step fun i => i.val.toUInt64) (.new (ringWithKick false none))
    twoRegistrations).isSome := by decide
  have hsound := (kick_registered_iff _ _ twoRegistrations hsome).mpr (by decide)
  obtain ⟨s, hrun⟩ := Option.isSome_iff_exists.mp hsome
  have hs : s.handler = .returned ∧ s.epolls = [(0, 0), (1, 1)] := by
    cases hrun
    exact ⟨rfl, rfl⟩
  exact ⟨s, hrun, hs.1, hs.2, hsound twoRegistrations.length s hrun⟩

/-- **Three races** of one worker with one message: it joins the list with the new kick before `start`
walks the list; it has loaded no kick and joins the list after the walk; and its ring is started with a
kick, which is closed when the walk takes it out. -/
theorem kick_registration_races :
    let token : Fin 1 → UInt64 := fun _ => 3
    let register : List (RegistrationAction 1) := [.loadKick 0, .registerKick 0, .addEpoll 0]
    (run (KickRegistration.step token) (.new (ringWithKick false none))
        (.setVringKick (some 7) :: register ++ List.replicate 3 .handlerStep)).map
      (fun s => s.handler) = some (.panicked .exists) ∧
    (∃ s, run (KickRegistration.step token) (.new (ringWithKick false none))
        ([.loadKick 0, .setVringKick (some 7)] ++ List.replicate 3 .handlerStep ++
          [.registerKick 0, .addEpoll 0]) = some s ∧
      s.handler = .returned ∧ s.workers 0 = .done none ∧ s.epolls = [(0, 3)] ∧ s.live 0 = true ∧
      s.vring.kick = some 7 ∧ s.interest 0 = []) ∧
    (run (KickRegistration.step token) (.new (ringWithKick true (some 5)))
        (register ++ .setVringKick (some 7) :: List.replicate 2 .handlerStep)).map
      (fun s => s.handler) = some (.panicked .badFd) :=
  ⟨by decide, ⟨_, rfl, rfl, rfl, rfl, rfl, rfl, rfl⟩, by decide⟩

end VirtioPoc.VhostUser
