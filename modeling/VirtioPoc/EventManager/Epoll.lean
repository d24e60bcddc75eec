import VirtioPoc.Base.History
import VirtioPoc.EventManager.Token
import Mathlib.Logic.Function.Basic

/-!
# The event manager

An `EventManager` hands its tokens to an epoll as raw words and makes tokens again
of the words that come back.  The epoll is outside the repository: it is the
parameter `EpollHost`, and `EpollHost.Lawful` is what is documented of it.

An epoll knows a descriptor by its number and the open file that it refers to.  When
one descriptor of a file is closed and another process holds another one, the file
stays in the interest list, under a number that may come back for another file.

So what an event names is decided by the calls and the files alone: the token is
the one with which a file was last registered under a number, and nothing has taken
it out since.  The invariant is `watched_iff`, an equivalence between the interest
list of the epoll and the past; the step of its proof is `since_concat`.
-/

namespace VirtioPoc.EventManager

open Base

/-! ### The epoll -/

abbrev RawFd := Nat

abbrev EventSet := UInt32

namespace EventSet

def IN : EventSet := 0x1
def OUT : EventSet := 0x4
def ERROR : EventSet := 0x8
def HANG_UP : EventSet := 0x10
def READ_HANG_UP : EventSet := 0x2000
def PRIORITY : EventSet := 0x2
def EXCLUSIVE : EventSet := 0x10000000
def WAKE_UP : EventSet := 0x20000000
def ONE_SHOT : EventSet := 0x40000000
def EDGE_TRIGGERED : EventSet := 0x80000000

def all : EventSet :=
  IN ||| OUT ||| ERROR ||| READ_HANG_UP ||| EDGE_TRIGGERED ||| HANG_UP ||| PRIORITY ||| WAKE_UP |||
    ONE_SHOT ||| EXCLUSIVE

def fromBitsTruncate (bits : UInt32) : EventSet := bits &&& all

def contains (s other : EventSet) : Bool := s &&& other = other

end EventSet

/-- An `EpollEvent`; `data` is its field `u64`. -/
structure EpollEvent where
  events : UInt32
  data : UInt64
  deriving DecidableEq

def EpollEvent.default : EpollEvent := ⟨0, 0⟩

inductive ControlOperation
  | add
  | modify
  | delete
  deriving DecidableEq

/-- An `io::Error`: of the kind `Interrupted`, or another one. -/
inductive IoError
  | interrupted
  | other (code : Nat)
  deriving DecidableEq

/-- What an epoll knows a descriptor by: its number, and the open file it refers to. -/
abbrev Key (F : Type) := RawFd × F

/-- An `Epoll`, and the kernel behind it with the descriptors of the process.  `W` is what the kernel
finds ready during a wait, and `F` are the open files; `opened` and `closed` are about a number, and a
file is `released` with its last descriptor, in whatever process. -/
structure EpollHost (E F W : Type) where
  file : E → RawFd → Option F
  ctl : E → ControlOperation → RawFd → EpollEvent → Except IoError Unit × E
  wait : E → W → Int → Nat → Except IoError (List EpollEvent) × E
  opened : E → RawFd → F → E
  closed : E → RawFd → E
  released : E → F → E

/-- What an operation that has succeeded leaves for its descriptor. -/
def ControlOperation.leaves (op : ControlOperation) (event : EpollEvent) : Option EpollEvent :=
  match op with
  | .add | .modify => some event
  | .delete => none

/-- What is documented: an operation on an open descriptor changes the interest list as it says, or
fails and changes nothing; a descriptor is added only if it is not there, and modified or deleted only
if it is.  A wait reports at most `max` events, with the word that was registered, and of the events
only those asked for and the two that are always reported.  Without a timeout it reports at least one.
The list follows the files: the end of a descriptor leaves it as it is, and that of a file does not. -/
structure EpollHost.Lawful {E F W : Type} (host : EpollHost E F W)
    (interest : E → Key F → Option EpollEvent) : Prop where
  ctl_ok {e e' : E} {op : ControlOperation} {fd : RawFd} {event : EpollEvent}
    (h : host.ctl e op fd event = (.ok (), e')) : ∃ file, host.file e fd = some file ∧
      interest e' (fd, file) = op.leaves event ∧
      (∀ key ≠ (fd, file), interest e' key = interest e key) ∧
      (interest e (fd, file) = none ↔ op = .add)
  ctl_error {e e' : E} {op : ControlOperation} {fd : RawFd} {event : EpollEvent} {err : IoError}
    (h : host.ctl e op fd event = (.error err, e')) : interest e' = interest e
  ctl_file (e : E) (op : ControlOperation) (fd : RawFd) (event : EpollEvent) :
    host.file (host.ctl e op fd event).2 = host.file e
  wait_interest (e : E) (w : W) (timeout : Int) (max : Nat) :
    interest (host.wait e w timeout max).2 = interest e
  wait_file (e : E) (w : W) (timeout : Int) (max : Nat) :
    host.file (host.wait e w timeout max).2 = host.file e
  wait_ok {e : E} {w : W} {timeout : Int} {max : Nat} {events : List EpollEvent}
    (h : (host.wait e w timeout max).1 = .ok events) :
    events.length ≤ max ∧ ∀ ev ∈ events, ∃ key r, interest e key = some r ∧ ev.data = r.data ∧
      ev.events &&& (r.events ||| EventSet.ERROR ||| EventSet.HANG_UP) = ev.events
  wait_forever {e : E} {w : W} {max : Nat} {events : List EpollEvent}
    (h : (host.wait e w (-1) max).1 = .ok events) : events ≠ []
  opened_interest (e : E) (fd : RawFd) (file : F) : interest (host.opened e fd file) = interest e
  opened_file (e : E) (fd : RawFd) (file : F) :
    host.file (host.opened e fd file) = Function.update (host.file e) fd (some file)
  closed_interest (e : E) (fd : RawFd) : interest (host.closed e fd) = interest e
  closed_file (e : E) (fd : RawFd) :
    host.file (host.closed e fd) = Function.update (host.file e) fd none
  released_interest (e : E) (file : F) (key : Key F) :
    (key.2 = file → interest (host.released e file) key = none) ∧
      (key.2 ≠ file → interest (host.released e file) key = interest e key)
  released_file (e : E) (file : F) : host.file (host.released e file) = host.file e

/-! ### The manager -/

structure TriggeredEvent (t : TokenType) where
  token : Token t
  readable : Bool
  writable : Bool
  hungup : Bool

/-- The sources of the repository.  A kick event registers the kick that its ring has, if any. -/
inductive EventSource
  | eventFd (fd : RawFd)
  | portEvent (fd : RawFd) (events : EventSet)
  | kickEvent (kick : Option RawFd)

/-- How a wait goes: it returns, or it is interrupted each time and still waits, or it panics. -/
inductive Waited (α : Type)
  | returned (r : Except IoError α)
  | waiting
  | panicked

/-- A `Duration` of the standard library. -/
structure Duration where
  secs : UInt64
  nanos : UInt32
  lt : nanos.toNat < 1000000000

def Duration.asMillis (d : Duration) : Nat := d.secs.toNat * 1000 + d.nanos.toNat / 1000000

/-- The timeout for the epoll: `-1` for none, else the milliseconds, at most `i32::MAX`. -/
def timeoutMillis : Option Duration → Int
  | none => -1
  | some d => if d.asMillis < 2 ^ 31 then d.asMillis else 2 ^ 31 - 1

section

variable {E F W : Type} (host : EpollHost E F W)

def registerKick (e : E) (kick : RawFd) (token : UInt64) : Except IoError Unit × E :=
  host.ctl e .add kick ⟨EventSet.IN, token⟩

def unregisterKick (e : E) (kick : RawFd) : Except IoError Unit × E :=
  host.ctl e .delete kick ⟨EventSet.IN, 0⟩

def EventSource.registerSelf (e : E) (token : UInt64) : EventSource → Except IoError Unit × E
  | .eventFd fd => host.ctl e .add fd ⟨EventSet.IN, token⟩
  | .portEvent fd events => host.ctl e .add fd ⟨events, token⟩
  | .kickEvent (some kick) => registerKick host e kick token
  | .kickEvent none => (.ok (), e)

def EventSource.unregisterSelf (e : E) : EventSource → Except IoError Unit × E
  | .eventFd fd => host.ctl e .delete fd .default
  | .portEvent fd events => host.ctl e .delete fd ⟨events, 0⟩
  | .kickEvent (some kick) => unregisterKick host e kick
  | .kickEvent none => (.ok (), e)

/-- The loop around `epoll.wait`: again while it is interrupted.  Each `w` is one time round. -/
def waitUninterrupted (e : E) (timeout : Int) (max : Nat) :
    List W → Waited (List EpollEvent) × E
  | [] => (.waiting, e)
  | w :: ws =>
    match host.wait e w timeout max with
    | (.ok events, e) => (.returned (.ok events), e)
    | (.error .interrupted, e) => waitUninterrupted e timeout max ws
    | (.error err, e) => (.returned (.error err), e)

variable (t : TokenType)

/-- `none` is the panic of `from_raw_token`. -/
def triggered (e : EpollEvent) : Option (TriggeredEvent t) :=
  let eventSet := EventSet.fromBitsTruncate e.events
  (fromRawToken t e.data).map fun token =>
    { token
      readable := eventSet.contains EventSet.IN
      writable := eventSet.contains EventSet.OUT
      hungup := eventSet.contains EventSet.HANG_UP || eventSet.contains EventSet.READ_HANG_UP }

/-- The slice of the buffer panics when there are more than 16 events. -/
def waitTimeout (e : E) (timeout : Option Duration) (ws : List W) :
    Waited (List (TriggeredEvent t)) × E :=
  match waitUninterrupted host e (timeoutMillis timeout) 16 ws with
  | (.returned (.ok events), e) =>
    if events.length ≤ 16 then
      match events.mapM (triggered t) with
      | some events => (.returned (.ok events), e)
      | none => (.panicked, e)
    else (.panicked, e)
  | (.returned (.error err), e) => (.returned (.error err), e)
  | (.waiting, e) => (.waiting, e)
  | (.panicked, e) => (.panicked, e)

def wait (e : E) (ws : List W) : Waited (List (TriggeredEvent t)) × E :=
  waitTimeout host t e none ws

/-- With the `assert_eq!` on the number of events. -/
def waitOne (e : E) (ws : List W) : Waited (TriggeredEvent t) × E :=
  match waitUninterrupted host e (-1) 1 ws with
  | (.returned (.ok [event]), e) =>
    match triggered t event with
    | some event => (.returned (.ok event), e)
    | none => (.panicked, e)
  | (.returned (.ok _), e) => (.panicked, e)
  | (.returned (.error err), e) => (.returned (.error err), e)
  | (.waiting, e) => (.waiting, e)
  | (.panicked, e) => (.panicked, e)

end

/-! ### Calls, and what they leave -/

/-- A call of the manager, of a ring that replaces its kick in the epoll, or what becomes of the
descriptors and the files. -/
inductive Call (t : TokenType) (F W : Type)
  | add (source : EventSource) (token : Token t)
  | remove (source : EventSource)
  | addFd (fd : RawFd) (events : EventSet) (token : Token t)
  | modifyFd (fd : RawFd) (events : EventSet) (token : Token t)
  | deleteFd (fd : RawFd)
  | registerKick (kick : RawFd) (token : Token t)
  | unregisterKick (kick : RawFd)
  | opened (fd : RawFd) (file : F)
  | closed (fd : RawFd)
  | released (file : F)
  | waitTimeout (timeout : Option Duration) (ws : List W)
  | waitOne (ws : List W)

variable {E F W : Type} {host : EpollHost E F W}
  {interest : E → Key F → Option EpollEvent}
variable {t : TokenType} {e e' : E}

/-- What a call that changes the interest list returns; the others are here for what they leave. -/
def Call.run (host : EpollHost E F W) (e : E) : Call t F W → Except IoError Unit × E
  | .add source token => source.registerSelf host e (asRawToken token)
  | .remove source => source.unregisterSelf host e
  | .addFd fd events token => host.ctl e .add fd ⟨events, asRawToken token⟩
  | .modifyFd fd events token => host.ctl e .modify fd ⟨events, asRawToken token⟩
  | .deleteFd fd => host.ctl e .delete fd .default
  | .registerKick kick token => EventManager.registerKick host e kick (asRawToken token)
  | .unregisterKick kick => EventManager.unregisterKick host e kick
  | .opened fd file => (.ok (), host.opened e fd file)
  | .closed fd => (.ok (), host.closed e fd)
  | .released file => (.ok (), host.released e file)
  | .waitTimeout timeout ws => (.ok (), (EventManager.waitTimeout host t e timeout ws).2)
  | .waitOne ws => (.ok (), (EventManager.waitOne host t e ws).2)

/-- What is registered for a descriptor of a source with a token. -/
def eventOf (watch : EventSet × Token t) : EpollEvent := ⟨watch.1, asRawToken watch.2⟩

/-- The descriptor that a call is about, and what it is to be watched for from then on. -/
def Call.leaves : Call t F W → Option (RawFd × Option (EventSet × Token t))
  | .add (.eventFd fd) token => some (fd, some (EventSet.IN, token))
  | .add (.portEvent fd events) token => some (fd, some (events, token))
  | .add (.kickEvent kick) token => kick.map fun fd => (fd, some (EventSet.IN, token))
  | .remove (.eventFd fd) | .remove (.portEvent fd _) => some (fd, none)
  | .remove (.kickEvent kick) => kick.map fun fd => (fd, none)
  | .addFd fd events token | .modifyFd fd events token => some (fd, some (events, token))
  | .deleteFd fd => some (fd, none)
  | .registerKick kick token => some (kick, some (EventSet.IN, token))
  | .unregisterKick kick => some (kick, none)
  | .opened .. | .closed _ | .released _ | .waitTimeout _ _ | .waitOne _ => none

/-- A call, whether it has succeeded, and the file of the descriptor that it is about. -/
structure Entry (t : TokenType) (F W : Type) where
  call : Call t F W
  ok : Bool
  file : Option F

/-- The call is about this file, under this number, and has succeeded. -/
def Entry.Changes (key : Key F) (watch : Option (EventSet × Token t)) (entry : Entry t F W) : Prop :=
  entry.ok = true ∧ entry.call.leaves = some (key.1, watch) ∧ entry.file = some key.2

/-- It has registered it, or taken it out, or the file has ended. -/
def Entry.Touches (key : Key F) (entry : Entry t F W) : Prop :=
  (∃ watch, entry.Changes key watch) ∨ entry.call = .released key.2

/-- The file was last registered so under this number, and no call that has succeeded has concerned it
since. -/
def LastWatched (log : List (Entry t F W)) (key : Key F) (watch : EventSet × Token t) : Prop :=
  Since (fun _ entry => entry.Changes key (some watch)) (fun entry => ¬ entry.Touches key) log

/-- The number refers to the file: it was last opened for it. -/
def Refers (log : List (Entry t F W)) (fd : RawFd) (file : F) : Prop :=
  Since (fun _ entry => entry.call = .opened fd file)
    (fun entry => entry.call ≠ .closed fd ∧ ∀ file', entry.call ≠ .opened fd file') log

def Call.step (host : EpollHost E F W) (e : E) (c : Call t F W) : Option E := some (c.run host e).2

def Call.entry (host : EpollHost E F W) (e : E) (c : Call t F W) : Entry t F W where
  call := c
  ok := match (c.run host e).1 with | .ok _ => true | .error _ => false
  file := c.leaves.bind fun left => host.file e left.1

def Call.note (host : EpollHost E F W) (e : E) (c : Call t F W) : List (Entry t F W) :=
  [c.entry host e]

/-! ### Waits -/

/-- What an event of the epoll comes from. -/
def ReportedBy (interest : E → Key F → Option EpollEvent) (e : E) (ev : EpollEvent) : Prop :=
  ∃ key r, interest e key = some r ∧ ev.data = r.data ∧
    ev.events &&& (r.events ||| EventSet.ERROR ||| EventSet.HANG_UP) = ev.events

theorem ReportedBy.congr {ev : EpollEvent} (h : ReportedBy interest e' ev)
    (he : interest e' = interest e) : ReportedBy interest e ev := by
  rw [ReportedBy, he] at h
  exact h

theorem waitUninterrupted_spec (hl : host.Lawful interest) (timeout : Int) (max : Nat) :
    ∀ (ws : List W) (e : E), interest (waitUninterrupted host e timeout max ws).2 = interest e ∧
      host.file (waitUninterrupted host e timeout max ws).2 = host.file e ∧
      (waitUninterrupted host e timeout max ws).1 ≠ .panicked ∧
      ∀ events, (waitUninterrupted host e timeout max ws).1 = .returned (.ok events) →
        events.length ≤ max ∧ (timeout = -1 → events ≠ []) ∧
          ∀ ev ∈ events, ReportedBy interest e ev := by
  intro ws
  induction ws with
  | nil => exact fun e => ⟨rfl, rfl, nofun, nofun⟩
  | cons w ws ih =>
    intro e
    have hkept := hl.wait_interest e w timeout max
    have hfile := hl.wait_file e w timeout max
    rw [waitUninterrupted]
    rcases hw : host.wait e w timeout max with ⟨err | events, e'⟩
    · rw [hw] at hkept hfile
      cases err with
      | interrupted =>
        obtain ⟨hi, hf, hp, hok⟩ := ih e'
        refine ⟨hi.trans hkept, hf.trans hfile, hp, fun events h => ?_⟩
        obtain ⟨hlen, hne, hmem⟩ := hok events h
        exact ⟨hlen, hne, fun ev hev => (hmem ev hev).congr hkept⟩
      | other code => exact ⟨hkept, hfile, nofun, nofun⟩
    · rw [hw] at hkept hfile
      refine ⟨hkept, hfile, nofun, fun events' h => ?_⟩
      cases h
      have hw1 : (host.wait e w timeout max).1 = .ok events := by rw [hw]
      obtain ⟨hlen, hmem⟩ := hl.wait_ok hw1
      refine ⟨hlen, fun ht => ?_, hmem⟩
      rw [ht] at hw1
      exact hl.wait_forever hw1

theorem waitTimeout_snd (timeout : Option Duration) (ws : List W) :
    (waitTimeout host t e timeout ws).2 =
      (waitUninterrupted host e (timeoutMillis timeout) 16 ws).2 := by
  rw [waitTimeout]
  rcases waitUninterrupted host e (timeoutMillis timeout) 16 ws with ⟨(err | events) | _ | _, e'⟩
  · rfl
  · show (if events.length ≤ 16 then _ else _ : Waited (List (TriggeredEvent t)) × E).2 = e'
    split
    · cases events.mapM (triggered t) <;> rfl
    · rfl
  · rfl
  · rfl

theorem waitOne_snd (ws : List W) :
    (waitOne host t e ws).2 = (waitUninterrupted host e (-1) 1 ws).2 := by
  rw [waitOne]
  rcases waitUninterrupted host e (-1) 1 ws with
    ⟨(err | _ | ⟨event, _ | ⟨event', events⟩⟩) | _ | _, e'⟩
  case returned.ok.cons.nil =>
    show (match triggered t event with
      | some event => _
      | none => _ : Waited (TriggeredEvent t) × E).2 = e'
    cases triggered t event <;> rfl
  all_goals rfl

/-! ### The files and the interest list, from the past -/

section

variable {log : List (Entry t F W)} {entry : Entry t F W} {c : Call t F W} {fd : RawFd} {file : F}
  {key : Key F} {watch : EventSet × Token t}

/-- What an entry does to a file under a number: it changes what it is watched for, or ends it, or is
not about it. -/
def Entry.Does (entry : Entry t F W) (key : Key F) (before after : Option EpollEvent) : Prop :=
  (∃ watch, entry.Changes key watch ∧ after = watch.map eventOf) ∨
    entry.call = .released key.2 ∧ after = none ∨ ¬ entry.Touches key ∧ after = before

/-- A call that is about one descriptor. -/
theorem does_of_ctl (hl : host.Lawful interest) {op : ControlOperation} {event : EpollEvent}
    {left : Option (EventSet × Token t)} (hrun : c.run host e = host.ctl e op fd event)
    (hc : c.leaves = some (fd, left)) (hop : op.leaves event = left.map eventOf) (key : Key F) :
    (c.entry host e).Does key (interest e key) (interest (c.run host e).2 key) := by
  have hcall : ∀ file, c ≠ .released file := by
    rintro file rfl
    cases hc
  have hfile : (c.entry host e).file = host.file e fd := by
    show c.leaves.bind _ = _
    rw [hc]
    rfl
  -- one that has failed, or is about another file
  have hkept (hno : (c.entry host e).ok = false ∨
      some key ≠ (host.file e fd).map fun file => (fd, file)) : ¬ (c.entry host e).Touches key := by
    rintro (⟨watch, hok, hleft, hkey⟩ | hend)
    · obtain ⟨hfd, -⟩ := Prod.mk.inj (Option.some.inj (hc.symm.trans hleft))
      rcases hno with hno | hno
      · exact Bool.false_ne_true (hno.symm.trans hok)
      · rw [← hfile, hkey, hfd] at hno
        exact hno rfl
    · exact hcall key.2 hend
  rcases h : host.ctl e op fd event with ⟨err | ⟨⟨⟩⟩, e'⟩
  · rw [hrun, h]
    refine .inr (.inr ⟨hkept (.inl ?_), congrFun (hl.ctl_error h) key⟩)
    show (match (c.run host e).1 with | .ok _ => true | .error _ => false) = false
    rw [hrun, h]
  · obtain ⟨file, hf, hnow, hother, -⟩ := hl.ctl_ok h
    have hok : (c.entry host e).ok = true := by
      show (match (c.run host e).1 with | .ok _ => true | .error _ => false) = true
      rw [hrun, h]
    rw [hrun, h]
    by_cases hkey : key = (fd, file)
    · subst hkey
      exact .inl ⟨left, ⟨hok, hc, hfile.trans hf⟩, hnow.trans hop⟩
    · refine .inr (.inr ⟨hkept (.inr ?_), hother key hkey⟩)
      rw [hf]
      exact fun heq => hkey (Option.some.inj heq)

/-- A call that is about none. -/
theorem does_of_none (hc : c.leaves = none) (hend : ∀ file, c ≠ .released file)
    (hkept : interest (c.run host e).2 = interest e) (key : Key F) :
    (c.entry host e).Does key (interest e key) (interest (c.run host e).2 key) := by
  refine .inr (.inr ⟨?_, congrFun hkept key⟩)
  rintro (⟨watch, -, hleft, -⟩ | hfile)
  · cases hc.symm.trans hleft
  · exact hend key.2 hfile

/-- **What a call does** to the interest list. -/
theorem Call.does (hl : host.Lawful interest) (c : Call t F W) (key : Key F) :
    (c.entry host e).Does key (interest e key) (interest (c.run host e).2 key) := by
  cases c with
  | add source token =>
    cases source with
    | eventFd fd => exact does_of_ctl hl rfl rfl rfl key
    | portEvent fd events => exact does_of_ctl hl rfl rfl rfl key
    | kickEvent kick =>
      cases kick with
      | none => exact does_of_none rfl (fun _ h => by cases h) rfl key
      | some fd => exact does_of_ctl hl rfl rfl rfl key
  | remove source =>
    cases source with
    | eventFd fd => exact does_of_ctl hl rfl rfl rfl key
    | portEvent fd events => exact does_of_ctl hl rfl rfl rfl key
    | kickEvent kick =>
      cases kick with
      | none => exact does_of_none rfl (fun _ h => by cases h) rfl key
      | some fd => exact does_of_ctl hl rfl rfl rfl key
  | addFd fd events token => exact does_of_ctl hl rfl rfl rfl key
  | modifyFd fd events token => exact does_of_ctl hl rfl rfl rfl key
  | deleteFd fd => exact does_of_ctl hl rfl rfl rfl key
  | registerKick kick token => exact does_of_ctl hl rfl rfl rfl key
  | unregisterKick kick => exact does_of_ctl hl rfl rfl rfl key
  | opened fd file =>
    exact does_of_none rfl (fun _ h => by cases h) (hl.opened_interest e fd file) key
  | closed fd => exact does_of_none rfl (fun _ h => by cases h) (hl.closed_interest e fd) key
  | released file =>
    obtain ⟨hgone, hkept⟩ := hl.released_interest e file key
    by_cases hkey : key.2 = file
    · exact .inr (.inl ⟨congrArg Call.released hkey.symm, hgone hkey⟩)
    · refine .inr (.inr ⟨?_, hkept hkey⟩)
      rintro (⟨watch, -, hleft, -⟩ | hfile)
      · cases hleft
      · cases hfile
        exact hkey rfl
  | waitTimeout timeout ws =>
    refine does_of_none rfl (fun _ h => by cases h) ?_ key
    show interest (EventManager.waitTimeout host t e timeout ws).2 = interest e
    rw [waitTimeout_snd]
    exact (waitUninterrupted_spec hl _ _ ws e).1
  | waitOne ws =>
    refine does_of_none rfl (fun _ h => by cases h) ?_ key
    show interest (EventManager.waitOne host t e ws).2 = interest e
    rw [waitOne_snd]
    exact (waitUninterrupted_spec hl _ _ ws e).1

theorem lastWatched_concat : LastWatched (log ++ [entry]) key watch ↔
    entry.Changes key (some watch) ∨ ¬ entry.Touches key ∧ LastWatched log key watch :=
  since_concat

/-- What an entry does is what is left of the past. -/
theorem Entry.Does.lastWatched {before after : Option EpollEvent} (h : entry.Does key before after)
    (ih : ∀ r, before = some r ↔ ∃ watch, r = eventOf watch ∧ LastWatched log key watch)
    (r : EpollEvent) :
    after = some r ↔ ∃ watch, r = eventOf watch ∧ LastWatched (log ++ [entry]) key watch := by
  rcases h with ⟨left, hchanges, rfl⟩ | ⟨hend, rfl⟩ | ⟨hn, rfl⟩
  · rw [Option.map_eq_some_iff]
    refine exists_congr fun watch => ?_
    rw [lastWatched_concat, and_comm, eq_comm (a := r)]
    refine and_congr_right fun _ => ⟨?_, ?_⟩
    · rintro rfl
      exact .inl hchanges
    · rintro (⟨-, hleft, -⟩ | ⟨hn, -⟩)
      · exact (Prod.mk.inj (Option.some.inj (hchanges.2.1.symm.trans hleft))).2
      · exact absurd (.inl ⟨left, hchanges⟩) hn
  · refine iff_of_false (fun h => by cases h) ?_
    rintro ⟨watch, -, hlast⟩
    rcases lastWatched_concat.mp hlast with ⟨-, hleft, -⟩ | ⟨hn, -⟩
    · rw [hend] at hleft
      cases hleft
    · exact hn (.inr hend)
  · rw [ih r]
    refine exists_congr fun watch => and_congr_right fun _ => ?_
    rw [lastWatched_concat]
    exact ⟨fun hlast => .inr ⟨hn, hlast⟩,
      fun hlast => hlast.elim (fun h => absurd (.inl ⟨_, h⟩) hn) And.right⟩

/-- **What a call does to the files.** -/
theorem Call.file_run (hl : host.Lawful interest) (c : Call t F W) :
    host.file (c.run host e).2 =
      match c with
      | .opened fd file => Function.update (host.file e) fd (some file)
      | .closed fd => Function.update (host.file e) fd none
      | _ => host.file e := by
  cases c with
  | add source token =>
    cases source with
    | eventFd fd => exact hl.ctl_file ..
    | portEvent fd events => exact hl.ctl_file ..
    | kickEvent kick =>
      cases kick with
      | none => rfl
      | some fd => exact hl.ctl_file ..
  | remove source =>
    cases source with
    | eventFd fd => exact hl.ctl_file ..
    | portEvent fd events => exact hl.ctl_file ..
    | kickEvent kick =>
      cases kick with
      | none => rfl
      | some fd => exact hl.ctl_file ..
  | addFd | modifyFd | deleteFd | registerKick | unregisterKick => exact hl.ctl_file ..
  | opened fd file => exact hl.opened_file e fd file
  | closed fd => exact hl.closed_file e fd
  | released file => exact hl.released_file e file
  | waitTimeout timeout ws =>
    show host.file (EventManager.waitTimeout host t e timeout ws).2 = host.file e
    rw [waitTimeout_snd]
    exact (waitUninterrupted_spec hl _ _ ws e).2.1
  | waitOne ws =>
    show host.file (EventManager.waitOne host t e ws).2 = host.file e
    rw [waitOne_snd]
    exact (waitUninterrupted_spec hl _ _ ws e).2.1

theorem refers_step (hl : host.Lawful interest)
    (ih : ∀ fd file, host.file e fd = some file ↔ Refers log fd file) (c : Call t F W) (fd : RawFd)
    (file : F) :
    host.file (c.run host e).2 fd = some file ↔ Refers (log ++ Call.note host e c) fd file := by
  have hfile := congrFun (Call.file_run (e := e) hl c) fd
  have hrefers : Refers (log ++ Call.note host e c) fd file ↔ c = .opened fd file ∨
      (c ≠ .closed fd ∧ ∀ file', c ≠ .opened fd file') ∧ Refers log fd file := since_concat
  rw [hrefers, hfile]
  cases c with
  | opened fd' file' =>
    by_cases hfd : fd = fd'
    · subst hfd
      simp [Function.update_self, eq_comm]
    · simp [Function.update_of_ne hfd, Ne.symm hfd, ih fd file]
  | closed fd' =>
    by_cases hfd : fd = fd'
    · subst hfd
      simp [Function.update_self]
    · simp [Function.update_of_ne hfd, Ne.symm hfd, ih fd file]
  | _ => simp [ih fd file]

/-- **The descriptors and the interest list are what the past has left**: a number refers to the file
for which it was last opened, and the list has an entry for each file that was registered under a number
and that nothing has concerned since. -/
theorem watched_iff (hl : host.Lawful interest) {e₀ : E} (h0 : ∀ key, interest e₀ key = none)
    (hn : ∀ fd, host.file e₀ fd = none) {calls : List (Call t F W)}
    (hrun : run (recording (Call.step host) (Call.note host)) (e₀, []) calls = some (e, log)) :
    (∀ fd file, host.file e fd = some file ↔ Refers log fd file) ∧
    ∀ key r, interest e key = some r ↔ ∃ watch, r = eventOf watch ∧ LastWatched log key watch := by
  refine (reaches_of_run_any calls hrun).invariant
    (I := fun p => (∀ fd file, host.file p.1 fd = some file ↔ Refers p.2 fd file) ∧
      ∀ key r, interest p.1 key = some r ↔
        ∃ watch, r = eventOf watch ∧ LastWatched p.2 key watch) ?_ ?_
  · refine ⟨fun fd file => ?_, fun key r => ?_⟩
    · rw [hn]
      exact iff_of_false nofun not_since_nil
    · rw [h0]
      exact iff_of_false nofun fun h => not_since_nil h.choose_spec.2
  · rintro ⟨e, log⟩ c ⟨e', log'⟩ ⟨ihf, ih⟩ - hstep
    obtain ⟨he', hlog⟩ := recording_eq_some.mp hstep
    obtain rfl : (c.run host e).2 = e' := Option.some.inj he'
    obtain rfl : log' = log ++ Call.note host e c := hlog
    exact ⟨refers_step hl ihf c, fun key r => (c.does hl key).lastWatched (ih key) r⟩

end

/-! ### Events -/

theorem contains_iff {s flag : EventSet} {k : Nat} (h : flag.toNat = 2 ^ k) :
    s.contains flag = true ↔ s.toNat.testBit k = true := by
  rw [EventSet.contains, decide_eq_true_iff, ← UInt32.toNat_inj, UInt32.toNat_and, h,
    Nat.and_two_pow]
  have hpos : 2 ^ k ≠ 0 := (Nat.two_pow_pos k).ne'
  cases s.toNat.testBit k <;> simp [hpos.symm]

/-- Of the events of a descriptor only those asked for are reported, but for an error and the end. -/
theorem asked_of_reported {ev asked flag : EventSet} {k : Nat} (hflag : flag.toNat = 2 ^ k)
    (he : EventSet.ERROR.toNat.testBit k = false) (hh : EventSet.HANG_UP.toNat.testBit k = false)
    (hev : ev &&& (asked ||| EventSet.ERROR ||| EventSet.HANG_UP) = ev)
    (h : (EventSet.fromBitsTruncate ev).contains flag = true) : asked.contains flag = true := by
  rw [contains_iff hflag] at h ⊢
  rw [EventSet.fromBitsTruncate, ← hev] at h
  simp only [UInt32.toNat_and, UInt32.toNat_or, Nat.testBit_and, Nat.testBit_or, he, hh,
    Bool.or_false, Bool.and_eq_true] at h
  exact h.1.2

/-- The event names a file that is watched under a number: with its token, and readable or writable
only if that was asked for. -/
def Names (log : List (Entry t F W)) (event : TriggeredEvent t) : Prop :=
  ∃ key watch, LastWatched log key watch ∧ event.token = watch.2 ∧
    (event.readable = true → watch.1.contains EventSet.IN = true) ∧
    (event.writable = true → watch.1.contains EventSet.OUT = true)

/-- An event of the epoll is read back as one of the manager. -/
theorem triggered_spec {n : Nat} (hu : usedBits t = some n) (hs : t.Small) {log : List (Entry t F W)}
    (hwatched : ∀ key r, interest e key = some r →
      ∃ watch, r = eventOf watch ∧ LastWatched log key watch)
    {ev : EpollEvent} (h : ReportedBy interest e ev) :
    ∃ event, triggered t ev = some event ∧ Names log event := by
  obtain ⟨key, r, hr, hdata, hev⟩ := h
  obtain ⟨watch, rfl, hlast⟩ := hwatched key r hr
  have hback : fromRawToken t ev.data = some watch.2 := by
    rw [hdata]
    exact (fromRaw_asRaw watch.2 hu hs).2.2
  rw [triggered, hback]
  refine ⟨_, rfl, key, watch, hlast, rfl, ?_, ?_⟩
  · exact asked_of_reported (k := 0) rfl rfl rfl hev
  · exact asked_of_reported (k := 2) rfl rfl rfl hev

theorem mapM_spec {A B : Type} {f : A → Option B} {P : B → Prop} :
    ∀ (as : List A), (∀ a ∈ as, ∃ b, f a = some b ∧ P b) →
      ∃ bs, as.mapM f = some bs ∧ bs.length = as.length ∧ ∀ b ∈ bs, P b := by
  intro as
  induction as with
  | nil => exact fun _ => ⟨[], rfl, rfl, fun _ h => absurd h List.not_mem_nil⟩
  | cons a as ih =>
    intro h
    obtain ⟨b, hb, hPb⟩ := h a List.mem_cons_self
    obtain ⟨bs, hbs, hlen, hP⟩ := ih fun a ha => h a (List.mem_cons_of_mem _ ha)
    refine ⟨b :: bs, by simp [List.mapM_cons, hb, hbs], by simp [hlen], ?_⟩
    exact List.forall_mem_cons.mpr ⟨hPb, hP⟩

/-- **What an event names is what was last registered.**  After any calls, a wait does not panic; it
reports at most 16 events, and at least one if it has no timeout; and each names a file that is watched.
So does the event of `wait_one`.  Only a descriptor that refers to a file is added or deleted; it is not
added when its file is watched under this number, and `delete_fd` fails when it is not, although its
documentation says that it does not. -/
theorem events_name_watched (hl : host.Lawful interest) {n : Nat} (hu : usedBits t = some n)
    (hs : t.Small) {e₀ : E} (h0 : ∀ key, interest e₀ key = none) (hn : ∀ fd, host.file e₀ fd = none)
    {calls : List (Call t F W)} {log : List (Entry t F W)}
    (hrun : run (recording (Call.step host) (Call.note host)) (e₀, []) calls = some (e, log)) :
    (∀ timeout ws, (waitTimeout host t e timeout ws).1 ≠ .panicked ∧
      ∀ events, (waitTimeout host t e timeout ws).1 = .returned (.ok events) →
        events.length ≤ 16 ∧ (timeout = none → events ≠ []) ∧ ∀ event ∈ events, Names log event) ∧
    (∀ ws, (waitOne host t e ws).1 ≠ .panicked ∧
      ∀ event, (waitOne host t e ws).1 = .returned (.ok event) → Names log event) ∧
    ∀ fd, ((Call.run host e (.deleteFd fd : Call t F W)).1 = .ok () →
        ∃ file, Refers log fd file ∧ ∃ watch, LastWatched log (fd, file) watch) ∧
      ∀ events token, (Call.run host e (.addFd fd events token : Call t F W)).1 = .ok () →
        ∃ file, Refers log fd file ∧ ∀ watch, ¬ LastWatched log (fd, file) watch := by
  obtain ⟨hfiles, hlist⟩ := watched_iff hl h0 hn hrun
  have hnames {ev : EpollEvent} (h : ReportedBy interest e ev) :
      ∃ event, triggered t ev = some event ∧ Names log event :=
    triggered_spec hu hs (fun key r hr => (hlist key r).mp hr) h
  refine ⟨?_, ?_, ?_⟩
  · intro timeout ws
    obtain ⟨-, -, hp, hok⟩ := waitUninterrupted_spec hl (timeoutMillis timeout) 16 ws e
    rw [waitTimeout]
    rcases hw : waitUninterrupted host e (timeoutMillis timeout) 16 ws with
      ⟨(err | events) | _ | _, e'⟩
    · exact ⟨nofun, nofun⟩
    · rw [hw] at hok
      obtain ⟨hlen, hne, hmem⟩ := hok events rfl
      obtain ⟨evs, hevs, hevlen, hall⟩ := mapM_spec events fun ev hev => hnames (hmem ev hev)
      simp only [if_pos hlen, hevs]
      refine ⟨nofun, fun events' h => ?_⟩
      obtain rfl : evs = events' := Except.ok.inj (Waited.returned.inj h)
      refine ⟨hevlen ▸ hlen, fun ht => ?_, hall⟩
      rw [← List.length_pos_iff, hevlen, List.length_pos_iff]
      exact hne (by rw [ht]; rfl)
    · exact ⟨nofun, nofun⟩
    · rw [hw] at hp
      exact absurd rfl hp
  · intro ws
    obtain ⟨-, -, hp, hok⟩ := waitUninterrupted_spec hl (-1) 1 ws e
    rw [waitOne]
    rcases hw : waitUninterrupted host e (-1) 1 ws with
      ⟨(err | _ | ⟨event, _ | ⟨event', events⟩⟩) | _ | _, e'⟩
    case returned.ok.cons.nil =>
      rw [hw] at hok
      obtain ⟨ev, hev, hname⟩ := hnames ((hok [event] rfl).2.2 event List.mem_cons_self)
      simp only [hev]
      refine ⟨nofun, fun event' h => ?_⟩
      obtain rfl : ev = event' := Except.ok.inj (Waited.returned.inj h)
      exact hname
    case returned.error => exact ⟨nofun, nofun⟩
    case returned.ok.nil =>
      rw [hw] at hok
      exact absurd rfl ((hok [] rfl).2.1 rfl)
    case returned.ok.cons.cons =>
      rw [hw] at hok
      exact absurd (hok _ rfl).1 (by simp)
    case waiting => exact ⟨nofun, nofun⟩
    case panicked =>
      rw [hw] at hp
      exact absurd rfl hp
  · intro fd
    have hctl {op : ControlOperation} {event : EpollEvent}
        (h : (host.ctl e op fd event).1 = .ok ()) :
        ∃ file, Refers log fd file ∧ (interest e (fd, file) = none ↔ op = .add) := by
      obtain ⟨file, hfile, -, -, hiff⟩ := hl.ctl_ok (Prod.ext h rfl)
      exact ⟨file, (hfiles fd file).mp hfile, hiff⟩
    constructor
    · intro h
      obtain ⟨file, hfile, hiff⟩ := hctl h
      refine ⟨file, hfile, ?_⟩
      cases hr : interest e (fd, file) with
      | none => cases hiff.mp hr
      | some r =>
        obtain ⟨watch, -, hlast⟩ := (hlist (fd, file) r).mp hr
        exact ⟨watch, hlast⟩
    · intro events token h
      obtain ⟨file, hfile, hiff⟩ := hctl h
      refine ⟨file, hfile, fun watch hlast => ?_⟩
      have hr := (hlist (fd, file) (eventOf watch)).mpr ⟨watch, rfl, hlast⟩
      cases hr.symm.trans (hiff.mpr rfl)

/-- The descriptors of a process, and an epoll as a table. -/
structure Table where
  files : RawFd → Option Nat
  interest : Key Nat → Option EpollEvent

/-- `w` lists what becomes ready. -/
def tableEpoll : EpollHost Table Nat (List (Key Nat × UInt32)) where
  file e := e.files
  ctl e op fd event :=
    match e.files fd with
    | none => (.error (.other 9), e)
    | some file =>
      match op, e.interest (fd, file) with
      | .add, some _ => (.error (.other 17), e)
      | .modify, none | .delete, none => (.error (.other 2), e)
      | .add, none | .modify, some _ =>
        (.ok (), { e with interest := Function.update e.interest (fd, file) (some event) })
      | .delete, some _ =>
        (.ok (), { e with interest := Function.update e.interest (fd, file) none })
  wait e ready timeout max :=
    let events := (ready.filterMap fun w => (e.interest w.1).bind fun r =>
      let now := w.2 &&& (r.events ||| EventSet.ERROR ||| EventSet.HANG_UP)
      if now = 0 then none else some ⟨now, r.data⟩).take max
    if events = [] ∧ timeout = -1 then (.error .interrupted, e) else (.ok events, e)
  opened e fd file := { e with files := Function.update e.files fd (some file) }
  closed e fd := { e with files := Function.update e.files fd none }
  released e file :=
    { e with interest := fun key => if key.2 = file then none else e.interest key }

theorem tableEpoll_lawful : tableEpoll.Lawful Table.interest where
  ctl_ok {e e' op fd event} h := by
    simp only [tableEpoll] at h
    cases hfile : e.files fd with
    | none =>
      rw [hfile] at h
      cases h
    | some file =>
      rw [hfile] at h
      refine ⟨file, hfile, ?_⟩
      cases op <;> cases hr : e.interest (fd, file) <;> simp only [hr] at h <;> cases h <;>
        exact ⟨Function.update_self .., fun key hkey => Function.update_of_ne hkey .., by simp⟩
  ctl_error {e e' op fd event err} h := by
    simp only [tableEpoll] at h
    cases hfile : e.files fd with
    | none =>
      rw [hfile] at h
      cases h
      rfl
    | some file =>
      rw [hfile] at h
      cases op <;> cases hr : e.interest (fd, file) <;> simp only [hr] at h <;> cases h <;> rfl
  ctl_file e op fd event := by
    simp only [tableEpoll]
    split
    · rfl
    · split <;> rfl
  wait_interest e w timeout max := by
    simp only [tableEpoll]
    split <;> rfl
  wait_file e w timeout max := by
    simp only [tableEpoll]
    split <;> rfl
  wait_ok {e w timeout max events} h := by
    simp only [tableEpoll] at h
    split at h
    case isTrue => cases h
    case isFalse =>
      obtain rfl := Except.ok.inj h
      refine ⟨List.length_take_le _ _, fun ev hev => ?_⟩
      obtain ⟨⟨key, bits⟩, -, hw⟩ := List.mem_filterMap.mp (List.mem_of_mem_take hev)
      obtain ⟨r, hr, hev⟩ := Option.bind_eq_some_iff.mp hw
      by_cases hnow : bits &&& (r.events ||| EventSet.ERROR ||| EventSet.HANG_UP) = 0
      · simp only [if_pos hnow] at hev
        cases hev
      · simp only [if_neg hnow] at hev
        obtain rfl := Option.some.inj hev
        exact ⟨key, r, hr, rfl, by rw [UInt32.and_assoc, UInt32.and_self]⟩
  wait_forever {e w max events} h := by
    simp only [tableEpoll] at h
    split at h
    case isTrue => cases h
    case isFalse hne =>
      obtain rfl := Except.ok.inj h
      exact fun hnil => hne ⟨hnil, trivial⟩
  opened_interest e fd file := rfl
  opened_file e fd file := rfl
  closed_interest e fd := rfl
  closed_file e fd := rfl
  released_interest e file key := ⟨fun h => if_pos h, fun h => if_neg h⟩
  released_file e file := rfl

/-- The tokens of the GPU worker: `Quit`, `ControlQ`, `CursorQ` and `Poll`. -/
def workerToken : TokenType := .enum (.unit (.unit (.unit (.unit .nil))))

def quit : Token workerToken := .enum .unit
def controlQ : Token workerToken := .enum (.skipUnit .unit)

/-- A kick that the frontend holds too is closed, and its number comes back for another event. -/
def reusedFd : List (Call workerToken Nat (List (Key Nat × UInt32))) :=
  [.opened 5 0, .add (.kickEvent (some 5)) controlQ, .closed 5, .opened 5 1, .add (.eventFd 5) quit,
    .add (.eventFd 7) quit]

theorem events_name_watched_reusedFd : ∃ e log,
    run (recording (Call.step tableEpoll) (Call.note tableEpoll))
      (⟨fun _ => none, fun _ => none⟩, []) reusedFd = some (e, log) ∧
    (∀ timeout ws, (waitTimeout tableEpoll workerToken e timeout ws).1 ≠ .panicked ∧
      ∀ events, (waitTimeout tableEpoll workerToken e timeout ws).1 = .returned (.ok events) →
        events.length ≤ 16 ∧ (timeout = none → events ≠ []) ∧ ∀ event ∈ events, Names log event) ∧
    (∀ ws, (waitOne tableEpoll workerToken e ws).1 ≠ .panicked ∧
      ∀ event, (waitOne tableEpoll workerToken e ws).1 = .returned (.ok event) → Names log event) ∧
    ∀ fd, ((Call.run (t := workerToken) tableEpoll e (.deleteFd fd)).1 = .ok () →
        ∃ file, Refers log fd file ∧ ∃ watch, LastWatched log (fd, file) watch) ∧
      ∀ events token, (Call.run (t := workerToken) tableEpoll e (.addFd fd events token)).1 = .ok () →
        ∃ file, Refers log fd file ∧ ∀ watch, ¬ LastWatched log (fd, file) watch :=
  ⟨_, _, rfl, events_name_watched (t := workerToken) tableEpoll_lawful (n := 2) (by decide)
    ⟨by decide, trivial⟩ (fun _ => rfl) (fun _ => rfl) (show run _ _ reusedFd = _ from rfl)⟩

/-- Both tokens are reported, and that of the kick also after `delete_fd`. -/
example : ∃ e log,
    run (recording (Call.step tableEpoll) (Call.note tableEpoll))
      (⟨fun _ => none, fun _ => none⟩, []) reusedFd = some (e, log) ∧
    (waitTimeout tableEpoll workerToken e none [[], [((5, 0), 1), ((5, 1), 1), ((7, 1), 1)]]).1 =
      .returned (.ok [⟨controlQ, true, false, false⟩, ⟨quit, true, false, false⟩]) ∧
    (waitTimeout tableEpoll workerToken
      (Call.run (t := workerToken) tableEpoll e (.deleteFd 5)).2 none [[((5, 1), 1), ((5, 0), 1)]]).1 =
      .returned (.ok [⟨controlQ, true, false, false⟩]) :=
  ⟨_, _, rfl, rfl, rfl⟩

end VirtioPoc.EventManager
