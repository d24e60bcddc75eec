import VirtioPoc.Base.History
import VirtioPoc.VhostUser.Activation

/-!
# The daemon

`start` and `start_client` make a connection, and a thread that serves it until a
request fails.  `wait` joins the thread of the last connection, and `serve` does all
of it for one connection.  The threads share one handler behind a mutex, so a panic
in one of them is the end of all requests.

Nothing of the handler is reset between connections.  `daemon_exact` says what
follows: the connections, in any interleaving, leave the handler that one connection
with all the requests would leave, and a frontend that comes after another one is
refused at its first message.
-/

namespace VirtioPoc.VhostUser

open Base

/-- Errors of the socket. -/
inductive SocketError
  | disconnected
  | partialMessage
  | socketBroken
  | other (code : Nat)
  deriving DecidableEq

/-- Errors of `handle_request`: of the socket, or those of the handler. -/
inductive HandleError
  | socket (e : SocketError)
  | request (e : RequestError)
  deriving DecidableEq

/-- `Error`; what is left out of it is the error of `new`. -/
inductive DaemonError
  | createBackendListener
  | createBackendReqHandler
  | createVhostUserListener
  | startDaemon
  | waitDaemon
  | handleRequest (e : HandleError)
  deriving DecidableEq

inductive ThreadState
  | serving
  | ended (e : HandleError)
  | panicked
  deriving DecidableEq

/-- `poisoned` is the mutex around the handler; `mainThread` is a number in `threads`. -/
structure Daemon (δ : Type) where
  handler : VhostUserHandler δ
  poisoned : Bool
  threads : List ThreadState
  mainThread : Option Nat

/-- What comes through a socket: nothing, with an error, or a message; `w` is what becomes of its
reply. -/
inductive Incoming (File W : Type)
  | nothing (e : SocketError)
  | message (msg : Message File) (env : Env) (w : W)

inductive DaemonAction (File W : Type)
  | start (listener : Bool) (accepted : List (Except Unit Bool)) (spawned : Bool)
  | startClient (connected spawned : Bool)
  | request (k : Nat) (incoming : Incoming File W)
  | wait

namespace Daemon

variable {δ File W : Type}

def new (handler : VhostUserHandler δ) : Daemon δ :=
  { handler := handler, poisoned := false, threads := [], mainThread := none }

section

-- `handle_request` of vhost returns `finish msg w r` after the handler has returned `r`
variable (vm : VmMemory File) (dev : VhostUserDevice δ)
  (finish : Message File → W → Except RequestError Reply → Except HandleError Unit)

/-- Every method of the handler unwraps the lock of the mutex. -/
def handleRequest (s : Daemon δ) : Incoming File W → ThreadState × Daemon δ
  | .nothing e => (.ended (.socket e), s)
  | .message msg env w =>
    if s.poisoned then (.panicked, s)
    else
      match s.handler.handle vm dev env msg with
      | none => (.panicked, { s with poisoned := true })
      | some (r, handler) =>
        match finish msg w r with
        | .ok () => (.serving, { s with handler := handler })
        | .error e => (.ended e, { s with handler := handler })

def startDaemon (s : Daemon δ) (spawned : Bool) : Except DaemonError Unit × Daemon δ :=
  if spawned then
    (.ok (), { s with threads := s.threads ++ [.serving], mainThread := some s.threads.length })
  else (.error .startDaemon, s)

def startClient (s : Daemon δ) (connected spawned : Bool) : Except DaemonError Unit × Daemon δ :=
  if connected then s.startDaemon spawned else (.error .createBackendReqHandler, s)

/-- The loop around `accept`, with a `false` for each time without a connection; `none` while it
still waits. -/
def accept : List (Except Unit Bool) → Option (Except DaemonError Unit)
  | [] => none
  | .error () :: _ => some (.error .createBackendListener)
  | .ok true :: _ => some (.ok ())
  | .ok false :: rest => accept rest

def start (s : Daemon δ) (listener : Bool) (accepted : List (Except Unit Bool)) (spawned : Bool) :
    Option (Except DaemonError Unit × Daemon δ) :=
  if listener then
    match accept accepted with
    | none => none
    | some (.error e) => some (.error e, s)
    | some (.ok ()) => some (s.startDaemon spawned)
  else some (.error .createBackendListener, s)

/-- `none` while the thread serves. -/
def wait (s : Daemon δ) : Option (Except DaemonError Unit × Daemon δ) :=
  match s.mainThread with
  | none => some (.ok (), s)
  | some k =>
    match s.threads[k]? with
    | some (.ended (.socket .socketBroken)) => some (.ok (), { s with mainThread := none })
    | some (.ended e) => some (.error (.handleRequest e), { s with mainThread := none })
    | some .panicked => some (.error .waitDaemon, { s with mainThread := none })
    | some .serving | none => none

/-- What `serve` makes of the result of `wait`. -/
def serveResult : Except DaemonError Unit → Except DaemonError Unit
  | .error (.handleRequest (.socket .disconnected)) => .ok ()
  | .error (.handleRequest (.socket .partialMessage)) => .ok ()
  | r => r

def step (s : Daemon δ) : DaemonAction File W → Option (Daemon δ)
  | .start listener accepted spawned => (s.start listener accepted spawned).map Prod.snd
  | .startClient connected spawned => some (s.startClient connected spawned).2
  | .request k incoming =>
    match s.threads[k]? with
    | some .serving =>
      let p := s.handleRequest vm dev finish incoming
      some { p.2 with threads := p.2.threads.set k p.1 }
    | _ => none
  | .wait => s.wait.map Prod.snd

end

/-- The request that an action brings. -/
def requested : DaemonAction File W → Option (Message File × Env)
  | .request _ (.message msg env _) => some (msg, env)
  | _ => none

/-- The requests of all connections, in their order. -/
def messages (as : List (DaemonAction File W)) : List (Message File × Env) := as.filterMap requested

/-- Some frontend has claimed the device, and none has given it back since. -/
def OwnedBy (msgs : List (Message File × Env)) : Prop :=
  Since (fun _ a => a.1 = .setOwner) (fun a => a.1 ≠ .resetOwner) msgs

end Daemon

/-! ### The owner -/

namespace VhostUserHandler

variable {δ File : Type} {vm : VmMemory File} {dev : VhostUserDevice δ} {env : Env}
  {h t : VhostUserHandler δ} {r : Except RequestError Reply}

theorem owned_activateDevice (ht : h.activateDevice dev = some (r, t)) : t.owned = h.owned := by
  unfold activateDevice at ht
  split at ht <;> cases ht <;> rfl

theorem owned_initializeVring {index : Nat} {updateEpolls : Bool}
    (ht : h.initializeVring dev index updateEpolls = some (r, t)) : t.owned = h.owned := by
  unfold initializeVring at ht
  split at ht
  case h_1 => cases ht
  case h_2 =>
    split at ht
    case isFalse => cases ht; rfl
    case isTrue =>
      split at ht
      case h_1 => cases ht
      case h_2 =>
        dsimp only at ht
        split at ht
        case isFalse => cases ht; rfl
        case isTrue =>
          have howned := owned_activateDevice ht
          exact howned

theorem RingChange.owned (hchange : RingChange h t) : t.owned = h.owned := by
  cases hchange <;> rfl

/-- Only the two messages about the owner are about the owner. -/
theorem owned_handle {msg : Message File} (ht : h.handle vm dev env msg = some (r, t)) :
    t.owned = true ↔ msg = .setOwner ∨ msg ≠ .resetOwner ∧ h.owned = true := by
  have hsame (hset : msg ≠ .setOwner) (hreset : msg ≠ .resetOwner) (howned : t.owned = h.owned) :
      t.owned = true ↔ msg = .setOwner ∨ msg ≠ .resetOwner ∧ h.owned = true := by
    rw [howned]
    exact ⟨fun h => .inr ⟨hreset, h⟩, fun h => h.elim (fun h => absurd h hset) And.right⟩
  cases msg with
  | setOwner =>
    unfold handle setOwner at ht
    dsimp only at ht
    split at ht
    case isTrue howned => cases ht; exact iff_of_true howned (.inl rfl)
    case isFalse => cases ht; exact iff_of_true rfl (.inl rfl)
  | resetOwner =>
    cases ht
    exact iff_of_false Bool.false_ne_true fun h => h.elim nofun fun h => h.1 rfl
  | setVringKick index file =>
    refine hsame nofun nofun ?_
    unfold handle setVringKick at ht
    dsimp only at ht
    split at ht
    case h_1 => cases ht; rfl
    case h_2 =>
      split at ht
      case h_1 => cases ht
      case h_2 =>
        have howned := owned_initializeVring ht
        exact howned
  | setVringCall index file =>
    refine hsame nofun nofun ?_
    unfold handle setVringCall at ht
    dsimp only at ht
    split at ht
    case h_1 => cases ht; rfl
    case h_2 =>
      have howned := owned_initializeVring ht
      exact howned
  | resetDevice =>
    refine hsame nofun nofun ?_
    unfold handle resetDevice at ht
    dsimp only at ht
    split at ht
    case h_1 => cases ht
    case h_2 =>
      split at ht
      case h_1 | h_2 => cases ht
      case h_3 => cases ht; rfl
  | setFeatures features =>
    refine hsame nofun nofun ?_
    unfold handle setFeatures at ht
    dsimp only at ht
    split at ht
    case isTrue => cases ht; rfl
    case isFalse =>
      split at ht
      case h_1 => cases ht
      case h_2 => cases ht; rfl
  | memory msg =>
    refine hsame nofun nofun ?_
    unfold handle memory at ht
    dsimp only at ht
    split at ht <;> cases ht <;> rfl
  | setConfig offset buf =>
    refine hsame nofun nofun ?_
    unfold handle setConfig at ht
    dsimp only at ht
    split at ht <;> cases ht <;> rfl
  | setProtocolFeatures | setGpuSocket => cases ht; exact hsame nofun nofun rfl
  | _ => exact hsame nofun nofun (ringChange_of_handle ht trivial).owned

end VhostUserHandler

namespace Daemon

variable {δ File W : Type} {vm : VmMemory File} {dev : VhostUserDevice δ}
  {finish : Message File → W → Except RequestError Reply → Except HandleError Unit}
  {h₀ h : VhostUserHandler δ} {msgs : List (Message File × Env)}

theorem owned_iff (hnew : h₀.owned = false)
    (hrun : run (VhostUserHandler.step vm dev) h₀ msgs = some h) :
    h.owned = true ↔ OwnedBy msgs := by
  refine run_history (I := fun msgs h => h.owned = true ↔ OwnedBy msgs) ?_ ?_ msgs h hrun
  · rw [hnew]
    exact iff_of_false Bool.false_ne_true not_since_nil
  · intro msgs h a h' _ ih hstep
    obtain ⟨p, hp, rfl⟩ := Option.map_eq_some_iff.mp hstep
    rw [OwnedBy, since_concat, VhostUserHandler.owned_handle hp, ih]
    exact Iff.rfl

/-! ### One handler for all connections -/

/-- The handler is what the requests have left, and is lost if one of them has panicked. -/
def Matches : Option (VhostUserHandler δ) → Daemon δ → Prop
  | some h, s => s.poisoned = false ∧ s.handler = h
  | none, s => s.poisoned = true

variable {s t : Daemon δ} {o : Option (VhostUserHandler δ)} {msg : Message File} {env : Env} {w : W}

theorem Matches.congr (hm : Matches o s) (hp : t.poisoned = s.poisoned)
    (hh : t.handler = s.handler) : Matches o t := by
  cases o with
  | none => exact hp.trans hm
  | some h => exact ⟨hp.trans hm.1, hh.trans hm.2⟩

theorem handleRequest_of_poisoned (hp : s.poisoned = true) :
    s.handleRequest vm dev finish (.message msg env w) = (.panicked, s) := by
  rw [Daemon.handleRequest, if_pos hp]

theorem handleRequest_of_some {p : Except RequestError Reply × VhostUserHandler δ}
    (hp : s.poisoned = false) (hhandle : s.handler.handle vm dev env msg = some p) :
    s.handleRequest vm dev finish (.message msg env w) =
      match finish msg w p.1 with
      | .ok () => (.serving, { s with handler := p.2 })
      | .error e => (.ended e, { s with handler := p.2 }) := by
  rw [Daemon.handleRequest, if_neg (by rw [hp]; exact Bool.false_ne_true), hhandle]

theorem handleRequest_of_none (hp : s.poisoned = false)
    (hhandle : s.handler.handle vm dev env msg = none) :
    s.handleRequest vm dev finish (.message msg env w) =
      (.panicked, { s with poisoned := true }) := by
  rw [Daemon.handleRequest, if_neg (by rw [hp]; exact Bool.false_ne_true), hhandle]

theorem Matches.handleRequest (hm : Matches o s) :
    Matches (o.bind fun h => VhostUserHandler.step vm dev h (msg, env))
      (s.handleRequest vm dev finish (.message msg env w)).2 := by
  cases o with
  | none =>
    rw [handleRequest_of_poisoned hm]
    exact hm
  | some h =>
    obtain ⟨hp, rfl⟩ := hm
    rw [Option.bind_some, VhostUserHandler.step]
    cases hhandle : s.handler.handle vm dev env msg with
    | none =>
      rw [handleRequest_of_none hp hhandle]
      exact rfl
    | some p =>
      rw [handleRequest_of_some hp hhandle]
      cases finish msg w p.1 <;> exact ⟨hp, rfl⟩

theorem Matches.startDaemon {spawned : Bool} (hm : Matches o s) :
    Matches o (s.startDaemon spawned).2 := by
  cases spawned with
  | false => exact hm
  | true => exact hm.congr rfl rfl

theorem Matches.start {r : Except DaemonError Unit} {listener spawned : Bool}
    {accepted : List (Except Unit Bool)} (hm : Matches o s)
    (ht : s.start listener accepted spawned = some (r, t)) : Matches o t := by
  unfold Daemon.start at ht
  split at ht
  case isFalse => cases ht; exact hm
  case isTrue =>
    split at ht
    case h_1 => cases ht
    case h_2 => cases ht; exact hm
    case h_3 =>
      have hsame : (s.startDaemon spawned).2 = t := congrArg Prod.snd (Option.some.inj ht)
      rw [← hsame]
      exact hm.startDaemon

theorem Matches.wait {r : Except DaemonError Unit} (hm : Matches o s)
    (ht : s.wait = some (r, t)) : Matches o t := by
  unfold Daemon.wait at ht
  split at ht
  case h_1 => cases ht; exact hm
  case h_2 => split at ht <;> cases ht <;> exact hm.congr rfl rfl

theorem messages_concat_none {as : List (DaemonAction File W)} {a : DaemonAction File W}
    (ha : requested a = none) : messages (as ++ [a]) = messages as := by
  rw [messages, List.filterMap_append, List.filterMap_cons_none ha, List.filterMap_nil,
    List.append_nil, messages]

theorem messages_concat_some {as : List (DaemonAction File W)} {a : DaemonAction File W}
    {m : Message File × Env} (ha : requested a = some m) :
    messages (as ++ [a]) = messages as ++ [m] := by
  rw [messages, List.filterMap_append, List.filterMap_cons_some ha, List.filterMap_nil, messages]

/-- **The step lemma**: the handler goes on with the requests, and with nothing else. -/
theorem Matches.step {as : List (DaemonAction File W)} {a : DaemonAction File W}
    (hm : Matches (run (VhostUserHandler.step vm dev) h₀ (messages as)) s)
    (ht : s.step vm dev finish a = some t) :
    Matches (run (VhostUserHandler.step vm dev) h₀ (messages (as ++ [a]))) t := by
  cases a with
  | start listener accepted spawned =>
    obtain ⟨p, hp, rfl⟩ := Option.map_eq_some_iff.mp ht
    rw [messages_concat_none rfl]
    exact hm.start hp
  | startClient connected spawned =>
    cases ht
    rw [messages_concat_none rfl]
    cases connected with
    | false => exact hm
    | true => exact hm.startDaemon
  | wait =>
    obtain ⟨p, hp, rfl⟩ := Option.map_eq_some_iff.mp ht
    rw [messages_concat_none rfl]
    exact hm.wait hp
  | request k incoming =>
    rw [Daemon.step] at ht
    split at ht
    case h_2 => cases ht
    case h_1 =>
      cases ht
      cases incoming with
      | nothing e =>
        rw [messages_concat_none rfl]
        exact hm.congr rfl rfl
      | message msg env w =>
        rw [messages_concat_some rfl, run_concat]
        exact hm.handleRequest.congr rfl rfl

/-! ### What becomes of a connection -/

/-- A connection panics where a single one with all the requests does. -/
theorem Matches.panicked_iff (hm : Matches o s) :
    (s.handleRequest vm dev finish (.message msg env w)).1 = .panicked ↔
      (o.bind fun h => VhostUserHandler.step vm dev h (msg, env)) = none := by
  cases o with
  | none =>
    rw [handleRequest_of_poisoned hm]
    exact iff_of_true rfl rfl
  | some h =>
    obtain ⟨hp, rfl⟩ := hm
    rw [Option.bind_some, VhostUserHandler.step]
    cases hhandle : s.handler.handle vm dev env msg with
    | none =>
      rw [handleRequest_of_none hp hhandle]
      exact iff_of_true rfl rfl
    | some p =>
      rw [handleRequest_of_some hp hhandle]
      cases finish msg w p.1 <;> exact iff_of_false nofun nofun

/-- A frontend is served where the handler has no owner. -/
theorem Matches.serving_iff (hm : Matches o s)
    (hrefused : ∀ w e, finish .setOwner w (.error e) ≠ .ok ()) :
    (s.handleRequest vm dev finish (.message .setOwner env w)).1 = .serving ↔
      ∃ h, o = some h ∧ h.owned = false ∧ finish .setOwner w (.ok .ok) = .ok () := by
  cases o with
  | none =>
    rw [handleRequest_of_poisoned hm]
    exact iff_of_false nofun nofun
  | some h =>
    obtain ⟨hp, rfl⟩ := hm
    cases howned : s.handler.owned with
    | true =>
      have hhandle : s.handler.handle vm dev env .setOwner =
          some (.error (.invalidOperation "already claimed"), s.handler) := if_pos howned
      rw [handleRequest_of_some hp hhandle]
      cases hfin : finish .setOwner w (.error (.invalidOperation "already claimed")) with
      | ok u => exact absurd hfin (hrefused w _)
      | error e =>
        refine iff_of_false nofun ?_
        rintro ⟨h, ho, hfree, -⟩
        cases ho
        cases howned.symm.trans hfree
    | false =>
      have hhandle : s.handler.handle vm dev env .setOwner =
          some (.ok .ok, { s.handler with owned := true }) := if_neg (Bool.eq_false_iff.mp howned)
      rw [handleRequest_of_some hp hhandle]
      cases hfin : finish .setOwner w (.ok .ok) with
      | ok u => exact iff_of_true rfl ⟨_, rfl, howned, rfl⟩
      | error e =>
        refine iff_of_false nofun ?_
        rintro ⟨h, -, -, hok⟩
        cases hok

theorem threads_handleRequest (incoming : Incoming File W) :
    (s.handleRequest vm dev finish incoming).2.threads = s.threads := by
  cases incoming with
  | nothing e => rfl
  | message msg env w =>
    rw [Daemon.handleRequest]
    split
    case isTrue => rfl
    case isFalse =>
      split
      case h_1 => rfl
      case h_2 => split <;> rfl

theorem step_request {k : Nat} (hserving : s.threads[k]? = some .serving)
    (incoming : Incoming File W) :
    ∃ t, s.step vm dev finish (.request k incoming) = some t ∧
      t.threads[k]? = some (s.handleRequest vm dev finish incoming).1 := by
  obtain ⟨hlt, -⟩ := List.getElem?_eq_some_iff.mp hserving
  refine ⟨_, by rw [Daemon.step, hserving], ?_⟩
  dsimp only
  rw [threads_handleRequest, List.getElem?_set_self hlt]

/-- `serve` takes a frontend that is gone for a success. -/
theorem serveResult_wait {r : Except DaemonError Unit} (hwait : s.wait = some (r, t)) :
    serveResult r = .ok () ↔ ∀ k, s.mainThread = some k →
      ∃ e ∈ [SocketError.disconnected, .partialMessage, .socketBroken],
        s.threads[k]? = some (.ended (.socket e)) := by
  unfold Daemon.wait at hwait
  split at hwait
  case h_1 hmain =>
    cases hwait
    refine iff_of_true rfl fun k hk => ?_
    cases hmain.symm.trans hk
  case h_2 k hmain =>
    have hall (P : Nat → Prop) : (∀ k', s.mainThread = some k' → P k') ↔ P k := by
      rw [hmain]
      refine ⟨fun h => h k rfl, fun h k' hk' => ?_⟩
      cases hk'
      exact h
    rw [hall]
    split at hwait
    case h_1 hk => cases hwait; exact iff_of_true rfl ⟨_, by decide, hk⟩
    case h_2 e hnot hk =>
      cases hwait
      rw [hk]
      cases e with
      | request e =>
        refine iff_of_false (fun h => by cases h) ?_
        rintro ⟨e, -, he⟩
        cases he
      | socket e =>
        cases e with
        | disconnected | partialMessage => exact iff_of_true rfl ⟨_, by decide, rfl⟩
        | socketBroken => exact absurd rfl hnot
        | other code =>
          refine iff_of_false (fun h => by cases h) ?_
          rintro ⟨e, he, hcode⟩
          cases hcode
          simp at he
    case h_3 hk =>
      cases hwait
      rw [hk]
      refine iff_of_false (fun h => by cases h) ?_
      rintro ⟨e, -, he⟩
      cases he
    case h_4 | h_5 => cases hwait

theorem owned_of_new {device : δ} (hnew : VhostUserHandler.new dev device = .ok h₀) :
    h₀.owned = false := by
  unfold VhostUserHandler.new at hnew
  split at hnew <;> cases hnew
  rfl

/-- **All connections are one**: the handler is what one connection with all their requests leaves,
and a panic in one of them is a panic in each from then on.  So the device has one owner for all of
them, and a frontend can claim it only if no other has, or if one has given it back since; that the
connection of the owner has ended does not matter. -/
theorem daemon_exact {device : δ} {as : List (DaemonAction File W)}
    (hrefused : ∀ w e, finish .setOwner w (.error e) ≠ .ok ())
    (hnew : VhostUserHandler.new dev device = .ok h₀)
    (hrun : run (Daemon.step vm dev finish) (.new h₀) as = some s) :
    Matches (run (VhostUserHandler.step vm dev) h₀ (messages as)) s ∧
    ∀ k, s.threads[k]? = some .serving → ∀ msg env w,
      ∃ t, s.step vm dev finish (.request k (.message msg env w)) = some t ∧
        (t.threads[k]? = some .panicked ↔
          run (VhostUserHandler.step vm dev) h₀ (messages as ++ [(msg, env)]) = none) ∧
        (msg = .setOwner → (t.threads[k]? = some .serving ↔
          (run (VhostUserHandler.step vm dev) h₀ (messages as)).isSome = true ∧
          ¬ OwnedBy (messages as) ∧ finish .setOwner w (.ok .ok) = .ok ())) := by
  have hm : Matches (run (VhostUserHandler.step vm dev) h₀ (messages as)) s := by
    refine run_history (I := fun as s =>
      Matches (run (VhostUserHandler.step vm dev) h₀ (messages as)) s) ?_ ?_ as s hrun
    · exact ⟨rfl, rfl⟩
    · exact fun as s a t _ hm ht => hm.step ht
  refine ⟨hm, fun k hserving msg env w => ?_⟩
  obtain ⟨t, ht, hk⟩ := step_request hserving (.message msg env w)
  refine ⟨t, ht, ?_, ?_⟩
  · rw [hk, Option.some_inj, run_concat]
    exact hm.panicked_iff
  · rintro rfl
    rw [hk, Option.some_inj, hm.serving_iff hrefused, Option.isSome_iff_exists]
    constructor
    · rintro ⟨h, ho, hfree, hok⟩
      refine ⟨⟨h, ho⟩, fun howned => ?_, hok⟩
      have howned := (owned_iff (owned_of_new hnew) ho).mpr howned
      cases howned.symm.trans hfree
    · rintro ⟨⟨h, ho⟩, hfree, hok⟩
      refine ⟨h, ho, Bool.eq_false_iff.mpr fun howned => ?_, hok⟩
      exact hfree ((owned_iff (owned_of_new hnew) ho).mp howned)

/-- A refused request ends the connection, but for `get_config`, whose reply is then empty. -/
def replying : Message Bool → Unit → Except RequestError Reply → Except HandleError Unit
  | .getConfig .., _, _ => .ok ()
  | _, _, .ok _ => .ok ()
  | _, _, .error e => .error (.request e)

/-- The frontend claims the device and is gone, and another one connects. -/
def reconnected : List (DaemonAction Bool Unit) :=
  [.start true [.ok false, .ok true] true, .request 0 (.message .setOwner willing ()),
    .request 0 (.nothing .disconnected), .wait, .start true [.ok true] true]

theorem daemon_exact_reconnected :
    ∃ s, run (Daemon.step vmMemory twoRings replying) (.new twoRingsNew) reconnected = some s ∧
      s.threads = [.ended (.socket .disconnected), .serving] ∧
      ∃ t, s.step vmMemory twoRings replying (.request 1 (.message .setOwner willing ())) = some t ∧
        t.threads[1]? ≠ some .panicked ∧ t.threads[1]? ≠ some .serving := by
  refine ⟨_, rfl, rfl, ?_⟩
  have hrefused (w : Unit) (e : RequestError) : replying .setOwner w (.error e) ≠ .ok () := nofun
  have hnew : VhostUserHandler.new twoRings 0 = .ok twoRingsNew := rfl
  obtain ⟨-, hclaim⟩ := daemon_exact hrefused hnew
    (show run (Daemon.step vmMemory twoRings replying) (.new twoRingsNew) reconnected = some _ from rfl)
  obtain ⟨t, ht, hpanicked, hserving⟩ := hclaim 1 rfl .setOwner willing ()
  refine ⟨t, ht, fun h => ?_, fun h => ?_⟩
  · cases hpanicked.mp h
  · have howned : OwnedBy (messages reconnected) := ⟨[], (.setOwner, willing), [], rfl, rfl, nofun⟩
    exact ((hserving rfl).mp h).2.1 howned

end Daemon

end VirtioPoc.VhostUser
