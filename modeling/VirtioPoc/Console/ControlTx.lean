import VirtioPoc.Console.Control

/-!
# The control transmit queue

`MainWorker::process_tx`.  The guest sends one control message in each chain.
The worker takes the chains one after the other: it adds a used element, and
then queues the messages that answer the control message.  A turn of its loop
may panic, and then the thread of the worker ends.

The head index of the used element is the constant `0`, whichever chain was
popped, and a chain that is too short for a message gets none.  So the chains
are returned properly just where these make no difference (`processTxChain_used_iff`),
and `tx_chains_returned_iff` says it for everything that the worker pops.

The id of a message is an index into the ports of the worker, and only some of the
events look at it: a `PORT_READY` for a port that does not exist is what the thread
does not survive.

The `unwrap`s on the notifications of the queue are taken to succeed.
-/

namespace VirtioPoc.Console

open Base

/-- A chain of the control transmit queue: the bytes of its readable descriptors, `none` when the
`Reader` cannot be created; and how `add_used` answers while the chain is processed. -/
structure TxChain where
  headIndex : UInt16
  reader : Option (List UInt8)
  addUsedSucceeds : (headIndex : UInt16) → (len : UInt32) → Bool

/-- One turn of the loop: the used elements it adds, then the messages it queues; or it panics
after that. -/
structure TxTurn where
  used : List (UInt16 × UInt32)
  pushed : List Payload
  panicked : Bool
  deriving DecidableEq

/-- A kick of the queue, with what it finds. -/
structure TxKick where
  readKick : Bool
  tryLockQueue : Bool
  avail : List TxChain

/-- The chains that the call may pop. -/
def TxKick.chains (kick : TxKick) : List TxChain :=
  if kick.readKick && kick.tryLockQueue then kick.avail else []

namespace MainWorker

variable (ports : List Port)

/-- The `match` on the event; `none` is the index out of bounds. -/
def handleControlEvent (cmd : VirtioConsoleControl) : Option (List Payload) :=
  if cmd.event = virtioConsoleDeviceReady then
    some ((List.range ports.length).map fun portId => ConsoleControl.portAdd (.ofNat portId))
  else if cmd.event = virtioConsolePortReady then
    if cmd.value ≠ 1 then some []
    else
      match ports[cmd.id.toNat]? with
      | none => none
      | some port =>
        let ready :=
          if port.isConsole then
            [ConsoleControl.markConsolePort cmd.id, ConsoleControl.portOpen cmd.id true,
              ConsoleControl.consoleResize cmd.id { cols := getWinSize.1, rows := getWinSize.2 }]
          else [ConsoleControl.portOpen cmd.id true]
        some (ready ++ if port.name = [] then [] else [ConsoleControl.portName cmd.id port.name])
  else some []

def processTxChain (chain : TxChain) : TxTurn :=
  match chain.reader with
  | none => { used := [], pushed := [], panicked := true }
  | some reader =>
    let headIndex : UInt16 := 0
    match VirtioConsoleControl.layout.read reader with
    | none => { used := [], pushed := [], panicked := false }
    | some (cmd, _) =>
      let len := UInt32.ofNat VirtioConsoleControl.layout.size
      let used := if chain.addUsedSucceeds headIndex len then [(headIndex, len)] else []
      match handleControlEvent ports cmd with
      | none => { used := used, pushed := [], panicked := true }
      | some pushed => { used := used, pushed := pushed, panicked := false }

/-- The loop, which ends with the turn that panics. -/
def processTxChains : List TxChain → List (TxChain × TxTurn)
  | [] => []
  | chain :: chains =>
    let turn := processTxChain ports chain
    (chain, turn) :: if turn.panicked then [] else processTxChains chains

/-- The turns of one call, and whether the queue is signalled at its end. -/
def processTx (kick : TxKick) : List (TxChain × TxTurn) × Bool :=
  if kick.readKick = false then ([], false)
  else if kick.tryLockQueue = false then ([], false)
  else
    let turns := processTxChains ports kick.avail
    (turns, ! turns.isEmpty && turns.all fun p => ! p.2.panicked)

/-- The turns of one call after the other, as long as the thread lives. -/
def processTxCalls : List TxKick → List (TxChain × TxTurn)
  | [] => []
  | kick :: kicks =>
    let turns := (processTx ports kick).1
    turns ++ if turns.any fun p => p.2.panicked then [] else processTxCalls kicks

end MainWorker

/-! ### One chain -/

namespace TxChain

/-- The message of the chain. -/
def message (chain : TxChain) : Option VirtioConsoleControl :=
  (chain.reader.bind VirtioConsoleControl.layout.read).map Prod.fst

/-- The message says that a port is ready which does not exist. -/
def NamesMissingPort (ports : List Port) (chain : TxChain) : Prop :=
  ∃ cmd, chain.message = some cmd ∧ cmd.event = virtioConsolePortReady ∧ cmd.value = 1 ∧
    ports.length ≤ cmd.id.toNat

/-- The message is for a port that does not exist.  `DEVICE_READY` is for the device, and its `id` is
not looked at. -/
def IsForMissingPort (ports : List Port) (chain : TxChain) : Prop :=
  ∃ cmd, chain.message = some cmd ∧ cmd.event ≠ virtioConsoleDeviceReady ∧
    ports.length ≤ cmd.id.toNat

/-- The chains that the worker does not survive. -/
def Crashes (ports : List Port) (chain : TxChain) : Prop :=
  chain.reader = none ∨ chain.NamesMissingPort ports

/-- The worker comes to the chain: it survives those before it. -/
def IsPopped (ports : List Port) (chains : List TxChain) (chain : TxChain) : Prop :=
  ∃ pre post, chains = pre ++ chain :: post ∧ ∀ c ∈ pre, ¬ c.Crashes ports

/-- It is the chain at index `0`, it holds a message, and there is room for it in the used ring. -/
structure IsReturned (chain : TxChain) : Prop where
  headIndex : chain.headIndex = 0
  message : chain.message.isSome
  addUsed : chain.addUsedSucceeds 0 8 = true

end TxChain

namespace MainWorker

open TxChain

theorem handleControlEvent_eq_none {ports : List Port} {cmd : VirtioConsoleControl} :
    handleControlEvent ports cmd = none ↔
      cmd.event = virtioConsolePortReady ∧ cmd.value = 1 ∧ ports.length ≤ cmd.id.toNat := by
  unfold handleControlEvent
  split
  case isTrue hready =>
    rw [hready]
    simp [virtioConsoleDeviceReady, virtioConsolePortReady]
  case isFalse =>
    split
    case isFalse hevent => simp [hevent]
    case isTrue hevent =>
      split
      case isTrue hvalue => simp [hvalue]
      case isFalse hvalue =>
        have hone : cmd.value = 1 := not_not.mp hvalue
        cases hport : ports[cmd.id.toNat]? with
        | none => simpa [hevent, hone] using List.getElem?_eq_none_iff.mp hport
        | some port =>
          have := (List.getElem?_eq_some_iff.mp hport).1
          simp [hevent, hone, this]

/-- A turn without a message. -/
theorem processTxChain_of_none (ports : List Port) {chain : TxChain} (h : chain.message = none) :
    processTxChain ports chain =
      { used := [], pushed := [], panicked := chain.reader.isNone } := by
  unfold TxChain.message at h
  unfold processTxChain
  cases hreader : chain.reader with
  | none => rfl
  | some reader =>
    rw [hreader] at h
    have hread : VirtioConsoleControl.layout.read reader = none := Option.map_eq_none_iff.mp h
    simp only [hread, Option.isNone_some]

/-- A turn with a message: the used element comes first, whatever becomes of the message. -/
theorem processTxChain_of_some (ports : List Port) {chain : TxChain} {cmd : VirtioConsoleControl}
    (h : chain.message = some cmd) :
    processTxChain ports chain =
      { used := if chain.addUsedSucceeds 0 8 = true then [(0, 8)] else []
        pushed := (handleControlEvent ports cmd).getD []
        panicked := (handleControlEvent ports cmd).isNone } := by
  obtain ⟨⟨cmd', rest⟩, hbind, rfl⟩ := Option.map_eq_some_iff.mp h
  obtain ⟨reader, hreader, hread⟩ := Option.bind_eq_some_iff.mp hbind
  have hlen : UInt32.ofNat VirtioConsoleControl.layout.size = 8 := rfl
  simp only [processTxChain, hreader, hread, hlen]
  cases handleControlEvent ports cmd' with
  | none => rfl
  | some pushed => rfl

/-- **A turn panics just for the chains that crash the worker.** -/
theorem processTxChain_panicked {ports : List Port} {chain : TxChain} :
    (processTxChain ports chain).panicked = true ↔ chain.Crashes ports := by
  unfold TxChain.Crashes TxChain.NamesMissingPort
  cases hmessage : chain.message with
  | none => simp [processTxChain_of_none ports hmessage]
  | some cmd =>
    have hreader : chain.reader ≠ none := by
      intro hnone
      rw [TxChain.message, hnone] at hmessage
      cases hmessage
    simp [processTxChain_of_some ports hmessage, hreader, handleControlEvent_eq_none]

/-- **What is added to the used ring**: `(0, 8)`, if there is a message. -/
theorem processTxChain_used (ports : List Port) (chain : TxChain) :
    (processTxChain ports chain).used =
      if chain.message.isSome ∧ chain.addUsedSucceeds 0 8 = true then [(0, 8)] else [] := by
  cases hmessage : chain.message with
  | none => simp [processTxChain_of_none ports hmessage]
  | some cmd => simp [processTxChain_of_some ports hmessage]

theorem processTxChain_used_iff {ports : List Port} {chain : TxChain} :
    (processTxChain ports chain).used.map Prod.fst = [chain.headIndex] ↔ chain.IsReturned := by
  rw [processTxChain_used]
  constructor
  · intro h
    split at h
    case isFalse => cases h
    case isTrue hused =>
      obtain ⟨hmessage, hadd⟩ := hused
      exact ⟨(List.cons.inj h).1.symm, hmessage, hadd⟩
  · rintro ⟨hhead, hmessage, hadd⟩
    rw [if_pos ⟨hmessage, hadd⟩, hhead]
    rfl

/-! ### A whole run -/

theorem processTxChains_append (ports : List Port) (post : List TxChain) : ∀ pre : List TxChain,
    processTxChains ports (pre ++ post) = processTxChains ports pre ++
      if (processTxChains ports pre).any fun p => p.2.panicked then []
      else processTxChains ports post := by
  intro pre
  induction pre with
  | nil => rfl
  | cons chain pre ih =>
    rw [List.cons_append, processTxChains, processTxChains, List.any_cons]
    cases hpanic : (processTxChain ports chain).panicked with
    | true => simp
    | false =>
      rw [if_neg Bool.false_ne_true, if_neg Bool.false_ne_true, ih, List.cons_append,
        Bool.false_or]

theorem processTx_turns (ports : List Port) (kick : TxKick) :
    (processTx ports kick).1 = processTxChains ports kick.chains := by
  unfold processTx TxKick.chains
  cases kick.readKick with
  | false => rfl
  | true => cases kick.tryLockQueue <;> rfl

/-- The calls are one loop over the chains they find. -/
theorem processTxCalls_eq (ports : List Port) : ∀ kicks : List TxKick,
    processTxCalls ports kicks = processTxChains ports (kicks.flatMap TxKick.chains) := by
  intro kicks
  induction kicks with
  | nil => rfl
  | cons kick kicks ih =>
    rw [processTxCalls, List.flatMap_cons, processTxChains_append, processTx_turns, ih]

theorem mem_processTxChains {ports : List Port} {p : TxChain × TxTurn} :
    ∀ {chains : List TxChain}, p ∈ processTxChains ports chains ↔
      IsPopped ports chains p.1 ∧ p.2 = processTxChain ports p.1 := by
  intro chains
  induction chains with
  | nil =>
    constructor
    · exact nofun
    · rintro ⟨⟨pre, post, h, _⟩, _⟩
      exact absurd h.symm (List.append_ne_nil_of_right_ne_nil _ (List.cons_ne_nil _ _))
  | cons chain chains ih =>
    rw [processTxChains]
    constructor
    · intro hp
      rcases List.mem_cons.mp hp with rfl | hp
      · exact ⟨⟨[], chains, rfl, nofun⟩, rfl⟩
      · split at hp
        case isTrue => cases hp
        case isFalse hpanic =>
          obtain ⟨⟨pre, post, rfl, hpre⟩, hturn⟩ := ih.mp hp
          refine ⟨⟨chain :: pre, post, rfl, ?_⟩, hturn⟩
          intro c hc
          rcases List.mem_cons.mp hc with rfl | hc
          · exact mt processTxChain_panicked.mpr hpanic
          · exact hpre c hc
    · rintro ⟨⟨pre, post, h, hpre⟩, hturn⟩
      cases pre with
      | nil =>
        obtain ⟨rfl, rfl⟩ := List.cons.inj h
        exact List.mem_cons.mpr (.inl (Prod.ext rfl hturn))
      | cons c pre =>
        obtain ⟨rfl, rfl⟩ := List.cons.inj h
        have hpanic := mt processTxChain_panicked.mp (hpre chain List.mem_cons_self)
        rw [if_neg hpanic]
        apply List.mem_cons_of_mem
        exact ih.mpr ⟨⟨pre, post, rfl, fun c hc => hpre c (List.mem_cons_of_mem _ hc)⟩, hturn⟩

/-- **The chains are returned under their own index** just when each of those that do not crash the
worker is the chain at index `0`, holds a message and can be added. -/
theorem tx_chains_returned_iff (ports : List Port) (kicks : List TxKick) :
    (∀ p ∈ processTxCalls ports kicks, p.2.panicked = false →
        p.2.used.map Prod.fst = [p.1.headIndex]) ↔
      ∀ chain, IsPopped ports (kicks.flatMap TxKick.chains) chain → ¬ chain.Crashes ports →
        chain.IsReturned := by
  rw [processTxCalls_eq]
  constructor
  · intro h chain hpopped hcrash
    have hmem := mem_processTxChains.mpr
      (show IsPopped ports _ (chain, processTxChain ports chain).1 ∧ _ from ⟨hpopped, rfl⟩)
    have hpanic := mt processTxChain_panicked.mp hcrash
    exact processTxChain_used_iff.mp (h _ hmem (Bool.eq_false_iff.mpr hpanic))
  · intro h p hp hpanic
    obtain ⟨hpopped, hturn⟩ := mem_processTxChains.mp hp
    rw [hturn] at hpanic ⊢
    have hcrash := mt processTxChain_panicked.mpr (Bool.eq_false_iff.mp hpanic)
    exact processTxChain_used_iff.mpr (h p.1 hpopped hcrash)

/-- The chain at index `3` is returned as the one at `0`, and the one that is too short not at
all. -/
theorem control_chain_not_returned :
    let ports : List Port := [⟨true, []⟩]
    let ready : TxChain := ⟨3, some [0, 0, 0, 0, 0, 0, 1, 0], fun _ _ => true⟩
    let short : TxChain := ⟨5, some [0, 0, 0, 0], fun _ _ => true⟩
    let turns := processTxCalls ports [⟨true, true, [ready, short]⟩]
    turns.map (fun p => p.2.used) = [[(0, 8)], []] ∧
      ¬ ∀ p ∈ turns, p.2.panicked = false → p.2.used.map Prod.fst = [p.1.headIndex] := by
  decide

/-! ### Ports that do not exist -/

/-- A port that does not exist is not answered, whether the worker survives that or not. -/
theorem processTxChain_pushed_of_missing {ports : List Port} {chain : TxChain}
    (h : chain.IsForMissingPort ports) : (processTxChain ports chain).pushed = [] := by
  obtain ⟨cmd, hmessage, hready, hid⟩ := h
  have hport : ports[cmd.id.toNat]? = none := List.getElem?_eq_none_iff.mpr hid
  rw [processTxChain_of_some ports hmessage]
  unfold handleControlEvent
  rw [if_neg hready, hport]
  by_cases hevent : cmd.event = virtioConsolePortReady
  · by_cases hvalue : cmd.value = 1
    · simp [hevent, hvalue]
    · simp [hevent, hvalue]
  · simp [hevent]

/-- **The thread lives** just when no chain that it finds crashes it. -/
theorem processTxChains_not_panicked {ports : List Port} : ∀ {chains : List TxChain},
    (∀ p ∈ processTxChains ports chains, p.2.panicked = false) ↔
      ∀ chain ∈ chains, ¬ chain.Crashes ports := by
  intro chains
  induction chains with
  | nil => exact iff_of_true nofun nofun
  | cons chain chains ih =>
    rw [processTxChains, List.forall_mem_cons, List.forall_mem_cons, ← processTxChain_panicked,
      Bool.not_eq_true]
    refine and_congr_right fun hlives => ?_
    have hlives : (processTxChain ports chain).panicked = false := hlives
    rw [hlives, if_neg Bool.false_ne_true]
    exact ih

/-- **What the guest may send**: the worker survives all messages, and leaves the control queue alone
for those that are for a missing port, just when every chain can be read and none of them says of a
missing port that it is ready. -/
theorem control_messages_survived_iff (ports : List Port) (kicks : List TxKick) :
    ((∀ p ∈ processTxCalls ports kicks, p.2.panicked = false) ∧
        ∀ p ∈ processTxCalls ports kicks, p.1.IsForMissingPort ports → p.2.pushed = []) ↔
      ∀ chain ∈ kicks.flatMap TxKick.chains, ¬ chain.Crashes ports := by
  rw [processTxCalls_eq, processTxChains_not_panicked]
  refine and_iff_left fun p hp hmissing => ?_
  obtain ⟨-, hturn⟩ := mem_processTxChains.mp hp
  rw [hturn]
  exact processTxChain_pushed_of_missing hmissing

/-- The console has one port, and the guest says that port `1` is ready. -/
theorem missing_port_crashes :
    let ports : List Port := [⟨true, []⟩]
    let ready : TxChain := ⟨0, some [1, 0, 0, 0, 3, 0, 1, 0], fun _ _ => true⟩
    let turns := processTxCalls ports [⟨true, true, [ready]⟩]
    turns.map Prod.snd = [⟨[(0, 8)], [], true⟩] ∧ ¬ ∀ p ∈ turns, p.2.panicked = false := by
  decide

end MainWorker

end VirtioPoc.Console
