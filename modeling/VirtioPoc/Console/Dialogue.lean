import VirtioPoc.Base.History
import VirtioPoc.Console.ControlTx
import VirtioPoc.Console.ControlRx

/-!
# The dialogue on the control queues

The main worker reads the guest's commands in `process_tx`, pushes an answer to
some of them, and hands over in `process_rx` what has been pushed.  It does one at a
time; but the input workers of the ports push as well, when they announce the end of
an input, also between two answers to one command.

`control_dialogue` is what the guest hears, and `Dialogue.believedOpen_iff` what it
then believes about a port: who comes last decides, for an input worker says that
the port is closed, and the answer to `PORT_READY` always says that it is open.
-/

namespace VirtioPoc.Console

open Base

/-- `answering` are the answers to the last command that are still to be pushed. -/
structure Dialogue where
  rx : ControlRx.State
  answering : List Payload
  deriving DecidableEq

inductive DialogueAction
  | command (chain : TxChain)
  | answer (payload : Payload)
  | announceEnd (portId : UInt32)
  | receive (a : ControlRx.Action)

namespace Dialogue

def new : Dialogue := { rx := .new, answering := [] }

def push (s : Dialogue) (payload : Payload) : Dialogue :=
  { s with rx := { s.rx with
    queue := s.rx.queue ++ [payload], pushed := s.rx.pushed ++ [payload] } }

/-- `none` also where the worker panics. -/
def step (ports : List Port) (s : Dialogue) : DialogueAction → Option Dialogue
  | .command chain =>
    if s.rx.pc = .idle ∧ s.answering = [] then
      let turn := MainWorker.processTxChain ports chain
      if turn.panicked then none else some { s with answering := turn.pushed }
    else none
  | .answer payload =>
    match s.answering with
    | [] => none
    | p :: rest => if p = payload then some { s.push payload with answering := rest } else none
  | .announceEnd portId => some (s.push (ConsoleControl.portOpen portId false))
  | .receive a =>
    match a with
    | .push _ => none
    | .publish chain => (ControlRx.step s.rx (.publish chain)).map ({ s with rx := · })
    | a =>
      -- the thread is not in `process_tx`
      if s.answering = [] then (ControlRx.step s.rx a).map ({ s with rx := · }) else none

/-- A message that is handed over fits into its chain. -/
def Fits (s : Dialogue) : DialogueAction → Prop
  | .receive a => ControlRx.Fits s.rx a
  | _ => True

instance (s : Dialogue) : (a : DialogueAction) → Decidable (s.Fits a)
  | .receive a => inferInstanceAs (Decidable (ControlRx.Fits s.rx a))
  | .command _ | .answer _ | .announceEnd _ => .isTrue trivial

end Dialogue

namespace DialogueAction

/-- What is pushed. -/
def said : DialogueAction → Option Payload
  | .answer payload => some payload
  | .announceEnd portId => some (ConsoleControl.portOpen portId false)
  | _ => none

def answered : DialogueAction → Option Payload
  | .answer payload => some payload
  | _ => none

def asked : DialogueAction → Option TxChain
  | .command chain => some chain
  | _ => none

end DialogueAction

/-- The bytes of the messages that the guest has got. -/
def heard (ops : List ControlRx.Op) : List (List UInt8) :=
  ops.filterMap fun op => match op with
    | .write data => some data
    | _ => none

theorem heard_append (xs ys : List ControlRx.Op) : heard (xs ++ ys) = heard xs ++ heard ys :=
  List.filterMap_append

theorem heard_of_delivered {ops : List ControlRx.Op} {done : List (ControlRx.Chain × List UInt8)}
    (h : ControlRx.Delivered ops done) : heard ops = done.map Prod.snd := by
  induction h with
  | nil => rfl
  | signal _ ih => rw [heard_append, ih]; exact List.append_nil _
  | used _ chain data len _ ih =>
    rw [heard_append, ih, List.map_append]
    rfl
  | putBack _ chain ih => rw [heard_append, ih]; exact List.append_nil _

theorem heard_pops (chains : List ControlRx.Chain) : heard (chains.map .pop) = [] := by
  induction chains with
  | nil => rfl
  | cons chain chains ih => exact ih

/-! ### What the guest hears -/

namespace Dialogue

variable {ports : List Port} {s t : Dialogue} {as : List DialogueAction} {a : DialogueAction}

/-- What the actions have said and asked so far, up to what is still under way. -/
structure Told (ports : List Port) (as : List DialogueAction) (s : Dialogue) : Prop where
  pushed : s.rx.pushed = as.filterMap DialogueAction.said
  answers : as.filterMap DialogueAction.answered ++ s.answering =
    (as.filterMap DialogueAction.asked).flatMap fun chain => (MainWorker.processTxChain ports chain).pushed
  accounted : s.rx.pc ≠ .panicked → ∃ done, ControlRx.Accounted s.rx done

theorem told_new (ports : List Port) : Told ports [] .new :=
  ⟨rfl, rfl, fun _ => ⟨[], ControlRx.accounted_new⟩⟩

/-- The worker and the guest do what they do in `process_rx`. -/
theorem receive_cases {a : ControlRx.Action} (hstep : step ports s (.receive a) = some t) :
    (∀ payload, a ≠ .push payload) ∧ ControlRx.step s.rx a = some t.rx ∧ t.answering = s.answering := by
  unfold step at hstep
  dsimp only at hstep
  split at hstep
  case h_1 => cases hstep
  case h_2 chain =>
    cases hstep
    exact ⟨nofun, rfl, rfl⟩
  case h_3 hpush _ =>
    obtain ⟨-, ht⟩ := Option.ite_none_right_eq_some.mp hstep
    obtain ⟨rx, hrx, rfl⟩ := Option.map_eq_some_iff.mp ht
    exact ⟨hpush, hrx, rfl⟩

theorem pushed_receive {s t : ControlRx.State} {a : ControlRx.Action}
    (ha : ∀ payload, a ≠ .push payload) (hstep : ControlRx.step s a = some t) :
    t.pushed = s.pushed := by
  cases a with
  | push payload => exact absurd rfl (ha payload)
  | publish chain => cases hstep; rfl
  | processRx readKick tryLockQueue =>
    obtain ⟨-, pc, -, rfl⟩ := ControlRx.processRx_cases hstep
    rfl
  | popDescriptorChain =>
    obtain ⟨raiseIrq, -, rfl | ⟨chain, avail, -, rfl⟩⟩ := ControlRx.popDescriptorChain_cases hstep
    · exact ControlRx.pushed_finish s raiseIrq
    · rfl
  | queuePop =>
    obtain ⟨chain, raiseIrq, -, ⟨-, rfl⟩ | ⟨buf, queue, -, rfl⟩⟩ := ControlRx.queuePop_cases hstep
    · exact ControlRx.pushed_finish _ raiseIrq
    · rfl
  | write writeSucceeds addUsedSucceeds =>
    obtain ⟨chain, buf, raiseIrq, -, rfl⟩ := ControlRx.write_cases hstep
    exact ControlRx.pushed_write s chain buf raiseIrq writeSucceeds addUsedSucceeds

/-- A message is pushed, by whichever thread. -/
theorem accounted_push (h : s.rx.pc ≠ .panicked → ∃ done, ControlRx.Accounted s.rx done)
    (payload : Payload) (hlives : (s.push payload).rx.pc ≠ .panicked) :
    ∃ done, ControlRx.Accounted (s.push payload).rx done := by
  obtain ⟨done, hdone⟩ := h hlives
  have hstep : ControlRx.step s.rx (.push payload) = some (s.push payload).rx := rfl
  exact hdone.step (a := .push payload) trivial hstep hlives

/-- **Step lemma.** -/
theorem Told.concat (h : Told ports as s) (hfits : Fits s a) (hstep : step ports s a = some t) :
    Told ports (as ++ [a]) t := by
  have hpushed := h.pushed
  have hanswers := h.answers
  cases a with
  | command chain =>
    obtain ⟨⟨-, hnil⟩, ht⟩ := Option.ite_none_right_eq_some.mp hstep
    obtain ⟨-, ht⟩ := Option.ite_none_left_eq_some.mp ht
    cases ht
    rw [hnil, List.append_nil] at hanswers
    refine ⟨?_, ?_, h.accounted⟩
    · rw [List.filterMap_append, ← hpushed]
      exact (List.append_nil _).symm
    · rw [List.filterMap_append, List.filterMap_append, List.flatMap_append, ← hanswers]
      simp [DialogueAction.answered, DialogueAction.asked]
  | answer payload =>
    unfold step at hstep
    dsimp only at hstep
    split at hstep
    case h_1 => cases hstep
    case h_2 p rest hanswering =>
      obtain ⟨rfl, ht⟩ := Option.ite_none_right_eq_some.mp hstep
      cases ht
      rw [hanswering] at hanswers
      refine ⟨?_, ?_, accounted_push h.accounted p⟩
      · rw [List.filterMap_append, ← hpushed]
        rfl
      · rw [List.filterMap_append, List.filterMap_append, List.flatMap_append, ← hanswers]
        simp [DialogueAction.answered, DialogueAction.asked]
  | announceEnd portId =>
    cases hstep
    refine ⟨?_, ?_, accounted_push h.accounted _⟩
    · rw [List.filterMap_append, ← hpushed]
      rfl
    · rw [List.filterMap_append, List.filterMap_append, List.flatMap_append, ← hanswers]
      have hanswered : [DialogueAction.announceEnd portId].filterMap DialogueAction.answered = [] := rfl
      have hasked : [DialogueAction.announceEnd portId].filterMap DialogueAction.asked = [] := rfl
      rw [hanswered, hasked, List.append_nil, List.flatMap_nil, List.append_nil]
      rfl
  | receive a =>
    obtain ⟨ha, hrx, hanswering⟩ := receive_cases hstep
    refine ⟨?_, ?_, ?_⟩
    · rw [List.filterMap_append, pushed_receive ha hrx, hpushed]
      exact (List.append_nil _).symm
    · rw [List.filterMap_append, List.filterMap_append, List.flatMap_append, ← hanswers, hanswering]
      have hanswered : [DialogueAction.receive a].filterMap DialogueAction.answered = [] := rfl
      have hasked : [DialogueAction.receive a].filterMap DialogueAction.asked = [] := rfl
      rw [hanswered, hasked, List.append_nil, List.flatMap_nil, List.append_nil]
    · intro hlives
      obtain ⟨done, hdone⟩ := h.accounted fun hs => hlives (ControlRx.step_panicked hs hrx)
      exact hdone.step hfits hrx hlives

/-- **Run lemma.** -/
theorem told_of_run (hrun : run (step ports) new as = some s) (hfits : Along (step ports) Fits new as) :
    Told ports as s := by
  refine run_history (I := fun as s => Along (step ports) Fits new as → Told ports as s)
    (fun _ => told_new ports) ?_ as s hrun hfits
  intro as s a t hs htold hstep halong
  obtain ⟨has, ha⟩ := along_concat.mp halong
  exact (htold has).concat (ha s hs) hstep

end Dialogue

/-- **What the guest hears**, in any run in which what is handed over fits: what the worker and the
ports have said, in the order in which they did, up to what still waits; and the worker has answered
the commands one after the other, up to what it still has to say to the last one. -/
theorem control_dialogue {ports : List Port} {as : List DialogueAction} {s : Dialogue}
    (hrun : run (Dialogue.step ports) .new as = some s)
    (hfits : Along (Dialogue.step ports) Dialogue.Fits .new as) (hlives : s.rx.pc ≠ .panicked) :
    heard s.rx.ops ++ (s.rx.pc.messages ++ s.rx.queue).map Payload.deref =
        (as.filterMap DialogueAction.said).map Payload.deref ∧
      as.filterMap DialogueAction.answered ++ s.answering =
        (as.filterMap DialogueAction.asked).flatMap fun chain =>
          (MainWorker.processTxChain ports chain).pushed := by
  have htold := Dialogue.told_of_run hrun hfits
  obtain ⟨done, ⟨ops, hops, hs⟩, hpushed, -⟩ := htold.accounted hlives
  refine ⟨?_, htold.answers⟩
  rw [← htold.pushed, hpushed, hs, heard_append, heard_of_delivered hops]
  have hpops : heard (s.rx.pc.chains.map .pop) = [] := heard_pops _
  rw [hpops, List.append_nil]

/-! ### What the guest believes -/

/-- What a message says about the port: that it is open, or that it is closed. -/
def portOpenOf (portId : UInt32) (data : List UInt8) : Option Bool :=
  match VirtioConsoleControl.layout.read data with
  | none => none
  | some (msg, _) =>
    if msg.event = virtioConsolePortOpen ∧ msg.id = portId then some (decide (msg.value = 1)) else none

/-- The last message about the port counts. -/
def believedOpen (portId : UInt32) (messages : List (List UInt8)) : Option Bool :=
  (messages.filterMap (portOpenOf portId)).getLast?

theorem believedOpen_concat (portId : UInt32) (messages : List (List UInt8)) (data : List UInt8) :
    believedOpen portId (messages ++ [data]) =
      (portOpenOf portId data).or (believedOpen portId messages) := by
  unfold believedOpen
  rw [List.filterMap_append]
  cases h : portOpenOf portId data with
  | none => simp [h]
  | some b => simp [h]

theorem portOpenOf_header (portId : UInt32) (msg : VirtioConsoleControl) (rest : List UInt8) :
    portOpenOf portId (VirtioConsoleControl.layout.toBytes msg ++ rest) =
      if msg.event = virtioConsolePortOpen ∧ msg.id = portId then some (decide (msg.value = 1))
      else none := by
  unfold portOpenOf
  rw [VirtioConsoleControl.layout.read_append]

theorem portOpenOf_consoleControl (portId : UInt32) (msg : VirtioConsoleControl) :
    portOpenOf portId (Payload.deref (.consoleControl msg)) =
      if msg.event = virtioConsolePortOpen ∧ msg.id = portId then some (decide (msg.value = 1))
      else none := by
  rw [Payload.deref, ← portOpenOf_header portId msg [], List.append_nil]

theorem portOpenOf_portOpen (portId id : UInt32) (isOpen : Bool) :
    portOpenOf portId (ConsoleControl.portOpen id isOpen).deref =
      if id = portId then some isOpen else none := by
  rw [ConsoleControl.portOpen, portOpenOf_consoleControl]
  cases isOpen <;> simp

/-- The kinds of answers. -/
theorem answer_cases {ports : List Port} {chain : TxChain} {payload : Payload}
    (h : payload ∈ (MainWorker.processTxChain ports chain).pushed) :
    (∃ id, payload = ConsoleControl.portAdd id) ∨ (∃ id, payload = ConsoleControl.markConsolePort id) ∨
      (∃ id, payload = ConsoleControl.portOpen id true) ∨
      (∃ id size, payload = ConsoleControl.consoleResize id size) ∨
      ∃ id name, payload = ConsoleControl.portName id name := by
  cases hmessage : chain.message with
  | none =>
    rw [MainWorker.processTxChain_of_none ports hmessage] at h
    cases h
  | some cmd =>
    rw [MainWorker.processTxChain_of_some ports hmessage] at h
    dsimp only at h
    unfold MainWorker.handleControlEvent at h
    split at h
    case isTrue =>
      obtain ⟨id, -, rfl⟩ := List.mem_map.mp h
      exact .inl ⟨_, rfl⟩
    case isFalse =>
      split at h
      case isFalse => cases h
      case isTrue =>
        split at h
        case isTrue => cases h
        case isFalse =>
          split at h
          case h_1 => cases h
          case h_2 port _ =>
            rcases List.mem_append.mp h with hready | hname
            · cases hconsole : port.isConsole with
              | true =>
                rw [hconsole] at hready
                simp only [if_true, List.mem_cons, List.not_mem_nil, or_false] at hready
                rcases hready with rfl | rfl | rfl
                · exact .inr (.inl ⟨_, rfl⟩)
                · exact .inr (.inr (.inl ⟨_, rfl⟩))
                · exact .inr (.inr (.inr (.inl ⟨_, _, rfl⟩)))
              | false =>
                rw [hconsole] at hready
                obtain rfl := List.mem_singleton.mp hready
                exact .inr (.inr (.inl ⟨_, rfl⟩))
            · split at hname
              case isTrue => cases hname
              case isFalse =>
                obtain rfl := List.mem_singleton.mp hname
                exact .inr (.inr (.inr (.inr ⟨_, _, rfl⟩)))

/-- Of the answers only one is about whether a port is open. -/
theorem portOpenOf_answer {ports : List Port} {chain : TxChain} {payload : Payload}
    (h : payload ∈ (MainWorker.processTxChain ports chain).pushed) (portId : UInt32) :
    portOpenOf portId payload.deref =
      if payload = ConsoleControl.portOpen portId true then some true else none := by
  rcases answer_cases h with ⟨id, rfl⟩ | ⟨id, rfl⟩ | ⟨id, rfl⟩ | ⟨id, size, rfl⟩ | ⟨id, name, rfl⟩
  · rw [ConsoleControl.portAdd, portOpenOf_consoleControl]
    simp [ConsoleControl.portOpen, virtioConsolePortAdd, virtioConsolePortOpen]
  · rw [ConsoleControl.markConsolePort, portOpenOf_consoleControl]
    simp [ConsoleControl.portOpen, virtioConsoleConsolePort, virtioConsolePortOpen]
  · rw [portOpenOf_portOpen]
    simp [ConsoleControl.portOpen]
  · rw [ConsoleControl.consoleResize, Payload.deref, portOpenOf_header]
    simp [ConsoleControl.portOpen, virtioConsoleResize, virtioConsolePortOpen]
  · rw [ConsoleControl.portName, Payload.deref, portOpenOf_header]
    simp [ConsoleControl.portOpen, virtioConsolePortName, virtioConsolePortOpen]

/-- The last that has been said about the port. -/
theorem believedOpen_said {ports : List Port} (portId : UInt32) : ∀ as : List DialogueAction,
    (∀ p ∈ as.filterMap DialogueAction.answered,
      ∃ chain, p ∈ (MainWorker.processTxChain ports chain).pushed) →
    (believedOpen portId ((as.filterMap DialogueAction.said).map Payload.deref) = some true ↔
      Since (fun _ a => a = .answer (ConsoleControl.portOpen portId true))
        (fun a => a ≠ .announceEnd portId) as) := by
  intro as
  induction as using List.reverseRecOn with
  | nil => exact fun _ => iff_of_false nofun not_since_nil
  | append_singleton as a ih =>
    intro hanswers
    rw [List.filterMap_append, List.forall_mem_append] at hanswers
    have ih := ih hanswers.1
    rw [since_concat, List.filterMap_append, List.map_append]
    cases a with
    | command | receive =>
      have hsays : believedOpen portId ((as.filterMap DialogueAction.said).map Payload.deref ++ []) =
          believedOpen portId ((as.filterMap DialogueAction.said).map Payload.deref) := by
        rw [List.append_nil]
      refine (Eq.congr_left hsays).trans (ih.trans ⟨fun h => .inr ⟨nofun, h⟩, ?_⟩)
      rintro (h | h)
      · cases h
      · exact h.2
    | answer p =>
      obtain ⟨chain, hp⟩ := hanswers.2 p List.mem_cons_self
      have hsays := believedOpen_concat portId ((as.filterMap DialogueAction.said).map Payload.deref)
        p.deref
      rw [portOpenOf_answer hp] at hsays
      refine (Eq.congr_left hsays).trans ?_
      by_cases hopen : p = ConsoleControl.portOpen portId true
      · rw [if_pos hopen, hopen]
        exact iff_of_true rfl (.inl rfl)
      · rw [if_neg hopen, Option.none_or, ih]
        refine ⟨fun h => .inr ⟨nofun, h⟩, ?_⟩
        rintro (h | h)
        · exact absurd (DialogueAction.answer.inj h) hopen
        · exact h.2
    | announceEnd id =>
      have hsays := believedOpen_concat portId ((as.filterMap DialogueAction.said).map Payload.deref)
        (ConsoleControl.portOpen id false).deref
      rw [portOpenOf_portOpen] at hsays
      refine (Eq.congr_left hsays).trans ?_
      by_cases hid : id = portId
      · rw [if_pos hid, Option.some_or]
        refine iff_of_false nofun ?_
        rintro (h | ⟨h, -⟩)
        · cases h
        · exact h (congrArg DialogueAction.announceEnd hid)
      · rw [if_neg hid, Option.none_or, ih]
        refine ⟨fun h => .inr ⟨fun heq => hid (DialogueAction.announceEnd.inj heq), h⟩, ?_⟩
        rintro (h | h)
        · cases h
        · exact h.2

/-- **When the guest believes that a port is open**, with all that was said handed over: the worker has
told it so, and the end of the input of the port has not been announced since. -/
theorem Dialogue.believedOpen_iff {ports : List Port} {as : List DialogueAction} {s : Dialogue}
    (hrun : run (Dialogue.step ports) .new as = some s)
    (hfits : Along (Dialogue.step ports) Dialogue.Fits .new as) (hidle : s.rx.pc = .idle)
    (hqueue : s.rx.queue = []) (portId : UInt32) :
    believedOpen portId (heard s.rx.ops) = some true ↔
      Since (fun _ a => a = .answer (ConsoleControl.portOpen portId true))
        (fun a => a ≠ .announceEnd portId) as := by
  have htold := Dialogue.told_of_run hrun hfits
  obtain ⟨done, ⟨ops, hops, hs⟩, hpushed, -⟩ := htold.accounted (by rw [hidle]; exact nofun)
  rw [hidle] at hs hpushed
  have hheard : heard s.rx.ops = (as.filterMap DialogueAction.said).map Payload.deref := by
    rw [hqueue] at hpushed
    rw [← htold.pushed, hpushed, hs, heard_append, heard_of_delivered hops]
    rfl
  rw [hheard]
  apply believedOpen_said portId
  intro p hp
  have hmem : p ∈ (as.filterMap DialogueAction.asked).flatMap fun chain =>
      (MainWorker.processTxChain ports chain).pushed := by
    rw [← htold.answers]
    exact List.mem_append_left _ hp
  obtain ⟨chain, -, hchain⟩ := List.mem_flatMap.mp hmem
  exact ⟨chain, hchain⟩

/-- The end of the input of a port is announced, and then the guest is ready for the port. -/
def closedTooEarly : List DialogueAction :=
  [.announceEnd 0, .command ⟨0, some [0, 0, 0, 0, 3, 0, 1, 0], fun _ _ => true⟩,
    .answer (ConsoleControl.portOpen 0 true), .receive (.publish ⟨0, some 8⟩),
    .receive (.publish ⟨1, some 8⟩), .receive (.processRx true true), .receive .popDescriptorChain,
    .receive .queuePop, .receive (.write true true), .receive .popDescriptorChain, .receive .queuePop,
    .receive (.write true true), .receive .popDescriptorChain]

theorem control_dialogue_closedTooEarly : ∃ s,
    run (Dialogue.step [⟨false, []⟩]) .new closedTooEarly = some s ∧
      heard s.rx.ops ++ (s.rx.pc.messages ++ s.rx.queue).map Payload.deref =
        (closedTooEarly.filterMap DialogueAction.said).map Payload.deref ∧
      closedTooEarly.filterMap DialogueAction.answered ++ s.answering =
        (closedTooEarly.filterMap DialogueAction.asked).flatMap fun chain =>
          (MainWorker.processTxChain [⟨false, []⟩] chain).pushed := by
  obtain ⟨s, hrun, hlives⟩ : ∃ s, run (Dialogue.step [⟨false, []⟩]) .new closedTooEarly = some s ∧
      s.rx.pc ≠ .panicked := ⟨_, rfl, by decide⟩
  exact ⟨s, hrun, control_dialogue hrun (by decide) hlives⟩

end VirtioPoc.Console
