import VirtioPoc.Console.Dialogue
import VirtioPoc.Console.ProcessRx

/-!
# The main worker and the input workers

All of them push messages for the guest: the main worker its answers, and the input
worker of a port the one with which `process_rx` announces the end of its input.
That it does in one place, for a chain that has got a byte, and then it returns; an
end that is met by a chain without a byte is not announced.

`Follows` says that a run of the workers is one of the dialogue, in which each port
announces its end as its worker does.  So `port_believed_open_iff`, and a port whose
end is announced before the guest is ready for it stays open for good.
-/

namespace VirtioPoc.Console

open Base Virtio

/-- What a worker of a port has said about ports. -/
def announcements (ops : List PortOp) : List (UInt32 × Bool) :=
  ops.filterMap fun op => match op with
    | .portOpen portId isOpen => some (portId, isOpen)
    | _ => none

theorem announcements_append (xs ys : List PortOp) :
    announcements (xs ++ ys) = announcements xs ++ announcements ys := List.filterMap_append

theorem mem_announcements {ops : List PortOp} {portId : UInt32} {isOpen : Bool} :
    (portId, isOpen) ∈ announcements ops ↔ PortOp.portOpen portId isOpen ∈ ops := by
  unfold announcements
  rw [List.mem_filterMap]
  constructor
  · rintro ⟨op, hop, heq⟩
    cases op with
    | portOpen id b =>
      cases heq
      exact hop
    | _ => cases heq
  · exact fun hop => ⟨_, hop, rfl⟩

/-- The main worker, and the input worker of each port. -/
structure Conversation where
  dialogue : Dialogue
  inputs : UInt32 → RxState

inductive ConversationAction
  | main (a : DialogueAction)
  | input (portId : UInt32) (a : RxState.Action)

namespace Conversation

def new (mem : Bytes) (inputs : UInt32 → List Incoming) : Conversation :=
  { dialogue := .new, inputs := fun portId => .new mem (inputs portId) }

/-- What an input worker says in a step. -/
def announcedBy (s t : RxState) : List (UInt32 × Bool) :=
  (announcements t.ops).drop (announcements s.ops).length

/-- Only the input workers announce an end; what they say is pushed. -/
def step (regions : List GuestRegion) (ports : List Port) (s : Conversation) :
    ConversationAction → Option Conversation
  | .main (.announceEnd _) => none
  | .main a => (Dialogue.step ports s.dialogue a).map ({ s with dialogue := · })
  | .input portId a => (RxState.step regions portId (s.inputs portId) a).map fun t =>
    { dialogue := (announcedBy (s.inputs portId) t).foldl
        (fun d said => d.push (ConsoleControl.portOpen said.1 said.2)) s.dialogue
      inputs := Function.update s.inputs portId t }

/-- The part of a step that the dialogue sees. -/
def note (regions : List GuestRegion) (s : Conversation) : ConversationAction → List DialogueAction
  | .main a => [a]
  | .input portId a => match RxState.step regions portId (s.inputs portId) a with
    | none => []
    | some t => (announcedBy (s.inputs portId) t).map fun said => .announceEnd said.1

/-- A message that is handed over fits into its chain. -/
def Fits (s : Conversation) : ConversationAction → Prop
  | .main a => s.dialogue.Fits a
  | .input .. => True

instance (s : Conversation) : (a : ConversationAction) → Decidable (s.Fits a)
  | .main a => inferInstanceAs (Decidable (s.dialogue.Fits a))
  | .input .. => .isTrue trivial

end Conversation

/-! ### What an input worker says -/

namespace RxState

variable {regions : List GuestRegion} {portId : UInt32} {s t : RxState}

theorem announcements_waitEvent (s : RxState) :
    announcements s.waitEvent.ops = announcements s.ops := by
  rcases s.waitEvent_cases with heq | ⟨-, heq⟩
  · rw [heq]
    exact (announcements_append _ _).trans (List.append_nil _)
  · rw [heq]

theorem announcements_readChain (regions : List GuestRegion) (ds : List Descriptor) (n : Nat)
    (s : RxState) :
    announcements (s.readChain regions ds n).2.ops = announcements s.ops := by
  refine readChain_frame (R := fun t => announcements t.ops = announcements s.ops) ?_
    (fun _ h => h) ds n s rfl
  intro total len addr t h
  unfold readPiece
  split
  · exact (announcements_append _ _).trans ((List.append_nil _).trans h)
  · exact h
  · exact h

/-- A turn says nothing, or it announces the end of the input and is the last one. -/
theorem announcements_drain (regions : List GuestRegion) (portId : UInt32) (s : RxState) :
    announcements (s.drain regions portId).ops = announcements s.ops ∨
      announcements (s.drain regions portId).ops = announcements s.ops ++ [(portId, false)] ∧
        (s.drain regions portId).pc = .returned := by
  cases ha : s.avail with
  | nil =>
    rw [drain_nil ha, announcements_waitEvent]
    split
    · exact .inl ((announcements_append _ _).trans (List.append_nil _))
    · exact .inl rfl
  | cons chain avail =>
    have hread := announcements_readChain regions chain.writable 0 (s.popChain chain avail)
    have hpop : announcements (s.popChain chain avail).ops = announcements s.ops :=
      (announcements_append _ _).trans (List.append_nil _)
    rw [hpop] at hread
    rcases hchain : (s.popChain chain avail).readChain regions chain.writable 0 with ⟨bytesRead, t⟩
    rw [hchain] at hread
    by_cases hzero : bytesRead = 0
    · subst hzero
      rw [drain_putBack ha hchain, announcements_waitEvent]
      exact .inl ((announcements_append _ _).trans ((List.append_nil _).trans hread))
    · have hused : announcements (t.ops ++ [.addUsed chain (.ofNat bytesRead)
          (contents t.mem chain.writable)]) = announcements s.ops :=
        (announcements_append _ _).trans ((List.append_nil _).trans hread)
      rw [drain_used ha hchain hzero]
      dsimp only
      split
      case isTrue =>
        refine .inr ⟨?_, rfl⟩
        show announcements ((t.ops ++ [_]) ++ [.portOpen portId false]) = _
        rw [announcements_append, hused]
        rfl
      case isFalse => exact .inl hused

/-- **Step lemma**: what an input worker says. -/
theorem announcements_step {a : Action} (hstep : s.step regions portId a = some t) :
    announcements t.ops = announcements s.ops ∧ (s.pc = .returned → t.pc = .returned) ∨
      announcements t.ops = announcements s.ops ++ [(portId, false)] ∧
        s.pc ≠ .returned ∧ t.pc = .returned := by
  cases a with
  | event token readKick tryLockQueue =>
    obtain ⟨hpc, ht⟩ := Option.ite_none_right_eq_some.mp hstep
    cases ht
    refine .inl ⟨?_, fun h => by cases hpc.symm.trans h⟩
    rcases s.handleEvent_cases token readKick tryLockQueue with heq | heq | heq
    · rw [heq]
    · rw [heq]
      exact s.announcements_waitEvent
    · rw [heq]
  | drain =>
    obtain ⟨hpc, ht⟩ := Option.ite_none_right_eq_some.mp hstep
    cases ht
    have hne : s.pc ≠ .returned := by rw [hpc]; nofun
    rcases s.announcements_drain regions portId with h | ⟨h, hlast⟩
    · exact .inl ⟨h, fun hpc => absurd hpc hne⟩
    · exact .inr ⟨h, hne, hlast⟩
  | publish chain | guestWrite mem =>
    cases hstep
    exact .inl ⟨rfl, id⟩

end RxState

/-! ### The run of all of them -/

theorem once_eq_iff {A : Type*} {a : A} {as : List A} : Once (fun _ b => b = a) as ↔ a ∈ as := by
  constructor
  · rintro ⟨before, b, after, rfl, rfl, -⟩
    exact List.mem_append_right _ List.mem_cons_self
  · intro h
    obtain ⟨before, after, rfl⟩ := List.append_of_mem h
    exact ⟨before, a, after, rfl, rfl, fun _ _ => trivial⟩

namespace Conversation

variable {regions : List GuestRegion} {ports : List Port} {s t : Conversation}
  {log : List DialogueAction} {a : ConversationAction}

/-- The worker of the port has announced its end, and returned, or it has not. -/
def Announced (portId : UInt32) (x : RxState) (log : List DialogueAction) : Prop :=
  announcements x.ops = [] ∧ .announceEnd portId ∉ log ∨
    announcements x.ops = [(portId, false)] ∧ .announceEnd portId ∈ log ∧ x.pc = .returned

/-- **The invariant.**  What has been recorded is a run of the dialogue to this state, in which each port
has announced its end as its worker has. -/
structure Follows (ports : List Port) (s : Conversation) (log : List DialogueAction) : Prop where
  run : run (Dialogue.step ports) .new log = some s.dialogue
  fits : Along (Dialogue.step ports) Dialogue.Fits .new log
  announced : ∀ portId, Announced portId (s.inputs portId) log
  once : ∀ portId, AtMostOnce (fun _ a => a = .announceEnd portId) log

theorem follows_new (ports : List Port) (mem : Bytes) (inputs : UInt32 → List Incoming) :
    Follows ports (.new mem inputs) [] where
  run := rfl
  fits := trivial
  announced _ := .inl ⟨rfl, List.not_mem_nil⟩
  once _ := atMostOnce_nil

/-- One more action of the dialogue. -/
theorem Follows.run_concat (h : Follows ports s log) {a : DialogueAction} {d : Dialogue}
    (hfits : s.dialogue.Fits a) (hstep : Dialogue.step ports s.dialogue a = some d) :
    Base.run (Dialogue.step ports) .new (log ++ [a]) = some d ∧
      Along (Dialogue.step ports) Dialogue.Fits .new (log ++ [a]) := by
  refine ⟨run_concat_eq_some.mpr ⟨s.dialogue, h.run, hstep⟩, along_concat.mpr ⟨h.fits, fun d' hd' => ?_⟩⟩
  obtain rfl := Option.some.inj (h.run.symm.trans hd')
  exact hfits

theorem Follows.main (h : Follows ports s log) {a : DialogueAction} {d : Dialogue}
    (ha : ∀ portId, a ≠ .announceEnd portId) (hfits : s.dialogue.Fits a)
    (hstep : Dialogue.step ports s.dialogue a = some d) :
    Follows ports { s with dialogue := d } (log ++ [a]) := by
  obtain ⟨hrun, halong⟩ := h.run_concat hfits hstep
  refine ⟨hrun, halong, fun portId => ?_, fun portId => ?_⟩
  · have hmem : .announceEnd portId ∈ log ++ [a] ↔ .announceEnd portId ∈ log := by
      rw [List.mem_append, List.mem_singleton]
      exact or_iff_left fun heq => ha portId heq.symm
    unfold Announced
    rw [hmem]
    exact h.announced portId
  · exact (h.once portId).concat fun heq => absurd heq (ha portId)

/-- An input worker says nothing. -/
theorem Follows.quiet (h : Follows ports s log) {portId : UInt32} {x : RxState}
    (hsaid : announcements x.ops = announcements (s.inputs portId).ops)
    (hpc : (s.inputs portId).pc = .returned → x.pc = .returned) :
    Follows ports { s with inputs := Function.update s.inputs portId x } log := by
  refine ⟨h.run, h.fits, fun id => ?_, h.once⟩
  show Announced id (Function.update s.inputs portId x id) log
  by_cases hid : id = portId
  · subst hid
    rw [Function.update_self, Announced, hsaid]
    exact (h.announced id).imp (fun h => h) fun ⟨hops, hlog, hreturned⟩ => ⟨hops, hlog, hpc hreturned⟩
  · rw [Function.update_of_ne hid]
    exact h.announced id

/-- It announces the end of its input. -/
theorem Follows.announce (h : Follows ports s log) {portId : UInt32} {x : RxState}
    (hsaid : announcements x.ops = announcements (s.inputs portId).ops ++ [(portId, false)])
    (hbefore : (s.inputs portId).pc ≠ .returned) (hpc : x.pc = .returned) :
    Follows ports
      { dialogue := s.dialogue.push (ConsoleControl.portOpen portId false)
        inputs := Function.update s.inputs portId x }
      (log ++ [.announceEnd portId]) := by
  obtain ⟨hrun, halong⟩ := h.run_concat (a := .announceEnd portId) trivial rfl
  obtain ⟨hnone, hnot⟩ := (h.announced portId).resolve_right fun hthen => hbefore hthen.2.2
  refine ⟨hrun, halong, fun id => ?_, fun id => (h.once id).concat fun heq => ?_⟩
  · show Announced id (Function.update s.inputs portId x id) _
    by_cases hid : id = portId
    · subst hid
      rw [Function.update_self]
      refine .inr ⟨?_, List.mem_append_right _ List.mem_cons_self, hpc⟩
      rw [hsaid, hnone, List.nil_append]
    · have hmem : .announceEnd id ∈ log ++ [.announceEnd portId] ↔ .announceEnd id ∈ log := by
        rw [List.mem_append, List.mem_singleton]
        exact or_iff_left fun heq => hid (DialogueAction.announceEnd.inj heq)
      rw [Function.update_of_ne hid, Announced, hmem]
      exact h.announced id
  · obtain rfl := DialogueAction.announceEnd.inj heq
    exact fun hthen => hnot (once_eq_iff.mp hthen)

/-- **Step lemma.** -/
theorem Follows.step (h : Follows ports s log) (hfits : s.Fits a)
    (hstep : step regions ports s a = some t) : Follows ports t (log ++ note regions s a) := by
  cases a with
  | main a =>
    cases a with
    | announceEnd portId => cases hstep
    | command chain | answer payload | receive a =>
      obtain ⟨d, hd, rfl⟩ := Option.map_eq_some_iff.mp hstep
      exact h.main nofun hfits hd
  | input portId a =>
    obtain ⟨x, hx, rfl⟩ := Option.map_eq_some_iff.mp hstep
    rw [note, hx]
    dsimp only
    rcases RxState.announcements_step hx with ⟨hsaid, hpc⟩ | ⟨hsaid, hbefore, hpc⟩
    · have hsaid' : announcedBy (s.inputs portId) x = [] := by
        rw [announcedBy, hsaid, List.drop_length]
      rw [hsaid']
      show Follows ports _ (log ++ [])
      rw [List.append_nil]
      exact h.quiet hsaid hpc
    · have hsaid' : announcedBy (s.inputs portId) x = [(portId, false)] := by
        rw [announcedBy, hsaid, List.drop_left]
      rw [hsaid']
      exact h.announce hsaid hbefore hpc

end Conversation

/-- The input of a port is a byte and the end, and its chain is taken before the guest is ready for the
port. -/
def closedBeforeReady : List ConversationAction :=
  takeOne.map (.input 0) ++ closedTooEarly.tail.map .main

end VirtioPoc.Console
