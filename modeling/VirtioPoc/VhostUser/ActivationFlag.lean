import VirtioPoc.VhostUser.DeviceEffect
import VirtioPoc.VhostUser.Activation

/-!
# What `device_activated` says of the device

The flag is to say that the device is active: an activation of it has succeeded
and it was not reset since.  The handler sets the flag before the call that may
fail, and no message clears it.

`flag_truthful_iff` says in which runs the flag is right in every state.
-/

namespace VirtioPoc.VhostUser

open Base

/-- An activation has succeeded, and no reset came since. -/
def IsActive (calls : List DeviceCall) : Prop :=
  ∃ before after, calls = before ++ .activate true :: after ∧ .reset ∉ after

theorem not_isActive_nil : ¬ IsActive [] := by
  rintro ⟨before, after, hcalls, -⟩
  cases before <;> cases hcalls

theorem isActive_append_singleton {calls : List DeviceCall} {c : DeviceCall} :
    IsActive (calls ++ [c]) ↔ c = .activate true ∨ c ≠ .reset ∧ IsActive calls := by
  constructor
  · rintro ⟨before, after, hcalls, hreset⟩
    rcases List.eq_nil_or_concat after with rfl | ⟨after, d, rfl⟩
    · exact .inl (List.append_inj' hcalls rfl |>.2 |> List.singleton_inj.mp)
    · rw [List.concat_eq_append] at hcalls hreset
      rw [← List.cons_append, ← List.append_assoc] at hcalls
      obtain ⟨hbefore, hd⟩ := List.append_inj' hcalls rfl
      obtain rfl := List.singleton_inj.mp hd
      rw [List.mem_append, not_or] at hreset
      refine .inr ⟨?_, before, after, hbefore, hreset.1⟩
      rintro rfl
      exact hreset.2 (List.mem_singleton.mpr rfl)
  · rintro (rfl | ⟨hc, before, after, rfl, hreset⟩)
    · exact ⟨calls, [], rfl, List.not_mem_nil⟩
    · refine ⟨before, after ++ [c], List.append_assoc .., ?_⟩
      rw [List.mem_append, List.mem_singleton, not_or]
      exact ⟨hreset, hc.symm⟩

namespace VhostUserHandler

variable {δ File : Type}

/-- `device_activated` tells the truth about the device. -/
def FlagTruthful (h : VhostUserHandler δ) : Prop := h.deviceActivated = true ↔ IsActive h.calls

/-- **The condition on a message.**  The device is not reset once the flag is set, and if the
message activates the device, that does not fail. -/
def KeepsFlag (dev : VhostUserDevice δ) (h : VhostUserHandler δ) (a : Message File × Env) : Prop :=
  (a.1 = .resetDevice → h.deviceActivated = false) ∧
    ∀ vrings, h.activation a.1 = some vrings →
      ∀ device, dev.activate h.memTable.atomicMem vrings h.device ≠ some (.error (), device)

variable {dev : VhostUserDevice δ} {h t : VhostUserHandler δ}

theorem startActivation_eq_some {index : Nat} {vrings : List Vring}
    (hstart : h.startActivation index = some vrings) : h.deviceActivated = false := by
  unfold startActivation at hstart
  split at hstart
  case h_1 => cases hstart
  case h_2 =>
    split at hstart
    case isTrue hcond =>
      simp only [Bool.and_eq_true, Bool.not_eq_true'] at hcond
      exact hcond.1.2
    case isFalse => cases hstart

/-- The device is activated only while the flag is not set. -/
theorem activation_eq_some {msg : Message File} {vrings : List Vring}
    (hactivation : h.activation msg = some vrings) : h.deviceActivated = false := by
  cases msg with
  | setVringKick index file | setVringCall index file =>
    unfold activation at hactivation
    dsimp only at hactivation
    split at hactivation
    case h_1 => cases hactivation
    case h_2 => exact startActivation_eq_some (h := h.setVring _ _) hactivation
  | _ => cases hactivation

/-- A message after which the flag is the same, and the device is active or not as before. -/
theorem flagTruthful_same {a : Message File × Env} (hf : h.FlagTruthful)
    (hreset : a.1 ≠ .resetDevice) (hidle : h.activation a.1 = none)
    (hflag : t.deviceActivated = h.deviceActivated) (hactive : IsActive t.calls ↔ IsActive h.calls) :
    t.FlagTruthful ↔ h.KeepsFlag dev a := by
  refine iff_of_true ?_ ⟨fun h => absurd h hreset, fun vrings hact => nomatch hidle.symm.trans hact⟩
  rw [FlagTruthful, hflag, hactive]
  exact hf

/-- **Step lemma.** -/
theorem flagTruthful_step_iff {vm : VmMemory File} {a : Message File × Env} (hf : h.FlagTruthful)
    (hstep : h.step vm dev a = some t) : t.FlagTruthful ↔ h.KeepsFlag dev a := by
  obtain ⟨⟨r, t'⟩, ht, rfl⟩ := Option.map_eq_some_iff.mp hstep
  obtain ⟨msg, env⟩ := a
  dsimp only at ht ⊢
  cases deviceEffect_of_handle ht with
  | same hreset howner hidle hsame =>
    exact flagTruthful_same hf hreset hidle hsame.deviceActivated (by rw [hsame.calls])
  | resetOwner hdevice hflag hacked hcalls | setConfig hdevice hflag hacked hcalls
  | setGpuSocket hdevice hflag hacked hcalls =>
    exact flagTruthful_same hf nofun rfl hflag (by rw [hcalls])
  | setFeatures hoffered hcall hflag hacked hcalls =>
    refine flagTruthful_same hf nofun rfl hflag ?_
    rw [hcalls, isActive_append_singleton]
    exact ⟨fun hor => hor.elim nofun And.right, fun hactive => .inr ⟨nofun, hactive⟩⟩
  | resetDevice hcall hflag hacked hcalls =>
    -- the device is not active any more, and the flag is as before
    have hinactive : ¬ IsActive t'.calls := by
      rw [hcalls, isActive_append_singleton]
      rintro (hc | ⟨hc, -⟩)
      · cases hc
      · exact hc rfl
    have hfalse : t'.FlagTruthful ↔ h.deviceActivated = false := by
      rw [FlagTruthful, iff_false_right hinactive, hflag, Bool.not_eq_true]
    exact hfalse.trans
      ⟨fun hoff => ⟨fun _ => hoff, fun vrings hact => nomatch hact⟩, fun hkeeps => hkeeps.1 rfl⟩
  | activate hactivation hcall hflag hacked hcalls =>
    rename_i vrings result
    have hoff : h.deviceActivated = false := activation_eq_some hactivation
    have hinactive : ¬ IsActive h.calls := fun hactive => nomatch hoff.symm.trans (hf.mpr hactive)
    have hsucceeds : t'.FlagTruthful ↔ result.isOk = true := by
      rw [FlagTruthful, iff_true_left hflag, hcalls, isActive_append_singleton,
        or_iff_left (fun hactive => hinactive hactive.2), DeviceCall.activate.injEq]
    rw [hsucceeds]
    constructor
    · intro hok
      refine ⟨fun _ => hoff, fun vrings' hact device hfails => ?_⟩
      cases hactivation.symm.trans hact
      cases hcall.symm.trans hfails
      cases hok
    · rintro ⟨-, hnever⟩
      cases result with
      | ok => rfl
      | error => exact absurd hcall (hnever vrings hactivation _)

/-- Before the first message the device is not active. -/
theorem flagTruthful_new {device : δ} (hnew : new dev device = .ok h) : h.FlagTruthful := by
  unfold new at hnew
  split at hnew
  case h_1 => cases hnew
  case h_2 => cases hnew; exact iff_of_false nofun not_isActive_nil

end VhostUserHandler

/-- **The flag tells the truth** at every point of a run just when no activation fails and the device
is not reset once it has been activated. -/
theorem flag_truthful_iff {δ File : Type} {vm : VmMemory File} {dev : VhostUserDevice δ} {device : δ}
    {h : VhostUserHandler δ} (hnew : VhostUserHandler.new dev device = .ok h)
    {as : List (Message File × Env)} (hrun : (run (VhostUserHandler.step vm dev) h as).isSome) :
    (∀ n t, run (VhostUserHandler.step vm dev) h (as.take n) = some t → t.FlagTruthful) ↔
      Along (VhostUserHandler.step vm dev) (VhostUserHandler.KeepsFlag dev) h as :=
  forall_prefix_iff_along (I := fun _ => True) (fun _ _ _ _ _ => trivial)
    (fun _ _ _ _ hf hstep => VhostUserHandler.flagTruthful_step_iff hf hstep) as h trivial
    (VhostUserHandler.flagTruthful_new hnew) hrun

theorem flag_truthful_iff_memoryFirst :
    (run (VhostUserHandler.step vmMemory twoRings) twoRingsNew memoryFirst).isSome = true ∧
    ∀ n t, run (VhostUserHandler.step vmMemory twoRings) twoRingsNew (memoryFirst.take n) = some t →
      t.FlagTruthful := by
  have hnew : VhostUserHandler.new twoRings 0 = .ok twoRingsNew := rfl
  have hnever (h : VhostUserHandler UInt64) (msg : Message Bool)
      (hreset : msg = .resetDevice → h.deviceActivated = false) : h.KeepsFlag twoRings (msg, willing) :=
    ⟨hreset, fun vrings _ device => nofun⟩
  refine ⟨rfl, (flag_truthful_iff hnew rfl).mpr ⟨hnever _ _ nofun, fun t _ => ?_⟩⟩
  exact ⟨hnever _ _ nofun, fun t _ => ⟨hnever _ _ nofun, fun _ _ => trivial⟩⟩

/-- `twoRings` with an activation that fails. -/
def failingRings : VhostUserDevice UInt64 :=
  { twoRings with activate := fun _ _ device => some (.error (), device) }

/-- **A flag that is wrong**: after an activation that failed, and after a reset; a ring that is
started again does not activate the device. -/
theorem flag_not_truthful :
    let memory : Message Bool × Env := (.memory (.setMemTable [lowRegion] [true]), willing)
    let kick : Message Bool × Env := (.setVringKick 1 (some 5), willing)
    let stop : Message Bool × Env := (.getVringBase 1, willing)
    let reset : Message Bool × Env := (.resetDevice, willing)
    (∃ t, run (VhostUserHandler.step vmMemory failingRings) twoRingsNew [memory, kick, stop, kick] =
        some t ∧ t.Started ∧ t.calls = [.activate false] ∧ t.deviceActivated = true ∧
        ¬ t.FlagTruthful) ∧
    ∃ t, run (VhostUserHandler.step vmMemory twoRings) twoRingsNew [memory, kick, reset, kick] =
        some t ∧ t.Started ∧ t.calls = [.activate true, .reset] ∧ t.deviceActivated = true ∧
        ¬ t.FlagTruthful := by
  intro memory kick stop reset
  refine ⟨⟨_, rfl, by decide, rfl, rfl, ?_⟩, ⟨_, rfl, by decide, rfl, rfl, ?_⟩⟩
  · intro hf
    have hactive : IsActive ([] ++ [.activate false]) := hf.mp rfl
    rw [isActive_append_singleton] at hactive
    exact hactive.elim nofun fun hactive => not_isActive_nil hactive.2
  · intro hf
    have hactive : IsActive ([.activate true] ++ [.reset]) := hf.mp rfl
    rw [isActive_append_singleton] at hactive
    exact hactive.elim nofun fun hactive => hactive.1 rfl

end VirtioPoc.VhostUser
