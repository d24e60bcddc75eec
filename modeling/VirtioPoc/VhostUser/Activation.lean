import VirtioPoc.VhostUser.Handler

/-!
# The activation of the device

The handler activates the device when a ring is started, and only if a
`set_mem_table` was accepted before.  So the order of the messages decides
whether it happens at all: a ring that is started too early, or a memory that
comes from `add_mem_region` alone, leaves the device as it is.

`activated_iff` says in which runs the device has been activated whenever a ring
is started and there is guest memory.
-/

namespace VirtioPoc.VhostUser

open Base

namespace VhostUserHandler

variable {δ File : Type}

/-! ### What is required, and of which messages -/

/-- A ring is started. -/
def Started (h : VhostUserHandler δ) : Prop := ∃ vring ∈ h.vrings, vring.isStarted = true

instance (h : VhostUserHandler δ) : Decidable h.Started :=
  inferInstanceAs (Decidable (∃ vring ∈ h.vrings, vring.isStarted = true))

def HasMemory (h : VhostUserHandler δ) : Prop := h.memTable.atomicMem ≠ []

/-- `device.activate` has been called. -/
def Activated (h : VhostUserHandler δ) : Prop := ∃ succeeded, .activate succeeded ∈ h.calls

/-- With a started ring and guest memory, the device has been activated. -/
def IsServed (h : VhostUserHandler δ) : Prop := h.Started → h.HasMemory → h.Activated

/-- The flag is that of the calls. -/
def Flagged (h : VhostUserHandler δ) : Prop := h.deviceActivated = true ↔ h.Activated

/-- The ring at `index` is stopped, and with `kick` for its kick it is started by
`initialize_vring`. -/
def StartsRing (h : VhostUserHandler δ) (index : Nat) (kick : Vring → Option Fd) : Prop :=
  ∃ vring, h.vrings[index]? = some vring ∧ vring.isStarted = false ∧ (kick vring).isSome

/-- A ring may be started: the device has been activated, or is now, or there is no memory. -/
def MayStart (h : VhostUserHandler δ) : Prop :=
  h.Activated ∨ h.memTable.memoryUpdated = true ∨ ¬ h.HasMemory

/-- **The condition on a message.**  If it starts a ring, the ring may be started; and if it brings
memory, no ring is started or the device has been activated. -/
def InTime (vm : VmMemory File) (h : VhostUserHandler δ) : Message File × Env → Prop
  | (.setVringKick index file, _) => h.StartsRing index.toNat (fun _ => file) → h.MayStart
  | (.setVringCall index _, _) => h.StartsRing index.toNat Vring.kick → h.MayStart
  | (.memory (.setMemTable ctx files), _) =>
    (h.memTable.setMemTable vm ctx files).1 = .ok () → ¬ h.Started ∨ h.Activated
  | (.memory (.addMemRegion region file), _) =>
    (h.memTable.addMemRegion vm region file).1 = .ok () → ¬ h.Started ∨ h.Activated
  | _ => True

/-! ### Messages that do not matter -/

/-- From `h` to `t` no ring was started, and neither the memory nor the activation has changed. -/
structure Quiet (h t : VhostUserHandler δ) : Prop where
  started : t.Started → h.Started
  memTable : t.memTable = h.memTable
  deviceActivated : t.deviceActivated = h.deviceActivated
  activated : t.Activated ↔ h.Activated

variable {h t : VhostUserHandler δ}

theorem Quiet.refl (h : VhostUserHandler δ) : Quiet h h := ⟨id, rfl, rfl, Iff.rfl⟩

theorem Quiet.isServed (hq : Quiet h t) (hs : h.IsServed) : t.IsServed := by
  intro hstarted hmemory
  rw [HasMemory, hq.memTable] at hmemory
  exact hq.activated.mpr (hs (hq.started hstarted) hmemory)

theorem Quiet.flagged (hq : Quiet h t) (hf : h.Flagged) : t.Flagged := by
  rw [Flagged, hq.deviceActivated, hq.activated]
  exact hf

/-- A ring has changed, and it was not started by that. -/
theorem quiet_setVring {index : Nat} {vring vring' : Vring} (hget : h.vrings[index]? = some vring)
    (hready : vring'.isStarted = true → vring.isStarted = true) : Quiet h (h.setVring index vring') := by
  refine ⟨?_, rfl, rfl, Iff.rfl⟩
  rintro ⟨v, hv, hstarted⟩
  rcases List.mem_or_eq_of_mem_set hv with hv | rfl
  · exact ⟨v, hv, hstarted⟩
  · exact ⟨vring, List.mem_of_getElem? hget, hready hstarted⟩

theorem RingChange.quiet (hchange : RingChange h t) : Quiet h t := by
  cases hchange with
  | refl => exact .refl h
  | setVring hget hready => exact quiet_setVring hget hready

/-- The rings after `reset_device` are all stopped. -/
theorem isStarted_of_stopVrings {env : Env} : ∀ {vrings vrings' : List Vring} {k : Nat},
    stopVrings env k vrings = some vrings' → ∀ vring ∈ vrings', vring.isStarted = false := by
  intro vrings
  induction vrings with
  | nil =>
    intro vrings' k h
    cases h
    exact nofun
  | cons vring rest ih =>
    intro vrings' k h
    rw [stopVrings] at h
    split at h
    case h_1 => cases h
    case h_2 stopped hstop =>
      split at h
      case h_1 => cases h
      case h_2 vrings hrest =>
        cases h
        intro v hv
        rcases List.mem_cons.mp hv with rfl | hv
        · exact Vring.isStarted_stop hstop
        · exact ih hrest v hv

theorem isStarted_ringFeatures (features : UInt64) (vring : Vring) :
    (ringFeatures features vring).isStarted = vring.isStarted := by
  unfold ringFeatures
  split <;> rfl

/-- The messages that start rings or bring memory; the others are quiet. -/
def Matters : Message File → Prop
  | .setVringKick _ _ | .setVringCall _ _ | .memory _ => True
  | _ => False

/-- A record of a call that is not one of `activate`. -/
theorem quiet_of_vrings {call : DeviceCall} (hcall : ∀ succeeded, call ≠ .activate succeeded)
    (hstarted : t.Started → h.Started) (hmem : t.memTable = h.memTable)
    (hflag : t.deviceActivated = h.deviceActivated) (hcalls : t.calls = h.calls ++ [call]) :
    Quiet h t := by
  refine ⟨hstarted, hmem, hflag, ?_⟩
  unfold Activated
  rw [hcalls]
  constructor
  · rintro ⟨succeeded, hmem⟩
    rcases List.mem_append.mp hmem with hmem | hmem
    · exact ⟨succeeded, hmem⟩
    · exact absurd (List.mem_singleton.mp hmem).symm (hcall succeeded)
  · rintro ⟨succeeded, hmem⟩
    exact ⟨succeeded, List.mem_append_left _ hmem⟩

theorem quiet_resetDevice {dev : VhostUserDevice δ} {env : Env} {r : Except RequestError Reply}
    (ht : h.resetDevice dev env = some (r, t)) : Quiet h t := by
  unfold resetDevice at ht
  split at ht
  case h_1 => cases ht
  case h_2 vrings hstop =>
    split at ht
    case h_1 => cases ht
    case h_2 => cases ht
    case h_3 =>
      cases ht
      refine quiet_of_vrings (by intro _; exact nofun) ?_ rfl rfl rfl
      rintro ⟨vring, hv, hstarted⟩
      rw [isStarted_of_stopVrings hstop vring hv] at hstarted
      cases hstarted

theorem quiet_setFeatures {dev : VhostUserDevice δ} {features : UInt64}
    {r : Except RequestError Reply} (ht : h.setFeatures dev features = some (r, t)) : Quiet h t := by
  unfold setFeatures at ht
  split at ht
  case isTrue => cases ht; exact .refl h
  case isFalse =>
    split at ht
    case h_1 => cases ht
    case h_2 =>
      cases ht
      refine quiet_of_vrings (by intro _; exact nofun) ?_ rfl rfl rfl
      rintro ⟨vring', hv', hstarted⟩
      obtain ⟨vring, hv, rfl⟩ := List.mem_map.mp hv'
      rw [isStarted_ringFeatures] at hstarted
      exact ⟨vring, hv, hstarted⟩

/-- **The other messages are quiet.** -/
theorem quiet_of_handle {vm : VmMemory File} {dev : VhostUserDevice δ} {env : Env}
    {msg : Message File} (hmsg : ¬ Matters msg) {r : Except RequestError Reply}
    (ht : h.handle vm dev env msg = some (r, t)) : Quiet h t := by
  cases msg with
  | setVringKick index file => exact absurd trivial hmsg
  | setVringCall index file => exact absurd trivial hmsg
  | memory msg => exact absurd trivial hmsg
  | setOwner =>
    unfold handle setOwner at ht
    dsimp only at ht
    split at ht
    case isTrue => cases ht; exact .refl h
    case isFalse => cases ht; exact ⟨id, rfl, rfl, Iff.rfl⟩
  | resetDevice => exact quiet_resetDevice ht
  | setFeatures features => exact quiet_setFeatures ht
  | setConfig offset buf =>
    unfold handle setConfig at ht
    dsimp only at ht
    split at ht <;> cases ht <;> exact ⟨id, rfl, rfl, Iff.rfl⟩
  | resetOwner => cases ht; exact ⟨id, rfl, rfl, Iff.rfl⟩
  | setProtocolFeatures features => cases ht; exact ⟨id, rfl, rfl, Iff.rfl⟩
  | setGpuSocket => cases ht; exact ⟨id, rfl, rfl, Iff.rfl⟩
  | _ => exact (ringChange_of_handle ht trivial).quiet

/-! ### Messages about memory -/

theorem isServed_of_memory {memTable : MemTable} (hne : memTable.atomicMem ≠ []) :
    IsServed { h with memTable := memTable } ↔ ¬ h.Started ∨ h.Activated := by
  constructor
  · intro hserved
    by_cases hstarted : h.Started
    · exact .inr (hserved hstarted hne)
    · exact .inl hstarted
  · intro hor hstarted _
    exact hor.resolve_left (not_not.mpr hstarted)

theorem isServed_memory_iff {vm : VmMemory File} (hvm : vm.Lawful) (hs : h.IsServed)
    {msg : MemMessage File} (env : Env) {r : Except RequestError Reply}
    (ht : h.memory vm msg = some (r, t)) : t.IsServed ↔ h.InTime vm (.memory msg, env) := by
  unfold memory at ht
  split at ht
  case h_1 e memTable hresult =>
    -- a message that fails changes nothing
    have hfail : (h.memTable.handle vm msg).1 = .error e := congrArg Prod.fst hresult
    have hsame : memTable = h.memTable :=
      (congrArg Prod.snd hresult).symm.trans (MemTable.handle_error hfail)
    subst hsame
    cases ht
    refine iff_of_true hs ?_
    cases msg with
    | setMemTable ctx files => intro hok; exact nomatch hfail.symm.trans hok
    | addMemRegion region file => intro hok; exact nomatch hfail.symm.trans hok
    | removeMemRegion region => trivial
  case h_2 memTable hresult =>
    cases ht
    have hok : (h.memTable.handle vm msg).1 = .ok () := congrArg Prod.fst hresult
    cases msg with
    | setMemTable ctx files =>
      rw [isServed_of_memory (MemTable.ne_nil_of_setMemTable hvm hresult)]
      exact ⟨fun hor _ => hor, fun hin => hin hok⟩
    | addMemRegion region file =>
      rw [isServed_of_memory (List.ne_nil_of_mem (MemTable.mem_of_addMemRegion hvm hresult))]
      exact ⟨fun hor _ => hor, fun hin => hin hok⟩
    | removeMemRegion region =>
      refine iff_of_true ?_ trivial
      intro hstarted hmemory
      obtain ⟨guestRegion, hmem⟩ := List.exists_mem_of_ne_nil _ hmemory
      have hbefore := MemTable.mem_of_removeMemRegion hvm hresult hmem
      exact hs hstarted (List.ne_nil_of_mem hbefore)

theorem flagged_memory {vm : VmMemory File} (hf : h.Flagged) {msg : MemMessage File}
    {r : Except RequestError Reply} (ht : h.memory vm msg = some (r, t)) : t.Flagged := by
  unfold memory at ht
  split at ht <;> cases ht <;> exact hf

/-! ### Messages that start a ring -/

/-- `device.activate` is called, whatever it returns, and nothing else of the handler changes. -/
theorem activated_of_activateDevice {dev : VhostUserDevice δ} {r : Except RequestError Reply}
    (ht : h.activateDevice dev = some (r, t)) :
    t.Activated ∧ t.vrings = h.vrings ∧ t.memTable = h.memTable ∧
      t.deviceActivated = h.deviceActivated := by
  unfold activateDevice at ht
  split at ht
  case h_1 => cases ht
  case h_2 =>
    cases ht
    exact ⟨⟨true, List.mem_append_right _ (List.mem_singleton.mpr rfl)⟩, rfl, rfl, rfl⟩
  case h_3 =>
    cases ht
    exact ⟨⟨false, List.mem_append_right _ (List.mem_singleton.mpr rfl)⟩, rfl, rfl, rfl⟩

/-- What `initialize_vring` does: nothing, or it starts the ring, and then it activates the device
if that was not done and there was a `set_mem_table`. -/
theorem initializeVring_cases {dev : VhostUserDevice δ} {index : Nat} {updateEpolls : Bool}
    {r : Except RequestError Reply} (ht : h.initializeVring dev index updateEpolls = some (r, t)) :
    (¬ h.StartsRing index Vring.kick ∧ t = h) ∨
    (h.StartsRing index Vring.kick ∧ t.Started ∧ t.memTable = h.memTable ∧
      (h.deviceActivated = false ∧ h.memTable.memoryUpdated = true ∧
          t.deviceActivated = true ∧ t.Activated ∨
        (h.deviceActivated = false → h.memTable.memoryUpdated = false) ∧
          t.deviceActivated = h.deviceActivated ∧ (t.Activated ↔ h.Activated))) := by
  unfold initializeVring at ht
  split at ht
  case h_1 => cases ht
  case h_2 vring hget =>
    split at ht
    case isFalse hstart =>
      cases ht
      refine .inl ⟨?_, rfl⟩
      rintro ⟨vring', hget', hstopped, hkick⟩
      cases hget.symm.trans hget'
      apply hstart
      unfold Vring.isStarted at hstopped
      simp [hstopped, Vring.hasKickEvent, hkick]
    case isTrue hstart =>
      have hstarts : h.StartsRing index Vring.kick := by
        simp only [Bool.and_eq_true, Bool.not_eq_true'] at hstart
        exact ⟨vring, hget, hstart.1, hstart.2⟩
      split at ht
      case h_1 => cases ht
      case h_2 vring' hready =>
        have hstarted : (h.setVring index vring').Started := by
          obtain ⟨hlt, -⟩ := List.getElem?_eq_some_iff.mp hget
          refine ⟨vring', List.mem_set hlt vring', ?_⟩
          have hstart := vring.isStarted_start updateEpolls
          rw [hready] at hstart
          exact hstart
        refine .inr ⟨hstarts, ?_⟩
        dsimp only at ht
        split at ht
        case isFalse hactive =>
          cases ht
          refine ⟨hstarted, rfl, .inr ⟨fun hflag => ?_, rfl, Iff.rfl⟩⟩
          have hflag' : (h.setVring index vring').deviceActivated = false := hflag
          rw [hflag', Bool.not_false, Bool.true_and, Bool.not_eq_true] at hactive
          exact hactive
        case isTrue hactive =>
          rw [Bool.and_eq_true, Bool.not_eq_true'] at hactive
          obtain ⟨hactivated, hvrings, hmem, hflag⟩ := activated_of_activateDevice ht
          refine ⟨?_, hmem, .inl ⟨hactive.1, hactive.2, hflag, hactivated⟩⟩
          unfold Started
          rw [hvrings]
          exact hstarted

theorem flagged_initializeVring {dev : VhostUserDevice δ} (hf : h.Flagged) {index : Nat}
    {updateEpolls : Bool} {r : Except RequestError Reply}
    (ht : h.initializeVring dev index updateEpolls = some (r, t)) : t.Flagged := by
  rcases initializeVring_cases ht with ⟨-, rfl⟩ | ⟨-, -, -, hcase⟩
  · exact hf
  · rcases hcase with ⟨-, -, hflag, hactivated⟩ | ⟨-, hflag, hsame⟩
    · exact iff_of_true hflag hactivated
    · rw [Flagged, hflag, hsame]
      exact hf

/-- **The device is served after a start** just when the ring may be started. -/
theorem isServed_initializeVring_iff {dev : VhostUserDevice δ} (hf : h.Flagged) (hs : h.IsServed)
    {index : Nat} {updateEpolls : Bool} {r : Except RequestError Reply}
    (ht : h.initializeVring dev index updateEpolls = some (r, t)) :
    t.IsServed ↔ (h.StartsRing index Vring.kick → h.MayStart) := by
  rcases initializeVring_cases ht with ⟨hstays, rfl⟩ | ⟨hstarts, hstarted, hmem, hcase⟩
  · exact iff_of_true hs fun hstarts => absurd hstarts hstays
  · rcases hcase with ⟨hflag, hupdated, hflag', hactivated⟩ | ⟨hno, hflag', hsame⟩
    · exact iff_of_true (fun _ _ => hactivated) fun _ => .inr (.inl hupdated)
    · have hserved : t.IsServed ↔ (h.HasMemory → h.Activated) := by
        unfold IsServed HasMemory
        rw [hmem, hsame]
        exact ⟨fun hs => hs hstarted, fun hs _ => hs⟩
      rw [hserved]
      constructor
      · intro hs _
        by_cases hmemory : h.HasMemory
        · exact .inl (hs hmemory)
        · exact .inr (.inr hmemory)
      · intro hmay hmemory
        rcases hmay hstarts with hactivated | hupdated | hempty
        · exact hactivated
        · -- the flag would have been set by this start
          by_contra hnot
          have hflag : h.deviceActivated = false := Bool.eq_false_iff.mpr (mt hf.mp hnot)
          exact nomatch hupdated.symm.trans (hno hflag)
        · exact absurd hmemory hempty

/-- What `set_vring_kick` and `set_vring_call` do: there is no such ring, or its `kick` is replaced
and the ring is initialized. -/
def Initializes (dev : VhostUserDevice δ) (h : VhostUserHandler δ) (index : Nat)
    (kick : Vring → Option Fd) (t : VhostUserHandler δ) : Prop :=
  (h.vrings[index]? = none ∧ t = h) ∨
  ∃ vring vring' updateEpolls r, h.vrings[index]? = some vring ∧
    vring'.isStarted = vring.isStarted ∧ vring'.kick = kick vring ∧
    (h.setVring index vring').initializeVring dev index updateEpolls = some (r, t)

theorem initializes_setVringKick {dev : VhostUserDevice δ} {env : Env} {index : UInt8}
    {file : Option Fd} {r : Except RequestError Reply}
    (ht : h.setVringKick dev env index file = some (r, t)) :
    Initializes dev h index.toNat (fun _ => file) t := by
  unfold setVringKick at ht
  split at ht
  case h_1 hget => cases ht; exact .inl ⟨hget, rfl⟩
  case h_2 vring hget =>
    split at ht
    case h_1 => cases ht
    case h_2 vring' hkick =>
      have hvring' : vring' = (vring.setKick file (env.updateEpolls 0)).2 := by rw [hkick]
      exact .inr ⟨vring, vring', _, r, hget, by rw [hvring']; rfl, by rw [hvring']; rfl, ht⟩

theorem initializes_setVringCall {dev : VhostUserDevice δ} {env : Env} {index : UInt8}
    {file : Option Fd} {r : Except RequestError Reply}
    (ht : h.setVringCall dev env index file = some (r, t)) :
    Initializes dev h index.toNat Vring.kick t := by
  unfold setVringCall at ht
  split at ht
  case h_1 hget => cases ht; exact .inl ⟨hget, rfl⟩
  case h_2 vring hget =>
    exact .inr ⟨vring, vring.setCall file, _, r, hget, vring.isStarted_setCall file, rfl, ht⟩

section

variable {dev : VhostUserDevice δ} {index : Nat} {kick : Vring → Option Fd}

theorem Initializes.flagged (hi : Initializes dev h index kick t) (hf : h.Flagged) : t.Flagged := by
  rcases hi with ⟨-, rfl⟩ | ⟨vring, vring', updateEpolls, r, hget, hready, -, ht⟩
  · exact hf
  · have hq : Quiet h (h.setVring index vring') := quiet_setVring hget (by rw [hready]; exact id)
    exact flagged_initializeVring (hq.flagged hf) ht

theorem Initializes.isServed_iff (hi : Initializes dev h index kick t) (hf : h.Flagged)
    (hs : h.IsServed) : t.IsServed ↔ (h.StartsRing index kick → h.MayStart) := by
  rcases hi with ⟨hget, rfl⟩ | ⟨vring, vring', updateEpolls, r, hget, hready, hkick, ht⟩
  · refine iff_of_true hs ?_
    rintro ⟨vring, hget', -⟩
    cases hget.symm.trans hget'
  · have hq : Quiet h (h.setVring index vring') := quiet_setVring hget (by rw [hready]; exact id)
    rw [isServed_initializeVring_iff (hq.flagged hf) (hq.isServed hs) ht]
    have hget' : (h.setVring index vring').vrings[index]? = some vring' := by
      obtain ⟨hlt, -⟩ := List.getElem?_eq_some_iff.mp hget
      exact List.getElem?_set_self hlt
    have hstarts : (h.setVring index vring').StartsRing index Vring.kick ↔
        h.StartsRing index kick := by
      constructor
      · rintro ⟨v, hv, hstopped, hsome⟩
        cases hget'.symm.trans hv
        exact ⟨vring, hget, hready ▸ hstopped, hkick ▸ hsome⟩
      · rintro ⟨v, hv, hstopped, hsome⟩
        cases hget.symm.trans hv
        exact ⟨vring', hget', hready.trans hstopped, by rw [hkick]; exact hsome⟩
    rw [hstarts]
    exact Iff.rfl

end

/-! ### Every message -/

section

variable {vm : VmMemory File} {dev : VhostUserDevice δ} {a : Message File × Env}

theorem flagged_step (hf : h.Flagged) (hstep : h.step vm dev a = some t) : t.Flagged := by
  obtain ⟨msg, env⟩ := a
  obtain ⟨⟨r, t'⟩, ht, rfl⟩ := Option.map_eq_some_iff.mp hstep
  by_cases hmsg : Matters msg
  · cases msg with
    | memory msg => exact flagged_memory hf ht
    | setVringKick index file => exact (initializes_setVringKick ht).flagged hf
    | setVringCall index file => exact (initializes_setVringCall ht).flagged hf
    | _ => exact absurd hmsg id
  · exact (quiet_of_handle hmsg ht).flagged hf

/-- **Step lemma.** -/
theorem isServed_step_iff (hvm : vm.Lawful) (hf : h.Flagged) (hs : h.IsServed)
    (hstep : h.step vm dev a = some t) : t.IsServed ↔ h.InTime vm a := by
  obtain ⟨msg, env⟩ := a
  obtain ⟨⟨r, t'⟩, ht, rfl⟩ := Option.map_eq_some_iff.mp hstep
  by_cases hmsg : Matters msg
  · cases msg with
    | memory msg => exact isServed_memory_iff hvm hs env ht
    | setVringKick index file => exact (initializes_setVringKick ht).isServed_iff hf hs
    | setVringCall index file => exact (initializes_setVringCall ht).isServed_iff hf hs
    | _ => exact absurd hmsg id
  · refine iff_of_true ((quiet_of_handle hmsg ht).isServed hs) ?_
    cases msg with
    | setVringKick index file => exact absurd trivial hmsg
    | setVringCall index file => exact absurd trivial hmsg
    | memory msg => exact absurd trivial hmsg
    | _ => trivial

end

/-! ### Whole runs -/

theorem isStarted_of_newVrings : ∀ {sizes : List UInt16} {vrings : List Vring},
    newVrings sizes = .ok vrings → ∀ vring ∈ vrings, vring.isStarted = false := by
  intro sizes
  induction sizes with
  | nil =>
    intro vrings hnew
    cases hnew
    exact nofun
  | cons maxSize rest ih =>
    intro vrings hnew
    rw [newVrings] at hnew
    split at hnew
    case h_1 => cases hnew
    case h_2 vring hvring =>
      split at hnew
      case h_1 => cases hnew
      case h_2 vrings' hrest =>
        cases hnew
        intro v hv
        rcases List.mem_cons.mp hv with rfl | hv
        · exact Vring.isStarted_new hvring
        · exact ih hrest v hv

theorem flagged_new {dev : VhostUserDevice δ} {device : δ} (hnew : new dev device = .ok h) :
    h.Flagged ∧ h.IsServed := by
  unfold new at hnew
  split at hnew
  case h_1 => cases hnew
  case h_2 vrings hvrings =>
    cases hnew
    constructor
    · refine iff_of_false nofun ?_
      rintro ⟨succeeded, hmem⟩
      exact nomatch hmem
    · rintro ⟨vring, hv, hstarted⟩
      rw [isStarted_of_newVrings hvrings vring hv] at hstarted
      cases hstarted

end VhostUserHandler

/-- **The device is activated whatever the order**, at every point of a run, just when each message
comes in time. -/
theorem activated_iff {δ File : Type} {vm : VmMemory File} (hvm : vm.Lawful) {dev : VhostUserDevice δ}
    {device : δ} {h : VhostUserHandler δ} (hnew : VhostUserHandler.new dev device = .ok h)
    {as : List (Message File × Env)}
    (hrun : (run (VhostUserHandler.step vm dev) h as).isSome) :
    (∀ n t, run (VhostUserHandler.step vm dev) h (as.take n) = some t → t.IsServed) ↔
      Along (VhostUserHandler.step vm dev) (VhostUserHandler.InTime vm) h as := by
  obtain ⟨hf, hs⟩ := VhostUserHandler.flagged_new hnew
  exact forall_prefix_iff_along (I := VhostUserHandler.Flagged)
    (fun _ _ _ hf hstep => VhostUserHandler.flagged_step hf hstep)
    (fun _ _ _ hf hs hstep => VhostUserHandler.isServed_step_iff hvm hf hs hstep) as h hf hs hrun

/-- A device with two rings that keeps the features it is given. -/
def twoRings : VhostUserDevice UInt64 where
  protocolFeatures _ := 0
  availFeatures _ := protocolFeaturesBit
  setAckedFeatures ackedFeatures _ := some ackedFeatures
  queues _ := [8, 8]
  readConfig _ data _ := some (.ok data)
  writeConfig _ _ device := (.error (), device)
  activate _ _ device := some (.ok (), device)
  reset device := some (.ok true, device)
  setGpuSocket device := device

/-- The handler of the device before the first message. -/
def twoRingsNew : VhostUserHandler UInt64 :=
  let vring : Vring :=
    { queue := ⟨8, 8, false, 0, 0, 0, 0, 0, false⟩, enabled := false, kick := none, call := none,
      err := none }
  { device := 0, deviceActivated := false, requestedQueues := [8, 8], owned := false,
    featuresAcked := false, ackedFeatures := 0, ackedProtocolFeatures := 0, memTable := .new,
    vrings := [vring, vring], calls := [] }

/-- Nothing fails. -/
def willing : Env := { updateEpolls := fun _ => true, usedIdx := fun _ _ => some 0, setLogBase := true }

/-- The memory comes first, and some more of it when a ring is started. -/
def memoryFirst : List (Message Bool × Env) :=
  [(.memory (.setMemTable [lowRegion] [true]), willing), (.setVringKick 1 (some 5), willing),
    (.memory (.addMemRegion highRegion true), willing)]

theorem activated_iff_memoryFirst :
    (run (VhostUserHandler.step vmMemory twoRings) twoRingsNew memoryFirst).isSome = true ∧
    ∀ n t, run (VhostUserHandler.step vmMemory twoRings) twoRingsNew (memoryFirst.take n) = some t →
      t.IsServed := by
  have hnew : VhostUserHandler.new twoRings 0 = .ok twoRingsNew := rfl
  refine ⟨rfl, (activated_iff vmMemory_lawful hnew rfl).mpr ⟨?_, ?_⟩⟩
  · exact fun _ => .inl (by decide)
  · intro t ht
    cases ht
    refine ⟨fun _ => .inr (.inl rfl), ?_⟩
    intro t ht
    cases ht
    exact ⟨fun _ => .inr ⟨true, by decide⟩, fun _ _ => trivial⟩

/-- **A ring that is never served**: it is started before the memory comes, or the memory comes from
`add_mem_region`. -/
theorem not_activated :
    let kick : Message Bool × Env := (.setVringKick 0 (some 5), willing)
    let tableAfter := [kick, (.memory (.setMemTable [lowRegion] [true]), willing)]
    let regionBefore := [(.memory (.addMemRegion lowRegion true), willing), kick]
    VhostUserHandler.new twoRings 0 = .ok twoRingsNew ∧
    ∀ as ∈ [tableAfter, regionBefore], ∃ t,
      run (VhostUserHandler.step vmMemory twoRings) twoRingsNew as = some t ∧
      t.Started ∧ t.HasMemory ∧ t.calls = [] ∧ ¬ t.IsServed := by
  intro kick tableAfter regionBefore
  refine ⟨rfl, ?_⟩
  have hnever {t : VhostUserHandler UInt64} (hstarted : t.Started) (hmemory : t.HasMemory)
      (hcalls : t.calls = []) : ¬ t.IsServed := by
    intro hserved
    obtain ⟨succeeded, hmem⟩ := hserved hstarted hmemory
    rw [hcalls] at hmem
    exact nomatch hmem
  intro as has
  rcases List.mem_cons.mp has with rfl | has
  · exact ⟨_, rfl, by decide, nofun, rfl, hnever (by decide) nofun rfl⟩
  · obtain rfl := List.mem_singleton.mp has
    exact ⟨_, rfl, by decide, nofun, rfl, hnever (by decide) nofun rfl⟩

end VirtioPoc.VhostUser
