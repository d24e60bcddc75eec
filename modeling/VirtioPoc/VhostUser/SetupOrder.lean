import VirtioPoc.Base.Order
import VirtioPoc.VhostUser.Activation

/-!
# The order of the settings of the rings

Before a frontend starts the rings it sets their sizes, addresses, indices and
descriptors, and enables them.  What such a message answers and what it does to its
ring depends on nothing that another one changes, so the order does not matter:
`setup_order`, for any handler and any settings of which no two are the same
setting of the same ring.

`Change` is a message without the rings: it is made from the guest memory, the
features and the requested queues alone.
-/

namespace VirtioPoc.VhostUser

open Base

/-! ### What a setting does to its ring -/

/-- A setting; addresses that were not reached stay. -/
inductive RingPatch
  | keep
  | size (size : UInt16)
  | addresses (descTable availRing usedRing : Option UInt64) (nextUsed : Option UInt16)
  | nextAvail (nextAvail : UInt16)
  | err (file : Option Fd)
  | enabled (enable : Bool)

/-- The settings of a ring. -/
inductive Setting
  | size
  | addresses
  | nextAvail
  | err
  | enabled
  deriving DecidableEq

def RingPatch.setting : RingPatch → Option Setting
  | .keep => none
  | .size _ => some .size
  | .addresses .. => some .addresses
  | .nextAvail _ => some .nextAvail
  | .err _ => some .err
  | .enabled _ => some .enabled

def Vring.patch (v : Vring) : RingPatch → Vring
  | .keep => v
  | .size size => { v with queue := v.queue.setSize size }
  | .addresses descTable availRing usedRing nextUsed =>
    { v with queue := { v.queue with
      descTable := descTable.getD v.queue.descTable
      availRing := availRing.getD v.queue.availRing
      usedRing := usedRing.getD v.queue.usedRing
      nextUsed := nextUsed.getD v.queue.nextUsed } }
  | .nextAvail nextAvail => { v with queue := v.queue.setNextAvail nextAvail }
  | .err file => v.setErr file
  | .enabled enable => v.setEnabled enable

/-- Different settings do not meet. -/
theorem Vring.patch_comm (v : Vring) {p q : RingPatch}
    (hne : ∀ setting, p.setting = some setting → q.setting ≠ some setting) :
    (v.patch p).patch q = (v.patch q).patch p := by
  cases p <;> cases q
  case size.size | addresses.addresses | nextAvail.nextAvail | err.err | enabled.enabled =>
    exact absurd rfl (hne _ rfl)
  case size.addresses size descTable availRing usedRing nextUsed =>
    unfold patch Queue.setSize
    dsimp only
    split <;> rfl
  case addresses.size descTable availRing usedRing nextUsed size =>
    unfold patch Queue.setSize
    dsimp only
    split <;> rfl
  case size.nextAvail size nextAvail =>
    unfold patch Queue.setSize Queue.setNextAvail
    dsimp only
    split <;> rfl
  case nextAvail.size nextAvail size =>
    unfold patch Queue.setSize Queue.setNextAvail
    dsimp only
    split <;> rfl
  all_goals rfl

/-! ### What a message is without the rings -/

/-- `answer` changes nothing; `ring` is refused where there is no such ring.  `none` is a panic. -/
inductive Change
  | answer (result : Option (Except RequestError Reply))
  | ring (index : Nat) (result : Option (Except RequestError Reply × RingPatch))

/-- The setting that is changed, and of which ring. -/
def Change.setting : Change → Option (Nat × Setting)
  | .ring index (some (_, p)) => p.setting.map (index, ·)
  | _ => none

namespace VhostUserHandler

variable {δ File : Type}

def result (h : VhostUserHandler δ) : Change → Option (Except RequestError Reply)
  | .answer result => result
  | .ring index result =>
    if index < h.vrings.length then result.map Prod.fst else some (.error .invalidParam)

def after (h : VhostUserHandler δ) : Change → VhostUserHandler δ
  | .ring index (some (_, p)) => { h with vrings := h.vrings.modify index (·.patch p) }
  | _ => h

def commit (h : VhostUserHandler δ) (c : Change) : Outcome δ := (h.result c).map (·, h.after c)

/-- The messages that only set something of one ring, or only read what is not of the rings. -/
def Setup : Message File → Prop
  | .setVringNum .. | .setVringAddr .. | .setVringBase .. | .setVringErr .. | .setVringEnable ..
  | .getFeatures | .getProtocolFeatures | .getQueueNum | .getConfig .. | .setBackendReqFd
  | .getInflightFd | .setInflightFd | .getMaxMemSlots => True
  | _ => False

/-- What `set_vring_addr` does with the translated addresses, up to the first that is not aligned. -/
def addressesChange (h : VhostUserHandler δ) (env : Env) (descTable availRing usedRing : UInt64) :
    Except RequestError Reply × RingPatch :=
  if descTable &&& 0xf ≠ 0 then (.error .invalidParam, .keep)
  else if availRing &&& 0x1 ≠ 0 then
    (.error .invalidParam, .addresses (some descTable) none none none)
  else if usedRing &&& 0x3 ≠ 0 then
    (.error .invalidParam, .addresses (some descTable) (some availRing) none none)
  else
    match env.usedIdx h.memTable.atomicMem usedRing with
    | none => (.error .backendInternalError,
      .addresses (some descTable) (some availRing) (some usedRing) none)
    | some idx => (.ok .ok,
      .addresses (some descTable) (some availRing) (some usedRing) (some idx))

/-- The other messages are not of this kind. -/
def change (dev : VhostUserDevice δ) (env : Env) (h : VhostUserHandler δ) : Message File → Change
  | .setVringNum index num => .ring index.toNat <|
    (h.requestedQueues[index.toNat]?).map fun maxSize =>
      if num = 0 ∨ num > maxSize.toUInt32 then (.error .invalidParam, .keep)
      else (.ok .ok, .size num.toUInt16)
  | .setVringAddr index descriptor used available =>
    if h.memTable.mappings = [] then .answer (some (.error .invalidParam))
    else
      match h.ringAddresses descriptor used available with
      | none => .answer none
      | some (.error e) => .answer (some (.error e))
      | some (.ok (descTable, availRing, usedRing)) =>
        .ring index.toNat (some (h.addressesChange env descTable availRing usedRing))
  | .setVringBase index base => .ring index.toNat (some (.ok .ok, .nextAvail base.toUInt16))
  | .setVringErr index file => .ring index.toNat (some (.ok .ok, .err file))
  | .setVringEnable index enable =>
    match h.checkFeature protocolFeaturesBit with
    | .error e => .answer (some (.error e))
    | .ok () => .ring index.toNat (some (.ok .ok, .enabled enable))
  | .getFeatures => .answer (some (.ok (.u64 (dev.availFeatures h.device))))
  | .getProtocolFeatures => .answer (some (.ok (.u64 (dev.protocolFeatures h.device))))
  | .getQueueNum => .answer (some (.ok (.u64 (.ofNat h.requestedQueues.length))))
  | .getConfig offset size => .answer <|
    match dev.readConfig offset.toNat (List.replicate size.toNat 0) h.device with
    | none => none
    | some (.error ()) => some (.error .backendInternalError)
    | some (.ok data) => some (.ok (.config data))
  | .setBackendReqFd => .answer (some (.ok .ok))
  | .getMaxMemSlots => .answer (some (.ok (.u64 maxMemSlots)))
  | _ => .answer (some (.error (.invalidOperation "not supported")))

variable {vm : VmMemory File} {dev : VhostUserDevice δ} {env : Env} {h : VhostUserHandler δ}

theorem commit_answer (result : Option (Except RequestError Reply)) :
    h.commit (.answer result) = result.map (·, h) := rfl

theorem commit_ring_none {index : Nat} (hget : h.vrings[index]? = none)
    (result : Option (Except RequestError Reply × RingPatch)) :
    h.commit (.ring index result) = some (.error .invalidParam, h) := by
  have hge := List.getElem?_eq_none_iff.mp hget
  have hafter : h.after (.ring index result) = h := by
    cases result with
    | none => rfl
    | some p =>
      have hrings : h.vrings.modify index (·.patch p.2) = h.vrings := List.modify_eq_self hge
      simp only [after, hrings]
  rw [commit, hafter, VhostUserHandler.result, if_neg (by omega)]
  rfl

theorem commit_ring_some {index : Nat} {vring : Vring} (hget : h.vrings[index]? = some vring)
    (result : Option (Except RequestError Reply × RingPatch)) :
    h.commit (.ring index result) =
      result.map fun p => (p.1, h.setVring index (vring.patch p.2)) := by
  obtain ⟨hlt, rfl⟩ := List.getElem?_eq_some_iff.mp hget
  rw [commit, VhostUserHandler.result, if_pos hlt]
  cases result with
  | none => rfl
  | some p =>
    have hrings : h.vrings.modify index (·.patch p.2) =
        h.vrings.set index (h.vrings[index].patch p.2) := List.modify_eq_set_get _ hlt
    simp only [after, hrings, Option.map_some]
    rfl

theorem setVring_self {index : Nat} {vring : Vring} (hget : h.vrings[index]? = some vring) :
    h.setVring index vring = h := by
  obtain ⟨hlt, rfl⟩ := List.getElem?_eq_some_iff.mp hget
  rw [setVring, List.set_getElem_self]

theorem setVringAddr_eq_commit (index : UInt32) (descriptor used available : UInt64) :
    h.setVringAddr env index descriptor used available =
      h.commit (h.change dev env (.setVringAddr index descriptor used available : Message File)) := by
  unfold setVringAddr change
  dsimp only
  by_cases hempty : h.memTable.mappings = []
  · rw [if_pos hempty, if_pos hempty]
    rfl
  · rw [if_neg hempty, if_neg hempty]
    cases hres : h.ringAddresses descriptor used available with
    | none => rfl
    | some res =>
      cases res with
      | error e => rfl
      | ok addrs =>
        obtain ⟨descTable, availRing, usedRing⟩ := addrs
        dsimp only
        cases hget : h.vrings[index.toNat]? with
        | none => exact (commit_ring_none hget _).symm
        | some vring =>
          rw [commit_ring_some hget]
          dsimp only [Option.map_some]
          unfold addressesChange Vring.setQueueInfo Queue.trySetDescTableAddress
            Queue.trySetAvailRingAddress Queue.trySetUsedRingAddress
          by_cases hdesc : descTable &&& 0xf ≠ 0
          · simp only [if_pos hdesc, Vring.patch]
          · by_cases havail : availRing &&& 0x1 ≠ 0
            · simp only [if_neg hdesc, if_pos havail, Vring.patch, Option.getD_some,
                Option.getD_none]
            · by_cases hused : usedRing &&& 0x3 ≠ 0
              · simp only [if_neg hdesc, if_neg havail, if_pos hused, Vring.patch,
                  Option.getD_some, Option.getD_none]
              · simp only [if_neg hdesc, if_neg havail, if_neg hused]
                cases env.usedIdx h.memTable.atomicMem usedRing <;> rfl

/-- **A setting is its change.** -/
theorem handle_eq_commit {msg : Message File} (hmsg : Setup msg) :
    h.handle vm dev env msg = h.commit (h.change dev env msg) := by
  cases msg with
  | setVringAddr index descriptor used available =>
    exact setVringAddr_eq_commit index descriptor used available
  | setVringNum index num =>
    unfold handle setVringNum change
    dsimp only
    cases hget : h.vrings[index.toNat]? with
    | none => exact (commit_ring_none hget _).symm
    | some vring =>
      rw [commit_ring_some hget]
      cases h.requestedQueues[index.toNat]? with
      | none => rfl
      | some maxSize =>
        dsimp only [Option.map_some]
        split
        case isTrue => rw [Vring.patch, setVring_self hget]
        case isFalse => rfl
  | setVringBase index base =>
    unfold handle setVringBase change
    dsimp only
    cases hget : h.vrings[index.toNat]? with
    | none => exact (commit_ring_none hget _).symm
    | some vring => exact (commit_ring_some hget (some (.ok .ok, .nextAvail base.toUInt16))).symm
  | setVringErr index file =>
    unfold handle setVringErr change
    dsimp only
    cases hget : h.vrings[index.toNat]? with
    | none => exact (commit_ring_none hget _).symm
    | some vring => exact (commit_ring_some hget (some (.ok .ok, .err file))).symm
  | setVringEnable index enable =>
    unfold handle setVringEnable change
    dsimp only
    cases h.checkFeature protocolFeaturesBit with
    | error e => rfl
    | ok u =>
      dsimp only
      cases hget : h.vrings[index.toNat]? with
      | none => exact (commit_ring_none hget _).symm
      | some vring => exact (commit_ring_some hget (some (.ok .ok, .enabled enable))).symm
  | getConfig offset size =>
    unfold handle getConfig change
    dsimp only
    rw [commit_answer]
    rcases dev.readConfig offset.toNat (List.replicate size.toNat 0) h.device with _ | _ | _ <;> rfl
  | getFeatures | getProtocolFeatures | getQueueNum | setBackendReqFd | getInflightFd | setInflightFd
  | getMaxMemSlots => rfl
  | _ => cases hmsg

/-! ### Two settings -/

theorem length_after (h : VhostUserHandler δ) (c : Change) :
    (h.after c).vrings.length = h.vrings.length := by
  unfold after
  split
  case h_1 => exact List.length_modify ..
  case h_2 => rfl

theorem result_after (c d : Change) : (h.after c).result d = h.result d := by
  cases d with
  | answer => rfl
  | ring => rw [VhostUserHandler.result, length_after, VhostUserHandler.result]

theorem change_after (c : Change) (msg : Message File) :
    (h.after c).change dev env msg = h.change dev env msg := by
  unfold after
  split
  case h_1 => cases msg <;> rfl
  case h_2 => rfl

/-- They are not the same setting of one ring. -/
def Apart (c d : Change) : Prop := ∀ place, c.setting = some place → d.setting ≠ some place

theorem patch_comm_of_apart {i : Nat} {r s : Except RequestError Reply} {p q : RingPatch}
    (h : Apart (.ring i (some (r, p))) (.ring i (some (s, q)))) (v : Vring) :
    (v.patch p).patch q = (v.patch q).patch p := by
  apply v.patch_comm
  intro setting hp hq
  apply h (i, setting)
  · rw [Change.setting, hp]
    rfl
  · rw [Change.setting, hq]
    rfl

theorem after_comm {c d : Change} (hapart : Apart c d) : (h.after c).after d = (h.after d).after c := by
  cases c with
  | answer => cases d with
    | answer => rfl
    | ring j s => cases s <;> rfl
  | ring i r =>
    cases d with
    | answer => cases r <;> rfl
    | ring j s =>
      cases r with
      | none => cases s <;> rfl
      | some r =>
        cases s with
        | none => rfl
        | some s =>
          obtain ⟨r, p⟩ := r
          obtain ⟨s, q⟩ := s
          have hrings : (h.vrings.modify i (·.patch p)).modify j (·.patch q) =
              (h.vrings.modify j (·.patch q)).modify i (·.patch p) := by
            by_cases hij : i = j
            · subst hij
              rw [List.modify_modify_eq, List.modify_modify_eq]
              congr 1
              exact funext (patch_comm_of_apart hapart)
            · exact List.modify_modify_ne _ _ _ hij
          simp only [after, hrings]

/-- **Settings that are apart are independent.** -/
theorem independent_of_apart {a b : Message File × Env} (ha : Setup a.1) (hb : Setup b.1)
    (hapart : ∀ h : VhostUserHandler δ, Apart (h.change dev a.2 a.1) (h.change dev b.2 b.1)) :
    Independent (fun h a => VhostUserHandler.handle vm dev a.2 h a.1) a b := by
  intro h
  unfold both
  dsimp only
  rw [handle_eq_commit ha, handle_eq_commit hb]
  unfold commit
  cases hc : h.result (h.change dev a.2 a.1) with
  | none =>
    cases hd : h.result (h.change dev b.2 b.1) with
    | none => rfl
    | some s =>
      dsimp only [Option.map_none, Option.map_some]
      rw [handle_eq_commit ha, commit, change_after, result_after, hc]
      rfl
  | some r =>
    dsimp only [Option.map_some]
    rw [handle_eq_commit hb, commit, change_after, result_after]
    cases hd : h.result (h.change dev b.2 b.1) with
    | none => rfl
    | some s =>
      dsimp only [Option.map_some]
      rw [handle_eq_commit ha, commit, change_after, result_after, hc, after_comm (hapart h)]
      rfl

/-- The setting that a message is for. -/
def place : Message File → Option (Nat × Setting)
  | .setVringNum index _ => some (index.toNat, .size)
  | .setVringAddr index _ _ _ => some (index.toNat, .addresses)
  | .setVringBase index _ => some (index.toNat, .nextAvail)
  | .setVringErr index _ => some (index.toNat, .err)
  | .setVringEnable index _ => some (index.toNat, .enabled)
  | _ => none

theorem setting_addressesChange {descTable availRing usedRing : UInt64} {setting : Setting}
    (hsetting : (h.addressesChange env descTable availRing usedRing).2.setting = some setting) :
    setting = .addresses := by
  unfold addressesChange at hsetting
  split at hsetting
  case isTrue => cases hsetting
  case isFalse =>
    split at hsetting
    case isTrue => cases hsetting; rfl
    case isFalse =>
      split at hsetting
      case isTrue => cases hsetting; rfl
      case isFalse => split at hsetting <;> cases hsetting <;> rfl

/-- A message changes nothing but the setting that it is for. -/
theorem place_of_change {msg : Message File} {p : Nat × Setting}
    (hp : (h.change dev env msg).setting = some p) : place msg = some p := by
  cases msg with
  | setVringNum index num =>
    unfold change Change.setting at hp
    dsimp only at hp
    cases hmax : h.requestedQueues[index.toNat]? with
    | none =>
      rw [hmax] at hp
      cases hp
    | some maxSize =>
      rw [hmax] at hp
      dsimp only [Option.map_some] at hp
      split at hp
      case isTrue => cases hp
      case isFalse => cases hp; rfl
  | setVringAddr index descriptor used available =>
    unfold change at hp
    dsimp only at hp
    split at hp
    case isTrue => cases hp
    case isFalse =>
      split at hp
      case h_1 | h_2 => cases hp
      case h_3 =>
        obtain ⟨setting, hsetting, rfl⟩ := Option.map_eq_some_iff.mp hp
        rw [setting_addressesChange hsetting]
        rfl
  | setVringEnable index enable =>
    unfold change at hp
    dsimp only at hp
    split at hp
    case h_1 => cases hp
    case h_2 => exact hp
  | _ => exact hp

/-- Settings of different places are pairwise independent. -/
theorem pairwise_independent {as : List (Message File × Env)} (hsetup : ∀ a ∈ as, Setup a.1)
    (hplaces : as.Pairwise fun a b => ∀ p, place a.1 = some p → place b.1 ≠ some p) :
    as.Pairwise
      (Independent fun (h : VhostUserHandler δ) a => VhostUserHandler.handle vm dev a.2 h a.1) := by
  apply hplaces.imp_of_mem
  intro a b ha hb hne
  apply independent_of_apart (hsetup a ha) (hsetup b hb)
  intro h p hc hd
  exact hne p (place_of_change hc) (place_of_change hd)

end VhostUserHandler

/-- **The settings of the rings can be made in any order.**  As long as no two of the messages are the
same setting of the same ring, every order gives each message the same reply, and the same handler
at the end; and if a message panics in one order, it panics in every order. -/
theorem setup_order {δ File : Type} {vm : VmMemory File} {dev : VhostUserDevice δ}
    {as bs : List (Message File × Env)} (hperm : as.Perm bs)
    (hsetup : ∀ a ∈ as, VhostUserHandler.Setup a.1)
    (hplaces : as.Pairwise fun a b => ∀ p, VhostUserHandler.place a.1 = some p →
      VhostUserHandler.place b.1 ≠ some p) (h : VhostUserHandler δ) :
    let reply := fun (h : VhostUserHandler δ) (a : Message File × Env) => h.handle vm dev a.2 a.1
    (answers reply h as = none ↔ answers reply h bs = none) ∧
    ∀ rs t, answers reply h as = some (rs, t) →
      ∃ rs', answers reply h bs = some (rs', t) ∧ rs.Perm rs' := by
  intro reply
  have hindependent : as.Pairwise (Independent reply) :=
    VhostUserHandler.pairwise_independent hsetup hplaces
  exact ⟨answers_eq_none_iff hperm hindependent h, fun rs t => answers_perm hperm hindependent⟩

/-- The settings of ring 0, and a size of ring 1 that is refused. -/
def ringSettings : List (Message Bool × Env) :=
  [(.setVringNum 0 4, willing), (.setVringNum 1 9, willing), (.setVringBase 0 3, willing),
    (.setVringAddr 0 0x7000 0x7200 0x7100, willing), (.setVringErr 0 (some 7), willing)]

theorem setup_order_reversed :
    let h := { twoRingsNew with memTable := ⟨true, [⟨0x7000, 0x1000, 0⟩], [⟨0, 0x1000⟩]⟩ }
    let reply := fun (h : VhostUserHandler UInt64) (a : Message Bool × Env) =>
      h.handle vmMemory twoRings a.2 a.1
    ∃ rs rs' t, answers reply h ringSettings = some (rs, t) ∧
      answers reply h ringSettings.reverse = some (rs', t) ∧ rs.Perm rs' := by
  intro h reply
  obtain ⟨rs, t, ht⟩ : ∃ rs t, answers reply h ringSettings = some (rs, t) := ⟨_, _, rfl⟩
  have hsetup : ∀ a ∈ ringSettings, VhostUserHandler.Setup a.1 := by
    simp [ringSettings, VhostUserHandler.Setup]
  have hplaces : ringSettings.Pairwise fun a b => ∀ p, VhostUserHandler.place a.1 = some p →
      VhostUserHandler.place b.1 ≠ some p := by
    simp [ringSettings, VhostUserHandler.place]
  obtain ⟨rs', ht', hsame⟩ :=
    (setup_order (List.reverse_perm _).symm hsetup hplaces h).2 rs t ht
  exact ⟨rs, rs', t, ht, ht', hsame⟩

end VirtioPoc.VhostUser
