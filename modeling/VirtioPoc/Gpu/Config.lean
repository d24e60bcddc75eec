import VirtioPoc.Base.Flags
import VirtioPoc.Gpu.Device
import Mathlib.Data.Fintype.Powerset

/-!
# The configuration

The names of capsets on the command line become a mask, `GpuConfig::new` goes
through its flags and refuses those that the mode has not, and the count of ones is
what the guest reads as `num_capsets`.

The numbers of the capsets are those of rutabaga, and are a parameter here.  The
iteration over a mask is followed on the set that the mask denotes, where it can be
evaluated: `iter_eq` says that it comes to the names, each once.  `config_exact` says
which arguments are accepted, and what the guest learns of them.
-/

namespace VirtioPoc.Gpu

open Base

inductive GpuMode
  | virglRenderer
  | gfxstream
  deriving DecidableEq

inductive CapsetName
  | virgl
  | virgl2
  | gfxstreamVulkan
  | gfxstreamGles
  deriving DecidableEq

instance : Fintype CapsetName where
  elems := {.virgl, .virgl2, .gfxstreamVulkan, .gfxstreamGles}
  complete c := by cases c <;> decide

abbrev GpuCapset := BitVec 64

/-- `use_egl`, `use_glx` and `use_surfaceless` are only passed on. -/
structure GpuFlags where
  (useEgl useGlx useGles useSurfaceless : Bool)
  deriving DecidableEq

def GpuFlags.newDefault : GpuFlags :=
  { useEgl := true, useGlx := false, useGles := true, useSurfaceless := true }

inductive GpuConfigError
  | capsetUnsuportedByMode (mode : GpuMode) (capset : GpuCapset)
  | glesRequiredByGfxstream
  deriving DecidableEq

structure GpuConfig where
  gpuMode : GpuMode
  capset : GpuCapset
  flags : GpuFlags
  deriving DecidableEq

structure GpuArgs where
  gpuMode : GpuMode
  capset : Option (List CapsetName)
  flags : GpuFlags

namespace GpuCapset

def contains (x y : GpuCapset) : Bool := decide (x &&& y = y)

def intersects (x y : GpuCapset) : Bool := decide (x &&& y ≠ 0#64)

def numCapsets (x : GpuCapset) : UInt32 := .ofNat x.cpop.toNat

/-- The iterator of bitflags over the flags of `source`, with those of it that remain; what no flag
has is returned at the end. -/
def iterFrom (source : GpuCapset) : (remaining : GpuCapset) → List GpuCapset → List GpuCapset
  | remaining, [] => if remaining = 0#64 then [] else [remaining]
  | remaining, flag :: flags =>
    if remaining = 0#64 then []
    else if contains source flag && intersects remaining flag then
      flag :: iterFrom source (remaining &&& ~~~ flag) flags
    else iterFrom source remaining flags

section

-- the numbers of the capsets in rutabaga
variable (number : CapsetName → Nat)

/-- The flag of a name. -/
def ofName (c : CapsetName) : GpuCapset := BitVec.twoPow 64 (number c)

def allVirglrendererCapsets : GpuCapset := ofName number .virgl ||| ofName number .virgl2

def allGfxstreamCapsets : GpuCapset :=
  ofName number .gfxstreamVulkan ||| ofName number .gfxstreamGles

/-- The flags in the order of their definition. -/
def flags : List GpuCapset :=
  [ofName number .virgl, ofName number .virgl2, allVirglrendererCapsets number,
    ofName number .gfxstreamVulkan, ofName number .gfxstreamGles, allGfxstreamCapsets number]

def iter (x : GpuCapset) : List GpuCapset := iterFrom x x (flags number)

end

end GpuCapset

open GpuCapset

namespace GpuConfig

section

variable (number : CapsetName → Nat)

def getDefaultCapsetForMode : GpuMode → GpuCapset
  | .virglRenderer => allVirglrendererCapsets number
  | .gfxstream => allGfxstreamCapsets number

def validateCapset (gpuMode : GpuMode) (capset : GpuCapset) : Except GpuConfigError Unit :=
  let supportedCapsetMask := match gpuMode with
    | .virglRenderer => allVirglrendererCapsets number
    | .gfxstream => allGfxstreamCapsets number
  match (iter number capset).find? fun capset => ! contains supportedCapsetMask capset with
  | some capset => .error (.capsetUnsuportedByMode gpuMode capset)
  | none => .ok ()

def new (gpuMode : GpuMode) (capset : Option GpuCapset) (flags : GpuFlags) :
    Except GpuConfigError GpuConfig :=
  let capset := capset.getD (getDefaultCapsetForMode number gpuMode)
  match validateCapset number gpuMode capset with
  | .error e => .error e
  | .ok () =>
    if contains capset (ofName number .gfxstreamGles) && ! flags.useGles then
      .error .glesRequiredByGfxstream
    else .ok { gpuMode := gpuMode, capset := capset, flags := flags }

def capsetNamesIntoCapset (capsetNames : List CapsetName) : GpuCapset :=
  (capsetNames.map (ofName number)).foldl (· ||| ·) 0#64

def ofArgs (args : GpuArgs) : Except GpuConfigError GpuConfig :=
  new number args.gpuMode (args.capset.map (capsetNamesIntoCapset number)) args.flags

end

end GpuConfig

/-! ### What is asked for -/

/-- The mode that a capset belongs to. -/
def CapsetName.mode : CapsetName → GpuMode
  | .virgl | .virgl2 => .virglRenderer
  | .gfxstreamVulkan | .gfxstreamGles => .gfxstream

def GpuMode.capsets (mode : GpuMode) : Finset CapsetName := Finset.univ.filter (·.mode = mode)

/-- The capsets that the arguments ask for: all of the mode when they name none. -/
def GpuArgs.wanted (args : GpuArgs) : Finset CapsetName :=
  match args.capset with
  | none => args.gpuMode.capsets
  | some names => names.toFinset

/-- The names in the order of their definition. -/
def capsetNames : List CapsetName := [.virgl, .virgl2, .gfxstreamVulkan, .gfxstreamGles]

/-! ### Masks and sets -/

variable {number : CapsetName → Nat} {x y : GpuCapset} {S T : Finset CapsetName}

theorem contains_iff (hn : Numbered number 64) (hx : Denotes number x S) (hy : Denotes number y T) :
    contains x y = true ↔ T ⊆ S := by
  rw [contains, decide_eq_true_iff, (hx.inter hn hy).eq_iff hn hy, Finset.inter_eq_right]

theorem intersects_iff (hn : Numbered number 64) (hx : Denotes number x S)
    (hy : Denotes number y T) : intersects x y = true ↔ S ∩ T ≠ ∅ := by
  rw [intersects, decide_eq_true_iff, Ne, (hx.inter hn hy).eq_zero_iff hn]

theorem denotes_ofName (hn : Numbered number 64) (c : CapsetName) :
    Denotes number (ofName number c) {c} := .single hn c

theorem denotes_default (hn : Numbered number 64) (mode : GpuMode) :
    Denotes number (GpuConfig.getDefaultCapsetForMode number mode) mode.capsets := by
  cases mode with
  | virglRenderer => exact (denotes_ofName hn .virgl).union (denotes_ofName hn .virgl2)
  | gfxstream => exact (denotes_ofName hn .gfxstreamVulkan).union (denotes_ofName hn .gfxstreamGles)

/-- The iteration over a set, in steps of sets of flags. -/
def setIterFrom (source : Finset CapsetName) :
    (remaining : Finset CapsetName) → List (Finset CapsetName) → List (Finset CapsetName)
  | remaining, [] => if remaining = ∅ then [] else [remaining]
  | remaining, flag :: flags =>
    if remaining = ∅ then []
    else if flag ⊆ source ∧ remaining ∩ flag ≠ ∅ then
      flag :: setIterFrom source (remaining \ flag) flags
    else setIterFrom source remaining flags

/-- **The iteration of masks simulates that of sets.** -/
theorem iterFrom_denotes (hn : Numbered number 64) (hx : Denotes number x S) :
    ∀ {flags : List GpuCapset} {sets : List (Finset CapsetName)},
      List.Forall₂ (Denotes number) flags sets → ∀ {y : GpuCapset} {T : Finset CapsetName},
      Denotes number y T →
      List.Forall₂ (Denotes number) (iterFrom x y flags) (setIterFrom S T sets) := by
  intro flags sets hflags
  induction hflags with
  | nil =>
    intro y T hy
    rw [iterFrom, setIterFrom]
    by_cases hT : T = ∅
    · rw [if_pos hT, if_pos ((hy.eq_zero_iff hn).mpr hT)]
      exact .nil
    · rw [if_neg hT, if_neg fun h => hT ((hy.eq_zero_iff hn).mp h)]
      exact .cons hy .nil
  | @cons flag set flags sets hflag _ ih =>
    intro y T hy
    rw [iterFrom, setIterFrom]
    by_cases hT : T = ∅
    · rw [if_pos hT, if_pos ((hy.eq_zero_iff hn).mpr hT)]
      exact .nil
    · rw [if_neg hT, if_neg fun h => hT ((hy.eq_zero_iff hn).mp h)]
      have hcond : (contains x flag && intersects y flag) = true ↔ set ⊆ S ∧ T ∩ set ≠ ∅ := by
        rw [Bool.and_eq_true, contains_iff hn hx hflag, intersects_iff hn hy hflag]
      by_cases hset : set ⊆ S ∧ T ∩ set ≠ ∅
      · rw [if_pos hset, if_pos (hcond.mpr hset)]
        exact .cons hflag (ih (hy.sdiff hn hflag))
      · rw [if_neg hset, if_neg fun h => hset (hcond.mp h)]
        exact ih hy

/-- The sets of `flags`. -/
def flagSets : List (Finset CapsetName) :=
  [{.virgl}, {.virgl2}, GpuMode.virglRenderer.capsets, {.gfxstreamVulkan}, {.gfxstreamGles},
    GpuMode.gfxstream.capsets]

theorem setIterFrom_eq (S : Finset CapsetName) :
    setIterFrom S S flagSets = (capsetNames.filter (· ∈ S)).map ({·}) := by
  revert S
  decide

/-- **The iteration** over a mask gives the flags of its names, each once and in their order. -/
theorem iter_eq (hn : Numbered number 64) (hx : Denotes number x S) :
    iter number x = (capsetNames.filter (· ∈ S)).map (ofName number) := by
  have hflags : List.Forall₂ (Denotes number) (flags number) flagSets :=
    .cons (denotes_ofName hn _) <| .cons (denotes_ofName hn _) <|
      .cons (denotes_default hn .virglRenderer) <| .cons (denotes_ofName hn _) <|
      .cons (denotes_ofName hn _) <| .cons (denotes_default hn .gfxstream) .nil
  have hiter := iterFrom_denotes hn hx hflags hx
  rw [setIterFrom_eq] at hiter
  have hunique : ∀ {xs : List GpuCapset} {names : List CapsetName},
      List.Forall₂ (Denotes number) xs (names.map ({·})) → xs = names.map (ofName number) := by
    intro xs names
    induction names generalizing xs with
    | nil => intro h; cases h; rfl
    | cons c names ih =>
      intro h
      cases h with
      | cons hc hrest =>
        rw [List.map_cons, ih hrest, (hc.eq_iff hn (denotes_ofName hn c)).mpr rfl]
  exact hunique hiter

/-! ### What is accepted -/

theorem GpuMode.mem_capsets {mode : GpuMode} {c : CapsetName} :
    c ∈ mode.capsets ↔ c.mode = mode := by
  rw [GpuMode.capsets, Finset.mem_filter, and_iff_right (Finset.mem_univ c)]

theorem contains_ofName (hn : Numbered number 64) (hx : Denotes number x S) (c : CapsetName) :
    contains x (ofName number c) = true ↔ c ∈ S := by
  rw [contains_iff hn hx (denotes_ofName hn c), Finset.singleton_subset_iff]

/-- The first name that is wanted and not of the mode. -/
def unsupported (mode : GpuMode) (S : Finset CapsetName) : Option CapsetName :=
  capsetNames.find? fun c => decide (c ∈ S) && decide (c.mode ≠ mode)

theorem unsupported_eq_none {mode : GpuMode} :
    unsupported mode S = none ↔ ∀ c ∈ S, c.mode = mode := by
  rw [unsupported, List.find?_eq_none]
  refine ⟨fun h c hc => ?_, fun h c _ hc => ?_⟩
  · have hnames : c ∈ capsetNames := by cases c <;> decide
    have hnot := h c hnames
    rw [Bool.and_eq_true, decide_eq_true_iff, decide_eq_true_iff, not_and, not_not] at hnot
    exact hnot hc
  · rw [Bool.and_eq_true, decide_eq_true_iff, decide_eq_true_iff] at hc
    exact hc.2 (h c hc.1)

theorem validateCapset_eq (hn : Numbered number 64) (hx : Denotes number x S) (mode : GpuMode) :
    GpuConfig.validateCapset number mode x =
      match unsupported mode S with
      | some c => .error (.capsetUnsuportedByMode mode (ofName number c))
      | none => .ok () := by
  have hflag (c : CapsetName) :
      (! contains (GpuConfig.getDefaultCapsetForMode number mode) (ofName number c)) =
        decide (c.mode ≠ mode) := by
    rw [Bool.eq_iff_iff, Bool.not_eq_true', Bool.eq_false_iff, Ne,
      contains_ofName hn (denotes_default hn mode), GpuMode.mem_capsets, decide_eq_true_iff]
  have hfind : (iter number x).find?
      (fun c => ! contains (GpuConfig.getDefaultCapsetForMode number mode) c) =
      (unsupported mode S).map (ofName number) := by
    rw [iter_eq hn hx, List.find?_map, List.find?_filter, unsupported]
    congr 2
    funext c
    rw [Function.comp_apply, hflag, Bool.decide_and, Bool.decide_eq_true, Bool.decide_eq_true]
  have hmask : GpuConfig.validateCapset number mode x =
      match (iter number x).find?
        (fun c => ! contains (GpuConfig.getDefaultCapsetForMode number mode) c) with
      | some c => .error (.capsetUnsuportedByMode mode c)
      | none => .ok () := by
    cases mode <;> rfl
  rw [hmask, hfind]
  cases unsupported mode S <;> rfl

theorem denotes_foldl (hn : Numbered number 64) (names : List CapsetName) :
    ∀ {x : GpuCapset} {S : Finset CapsetName}, Denotes number x S →
      Denotes number ((names.map (ofName number)).foldl (· ||| ·) x) (S ∪ names.toFinset) := by
  induction names with
  | nil =>
    intro x S hx
    rw [List.toFinset_nil, Finset.union_empty]
    exact hx
  | cons c names ih =>
    intro x S hx
    have hrest := ih (hx.union (denotes_ofName hn c))
    rw [Finset.union_assoc, ← Finset.insert_eq, ← List.toFinset_cons] at hrest
    exact hrest

theorem denotes_wanted (hn : Numbered number 64) (args : GpuArgs) :
    Denotes number
      ((args.capset.map (GpuConfig.capsetNamesIntoCapset number)).getD
        (GpuConfig.getDefaultCapsetForMode number args.gpuMode)) args.wanted := by
  rw [GpuArgs.wanted]
  cases args.capset with
  | none => exact denotes_default hn args.gpuMode
  | some names =>
    have hnames := denotes_foldl hn names .empty
    rw [Finset.empty_union] at hnames
    exact hnames

theorem ofArgs_eq (hn : Numbered number 64) (args : GpuArgs) :
    GpuConfig.ofArgs number args =
      match unsupported args.gpuMode args.wanted with
      | some c => .error (.capsetUnsuportedByMode args.gpuMode (ofName number c))
      | none =>
        if .gfxstreamGles ∈ args.wanted ∧ args.flags.useGles = false then
          .error .glesRequiredByGfxstream
        else .ok
          { gpuMode := args.gpuMode, flags := args.flags
            capset := (args.capset.map (GpuConfig.capsetNamesIntoCapset number)).getD
              (GpuConfig.getDefaultCapsetForMode number args.gpuMode) } := by
  have hx := denotes_wanted hn args
  rw [GpuConfig.ofArgs, GpuConfig.new, validateCapset_eq hn hx]
  cases unsupported args.gpuMode args.wanted with
  | some c => rfl
  | none =>
    dsimp only
    refine if_congr ?_ rfl rfl
    rw [Bool.and_eq_true, contains_ofName hn hx, Bool.not_eq_true']

/-- What the driver reads at the place of `num_capsets`. -/
theorem readConfig_numCapsets {β : Type} (numCapsets : UInt32) (data : List UInt8)
    (hdata : data.length = 4) :
    (GpuDevice.new numCapsets : GpuDevice β).readConfig 12 data =
      some (.ok (Layout.u32.toBytes numCapsets)) := by
  have hlength (config : VhostUser.VirtioGpuConfig) :
      (VhostUser.VirtioGpuConfig.layout.toBytes config).length = 16 :=
    VhostUser.VirtioGpuConfig.layout.length_toBytes config
  rw [GpuDevice.readConfig, VhostUser.gpuReadConfig_eq, hlength, if_pos (by decide),
    if_pos hdata.symm]
  rfl

/-- **The arguments and the guest**: they are accepted just when the wanted capsets are all of the
mode, and GLES is not wanted where it is disabled; then the mask is that of the wanted capsets, however
often each was named, and the guest reads their number.  A refusal names the first capset that the
mode has not, or GLES. -/
theorem config_exact (hn : Numbered number 64) (args : GpuArgs) :
    ((∃ config, GpuConfig.ofArgs number args = .ok config) ↔
      (∀ c ∈ args.wanted, c.mode = args.gpuMode) ∧
      (.gfxstreamGles ∈ args.wanted → args.flags.useGles = true)) ∧
    (∀ config, GpuConfig.ofArgs number args = .ok config →
      config.gpuMode = args.gpuMode ∧ config.flags = args.flags ∧
      Denotes number config.capset args.wanted ∧
      ∀ (β : Type) (data : List UInt8), data.length = 4 →
        (GpuDevice.new (numCapsets config.capset) : GpuDevice β).readConfig 12 data =
          some (.ok (Layout.u32.toBytes (.ofNat args.wanted.card)))) ∧
    ∀ e, GpuConfig.ofArgs number args = .error e →
      (∃ c, unsupported args.gpuMode args.wanted = some c ∧
        e = .capsetUnsuportedByMode args.gpuMode (ofName number c)) ∨
      (∀ c ∈ args.wanted, c.mode = args.gpuMode) ∧ e = .glesRequiredByGfxstream := by
  rw [ofArgs_eq hn args, ← unsupported_eq_none]
  cases unsupported args.gpuMode args.wanted with
  | some c =>
    refine ⟨iff_of_false ?_ ?_, ?_, ?_⟩
    · rintro ⟨config, h⟩
      cases h
    · rintro ⟨h, -⟩
      cases h
    · intro config h
      cases h
    · intro e h
      cases h
      exact .inl ⟨c, rfl, rfl⟩
  | none =>
    dsimp only
    by_cases hgles : .gfxstreamGles ∈ args.wanted ∧ args.flags.useGles = false
    · rw [if_pos hgles]
      refine ⟨iff_of_false ?_ ?_, ?_, ?_⟩
      · rintro ⟨config, h⟩
        cases h
      · rintro ⟨-, h⟩
        cases hgles.2.symm.trans (h hgles.1)
      · intro config h
        cases h
      · intro e h
        cases h
        exact .inr ⟨rfl, rfl⟩
    · rw [if_neg hgles]
      refine ⟨iff_of_true ⟨_, rfl⟩ ⟨rfl, fun h => ?_⟩, ?_, ?_⟩
      · rw [← Bool.not_eq_false]
        exact fun hno => hgles ⟨h, hno⟩
      · intro config h
        cases h
        have hx := denotes_wanted hn args
        refine ⟨rfl, rfl, hx, fun β data hdata => ?_⟩
        rw [readConfig_numCapsets _ data hdata, numCapsets, hx.toNat_cpop hn]
      · intro e h
        cases h

/-- The numbers as rutabaga has them. -/
def rutabagaNumber : CapsetName → Nat
  | .virgl => 1
  | .virgl2 => 2
  | .gfxstreamVulkan => 3
  | .gfxstreamGles => 8

theorem rutabagaNumber_numbered : Numbered rutabagaNumber 64 := ⟨by decide, by decide⟩

/-- A capset is named twice. -/
def namedTwice : GpuArgs :=
  { gpuMode := .gfxstream, capset := some [.gfxstreamGles, .gfxstreamGles], flags := .newDefault }

theorem config_exact_namedTwice :
    ∃ config, GpuConfig.ofArgs rutabagaNumber namedTwice = .ok config ∧
      (GpuDevice.new (numCapsets config.capset) : GpuDevice Unit).readConfig 12 [0, 0, 0, 0] =
        some (.ok [1, 0, 0, 0]) := by
  obtain ⟨haccepted, hread, -⟩ := config_exact rutabagaNumber_numbered namedTwice
  obtain ⟨config, hconfig⟩ := haccepted.mpr (by decide)
  exact ⟨config, hconfig, (hread config hconfig).2.2.2 Unit [0, 0, 0, 0] rfl⟩

end VirtioPoc.Gpu
