import VirtioPoc.Base.Layout
import VirtioPoc.Base.Word
import VirtioPoc.Console.Device

/-!
# Reads of the configuration space

`read_config` of the console and of the GPU, with the slices that panic when they
are out of range.  Both copy from the bytes of a struct to the buffer of
`get_config`, which is zeroed.  The console checks the offset, and gives what
there is of the window; the GPU slices first, and wants the buffer to end where
the space does (`window_read_iff`).
-/

namespace VirtioPoc.VhostUser

open Base
open ConsoleDevice (VirtioConsoleConfig)

/-! ### Slices -/

/-- `&bytes[start..stop]`; `none` is the panic. -/
def sliceRange (bytes : List UInt8) (start stop : Nat) : Option (List UInt8) :=
  if start ≤ stop ∧ stop ≤ bytes.length then some ((bytes.drop start).take (stop - start)) else none

/-- `write_all` to the front of a slice; `none` is the error for a source that does not fit. -/
def writeAll (data source : List UInt8) : Option (List UInt8) :=
  if source.length ≤ data.length then some (source ++ data.drop source.length) else none

/-! ### The two devices -/

/-- `read_config` of `Console`, with the new content of `data`; `none` is a panic. -/
def consoleReadConfig (config : List UInt8) (offset : Nat) (data : List UInt8) :
    Option (Except String (List UInt8)) :=
  if offset ≥ config.length then some (.error "Invalid offset")
  else
    match checkedAdd offset data.length with
    | none => some (.ok data)
    | some stop =>
      match sliceRange config offset (min stop config.length) with
      | none => none
      | some source => (writeAll data source).map .ok

structure VirtioGpuConfig where
  (eventsRead eventsClear numScanouts numCapsets : UInt32)
  deriving DecidableEq

def VirtioGpuConfig.layout : Layout VirtioGpuConfig :=
  .iso (.prod .u32 <| .prod .u32 <| .prod .u32 .u32)
    ⟨fun (a, b, c, d) => ⟨a, b, c, d⟩,
      fun s => (s.eventsRead, s.eventsClear, s.numScanouts, s.numCapsets), fun _ => rfl, fun _ => rfl⟩

/-- `read_config` of `GpuDevice`; the `copy_from_slice` is between slices of one length. -/
def gpuReadConfig (virtioCfg : List UInt8) (offset : Nat) (data : List UInt8) :
    Option (Except String (List UInt8)) :=
  match sliceRange virtioCfg offset virtioCfg.length with
  | none => none
  | some cfgSlice =>
    if cfgSlice.length ≠ data.length then some (.error "Invalid length") else some (.ok cfgSlice)

inductive ConfigDevice
  | console (config : VirtioConsoleConfig)
  | gpu (virtioCfg : VirtioGpuConfig)

namespace ConfigDevice

/-- The bytes of the configuration space. -/
def space : ConfigDevice → List UInt8
  | .console config => VirtioConsoleConfig.layout.toBytes config
  | .gpu virtioCfg => VirtioGpuConfig.layout.toBytes virtioCfg

def readConfig (d : ConfigDevice) : (offset : Nat) → (data : List UInt8) →
    Option (Except String (List UInt8)) :=
  match d with
  | .console _ => consoleReadConfig d.space
  | .gpu _ => gpuReadConfig d.space

/-- **A window read** of `n` bytes into a zeroed buffer: it does not panic; inside the space it gives
the window, and from the end on it is refused; and it never gives bytes of anything else. -/
structure WindowRead (d : ConfigDevice) (offset n : Nat) : Prop where
  returns : d.readConfig offset (List.replicate n 0) ≠ none
  inside : offset + n ≤ d.space.length →
    d.readConfig offset (List.replicate n 0) = some (.ok ((d.space.drop offset).take n))
  outside : d.space.length ≤ offset →
    ∃ e, d.readConfig offset (List.replicate n 0) = some (.error e)
  own : ∀ data, d.readConfig offset (List.replicate n 0) = some (.ok data) →
    data.length = n ∧ ∀ (i : Nat) (b : UInt8), data[i]? = some b → d.space[offset + i]? = some b ∨ b = 0

end ConfigDevice

/-! ### What the reads give -/

theorem sliceRange_of_le {bytes : List UInt8} {start stop : Nat} (h : start ≤ stop)
    (h' : stop ≤ bytes.length) :
    sliceRange bytes start stop = some ((bytes.drop start).take (stop - start)) :=
  if_pos ⟨h, h'⟩

theorem writeAll_of_le {data source : List UInt8} (h : source.length ≤ data.length) :
    writeAll data source = some (source ++ data.drop source.length) := if_pos h

/-- The part of the buffer behind what there is of a window. -/
theorem drop_length_take_drop (config data : List UInt8) (offset : Nat) :
    data.drop ((config.drop offset).take data.length).length =
      data.drop (config.length - offset) := by
  rw [List.length_take, List.length_drop]
  rcases Nat.le_total data.length (config.length - offset) with hle | hle
  · rw [Nat.min_eq_left hle, List.drop_length, List.drop_eq_nil_of_le hle]
  · rw [Nat.min_eq_right hle]

/-- The console gives what there is of the window, and leaves the rest of the buffer alone. -/
theorem consoleReadConfig_eq {config data : List UInt8} {offset : Nat} (h : offset < config.length)
    (hfits : offset + data.length ≤ wordMax) : consoleReadConfig config offset data =
      some (.ok ((config.drop offset).take data.length ++ data.drop (config.length - offset))) := by
  have hmin : min (offset + data.length) config.length - offset =
      min data.length (config.drop offset).length := by
    rw [List.length_drop]
    omega
  have hle : ((config.drop offset).take data.length).length ≤ data.length := List.length_take_le ..
  rw [consoleReadConfig, if_neg (Nat.not_le_of_lt h), checkedAdd_of_le hfits]
  dsimp only
  rw [sliceRange_of_le (by omega) (by omega), hmin, ← List.take_eq_take_min]
  dsimp only
  rw [writeAll_of_le hle, drop_length_take_drop]
  rfl

/-- The `read_config` of the model of the console, where slices are lists, gives the same. -/
theorem console_readConfig_eq {ι ο Q : Type} (console : ConsoleDevice.Console ι ο Q) {offset : Nat}
    {data : List UInt8} (hfits : offset + data.length ≤ wordMax) :
    (consoleReadConfig (VirtioConsoleConfig.layout.toBytes console.config) offset data).map
      Except.toOption = some (console.readConfig offset data).toOption := by
  rw [ConsoleDevice.Console.readConfig]
  dsimp only
  by_cases h : offset ≥ (VirtioConsoleConfig.layout.toBytes console.config).length
  · rw [if_pos h, consoleReadConfig, if_pos h]
    rfl
  · rw [if_neg h, consoleReadConfig_eq (Nat.lt_of_not_le h) hfits, drop_length_take_drop]
    rfl

theorem gpuReadConfig_eq (virtioCfg data : List UInt8) (offset : Nat) :
    gpuReadConfig virtioCfg offset data =
      if offset ≤ virtioCfg.length then
        if virtioCfg.length - offset = data.length then some (.ok (virtioCfg.drop offset))
        else some (.error "Invalid length")
      else none := by
  rw [gpuReadConfig]
  by_cases h : offset ≤ virtioCfg.length
  · rw [if_pos h, sliceRange_of_le h le_rfl, ← List.length_drop, List.take_length]
    dsimp only
    rw [ite_not]
  · rw [if_neg h, show sliceRange virtioCfg offset virtioCfg.length = none from
      if_neg fun hand => h hand.1]

/-! ### Windows -/

/-- A byte of a window, with zeros behind the space, is a byte of the space or zero. -/
theorem getElem?_window {space : List UInt8} {offset n m i : Nat} {b : UInt8}
    (h : ((space.drop offset).take n ++ List.replicate m 0)[i]? = some b) :
    space[offset + i]? = some b ∨ b = 0 := by
  rw [List.getElem?_append] at h
  by_cases hi : i < ((space.drop offset).take n).length
  · rw [if_pos hi, List.getElem?_take_of_lt (by simp at hi; omega), List.getElem?_drop] at h
    exact .inl h
  · rw [if_neg hi] at h
    exact .inr (List.eq_of_mem_replicate (List.mem_of_getElem? h))

namespace ConfigDevice

variable {d : ConfigDevice} {offset n : Nat}

/-- All reads of the console are window reads. -/
theorem windowRead_console (config : VirtioConsoleConfig) (offset : Nat) (hn : 1 ≤ n) :
    (ConfigDevice.console config).WindowRead offset n := by
  let d := ConfigDevice.console config
  have hlen : d.space.length = 12 := VirtioConsoleConfig.layout.length_toBytes config
  have hmax : 12 ≤ wordMax := by decide
  by_cases hout : d.space.length ≤ offset
  · have hread : d.readConfig offset (List.replicate n 0) = some (.error "Invalid offset") :=
      if_pos hout
    exact ⟨by simp [d, hread], fun h => by simp only [d] at hout; omega, fun _ => ⟨_, hread⟩,
      by simp [d, hread]⟩
  · by_cases hfits : offset + n ≤ wordMax
    · have hread : d.readConfig offset (List.replicate n 0) = some (.ok
          ((d.space.drop offset).take n ++ List.replicate (n - (d.space.length - offset)) 0)) := by
        have heq := @consoleReadConfig_eq d.space (List.replicate n 0) offset
          (Nat.lt_of_not_le hout) (by rwa [List.length_replicate])
        rw [List.length_replicate, List.drop_replicate] at heq
        exact heq
      refine ⟨by simp [d, hread], fun h => ?_, fun h => absurd h hout, fun data hdata => ?_⟩
      · rw [hread, Nat.sub_eq_zero_of_le (by simp only [d] at h ⊢; omega), List.replicate_zero,
          List.append_nil]
      · obtain rfl := Except.ok.inj (Option.some.inj (hread.symm.trans hdata))
        refine ⟨?_, fun i b h => getElem?_window h⟩
        rw [List.length_append, List.length_take, List.length_drop, List.length_replicate]
        omega
    · have hread : d.readConfig offset (List.replicate n 0) = some (.ok (List.replicate n 0)) := by
        show consoleReadConfig _ _ _ = _
        rw [consoleReadConfig, if_neg hout, List.length_replicate,
          show checkedAdd offset n = none from if_neg hfits]
      refine ⟨by simp [d, hread], fun h => ?_, fun h => absurd h hout, fun data hdata => ?_⟩
      · simp only [d] at hlen
        omega
      · obtain rfl := Except.ok.inj (Option.some.inj (hread.symm.trans hdata))
        refine ⟨List.length_replicate, fun i b h => .inr ?_⟩
        exact List.eq_of_mem_replicate (List.mem_of_getElem? h)

/-- A read of the GPU is a window read if the window reaches the end of the space, and does not start
behind it. -/
theorem windowRead_gpu_iff (virtioCfg : VirtioGpuConfig) (offset : Nat) (hn : 1 ≤ n) :
    (ConfigDevice.gpu virtioCfg).WindowRead offset n ↔
      offset ≤ (ConfigDevice.gpu virtioCfg).space.length ∧
        (ConfigDevice.gpu virtioCfg).space.length ≤ offset + n := by
  let d := ConfigDevice.gpu virtioCfg
  have hread : d.readConfig offset (List.replicate n 0) = _ :=
    gpuReadConfig_eq d.space (List.replicate n 0) offset
  rw [List.length_replicate] at hread
  show d.WindowRead offset n ↔ offset ≤ d.space.length ∧ d.space.length ≤ offset + n
  by_cases hle : offset ≤ d.space.length
  · rw [if_pos hle] at hread
    by_cases hend : d.space.length - offset = n
    · rw [if_pos hend] at hread
      refine iff_of_true ⟨by simp [hread], fun h => ?_, fun h => by omega, fun data hdata => ?_⟩
        ⟨hle, by omega⟩
      · rw [hread, List.take_of_length_le (by rw [List.length_drop]; omega)]
      · obtain rfl := Except.ok.inj (Option.some.inj (hread.symm.trans hdata))
        refine ⟨by rw [List.length_drop, hend], fun i b h => .inl ?_⟩
        rwa [List.getElem?_drop] at h
    · rw [if_neg hend] at hread
      constructor
      · intro h
        refine ⟨hle, ?_⟩
        by_contra hshort
        have hinside := h.inside (by omega)
        rw [hread] at hinside
        cases hinside
      · rintro ⟨-, hreach⟩
        exact ⟨by simp [hread], fun h => by omega, fun _ => ⟨_, hread⟩, by simp [hread]⟩
  · rw [if_neg hle] at hread
    exact iff_of_false (fun h => h.returns hread) fun h => hle h.1

/-- **Which reads of the configuration space are window reads**: all of the console, and those of the
GPU that reach the end of the space and do not start behind it. -/
theorem window_read_iff (d : ConfigDevice) (offset n : Nat) (hn : 1 ≤ n) : d.WindowRead offset n ↔
    ∀ virtioCfg, d = .gpu virtioCfg → offset ≤ d.space.length ∧ d.space.length ≤ offset + n := by
  cases d with
  | console config => exact iff_of_true (windowRead_console config offset hn) nofun
  | gpu virtioCfg =>
    rw [windowRead_gpu_iff virtioCfg offset hn]
    exact ⟨fun h _ _ => h, fun h => h virtioCfg rfl⟩

/-- The last 12 bytes of the space of the GPU can be read. -/
theorem window_read_of_gpu_tail : (ConfigDevice.gpu ⟨0, 0, 1, 0⟩).WindowRead 4 12 := by
  refine (window_read_iff (.gpu ⟨0, 0, 1, 0⟩) 4 12 (by decide)).mpr fun virtioCfg hd => ?_
  obtain rfl := ConfigDevice.gpu.inj hd
  decide

/-- The first field of the space of the GPU cannot be read alone, and a read from behind the space
panics. -/
theorem gpu_reads_not_windows :
    ¬ (ConfigDevice.gpu ⟨0, 0, 1, 0⟩).WindowRead 0 4 ∧
      (ConfigDevice.gpu ⟨0, 0, 1, 0⟩).readConfig 17 (List.replicate 1 0) = none := by
  constructor
  · intro h
    have hreach := ((windowRead_gpu_iff ⟨0, 0, 1, 0⟩ 0 (by decide)).mp h).2
    exact absurd hreach (by decide)
  · decide

end ConfigDevice

end VirtioPoc.VhostUser
