import VirtioPoc.Base.Word
import Mathlib.Data.List.GetD

/-!
# Guest memory

The guest memory of `vm-memory`: the bytes at the guest addresses, and the
regions that are mapped.  `tryAccess` is `GuestMemory::try_access`, the loop
through which the devices reach a range of addresses that may cross from one
region into the next: it calls a closure on one piece after the other, until
the range is done or the closure stops it.

`tryAccess_ends` is the invariant rule of that loop, on any range: it does the
bytes before the first one that is not mapped, of which there are `room`, unless
the closure stops it or fails.  `tryAccess_rule` is the same for a range inside
the memory.  The ends of the regions are addresses, so that no sum of an address
and a length overflows in it.
-/

namespace VirtioPoc.Virtio

open Base

/-! ### Bytes -/

/-- The byte at each guest address. -/
abbrev Bytes := Nat → UInt8

def readBytes (mem : Bytes) : (addr len : Nat) → List UInt8
  | _, 0 => []
  | addr, len + 1 => mem addr :: readBytes mem (addr + 1) len

def writeBytes (mem : Bytes) (addr : Nat) (data : List UInt8) : Bytes := fun a =>
  if addr ≤ a then data.getD (a - addr) (mem a) else mem a

@[simp] theorem length_readBytes (mem : Bytes) : ∀ addr len,
    (readBytes mem addr len).length = len := by
  intro addr len
  induction len generalizing addr with
  | zero => rfl
  | succ len ih => rw [readBytes, List.length_cons, ih]

theorem readBytes_append (mem : Bytes) : ∀ addr m n : Nat,
    readBytes mem addr (m + n) = readBytes mem addr m ++ readBytes mem (addr + m) n := by
  intro addr m
  induction m generalizing addr with
  | zero => intro n; rw [Nat.zero_add, Nat.add_zero, readBytes, List.nil_append]
  | succ m ih =>
    intro n
    rw [Nat.add_right_comm, readBytes, readBytes, ih, List.cons_append, Nat.add_assoc addr 1 m,
      Nat.add_comm 1 m]

theorem take_readBytes (mem : Bytes) (addr : Nat) {n len : Nat} (h : n ≤ len) :
    (readBytes mem addr len).take n = readBytes mem addr n := by
  obtain ⟨m, rfl⟩ := Nat.exists_eq_add_of_le h
  rw [readBytes_append, List.take_left' (length_readBytes ..)]

theorem readBytes_congr {mem mem' : Bytes} : ∀ {addr len : Nat},
    (∀ a, addr ≤ a → a < addr + len → mem a = mem' a) →
      readBytes mem addr len = readBytes mem' addr len := by
  intro addr len
  induction len generalizing addr with
  | zero => intro _; rfl
  | succ len ih =>
    intro h
    rw [readBytes, readBytes, h addr (Nat.le_refl _) (by omega),
      ih fun a h1 h2 => h a (by omega) (by omega)]

theorem writeBytes_of_outside {mem : Bytes} {addr a : Nat} {data : List UInt8}
    (h : a < addr ∨ addr + data.length ≤ a) : writeBytes mem addr data a = mem a := by
  unfold writeBytes
  split
  case isTrue hle => rw [List.getD_eq_default _ _ (by omega)]
  case isFalse => rfl

theorem writeBytes_append (mem : Bytes) (addr : Nat) (xs ys : List UInt8) :
    writeBytes mem addr (xs ++ ys) = writeBytes (writeBytes mem addr xs) (addr + xs.length) ys := by
  funext a
  by_cases h : a < addr + xs.length
  · rw [writeBytes_of_outside (Or.inl h)]
    unfold writeBytes
    split
    case isTrue hle =>
      rw [List.getD_append _ _ _ _ (by omega)]
    case isFalse => rfl
  · have hle : addr + xs.length ≤ a := by omega
    have hout : writeBytes mem addr xs a = mem a := writeBytes_of_outside (Or.inr hle)
    show (if addr ≤ a then _ else _) = if addr + xs.length ≤ a then _ else _
    rw [if_pos (by omega), if_pos hle, hout, List.getD_append_right _ _ _ _ (by omega), Nat.sub_add_eq]

theorem readBytes_writeBytes (mem : Bytes) : ∀ (data : List UInt8) (addr : Nat),
    readBytes (writeBytes mem addr data) addr data.length = data := by
  intro data
  induction data generalizing mem with
  | nil => intro _; rfl
  | cons b data ih =>
    intro addr
    have hsplit := writeBytes_append mem addr [b] data
    rw [List.singleton_append] at hsplit
    have hhead : writeBytes mem addr (b :: data) addr = b := by
      rw [writeBytes, if_pos (Nat.le_refl _), Nat.sub_self, List.getD_cons_zero]
    rw [List.length_cons, readBytes, hhead, hsplit]
    exact congrArg (b :: ·) (ih _ _)

/-! ### Regions -/

/-- A region of guest memory: `GuestRegionMmap`. -/
structure GuestRegion where
  (start size : Nat)
  deriving DecidableEq

/-- `GuestRegionMmap::new`, which rejects a region that ends behind the address space. -/
def GuestRegion.new (start size : Nat) : Option GuestRegion :=
  match checkedAdd start size with
  | none => none
  | some _ => some ⟨start, size⟩

/-- The end of a region, behind its last address. -/
def GuestRegion.stop (r : GuestRegion) : Nat := r.start + r.size

def GuestRegion.Contains (r : GuestRegion) (a : Nat) : Prop := r.start ≤ a ∧ a < r.stop

instance (r : GuestRegion) (a : Nat) : Decidable (r.Contains a) := inferInstanceAs (Decidable (_ ∧ _))

/-- The two regions share no address. -/
def GuestRegion.Apart (r r' : GuestRegion) : Prop :=
  r.start + r.size ≤ r'.start ∨ r'.start + r'.size ≤ r.start

theorem GuestRegion.Apart.symm {r r' : GuestRegion} (h : r.Apart r') : r'.Apart r := Or.symm h

/-- Regions apart start at different addresses. -/
theorem GuestRegion.Apart.start_ne {r r' : GuestRegion} (h : r.Apart r') (hr : 0 < r.size)
    (hr' : 0 < r'.size) : r.start ≠ r'.start := by
  unfold GuestRegion.Apart at h
  omega

def findRegion (regions : List GuestRegion) (addr : Nat) : Option GuestRegion :=
  regions.find? fun r => r.Contains addr

theorem findRegion_eq_some {regions : List GuestRegion} {addr : Nat} {region : GuestRegion}
    (h : findRegion regions addr = some region) : region ∈ regions ∧ region.Contains addr := by
  unfold findRegion at h
  exact ⟨List.mem_of_find?_eq_some h, by simpa using List.find?_some h⟩

/-- Every address of the range is mapped. -/
def Inside (regions : List GuestRegion) (addr len : Nat) : Prop :=
  ∀ a, addr ≤ a → a < addr + len → ∃ r ∈ regions, r.Contains a

theorem exists_findRegion {regions : List GuestRegion} {addr len a : Nat}
    (h : Inside regions addr len) (h1 : addr ≤ a) (h2 : a < addr + len) :
    ∃ r, findRegion regions a = some r ∧ r.Contains a := by
  obtain ⟨r, hr, hc⟩ := h a h1 h2
  cases hf : findRegion regions a with
  | none =>
    have := List.find?_eq_none.mp hf r hr
    exact absurd hc (by simpa using this)
  | some r' => exact ⟨r', rfl, (findRegion_eq_some hf).2⟩

/-- How many bytes of the range are mapped before the first one that is not. -/
def room (regions : List GuestRegion) : (addr len : Nat) → Nat
  | _, 0 => 0
  | addr, len + 1 =>
    if (findRegion regions addr).isSome then room regions (addr + 1) len + 1 else 0

theorem room_le (regions : List GuestRegion) : ∀ addr len : Nat, room regions addr len ≤ len := by
  intro addr len
  induction len generalizing addr with
  | zero => exact Nat.le_refl 0
  | succ len ih =>
    rw [room]
    split
    · exact Nat.succ_le_succ (ih _)
    · exact Nat.zero_le _

theorem room_of_none {regions : List GuestRegion} {addr : Nat} (len : Nat)
    (h : findRegion regions addr = none) : room regions addr len = 0 := by
  cases len with
  | zero => rfl
  | succ len => rw [room, h, if_neg (by decide)]

/-- Mapped addresses from the start of the range on are part of its room. -/
theorem le_room {regions : List GuestRegion} : ∀ {addr n len : Nat}, n ≤ len →
    (∀ a, addr ≤ a → a < addr + n → (findRegion regions a).isSome) → n ≤ room regions addr len := by
  intro addr n len
  induction len generalizing addr n with
  | zero => exact fun hle _ => hle
  | succ len ih =>
    intro hle hmapped
    cases n with
    | zero => exact Nat.zero_le _
    | succ n =>
      rw [room, if_pos (hmapped addr (Nat.le_refl _) (by omega))]
      exact Nat.succ_le_succ (ih (by omega) fun a h1 h2 => hmapped a (by omega) (by omega))

theorem room_of_inside {regions : List GuestRegion} {addr len : Nat} (h : Inside regions addr len) :
    room regions addr len = len := by
  refine Nat.le_antisymm (room_le regions addr len) (le_room (Nat.le_refl len) fun a h1 h2 => ?_)
  obtain ⟨r, hr, -⟩ := exists_findRegion h h1 h2
  rw [hr]
  rfl

/-- What is left of the room behind its first `n` bytes. -/
theorem room_drop {regions : List GuestRegion} : ∀ {addr len n : Nat}, n ≤ room regions addr len →
    room regions (addr + n) (len - n) = room regions addr len - n := by
  intro addr len n
  induction n generalizing addr len with
  | zero => exact fun _ => rfl
  | succ n ih =>
    intro hle
    cases len with
    | zero =>
      rw [room] at hle
      omega
    | succ len =>
      by_cases hmapped : (findRegion regions addr).isSome
      · rw [room, if_pos hmapped] at hle ⊢
        rw [Nat.add_sub_add_right, Nat.add_sub_add_right, Nat.add_comm n 1, ← Nat.add_assoc]
        exact ih (by omega)
      · rw [room, if_neg hmapped] at hle
        omega

/-- How many bytes of the range lie in the region of the first one. -/
def piece (regions : List GuestRegion) (addr len : Nat) : Nat :=
  match findRegion regions addr with
  | none => 0
  | some region => min (region.stop - addr) len

theorem piece_of_some {regions : List GuestRegion} {addr : Nat} {region : GuestRegion} (len : Nat)
    (h : findRegion regions addr = some region) :
    piece regions addr len = min (region.stop - addr) len := by
  rw [piece, h]

theorem piece_pos {regions : List GuestRegion} {addr len : Nat} {region : GuestRegion}
    (h : findRegion regions addr = some region) (hlen : 0 < len) : 0 < piece regions addr len := by
  obtain ⟨-, -, hstop⟩ := findRegion_eq_some h
  rw [piece_of_some len h]
  omega

theorem piece_le_room (regions : List GuestRegion) (addr len : Nat) :
    piece regions addr len ≤ room regions addr len := by
  cases h : findRegion regions addr with
  | none => rw [piece, h]; exact Nat.zero_le _
  | some region =>
    rw [piece_of_some len h]
    refine le_room (Nat.min_le_right _ _) fun a h1 h2 => ?_
    obtain ⟨hmem, haddr, -⟩ := findRegion_eq_some h
    unfold findRegion
    rw [List.find?_isSome]
    exact ⟨region, hmem, decide_eq_true ⟨Nat.le_trans haddr h1, by omega⟩⟩

/-! ### The access loop -/

inductive GuestMemoryError
  | invalidGuestAddress
  | ioError
  deriving DecidableEq

section

variable {σ : Type}

/-- The loop of `try_access`, with `total` of the `count` bytes done.  Every turn that does not end
it moves on by at least a byte, so that `count` turns and one for an empty range are enough. -/
def tryAccessLoop (regions : List GuestRegion) (count : Nat)
    (f : (total len addr : Nat) → σ → Except GuestMemoryError Nat × σ) :
    (fuel total cur : Nat) → σ → Except GuestMemoryError Nat × σ
  | 0, total, _, s => (.ok total, s)
  | fuel + 1, total, cur, s =>
    match findRegion regions cur with
    | none => (if total = 0 then .error .invalidGuestAddress else .ok total, s)
    | some region =>
      match f total (min (region.stop - cur) (count - total)) cur s with
      | (.error e, s) => (.error e, s)
      | (.ok 0, s) => (.ok total, s)
      | (.ok (n + 1), s) =>
        if total + (n + 1) = count then (.ok (total + (n + 1)), s)
        else tryAccessLoop regions count f fuel (total + (n + 1)) (cur + (n + 1)) s

/-- `GuestMemory::try_access`. -/
def tryAccess (regions : List GuestRegion) (count addr : Nat)
    (f : (total len addr : Nat) → σ → Except GuestMemoryError Nat × σ) (s : σ) :
    Except GuestMemoryError Nat × σ :=
  tryAccessLoop regions count f (count + 1) 0 addr s

theorem tryAccessLoop_frame {regions : List GuestRegion} {count : Nat}
    {f : (total len addr : Nat) → σ → Except GuestMemoryError Nat × σ} {R : σ → Prop}
    (hf : ∀ total len addr s, R s → R (f total len addr s).2) :
    ∀ (fuel total cur : Nat) (s : σ), R s → R (tryAccessLoop regions count f fuel total cur s).2 := by
  intro fuel
  induction fuel with
  | zero => exact fun _ _ _ h => h
  | succ fuel ih =>
    intro total cur s h
    rw [tryAccessLoop]
    split
    case h_1 => exact h
    case h_2 region _ =>
      have hnext := hf total (min (region.stop - cur) (count - total)) cur s h
      split
      case h_1 hout => rw [hout] at hnext; exact hnext
      case h_2 hout => rw [hout] at hnext; exact hnext
      case h_3 hout =>
        rw [hout] at hnext
        split
        case isTrue => exact hnext
        case isFalse => exact ih _ _ _ hnext

/-- **The frame rule of `try_access`**: what the closure keeps is kept, on any range and with any
result. -/
theorem tryAccess_frame {regions : List GuestRegion} {count : Nat}
    {f : (total len addr : Nat) → σ → Except GuestMemoryError Nat × σ} {R : σ → Prop}
    (hf : ∀ total len addr s, R s → R (f total len addr s).2) (addr : Nat) {s : σ} (h : R s) :
    R (tryAccess regions count addr f s).2 :=
  tryAccessLoop_frame hf (count + 1) 0 addr s h

/-- What one call of the closure does, on a piece of `len` bytes behind the first `total`: it moves
on by at most `len` bytes and keeps `Inv`, or it stops there with `Stop`. -/
def Piece (Inv Stop : Nat → σ → Prop) (total len : Nat) (out : Except GuestMemoryError Nat × σ) :
    Prop :=
  ∃ n s', out = (.ok n, s') ∧ n ≤ len ∧ (n = 0 → Stop total s') ∧ (0 < n → Inv (total + n) s')

/-- The same of a closure that may fail. -/
def PieceOrFail (Inv Stop : Nat → σ → Prop) (Fail : GuestMemoryError → σ → Prop) (total len : Nat)
    (out : Except GuestMemoryError Nat × σ) : Prop :=
  Piece Inv Stop total len out ∨ ∃ e s', out = (.error e, s') ∧ Fail e s'

/-- How an access ends that can do `count` bytes. -/
def Ends (Inv Stop : Nat → σ → Prop) (Fail : GuestMemoryError → σ → Prop) (count : Nat)
    (out : Except GuestMemoryError Nat × σ) : Prop :=
  (∃ n s', out = (.ok n, s') ∧ (n = count ∧ 0 < n ∧ Inv n s' ∨ Stop n s')) ∨
    ∃ e s', out = (.error e, s') ∧ Fail e s'

variable {regions : List GuestRegion} {count addr : Nat} {Inv Stop : Nat → σ → Prop}
  {Fail : GuestMemoryError → σ → Prop}
  {f : (total len addr : Nat) → σ → Except GuestMemoryError Nat × σ}

theorem tryAccessLoop_ends
    (hf : ∀ total len s, Inv total s → len = piece regions (addr + total) (count - total) →
      0 < len ∨ count = 0 → total + len ≤ room regions addr count →
      PieceOrFail Inv Stop Fail total len (f total len (addr + total) s)) :
    ∀ (fuel total : Nat) (s : σ), Inv total s → total < count ∨ count = 0 →
      total ≤ room regions addr count → 0 < total ∨ (findRegion regions addr).isSome →
      count - total < fuel →
      Ends Inv Stop Fail (room regions addr count)
        (tryAccessLoop regions count f fuel total (addr + total) s) := by
  intro fuel
  induction fuel with
  | zero => intro total s _ _ _ _ hfuel; omega
  | succ fuel ih =>
    intro total s hinv hlt hroom hstart hfuel
    have hdrop := room_drop hroom
    rw [tryAccessLoop]
    cases hfind : findRegion regions (addr + total) with
    | none =>
      -- the range is not mapped any further
      rw [room_of_none _ hfind] at hdrop
      have hpos : 0 < total := by
        rcases hstart with hpos | hsome
        · exact hpos
        · refine Nat.pos_of_ne_zero fun hz => ?_
          rw [hz, Nat.add_zero] at hfind
          rw [hfind] at hsome
          cases hsome
      simp only [if_neg (Nat.ne_of_gt hpos)]
      exact Or.inl ⟨total, s, rfl, Or.inl ⟨by omega, hpos, hinv⟩⟩
    | some region =>
      have hle := piece_le_room regions (addr + total) (count - total)
      have hpos : 0 < piece regions (addr + total) (count - total) ∨ count = 0 :=
        hlt.imp_left fun hlt => piece_pos hfind (by omega)
      dsimp only
      rw [← piece_of_some (count - total) hfind]
      rcases hf total (piece regions (addr + total) (count - total)) s hinv rfl hpos (by omega) with
        ⟨n, s', hout, hn, hzero, hpos⟩ | ⟨e, s', hout, hfail⟩
      · rw [hout]
        cases n with
        | zero => exact Or.inl ⟨total, s', rfl, Or.inr (hzero rfl)⟩
        | succ n =>
          have hinv' := hpos (Nat.succ_pos n)
          have hall := room_le regions addr count
          dsimp only
          split
          · rename_i hdone
            exact Or.inl ⟨_, s', rfl, Or.inl ⟨by omega, by omega, hinv'⟩⟩
          · rename_i hmore
            rw [Nat.add_assoc]
            exact ih (total + (n + 1)) s' hinv' (by omega) (by omega) (by omega) (by omega)
      · rw [hout]
        exact Or.inr ⟨e, s', rfl, hfail⟩

/-- **The invariant rule of `try_access`**, on a range that begins inside the memory.  An empty piece
comes from an empty range alone. -/
theorem tryAccess_ends (hstart : (findRegion regions addr).isSome)
    (hf : ∀ total len s, Inv total s → len = piece regions (addr + total) (count - total) →
      0 < len ∨ count = 0 → total + len ≤ room regions addr count →
      PieceOrFail Inv Stop Fail total len (f total len (addr + total) s)) {s : σ} (h0 : Inv 0 s) :
    Ends Inv Stop Fail (room regions addr count) (tryAccess regions count addr f s) :=
  tryAccessLoop_ends hf (count + 1) 0 s h0 (by omega) (Nat.zero_le _) (Or.inr hstart) (by omega)

/-- An empty range inside the memory: the closure is called once. -/
theorem tryAccess_empty (f : (total len addr : Nat) → σ → Except GuestMemoryError Nat × σ)
    (hstart : (findRegion regions addr).isSome) (s : σ) {t : σ} (hf : f 0 0 addr s = (.ok 0, t)) :
    tryAccess regions 0 addr f s = (.ok 0, t) := by
  obtain ⟨region, hregion⟩ := Option.isSome_iff_exists.mp hstart
  rw [tryAccess, tryAccessLoop, hregion]
  simp only [Nat.sub_self, Nat.min_zero, hf]

/-- A range that begins outside the memory. -/
theorem tryAccess_outside (f : (total len addr : Nat) → σ → Except GuestMemoryError Nat × σ)
    (count : Nat) (h : findRegion regions addr = none) (s : σ) :
    tryAccess regions count addr f s = (.error .invalidGuestAddress, s) := by
  rw [tryAccess, tryAccessLoop, h]
  rfl

/-- **The rule on a range inside the memory**: the whole range is done and `Inv` holds for it, or the
closure stopped it earlier. -/
theorem tryAccess_rule (hin : Inside regions addr count) (hpos : 0 < count)
    (hf : ∀ total len s, Inv total s → 0 < len → total + len ≤ count →
      Piece Inv Stop total len (f total len (addr + total) s)) {s : σ} (h0 : Inv 0 s) :
    ∃ n s', tryAccess regions count addr f s = (.ok n, s') ∧
      (n = count ∧ Inv n s' ∨ Stop n s') := by
  obtain ⟨r, hr, -⟩ := exists_findRegion hin (Nat.le_refl addr) (by omega)
  have hroom := room_of_inside hin
  have hends : Ends Inv Stop (fun _ _ => False) (room regions addr count)
      (tryAccess regions count addr f s) := by
    refine tryAccess_ends (by rw [hr]; rfl) (fun total len s hinv _ hlen hle => Or.inl ?_) h0
    exact hf total len s hinv (by omega) (by omega)
  rw [hroom] at hends
  rcases hends with ⟨n, s', hout, ⟨hn, -, hinv⟩ | hstop⟩ | ⟨-, -, -, hfail⟩
  · exact ⟨n, s', hout, Or.inl ⟨hn, hinv⟩⟩
  · exact ⟨n, s', hout, Or.inr hstop⟩
  · exact hfail.elim

end

end VirtioPoc.Virtio
