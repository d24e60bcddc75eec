import Mathlib.Data.Nat.Log
import Mathlib.Data.Nat.Bitwise
import Mathlib.Tactic.IntervalCases

/-!
# Packing an event token into a `u64`

`event_token_derive/src/lib.rs` generates, for an `enum`, the three items of
`EventToken`: `USED_BITS`, `as_raw_token` and `from_raw_token`.  A token type is
described here by what the derive macro sees: one of the types with an
implementation in `event_manager`, or an enum, the list of its variants each a
unit variant or one with a field.  `usedBits`, `asRawToken` and `fromRawToken`
are the generated code, as functions of that description.

The packing of an enum puts the index of the variant into the low
`variantBits` bits and the field above them.  `unpack` is the one fact about
bits the round trip needs: below `2 ^ 64` the low bits of
`index ||| (data <<< bits)` are the index and the rest is the data.  The round
trip is then an induction on the value.
-/

namespace VirtioPoc.EventManager

mutual

/-- A type that implements `EventToken`.  `uint bits` is `UInt<_, bits>` of
`arbitrary_int`, whose width is at most that of its backing type. -/
inductive TokenType
  | unit
  | u8
  | u16
  | u32
  | u64
  | usize
  | uint (bits : Nat) (le : bits ≤ 64)
  | enum (variants : Variants)

/-- The variants of an enum, in the order of its definition. -/
inductive Variants
  | nil
  | unit (rest : Variants)
  | data (field : TokenType) (rest : Variants)

end

def Variants.len : Variants → Nat
  | .nil => 0
  | .unit rest => rest.len + 1
  | .data _ rest => rest.len + 1

mutual

/-- The values of a token type. -/
inductive Token : TokenType → Type
  | unit : Token .unit
  | u8 (n : UInt8) : Token .u8
  | u16 (n : UInt16) : Token .u16
  | u32 (n : UInt32) : Token .u32
  | u64 (n : UInt64) : Token .u64
  | usize (n : UInt64) : Token .usize
  | uint {bits : Nat} {le : bits ≤ 64} (n : UInt64) (lt : n.toNat < 2 ^ bits) : Token (.uint bits le)
  | enum {variants : Variants} (v : VariantOf variants) : Token (.enum variants)

/-- A value of one of the variants: the first one, or one behind it. -/
inductive VariantOf : Variants → Type
  | unit {rest : Variants} : VariantOf (.unit rest)
  | data {field : TokenType} {rest : Variants} (d : Token field) : VariantOf (.data field rest)
  | skipUnit {rest : Variants} (v : VariantOf rest) : VariantOf (.unit rest)
  | skipData {field : TokenType} {rest : Variants} (v : VariantOf rest) :
      VariantOf (.data field rest)

end

/-! ### The generated code -/

/-- `usize::next_power_of_two`: the smallest power of two that is not below `n`. -/
def nextPowerOfTwo (n : Nat) : Nat := 2 ^ Nat.clog 2 n

/-- `trailing_zeros` of a word of `bits` bits. -/
def trailingZeros : (bits n : Nat) → Nat
  | 0, _ => 0
  | bits + 1, n => if n % 2 = 1 then 0 else trailingZeros bits (n / 2) + 1

/-- The number of bits for the index of a variant, from the number of variants. -/
def variantBits (numVariants : Nat) : Nat :=
  if numVariants = 0 then 0 else trailingZeros 64 (nextPowerOfTwo numVariants)

/-- `((1 << variant_bits) - 1) as u64`, where `1` is an `i32`. -/
def variantMask (bits : Nat) : UInt64 :=
  ⟨((1#32 <<< bits) - 1#32).signExtend 64⟩

mutual

/-- `USED_BITS`; `none` is the compile-time `panic!` of the check on a field. -/
def usedBits : TokenType → Option Nat
  | .unit => some 0
  | .u8 => some 8
  | .u16 => some 16
  | .u32 => some 32
  | .u64 => some 64
  | .usize => some 64
  | .uint bits _ => some bits
  | .enum variants =>
    match maximum (64 - variantBits variants.len) variants with
    | none => none
    | some max => some (max + variantBits variants.len)

/-- The maximum of the fields' `USED_BITS`, each at most `maxAllowedBits`. -/
def maximum (maxAllowedBits : Nat) : Variants → Option Nat
  | .nil => some 0
  | .unit rest => maximum maxAllowedBits rest
  | .data field rest =>
    match usedBits field, maximum maxAllowedBits rest with
    | some used, some max => if used ≤ maxAllowedBits then some (Nat.max used max) else none
    | _, _ => none

end

mutual

def asRawToken {t : TokenType} : Token t → UInt64
  | .unit => 0
  | .u8 n => n.toUInt64
  | .u16 n => n.toUInt64
  | .u32 n => n.toUInt64
  | .u64 n => n
  | .usize n => n
  | .uint n _ => n
  | @Token.enum variants v => variantAsRaw (variantBits variants.len) 0 v

/-- The match arms of `as_raw_token`, the first of them with the given index. -/
def variantAsRaw {vs : Variants} (bits index : Nat) : VariantOf vs → UInt64
  | .unit => UInt64.ofNat index
  | .data d => UInt64.ofNat index ||| (asRawToken d <<< UInt64.ofNat bits)
  | .skipUnit v => variantAsRaw bits (index + 1) v
  | .skipData v => variantAsRaw bits (index + 1) v

end

mutual

/-- `from_raw_token`; `none` is `unreachable!()` or the `unwrap` of a failed `try_from`. -/
def fromRawToken (t : TokenType) (data : UInt64) : Option (Token t) :=
  match t with
  | .unit => some .unit
  | .u8 => some (.u8 data.toUInt8)
  | .u16 => some (.u16 data.toUInt16)
  | .u32 => some (.u32 data.toUInt32)
  | .u64 => some (.u64 data)
  | .usize => some (.usize data)
  | .uint bits _ => if h : data.toNat < 2 ^ bits then some (.uint data h) else none
  | .enum variants =>
    (variantFromRaw variants (variantBits variants.len) 0 data).map Token.enum

/-- The match arms of `from_raw_token`, the first of them with the given index. -/
def variantFromRaw (vs : Variants) (bits index : Nat) (data : UInt64) : Option (VariantOf vs) :=
  match vs with
  | .nil => none
  | .unit rest =>
    if data &&& variantMask bits = UInt64.ofNat index then some .unit
    else (variantFromRaw rest bits (index + 1) data).map VariantOf.skipUnit
  | .data field rest =>
    if data &&& variantMask bits = UInt64.ofNat index then
      (fromRawToken field (data >>> UInt64.ofNat bits)).map VariantOf.data
    else (variantFromRaw rest bits (index + 1) data).map VariantOf.skipData

end

/-! ### The bits of one level -/

theorem trailingZeros_two_pow : ∀ (bits k : Nat), k < bits → trailingZeros bits (2 ^ k) = k := by
  intro bits
  induction bits with
  | zero => intro k h; omega
  | succ bits ih =>
    intro k h
    cases k with
    | zero => simp [trailingZeros]
    | succ k =>
      have hodd : ¬ 2 ^ (k + 1) % 2 = 1 := by rw [pow_succ]; omega
      have hhalf : 2 ^ (k + 1) / 2 = 2 ^ k := by rw [pow_succ]; omega
      rw [trailingZeros, if_neg hodd, hhalf, ih k (by omega)]

/-- The variant bits are enough for the index of every variant. -/
theorem variantBits_spec {n : Nat} (h : n < 2 ^ 30) :
    n ≤ 2 ^ variantBits n ∧ variantBits n ≤ 30 := by
  have hclog : Nat.clog 2 n ≤ 30 := Nat.clog_le_of_le_pow (by omega)
  unfold variantBits
  split
  case isTrue h0 => subst h0; simp
  case isFalse h0 =>
    rw [nextPowerOfTwo, trailingZeros_two_pow 64 _ (by omega)]
    exact ⟨Nat.le_pow_clog (by omega) n, hclog⟩

theorem variantMask_toNat {bits : Nat} (h : bits ≤ 30) : (variantMask bits).toNat = 2 ^ bits - 1 := by
  interval_cases bits <;> rfl

theorem and_variantMask {bits : Nat} (h : bits ≤ 30) (x : UInt64) :
    (x &&& variantMask bits).toNat = x.toNat % 2 ^ bits := by
  rw [UInt64.toNat_and, variantMask_toNat h, Nat.and_two_pow_sub_one_eq_mod]

theorem toNat_ofNat_bits {bits : Nat} (h : bits ≤ 30) : (UInt64.ofNat bits).toNat % 64 = bits := by
  rw [UInt64.toNat_ofNat']
  omega

/-- The two parts of a raw token do not overlap, and nothing is shifted out. -/
theorem pack_toNat {bits index : Nat} {d : UInt64} (hbits : bits ≤ 30) (hindex : index < 2 ^ bits)
    (hfit : d.toNat * 2 ^ bits < 2 ^ 64) :
    (UInt64.ofNat index ||| (d <<< UInt64.ofNat bits)).toNat = 2 ^ bits * d.toNat + index := by
  have hpow : 2 ^ bits ≤ 2 ^ 30 := Nat.pow_le_pow_right (by omega) hbits
  have hi : (UInt64.ofNat index).toNat = index := by
    rw [UInt64.toNat_ofNat']
    exact Nat.mod_eq_of_lt (by omega)
  have hd : (d <<< UInt64.ofNat bits).toNat = 2 ^ bits * d.toNat := by
    rw [UInt64.toNat_shiftLeft, toNat_ofNat_bits hbits, Nat.shiftLeft_eq, Nat.mod_eq_of_lt hfit,
      Nat.mul_comm]
  rw [UInt64.toNat_or, hi, hd, Nat.or_comm, Nat.two_pow_add_eq_or_of_lt hindex]

/-- **What unpacking reads**: the index under the mask, the data above it. -/
theorem unpack {bits index : Nat} {d : UInt64} (hbits : bits ≤ 30) (hindex : index < 2 ^ bits)
    (hfit : d.toNat * 2 ^ bits < 2 ^ 64) :
    (UInt64.ofNat index ||| (d <<< UInt64.ofNat bits)) &&& variantMask bits = UInt64.ofNat index ∧
      (UInt64.ofNat index ||| (d <<< UInt64.ofNat bits)) >>> UInt64.ofNat bits = d := by
  have hpow : 2 ^ bits ≤ 2 ^ 30 := Nat.pow_le_pow_right (by omega) hbits
  constructor
  · apply UInt64.toNat_inj.mp
    rw [and_variantMask hbits, pack_toNat hbits hindex hfit, Nat.mul_add_mod,
      Nat.mod_eq_of_lt hindex, UInt64.toNat_ofNat']
    exact (Nat.mod_eq_of_lt (by omega)).symm
  · apply UInt64.toNat_inj.mp
    rw [UInt64.toNat_shiftRight, toNat_ofNat_bits hbits, pack_toNat hbits hindex hfit,
      Nat.shiftRight_eq_div_pow, Nat.mul_add_div (Nat.two_pow_pos bits),
      Nat.div_eq_of_lt hindex, Nat.add_zero]

/-- A unit variant is packed as its index alone. -/
theorem unpack_unit {bits index : Nat} (hbits : bits ≤ 30) (hindex : index < 2 ^ bits) :
    UInt64.ofNat index &&& variantMask bits = UInt64.ofNat index := by
  have h := (unpack (d := 0) hbits hindex (by simp)).1
  simpa using h

theorem ofNat_ne {i k : Nat} (hi : i < 2 ^ 64) (hk : k < 2 ^ 64) (h : i ≠ k) :
    UInt64.ofNat k ≠ UInt64.ofNat i := by
  intro he
  have := congrArg UInt64.toNat he
  rw [UInt64.toNat_ofNat', UInt64.toNat_ofNat', Nat.mod_eq_of_lt hi, Nat.mod_eq_of_lt hk] at this
  exact h this.symm

/-! ### Round trip -/

mutual

/-- Every enum in the type has fewer than `2 ^ 30` variants. -/
def TokenType.Small : TokenType → Prop
  | .enum variants => variants.len < 2 ^ 30 ∧ variants.Small
  | _ => True

def Variants.Small : Variants → Prop
  | .nil => True
  | .unit rest => rest.Small
  | .data field rest => field.Small ∧ rest.Small

end

mutual

/-- **No bit is shifted out** at any level of the value: each field's raw token,
shifted by the bits of its enum, is below `2 ^ 64`. -/
def ShiftsFit {t : TokenType} : Token t → Prop
  | @Token.enum variants v => VariantShiftsFit (variantBits variants.len) v
  | _ => True

def VariantShiftsFit {vs : Variants} (bits : Nat) : VariantOf vs → Prop
  | .unit => True
  | .data d => (asRawToken d).toNat * 2 ^ bits < 2 ^ 64 ∧ ShiftsFit d
  | .skipUnit v => VariantShiftsFit bits v
  | .skipData v => VariantShiftsFit bits v

end

/-- What one data variant adds to the check: its field is small enough, and the
maximum is at least as large. -/
theorem maximum_data {allowed max : Nat} {field : TokenType} {rest : Variants}
    (h : maximum allowed (.data field rest) = some max) :
    ∃ used maxRest, usedBits field = some used ∧ maximum allowed rest = some maxRest ∧
      used ≤ allowed ∧ max = Nat.max used maxRest := by
  rw [maximum] at h
  split at h
  case h_1 used maxRest hu hr =>
    split at h
    case isTrue hle => exact ⟨used, maxRest, hu, hr, hle, (Option.some.inj h).symm⟩
    case isFalse => cases h
  case h_2 => cases h

/-- The index of a variant behind the first one is another one. -/
theorem skipped_arm {bits index k : Nat} {raw : UInt64} (hb : bits ≤ 30) (hk : index + 1 ≤ k)
    (hlt : k < 2 ^ bits) (hraw : raw &&& variantMask bits = UInt64.ofNat k) :
    ¬ raw &&& variantMask bits = UInt64.ofNat index := by
  have hpow : 2 ^ bits ≤ 2 ^ 30 := Nat.pow_le_pow_right (by omega) hb
  rw [hraw]
  exact ofNat_ne (by omega) (by omega) (by omega)

mutual

/-- **The round trip of a token**: its raw value fits `USED_BITS`, no bit is
shifted out on the way, and reading it back gives the token. -/
theorem fromRaw_asRaw {t : TokenType} : ∀ (v : Token t) {n : Nat},
    usedBits t = some n → t.Small → (asRawToken v).toNat < 2 ^ n ∧ ShiftsFit v ∧
      fromRawToken t (asRawToken v) = some v
  | .unit, n, hu, _ => by
    cases hu
    exact ⟨by decide, trivial, rfl⟩
  | .u8 x, n, hu, _ => by
    cases hu
    exact ⟨by simpa [asRawToken] using x.toNat_lt, trivial, by simp [asRawToken, fromRawToken]⟩
  | .u16 x, n, hu, _ => by
    cases hu
    exact ⟨by simpa [asRawToken] using x.toNat_lt, trivial, by simp [asRawToken, fromRawToken]⟩
  | .u32 x, n, hu, _ => by
    cases hu
    exact ⟨by simpa [asRawToken] using x.toNat_lt, trivial, by simp [asRawToken, fromRawToken]⟩
  | .u64 x, n, hu, _ => by
    cases hu
    exact ⟨x.toNat_lt, trivial, rfl⟩
  | .usize x, n, hu, _ => by
    cases hu
    exact ⟨x.toNat_lt, trivial, rfl⟩
  | .uint x lt, n, hu, _ => by
    cases hu
    exact ⟨lt, trivial, dif_pos lt⟩
  | @Token.enum variants v, n, hu, hs => by
    obtain ⟨hle, hbits⟩ := variantBits_spec hs.1
    rw [usedBits] at hu
    cases hm : maximum (64 - variantBits variants.len) variants with
    | none => rw [hm] at hu; cases hu
    | some max =>
      rw [hm] at hu
      obtain rfl := Option.some.inj hu
      obtain ⟨hlt, hfit, _, hback⟩ := variantFromRaw_variantAsRaw v 0 hm hs.2 hbits (by omega)
      refine ⟨hlt, hfit, ?_⟩
      rw [fromRawToken, asRawToken, hback]
      rfl

/-- **The round trip through the match arms** from `index` on. -/
theorem variantFromRaw_variantAsRaw {vs : Variants} : ∀ (v : VariantOf vs) {bits : Nat}
    (index : Nat) {max : Nat}, maximum (64 - bits) vs = some max → vs.Small → bits ≤ 30 →
    index + vs.len ≤ 2 ^ bits →
      (variantAsRaw bits index v).toNat < 2 ^ (max + bits) ∧ VariantShiftsFit bits v ∧
      (∃ k, index ≤ k ∧ k < 2 ^ bits ∧
        variantAsRaw bits index v &&& variantMask bits = UInt64.ofNat k) ∧
      variantFromRaw vs bits index (variantAsRaw bits index v) = some v
  | .unit, bits, index, max, hm, _, hb, hlen => by
    rw [Variants.len] at hlen
    have hidx : index < 2 ^ bits := by omega
    have hmask := unpack_unit hb hidx
    refine ⟨?_, trivial, ⟨index, le_rfl, hidx, hmask⟩, ?_⟩
    · have hpow : 2 ^ bits ≤ 2 ^ (max + bits) := Nat.pow_le_pow_right (by omega) (by omega)
      rw [variantAsRaw, UInt64.toNat_ofNat']
      exact lt_of_le_of_lt (Nat.mod_le _ _) (by omega)
    · rw [variantAsRaw, variantFromRaw, if_pos hmask]
  | @VariantOf.data field _ d, bits, index, max, hm, hs, hb, hlen => by
    rw [Variants.len] at hlen
    have hidx : index < 2 ^ bits := by omega
    obtain ⟨used, maxRest, hu, _, hle, rfl⟩ := maximum_data hm
    obtain ⟨hlt, hfit, hback⟩ := fromRaw_asRaw d hu hs.1
    -- the field's bits and the variant bits fit one word
    have hshift : (asRawToken d).toNat * 2 ^ bits < 2 ^ 64 := by
      calc (asRawToken d).toNat * 2 ^ bits < 2 ^ used * 2 ^ bits :=
            Nat.mul_lt_mul_of_pos_right hlt (Nat.two_pow_pos bits)
        _ = 2 ^ (used + bits) := (Nat.pow_add 2 used bits).symm
        _ ≤ 2 ^ 64 := Nat.pow_le_pow_right (by omega) (by omega)
    obtain ⟨hmask, hdata⟩ := unpack hb hidx hshift
    refine ⟨?_, ⟨hshift, hfit⟩, ⟨index, le_rfl, hidx, hmask⟩, ?_⟩
    · rw [variantAsRaw, pack_toNat hb hidx hshift]
      calc 2 ^ bits * (asRawToken d).toNat + index
            < 2 ^ bits * ((asRawToken d).toNat + 1) := by rw [Nat.mul_add]; omega
        _ ≤ 2 ^ bits * 2 ^ used := Nat.mul_le_mul_left _ hlt
        _ = 2 ^ (used + bits) := by rw [← Nat.pow_add, Nat.add_comm]
        _ ≤ 2 ^ (Nat.max used maxRest + bits) :=
            Nat.pow_le_pow_right (by omega) (Nat.add_le_add_right (Nat.le_max_left _ _) _)
    · rw [variantAsRaw, variantFromRaw, if_pos hmask, hdata, hback]
      rfl
  | .skipUnit v, bits, index, max, hm, hs, hb, hlen => by
    rw [Variants.len] at hlen
    obtain ⟨hlt, hfit, ⟨k, hk, hkb, hmask⟩, hback⟩ := variantFromRaw_variantAsRaw v
      (index + 1) hm hs hb (by omega)
    refine ⟨hlt, hfit, ⟨k, by omega, hkb, hmask⟩, ?_⟩
    rw [variantAsRaw, variantFromRaw, if_neg (skipped_arm hb hk hkb hmask), hback]
    rfl
  | @VariantOf.skipData field _ v, bits, index, max, hm, hs, hb, hlen => by
    rw [Variants.len] at hlen
    obtain ⟨used, maxRest, _, hr, _, rfl⟩ := maximum_data hm
    obtain ⟨hlt, hfit, ⟨k, hk, hkb, hmask⟩, hback⟩ := variantFromRaw_variantAsRaw v
      (index + 1) hr hs.2 hb (by omega)
    refine ⟨?_, hfit, ⟨k, by omega, hkb, hmask⟩, ?_⟩
    · exact lt_of_lt_of_le hlt
        (Nat.pow_le_pow_right (by omega) (Nat.add_le_add_right (Nat.le_max_right _ _) _))
    · rw [variantAsRaw, variantFromRaw, if_neg (skipped_arm hb hk hkb hmask), hback]
      rfl

end

/-- **Deriving `EventToken` packs without loss.**  For a type whose compile-time
check passes, every token's raw value is below `2 ^ USED_BITS`, no bit is shifted
out, `from_raw_token` gives the token back, and distinct tokens have distinct
raw values. -/
theorem eventToken_lossless {t : TokenType} {n : Nat} (hu : usedBits t = some n) (hs : t.Small) :
    (∀ v : Token t, (asRawToken v).toNat < 2 ^ n ∧ ShiftsFit v ∧
      fromRawToken t (asRawToken v) = some v) ∧
    ∀ v w : Token t, asRawToken v = asRawToken w → v = w := by
  refine ⟨fun v => fromRaw_asRaw v hu hs, fun v w h => ?_⟩
  have hv := (fromRaw_asRaw v hu hs).2.2
  have hw := (fromRaw_asRaw w hu hs).2.2
  rw [h, hw] at hv
  exact (Option.some.inj hv).symm

/-- The type `TokL2` of the tests: two variants, each with a `u32`. -/
def tokL2 : TokenType := .enum (.data .u32 (.data .u32 .nil))

theorem eventToken_lossless_tokL2 :
    (∀ v : Token tokL2, (asRawToken v).toNat < 2 ^ 33 ∧ ShiftsFit v ∧
      fromRawToken tokL2 (asRawToken v) = some v) ∧
    ∀ v w : Token tokL2, asRawToken v = asRawToken w → v = w :=
  eventToken_lossless (by decide) ⟨by decide, trivial, trivial, trivial⟩

end VirtioPoc.EventManager
