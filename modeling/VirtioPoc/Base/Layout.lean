import Mathlib.Data.Fin.Tuple.Basic
import Mathlib.Logic.Equiv.Fin.Basic
import Mathlib.Tactic.Ring

/-!
# Fixed-size little-endian layouts

A `Layout α` lays the values of `α` out in a fixed number of bytes, so that
every string of that many bytes is the layout of exactly one value: the
`ByteValued` of a packed `repr(C)` struct.  Words are little-endian; products,
arrays and structs (through an equivalence with a product) are built from them,
and carry their laws with them.

`Layout.read` takes one value off the front of a byte string, `Layout.readMany`
a given number of them.  Both are determined by an equivalence: reading gives
`a` and leaves `rest` exactly when the input is the layout of `a` followed by
`rest`, and it fails exactly when the input is too short.
-/

namespace VirtioPoc.Base

/-! ### Little-endian digits -/

/-- The `n` low bytes of `x`, the lowest first. -/
def leBytes : (n x : Nat) → List UInt8
  | 0, _ => []
  | n + 1, x => UInt8.ofNat x :: leBytes n (x / 256)

def ofLeBytes : List UInt8 → Nat
  | [] => 0
  | b :: bs => b.toNat + 256 * ofLeBytes bs

@[simp] theorem length_leBytes : ∀ n x : Nat, (leBytes n x).length = n := by
  intro n
  induction n with
  | zero => intro _; rfl
  | succ n ih => intro x; rw [leBytes, List.length_cons, ih]

theorem ofLeBytes_lt : ∀ bs : List UInt8, ofLeBytes bs < 256 ^ bs.length := by
  intro bs
  induction bs with
  | nil => decide
  | cons b bs ih =>
    have hb := b.toNat_lt
    rw [ofLeBytes, List.length_cons, pow_succ]
    omega

theorem ofLeBytes_leBytes : ∀ n x : Nat, x < 256 ^ n → ofLeBytes (leBytes n x) = x := by
  intro n
  induction n with
  | zero => intro x h; rw [pow_zero] at h; rw [leBytes, ofLeBytes]; omega
  | succ n ih =>
    intro x h
    rw [pow_succ] at h
    rw [leBytes, ofLeBytes, ih (x / 256) (by omega), UInt8.toNat_ofNat']
    omega

theorem leBytes_ofLeBytes : ∀ bs : List UInt8, leBytes bs.length (ofLeBytes bs) = bs := by
  intro bs
  induction bs with
  | nil => rfl
  | cons b bs ih =>
    have hb := b.toNat_lt
    have hlow : UInt8.ofNat (b.toNat + 256 * ofLeBytes bs) = b := by
      apply UInt8.toNat_inj.mp
      rw [UInt8.toNat_ofNat']
      omega
    have hhigh : (b.toNat + 256 * ofLeBytes bs) / 256 = ofLeBytes bs := by omega
    rw [ofLeBytes, List.length_cons, leBytes, hlow, hhigh, ih]

theorem leBytes_ofLeBytes_mod {n w : Nat} (hw : 2 ^ w = 256 ^ n) {bs : List UInt8}
    (h : bs.length = n) : leBytes n (ofLeBytes bs % 2 ^ w) = bs := by
  have hlt := ofLeBytes_lt bs
  rw [h, ← hw] at hlt
  rw [Nat.mod_eq_of_lt hlt, ← h, leBytes_ofLeBytes]

/-! ### Layouts -/

/-- A bijection between `α` and the byte strings of length `size`. -/
structure Layout (α : Type) where
  size : Nat
  toBytes : α → List UInt8
  ofBytes : List UInt8 → α
  length_toBytes : ∀ a, (toBytes a).length = size
  ofBytes_toBytes : ∀ a, ofBytes (toBytes a) = a
  toBytes_ofBytes : ∀ bs, bs.length = size → toBytes (ofBytes bs) = bs

namespace Layout

variable {α β : Type}

def unit : Layout Unit where
  size := 0
  toBytes _ := []
  ofBytes _ := ()
  length_toBytes _ := rfl
  ofBytes_toBytes _ := rfl
  toBytes_ofBytes _ h := (List.length_eq_zero_iff.mp h).symm

def u8 : Layout UInt8 where
  size := 1
  toBytes x := leBytes 1 x.toNat
  ofBytes bs := UInt8.ofNat (ofLeBytes bs)
  length_toBytes x := length_leBytes 1 x.toNat
  ofBytes_toBytes x := by rw [ofLeBytes_leBytes 1 _ x.toNat_lt, UInt8.ofNat_toNat]
  toBytes_ofBytes bs h := by rw [UInt8.toNat_ofNat', leBytes_ofLeBytes_mod rfl h]

def u16 : Layout UInt16 where
  size := 2
  toBytes x := leBytes 2 x.toNat
  ofBytes bs := UInt16.ofNat (ofLeBytes bs)
  length_toBytes x := length_leBytes 2 x.toNat
  ofBytes_toBytes x := by rw [ofLeBytes_leBytes 2 _ x.toNat_lt, UInt16.ofNat_toNat]
  toBytes_ofBytes bs h := by rw [UInt16.toNat_ofNat', leBytes_ofLeBytes_mod rfl h]

/-- `Le32`. -/
def u32 : Layout UInt32 where
  size := 4
  toBytes x := leBytes 4 x.toNat
  ofBytes bs := UInt32.ofNat (ofLeBytes bs)
  length_toBytes x := length_leBytes 4 x.toNat
  ofBytes_toBytes x := by rw [ofLeBytes_leBytes 4 _ x.toNat_lt, UInt32.ofNat_toNat]
  toBytes_ofBytes bs h := by rw [UInt32.toNat_ofNat', leBytes_ofLeBytes_mod rfl h]

/-- `Le64`. -/
def u64 : Layout UInt64 where
  size := 8
  toBytes x := leBytes 8 x.toNat
  ofBytes bs := UInt64.ofNat (ofLeBytes bs)
  length_toBytes x := length_leBytes 8 x.toNat
  ofBytes_toBytes x := by rw [ofLeBytes_leBytes 8 _ x.toNat_lt, UInt64.ofNat_toNat]
  toBytes_ofBytes bs h := by rw [UInt64.toNat_ofNat', leBytes_ofLeBytes_mod rfl h]

/-- One value after the other. -/
def prod (l : Layout α) (m : Layout β) : Layout (α × β) where
  size := l.size + m.size
  toBytes p := l.toBytes p.1 ++ m.toBytes p.2
  ofBytes bs := (l.ofBytes (bs.take l.size), m.ofBytes (bs.drop l.size))
  length_toBytes p := by rw [List.length_append, l.length_toBytes, m.length_toBytes]
  ofBytes_toBytes p := by
    rw [List.take_left' (l.length_toBytes p.1), List.drop_left' (l.length_toBytes p.1),
      l.ofBytes_toBytes, m.ofBytes_toBytes]
  toBytes_ofBytes bs h := by
    rw [l.toBytes_ofBytes _ (by rw [List.length_take]; omega),
      m.toBytes_ofBytes _ (by rw [List.length_drop]; omega), List.take_append_drop]

/-- The layout of a struct, from that of the tuple of its fields. -/
def iso (l : Layout α) (e : α ≃ β) : Layout β where
  size := l.size
  toBytes b := l.toBytes (e.symm b)
  ofBytes bs := e (l.ofBytes bs)
  length_toBytes b := l.length_toBytes _
  ofBytes_toBytes b := by rw [l.ofBytes_toBytes, e.apply_symm_apply]
  toBytes_ofBytes bs h := by rw [e.symm_apply_apply, l.toBytes_ofBytes bs h]

/-- `[T; n]`. -/
def array (l : Layout α) : (n : Nat) → Layout (Fin n → α)
  | 0 => unit.iso ⟨fun _ => Fin.elim0, fun _ => (), fun _ => rfl, fun _ => funext fun i => i.elim0⟩
  | n + 1 => (l.prod (l.array n)).iso (Fin.consEquiv fun _ => α)

theorem size_prod (l : Layout α) (m : Layout β) : (l.prod m).size = l.size + m.size := rfl

theorem size_iso (l : Layout α) (e : α ≃ β) : (l.iso e).size = l.size := rfl

@[simp] theorem size_array (l : Layout α) : ∀ n, (l.array n).size = n * l.size := by
  intro n
  induction n with
  | zero => exact (Nat.zero_mul _).symm
  | succ n ih =>
    show l.size + (l.array n).size = (n + 1) * l.size
    rw [ih]
    ring

theorem toBytes_prod (l : Layout α) (m : Layout β) (p : α × β) :
    (l.prod m).toBytes p = l.toBytes p.1 ++ m.toBytes p.2 := rfl

theorem toBytes_iso (l : Layout α) (e : α ≃ β) (b : β) : (l.iso e).toBytes b = l.toBytes (e.symm b) :=
  rfl

/-- An array is laid out element by element. -/
theorem toBytes_array (l : Layout α) : ∀ {n : Nat} (f : Fin n → α),
    (l.array n).toBytes f = (List.ofFn f).flatMap l.toBytes := by
  intro n
  induction n with
  | zero => intro f; rfl
  | succ n ih =>
    intro f
    show l.toBytes (f 0) ++ (l.array n).toBytes (Fin.tail f) = _
    rw [ih, List.ofFn_succ, List.flatMap_cons]
    rfl

/-! ### Reading -/

/-- `read_obj`: take one value off the front. -/
def read (l : Layout α) (bs : List UInt8) : Option (α × List UInt8) :=
  if bs.length < l.size then none else some (l.ofBytes (bs.take l.size), bs.drop l.size)

theorem read_append (l : Layout α) (a : α) (rest : List UInt8) :
    l.read (l.toBytes a ++ rest) = some (a, rest) := by
  have h : ¬ (l.toBytes a ++ rest).length < l.size := by
    rw [List.length_append, l.length_toBytes]
    omega
  rw [read, if_neg h, List.take_left' (l.length_toBytes a), List.drop_left' (l.length_toBytes a),
    l.ofBytes_toBytes]

theorem read_eq_some (l : Layout α) {bs rest : List UInt8} {a : α} :
    l.read bs = some (a, rest) ↔ bs = l.toBytes a ++ rest := by
  constructor
  · intro h
    unfold read at h
    split at h
    case isTrue => cases h
    case isFalse hlen =>
      obtain ⟨rfl, rfl⟩ := Prod.mk.inj (Option.some.inj h)
      rw [l.toBytes_ofBytes _ (by rw [List.length_take]; omega), List.take_append_drop]
  · rintro rfl
    exact l.read_append a rest

theorem read_eq_none (l : Layout α) {bs : List UInt8} : l.read bs = none ↔ bs.length < l.size := by
  unfold read
  split <;> simp_all

/-- Take `n` values off the front, one after the other. -/
def readMany (l : Layout α) : Nat → List UInt8 → Option (List α × List UInt8)
  | 0, bs => some ([], bs)
  | n + 1, bs =>
    match l.read bs with
    | none => none
    | some (a, rest) =>
      match l.readMany n rest with
      | none => none
      | some (as, rest') => some (a :: as, rest')

theorem readMany_append (l : Layout α) : ∀ (as : List α) (rest : List UInt8),
    l.readMany as.length (as.flatMap l.toBytes ++ rest) = some (as, rest) := by
  intro as
  induction as with
  | nil => intro _; rfl
  | cons a as ih =>
    intro rest
    simp only [List.length_cons, readMany, List.flatMap_cons, List.append_assoc, l.read_append, ih]

theorem readMany_eq_some (l : Layout α) : ∀ {n : Nat} {bs rest : List UInt8} {as : List α},
    l.readMany n bs = some (as, rest) ↔ as.length = n ∧ bs = as.flatMap l.toBytes ++ rest := by
  intro n
  induction n with
  | zero =>
    intro bs rest as
    constructor
    · intro h
      obtain ⟨rfl, rfl⟩ := Prod.mk.inj (Option.some.inj h)
      exact ⟨rfl, rfl⟩
    · rintro ⟨h, rfl⟩
      obtain rfl := List.length_eq_zero_iff.mp h
      rfl
  | succ n ih =>
    intro bs rest as
    constructor
    · intro h
      rw [readMany] at h
      cases hr : l.read bs with
      | none => rw [hr] at h; cases h
      | some p =>
        obtain ⟨a, bs'⟩ := p
        rw [hr] at h
        cases hm : l.readMany n bs' with
        | none => simp only [hm] at h; cases h
        | some q =>
          obtain ⟨as', rest'⟩ := q
          simp only [hm] at h
          obtain ⟨rfl, rfl⟩ := Prod.mk.inj (Option.some.inj h)
          obtain ⟨rfl, rfl⟩ := ih.mp hm
          rw [l.read_eq_some] at hr
          subst hr
          exact ⟨rfl, by rw [List.flatMap_cons, List.append_assoc]⟩
    · rintro ⟨hlen, rfl⟩
      rw [← hlen]
      exact l.readMany_append as rest

theorem readMany_eq_none (l : Layout α) : ∀ {n : Nat} {bs : List UInt8},
    l.readMany n bs = none ↔ bs.length < n * l.size := by
  intro n
  induction n with
  | zero => intro bs; simp [readMany]
  | succ n ih =>
    intro bs
    have hmul : (n + 1) * l.size = n * l.size + l.size := by ring
    rw [readMany, hmul]
    cases hr : l.read bs with
    | none =>
      have := l.read_eq_none.mp hr
      simp only [true_iff]
      omega
    | some p =>
      obtain ⟨a, bs'⟩ := p
      have hbs := l.read_eq_some.mp hr
      have hlen : bs.length = l.size + bs'.length := by
        rw [hbs, List.length_append, l.length_toBytes]
      have hiff : bs.length < n * l.size + l.size ↔ bs'.length < n * l.size := by omega
      rw [hiff, ← ih]
      cases hm : l.readMany n bs' with
      | none => simp only [hm]
      | some q => obtain ⟨as', rest'⟩ := q; simp [hm]

theorem length_flatMap_toBytes (l : Layout α) : ∀ as : List α,
    (as.flatMap l.toBytes).length = as.length * l.size := by
  intro as
  induction as with
  | nil => simp
  | cons a as ih =>
    rw [List.flatMap_cons, List.length_append, ih, l.length_toBytes, List.length_cons]
    ring

end Layout

/-- `read_exact`: take `n` bytes off the front. -/
def readExact (n : Nat) (bs : List UInt8) : Option (List UInt8 × List UInt8) :=
  if bs.length < n then none else some (bs.take n, bs.drop n)

theorem readExact_eq_some {n : Nat} {bs out rest : List UInt8} :
    readExact n bs = some (out, rest) ↔ out.length = n ∧ bs = out ++ rest := by
  unfold readExact
  constructor
  · intro h
    split at h
    case isTrue => cases h
    case isFalse hlen =>
      obtain ⟨rfl, rfl⟩ := Prod.mk.inj (Option.some.inj h)
      exact ⟨by rw [List.length_take]; omega, (List.take_append_drop n bs).symm⟩
  · rintro ⟨rfl, rfl⟩
    rw [if_neg (by rw [List.length_append]; omega), List.take_left' rfl, List.drop_left' rfl]

theorem readExact_eq_none {n : Nat} {bs : List UInt8} : readExact n bs = none ↔ bs.length < n := by
  unfold readExact
  split <;> simp_all

end VirtioPoc.Base
