import VirtioPoc.Console.ChainUse

/-!
# One attempt at a chain of the output

Each write of `process_tx` offers a part of the readable bytes of a chain to the
output, and the output takes a first part of it or fails.

`try_access` forgets what a descriptor has written when a later write fails, and
the loop over the descriptors ends when nothing was written, which is also the
case for an empty descriptor.  A chain is put back when no descriptor was written
as a whole.  `pour` is what the output does with the bytes of a descriptor, and
`Reached` says what it does with one of the descriptors the loop comes to: the
two follow the write results, and not the worker.  `writeChain_offers` says what
the worker then offers.
-/

namespace VirtioPoc.Console

open Base Virtio

/-! ### Offers -/

namespace Offer

/-- The bytes that the output has taken. -/
def taken (o : Offer) : List UInt8 := o.result.toOption.getD []

def Offers (o : Offer) (p : Nat) : Prop := o.pos ≤ p ∧ p < o.pos + o.data.length

def Accepts (o : Offer) (p : Nat) : Prop := o.pos ≤ p ∧ p < o.pos + o.taken.length

/-- A write of some bytes has returned an error. -/
def Failed (o : Offer) : Prop := o.result = .error .other ∧ o.data ≠ []

instance (o : Offer) : Decidable o.Failed := inferInstanceAs (Decidable (_ ∧ _))

/-- The bytes are those that a chain with `bytes` has at the position, and the output has taken the
first of them. -/
def Of (o : Offer) (bytes : List UInt8) : Prop := o.data <+: bytes.drop o.pos ∧ o.taken <+: o.data

end Offer

/-- The calls of the loop in the closure: some that would block, and the one that does not. -/
def retried (k : Nat) (o : Offer) : List Offer :=
  List.replicate k { o with result := .error .wouldBlock } ++ [o]

/-- Nothing has been taken. -/
def NothingTaken (offers : List Offer) : Prop := ∀ o ∈ offers, o.taken = []

/-- The bytes from `lo` to `hi` have been accepted. -/
def AllAccepted (offers : List Offer) (lo hi : Nat) : Prop :=
  ∀ p, lo ≤ p → p < hi → ∃ o ∈ offers, o.Accepts p

theorem AllAccepted.extend {offers more : List Offer} {lo hi : Nat} (h : AllAccepted offers lo hi)
    (hinit : offers <+: more) : AllAccepted more lo hi := by
  intro p hlo hhi
  obtain ⟨o, ho, haccepts⟩ := h p hlo hhi
  exact ⟨o, hinit.subset ho, haccepts⟩

theorem AllAccepted.trans {offers : List Offer} {lo mid hi : Nat} (h : AllAccepted offers lo mid)
    (g : AllAccepted offers mid hi) : AllAccepted offers lo hi := by
  intro p hlo hhi
  by_cases hmid : p < mid
  · exact h p hlo hmid
  · exact g p (Nat.le_of_not_lt hmid) hhi

/-! ### The output and a descriptor -/

/-- How the access to a descriptor ends: all of it is written, a write takes no byte, or it fails. -/
inductive WriteEnd
  | whole
  | nothing
  | failed
  deriving DecidableEq

/-- What was taken of a descriptor, how that ended, and what the next writes meet. -/
structure Poured where
  taken : Nat
  stop : WriteEnd
  rest : List Outgoing

def Poured.behind (k : Nat) (p : Poured) : Poured := { p with taken := k + p.taken }

/-- What the output does with `len` mapped bytes.  A write offers those of one region. -/
def pour (regions : List GuestRegion) : (addr len : Nat) → List Outgoing → Poured
  | _, len, [] => ⟨len, if len = 0 then .nothing else .whole, []⟩
  | addr, len, .wouldBlock :: rest => pour regions addr len rest
  | _, _, .error :: rest => ⟨0, .failed, rest⟩
  | addr, len, .accept n :: rest =>
    let k := min n (piece regions addr len)
    if k = 0 then ⟨0, .nothing, rest⟩
    else if k = len then ⟨len, .whole, rest⟩
    else (pour regions (addr + k) (len - k) rest).behind k

theorem Poured.behind_behind (k n : Nat) (p : Poured) : (p.behind n).behind k = p.behind (k + n) := by
  rw [behind, behind, behind, Nat.add_assoc]

/-- The same for a descriptor, which may begin outside the memory. -/
def access (regions : List GuestRegion) (desc : Descriptor) (output : List Outgoing) : Poured :=
  match findRegion regions desc.addr with
  | none => ⟨0, .failed, output⟩
  | some _ => pour regions desc.addr desc.len output

/-- The loop over the descriptors comes to one that meets `P`. -/
def Reached (regions : List GuestRegion) (P : Descriptor → Poured → List Descriptor → Prop) :
    List Descriptor → List Outgoing → Prop
  | [], _ => False
  | desc :: descs, output =>
    P desc (access regions desc output) descs ∨
      (access regions desc output).stop ≠ .nothing ∧
        Reached regions P descs (access regions desc output).rest

instance decidableReached (regions : List GuestRegion)
    (P : Descriptor → Poured → List Descriptor → Prop) [∀ d p ds, Decidable (P d p ds)] :
    (descs : List Descriptor) → (output : List Outgoing) → Decidable (Reached regions P descs output)
  | [], _ => .isFalse id
  | _ :: descs, _ =>
    have := decidableReached regions P descs
    inferInstanceAs (Decidable (_ ∨ _ ∧ Reached regions P descs _))

section

variable (regions : List GuestRegion)

/-- A descriptor is written as a whole. -/
abbrev Wholly : List Descriptor → List Outgoing → Prop :=
  Reached regions fun _ p _ => p.stop = .whole

/-- A write fails behind bytes of the same descriptor that were taken. -/
abbrev FailsHalfway : List Descriptor → List Outgoing → Prop :=
  Reached regions fun _ p _ => p.stop = .failed ∧ 0 < p.taken

/-- A write takes nothing behind bytes of the same descriptor: the assertion fails. -/
abbrev Cut : List Descriptor → List Outgoing → Prop :=
  Reached regions fun _ p _ => p.stop = .nothing ∧ 0 < p.taken

/-- The loop ends with bytes left, at an empty descriptor or where the first write takes nothing. -/
abbrev EndsEarly : List Descriptor → List Outgoing → Prop :=
  Reached regions fun desc p descs => p.stop = .nothing ∧ p.taken = 0 ∧ 0 < sumLen (desc :: descs)

/-- A write of some bytes fails. -/
abbrev FailsOnBytes : List Descriptor → List Outgoing → Prop :=
  Reached regions fun desc p _ => p.stop = .failed ∧ 0 < desc.len

end

/-- **One write and its retries**, for the bytes of one region: what it offers, and what the output
then does with the rest of the descriptor. -/
theorem pour_of_write {regions : List GuestRegion} {addr want : Nat} {bytes : List UInt8}
    (chain pos : Nat) (hin : Inside regions addr want)
    (hlen : bytes.length = piece regions addr want) : ∀ output : List Outgoing, ∃ k output',
    (∃ data, data <+: bytes ∧ writeUntilDone chain pos bytes output =
        (.ok data, output', retried k ⟨chain, pos, bytes, .ok data⟩) ∧
      (data = [] → pour regions addr want output = ⟨0, .nothing, output'⟩) ∧
      (data ≠ [] → data.length = want → pour regions addr want output = ⟨want, .whole, output'⟩) ∧
      (data ≠ [] → data.length < want → pour regions addr want output =
        (pour regions (addr + data.length) (want - data.length) output').behind data.length)) ∨
    writeUntilDone chain pos bytes output =
        (.error .other, output', retried k ⟨chain, pos, bytes, .error .other⟩) ∧
      pour regions addr want output = ⟨0, .failed, output'⟩ := by
  intro output
  induction output with
  | nil =>
    refine ⟨0, [], Or.inl ⟨bytes, List.prefix_rfl, rfl, fun hnil => ?_, fun hne hall => ?_,
      fun hne hpart => ?_⟩⟩
    · have hzero : want = 0 := by
        rcases Nat.eq_zero_or_pos want with hzero | hpos
        · exact hzero
        · obtain ⟨region, hregion, -⟩ := exists_findRegion hin (Nat.le_refl addr) (by omega)
          have := piece_pos hregion hpos
          rw [hnil, List.length_nil] at hlen
          omega
      rw [hzero]
      rfl
    · have hpos := List.length_pos_iff.mpr hne
      rw [pour, if_neg (by omega)]
    · rw [pour, pour, if_neg (by omega), if_neg (by omega), Poured.behind]
      rw [Nat.add_sub_cancel' (Nat.le_of_lt hpart)]
  | cons o rest ih =>
    cases o with
    | wouldBlock =>
      obtain ⟨k, output', ⟨data, hdata, hout, hrest⟩ | ⟨hout, hrest⟩⟩ := ih
      · exact ⟨k + 1, output', Or.inl ⟨data, hdata, by rw [writeUntilDone, hout]; rfl, hrest⟩⟩
      · exact ⟨k + 1, output', Or.inr ⟨by rw [writeUntilDone, hout]; rfl, hrest⟩⟩
    | error => exact ⟨0, rest, Or.inr ⟨rfl, rfl⟩⟩
    | accept n =>
      have htaken : (bytes.take n).length = min n (piece regions addr want) := by
        rw [List.length_take, hlen]
      refine ⟨0, rest, Or.inl ⟨bytes.take n, List.take_prefix n bytes, rfl, fun hnil => ?_,
        fun hne hall => ?_, fun hne hpart => ?_⟩⟩
      · rw [hnil, List.length_nil] at htaken
        rw [pour, ← htaken]
        rfl
      · have hpos := List.length_pos_iff.mpr hne
        rw [pour, ← htaken]
        rw [if_neg (by omega), if_pos hall]
      · have hpos := List.length_pos_iff.mpr hne
        rw [pour, ← htaken]
        rw [if_neg (by omega), if_neg (by omega)]

/-! ### One attempt -/

/-- The writes for a chain with `bytes`, in an attempt that has come to `bound`. -/
structure Attempted (chain : Nat) (bytes : List UInt8) (bound : Nat) (offers : List Offer) : Prop where
  own : ∀ o ∈ offers, o.chain = chain ∧ o.Of bytes
  notRepeated : offers.Pairwise fun o o' => ∀ p, o.Accepts p → ¬ o'.Offers p
  below : ∀ o ∈ offers, ∀ p, o.Accepts p → p < bound

namespace Attempted

variable {chain bound : Nat} {bytes data : List UInt8} {offers : List Offer}

theorem mono (h : Attempted chain bytes bound offers) {bound' : Nat} (hle : bound ≤ bound') :
    Attempted chain bytes bound' offers :=
  ⟨h.own, h.notRepeated, fun o ho p hp => Nat.lt_of_lt_of_le (h.below o ho p hp) hle⟩

/-- One more write, which goes on behind what was accepted. -/
theorem snoc (h : Attempted chain bytes bound offers) {o : Offer} (hchain : o.chain = chain)
    (hpos : o.pos = bound) (hof : o.Of bytes) :
    Attempted chain bytes (bound + o.taken.length) (offers ++ [o]) where
  own o' ho' := by
    rcases List.mem_append.mp ho' with ho' | ho'
    · exact h.own o' ho'
    · rw [List.mem_singleton.mp ho']
      exact ⟨hchain, hof⟩
  notRepeated := by
    refine List.pairwise_append.mpr ⟨h.notRepeated, List.pairwise_singleton _ _, fun o' ho' p hp => ?_⟩
    obtain rfl := List.mem_singleton.mp hp
    intro q haccepts hoffers
    have hlt := h.below o' ho' q haccepts
    exact absurd (hpos ▸ hoffers.1) (Nat.not_le.mpr hlt)
  below o' ho' p hp := by
    rcases List.mem_append.mp ho' with ho' | ho'
    · exact Nat.lt_of_lt_of_le (h.below o' ho' p hp) (Nat.le_add_right _ _)
    · obtain rfl := List.mem_singleton.mp ho'
      exact hpos ▸ hp.2

/-- The retries of a write, and the last of them. -/
theorem retried {o : Offer} (hchain : o.chain = chain) (hpos : o.pos = bound) (hof : o.Of bytes) :
    ∀ (k : Nat) {offers : List Offer}, Attempted chain bytes bound offers →
      Attempted chain bytes (bound + o.taken.length) (offers ++ Console.retried k o) := by
  intro k
  induction k with
  | zero =>
    intro offers h
    exact h.snoc hchain hpos hof
  | succ k ih =>
    intro offers h
    have hblocked : ({ o with result := .error .wouldBlock } : Offer).Of bytes :=
      ⟨hof.1, List.nil_prefix⟩
    have hnext := ih (h.snoc (o := { o with result := .error .wouldBlock }) hchain hpos hblocked)
    rw [List.append_assoc] at hnext
    exact hnext

end Attempted

/-- A write that goes on behind `mid`, where everything before has been accepted. -/
theorem AllAccepted.retried {offers : List Offer} {lo mid : Nat} (h : AllAccepted offers lo mid)
    {o : Offer} (hpos : o.pos = mid) (k : Nat) :
    AllAccepted (offers ++ Console.retried k o) lo (mid + o.taken.length) := by
  intro p hlo hhi
  by_cases hp : p < mid
  · exact h.extend (List.prefix_append _ _) p hlo hp
  · exact ⟨o, by simp [Console.retried], hpos ▸ Nat.le_of_not_lt hp, hpos ▸ hhi⟩

theorem NothingTaken.retried {offers : List Offer} (h : NothingTaken offers) {o : Offer}
    (ho : o.taken = []) (k : Nat) : NothingTaken (offers ++ Console.retried k o) := by
  intro o' ho'
  rcases List.mem_append.mp ho' with ho' | ho'
  · exact h o' ho'
  · rcases List.mem_append.mp ho' with ho' | ho'
    · rw [List.eq_of_mem_replicate ho']
      rfl
    · rw [List.mem_singleton.mp ho']
      exact ho

theorem flatMap_taken_retried (k : Nat) (o : Offer) :
    (retried k o).flatMap Offer.taken = o.taken := by
  induction k with
  | zero => exact List.append_nil _
  | succ k ih => exact ih

namespace TxState

variable {regions : List GuestRegion}

/-- From `s` to `t` the worker has offered `more`, in an attempt at the chain that it has popped in
`s`, and has come to `bound`. -/
structure Attempt (s : TxState) (bytes : List UInt8) (bound : Nat) (more : List Offer)
    (t : TxState) : Prop where
  mem : t.mem = s.mem
  used : used t.ops = used s.ops
  offers : t.offers = s.offers ++ more
  accepted : accepted t.ops = accepted s.ops ++ more.flatMap Offer.taken
  attempted : Attempted (Console.used s.ops).length bytes bound more

variable {s t : TxState} {bytes : List UInt8} {more : List Offer} {output : List Outgoing}
  {o : Offer} {addr total len k : Nat}

/-- A write that the output takes a first part of. -/
theorem Attempt.taken (h : Attempt s bytes (t.base + total) more t)
    (hchain : o.chain = (Console.used s.ops).length) (hpos : o.pos = t.base + total)
    (hof : o.Of bytes)
    (hout : writeUntilDone (Console.used t.ops).length (t.base + total) (readBytes t.mem addr len)
      t.output = (.ok o.taken, output, retried k o)) :
    ∃ u, t.writePiece total len addr = (.ok o.taken.length, u) ∧ u.output = output ∧
      u.base = t.base ∧
      Attempt s bytes (t.base + total + o.taken.length) (more ++ retried k o) u := by
  refine ⟨{ t with
    output := output
    ops := t.ops ++ [.accept o.taken]
    offers := t.offers ++ retried k o }, by rw [writePiece, hout], rfl, rfl, ⟨h.mem, ?_, ?_, ?_, ?_⟩⟩
  · show Console.used (t.ops ++ [.accept o.taken]) = _
    rw [used_append, h.used]
    exact List.append_nil _
  · show t.offers ++ _ = _
    rw [h.offers, List.append_assoc]
  · show Console.accepted (t.ops ++ [.accept o.taken]) = _
    rw [accepted_append, h.accepted, List.flatMap_append, flatMap_taken_retried, List.append_assoc]
    exact congrArg _ (congrArg _ (List.append_nil _))
  · exact h.attempted.retried hchain hpos hof k

/-- A write that fails. -/
theorem Attempt.failed (h : Attempt s bytes (t.base + total) more t)
    (hchain : o.chain = (Console.used s.ops).length) (hpos : o.pos = t.base + total)
    (hof : o.Of bytes) (hnone : o.taken = []) {e : IoError}
    (hout : writeUntilDone (Console.used t.ops).length (t.base + total) (readBytes t.mem addr len)
      t.output = (.error e, output, retried k o)) :
    ∃ u, t.writePiece total len addr = (.error .ioError, u) ∧ u.output = output ∧
      u.base = t.base ∧ Attempt s bytes (t.base + total) (more ++ retried k o) u := by
  refine ⟨{ t with output := output, offers := t.offers ++ retried k o }, by rw [writePiece, hout],
    rfl, rfl, ⟨h.mem, h.used, ?_, ?_, ?_⟩⟩
  · show t.offers ++ _ = _
    rw [h.offers, List.append_assoc]
  · show Console.accepted t.ops = _
    rw [h.accepted, List.flatMap_append, flatMap_taken_retried, hnone, List.append_nil]
  · have hnext := h.attempted.retried hchain hpos hof k
    rw [hnone] at hnext
    exact hnext

/-- From `t`, where a descriptor begins, to `u` the output has taken `total` bytes of it. -/
structure Begun (s : TxState) (bytes : List UInt8) (t : TxState) (more : List Offer) (total : Nat)
    (u : TxState) (more' : List Offer) : Prop where
  base : u.base = t.base
  init : more <+: more'
  attempt : Attempt s bytes (t.base + total) more' u
  accepted : AllAccepted more' t.base (t.base + total)
  nothing : total = 0 → NothingTaken more → NothingTaken more'

/-- One more write for the descriptor. -/
theorem Begun.taken {more more' : List Offer} {u v : TxState} {o : Offer}
    (h : Begun s bytes t more total u more') (hbase : v.base = u.base)
    (hattempt : Attempt s bytes (u.base + total + o.taken.length) (more' ++ retried k o) v)
    (hpos : o.pos = u.base + total) :
    Begun s bytes t more (total + o.taken.length) v (more' ++ retried k o) := by
  rw [h.base] at hbase hattempt hpos
  refine ⟨hbase, h.init.trans (List.prefix_append _ _), ?_, ?_, fun hz hmore => ?_⟩
  · rw [← Nat.add_assoc]
    exact hattempt
  · rw [← Nat.add_assoc]
    exact h.accepted.retried hpos k
  · exact (h.nothing (by omega) hmore).retried (List.length_eq_zero_iff.mp (by omega)) k

/-- The bytes of a part of the descriptor are a part of those of the chain. -/
theorem readBytes_prefix_drop {mem : Bytes} {addr len base n m : Nat}
    (h : readBytes mem addr len <+: bytes.drop base) (hle : n + m ≤ len) :
    readBytes mem (addr + n) m <+: bytes.drop (base + n) := by
  obtain ⟨tail, htail⟩ := h
  obtain ⟨r, rfl⟩ := Nat.exists_eq_add_of_le hle
  rw [← List.drop_drop, ← htail, readBytes_append, readBytes_append, List.append_assoc,
    List.append_assoc, List.drop_left' (length_readBytes mem addr n)]
  exact List.prefix_append _ _

section

variable {desc : Descriptor} {u : TxState} {p : Poured}

/-- `total` bytes of the descriptor are taken, and the output goes on with the rest of it. -/
def GoesOn (regions : List GuestRegion) (s : TxState) (bytes : List UInt8) (t : TxState)
    (more : List Offer) (desc : Descriptor) (p : Poured) (total : Nat) (u : TxState) : Prop :=
  ∃ more', Begun s bytes t more total u more' ∧
    (total < desc.len ∨ desc.len = 0 →
      p = (pour regions (desc.addr + total) (desc.len - total) u.output).behind total) ∧
    (total = desc.len → 0 < desc.len → p = ⟨desc.len, .whole, u.output⟩)

/-- A write takes nothing. -/
def StopsAt (s : TxState) (bytes : List UInt8) (t : TxState) (more : List Offer) (desc : Descriptor)
    (p : Poured) (total : Nat) (u : TxState) : Prop :=
  ∃ more', Begun s bytes t more total u more' ∧ (total < desc.len ∨ desc.len = 0) ∧
    p = ⟨total, .nothing, u.output⟩

/-- A write fails. -/
def FailsAt (s : TxState) (bytes : List UInt8) (t : TxState) (more : List Offer) (desc : Descriptor)
    (p : Poured) (_ : GuestMemoryError) (u : TxState) : Prop :=
  ∃ total more', Begun s bytes t more total u more' ∧ total ≤ desc.len ∧
    p = ⟨total, .failed, u.output⟩ ∧ (0 < desc.len → ∃ o ∈ more', o.Failed)

/-- **Step lemma**: one call of the closure. -/
theorem GoesOn.writePiece (h : GoesOn regions s bytes t more desc p total u)
    (hin : Inside regions desc.addr desc.len)
    (hbytes : readBytes s.mem desc.addr desc.len <+: bytes.drop t.base)
    (hlen : len = piece regions (desc.addr + total) (desc.len - total))
    (hpos : 0 < len ∨ desc.len = 0) (hle : total + len ≤ desc.len) :
    PieceOrFail (GoesOn regions s bytes t more desc p) (StopsAt s bytes t more desc p)
      (FailsAt s bytes t more desc p) total len (writePiece total len (desc.addr + total) u) := by
  obtain ⟨more₁, hbegun, hgo, -⟩ := h
  have hpart : Inside regions (desc.addr + total) (desc.len - total) :=
    fun a h1 h2 => hin a (by omega) (by omega)
  have hbound : Attempt s bytes (u.base + total) more₁ u := by
    rw [hbegun.base]
    exact hbegun.attempt
  have hmem : readBytes u.mem (desc.addr + total) len <+: bytes.drop (u.base + total) := by
    rw [hbegun.attempt.mem, hbegun.base]
    exact readBytes_prefix_drop hbytes hle
  have hgo := hgo (by omega)
  obtain ⟨k, output, ⟨data, hdata, hout, hnone, hall, hmore⟩ | ⟨hout, hfail⟩⟩ :=
    pour_of_write (Console.used u.ops).length (u.base + total) hpart
      ((length_readBytes u.mem (desc.addr + total) len).trans hlen) u.output
  · obtain ⟨v, hpiece, hvout, hvbase, hattempt⟩ := hbound.taken (o := ⟨_, _, _, .ok data⟩)
      (congrArg List.length hbegun.attempt.used) rfl ⟨hmem, hdata⟩ hout
    have hpiece : u.writePiece total len (desc.addr + total) = (.ok data.length, v) := hpiece
    have hdatalen : data.length ≤ len := by
      have := hdata.length_le
      rwa [length_readBytes] at this
    have hnext := hbegun.taken hvbase hattempt rfl
    refine Or.inl ⟨data.length, v, hpiece, hdatalen, fun hz => ?_, fun hz => ?_⟩
    · obtain rfl := List.length_eq_zero_iff.mp hz
      refine ⟨_, hnext, by omega, ?_⟩
      rw [hgo, hnone rfl, hvout]
      rfl
    · have hne : data ≠ [] := List.ne_nil_of_length_pos hz
      refine ⟨_, hnext, fun hlt => ?_, fun hdone _ => ?_⟩
      · rw [hgo, hmore hne (by omega), Poured.behind_behind, hvout, Nat.sub_sub, Nat.add_assoc]
      · rw [hgo, hall hne (by omega), hvout, Poured.behind]
        dsimp only
        rw [Nat.add_sub_cancel' (by omega)]
  · obtain ⟨v, hpiece, hvout, hvbase, hattempt⟩ := hbound.failed (o := ⟨_, _, _, .error .other⟩)
      (congrArg List.length hbegun.attempt.used) rfl ⟨hmem, List.nil_prefix⟩ rfl hout
    have hnext := hbegun.taken (o := ⟨_, _, _, .error .other⟩) hvbase hattempt rfl
    refine Or.inr ⟨_, v, hpiece, total, _, hnext, by omega, ?_, fun hsome => ?_⟩
    · rw [hgo, hfail, hvout]
      rfl
    · refine ⟨⟨_, _, _, .error .other⟩, List.mem_append_right _ (List.mem_append_right _
        List.mem_cons_self), rfl, ?_⟩
      apply List.ne_nil_of_length_pos
      rw [length_readBytes]
      omega

/-- **What an access to a descriptor offers**, and how it ends. -/
theorem writeDescToOutput_offers (hin : Inside regions desc.addr desc.len)
    (h : Attempt s bytes t.base more t)
    (hbytes : readBytes s.mem desc.addr desc.len <+: bytes.drop t.base) :
    ∃ more' u, Begun s bytes t more (access regions desc t.output).taken u more' ∧
      u.output = (access regions desc t.output).rest ∧
      ((access regions desc t.output).stop = .whole ∧
          t.writeDescToOutput regions desc = (.ok desc.len, u) ∧ 0 < desc.len ∧
          (access regions desc t.output).taken = desc.len ∨
        (access regions desc t.output).stop = .nothing ∧
          t.writeDescToOutput regions desc = (.ok (access regions desc t.output).taken, u) ∧
          ((access regions desc t.output).taken < desc.len ∨ desc.len = 0) ∨
        (access regions desc t.output).stop = .failed ∧
          (∃ e, t.writeDescToOutput regions desc = (.error e, u)) ∧
          (access regions desc t.output).taken ≤ desc.len ∧
          (0 < desc.len → ∃ o ∈ more', o.Failed)) := by
  have hstart : Begun s bytes t more 0 t more :=
    ⟨rfl, List.prefix_rfl, h, fun p hlo hhi => absurd hhi (Nat.not_lt.mpr hlo), fun _ => id⟩
  cases hfind : findRegion regions desc.addr with
  | none =>
    -- then the descriptor is empty, for it lies inside the memory
    have hempty : desc.len = 0 := by
      by_contra hne
      obtain ⟨region, hregion, -⟩ := exists_findRegion hin (Nat.le_refl desc.addr) (by omega)
      cases hfind.symm.trans hregion
    have haccess : access regions desc t.output = ⟨0, .failed, t.output⟩ := by
      rw [access, hfind]
    rw [haccess]
    exact ⟨more, t, hstart, rfl, Or.inr (Or.inr ⟨rfl, ⟨_, tryAccess_outside TxState.writePiece desc.len
      hfind t⟩, Nat.zero_le _, fun hpos => absurd hempty (Nat.ne_of_gt hpos)⟩)⟩
  | some region =>
    have haccess : access regions desc t.output = pour regions desc.addr desc.len t.output := by
      rw [access, hfind]
    rw [haccess]
    generalize hpour : pour regions desc.addr desc.len t.output = p
    have h0 : GoesOn regions s bytes t more desc p 0 t := by
      refine ⟨more, hstart, fun _ => ?_, fun hzero hpos => absurd hzero (Nat.ne_of_lt hpos)⟩
      rw [← hpour]
      show _ = Poured.behind 0 (pour regions desc.addr desc.len t.output)
      rw [Poured.behind, Nat.zero_add]
    have hends := tryAccess_ends (by rw [hfind]; rfl)
      (fun total len u (hu : GoesOn regions s bytes t more desc p total u) hlen hpos hle =>
        hu.writePiece hin hbytes hlen hpos (Nat.le_trans hle (room_le regions desc.addr desc.len))) h0
    rw [room_of_inside hin] at hends
    rcases hends with ⟨n, u, hto, ⟨rfl, hpos, more', hbegun, -, hall⟩ | ⟨more', hbegun, hlt, rfl⟩⟩ |
      ⟨e, u, hto, total, more', hbegun, hle, rfl, hfailed⟩
    · obtain rfl := hall rfl hpos
      exact ⟨more', u, hbegun, rfl, Or.inl ⟨rfl, hto, hpos, rfl⟩⟩
    · exact ⟨more', u, hbegun, rfl, Or.inr (Or.inl ⟨rfl, hto, hlt⟩)⟩
    · exact ⟨more', u, hbegun, rfl, Or.inr (Or.inr ⟨rfl, ⟨e, hto⟩, hle, hfailed⟩)⟩

end

/-- What it says of an attempt that began with `n` bytes counted that it ends with `m`. -/
structure Counted (regions : List GuestRegion) (ds : List Descriptor) (output : List Outgoing)
    (base n m : Nat) (more more' : List Offer) : Prop where
  le : n ≤ m
  notCut : ¬ Cut regions ds output
  wholly : m ≠ n ↔ Wholly regions ds output
  nothing : ¬ FailsHalfway regions ds output → m = n → NothingTaken more → NothingTaken more'
  all : (EndsEarly regions ds output → FailsOnBytes regions ds output) →
    (∃ o ∈ more, o.Failed) ∨ AllAccepted more 0 base →
      (∃ o ∈ more', o.Failed) ∨ AllAccepted more' 0 (base + sumLen ds)

section

variable {desc : Descriptor} {ds : List Descriptor} {output : List Outgoing} {base n m : Nat}
  {more more₁ more' : List Offer}

/-- The first descriptor is written as a whole. -/
theorem Counted.whole
    (h : Counted regions ds (access regions desc output).rest (base + desc.len) (n + desc.len) m more₁
      more')
    (hstop : (access regions desc output).stop = .whole) (hpos : 0 < desc.len) (hinit : more <+: more₁)
    (haccepted : AllAccepted more₁ base (base + desc.len)) :
    Counted regions (desc :: ds) output base n m more more' := by
  have hle := h.le
  refine ⟨by omega, ?_, iff_of_true (by omega) (Or.inl hstop), fun _ heq => by omega, fun hends hbase => ?_⟩
  · rintro (⟨hnothing, -⟩ | ⟨-, hcut⟩)
    · cases hstop.symm.trans hnothing
    · exact h.notCut hcut
  · rw [sumLen_cons, ← Nat.add_assoc]
    refine h.all (fun hearly => ?_) (hbase.imp (fun ⟨o, ho, hf⟩ => ⟨o, hinit.subset ho, hf⟩)
      fun hall => (hall.extend hinit).trans haccepted)
    rcases hends (Or.inr ⟨by rw [hstop]; decide, hearly⟩) with ⟨hfailed, -⟩ | ⟨-, hfails⟩
    · cases hstop.symm.trans hfailed
    · exact hfails

/-- The first descriptor is empty, or its first write takes nothing: the loop ends. -/
theorem Counted.nothing_first (hstop : (access regions desc output).stop = .nothing)
    (htaken : (access regions desc output).taken = 0) (hinit : more <+: more₁)
    (hnothing : NothingTaken more → NothingTaken more₁) :
    Counted regions (desc :: ds) output base n n more more₁ := by
  refine ⟨Nat.le_refl n, ?_, iff_of_false (fun hne => hne rfl) ?_, fun _ _ => hnothing,
    fun hends hbase => ?_⟩
  · rintro (⟨-, hpos⟩ | ⟨hne, -⟩)
    · omega
    · exact hne hstop
  · rintro (hwhole | ⟨hne, -⟩)
    · cases hstop.symm.trans hwhole
    · exact hne hstop
  · refine hbase.imp (fun ⟨o, ho, hf⟩ => ⟨o, hinit.subset ho, hf⟩) fun hall => ?_
    have hleft : ¬ 0 < sumLen (desc :: ds) := fun hleft => by
      rcases hends (Or.inl ⟨hstop, htaken, hleft⟩) with ⟨hfailed, -⟩ | ⟨hne, -⟩
      · cases hstop.symm.trans hfailed
      · exact hne hstop
    rw [Nat.eq_zero_of_not_pos hleft]
    exact hall.extend hinit

/-- The access to the first descriptor fails. -/
theorem Counted.failed
    (h : Counted regions ds (access regions desc output).rest (base + desc.len) n m more₁ more')
    (hstop : (access regions desc output).stop = .failed) (hinit : more <+: more₁)
    (hmore : more₁ <+: more')
    (hnothing : (access regions desc output).taken = 0 → NothingTaken more → NothingTaken more₁)
    (hfailed : 0 < desc.len → ∃ o ∈ more₁, o.Failed) :
    Counted regions (desc :: ds) output base n m more more' := by
  have hne : (access regions desc output).stop ≠ .nothing := by rw [hstop]; decide
  refine ⟨h.le, ?_, h.wholly.trans ⟨fun hw => Or.inr ⟨hne, hw⟩, ?_⟩, fun hhalf heq hnone => ?_,
    fun hends hbase => ?_⟩
  · rintro (⟨hnothing, -⟩ | ⟨-, hcut⟩)
    · exact hne hnothing
    · exact h.notCut hcut
  · rintro (hwhole | ⟨-, hw⟩)
    · cases hstop.symm.trans hwhole
    · exact hw
  · have htaken : (access regions desc output).taken = 0 :=
      Nat.eq_zero_of_not_pos fun hpos => hhalf (Or.inl ⟨hstop, hpos⟩)
    exact h.nothing (fun hrest => hhalf (Or.inr ⟨hne, hrest⟩)) heq (hnothing htaken hnone)
  · rcases Nat.eq_zero_or_pos desc.len with hzero | hpos
    · -- an empty descriptor whose write fails leaves nothing out
      have hall := h.all fun hearly => by
        rcases hends (Or.inr ⟨hne, hearly⟩) with ⟨-, hpos⟩ | ⟨-, hfails⟩
        · omega
        · exact hfails
      rw [sumLen_cons, hzero, Nat.zero_add]
      rw [hzero] at hall
      exact hall (hbase.imp (fun ⟨o, ho, hf⟩ => ⟨o, hinit.subset ho, hf⟩) fun hacc => hacc.extend hinit)
    · obtain ⟨o, ho, hf⟩ := hfailed hpos
      exact Or.inl ⟨o, hmore.subset ho, hf⟩

end

/-- **What the loop over the descriptors offers.** -/
theorem writeChain_offers : ∀ (ds : List Descriptor) (n : Nat) {t : TxState} {more : List Offer},
    (∀ d ∈ ds, Inside regions d.addr d.len) → Attempt s bytes t.base more t →
    contents s.mem ds = bytes.drop t.base →
    ∃ bound more', more <+: more' ∧ Attempt s bytes bound more' (t.writeChain regions ds n).2 ∧
      ∀ m, (t.writeChain regions ds n).1 = some m →
        Counted regions ds t.output t.base n m more more' := by
  intro ds
  induction ds with
  | nil =>
    intro n t more _ h _
    refine ⟨t.base, more, List.prefix_rfl, h, fun m hm => ?_⟩
    obtain rfl : n = m := Option.some.inj hm
    exact ⟨Nat.le_refl n, id, ⟨fun hne => hne rfl, False.elim⟩, fun _ _ => id, fun _ => id⟩
  | cons desc ds ih =>
    intro n t more hin h hbytes
    have hhead : readBytes s.mem desc.addr desc.len <+: bytes.drop t.base :=
      ⟨contents s.mem ds, hbytes⟩
    have htail : contents s.mem ds = bytes.drop (t.base + desc.len) := by
      rw [← List.drop_drop, ← hbytes, contents, List.drop_left' (length_readBytes ..)]
    have hin' : ∀ d ∈ ds, Inside regions d.addr d.len := fun d hd => hin d (List.mem_cons_of_mem desc hd)
    obtain ⟨more₁, u, hbegun, hout, hend⟩ :=
      writeDescToOutput_offers (hin desc List.mem_cons_self) h hhead
    -- the rest of the loop, behind the descriptor
    have hrest (k : Nat) (v : TxState) (hbase : v.base = t.base + desc.len) (hv : v.output = u.output)
        (hattempt : Attempt s bytes (t.base + desc.len) more₁ v) :
        ∃ bound more', more₁ <+: more' ∧ Attempt s bytes bound more' (v.writeChain regions ds k).2 ∧
          ∀ m, (v.writeChain regions ds k).1 = some m → Counted regions ds
            (access regions desc t.output).rest (t.base + desc.len) k m more₁ more' := by
      rw [← hbase] at hattempt htail ⊢
      rw [← hout, ← hv]
      exact ih k hin' hattempt htail
    have hbase : u.base + desc.len = t.base + desc.len := congrArg (· + desc.len) hbegun.base
    have hattempt := hbegun.attempt
    rw [writeChain]
    rcases hend with ⟨hstop, hto, hpos, htaken⟩ | ⟨hstop, hto, hlt⟩ | ⟨hstop, ⟨e, hto⟩, hle, hfailed⟩
    · have haccepted := hbegun.accepted
      rw [htaken] at hattempt haccepted
      obtain ⟨bound, more', hinit, hattempt', hcounted⟩ := hrest (n + desc.len)
        { u.behind desc with signalUsedQueue := true } hbase rfl
        ⟨hattempt.mem, hattempt.used, hattempt.offers, hattempt.accepted, hattempt.attempted⟩
      obtain ⟨k, hk⟩ := Nat.exists_eq_succ_of_ne_zero (Nat.ne_of_gt hpos)
      have hto' : t.writeDescToOutput regions desc = (.ok (k + 1), u) := hto.trans (by rw [hk])
      rw [hto']
      dsimp only
      rw [if_pos hk.symm, ← Nat.succ_eq_add_one, ← hk]
      exact ⟨bound, more', hbegun.init.trans hinit, hattempt', fun m hm =>
        (hcounted m hm).whole hstop hpos hbegun.init haccepted⟩
    · cases htaken : (access regions desc t.output).taken with
      | zero =>
        rw [htaken] at hto hattempt
        rw [hto]
        refine ⟨_, more₁, hbegun.init, hattempt, fun m hm => ?_⟩
        obtain rfl : n = m := Option.some.inj hm
        exact .nothing_first hstop htaken hbegun.init (hbegun.nothing htaken)
      | succ k =>
        rw [htaken] at hto hattempt
        rw [hto]
        dsimp only
        rw [if_neg (by omega)]
        exact ⟨_, more₁, hbegun.init, hattempt, fun m hm => by cases hm⟩
    · obtain ⟨bound, more', hinit, hattempt', hcounted⟩ := hrest n (u.behind desc) hbase rfl
        ⟨hattempt.mem, hattempt.used, hattempt.offers, hattempt.accepted,
          hattempt.attempted.mono (by omega)⟩
      rw [hto]
      exact ⟨bound, more', hbegun.init.trans hinit, hattempt', fun m hm =>
        (hcounted m hm).failed hstop hbegun.init hinit hbegun.nothing hfailed⟩

end TxState

end VirtioPoc.Console
