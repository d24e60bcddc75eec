import VirtioPoc.Virtio.Queue

/-!
# Port input and output

The non-blocking file descriptors of `port_io.rs`, and what the two workers of a
port have in common.  The environment decides what a read finds and how much a
write takes; here it has decided in advance, and the list of its decisions is
part of the state.  When the list is used up, reads would block and writes take
everything.
-/

namespace VirtioPoc.Console

open Virtio

/-- `io::Error`, as far as the workers look at its kind. -/
inductive IoError
  | wouldBlock
  | other
  deriving DecidableEq

/-! ### Input -/

/-- What the next read finds.  `data` is a burst of bytes, from which a short read leaves the rest
for the next one; an empty one is the end of file. -/
inductive Incoming
  | data (bytes : List UInt8)
  | wouldBlock
  | error
  deriving DecidableEq

/-- `PortInputFd::read_volatile` into a slice of `len` bytes.  A read of no bytes succeeds, whatever
there is to read, and has no other effect. -/
def readVolatile (len : Nat) (input : List Incoming) :
    Except IoError (List UInt8) × List Incoming :=
  if len = 0 then (.ok [], input)
  else
    match input with
    | [] => (.error .wouldBlock, [])
    | .data bytes :: rest =>
      (.ok (bytes.take len), if bytes.length ≤ len then rest else .data (bytes.drop len) :: rest)
    | .wouldBlock :: rest => (.error .wouldBlock, rest)
    | .error :: rest => (.error .other, rest)

/-- The next read of at least a byte returns none. -/
def Stopped : List Incoming → Prop
  | .data bytes :: _ => bytes = []
  | _ => True

instance : (input : List Incoming) → Decidable (Stopped input)
  | [] | .wouldBlock :: _ | .error :: _ => .isTrue trivial
  | .data bytes :: _ => inferInstanceAs (Decidable (bytes = []))

/-- What reads of `len` bytes in all find before one of them returns nothing, and what is left. -/
def fill : Nat → List Incoming → List UInt8 × List Incoming
  | _, [] => ([], [])
  | len, .data bytes :: rest =>
    if len = 0 then ([], .data bytes :: rest)
    else if bytes = [] then ([], rest)
    else if bytes.length ≤ len then
      (bytes ++ (fill (len - bytes.length) rest).1, (fill (len - bytes.length) rest).2)
    else (bytes.take len, .data (bytes.drop len) :: rest)
  | len, .wouldBlock :: rest => if len = 0 then ([], .wouldBlock :: rest) else ([], rest)
  | len, .error :: rest => if len = 0 then ([], .error :: rest) else ([], rest)

/-- How reads of `len` bytes in all come to their end. -/
inductive Ending
  | full
  | endOfFile
  | wouldBlock
  | error
  deriving DecidableEq

/-- What the last of the reads of `fill` finds. -/
def ending : Nat → List Incoming → Ending
  | len, [] => if len = 0 then .full else .wouldBlock
  | len, .data bytes :: rest =>
    if len = 0 then .full
    else if bytes = [] then .endOfFile
    else if bytes.length ≤ len then ending (len - bytes.length) rest
    else .full
  | len, .wouldBlock :: _ => if len = 0 then .full else .wouldBlock
  | len, .error :: _ => if len = 0 then .full else .error

theorem fill_zero (input : List Incoming) : fill 0 input = ([], input) := by
  cases input with
  | nil => rfl
  | cons r rest => cases r <;> simp [fill]

theorem ending_zero (input : List Incoming) : ending 0 input = .full := by
  cases input with
  | nil => rfl
  | cons r rest => cases r <;> simp [ending]

/-- A read that finds bytes takes them from the first burst. -/
theorem readVolatile_eq_ok {k : Nat} (hk : 0 < k) {input input' : List Incoming}
    {bytes : List UInt8} (h : readVolatile k input = (.ok bytes, input')) :
    ∃ all rest, input = .data all :: rest ∧ all.take k = bytes ∧
      (if all.length ≤ k then rest else .data (all.drop k) :: rest) = input' := by
  unfold readVolatile at h
  rw [if_neg (by omega)] at h
  cases input with
  | nil => cases h
  | cons r rest =>
    cases r with
    | wouldBlock => cases h
    | error => cases h
    | data all => exact ⟨all, rest, rfl, by simpa using h⟩

/-- A read of no more than `len` bytes is the first part of filling `len`. -/
theorem fill_of_read {k len : Nat} (hk : 0 < k) (hle : k ≤ len) {input input' : List Incoming}
    {bytes : List UInt8} (h : readVolatile k input = (.ok bytes, input')) (hne : bytes ≠ []) :
    fill len input =
        (bytes ++ (fill (len - bytes.length) input').1, (fill (len - bytes.length) input').2) ∧
      ending len input = ending (len - bytes.length) input' := by
  obtain ⟨all, rest, rfl, rfl, rfl⟩ := readVolatile_eq_ok hk h
  have hall : all ≠ [] := fun he => hne (by rw [he, List.take_nil])
  have hlen : len ≠ 0 := by omega
  rw [fill, if_neg hlen, if_neg hall, ending, if_neg hlen, if_neg hall]
  by_cases hshort : all.length ≤ k
  · have hfits : all.length ≤ len := Nat.le_trans hshort hle
    rw [if_pos hshort, if_pos hfits, if_pos hfits, List.take_of_length_le hshort]
    exact ⟨rfl, rfl⟩
  · -- the burst goes on behind the first read
    have htake : (all.take k).length = k := by rw [List.length_take]; omega
    have hdrop : all.drop k ≠ [] := fun he => by
      have := congrArg List.length he
      rw [List.length_drop, List.length_nil] at this
      omega
    rw [if_neg hshort, htake]
    by_cases hrest : len - k = 0
    · have hkl : len = k := by omega
      subst hkl
      rw [if_neg hshort, if_neg hshort, hrest, fill_zero, ending_zero, List.append_nil]
      exact ⟨rfl, rfl⟩
    · rw [fill, if_neg hrest, if_neg hdrop, ending, if_neg hrest, if_neg hdrop, List.length_drop]
      by_cases hfits : all.length ≤ len
      · have hfits' : all.length - k ≤ len - k := by omega
        rw [if_pos hfits, if_pos hfits, if_pos hfits', if_pos hfits',
          Nat.sub_sub_sub_cancel_right (by omega), ← List.append_assoc, List.take_append_drop]
        exact ⟨rfl, rfl⟩
      · have hlong : ¬ all.length - k ≤ len - k := by omega
        rw [if_neg hfits, if_neg hfits, if_neg hlong, if_neg hlong, List.drop_drop,
          Nat.add_sub_cancel' hle, ← List.take_add, Nat.add_sub_cancel' hle]
        exact ⟨rfl, rfl⟩

/-- A read that finds nothing ends the filling. -/
theorem fill_of_stop {k len : Nat} (hk : 0 < k) (hle : k ≤ len) {input input' : List Incoming}
    {stop : Ending} (h : stop = .endOfFile ∧ readVolatile k input = (.ok [], input') ∨
      stop = .wouldBlock ∧ readVolatile k input = (.error .wouldBlock, input') ∨
      stop = .error ∧ readVolatile k input = (.error .other, input')) :
    fill len input = ([], input') ∧ ending len input = stop := by
  have hlen : len ≠ 0 := by omega
  have hk' : k ≠ 0 := by omega
  rcases h with ⟨rfl, h⟩ | ⟨rfl, h⟩ | ⟨rfl, h⟩
  · obtain ⟨all, rest, rfl, htake, rfl⟩ := readVolatile_eq_ok hk h
    obtain rfl : all = [] := (List.take_eq_nil_iff.mp htake).resolve_left hk'
    rw [fill, if_neg hlen, if_pos rfl, ending, if_neg hlen, if_pos rfl]
    exact ⟨rfl, rfl⟩
  · unfold readVolatile at h
    rw [if_neg hk'] at h
    cases input with
    | nil =>
      cases h
      exact ⟨rfl, if_neg hlen⟩
    | cons r rest =>
      cases r with
      | data all | error => cases h
      | wouldBlock =>
        cases h
        exact ⟨if_neg hlen, if_neg hlen⟩
  · unfold readVolatile at h
    rw [if_neg hk'] at h
    cases input with
    | nil => cases h
    | cons r rest =>
      cases r with
      | data all | wouldBlock => cases h
      | error =>
        cases h
        exact ⟨if_neg hlen, if_neg hlen⟩

/-- Nothing is found by a read that the input has stopped. -/
theorem fill_of_stopped : ∀ {input : List Incoming} (len : Nat), Stopped input →
    (fill len input).1 = [] := by
  intro input len h
  cases input with
  | nil => rfl
  | cons r rest =>
    cases r with
    | wouldBlock => rw [fill]; split <;> rfl
    | error => rw [fill]; split <;> rfl
    | data bytes =>
      obtain rfl : bytes = [] := h
      rw [fill]
      split
      · rfl
      · rfl

theorem length_fill_le : ∀ (input : List Incoming) (len : Nat), (fill len input).1.length ≤ len := by
  intro input
  induction input with
  | nil => exact fun len => Nat.zero_le len
  | cons r rest ih =>
    intro len
    cases r with
    | wouldBlock => rw [fill]; split <;> exact Nat.zero_le len
    | error => rw [fill]; split <;> exact Nat.zero_le len
    | data bytes =>
      rw [fill]
      split
      · exact Nat.zero_le len
      · split
        · exact Nat.zero_le len
        · split
          · have := ih (len - bytes.length)
            rw [List.length_append]
            omega
          · rw [List.length_take]
            omega

/-! ### Output -/

/-- What the next write meets: it takes at most so many bytes, or fails. -/
inductive Outgoing
  | accept (n : Nat)
  | wouldBlock
  | error
  deriving DecidableEq

/-- `PortOutputFd::write_volatile` of some bytes: those that were taken. -/
def writeVolatile (bytes : List UInt8) :
    List Outgoing → Except IoError (List UInt8) × List Outgoing
  | [] => (.ok bytes, [])
  | .accept n :: rest => (.ok (bytes.take n), rest)
  | .wouldBlock :: rest => (.error .wouldBlock, rest)
  | .error :: rest => (.error .other, rest)

/-! ### The workers -/

inductive WorkerToken
  | processQueue
  | io
  | stop
  deriving DecidableEq

/-- Where a worker is: it waits for an event, or holds the queue and takes one chain after the
other, or it has returned or panicked. -/
inductive Pc
  | waiting
  | draining
  | returned
  | panicked
  deriving DecidableEq

/-- What a worker does to its queue and with its port, in order.  A `pop` is recorded with what the
readable descriptors of the chain hold, an `addUsed` with what its writable ones do. -/
inductive PortOp
  | pop (chain : DescriptorChain) (data : List UInt8)
  | read (data : List UInt8)
  | accept (data : List UInt8)
  | addUsed (chain : DescriptorChain) (len : UInt32) (data : List UInt8)
  | goToPreviousPosition
  | signalUsedQueue
  | portOpen (portId : UInt32) (isOpen : Bool)
  deriving DecidableEq

/-- The bytes that the port has consumed from its input. -/
def consumed (ops : List PortOp) : List UInt8 :=
  ops.flatMap fun op => match op with
    | .read data => data
    | _ => []

/-- The bytes that the output has accepted. -/
def accepted (ops : List PortOp) : List UInt8 :=
  ops.flatMap fun op => match op with
    | .accept data => data
    | _ => []

/-- The first `len` bytes of the writable space of each used chain, in the order of the used
ring. -/
def delivered (ops : List PortOp) : List UInt8 :=
  ops.flatMap fun op => match op with
    | .addUsed _ len data => data.take len.toNat
    | _ => []

@[simp] theorem consumed_append (xs ys : List PortOp) :
    consumed (xs ++ ys) = consumed xs ++ consumed ys := List.flatMap_append

@[simp] theorem accepted_append (xs ys : List PortOp) :
    accepted (xs ++ ys) = accepted xs ++ accepted ys := List.flatMap_append

@[simp] theorem delivered_append (xs ys : List PortOp) :
    delivered (xs ++ ys) = delivered xs ++ delivered ys := List.flatMap_append

end VirtioPoc.Console
