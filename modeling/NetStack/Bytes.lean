/-
Module: NetStack.Bytes
Purpose: Byte strings, and the checked accesses through which fixed-size
  buffers are read and filled.
Main exports:
  Bytes, Fault, Bytes.slice, Bytes.splice, Bytes.assemble, Bytes.ascii
-/

namespace NetStack

/-!
A packet at any layer is a list of bytes.  Buffers are byte strings whose
length never changes: a read names a range, a write replaces one.  Both go
through checked accesses, and a range that leaves the buffer is a `Fault`.  A
fault is never an answer to bad traffic; it marks a breach of what the caller
promised, so that "no input causes a fault" is a statement about the stack and
not about the access functions.
-/

/-- The bytes of a packet, a payload or a buffer. -/
abbrev Bytes := List UInt8

/-- An access or a computation that leaves what its caller was given. -/
inductive Fault where
  /-- Bytes `start` up to `stop` of a buffer holding only `size` bytes. -/
  | outsideBuffer (start stop size : Nat)
  /-- A register access that is misaligned or outside a window of `size` bytes. -/
  | outsideWindow (offset size : Nat)
  /-- A length that the field made for it cannot hold. -/
  | lengthOverflow (length : Nat)
  /-- A wait for something that never happens. -/
  | endlessWait
deriving Repr, Inhabited, DecidableEq

namespace Bytes

/-- A buffer of `size` zero bytes. -/
def zeros (size : Nat) : Bytes :=
  List.replicate size 0

/-- The bytes of a text in which every character is an ASCII character. -/
def ascii (text : String) : Bytes :=
  text.toList.map fun character => UInt8.ofNat character.toNat

/-- The bytes from `start` up to `stop`. -/
def slice (data : Bytes) (start stop : Nat) : Except Fault Bytes :=
  if start ≤ stop ∧ stop ≤ data.length then
    .ok ((data.take stop).drop start)
  else
    .error (.outsideBuffer start stop data.length)

/-- The buffer with `source` written over it from `start` on.  The buffer does
not grow: a source that reaches past its end is a fault. -/
def splice (buffer : Bytes) (start : Nat) (source : Bytes) : Except Fault Bytes :=
  if start + source.length ≤ buffer.length then
    .ok (buffer.take start ++ source ++ buffer.drop (start + source.length))
  else
    .error (.outsideBuffer start (start + source.length) buffer.length)

/-- The parts one behind the other, provided that they fit into a packet buffer
of `capacity` bytes. -/
def assemble (capacity : Nat) (parts : List Bytes) : Except Fault Bytes :=
  let packet := parts.flatten
  if packet.length ≤ capacity then
    .ok packet
  else
    .error (.outsideBuffer 0 packet.length capacity)

@[simp] theorem length_zeros (size : Nat) : (zeros size).length = size := by
  simp [zeros]

theorem slice_eq_ok {data : Bytes} {start stop : Nat}
    (ordered : start ≤ stop) (inside : stop ≤ data.length) :
    slice data start stop = .ok ((data.take stop).drop start) := by
  simp [slice, ordered, inside]

theorem splice_eq_ok {buffer source : Bytes} {start : Nat}
    (fits : start + source.length ≤ buffer.length) :
    splice buffer start source =
      .ok (buffer.take start ++ source ++ buffer.drop (start + source.length)) := by
  simp [splice, fits]

theorem assemble_eq_ok {capacity : Nat} {parts : List Bytes}
    (fits : parts.flatten.length ≤ capacity) :
    assemble capacity parts = .ok parts.flatten := by
  simp only [assemble, fits, if_true]

/-- Writing into a buffer keeps its length. -/
theorem length_of_splice {buffer source written : Bytes} {start : Nat}
    (splices : splice buffer start source = .ok written) :
    written.length = buffer.length := by
  unfold splice at splices
  split at splices
  · next fits =>
    cases splices
    simp only [List.length_append, List.length_take, List.length_drop]
    omega
  · cases splices

end Bytes

end NetStack
