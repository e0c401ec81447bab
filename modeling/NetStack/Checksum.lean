/-
Module: NetStack.Checksum
Purpose: The Internet checksum over byte strings of any length.
Main exports:
  Checksum.words, Checksum.accumulate, Checksum.sum, Checksum.checksum,
  Checksum.verifies
-/
import NetStack.Wire

namespace NetStack.Checksum

/-- The big-endian 16-bit words of the data.  An odd last byte is the high byte
of a last word. -/
def words : Bytes → List UInt16
  | [] => []
  | [last] => [Wire.join16 last 0]
  | high :: low :: rest => Wire.join16 high low :: words rest

/-- Add one word and fold the carry back in at once. -/
def accumulate (sum : Nat) (word : UInt16) : Nat :=
  let next := sum + word.toNat
  if next > 0xFFFF then next - 0xFFFF else next

/-- Add up the words of the data, starting from `sum`. -/
def addWords (sum : Nat) : Bytes → Nat
  | [] => sum
  | [last] => accumulate sum (Wire.join16 last 0)
  | high :: low :: rest => addWords (accumulate sum (Wire.join16 high low)) rest

/-- The folded sum of the words.  It starts at 0xFFFF, the other
one's-complement zero, so that it never falls back to 0. -/
def sum (data : Bytes) : Nat :=
  addWords 0xFFFF data

/-- The complement of the folded sum. -/
def checksum (data : Bytes) : UInt16 :=
  UInt16.ofNat (0xFFFF - sum data)

/-- Whether data with its checksum field zeroed has the checksum received with
it. -/
def verifies (data : Bytes) (received : UInt16) : Bool :=
  checksum data == received

/-- The sum never outgrows 16 bits, nor 17 bits before the carry is folded. -/
theorem accumulate_le {sum : Nat} (bound : sum ≤ 0xFFFF) (word : UInt16) :
    accumulate sum word ≤ 0xFFFF := by
  have wordBound := word.toNat_lt
  simp only [accumulate]
  split <;> omega

/-- The sum takes the words one after the other. -/
theorem addWords_eq_foldl (sum : Nat) (data : Bytes) :
    addWords sum data = (words data).foldl accumulate sum := by
  fun_induction addWords sum data with
  | case1 => rfl
  | case2 => rfl
  | case3 sum high low rest inductiveHypothesis => simpa [words] using inductiveHypothesis

end NetStack.Checksum
