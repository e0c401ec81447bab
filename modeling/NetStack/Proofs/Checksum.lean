/-
Module: NetStack.Proofs.Checksum
Purpose: The folded sum as a number modulo 0xFFFF, and that data with its own
  checksum stored in it sums to nothing.
Main exports:
  Checksum.total, Checksum.sum_le, Checksum.sum_mod, Checksum.words_append,
  Checksum.checksum_stored, Ipv4.Header.exists_encode_eq,
  Ipv4.Header.checksum_encode_stamp
-/
import Mathlib.Algebra.GroupWithZero.Nat
import NetStack.Ipv4

namespace NetStack

/-!
To fold the carry back in is to count modulo 0xFFFF, in the one representation
that has 0xFFFF for zero.  A checksum is what is missing to the next multiple, so
that data which contains it, in the place of a zero word, adds up to zero.
-/

namespace Checksum

/-- The words of the data, added up without any folding. -/
def total (data : Bytes) : Nat :=
  ((words data).map UInt16.toNat).sum

/-- One more word counts modulo 0xFFFF, and the sum stays a 16-bit number other than
zero. -/
theorem accumulate_mod {sum : Nat} (positive : 0 < sum) (bound : sum ≤ 0xFFFF) (word : UInt16) :
    0 < accumulate sum word ∧ accumulate sum word ≤ 0xFFFF ∧
      accumulate sum word % 0xFFFF = (sum + word.toNat) % 0xFFFF := by
  have wordBound := word.toNat_lt
  simp only [accumulate]
  split <;> omega

theorem addWords_mod {sum : Nat} (positive : 0 < sum) (bound : sum ≤ 0xFFFF) (data : Bytes) :
    0 < addWords sum data ∧ addWords sum data ≤ 0xFFFF ∧
      addWords sum data % 0xFFFF = (sum + total data) % 0xFFFF := by
  fun_induction addWords sum data with
  | case1 sum => exact ⟨positive, bound, rfl⟩
  | case2 sum last =>
      obtain ⟨more, less, same⟩ := accumulate_mod positive bound (Wire.join16 last 0)
      refine ⟨more, less, same.trans ?_⟩
      simp [total, words]
  | case3 sum high low rest inductiveHypothesis =>
      obtain ⟨more, less, same⟩ := accumulate_mod positive bound (Wire.join16 high low)
      obtain ⟨stillMore, stillLess, onward⟩ := inductiveHypothesis more less
      refine ⟨stillMore, stillLess, ?_⟩
      have split : total (high :: low :: rest) = (Wire.join16 high low).toNat + total rest := by
        simp [total, words]
      rw [onward, split]
      omega

theorem sum_pos (data : Bytes) : 0 < sum data :=
  (addWords_mod (by decide) (Nat.le_refl _) data).1

/-- The sum is a 16-bit number after every word. -/
theorem sum_le (data : Bytes) : sum data ≤ 0xFFFF :=
  (addWords_mod (by decide) (Nat.le_refl _) data).2.1

theorem sum_mod (data : Bytes) : sum data % 0xFFFF = total data % 0xFFFF := by
  have counted := (addWords_mod (by decide) (Nat.le_refl 0xFFFF) data).2.2
  rw [Nat.add_mod_left] at counted
  exact counted

theorem toNat_checksum (data : Bytes) : (checksum data).toNat = 0xFFFF - sum data := by
  rw [checksum, UInt16.toNat_ofNat']
  omega

/-- Whole words in front of other data are words of the whole. -/
theorem words_append {front : Bytes} (even : front.length % 2 = 0) (back : Bytes) :
    words (front ++ back) = words front ++ words back := by
  fun_induction words front with
  | case1 => rfl
  | case2 last => cases even
  | case3 high low rest inductiveHypothesis =>
      have shorter : rest.length % 2 = 0 := by
        simp only [List.length_cons] at even
        omega
      show words (high :: low :: (rest ++ back)) = _
      rw [words, inductiveHypothesis shorter]
      rfl

/-- A field at an even place adds its number to the rest. -/
theorem total_field {front : Bytes} (even : front.length % 2 = 0) (value : UInt16)
    (back : Bytes) :
    total (front ++ (Wire.word16 value ++ back)) = total front + (value.toNat + total back) := by
  have field : words (Wire.word16 value ++ back) = value :: words back := by
    show Wire.join16 (UInt8.ofNat (value.toNat / 256)) value.toUInt8 :: words back = _
    rw [Wire.join16_split]
  rw [total, words_append even, field]
  simp [total]

/-- Data with its checksum stored at an even place, where a zero was when the checksum
was made, has the checksum zero. -/
theorem checksum_stored {front : Bytes} (even : front.length % 2 = 0) (back : Bytes) :
    checksum (front ++
      (Wire.word16 (checksum (front ++ (Wire.word16 0 ++ back))) ++ back)) = 0 := by
  let bare := front ++ (Wire.word16 0 ++ back)
  let stored := front ++ (Wire.word16 (checksum bare) ++ back)
  have bareTotal : total bare = total front + total back := by
    rw [total_field even]
    simp
  have storedTotal : total stored = total bare + (0xFFFF - sum bare) := by
    rw [total_field even, toNat_checksum, bareTotal]
    omega
  have bareBound := sum_le bare
  have bareMod := sum_mod bare
  have storedPositive := sum_pos stored
  have storedBound := sum_le stored
  have storedMod := sum_mod stored
  rw [storedTotal] at storedMod
  apply UInt16.toNat_inj.mp
  rw [toNat_checksum]
  show 0xFFFF - sum stored = 0
  omega

end Checksum

namespace Ipv4.Header

/-- A header lies around its checksum. -/
theorem exists_encode_eq (header : Ipv4.Header) :
    ∃ front back : Bytes, front.length = 10 ∧ ∀ checksum : UInt16,
      { header with checksum }.encode = front ++ (Wire.word16 checksum ++ back) := by
  refine ⟨[header.versionLength, header.service] ++ Wire.word16 header.totalLength ++
      Wire.word16 header.identification ++ Wire.word16 header.fragment ++
      [header.timeToLive, header.protocol], header.source.toBytes ++ header.destination.toBytes,
    by simp, fun checksum => rfl⟩

/-- A stamped header has the checksum zero. -/
theorem checksum_encode_stamp (header : Ipv4.Header) (identification : UInt16) :
    Checksum.checksum (header.stamp identification).encode = 0 := by
  obtain ⟨front, back, length, encoded⟩ := { header with identification }.exists_encode_eq
  have even : front.length % 2 = 0 := by rw [length]
  rw [stamp, encoded, computedChecksum, encoded 0]
  exact Checksum.checksum_stored even back

end Ipv4.Header

end NetStack
