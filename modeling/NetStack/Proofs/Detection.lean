/-
Module: NetStack.Proofs.Detection
Purpose: The Internet checksum as a residue of a sum of words, and which changes of
  the data it notices.
Main exports:
  Checksum.wordSum, Checksum.patch, Checksum.flipBit, Checksum.toNat_checksum_eq,
  Checksum.checksum_field_iff, Checksum.checksum_word_iff, Checksum.checksum_byte_iff,
  Ipv4.Header.isIntact_iff, Checksum.checksum_detects_word_errors
-/
import Mathlib.Data.Int.ModEq
import NetStack.Proofs.Checksum

namespace NetStack

/-!
Data enters its checksum through one number alone, the sum of its words modulo 0xFFFF.
A change is therefore noticed unless it moves that sum by a multiple of 0xFFFF, and no
change within one word does that, but for the one between the two words that count as
nothing.
-/

namespace Checksum

/-- The sum of the big-endian 16-bit words of the data.  An odd last byte is the high
byte of a last word. -/
def wordSum : Bytes → Nat
  | [] => 0
  | [last] => 256 * last.toNat
  | high :: low :: rest => 256 * high.toNat + low.toNat + wordSum rest

/-- The data with a word stored in it. -/
def patch (data : Bytes) (place : Nat) (word : UInt16) : Bytes :=
  data.take place ++ (Wire.word16 word ++ data.drop (place + 2))

/-- The data with one bit turned over.  Bits are numbered byte by byte. -/
def flipBit (data : Bytes) (position : Nat) : Bytes :=
  data.modify (position / 8) fun byte => byte ^^^ (1 <<< UInt8.ofNat (position % 8))

/-! ## The residue -/

theorem toNat_join16 (high low : UInt8) :
    (Wire.join16 high low).toNat = 256 * high.toNat + low.toNat := by
  have highBound := high.toNat_lt
  have lowBound := low.toNat_lt
  simp only [Wire.join16, UInt16.toNat_ofNat']
  omega

theorem total_eq_wordSum (data : Bytes) : total data = wordSum data := by
  fun_induction wordSum data with
  | case1 => rfl
  | case2 last => simp [total, words, toNat_join16]
  | case3 high low rest inductiveHypothesis =>
      rw [← inductiveHypothesis, ← toNat_join16]
      simp [total, words]

/-- The checksum is what the sum of the words lacks to the next multiple of 0xFFFF. -/
theorem toNat_checksum_eq (data : Bytes) :
    (checksum data).toNat = (0xFFFF - total data % 0xFFFF) % 0xFFFF := by
  have positive := sum_pos data
  have bound := sum_le data
  have residue := sum_mod data
  rw [toNat_checksum]
  omega

theorem checksum_eq_iff {data other : Bytes} :
    checksum data = checksum other ↔ total data % 0xFFFF = total other % 0xFFFF := by
  rw [← UInt16.toNat_inj, toNat_checksum_eq, toNat_checksum_eq]
  omega

/-- It is the least number that completes the sum to a multiple of 0xFFFF, and no other
number below 0xFFFF does. -/
theorem checksum_unique (data : Bytes) (value : Nat) :
    value = (checksum data).toNat ↔
      value ≤ 0xFFFE ∧ (value : Int) ≡ -(wordSum data : Int) [ZMOD 0xFFFF] := by
  rw [toNat_checksum_eq, total_eq_wordSum, Int.ModEq]
  omega

/-- The accumulator is a 16-bit number after every word. -/
theorem foldl_accumulate_le {sum : Nat} (bound : sum ≤ 0xFFFF) (words : List UInt16) :
    words.foldl accumulate sum ≤ 0xFFFF := by
  induction words generalizing sum with
  | nil => exact bound
  | cons word words inductiveHypothesis => exact inductiveHypothesis (accumulate_le bound word)

/-! ## Changes of one word -/

variable {front : Bytes}

/-- What is stored in a field makes the checksum vanish exactly if it is the checksum
that the data has without it, or the other zero. -/
theorem checksum_field_iff (even : front.length % 2 = 0) (back : Bytes) (stored : UInt16) :
    checksum (front ++ (Wire.word16 stored ++ back)) = 0 ↔
      let due := checksum (front ++ (Wire.word16 0 ++ back))
      stored = due ∨ (due = 0 ∧ stored = 0xFFFF) := by
  have bound := stored.toNat_lt
  have due := toNat_checksum_eq (front ++ (Wire.word16 0 ++ back))
  rw [total_field even] at due
  simp only [← UInt16.toNat_inj, toNat_checksum_eq (front ++ (Wire.word16 stored ++ back)),
    total_field even, due, UInt16.reduceToNat]
  omega

/-- Another word in the place of one goes unnoticed only if both count as nothing. -/
theorem checksum_word_iff (even : front.length % 2 = 0) (back : Bytes) (word other : UInt16) :
    checksum (front ++ (Wire.word16 word ++ back)) =
        checksum (front ++ (Wire.word16 other ++ back)) ↔
      word = other ∨ (word = 0 ∧ other = 0xFFFF) ∨ (word = 0xFFFF ∧ other = 0) := by
  have bound := word.toNat_lt
  have otherBound := other.toNat_lt
  rw [checksum_eq_iff, total_field even, total_field even]
  simp only [← UInt16.toNat_inj, UInt16.reduceToNat]
  omega

/-! ## Changes of one byte -/

/-- A byte counts once or 256-fold. -/
theorem wordSum_set {data : Bytes} {place : Nat} {old : UInt8} (found : data[place]? = some old)
    (byte : UInt8) :
    ∃ weight, (weight = 1 ∨ weight = 256) ∧
      wordSum (data.set place byte) + weight * old.toNat =
        wordSum data + weight * byte.toNat := by
  fun_induction wordSum data generalizing place with
  | case1 => simp at found
  | case2 last =>
      obtain ⟨rfl, rfl⟩ : place = 0 ∧ last = old := by
        cases place with
        | zero => simpa using found
        | succ place => simp at found
      refine ⟨256, .inr rfl, ?_⟩
      simp [wordSum]
      omega
  | case3 high low rest inductiveHypothesis =>
      match place with
      | 0 =>
          obtain rfl : high = old := by simpa using found
          refine ⟨256, .inr rfl, ?_⟩
          simp [wordSum]
          omega
      | 1 =>
          obtain rfl : low = old := by simpa using found
          refine ⟨1, .inl rfl, ?_⟩
          simp [wordSum]
          omega
      | place + 2 =>
          obtain ⟨weight, either, same⟩ := inductiveHypothesis (by simpa using found)
          refine ⟨weight, either, ?_⟩
          simp only [List.set_cons_succ, wordSum]
          omega

/-- Another byte in the place of one is always noticed. -/
theorem checksum_byte_iff {data : Bytes} {place : Nat} {old : UInt8}
    (found : data[place]? = some old) (byte : UInt8) :
    checksum (data.set place byte) = checksum data ↔ byte = old := by
  obtain ⟨weight, either, moved⟩ := wordSum_set found byte
  have bound := byte.toNat_lt
  have oldBound := old.toNat_lt
  rw [checksum_eq_iff, total_eq_wordSum, total_eq_wordSum, ← UInt8.toNat_inj]
  rcases either with rfl | rfl <;> omega

theorem flipped_ne (byte : UInt8) {bit : Nat} (small : bit < 8) :
    byte ^^^ (1 <<< UInt8.ofNat bit) ≠ byte := by
  have mask : ∀ place : Fin 8, (1 : UInt8) <<< UInt8.ofNat place ≠ 0 := by decide
  intro same
  apply mask ⟨bit, small⟩
  have cancelled := congrArg (byte ^^^ ·) same
  simpa [← UInt8.xor_assoc] using cancelled

/-- To turn one bit over is to put another byte in the place of one. -/
theorem flipBit_eq_set {data : Bytes} {position : Nat} (inside : position < 8 * data.length) :
    ∃ old byte, data[position / 8]? = some old ∧ byte ≠ old ∧
      flipBit data position = data.set (position / 8) byte := by
  have place : position / 8 < data.length := by omega
  refine ⟨data[position / 8], _, List.getElem?_eq_getElem place,
    flipped_ne _ (Nat.mod_lt position (by decide)), ?_⟩
  rw [flipBit, List.modify_eq_set, List.getElem?_eq_getElem place]
  rfl

theorem checksum_flipBit_ne {data : Bytes} {position : Nat}
    (inside : position < 8 * data.length) : checksum (flipBit data position) ≠ checksum data := by
  obtain ⟨old, byte, found, differs, flipped⟩ := flipBit_eq_set inside
  rw [flipped]
  intro same
  exact differs ((checksum_byte_iff found byte).mp same)

end Checksum

namespace Ipv4.Header

/-- A header is intact if it adds up to nothing, and its checksum is not the zero that
no sum complements to. -/
theorem isIntact_iff (header : Ipv4.Header) :
    header.isIntact = true ↔
      Checksum.checksum header.encode = 0 ∧ header.checksum ≠ 0xFFFF := by
  obtain ⟨front, back, length, encoded⟩ := header.exists_encode_eq
  have even : front.length % 2 = 0 := by rw [length]
  have whole := encoded header.checksum
  have bound := Checksum.toNat_checksum_eq (front ++ (Wire.word16 0 ++ back))
  have small : Checksum.checksum (front ++ (Wire.word16 0 ++ back)) ≠ 0xFFFF := by
    simp only [ne_eq, ← UInt16.toNat_inj, bound, UInt16.reduceToNat]
    omega
  rw [isIntact, computedChecksum, encoded 0, beq_iff_eq, whole,
    Checksum.checksum_field_iff even back header.checksum]
  grind

end Ipv4.Header

namespace Checksum

/-- The Internet checksum is a residue, and notices whatever moves that residue.  It is
the one number below 0xFFFF that is congruent to minus the sum of the words modulo
0xFFFF, and the accumulator that it is made from never leaves 32 bits.  Stored in an
aligned field that was zero, it makes the checksum vanish.  Another word in the place of
an aligned one goes unnoticed only where 0x0000 and 0xFFFF take each other's place;
another byte in the place of one is always noticed, the odd last one included, and so is
every bit that is turned over.  A header is intact if it adds up to nothing and the
checksum stored in it is not 0xFFFF. -/
theorem checksum_detects_word_errors (data : Bytes) :
    (∀ value : Nat, value = (checksum data).toNat ↔
      value ≤ 0xFFFE ∧ (value : Int) ≡ -(wordSum data : Int) [ZMOD 0xFFFF]) ∧
      (checksum data).toNat = 0xFFFF - (words data).foldl accumulate 0xFFFF ∧
      (∀ (earlier : List UInt16) (word : UInt16), earlier ++ [word] <+: words data →
        earlier.foldl accumulate 0xFFFF + word.toNat < 2 ^ 32) ∧
      (∀ place, place % 2 = 0 → place + 2 ≤ data.length →
        (patch data place 0 = data → checksum (patch data place (checksum data)) = 0) ∧
          ∀ word other, patch data place word = data →
            (checksum (patch data place other) = checksum data ↔
              word = other ∨ (word = 0 ∧ other = 0xFFFF) ∨ (word = 0xFFFF ∧ other = 0))) ∧
      (∀ place old byte, data[place]? = some old →
        (checksum (data.set place byte) = checksum data ↔ byte = old)) ∧
      (∀ position, position < 8 * data.length →
        checksum (flipBit data position) ≠ checksum data) ∧
      ∀ header : Ipv4.Header,
        header.isIntact = true ↔ checksum header.encode = 0 ∧ header.checksum ≠ 0xFFFF := by
  refine ⟨checksum_unique data, ?_, ?_, ?_, ?_, ?_, Ipv4.Header.isIntact_iff⟩
  · rw [toNat_checksum, sum, addWords_eq_foldl]
  · intro earlier word _
    have bounded := foldl_accumulate_le (Nat.le_refl 0xFFFF) earlier
    have wordBound := word.toNat_lt
    omega
  · intro place aligned inside
    have even : (data.take place).length % 2 = 0 := by
      rw [List.length_take, Nat.min_eq_left (by omega), aligned]
    constructor
    · intro vacant
      have stored := checksum_stored even (data.drop (place + 2))
      rw [show data.take place ++ (Wire.word16 0 ++ data.drop (place + 2)) = data from vacant]
        at stored
      exact stored
    · intro word other holds
      have same := checksum_word_iff even (data.drop (place + 2)) word other
      rw [show data.take place ++ (Wire.word16 word ++ data.drop (place + 2)) = data from holds]
        at same
      rw [← same]
      exact eq_comm
  · intro place old byte found
    exact checksum_byte_iff found byte
  · intro position inside
    exact checksum_flipBit_ne inside

/-- Where the two zeros take each other's place nothing is noticed. -/
example : checksum [0x45, 0x00, 0x00, 0x00] = checksum [0x45, 0x00, 0xFF, 0xFF] := by
  decide

end Checksum

end NetStack
