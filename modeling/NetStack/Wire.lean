/-
Module: NetStack.Wire
Purpose: Big-endian fields: how each kind of field is written, and readers
  that take it off the front of a byte string.
Main exports:
  Wire.word16, Wire.word32, Wire.Reader, Wire.Reader.word16, Wire.Reader.mac,
  Wire.Reader.skip
-/
import NetStack.Address

namespace NetStack.Wire

/-!
Every header is a row of fields.  A field is written as a few bytes and read
off the front of what is left; the reader of a field undoes its writer in front
of any further bytes, and fails exactly when the bytes run out.  The laws of a
header follow field by field.
-/

/-- A 16-bit field, high byte first. -/
def word16 (value : UInt16) : Bytes :=
  [UInt8.ofNat (value.toNat / 256), value.toUInt8]

/-- A 32-bit field, highest byte first. -/
def word32 (value : UInt32) : Bytes :=
  [UInt8.ofNat (value.toNat / 16777216), UInt8.ofNat (value.toNat / 65536),
    UInt8.ofNat (value.toNat / 256), value.toUInt8]

/-- The 16-bit word made of two bytes. -/
def join16 (high low : UInt8) : UInt16 :=
  UInt16.ofNat (high.toNat * 256 + low.toNat)

/-- The 32-bit word made of four bytes, the highest one first. -/
def join32 (first second third fourth : UInt8) : UInt32 :=
  UInt32.ofNat
    (first.toNat * 16777216 + second.toNat * 65536 + third.toNat * 256 + fourth.toNat)

/-- Takes a value off the front of the bytes; nothing when they run out. -/
abbrev Reader (α : Type) := StateT Bytes Option α

namespace Reader

/-- The value at the front of `data`, whatever follows it. -/
def read {α : Type} (reader : Reader α) (data : Bytes) : Option α :=
  (reader.run data).map Prod.fst

def byte : Reader UInt8 := fun data =>
  match data with
  | [] => none
  | first :: rest => some (first, rest)

def word16 : Reader UInt16 := do
  let high ← byte
  let low ← byte
  return join16 high low

def word32 : Reader UInt32 := do
  let first ← byte
  let second ← byte
  let third ← byte
  let fourth ← byte
  return join32 first second third fourth

def mac : Reader MacAddress := do
  let first ← byte
  let second ← byte
  let third ← byte
  let fourth ← byte
  let fifth ← byte
  let sixth ← byte
  return ⟨first, second, third, fourth, fifth, sixth⟩

def ipv4 : Reader Ipv4Address := do
  let first ← byte
  let second ← byte
  let third ← byte
  let fourth ← byte
  return ⟨first, second, third, fourth⟩

/-- Passes over `count` bytes without looking at them. -/
def skip : Nat → Reader Unit
  | 0 => return ()
  | count + 1 => do
      let _ ← byte
      skip count

end Reader

/-! ## Field laws -/

@[simp] theorem length_word16 (value : UInt16) : (word16 value).length = 2 := rfl

@[simp] theorem length_word32 (value : UInt32) : (word32 value).length = 4 := rfl

theorem join16_split (value : UInt16) :
    join16 (UInt8.ofNat (value.toNat / 256)) value.toUInt8 = value := by
  apply UInt16.toNat_inj.mp
  have bound := value.toNat_lt
  simp only [join16, UInt16.toNat_ofNat', UInt8.toNat_ofNat', UInt16.toNat_toUInt8]
  omega

theorem join32_split (value : UInt32) :
    join32 (UInt8.ofNat (value.toNat / 16777216)) (UInt8.ofNat (value.toNat / 65536))
      (UInt8.ofNat (value.toNat / 256)) value.toUInt8 = value := by
  apply UInt32.toNat_inj.mp
  have bound := value.toNat_lt
  simp only [join32, UInt32.toNat_ofNat', UInt8.toNat_ofNat', UInt32.toNat_toUInt8]
  omega

theorem word16_join (high low : UInt8) : word16 (join16 high low) = [high, low] := by
  have boundHigh := high.toNat_lt
  have boundLow := low.toNat_lt
  have value : (join16 high low).toNat = high.toNat * 256 + low.toNat := by
    simp only [join16, UInt16.toNat_ofNat']
    omega
  simp only [word16, List.cons.injEq, and_true]
  constructor
  · apply UInt8.toNat_inj.mp
    simp only [value, UInt8.toNat_ofNat']
    omega
  · apply UInt8.toNat_inj.mp
    simp only [UInt16.toNat_toUInt8, value]
    omega

theorem word32_join (first second third fourth : UInt8) :
    word32 (join32 first second third fourth) = [first, second, third, fourth] := by
  have bound1 := first.toNat_lt
  have bound2 := second.toNat_lt
  have bound3 := third.toNat_lt
  have bound4 := fourth.toNat_lt
  have value : (join32 first second third fourth).toNat =
      first.toNat * 16777216 + second.toNat * 65536 + third.toNat * 256 + fourth.toNat := by
    simp only [join32, UInt32.toNat_ofNat']
    omega
  simp only [word32, List.cons.injEq, and_true]
  refine ⟨?_, ?_, ?_, ?_⟩ <;> apply UInt8.toNat_inj.mp <;>
    simp only [UInt8.toNat_ofNat', UInt32.toNat_toUInt8, value] <;> omega

/-! Each reader takes back what its field was written as, and leaves the rest. -/

namespace Reader

variable (rest : Bytes)

@[simp] theorem run_byte (value : UInt8) :
    Reader.byte.run (value :: rest) = some (value, rest) := rfl

@[simp] theorem run_skip (count : Nat) (passed : Bytes) (counted : passed.length = count) :
    (Reader.skip count).run (passed ++ rest) = some ((), rest) := by
  induction count generalizing passed with
  | zero =>
      obtain rfl := List.length_eq_zero_iff.mp counted
      rfl
  | succ count inductiveHypothesis =>
      obtain ⟨first, passed, rfl⟩ := List.exists_cons_of_length_eq_add_one counted
      exact inductiveHypothesis passed (by simpa using counted)

@[simp] theorem run_word16 (value : UInt16) :
    Reader.word16.run (Wire.word16 value ++ rest) = some (value, rest) := by
  show some (join16 (UInt8.ofNat (value.toNat / 256)) value.toUInt8, rest) = some (value, rest)
  rw [join16_split]

@[simp] theorem run_word32 (value : UInt32) :
    Reader.word32.run (Wire.word32 value ++ rest) = some (value, rest) := by
  show some (join32 (UInt8.ofNat (value.toNat / 16777216)) (UInt8.ofNat (value.toNat / 65536))
    (UInt8.ofNat (value.toNat / 256)) value.toUInt8, rest) = some (value, rest)
  rw [join32_split]

@[simp] theorem run_mac (mac : MacAddress) :
    Reader.mac.run (mac.toBytes ++ rest) = some (mac, rest) := rfl

@[simp] theorem run_ipv4 (address : Ipv4Address) :
    Reader.ipv4.run (address.toBytes ++ rest) = some (address, rest) := rfl

end Reader

end NetStack.Wire
