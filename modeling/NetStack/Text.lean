/-
Module: NetStack.Text
Purpose: Spellings that several layers share: hexadecimal numbers and dumps,
  and text recovered from bytes that may not be well-formed UTF-8.
Main exports:
  Text.hex, Text.hexPadded, Text.hexDump, Text.ofUtf8
-/
import NetStack.Bytes

namespace NetStack.Text

/-- A number in lower-case hexadecimal, without leading zeros. -/
def hex (value : Nat) : String :=
  String.ofList (Nat.toDigits 16 value)

/-- A number in lower-case hexadecimal, filled up with zeros to `digits`
digits. -/
def hexPadded (digits value : Nat) : String :=
  let spelled := Nat.toDigits 16 value
  String.ofList (List.replicate (digits - spelled.length) '0' ++ spelled)

/-- Two hexadecimal digits per byte, without separators. -/
def hexDump (data : Bytes) : String :=
  String.join (data.map fun byte => hexPadded 2 byte.toNat)

/-!
Recovering text.  A well-formed sequence stands for its character.  Where the
bytes are not well formed, each longest start of a well-formed sequence, or
else a single byte, becomes one replacement character U+FFFD.
-/

/-- How a well-formed sequence of several bytes goes on after its first byte:
the bounds of the second byte, and how many bytes follow that one. -/
structure Lead where
  bits : Nat
  low : UInt8
  high : UInt8
  more : Nat

/-- The bytes that open a sequence of several bytes.  The bounds of the second
byte leave out overlong spellings, surrogates and numbers past U+10FFFF. -/
def lead? (byte : UInt8) : Option Lead :=
  if 0xC2 ≤ byte ∧ byte ≤ 0xDF then some ⟨byte.toNat - 0xC0, 0x80, 0xBF, 0⟩
  else if byte = 0xE0 then some ⟨0x0, 0xA0, 0xBF, 1⟩
  else if byte = 0xED then some ⟨0xD, 0x80, 0x9F, 1⟩
  else if 0xE1 ≤ byte ∧ byte ≤ 0xEF then some ⟨byte.toNat - 0xE0, 0x80, 0xBF, 1⟩
  else if byte = 0xF0 then some ⟨0x0, 0x90, 0xBF, 2⟩
  else if 0xF1 ≤ byte ∧ byte ≤ 0xF3 then some ⟨byte.toNat - 0xF0, 0x80, 0xBF, 2⟩
  else if byte = 0xF4 then some ⟨0x4, 0x80, 0x8F, 2⟩
  else none

/-- Characters recovered so far, newest first, and the sequence that is still
open, if any. -/
structure Recovery where
  recovered : List Char
  pending : Option Lead

/-- The character that stands in for bytes that are not well formed. -/
def replacement : Char :=
  '\uFFFD'

/-- Start a sequence with `byte`. -/
def Recovery.start (recovered : List Char) (byte : UInt8) : Recovery :=
  if byte < 0x80 then
    ⟨Char.ofNat byte.toNat :: recovered, none⟩
  else
    match lead? byte with
    | some lead => ⟨recovered, some lead⟩
    | none => ⟨replacement :: recovered, none⟩

/-- Read one more byte. -/
def Recovery.step (recovery : Recovery) (byte : UInt8) : Recovery :=
  match recovery.pending with
  | none => Recovery.start recovery.recovered byte
  | some lead =>
      if lead.low ≤ byte ∧ byte ≤ lead.high then
        let bits := lead.bits * 64 + (byte.toNat - 0x80)
        match lead.more with
        | 0 => ⟨Char.ofNat bits :: recovery.recovered, none⟩
        | more + 1 => ⟨recovery.recovered, some ⟨bits, 0x80, 0xBF, more⟩⟩
      else
        Recovery.start (replacement :: recovery.recovered) byte

/-- The text that the bytes spell. -/
def ofUtf8 (data : Bytes) : String :=
  let recovery := data.foldl Recovery.step ⟨[], none⟩
  let recovered :=
    match recovery.pending with
    | some _ => replacement :: recovery.recovered
    | none => recovery.recovered
  String.ofList recovered.reverse

end NetStack.Text
