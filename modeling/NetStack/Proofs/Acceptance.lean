/-
Module: NetStack.Proofs.Acceptance
Purpose: Which packets are accepted, read off their bytes, and that no accepted packet
  is accepted with a bit of its header turned over.
Main exports:
  Ipv4.byteAt, Ipv4.wordAt, Ipv4.headerChecksum, Ipv4.Intact, Ipv4.objection?,
  Interface.serve, Interface.receivePacket_accepts_intact
-/
import NetStack.Proofs.Detection
import NetStack.Proofs.Headers
import NetStack.Proofs.Outcome
import NetStack.Interface.Polling

namespace NetStack

/-!
A packet is decoded, judged and served field by field.  Here the judgement is stated on
the bytes themselves, and a header that was decoded is the bytes that it was decoded
from.  An intact header adds up to nothing, and a header that differs from it in one bit
does not.
-/

namespace Ipv4

/-- The byte at a place of a packet, or 0 behind its end. -/
def byteAt (packet : Bytes) (place : Nat) : UInt8 :=
  packet.getD place 0

/-- The big-endian word at a place of a packet. -/
def wordAt (packet : Bytes) (place : Nat) : UInt16 :=
  Wire.join16 (byteAt packet place) (byteAt packet (place + 1))

/-- The checksum of the first 20 bytes of a packet, with zero in the place of the
checksum that they store. -/
def headerChecksum (packet : Bytes) : UInt16 :=
  Checksum.checksum (Checksum.patch (packet.take 20) 10 0)

/-- A whole packet of version 4 whose header has no options and was not corrupted. -/
structure Intact (packet : Bytes) : Prop where
  whole : 20 ≤ packet.length
  version : byteAt packet 0 = 0x45
  checksum : headerChecksum packet = wordAt packet 10
  holds : 20 ≤ (wordAt packet 2).toNat
  inside : (wordAt packet 2).toNat ≤ packet.length

/-- What is wrong with a packet, by the first check that it fails. -/
def objection? (packet : Bytes) : Option StackError :=
  if packet.length < 20 then
    some .truncated
  else if byteAt packet 0 ≠ 0x45 then
    some (.unsupportedVersion (byteAt packet 0))
  else if headerChecksum packet ≠ wordAt packet 10 then
    some (.badChecksum (wordAt packet 10) (headerChecksum packet))
  else if (wordAt packet 2).toNat < 20 ∨ packet.length < (wordAt packet 2).toNat then
    some .truncated
  else
    none

theorem intact_iff_no_objection {packet : Bytes} : Intact packet ↔ objection? packet = none := by
  constructor
  · rintro ⟨whole, version, checksum, holds, inside⟩
    have reaches : ¬(packet.length < 20) := by omega
    have length : ¬((wordAt packet 2).toNat < 20 ∨ packet.length < (wordAt packet 2).toNat) := by
      omega
    simp [objection?, reaches, version, checksum, length]
  · intro silent
    unfold objection? at silent
    split_ifs at silent with short version checksum length
    exact ⟨by omega, not_not.mp version, not_not.mp checksum, by omega, by omega⟩

/-! ## A decoded header is its bytes -/

section Fields

variable (header : Header) (rest : Bytes)

theorem wordAt_total : wordAt (header.encode ++ rest) 2 = header.totalLength :=
  Wire.join16_split header.totalLength

theorem wordAt_checksum : wordAt (header.encode ++ rest) 10 = header.checksum :=
  Wire.join16_split header.checksum

theorem headerChecksum_encode :
    headerChecksum (header.encode ++ rest) = header.computedChecksum := rfl

theorem objection_encode :
    objection? (header.encode ++ rest) =
      if header.versionLength ≠ versionAndLength then
        some (.unsupportedVersion header.versionLength)
      else if header.computedChecksum ≠ header.checksum then
        some (.badChecksum header.checksum header.computedChecksum)
      else if header.totalLength.toNat < headerLength ∨
          (header.encode ++ rest).length < header.totalLength.toNat then
        some .truncated
      else
        none := by
  have long : ¬(header.encode ++ rest).length < 20 := by
    rw [List.length_append, Header.length_encode, headerLength]
    omega
  unfold objection?
  rw [if_neg long, wordAt_checksum, headerChecksum_encode, wordAt_total]
  rfl

end Fields

/-- A packet that is long enough starts with a header. -/
theorem exists_header {packet : Bytes} (whole : 20 ≤ packet.length) :
    ∃ header rest, packet = Header.encode header ++ rest := by
  cases decoded : Header.decode packet with
  | none =>
      have short : packet.length < 20 := Header.decode_eq_none_iff.mp decoded
      omega
  | some header =>
      refine ⟨header, packet.drop 20, ?_⟩
      rw [Header.encode_of_decode decoded]
      exact (List.take_append_drop 20 packet).symm

/-- The stored checksum is the due one if the header adds up to nothing, and the stored
zero is the one that checksums have. -/
theorem headerChecksum_eq_iff {packet : Bytes} (whole : 20 ≤ packet.length) :
    headerChecksum packet = wordAt packet 10 ↔
      Checksum.checksum (packet.take 20) = 0 ∧ wordAt packet 10 ≠ 0xFFFF := by
  obtain ⟨header, rest, rfl⟩ := exists_header whole
  rw [wordAt_checksum, headerChecksum_encode]
  have intact := header.isIntact_iff
  rwa [Header.isIntact, beq_iff_eq] at intact

/-! ## A bit turned over -/

section Flipped

open Checksum

variable {packet : Bytes} {position : Nat}

@[simp] theorem length_flipBit : (flipBit packet position).length = packet.length :=
  List.length_modify ..

theorem byteAt_flipBit_of_ne {place : Nat} (elsewhere : position / 8 ≠ place) :
    byteAt (flipBit packet position) place = byteAt packet place := by
  simp [byteAt, flipBit, elsewhere]

/-- The byte with the bit in it is another one. -/
theorem byteAt_flipBit_ne (inside : position < 8 * packet.length) :
    byteAt (flipBit packet position) (position / 8) ≠ byteAt packet (position / 8) := by
  obtain ⟨old, byte, found, differs, flipped⟩ := flipBit_eq_set inside
  obtain ⟨place, rfl⟩ := List.getElem?_eq_some_iff.mp found
  simpa [byteAt, flipped, place] using differs

theorem take_flipBit :
    (flipBit packet position).take 20 = flipBit (packet.take 20) position :=
  List.take_modify ..

/-- An intact header with one of its bits turned over is refused: for its version if the
bit is in the first byte, and else for its checksum. -/
theorem objection_flipBit (intact : Intact packet) (front : position < 160) :
    objection? (flipBit packet position) =
      some (if position < 8 then
        .unsupportedVersion (byteAt (flipBit packet position) 0)
      else
        .badChecksum (wordAt (flipBit packet position) 10)
          (headerChecksum (flipBit packet position))) := by
  have whole := intact.whole
  have long : 20 ≤ (flipBit packet position).length := by rwa [length_flipBit]
  by_cases first : position < 8
  · have place : position / 8 = 0 := by omega
    have changed : byteAt (flipBit packet position) (position / 8) ≠
        byteAt packet (position / 8) := byteAt_flipBit_ne (by omega)
    rw [place, intact.version] at changed
    simp [objection?, whole, changed, first]
  · have same : byteAt (flipBit packet position) 0 = 0x45 := by
      rw [byteAt_flipBit_of_ne (by omega), intact.version]
    have sums : checksum (packet.take 20) = 0 :=
      ((headerChecksum_eq_iff whole).mp intact.checksum).1
    -- The header added up to nothing, and now adds up to something else.
    have differs : headerChecksum (flipBit packet position) ≠
        wordAt (flipBit packet position) 10 := by
      intro holds
      have vanishes := ((headerChecksum_eq_iff long).mp holds).1
      rw [take_flipBit, ← sums] at vanishes
      refine checksum_flipBit_ne ?_ vanishes
      rw [List.length_take]
      omega
    simp [objection?, whole, same, differs, first]

end Flipped

end Ipv4

namespace Interface

open Ipv4

/-- Hand what the total length leaves of a packet behind its header to the protocol that
the header names.  A packet for another protocol is passed over. -/
def serve (packet : Bytes) : Action Interface Unit :=
  let sender : Ipv4Address :=
    ⟨byteAt packet 12, byteAt packet 13, byteAt packet 14, byteAt packet 15⟩
  let payload := (packet.take (wordAt packet 2).toNat).drop 20
  if byteAt packet 9 = 6 then
    receiveSegment sender payload
  else if byteAt packet 9 = 17 then
    receiveDatagram payload
  else if byteAt packet 9 = 1 then
    receiveEcho sender payload
  else
    pure ()

/-- To serve a packet is to dispatch its payload by the header that it was decoded to. -/
theorem outcome_serve (header : Ipv4.Header) (rest : Bytes) (interface : Interface) :
    (serve (header.encode ++ rest)).outcome interface =
      (dispatchPacket header
        (((header.encode ++ rest).take header.totalLength.toNat).drop 20)).outcome interface := by
  have protocol : byteAt (header.encode ++ rest) 9 = header.protocol := rfl
  unfold serve dispatchPacket
  rw [wordAt_total, protocol]
  simp only [Action.outcome_ite]
  rfl

/-- A packet is refused for what is first wrong with it, and served if nothing is. -/
theorem outcome_receivePacket_eq (packet : Bytes) (interface : Interface) :
    (receivePacket packet).outcome interface =
      match objection? packet with
      | some cause => (.error (.refused cause), interface)
      | none => (serve packet).outcome interface := by
  by_cases whole : 20 ≤ packet.length
  · obtain ⟨header, rest, rfl⟩ := exists_header whole
    rw [objection_encode]
    unfold receivePacket
    simp only [Action.outcome_emit_bind, Header.decode_encode, Action.demand_some, pure_bind]
    split
    · rfl
    · split
      · rfl
      · split
        · rfl
        · next outside =>
          rw [Bytes.slice_eq_ok (by omega) (by omega), Action.check_ok, pure_bind]
          exact (outcome_serve header rest interface).symm
  · have short : packet.length < 20 := Nat.lt_of_not_le whole
    have missing : Header.decode packet = none := Header.decode_eq_none_iff.mpr short
    unfold receivePacket objection?
    simp only [Action.outcome_emit_bind, missing, Action.demand_none, Action.outcome_refuse_bind]
    rw [if_pos short]

/-- Exactly the intact packets are accepted.  Whatever the state, an intact packet has
its payload handed to the protocol that it names; any other is refused for the first
check that it fails, and nothing is changed or sent.  An intact packet with any one bit
of its header turned over is refused so too. -/
theorem receivePacket_accepts_intact (interface : Interface) (packet : Bytes) :
    (Intact packet →
      (receivePacket packet).outcome interface = (serve packet).outcome interface) ∧
      (∀ cause, objection? packet = some cause →
        (receivePacket packet).outcome interface = (.error (.refused cause), interface)) ∧
      (Intact packet ↔ objection? packet = none) ∧
      (Intact packet → ∀ position < 160,
        let flipped := Checksum.flipBit packet position
        (receivePacket flipped).outcome interface =
          (.error (.refused
            (if position < 8 then
              .unsupportedVersion (byteAt flipped 0)
            else
              .badChecksum (wordAt flipped 10) (headerChecksum flipped))), interface)) := by
  refine ⟨?_, ?_, intact_iff_no_objection, ?_⟩
  · intro intact
    rw [outcome_receivePacket_eq, intact_iff_no_objection.mp intact]
  · intro cause objects
    rw [outcome_receivePacket_eq, objects]
  · intro intact position front
    dsimp only
    rw [outcome_receivePacket_eq, objection_flipBit intact front]

end Interface

end NetStack
