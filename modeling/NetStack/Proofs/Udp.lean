/-
Module: NetStack.Proofs.Udp
Purpose: Datagrams read back as they were written, and what a datagram declares to be its
  payload.
Main exports:
  Bytes.splice_behind, Udp.datagram, Udp.writeDatagram_eq, Udp.Conveys,
  Udp.conveys_datagram, Udp.Header.slice_payload
-/
import NetStack.Proofs.Headers

namespace NetStack

/-!
Three limits meet in a datagram: the length that it declares, the bytes that are there,
and the room that there is for them.  Whoever writes one declares what was carried, and
whoever reads one is held to both the declaration and the bytes.
-/

/-- What is written right behind the front of a buffer joins it, and what lies further
behind stays. -/
theorem Bytes.splice_behind (front : Bytes) {source rest : Bytes}
    (fits : source.length ≤ rest.length) :
    Bytes.splice (front ++ rest) front.length source =
      .ok (front ++ source ++ rest.drop source.length) := by
  have inside : front.length + source.length ≤ (front ++ rest).length := by
    rw [List.length_append]
    omega
  rw [Bytes.splice_eq_ok inside, List.take_left, ← List.drop_drop, List.drop_left]

namespace Udp

/-- The datagram that carries a payload, with the checksum that stands for none. -/
def datagram (sourcePort destinationPort : UInt16) (payload : Bytes) : Bytes :=
  Header.encode {
    sourcePort
    destinationPort
    length := UInt16.ofNat (headerLength + payload.length)
    checksum := 0 } ++ payload

section Writing

variable (sourcePort destinationPort : UInt16) (payload : Bytes)

@[simp] theorem length_datagram :
    (datagram sourcePort destinationPort payload).length = headerLength + payload.length := by
  rw [datagram, List.length_append, Header.length_encode]

/-- A buffer with room for the header takes the datagram that carries as much of a payload
as there is room for, and is left as it was behind it. -/
theorem writeDatagram_eq {out : Bytes} (room : headerLength ≤ out.length) :
    let written := datagram sourcePort destinationPort
      (payload.take (min maxPayload (out.length - headerLength)))
    writeDatagram sourcePort destinationPort payload out =
      .ok { length := written.length, buffer := written ++ out.drop written.length } := by
  intro written
  let carried := payload.take (min maxPayload (out.length - headerLength))
  let header : Header := {
    sourcePort
    destinationPort
    length := UInt16.ofNat (headerLength + carried.length)
    checksum := 0 }
  have cut : carried.length ≤ out.length - headerLength :=
    Nat.le_trans (List.length_take_le _ _) (Nat.min_le_right _ _)
  have headed : Bytes.splice out 0 header.encode =
      .ok (header.encode ++ out.drop headerLength) :=
    Bytes.splice_behind [] room
  have filled : Bytes.splice (header.encode ++ out.drop headerLength) headerLength carried =
      .ok (header.encode ++ carried ++ (out.drop headerLength).drop carried.length) :=
    Bytes.splice_behind header.encode (by rwa [List.length_drop])
  have made : writeDatagram sourcePort destinationPort payload out =
      .ok {
        length := headerLength + carried.length
        buffer := header.encode ++ carried ++ (out.drop headerLength).drop carried.length } := by
    unfold writeDatagram
    dsimp only
    rw [headed]
    simp only [bind, Except.bind]
    rw [filled]
    rfl
  rw [made, List.drop_drop, ← length_datagram sourcePort destinationPort carried]
  rfl

end Writing

/-- A datagram between two ports that carries a payload, is as long as it says, and has no
checksum. -/
structure Conveys (sourcePort destinationPort : UInt16) (payload datagram : Bytes) : Prop where
  decoded : ∃ header, Header.decode datagram = some header ∧
    header.sourcePort = sourcePort ∧ header.destinationPort = destinationPort ∧
    header.length.toNat = datagram.length ∧ header.checksum = 0 ∧
    header.payload datagram = payload

theorem conveys_datagram (sourcePort destinationPort : UInt16) {payload : Bytes}
    (fits : payload.length ≤ maxPayload) :
    Conveys sourcePort destinationPort payload
      (datagram sourcePort destinationPort payload) where
  decoded := by
    have declares : (UInt16.ofNat (headerLength + payload.length)).toNat =
        (datagram sourcePort destinationPort payload).length := by
      have small : headerLength + payload.length < 65536 :=
        Nat.lt_of_le_of_lt (Nat.add_le_add_left fits headerLength) (by decide)
      rw [length_datagram, UInt16.toNat_ofNat', Nat.mod_eq_of_lt small]
    refine ⟨_, Header.decode_encode _ payload, rfl, rfl, declares, rfl, ?_⟩
    rw [Header.payload, declares, Nat.min_self, length_datagram,
      Nat.max_eq_right (Nat.le_add_right _ _), ← length_datagram, List.take_length, datagram,
      List.drop_left' (Header.length_encode _)]

/-- What a header declares to be the payload of a datagram can be cut out of it: it starts
behind the header, and ends where the length says, or else where the datagram does. -/
theorem Header.slice_payload (header : Header) {datagram : Bytes}
    (headed : headerLength ≤ datagram.length) :
    Bytes.slice datagram headerLength (max headerLength (min header.length.toNat datagram.length)) =
      .ok (header.payload datagram) :=
  Bytes.slice_eq_ok (Nat.le_max_left _ _) (Nat.max_le.mpr ⟨headed, Nat.min_le_right _ _⟩)

end Udp

end NetStack
