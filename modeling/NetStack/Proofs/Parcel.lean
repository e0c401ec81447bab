/-
Module: NetStack.Proofs.Parcel
Purpose: What a frame carries, as far as its bytes alone tell.
Main exports:
  Parcel, Parcel.ofFrame, Parcel.ofPacket, Parcel.ofPayload,
  Parcel.ofFrame_eq_segment_iff, Parcel.ofFrame_ne_queueFull
-/
import NetStack.Proofs.Reading

namespace NetStack

open Tcp (Segment)

/-!
Every check on the way up looks at the bytes of a frame and at nothing else: the
order of the checks, and what each of them objects to, can be told without an
interface.  What is left once they are passed is a message for one of the
services.
-/

/-- What a frame carries, as far as its bytes tell. -/
inductive Parcel where
  /-- Something that fails a check on its way up. -/
  | unreadable (cause : StackError)
  /-- A packet of a protocol that is passed over. -/
  | foreign
  | resolution (message : Arp.Message)
  | echo (sender : Ipv4Address) (message : Bytes)
  | datagram (payload : Bytes)
  | segment (segment : Segment)

namespace Parcel

def ofResolution (data : Bytes) : Parcel :=
  match Arp.Message.decode data with
  | none => .unreadable .truncated
  | some message =>
      if message.hardwareType ≠ Arp.ethernetHardware then
        .unreadable (.unsupportedHardwareType message.hardwareType)
      else if message.protocolType ≠ Arp.ipv4Protocol then
        .unreadable (.unsupportedProtocolType message.protocolType)
      else
        .resolution message

def ofEcho (sender : Ipv4Address) (message : Bytes) : Parcel :=
  match Icmp.Header.decode message with
  | none => .unreadable .truncated
  | some header =>
      if !header.isEchoRequest then
        .unreadable (.unsupportedIcmpType header.kind)
      else if header.code ≠ 0 then
        .unreadable (.invalidIcmpCode header.code)
      else
        .echo sender message

def ofDatagram (data : Bytes) : Parcel :=
  match Udp.Header.decode data with
  | none => .unreadable .truncated
  | some header => .datagram (header.payload data)

def ofSegment (sender : Ipv4Address) (data : Bytes) : Parcel :=
  match Segment.ofPayload? sender data with
  | none => .unreadable .truncated
  | some found => .segment found

/-- What the payload of a valid packet is. -/
def ofProtocol (header : Ipv4.Header) (payload : Bytes) : Parcel :=
  if header.protocol = Ipv4.Protocol.tcp then
    ofSegment header.source payload
  else if header.protocol = Ipv4.Protocol.udp then
    ofDatagram payload
  else if header.protocol = Ipv4.Protocol.icmp then
    ofEcho header.source payload
  else
    .foreign

def ofPacket (packet : Bytes) : Parcel :=
  match Ipv4.Header.decode packet with
  | none => .unreadable .truncated
  | some header =>
      let total := header.totalLength.toNat
      if header.versionLength ≠ Ipv4.versionAndLength then
        .unreadable (.unsupportedVersion header.versionLength)
      else if header.computedChecksum ≠ header.checksum then
        .unreadable (.badChecksum header.checksum header.computedChecksum)
      else if total < Ipv4.headerLength ∨ packet.length < total then
        .unreadable .truncated
      else
        ofProtocol header ((packet.take total).drop Ipv4.headerLength)

def ofPayload (etherType : EtherType) (payload : Bytes) : Parcel :=
  match etherType with
  | .ipv4 => ofPacket payload
  | .arp => ofResolution payload
  | .other value => .unreadable (.unsupportedEtherType value)

/-- What a frame carries of whose payload at most `room` bytes are kept. -/
def ofFrame (room : Nat) (frame : Bytes) : Parcel :=
  match Ethernet.Header.decode frame with
  | none => .unreadable .truncated
  | some header => ofPayload header.etherType ((frame.drop Ethernet.headerLength).take room)

/-! ## Segments -/

variable {segment : Segment}

theorem ofSegment_eq_segment_iff {sender : Ipv4Address} {data : Bytes} :
    ofSegment sender data = .segment segment ↔
      Segment.ofPayload? sender data = some segment := by
  unfold ofSegment
  cases Segment.ofPayload? sender data <;> simp

theorem ofPacket_eq_segment_iff {packet : Bytes} :
    ofPacket packet = .segment segment ↔ Segment.ofPacket? packet = some segment := by
  unfold ofPacket Segment.ofPacket?
  cases Ipv4.Header.decode packet with
  | none => simp
  | some header =>
      dsimp only
      split
      · next version => simp [Ipv4.Header.Admits, version]
      · next version =>
        split
        · next intact => simp [Ipv4.Header.Admits, intact]
        · next intact =>
          split
          · next short =>
            have refused : ¬header.Admits packet := by
              rintro ⟨-, -, long, inside⟩
              omega
            simp [refused]
          · next length =>
            have admits : header.Admits packet :=
              ⟨not_not.mp version, not_not.mp intact, by omega, by omega⟩
            unfold ofProtocol
            by_cases tcp : header.protocol = Ipv4.Protocol.tcp
            · rw [if_pos tcp, if_pos ⟨admits, tcp⟩]
              exact ofSegment_eq_segment_iff
            · grind [ofDatagram, ofEcho]

/-- A frame carries a segment as far as its bytes tell if the segment can be read out
of it. -/
theorem ofFrame_eq_segment_iff {room : Nat} {frame : Bytes} :
    ofFrame room frame = .segment segment ↔ Segment.ofFrame? room frame = some segment := by
  unfold ofFrame Segment.ofFrame?
  cases Ethernet.Header.decode frame with
  | none => simp
  | some header =>
      dsimp only
      cases kind : header.etherType with
      | ipv4 =>
          rw [if_pos rfl, ofPayload]
          exact ofPacket_eq_segment_iff
      | arp => grind [ofPayload, ofResolution]
      | other value => grind [ofPayload]

/-! ## Room in the transmit ring -/

/-- Nothing about a packet says that the transmit ring is full. -/
theorem ofProtocol_ne_queueFull (header : Ipv4.Header) (payload : Bytes) :
    ofProtocol header payload ≠ .unreadable .queueFull := by
  grind [ofProtocol, ofSegment, ofDatagram, ofEcho]

theorem ofPayload_ne_queueFull (etherType : EtherType) (payload : Bytes) :
    ofPayload etherType payload ≠ .unreadable .queueFull := by
  cases etherType with
  | ipv4 => grind [ofPayload, ofPacket, ofProtocol_ne_queueFull]
  | arp => grind [ofPayload, ofResolution]
  | other value => simp [ofPayload]

/-- Nothing about a frame does. -/
theorem ofFrame_ne_queueFull (room : Nat) (frame : Bytes) :
    ofFrame room frame ≠ .unreadable .queueFull := by
  unfold ofFrame
  split
  · simp
  · exact ofPayload_ne_queueFull _ _

end Parcel

end NetStack
