/-
Module: NetStack.Proofs.Padding
Purpose: Bytes that are not addressed to anybody make no difference: those behind a
  packet, the options of a segment, and those behind a datagram.
Main exports:
  Parcel.ofPacket_take, Parcel.ofPacket_of_front, Ethernet.Encloses, Ipv4.Header.packet,
  Tcp.Header.Heads, Interface.TreatsAlike, Interface.Handling.outcome_congr,
  Setup.padding_is_ignored
-/
import NetStack.Proofs.Acceptance
import NetStack.Proofs.Strangers

namespace NetStack

open Tcp (Segment)
open Interface (Operation)

/-!
Each layer cuts its data out by a length field of its own.  So what a frame carries is
told by the bytes within these lengths, and two frames that agree on them carry the same
parcel, or two segments that differ in nothing that a channel looks at.  Everything else
follows: what is to be done depends on the parcel alone.
-/

/-! ## Behind a packet -/

/-- What is kept of a packet is enough if it holds the header and all that the total
length covers. -/
theorem Parcel.ofPacket_take {packet : Bytes} {kept : Nat} (headed : 20 ≤ kept)
    (covered : (Ipv4.wordAt packet 2).toNat ≤ kept) :
    ofPacket (packet.take kept) = ofPacket packet := by
  by_cases short : packet.length ≤ kept
  · rw [List.take_of_length_le short]
  · have whole : 20 ≤ packet.length := by omega
    obtain ⟨header, rest, rfl⟩ := Ipv4.exists_header whole
    rw [Ipv4.wordAt_total] at covered
    have front : (header.encode ++ rest).take kept =
        header.encode ++ rest.take (kept - 20) := by
      rw [List.take_append, Ipv4.Header.length_encode,
        List.take_of_length_le (by rwa [Ipv4.Header.length_encode])]
      rfl
    have size : (header.encode ++ rest.take (kept - 20)).length = kept := by
      rw [← front, List.length_take]
      omega
    have same : (header.encode ++ rest.take (kept - 20)).take header.totalLength.toNat =
        (header.encode ++ rest).take header.totalLength.toNat := by
      rw [← front, List.take_take, Nat.min_eq_left covered]
    have inside : ¬(header.encode ++ rest).length < header.totalLength.toNat := by omega
    have insideFront : ¬kept < header.totalLength.toNat := by omega
    rw [front, ofPacket, ofPacket, Ipv4.Header.decode_encode, Ipv4.Header.decode_encode]
    dsimp only
    rw [size, same]
    simp only [inside, insideFront, or_false]

/-- A packet that ends where its total length says is told by itself, whatever follows
it. -/
theorem Parcel.ofPacket_of_front {packet data : Bytes} (headed : 20 ≤ packet.length)
    (ends : (Ipv4.wordAt packet 2).toNat = packet.length) (front : packet <+: data) :
    ofPacket data = ofPacket packet := by
  obtain ⟨padding, rfl⟩ := front
  have total : Ipv4.wordAt (packet ++ padding) 2 = Ipv4.wordAt packet 2 := by
    obtain ⟨header, rest, rfl⟩ := Ipv4.exists_header headed
    rw [List.append_assoc, Ipv4.wordAt_total, Ipv4.wordAt_total]
  have covered : (Ipv4.wordAt (packet ++ padding) 2).toNat ≤ packet.length := by
    rw [total, ends]
  rw [← ofPacket_take headed covered, List.take_left]

/-- A frame that carries a packet from one station to another, with any padding behind
it. -/
inductive Ethernet.Encloses (packet : Bytes) : Bytes → Prop where
  | frame (destination source : MacAddress) (padding : Bytes) :
      Encloses packet
        (Header.encode { destination, source, etherType := .ipv4 } ++ (packet ++ padding))

/-- What such a frame carries is what its packet carries, provided that there is room for
the packet. -/
theorem Ethernet.Encloses.arriving {packet frame : Bytes} (encloses : Encloses packet frame)
    (headed : 20 ≤ packet.length) (ends : (Ipv4.wordAt packet 2).toNat = packet.length)
    (fits : 14 + packet.length ≤ packetSize) :
    Parcel.arriving frame = .ofPacket packet := by
  obtain ⟨destination, source, padding⟩ := encloses
  let outer : Header := { destination, source, etherType := .ipv4 }
  have kept : (outer.encode ++ (packet ++ padding)).take packetSize =
      outer.encode ++ (packet ++ padding).take (packetSize - 14) := by
    rw [List.take_append, Header.length_encode]
    rfl
  have front : packet <+: ((packet ++ padding).take (packetSize - 14)).take packetSize := by
    rw [List.take_take]
    refine List.prefix_take_iff.mpr ⟨List.prefix_append _ _, ?_⟩
    omega
  show Parcel.arriving (outer.encode ++ (packet ++ padding)) = _
  rw [Parcel.arriving_of_nonempty (by rw [kept]; exact List.cons_ne_nil _ _), kept,
    Parcel.ofFrame, Header.decode_encode _ rfl]
  dsimp only [Parcel.ofPayload]
  rw [List.drop_left' (Header.length_encode _)]
  exact Parcel.ofPacket_of_front headed ends front

/-! ## Inside a packet -/

namespace Ipv4.Header

/-- The header of a packet of a protocol, with the length and the checksum that are due.
All else is taken over. -/
def sealed (header : Header) (protocol : UInt8) (length : Nat) : Header :=
  { header with
    versionLength := versionAndLength
    totalLength := UInt16.ofNat (headerLength + length)
    protocol }.stamp header.identification

/-- The valid packet of a protocol that has this payload, and all else from a header. -/
def packet (header : Header) (protocol : UInt8) (payload : Bytes) : Bytes :=
  (header.sealed protocol payload.length).encode ++ payload

section Packets

variable (header : Header) (protocol : UInt8) (payload : Bytes)

theorem length_packet : (header.packet protocol payload).length = 20 + payload.length := by
  rw [packet, List.length_append, length_encode, headerLength]

theorem toNat_totalLength_sealed {length : Nat} (fits : 20 + length < 65536) :
    (header.sealed protocol length).totalLength.toNat = 20 + length := by
  show (UInt16.ofNat (headerLength + length)).toNat = _
  rw [UInt16.toNat_ofNat', headerLength]
  exact Nat.mod_eq_of_lt fits

theorem ends_packet (fits : 20 + payload.length < 65536) :
    (wordAt (header.packet protocol payload) 2).toNat = (header.packet protocol payload).length := by
  rw [length_packet, packet, wordAt_total, header.toNat_totalLength_sealed protocol fits]

/-- Such a packet is valid, and is handed to its protocol. -/
theorem ofPacket_packet (fits : 20 + payload.length < 65536) :
    Parcel.ofPacket (header.packet protocol payload) =
      .ofProtocol (header.sealed protocol payload.length) payload := by
  have total := header.toNat_totalLength_sealed protocol fits
  have version : (header.sealed protocol payload.length).versionLength = versionAndLength := rfl
  have intact : (header.sealed protocol payload.length).computedChecksum =
      (header.sealed protocol payload.length).checksum := computedChecksum_stamp _ _
  have size : ((header.sealed protocol payload.length).encode ++ payload).length =
      20 + payload.length := header.length_packet protocol payload
  have whole : ¬(20 + payload.length < headerLength ∨
      20 + payload.length < 20 + payload.length) := by
    rw [headerLength]
    omega
  rw [packet, Parcel.ofPacket, decode_encode]
  dsimp only
  rw [if_neg (not_not.mpr version), if_neg (not_not.mpr intact), total, size, if_neg whole,
    List.take_of_length_le (Nat.le_of_eq size), List.drop_left' (length_encode _)]

/-- So is a frame around it, if there is room. -/
theorem arriving_packet {frame : Bytes}
    (encloses : Ethernet.Encloses (header.packet protocol payload) frame)
    (fits : 34 + payload.length ≤ packetSize) :
    Parcel.arriving frame = .ofProtocol (header.sealed protocol payload.length) payload := by
  have short : 34 + payload.length ≤ 2048 := fits
  have sized := header.length_packet protocol payload
  have room : 14 + (header.packet protocol payload).length ≤ packetSize := by
    rw [sized, packetSize]
    omega
  have ends := header.ends_packet protocol payload (by omega)
  rw [encloses.arriving (by omega) ends room, header.ofPacket_packet protocol payload (by omega)]

end Packets

end Ipv4.Header

/-- A segment with a header, options, and a payload.  The options are any words, and as
many as the data offset says. -/
inductive Tcp.Header.Heads (header : Tcp.Header) (payload : Bytes) : Bytes → Prop where
  | options (offset : UInt8) (options : List UInt32)
      (counted : offset.toNat / 16 = 5 + options.length) :
      Heads header payload
        ({ header with dataOffset := offset }.encode ++
          (options.flatMap Wire.word32 ++ payload))

/-- Options are passed over. -/
theorem Tcp.Header.Heads.ofSegment {header : Tcp.Header} {payload data : Bytes}
    (heads : header.Heads payload data) (sender : Ipv4Address) :
    ∃ offset, Parcel.ofSegment sender data =
      .segment { header := { header with dataOffset := offset }, sender, payload } := by
  obtain ⟨offset, options, counted⟩ := heads
  refine ⟨offset, ?_⟩
  let counting : Tcp.Header := { header with dataOffset := offset }
  have behind : (options.flatMap Wire.word32).length = 4 * options.length := by
    simp [List.length_flatMap, Nat.mul_comm]
  have ends : counting.length = 20 + 4 * options.length := by
    show offset.toNat / 16 * 4 = _
    omega
  have front : (counting.encode ++ options.flatMap Wire.word32).length = counting.length := by
    rw [List.length_append, length_encode, behind, ends, headerLength]
  have inside : ¬(counting.length < headerLength ∨
      (counting.encode ++ (options.flatMap Wire.word32 ++ payload)).length < counting.length) := by
    rw [← List.append_assoc, List.length_append, front, ends, headerLength]
    omega
  show Parcel.ofSegment sender (counting.encode ++ (options.flatMap Wire.word32 ++ payload)) = _
  rw [Parcel.ofSegment, Segment.ofPayload?, decode_encode]
  dsimp only
  rw [if_neg inside, ← List.append_assoc, List.drop_left' front]

/-- No channel looks at the data offset of a segment. -/
theorem Tcp.Channel.react_dataOffset (channel fresh : Tcp.Channel) (header : Tcp.Header)
    (offset : UInt8) (sender : Ipv4Address) (payload : Bytes) :
    channel.react fresh { header := { header with dataOffset := offset }, sender, payload } =
      channel.react fresh { header, sender, payload } := by
  unfold react
  cases channel.state <;> rfl

theorem Interface.handling_dataOffset (interface : Interface) (header : Tcp.Header)
    (offset : UInt8) (sender : Ipv4Address) (payload : Bytes) :
    interface.handling
        (.segment { header := { header with dataOffset := offset }, sender, payload }) =
      interface.handling (.segment { header, sender, payload }) := by
  simp only [handling, segmentHandling, Tcp.Channel.react_dataOffset]

/-- A datagram that ends where its length says is told by itself, whatever follows it. -/
theorem Parcel.ofDatagram_of_front {datagram data : Bytes} (headed : 8 ≤ datagram.length)
    (ends : (Ipv4.wordAt datagram 4).toNat = datagram.length) (front : datagram <+: data) :
    ofDatagram data = ofDatagram datagram := by
  obtain ⟨padding, rfl⟩ := front
  obtain ⟨header, rest, rfl⟩ :=
    Udp.Header.restores_reader.exists_write Udp.Header.suffices_reader headed
  have counted : header.length.toNat = (header.encode ++ rest).length := by
    rw [← ends]
    exact congrArg UInt16.toNat (Wire.join16_split header.length).symm
  rw [ofDatagram, ofDatagram, List.append_assoc, Udp.Header.decode_encode,
    Udp.Header.decode_encode]
  dsimp only
  have cut : (header.encode ++ (rest ++ padding)).take header.length.toNat =
      (header.encode ++ rest).take header.length.toNat := by
    rw [counted, ← List.append_assoc, List.take_left, List.take_length]
  have whole : header.length.toNat ≤ (header.encode ++ (rest ++ padding)).length := by
    rw [counted, ← List.append_assoc]
    exact (List.prefix_append _ _).length_le
  rw [Udp.Header.payload, Udp.Header.payload, Nat.min_eq_left whole,
    Nat.min_eq_left (Nat.le_of_eq counted), Nat.max_eq_right (counted ▸ headed), cut]

namespace Interface

variable {interface : Interface} {traffic : Traffic} {frame other : Bytes}

/-! ## The same comes of both -/

/-- The same is done on adapters that send alike, with the same success. -/
theorem Handling.outcome_congr (interface : Interface) {nic again : Nic}
    (alike : nic.SendsAlike again) (onNic : nic.Carries traffic)
    (onAgain : again.Carries traffic) (handling : Handling) :
    (handling.outcome { interface with nic := again }).1 =
        (handling.outcome { interface with nic }).1 ∧
      SendsAlike (handling.outcome { interface with nic }).2
        (handling.outcome { interface with nic := again }).2 := by
  cases handling with
  | refuses failure => exact ⟨rfl, rfl, rfl, rfl, rfl, alike⟩
  | settles next => exact ⟨rfl, rfl, rfl, rfl, rfl, alike⟩
  | answers answer sent unsent excused =>
      have sends := alike.enqueue onNic answer
      obtain ⟨done, -⟩ := transmit_cases onNic answer
      obtain ⟨doneAgain, -⟩ := transmit_cases onAgain answer
      rw [Handling.outcome, Handling.outcome]
      rcases first : (Nic.transmit answer).outcome nic with ⟨result, last⟩
      rcases second : (Nic.transmit answer).outcome again with ⟨resultAgain, lastAgain⟩
      rw [first] at done sends
      rw [second] at doneAgain sends
      obtain rfl : _ = result := done.symm
      obtain rfl : _ = resultAgain := doneAgain.symm
      cases traffic.hasRoom with
      | true => exact ⟨rfl, rfl, rfl, rfl, rfl, sends⟩
      | false => exact ⟨rfl, rfl, rfl, rfl, rfl, sends⟩

/-- The same comes of two frames, whichever of them arrives and is polled.  The poll
succeeds with both, or fails with both and for the same reason; the same is remembered,
and the same frames are sent or wait to be sent.  Only the length that a success answers
is that of the frame itself, and only the receive ring keeps a trace of which it was. -/
structure TreatsAlike (interface : Interface) (frame other : Bytes) : Prop where
  answers : ∃ verdict : Except Failure Unit,
    (poll.outcome ((Operation.inject frame).next interface)).1 =
        verdict.map (fun () => (frame.take packetSize).length) ∧
      (poll.outcome ((Operation.inject other).next interface)).1 =
        verdict.map (fun () => (other.take packetSize).length)
  leaves : SendsAlike (poll.outcome ((Operation.inject frame).next interface)).2
    (poll.outcome ((Operation.inject other).next interface)).2
  sent : (poll.outcome ((Operation.inject other).next interface)).2.nic.sent =
    (poll.outcome ((Operation.inject frame).next interface)).2.nic.sent
  outbox : (poll.outcome ((Operation.inject other).next interface)).2.nic.outbox =
    (poll.outcome ((Operation.inject frame).next interface)).2.nic.outbox

/-- That is so if the same is to be done about what they carry. -/
theorem TreatsAlike.of_handling (carries : interface.nic.Carries traffic)
    (idle : traffic.waiting = [])
    (same : interface.handling (.arriving other) = interface.handling (.arriving frame)) :
    interface.TreatsAlike frame other := by
  obtain ⟨through, onRelayed⟩ := relayed_sendsAlike carries idle frame
  obtain ⟨otherThrough, onOther⟩ := relayed_sendsAlike carries idle other
  obtain ⟨verdict, alike⟩ :=
    Handling.outcome_congr interface (through.symm.trans otherThrough) onRelayed onOther
      (interface.handling (.arriving frame))
  have polled := outcome_arrival carries idle frame
  have otherPolled := outcome_arrival carries idle other
  rw [same] at otherPolled
  dsimp only at polled otherPolled
  rw [verdict] at otherPolled
  refine ⟨⟨_, by rw [polled], by rw [otherPolled]⟩, ?_, ?_, ?_⟩
  · rw [polled, otherPolled]
    exact alike
  · rw [polled, otherPolled]
    exact alike.nic.sent
  · rw [polled, otherPolled]
    exact alike.nic.outbox

end Interface

namespace Setup

/-- Nothing but the addressed data of a frame matters.  Wherever a run has led, if no
frame waits, then the same comes of two frames in each of three cases: if they carry one
packet as far as its total length goes, between any stations and with any padding behind
it; if their packets, which are valid and equal but for this, carry segments with the
same header and payload but any options in between; and if their packets carry datagrams
that are the same as far as their length goes. -/
theorem padding_is_ignored (setup : Setup) (operations : List Operation)
    (idle : (setup.start.after operations).nic.receiveReady = false) :
    let reached := setup.start.after operations
    (∀ packet frame other : Bytes,
      20 ≤ packet.length → (Ipv4.wordAt packet 2).toNat = packet.length →
      14 + packet.length ≤ packetSize →
      Ethernet.Encloses packet frame → Ethernet.Encloses packet other →
        reached.TreatsAlike frame other) ∧
    (∀ (header : Ipv4.Header) (leading : Tcp.Header) (payload one another frame other : Bytes),
      leading.Heads payload one → leading.Heads payload another →
      34 + one.length ≤ packetSize → 34 + another.length ≤ packetSize →
      Ethernet.Encloses (header.packet Ipv4.Protocol.tcp one) frame →
      Ethernet.Encloses (header.packet Ipv4.Protocol.tcp another) other →
        reached.TreatsAlike frame other) ∧
    ∀ (header : Ipv4.Header) (datagram one another frame other : Bytes),
      8 ≤ datagram.length → (Ipv4.wordAt datagram 4).toNat = datagram.length →
      datagram <+: one → datagram <+: another →
      34 + one.length ≤ packetSize → 34 + another.length ≤ packetSize →
      Ethernet.Encloses (header.packet Ipv4.Protocol.udp one) frame →
      Ethernet.Encloses (header.packet Ipv4.Protocol.udp another) other →
        reached.TreatsAlike frame other := by
  intro reached
  have sound : reached.Sound setup.automatic := (setup.sound_after operations).1
  obtain ⟨traffic, carries, -, empty⟩ := sound.at_rest idle
  refine ⟨?_, ?_, ?_⟩
  · intro packet frame other headed ends fits encloses otherEncloses
    apply Interface.TreatsAlike.of_handling carries empty
    rw [encloses.arriving headed ends fits, otherEncloses.arriving headed ends fits]
  · intro header leading payload one another frame other heads otherHeads fits otherFits encloses
      otherEncloses
    apply Interface.TreatsAlike.of_handling carries empty
    obtain ⟨offset, carried⟩ := heads.ofSegment header.source
    obtain ⟨otherOffset, otherCarried⟩ := otherHeads.ofSegment header.source
    have inside : Parcel.arriving frame = .ofSegment header.source one :=
      header.arriving_packet _ one encloses fits
    have otherInside : Parcel.arriving other = .ofSegment header.source another :=
      header.arriving_packet _ another otherEncloses otherFits
    rw [inside, otherInside, carried, otherCarried, reached.handling_dataOffset leading offset,
      reached.handling_dataOffset leading otherOffset]
  · intro header datagram one another frame other headed ends front otherFront fits otherFits
      encloses otherEncloses
    apply Interface.TreatsAlike.of_handling carries empty
    have inside : Parcel.arriving frame = .ofDatagram one :=
      header.arriving_packet _ one encloses fits
    have otherInside : Parcel.arriving other = .ofDatagram another :=
      header.arriving_packet _ another otherEncloses otherFits
    rw [inside, otherInside, Parcel.ofDatagram_of_front headed ends front,
      Parcel.ofDatagram_of_front headed ends otherFront]

/-- A packet from the host, but for its protocol and its payload. -/
def fromHost : Ipv4.Header where
  versionLength := 0
  service := 0
  totalLength := 0
  identification := 7
  fragment := 0
  timeToLive := 64
  protocol := 0
  checksum := 0
  source := Config.default.hostAddress
  destination := Config.default.address

/-- A frame from the host around a packet, with some padding. -/
def hostFrame (packet padding : Bytes) : Bytes :=
  Ethernet.Header.encode {
    destination := Config.default.mac
    source := Config.default.hostMac
    etherType := .ipv4 } ++ (packet ++ padding)

theorem encloses_hostFrame (packet padding : Bytes) :
    Ethernet.Encloses packet (hostFrame packet padding) :=
  .frame Config.default.mac Config.default.hostMac padding

theorem padding_is_ignored_at_start :
    let reached := (Setup.default true).start.after []
    let echo := fromHost.packet Ipv4.Protocol.icmp [8, 0, 0, 0, 0, 1, 0, 1]
    let syn := Tcp.Header.outgoing 51000 80 1000 0 .syn
    let plain := { syn with dataOffset := 0x50 }.encode ++ ([].flatMap Wire.word32 ++ [])
    let scaled := { syn with dataOffset := 0x60 }.encode ++ ([0x020405B4].flatMap Wire.word32 ++ [])
    let datagram := Udp.Header.encode ⟨8000, 8000, 10, 0⟩ ++ [104, 105]
    reached.nic.receiveReady = false ∧
      reached.TreatsAlike (hostFrame echo []) (hostFrame echo [1, 2, 3]) ∧
      reached.TreatsAlike (hostFrame (fromHost.packet Ipv4.Protocol.tcp plain) [])
        (hostFrame (fromHost.packet Ipv4.Protocol.tcp scaled) []) ∧
      reached.TreatsAlike (hostFrame (fromHost.packet Ipv4.Protocol.udp datagram) [])
        (hostFrame (fromHost.packet Ipv4.Protocol.udp (datagram ++ [0, 1])) []) := by
  intro reached echo syn plain scaled datagram
  have idle : ((Setup.default true).start.after []).nic.receiveReady = false :=
    (Setup.default true).carries_start.receiveReady
  obtain ⟨padded, optioned, extended⟩ := padding_is_ignored (Setup.default true) [] idle
  refine ⟨idle, ?_, ?_, ?_⟩
  · exact padded echo _ _ (by decide) (by decide) (by decide) (encloses_hostFrame _ _)
      (encloses_hostFrame _ _)
  · exact optioned fromHost syn [] plain scaled _ _ (.options 0x50 [] (by decide))
      (.options 0x60 [0x020405B4] (by decide)) (by decide) (by decide) (encloses_hostFrame _ _)
      (encloses_hostFrame _ _)
  · exact extended fromHost datagram datagram (datagram ++ [0, 1]) _ _ (by decide) (by decide)
      List.prefix_rfl (List.prefix_append _ _) (by decide) (by decide) (encloses_hostFrame _ _)
      (encloses_hostFrame _ _)

end Setup

end NetStack
