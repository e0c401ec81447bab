/-
Module: NetStack.Proofs.Ports
Purpose: Which ports a frame names, whether or not it passes any check, and what
  it can carry for them.
Main exports:
  Tcp.ports?, Tcp.addressee?, Tcp.sender?, Tcp.addressee?_of_segment,
  Parcel.For, Parcel.for_of_addressee, Interface.ports?_segmentFrame
-/
import Mathlib.Data.List.Infix
import NetStack.Proofs.Delivery

namespace NetStack

open Tcp (Segment)

/-!
A frame names its ports right behind its two outer headers, and whoever looks
there learns them without asking whether the frame is any good.  The stack asks
first.  So a frame for a port either carries a segment for that port, or it is
dropped before anybody looked at its ports.
-/

/-! ## Where the ports are -/

/-- The length of the header in bytes, options included. -/
def Ipv4.Header.length (header : Ipv4.Header) : Nat :=
  header.versionLength.toNat % 16 * 4

/-- A header of the one version that is accepted has no options. -/
theorem Ipv4.Header.length_of_version {header : Ipv4.Header}
    (version : header.versionLength = versionAndLength) : header.length = headerLength := by
  rw [length, version]
  rfl

namespace Tcp

/-- Takes the source port and the destination port off the front of a segment. -/
def ports : Wire.Reader (UInt16 × UInt16) := do
  let source ← Wire.Reader.word16
  let destination ← Wire.Reader.word16
  return (source, destination)

/-- The source port and the destination port in a frame.  No length, version or
checksum is looked at, so that a frame that fails a check has its ports all the
same. -/
def ports? (frame : Bytes) : Option (UInt16 × UInt16) := do
  let outer ← Ethernet.Header.decode frame
  let header ← Ipv4.Header.decode (frame.drop Ethernet.headerLength)
  if outer.etherType = .ipv4 ∧ header.protocol = Ipv4.Protocol.tcp then
    ports.read ((frame.drop Ethernet.headerLength).drop header.length)
  else
    none

/-- The port that a frame is addressed to. -/
def addressee? (frame : Bytes) : Option UInt16 :=
  (ports? frame).map Prod.snd

/-- The port that a frame was sent from. -/
def sender? (frame : Bytes) : Option UInt16 :=
  (ports? frame).map Prod.fst

/-- Whether a frame is addressed to a port. -/
def isFor (port : UInt16) (frame : Bytes) : Bool :=
  addressee? frame == some port

/-- Whether a frame was sent from a port. -/
def isFrom (port : UInt16) (frame : Bytes) : Bool :=
  sender? frame == some port

theorem isFor_of_addressee? {frame : Bytes} {port : UInt16}
    (addressed : addressee? frame = some port) : isFor port frame = true :=
  beq_iff_eq.mpr addressed

theorem isFor_other {frame : Bytes} {port other : UInt16}
    (addressed : addressee? frame = some other) (apart : other ≠ port) :
    isFor port frame = false := by
  rw [isFor, addressed, Option.some_beq_some]
  exact beq_eq_false_iff_ne.mpr apart

theorem isFrom_of_sender? {frame : Bytes} {port : UInt16} (sent : sender? frame = some port) :
    isFrom port frame = true :=
  beq_iff_eq.mpr sent

theorem isFrom_other {frame : Bytes} {port other : UInt16} (sent : sender? frame = some other)
    (apart : other ≠ port) : isFrom port frame = false := by
  rw [isFrom, sent, Option.some_beq_some]
  exact beq_eq_false_iff_ne.mpr apart

theorem steady_ports : ports.Steady :=
  Wire.Reader.steady_word16.bind fun _ => Wire.Reader.steady_word16.bind fun _ =>
    Wire.Reader.steady_pure _

/-- A header starts with its ports. -/
theorem Header.ports_of_decode {data : Bytes} {header : Header}
    (decoded : Header.decode data = some header) :
    ports.read data = some (header.sourcePort, header.destinationPort) := by
  obtain ⟨⟨answer, rest⟩, run, rfl⟩ := Option.map_eq_some_iff.mp decoded
  rw [Header.reader, StateT.run_bind] at run
  obtain ⟨⟨source, behind⟩, first, run⟩ := Option.bind_eq_some_iff.mp run
  dsimp only at run
  rw [StateT.run_bind] at run
  obtain ⟨⟨destination, further⟩, second, run⟩ := Option.bind_eq_some_iff.mp run
  have named : answer.sourcePort = source ∧ answer.destinationPort = destination := by
    simp only [StateT.run_bind, StateT.run_pure, Option.bind_eq_bind, Option.bind_eq_some_iff,
      Option.pure_def, Option.some.injEq, Prod.mk.injEq] at run
    obtain ⟨_, -, _, -, _, -, _, -, _, -, _, -, _, -, rfl, -⟩ := run
    exact ⟨rfl, rfl⟩
  rw [named.1, named.2, Wire.Reader.read, ports, StateT.run_bind, first]
  dsimp only [Option.bind_eq_bind, Option.bind_some]
  rw [StateT.run_bind, second]
  rfl

/-- A segment is for the port that it names. -/
theorem Segment.ports_of_ofPayload? {sender : Ipv4Address} {data : Bytes} {segment : Segment}
    (carried : ofPayload? sender data = some segment) :
    ports.read data = some (segment.header.sourcePort, segment.header.destinationPort) := by
  obtain ⟨header, decoded, -, -, rfl⟩ := ofPayload?_eq_some carried
  exact Header.ports_of_decode decoded

theorem addressee?_eq_some {frame : Bytes} {port : UInt16}
    (addressed : addressee? frame = some port) :
    ∃ outer header source, Ethernet.Header.decode frame = some outer ∧ outer.etherType = .ipv4 ∧
      Ipv4.Header.decode (frame.drop Ethernet.headerLength) = some header ∧
      header.protocol = Ipv4.Protocol.tcp ∧
      ports.read ((frame.drop Ethernet.headerLength).drop header.length) = some (source, port) := by
  obtain ⟨⟨source, destination⟩, found, rfl⟩ := Option.map_eq_some_iff.mp addressed
  unfold ports? at found
  obtain ⟨outer, begun, found⟩ := Option.bind_eq_some_iff.mp found
  obtain ⟨header, decoded, found⟩ := Option.bind_eq_some_iff.mp found
  split at found
  · next carries =>
    exact ⟨outer, header, source, begun, carries.1, decoded, carries.2, found⟩
  · cases found

/-- A segment in a frame, also in one that is cut short, is for the port that the frame
is addressed to. -/
theorem addressee?_of_segment {frame : Bytes} {room count : Nat} {segment : Segment}
    (carried : Segment.ofFrame? room (frame.take count) = some segment) :
    addressee? frame = some segment.header.destinationPort := by
  obtain ⟨outer, read, kind, packet⟩ := Segment.ofFrame?_eq_some carried
  obtain ⟨header, readPacket, admits, tcp, held⟩ := Segment.ofPacket?_eq_some packet
  have begins : frame.take count <+: frame := List.take_prefix _ _
  have inside : ((frame.take count).drop Ethernet.headerLength).take room <+:
      frame.drop Ethernet.headerLength :=
    (List.take_prefix _ _).trans (List.IsPrefix.drop begins _)
  have begun := Ethernet.Header.steady_reader.read_of_front begins read
  have decoded := Ipv4.Header.steady_reader.read_of_front inside readPacket
  have payload := List.IsPrefix.drop
    ((List.take_prefix header.totalLength.toNat _).trans inside) Ipv4.headerLength
  have named := steady_ports.read_of_front payload (Segment.ports_of_ofPayload? held)
  rw [← Ipv4.Header.length_of_version admits.1] at named
  have found : ports? frame =
      some (segment.header.sourcePort, segment.header.destinationPort) := by
    unfold ports?
    refine Option.bind_eq_some_iff.mpr ⟨outer, begun, ?_⟩
    refine Option.bind_eq_some_iff.mpr ⟨header, decoded, ?_⟩
    rw [if_pos ⟨kind, tcp⟩]
    exact named
  rw [addressee?, found]
  rfl

/-- A frame that names a port is not empty, however short a buffer it is cut to. -/
theorem take_ne_nil_of_addressee? {frame : Bytes} {port : UInt16}
    (addressed : addressee? frame = some port) : frame.take packetSize ≠ [] := by
  obtain ⟨outer, header, source, begun, -⟩ := addressee?_eq_some addressed
  have long := Ethernet.Header.length_of_decode begun
  intro empty
  have short := congrArg List.length empty
  rw [List.length_take, List.length_nil, Ethernet.headerLength, packetSize] at *
  omega

end Tcp

/-! ## What a frame for a port can carry -/

namespace Parcel

/-- What concerns one port at most: something unreadable, or a segment for that
port. -/
inductive For (port : UInt16) : Parcel → Prop where
  | unreadable (cause : StackError) : For port (.unreadable cause)
  | segment {segment : Segment} (addressed : segment.header.destinationPort = port) :
      For port (.segment segment)

variable {port source : UInt16}

/-- Whatever is left of a segment, its ports are those of the whole. -/
theorem for_ofSegment {front data : Bytes} (begins : front <+: data)
    (named : Tcp.ports.read data = some (source, port)) (sender : Ipv4Address) :
    (ofSegment sender front).For port := by
  unfold ofSegment
  cases carried : Segment.ofPayload? sender front with
  | none => exact .unreadable .truncated
  | some segment =>
      have same := Tcp.steady_ports.read_of_front begins (Segment.ports_of_ofPayload? carried)
      rw [named] at same
      cases same
      exact .segment rfl

/-- Whatever is left of a packet, its segment lies where the header of the whole
ends: a header of any other length is not accepted. -/
theorem for_ofPacket {front packet : Bytes} (begins : front <+: packet) {header : Ipv4.Header}
    (decoded : Ipv4.Header.decode packet = some header)
    (tcp : header.protocol = Ipv4.Protocol.tcp)
    (named : Tcp.ports.read (packet.drop header.length) = some (source, port)) :
    (ofPacket front).For port := by
  unfold ofPacket
  cases read : Ipv4.Header.decode front with
  | none => exact .unreadable .truncated
  | some found =>
      have same := Ipv4.Header.steady_reader.read_of_front begins read
      obtain rfl : header = found := Option.some.inj (decoded.symm.trans same)
      dsimp only
      split
      · exact .unreadable _
      · next version =>
        split
        · exact .unreadable _
        · split
          · exact .unreadable .truncated
          · rw [Ipv4.Header.length_of_version (not_not.mp version)] at named
            rw [ofProtocol, if_pos tcp]
            have inside : front.take header.totalLength.toNat <+: packet :=
              (List.take_prefix _ _).trans begins
            exact for_ofSegment (List.IsPrefix.drop inside _) named _

/-- A frame that is addressed to a port carries a segment for that port or is
dropped, also when it is cut short. -/
theorem for_of_addressee {frame : Bytes} (addressed : Tcp.addressee? frame = some port)
    (room count : Nat) : (ofFrame room (frame.take count)).For port := by
  obtain ⟨outer, header, source, begun, ipv4, decoded, tcp, named⟩ :=
    Tcp.addressee?_eq_some addressed
  have begins : frame.take count <+: frame := List.take_prefix _ _
  unfold ofFrame
  cases read : Ethernet.Header.decode (frame.take count) with
  | none => exact .unreadable .truncated
  | some found =>
      have same := Ethernet.Header.steady_reader.read_of_front begins read
      obtain rfl : outer = found := Option.some.inj (begun.symm.trans same)
      have inside : ((frame.take count).drop Ethernet.headerLength).take room <+:
          frame.drop Ethernet.headerLength :=
        (List.take_prefix _ _).trans (List.IsPrefix.drop begins _)
      dsimp only
      rw [ipv4]
      exact for_ofPacket inside decoded tcp named

/-- What arrives in a frame that is addressed to a port concerns that port at most. -/
theorem arriving_for {frame : Bytes} (addressed : Tcp.addressee? frame = some port) :
    (arriving frame).For port := by
  rw [arriving_of_nonempty (Tcp.take_ne_nil_of_addressee? addressed)]
  exact for_of_addressee addressed packetSize packetSize

end Parcel

/-! ## The ports of what is sent -/

/-- A message names no ports. -/
theorem Interface.ports?_messageFrame (interface : Interface) (destination : MacAddress)
    (message : Arp.Message) :
    Tcp.ports? (interface.messageFrame destination message) = none := by
  unfold Tcp.ports?
  rw [decode_messageFrame]
  dsimp only [Option.bind_eq_bind, Option.bind_some]
  refine Option.bind_eq_none_iff.mpr fun header _ => if_neg ?_
  rintro ⟨kind, -⟩
  cases kind

/-- Neither does a packet of another protocol. -/
theorem Interface.ports?_packetFrame_other (interface : Interface) {protocol : UInt8}
    (other : protocol ≠ Ipv4.Protocol.tcp) (destination : Ipv4Address) (payload : Bytes) :
    Tcp.ports? (interface.packetFrame protocol destination payload) = none := by
  unfold Tcp.ports?
  rw [decode_packetFrame, drop_packetFrame]
  dsimp only [Option.bind_eq_bind, Option.bind_some]
  rw [Ipv4.Header.decode_encode]
  exact if_neg fun tcp => other tcp.2

/-- A frame on a channel goes from the port of the channel to the port of its
peer. -/
theorem Interface.ports?_segmentFrame (interface : Interface) (channel : Tcp.Channel)
    (flags : Tcp.Flags) (payload : Bytes) :
    Tcp.ports? (interface.segmentFrame channel flags payload) =
      some (channel.host.port, channel.guest.port) := by
  let header := interface.packetHeader Ipv4.Protocol.tcp channel.guest.address
    (segment interface.config channel flags payload)
  have plain : header.length = Ipv4.headerLength := Ipv4.Header.length_of_version rfl
  have behind : (header.encode ++ segment interface.config channel flags payload).drop
      header.length = segment interface.config channel flags payload :=
    List.drop_left' ((Ipv4.Header.length_encode header).trans plain.symm)
  have ports : Tcp.ports.read (segment interface.config channel flags payload) =
      some (channel.host.port, channel.guest.port) :=
    Tcp.Header.ports_of_decode (Tcp.Header.decode_encode _ _)
  rw [segmentFrame, Tcp.ports?, decode_packetFrame, drop_packetFrame]
  dsimp only [Option.bind_eq_bind, Option.bind_some]
  rw [Ipv4.Header.decode_encode]
  dsimp only [Option.bind_some]
  rw [if_pos ⟨rfl, rfl⟩, behind, ports]

end NetStack
