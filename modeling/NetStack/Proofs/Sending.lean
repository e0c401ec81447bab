/-
Module: NetStack.Proofs.Sending
Purpose: The frame that each operation on the way down puts together, as one
  byte string, and what comes of queueing it.
Main exports:
  Interface.packetFrame, Interface.segmentFrame, Interface.messageFrame,
  Interface.outcome_sendFrame, Interface.outcome_sendPacket,
  Interface.outcome_sendOn
-/
import NetStack.Arp.Message
import NetStack.Interface.Segments
import NetStack.Proofs.Headers
import NetStack.Proofs.Nic

namespace NetStack.Interface

/-!
On its way down a payload meets several checked accesses, and none of them ever
fails: every part is cut to size before.  What is left of the way is the bytes of
one frame and one attempt to queue it.
-/

/-- The hardware address that packets for `destination` are sent to. -/
def nextHop (interface : Interface) (destination : Ipv4Address) : MacAddress :=
  (interface.cache.lookup destination).getD .zero

/-- The header of the next packet, stamped. -/
def packetHeader (interface : Interface) (protocol : UInt8) (destination : Ipv4Address)
    (payload : Bytes) : Ipv4.Header :=
  Ipv4.Header.stamp
    { versionLength := Ipv4.versionAndLength
      service := 0
      totalLength := UInt16.ofNat (Ipv4.headerLength + payload.length)
      identification := 0
      fragment := 0
      timeToLive := Ipv4.initialTimeToLive
      protocol
      checksum := 0
      source := interface.config.address
      destination }
    interface.identification

/-- The frame that carries a packet. -/
def packetFrame (interface : Interface) (protocol : UInt8) (destination : Ipv4Address)
    (payload : Bytes) : Bytes :=
  let header : Ethernet.Header := {
    destination := interface.nextHop destination
    source := interface.config.mac
    etherType := .ipv4 }
  header.encode ++ ((interface.packetHeader protocol destination payload).encode ++ payload)

/-- The header of a segment from a channel, its checksum filled in. -/
def segmentHeader (config : Config) (channel : Tcp.Channel) (flags : Tcp.Flags)
    (payload : Bytes) : Tcp.Header :=
  let bare := Tcp.Header.outgoing channel.host.port channel.guest.port channel.sequence
    channel.acknowledgment flags
  let sum := Tcp.segmentChecksum channel.host.address channel.guest.address
    (bare.encode ++ payload.take Tcp.maxPayload)
  { bare with checksum := if config.checksumPortBias then sum - channel.host.port else sum }

/-- The bytes of a segment from a channel. -/
def segment (config : Config) (channel : Tcp.Channel) (flags : Tcp.Flags) (payload : Bytes) :
    Bytes :=
  (segmentHeader config channel flags payload).encode ++ payload.take Tcp.maxPayload

/-- The frame that carries a segment from a channel to its peer. -/
def segmentFrame (interface : Interface) (channel : Tcp.Channel) (flags : Tcp.Flags)
    (payload : Bytes) : Bytes :=
  interface.packetFrame Ipv4.Protocol.tcp channel.guest.address
    (segment interface.config channel flags payload)

/-! ## Lengths -/

theorem length_segment (config : Config) (channel : Tcp.Channel) (flags : Tcp.Flags)
    (payload : Bytes) :
    (segment config channel flags payload).length =
      Tcp.headerLength + min payload.length Tcp.maxPayload := by
  simp [segment, Nat.min_comm]

theorem length_segment_le (config : Config) (channel : Tcp.Channel) (flags : Tcp.Flags)
    (payload : Bytes) :
    (segment config channel flags payload).length ≤ Ipv4.maxPayload := by
  have cut : min payload.length Tcp.maxPayload ≤ Tcp.maxPayload := Nat.min_le_right _ _
  rw [length_segment]
  simp only [Tcp.maxPayload, Tcp.headerLength, Ipv4.maxPayload, Ethernet.maxPayload,
    Ipv4.headerLength] at *
  omega

theorem length_packetFrame (interface : Interface) (protocol : UInt8)
    (destination : Ipv4Address) (payload : Bytes) :
    (interface.packetFrame protocol destination payload).length =
      Ethernet.headerLength + (Ipv4.headerLength + payload.length) := by
  simp [packetFrame]

/-- A frame on the way down fits into a packet buffer. -/
theorem take_packetFrame (interface : Interface) {protocol : UInt8} {destination : Ipv4Address}
    {payload : Bytes} (fits : payload.length ≤ Ipv4.maxPayload) :
    (interface.packetFrame protocol destination payload).take packetSize =
      interface.packetFrame protocol destination payload := by
  apply List.take_of_length_le
  rw [length_packetFrame]
  simp only [Ipv4.maxPayload, Ethernet.maxPayload, Ethernet.headerLength, Ipv4.headerLength,
    packetSize] at *
  omega

theorem take_segmentFrame (interface : Interface) (channel : Tcp.Channel) (flags : Tcp.Flags)
    (payload : Bytes) :
    (interface.segmentFrame channel flags payload).take packetSize =
      interface.segmentFrame channel flags payload :=
  interface.take_packetFrame (length_segment_le _ _ _ _)

/-! ## The way down -/

theorem segmentBytes_eq_ok (config : Config) (channel : Tcp.Channel) (flags : Tcp.Flags)
    (payload : Bytes) :
    segmentBytes config channel flags payload = .ok (segment config channel flags payload) := by
  have cut : (payload.take Tcp.maxPayload).length ≤ Tcp.maxPayload := List.length_take_le _ _
  have fits (header : Tcp.Header) :
      [header.encode, payload.take Tcp.maxPayload].flatten.length ≤ Ipv4.maxPayload := by
    simp only [Tcp.maxPayload, Tcp.headerLength, Ipv4.maxPayload, Ethernet.maxPayload,
      Ipv4.headerLength] at cut
    simp only [List.flatten_cons, List.flatten_nil, List.append_nil, List.length_append,
      Tcp.Header.length_encode, Tcp.maxPayload, Tcp.headerLength, Ipv4.maxPayload,
      Ethernet.maxPayload, Ipv4.headerLength]
    omega
  dsimp only [segmentBytes]
  rw [Bytes.assemble_eq_ok (fits _)]
  simp only [bind, Except.bind]
  rw [Bytes.assemble_eq_ok (fits _)]
  simp [segment, segmentHeader]

/-- A frame goes out from our hardware address to the station that it is for. -/
theorem outcome_sendFrame (interface : Interface) {header : Ethernet.Header} {payload : Bytes}
    {destination : MacAddress} (fits : payload.length ≤ Ethernet.maxPayload)
    (hop : (frameDestination header payload).outcome interface = (.ok destination, interface)) :
    (sendFrame header payload).outcome interface =
      (onNic (Nic.transmit
        (Ethernet.Header.encode { header with destination, source := interface.config.mac } ++
          payload))).outcome interface := by
  have whole (outer : Ethernet.Header) :
      [outer.encode, payload].flatten.length ≤ Ethernet.maxFrame := by
    simp only [List.flatten_cons, List.flatten_nil, List.append_nil, List.length_append,
      Ethernet.Header.length_encode, Ethernet.maxFrame]
    omega
  unfold sendFrame
  simp only [Action.outcome_emit_bind, Nat.not_lt.mpr fits, if_false]
  rw [Action.outcome_bind_of_ok hop]
  simp only [Action.outcome_get_bind]
  rw [Bytes.assemble_eq_ok (whole _), Action.check_ok, pure_bind]
  simp only [List.flatten_cons, List.flatten_nil, List.append_nil]
  refine Action.outcome_attempt_forward ?_ ?_
  · intro middle
    rfl
  · intro cause middle
    rfl

/-- A frame that carries a packet is put together from its headers, and queued. -/
theorem outcome_sendFrame_packet (interface : Interface) (header : Ipv4.Header) {payload : Bytes}
    (fits : payload.length ≤ Ipv4.maxPayload) :
    (sendFrame (.outgoing .zero .ipv4) (header.encode ++ payload)).outcome interface =
      (onNic (Nic.transmit
        (Ethernet.Header.encode
            { destination := interface.nextHop header.destination
              source := interface.config.mac
              etherType := .ipv4 } ++
          (header.encode ++ payload)))).outcome interface := by
  have small : (header.encode ++ payload).length ≤ Ethernet.maxPayload := by
    rw [List.length_append, Ipv4.Header.length_encode]
    simp only [Ipv4.maxPayload, Ethernet.maxPayload, Ipv4.headerLength] at *
    omega
  have hop : (frameDestination (.outgoing .zero .ipv4) (header.encode ++ payload)).outcome
      interface = (.ok (interface.nextHop header.destination), interface) := by
    unfold frameDestination
    simp only [Ethernet.Header.outgoing, header.decode_encode, Action.demand_some, pure_bind,
      Action.outcome_get_bind, nextHop]
    cases interface.cache.lookup header.destination with
    | none => rfl
    | some mac => rfl
  exact outcome_sendFrame interface small hop

/-- The frame that carries an address resolution message. -/
def messageFrame (interface : Interface) (destination : MacAddress) (message : Arp.Message) :
    Bytes :=
  let header : Ethernet.Header := {
    destination
    source := interface.config.mac
    etherType := .arp }
  header.encode ++ message.encode

theorem length_messageFrame (interface : Interface) (destination : MacAddress)
    (message : Arp.Message) :
    (interface.messageFrame destination message).length =
      Ethernet.headerLength + Arp.messageLength := rfl

theorem take_messageFrame (interface : Interface) (destination : MacAddress)
    (message : Arp.Message) :
    (interface.messageFrame destination message).take packetSize =
      interface.messageFrame destination message := by
  apply List.take_of_length_le
  rw [length_messageFrame]
  decide

/-- An address resolution message is one frame. -/
theorem outcome_sendFrame_message (interface : Interface) (destination : MacAddress)
    (message : Arp.Message) :
    (sendFrame (.outgoing destination .arp) message.encode).outcome interface =
      (onNic (Nic.transmit (interface.messageFrame destination message))).outcome interface := by
  have small : message.encode.length ≤ Ethernet.maxPayload :=
    show Arp.messageLength ≤ Ethernet.maxPayload by decide
  have hop : (frameDestination (.outgoing destination .arp) message.encode).outcome interface =
      (.ok destination, interface) := rfl
  exact outcome_sendFrame interface small hop

/-- Sending a packet takes a number and queues one frame. -/
theorem outcome_sendPacket (interface : Interface) {protocol : UInt8} {destination : Ipv4Address}
    {payload : Bytes} (fits : payload.length ≤ Ipv4.maxPayload) :
    (sendPacket protocol destination payload).outcome interface =
      (onNic (Nic.transmit (interface.packetFrame protocol destination payload))).outcome
        { interface with identification := interface.identification + 1 } := by
  have counted : Ipv4.headerLength + payload.length < 65536 := by
    simp only [Ipv4.maxPayload, Ethernet.maxPayload, Ipv4.headerLength] at *
    omega
  have whole (header : Ipv4.Header) :
      [header.encode, payload].flatten.length ≤ Ethernet.maxPayload := by
    simp only [List.flatten_cons, List.flatten_nil, List.append_nil, List.length_append,
      Ipv4.Header.length_encode, Ipv4.maxPayload, Ethernet.maxPayload, Ipv4.headerLength] at *
    omega
  unfold sendPacket
  simp only [Action.outcome_emit_bind, Nat.not_lt.mpr fits, if_false, Action.outcome_get_bind,
    Ipv4.Header.outgoing, counted, if_true, Action.check_ok, pure_bind, takeIdentification,
    bind_assoc, Action.outcome_modify_bind]
  rw [Bytes.assemble_eq_ok (whole _), Action.check_ok, pure_bind]
  simp only [List.flatten_cons, List.flatten_nil, List.append_nil]
  rw [outcome_sendFrame_packet _ _ fits]
  rfl

/-- A segment on a channel is one frame to the channel's peer. -/
theorem outcome_sendOn (interface : Interface) (index : Fin Tcp.poolSize) (flags : Tcp.Flags)
    (payload : Bytes) :
    (sendOn index flags payload).outcome interface =
      (onNic (Nic.transmit
        (interface.segmentFrame (interface.pool.get index) flags payload))).outcome
        { interface with identification := interface.identification + 1 } := by
  unfold sendOn
  simp only [Action.outcome_get_bind]
  rw [segmentBytes_eq_ok, Action.check_ok, pure_bind]
  simp only [Action.outcome_emit_bind]
  rw [outcome_sendPacket _ (length_segment_le _ _ _ _)]
  rfl

theorem outcome_onNic {α : Type} (action : Action Nic α) (interface : Interface) :
    (onNic action).outcome interface =
      ((action.outcome interface.nic).1,
        { interface with nic := (action.outcome interface.nic).2 }) := rfl

end NetStack.Interface
