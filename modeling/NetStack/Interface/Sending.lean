/-
Module: NetStack.Interface.Sending
Purpose: The way down: a payload becomes a packet, a packet becomes a frame, and
  the frame is queued on the adapter.
Main exports:
  Interface.sendFrame, Interface.sendPacket
-/
import NetStack.Interface.Basic
import NetStack.Ipv4

namespace NetStack.Interface

/-- Where a frame goes.  An IPv4 packet goes to the hardware address bound to
its destination, or to no station while there is none. -/
def frameDestination (header : Ethernet.Header) (payload : Bytes) : Action Interface MacAddress :=
  match header.etherType with
  | .ipv4 => do
      let packet ← Action.demand (Ipv4.Header.decode payload) .truncated
      let interface ← Action.get
      match interface.cache.lookup packet.destination with
      | some mac => return mac
      | none => do
          Action.emit (.bindingMissing packet.destination)
          return .zero
  | _ => return header.destination

/-- Put a payload into a frame from our hardware address, and queue it. -/
def sendFrame (header : Ethernet.Header) (payload : Bytes) : Action Interface Unit := do
  Action.emit (.frameSending payload.length header.etherType)
  if Ethernet.maxPayload < payload.length then
    Action.refuse (.frameTooLarge payload.length)
  else do
    let destination ← frameDestination header payload
    let interface ← Action.get
    let addressed := { header with destination, source := interface.config.mac }
    let frame ← Action.check (Bytes.assemble Ethernet.maxFrame [addressed.encode, payload])
    match ← Action.attempt (onNic (Nic.transmit frame)) with
    | .ok () => return ()
    | .error cause => do
        Action.emit (.transmitFailed cause)
        Action.refuse cause

/-- Put a payload into an IPv4 packet from our address, and send it. -/
def sendPacket (protocol : UInt8) (destination : Ipv4Address) (payload : Bytes) :
    Action Interface Unit := do
  Action.emit (.packetSending payload.length protocol destination)
  if Ipv4.maxPayload < payload.length then
    Action.refuse (.frameTooLarge payload.length)
  else do
    let interface ← Action.get
    let header ← Action.check
      (Ipv4.Header.outgoing protocol interface.config.address destination payload.length)
    let identification ← takeIdentification
    let packet ← Action.check
      (Bytes.assemble Ethernet.maxPayload [(header.stamp identification).encode, payload])
    sendFrame (.outgoing .zero .ipv4) packet

end NetStack.Interface
