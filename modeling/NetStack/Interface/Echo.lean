/-
Module: NetStack.Interface.Echo
Purpose: The two services that send back what they are sent: echo replies, and
  the datagram echo.
Main exports:
  Interface.receiveEcho, Interface.sendDatagram, Interface.receiveDatagram
-/
import NetStack.Icmp
import NetStack.Interface.Resolution
import NetStack.Udp

namespace NetStack.Interface

/-- Answer an echo request.  A sender without a binding is asked for its
hardware address instead, so that its next request can be answered. -/
def receiveEcho (sender : Ipv4Address) (message : Bytes) : Action Interface Unit := do
  Action.emit .echoProcessing
  let header ← Action.demand (Icmp.Header.decode message) .truncated
  if !header.isEchoRequest then
    Action.refuse (.unsupportedIcmpType header.kind)
  else if header.code ≠ 0 then
    Action.refuse (.invalidIcmpCode header.code)
  else do
    let interface ← Action.get
    match interface.cache.lookup sender with
    | none => do
        Action.emit (.strangerAsked sender)
        askAddress sender
    | some _ => do
        let reply ← Action.check (Icmp.echoReply (message.take Ipv4.maxPayload))
        Action.emit (.echoReplying sender header.identifier header.sequence)
        sendPacket Ipv4.Protocol.icmp sender reply

/-- Send data to the host, from and to the configured ports. -/
def sendDatagram (data : Bytes) : Action Interface Unit := do
  Action.emit (.datagramSending data.length)
  let config := (← Action.get).config
  let written ← Action.check
    (Udp.writeDatagram config.udpSourcePort config.udpDestinationPort data
      (.zeros Ipv4.maxPayload))
  let datagram ← Action.check (Bytes.slice written.buffer 0 written.length)
  sendPacket Ipv4.Protocol.udp config.hostAddress datagram

/-- Send the declared payload of a datagram to the host, whoever sent it. -/
def receiveDatagram (datagram : Bytes) : Action Interface Unit := do
  Action.emit .datagramProcessing
  let header ← Action.demand (Udp.Header.decode datagram) .truncated
  let payload := header.payload datagram
  Action.emit (.datagramArrived header.destinationPort payload)
  sendDatagram payload

end NetStack.Interface
