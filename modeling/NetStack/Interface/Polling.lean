/-
Module: NetStack.Interface.Polling
Purpose: The way up: one frame is taken off the adapter, validated, and handed
  to the protocol it is for.
Main exports:
  Interface.receivePacket, Interface.receiveFrame, Interface.poll,
  Interface.pollFor, Interface.listen
-/
import NetStack.Interface.Echo
import NetStack.Interface.Segments

namespace NetStack.Interface

/-- Hand the payload of a valid packet to its protocol.  Unknown protocols are
passed over. -/
def dispatchPacket (header : Ipv4.Header) (payload : Bytes) : Action Interface Unit :=
  if header.protocol = Ipv4.Protocol.tcp then
    receiveSegment header.source payload
  else if header.protocol = Ipv4.Protocol.udp then
    receiveDatagram payload
  else if header.protocol = Ipv4.Protocol.icmp then
    receiveEcho header.source payload
  else
    Action.emit (.protocolIgnored header.protocol)

/-- Validate a packet: version, checksum and total length, in this order.  Bytes
past the total length do not belong to it. -/
def receivePacket (packet : Bytes) : Action Interface Unit := do
  Action.emit .packetProcessing
  let header ← Action.demand (Ipv4.Header.decode packet) .truncated
  let computed := header.computedChecksum
  let total := header.totalLength.toNat
  if header.versionLength ≠ Ipv4.versionAndLength then do
    Action.emit (.versionUnsupported header.versionLength)
    Action.refuse (.unsupportedVersion header.versionLength)
  else if computed ≠ header.checksum then do
    Action.emit (.checksumMismatch computed header.checksum)
    Action.refuse (.badChecksum header.checksum computed)
  else if total < Ipv4.headerLength ∨ packet.length < total then do
    Action.emit (.totalLengthBad total packet.length)
    Action.refuse .truncated
  else do
    let payload ← Action.check (Bytes.slice packet Ipv4.headerLength total)
    dispatchPacket header payload

/-- Hand the payload of a frame to what its kind names. -/
def dispatchFrame (etherType : EtherType) (payload : Bytes) : Action Interface Unit :=
  match etherType with
  | .ipv4 => receivePacket payload
  | .arp => resolve payload
  | .other value => do
      Action.emit (.etherTypeUnknown value)
      Action.refuse (.unsupportedEtherType value)

/-- One frame received into the caller's buffer: the length of the frame or why
it was dropped, and the whole buffer afterwards. -/
structure Delivery where
  result : Except StackError Nat
  buffer : Bytes

/-- Take one frame off the adapter and process it.  Its payload is copied into
`out` as far as there is room, whatever becomes of it, and only the copied part
is processed.  Length 0 means that no frame was waiting. -/
def receiveFrame (out : Bytes) : Action Interface Delivery := do
  let received ← onNic (Nic.receive (.zeros packetSize))
  if received.length = 0 then
    return { result := .ok 0, buffer := out }
  else do
    Action.emit (.frameProcessing received.length)
    let frame ← Action.check (Bytes.slice received.buffer 0 received.length)
    match Ethernet.Header.decode frame with
    | none => return { result := .error .truncated, buffer := out }
    | some header =>
        let payload ← Action.check (Bytes.slice frame Ethernet.headerLength frame.length)
        let copied := payload.take out.length
        let buffer ← Action.check (Bytes.splice out 0 copied)
        let result ← Action.attempt (dispatchFrame header.etherType copied)
        return { result := result.map fun () => received.length, buffer }

/-- Process one frame if any is waiting; the answer is its length, or 0. -/
def poll : Action Interface Nat := do
  let delivery ← receiveFrame (.zeros packetSize)
  match delivery.result with
  | .ok length => return length
  | .error cause => Action.refuse cause

/-- Wait up to `timeout` for a frame, then process it. -/
def pollFor (timeout : Duration) : Action Interface Nat := do
  onNic (Nic.awaitReceive timeout)
  poll

/-- Wait for a frame without any limit, then process it. -/
def listen : Action Interface Nat := do
  onNic Nic.listen
  poll

end NetStack.Interface
