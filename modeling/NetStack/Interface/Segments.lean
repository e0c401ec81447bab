/-
Module: NetStack.Interface.Segments
Purpose: Segments on the interface: sending on a channel, and carrying out what
  a received segment brings about.
Main exports:
  Interface.sendSegment, Interface.sendAcknowledgment, Interface.conduct,
  Interface.processSegment, Interface.receiveSegment
-/
import NetStack.Interface.Sending
import NetStack.Tcp.Reaction

namespace NetStack.Interface

/-- The bytes of a segment from a channel: its endpoints and numbers, the
payload cut to one segment, and the checksum, less the local port if the
configuration asks for that. -/
def segmentBytes (config : Config) (channel : Tcp.Channel) (flags : Tcp.Flags) (payload : Bytes) :
    Except Fault Bytes := do
  let carried := payload.take Tcp.maxPayload
  let header := Tcp.Header.outgoing channel.host.port channel.guest.port channel.sequence
    channel.acknowledgment flags
  let bare ← Bytes.assemble Ipv4.maxPayload [header.encode, carried]
  let sum := Tcp.segmentChecksum channel.host.address channel.guest.address bare
  let checksum := if config.checksumPortBias then sum - channel.host.port else sum
  Bytes.assemble Ipv4.maxPayload [{ header with checksum }.encode, carried]

/-- Send a segment on the channel at `index`. -/
def sendOn (index : Fin Tcp.poolSize) (flags : Tcp.Flags) (payload : Bytes) :
    Action Interface Unit := do
  let interface ← Action.get
  let channel := interface.pool.get index
  let segment ← Action.check (segmentBytes interface.config channel flags payload)
  Action.emit (.segmentSending flags channel.sequence channel.acknowledgment
    (segment.length - Tcp.headerLength) channel.guest)
  sendPacket Ipv4.Protocol.tcp channel.guest.address segment

/-- Send a segment on the channel bound to a port, with its current numbers. -/
def sendSegment (port : UInt16) (flags : Tcp.Flags) (payload : Bytes) : Action Interface Unit := do
  let interface ← Action.get
  let index ← Action.demand (interface.pool.find? port) (.noChannel port)
  sendOn index flags payload

/-- Send a segment without payload that acknowledges, with further flags. -/
def sendAcknowledgment (port : UInt16) (flags : Tcp.Flags) : Action Interface Unit :=
  sendSegment port (flags ||| .ack) []

/-- Carry out a reaction: send its answer from the staged channel, and settle
what becomes of the channel by whether that worked. -/
def conduct (index : Fin Tcp.poolSize) (port : UInt16) (reaction : Tcp.Reaction) :
    Action Interface Unit := do
  Action.emitAll reaction.before
  setChannel index reaction.staged
  match reaction.answer? with
  | none => do
      setChannel index reaction.next
      Action.emitAll reaction.after
  | some answer =>
      match ← Action.attempt (sendOn index answer.flags answer.payload), answer.loss with
      | .ok (), _ => do
          setChannel index reaction.next
          Action.emitAll reaction.after
      | .error cause, .ignored => do
          Action.emit (.answerLost port reaction.staged.state cause)
          setChannel index reaction.next
          Action.emitAll reaction.after
      | .error cause, .undone restored => do
          setChannel index restored
          Action.refuse cause

/-- Let the channel at `index` react to a segment. -/
def stepChannel (index : Fin Tcp.poolSize) (segment : Tcp.Segment) : Action Interface Unit := do
  let pool := (← Action.get).pool
  let reaction ← Action.ofExcept ((pool.get index).react (pool.fresh index) segment)
  conduct index segment.header.destinationPort reaction

/-- Hand a segment to the channel bound to its destination port. -/
def processSegment (segment : Tcp.Segment) : Action Interface Unit := do
  let header := segment.header
  let port := header.destinationPort
  Action.emit (.segmentArrived segment.sender header.sourcePort port header.flags
    header.sequence header.acknowledgment segment.payload.length)
  let interface ← Action.get
  match interface.pool.find? port with
  | none => do
      Action.emit (.portUnbound port)
      Action.refuse (.noChannel port)
  | some index =>
      match ← Action.attempt (stepChannel index segment) with
      | .ok () => return ()
      | .error cause => do
          let interface ← Action.get
          Action.emit (.segmentRefused port cause (interface.pool.get index).state)
          Action.refuse cause

/-- Read a segment out of the payload of a packet.  Options are passed over. -/
def receiveSegment (sender : Ipv4Address) (data : Bytes) : Action Interface Unit :=
  match Tcp.Header.decode data with
  | none => do
      Action.emit .segmentShort
      Action.refuse .truncated
  | some header =>
      if header.length < Tcp.headerLength ∨ data.length < header.length then do
        Action.emit (.dataOffsetBad header.length)
        Action.refuse .truncated
      else do
        let payload ← Action.check (Bytes.slice data header.length data.length)
        processSegment { header, sender, payload }

end NetStack.Interface
