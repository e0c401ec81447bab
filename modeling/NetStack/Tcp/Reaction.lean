/-
Module: NetStack.Tcp.Reaction
Purpose: What a segment makes of the channel it is addressed to: the state
  machine of the channels, apart from the sending of its answers.
Main exports:
  Tcp.Segment, Tcp.Reaction, Tcp.Answer, Tcp.Loss, Tcp.Channel.react
-/
import NetStack.Http.Response
import NetStack.Tcp.Channel

namespace NetStack.Tcp

/-!
A channel goes round one loop:

    Listen --SYN--> SynReceived --ACK--> Established --ACK|PSH--> CloseWait
       ^                                                              |
       +------------------------------ACK|FIN-------------------------+

A segment that does not fit the state of its channel is refused and changes
nothing.  One that does fit names, as a `Reaction`, the answer that is due and
what becomes of the channel.  The answer goes out with the numbers of the staged
channel, and only then is it known whether there was room for it.  A control
answer that is lost is let go, and the channel moves on regardless.  When the
answer to data is lost, the segment is forgotten, so that the peer's next copy
of it is in sequence again.
-/

/-- A segment as it reaches its channel. -/
structure Segment where
  header : Header
  sender : Ipv4Address
  payload : Bytes
deriving Repr, Inhabited, DecidableEq

/-- What the loss of an answer means. -/
inductive Loss where
  /-- It is let go. -/
  | ignored
  /-- The segment is refused, and the channel falls back to `restored`. -/
  | undone (restored : Channel)
deriving Repr, Inhabited, DecidableEq

/-- A segment to be sent to the peer. -/
structure Answer where
  flags : Flags
  payload : Bytes
  loss : Loss
deriving Repr, Inhabited, DecidableEq

/-- What an accepted segment brings about. -/
structure Reaction where
  /-- Reports that come before the answer. -/
  before : List Event
  /-- The channel from whose numbers the answer is made. -/
  staged : Channel
  answer? : Option Answer
  /-- The channel once the answer is on its way or let go. -/
  next : Channel
  /-- Reports that come last. -/
  after : List Event
deriving Repr, Inhabited

namespace Reaction

/-- No answer, and the channel becomes `next`. -/
def settled (next : Channel) (events : List Event) : Reaction :=
  { before := events, staged := next, answer? := none, next, after := [] }

/-- A control answer without payload, which may get lost. -/
def control (staged : Channel) (flags : Flags) (next : Channel) (events : List Event) : Reaction :=
  { before := []
    staged
    answer? := some { flags := flags ||| Flags.ack, payload := [], loss := .ignored }
    next
    after := events }

end Reaction

namespace Channel

/-- Check the flags, the peer and the numbers of a segment, in this order. -/
def expect (channel : Channel) (segment : Segment) (required : Flags) : Except StackError Unit :=
  if !segment.header.flags.contains required then
    .error (.missingFlag channel.state required)
  else if segment.sender ≠ channel.guest.address then
    .error (.wrongPeer channel.guest.address segment.sender)
  else if !channel.continues segment.header.sequence segment.header.acknowledgment then
    .error (.sequenceMismatch segment.header.sequence segment.header.acknowledgment)
  else
    .ok ()

/-- A listening channel takes a bare SYN.  Its own initial number is the
peer's. -/
def accept (channel : Channel) (segment : Segment) : Except Failure Reaction :=
  let header := segment.header
  if !header.flags.contains .syn || header.flags.contains .ack then
    .error (.refused (.missingFlag channel.state .syn))
  else
    let guest : Endpoint := ⟨segment.sender, header.sourcePort⟩
    let staged :=
      { channel with
        guest
        sequence := header.sequence
        acknowledgment := header.sequence + 1 }
    .ok (.control staged .syn
      { staged with sequence := staged.sequence + 1, state := .synReceived }
      [.channelOpened header.destinationPort guest])

/-- The peer confirms the opening. -/
def establish (channel : Channel) (segment : Segment) : Except Failure Reaction :=
  match channel.expect segment .ack with
  | .error cause => .error (.refused cause)
  | .ok () =>
      .ok (.control channel .empty { channel with state := .established }
        [.channelEstablished segment.header.destinationPort])

/-- The answer to a pushed request: the response to everything received, which
also starts to close the channel. -/
def answerRequest (channel staged : Channel) (port : UInt16) : Reaction :=
  let reply := Http.respond staged.received (Bytes.zeros maxPayload)
  { before := reply.events
    staged
    answer? := some {
      flags := .ack ||| .psh ||| .fin
      payload := reply.written
      loss := .undone { channel with window := staged.window.truncate channel.window.fill } }
    next :=
      { staged with
        sequence := staged.sequence + (UInt32.ofNat reply.length + 1)
        window := staged.window.clear
        state := .closeWait }
    after := [.requestAnswered port reply.length] }

/-- Data arrives.  A push asks for the response, other data for an
acknowledgment, and a segment without either for nothing. -/
def collect (channel : Channel) (segment : Segment) : Except Failure Reaction :=
  match channel.expect segment .ack with
  | .error cause => .error (.refused cause)
  | .ok () =>
      match channel.window.append segment.payload with
      | .error failure => .error failure
      | .ok window =>
          let staged :=
            { channel with
              window
              acknowledgment := channel.acknowledgment + UInt32.ofNat segment.payload.length }
          if segment.header.flags.contains .psh then
            .ok (channel.answerRequest staged segment.header.destinationPort)
          else if segment.payload.isEmpty then
            .ok (.settled staged [])
          else
            .ok {
              before := []
              staged
              answer? := some {
                flags := .ack
                payload := []
                loss := .undone
                  { channel with window := window.truncate channel.window.fill } }
              next := staged
              after := [] }

/-- The peer closes its side.  Until it does, its acknowledgments are taken
without further questions. -/
def close (channel : Channel) (segment : Segment) : Except Failure Reaction :=
  let port := segment.header.destinationPort
  if !segment.header.flags.contains .ack then
    .error (.refused (.missingFlag channel.state .ack))
  else if !segment.header.flags.contains .fin then
    .ok (.settled channel [.finAwaited port])
  else
    match channel.expect segment (.ack ||| .fin) with
    | .error cause => .error (.refused cause)
    | .ok () =>
        let staged := { channel with acknowledgment := channel.acknowledgment + 1 }
        .ok (.control staged .empty { staged with state := .listen } [.channelClosed port])

/-- What a segment brings about in a channel.  A closed channel returns to
`fresh`, its initial binding, and the segment is used up by that. -/
def react (channel fresh : Channel) (segment : Segment) : Except Failure Reaction :=
  let port := segment.header.destinationPort
  match channel.state with
  | .closed => .ok (.settled fresh [.channelRebound port])
  | .listen => channel.accept segment
  | .synReceived => channel.establish segment
  | .established => channel.collect segment
  | .closeWait => channel.close segment
  | .lastAck => .ok (.control channel .fin channel [])
  | .synSent | .finWait1 | .closing | .finWait2 | .timeWait =>
      .ok (.settled channel [.stateUnimplemented port channel.state])

end Channel

end NetStack.Tcp
