/-
Module: NetStack.Event
Purpose: What the stack reports about its work, how grave each report is, and
  its wording.
Main exports:
  Level, Event, Event.level, Event.message
-/
import NetStack.Ethernet
import NetStack.Http.RequestLine
import NetStack.StackError

namespace NetStack

/-!
Every line that the stack logs is an `Event` first.  Operations produce events
as values beside their results; only the wording below turns them into text.
-/

/-- The gravity of a report, gravest first. -/
inductive Level where
  | error
  | warn
  | info
  | debug
  | trace
deriving Repr, Inhabited, DecidableEq

namespace Level

def rank : Level → Nat
  | error => 0
  | warn => 1
  | info => 2
  | debug => 3
  | trace => 4

def text : Level → String
  | error => "ERROR"
  | warn => "WARN"
  | info => "INFO"
  | debug => "DEBUG"
  | trace => "TRACE"

/-- Whether a report at this level is kept by someone who asks for reports down
to `threshold`. -/
def reaches (level threshold : Level) : Bool :=
  level.rank ≤ threshold.rank

end Level

inductive Event where
  -- the adapter is brought up
  | adapterFound (mac : MacAddress)
  | adapterStatus (value : UInt32)
  -- the descriptor rings, seen from the stack
  | transmitQueueFull
  | receiveQueueEmpty
  | frameIncomplete
  | receiveTimeout (milliseconds : Nat)
  | transmitTimeout (milliseconds : Nat)
  -- the software adapter
  | frameSent (length slot : Nat)
  | frameArrived (length slot : Nat)
  | receiveDisabled
  | receiveRingFull
  | writeIgnored (offset : Nat)
  -- the interface comes up
  | addressMismatch (adapter configured : MacAddress)
  | interfaceUp (address host : Ipv4Address)
  -- Ethernet
  | frameSending (length : Nat) (etherType : EtherType)
  | bindingMissing (address : Ipv4Address)
  | transmitFailed (cause : StackError)
  | frameProcessing (length : Nat)
  | etherTypeUnknown (value : UInt16)
  -- address resolution
  | addressAsked (address : Ipv4Address)
  | addressTold (asker own : Ipv4Address)
  | messageResolving
  | hardwareUnsupported
  | protocolUnsupported
  | bindingLearned (address : Ipv4Address) (slot : Nat)
  | bindingRefreshed (slot : Nat)
  | bindingPinned (address : Ipv4Address)
  | tableFull (address : Ipv4Address)
  | requestSilent
  -- IPv4
  | packetSending (length : Nat) (protocol : UInt8) (destination : Ipv4Address)
  | packetProcessing
  | versionUnsupported (value : UInt8)
  | checksumMismatch (computed received : UInt16)
  | totalLengthBad (total size : Nat)
  | protocolIgnored (protocol : UInt8)
  -- ICMP
  | echoProcessing
  | strangerAsked (address : Ipv4Address)
  | echoReplying (address : Ipv4Address) (identifier sequence : UInt16)
  -- UDP
  | datagramSending (length : Nat)
  | datagramProcessing
  | datagramArrived (port : UInt16) (payload : Bytes)
  -- TCP
  | segmentShort
  | dataOffsetBad (offset : Nat)
  | segmentArrived (sender : Ipv4Address) (sourcePort destinationPort : UInt16)
      (flags : Tcp.Flags) (sequence acknowledgment : UInt32) (length : Nat)
  | portUnbound (port : UInt16)
  | segmentRefused (port : UInt16) (cause : StackError) (state : Tcp.State)
  | channelRebound (port : UInt16)
  | channelOpened (port : UInt16) (peer : Endpoint)
  | channelEstablished (port : UInt16)
  | finAwaited (port : UInt16)
  | channelClosed (port : UInt16)
  | stateUnimplemented (port : UInt16) (state : Tcp.State)
  | requestAnswered (port : UInt16) (length : Nat)
  | segmentSending (flags : Tcp.Flags) (sequence acknowledgment : UInt32) (length : Nat)
      (peer : Endpoint)
  | answerLost (port : UInt16) (state : Tcp.State) (cause : StackError)
  -- HTTP
  | requestParsing (length : Nat)
  | requestRefused (refusal : Http.Refusal)
  | resourceRequested (uri : Bytes)
  | replyCreating (status : UInt16)
  | replyTruncated (length : Nat)
  -- clocks
  | counterCalibrated (frequency : UInt64)
deriving Repr, Inhabited, DecidableEq

namespace Event

def level : Event → Level
  | transmitFailed _ | answerLost _ _ _ => .error
  | transmitQueueFull | frameIncomplete | addressMismatch _ _
  | hardwareUnsupported | protocolUnsupported | tableFull _
  | checksumMismatch _ _ | totalLengthBad _ _
  | segmentShort | dataOffsetBad _ | portUnbound _ | segmentRefused _ _ _
  | stateUnimplemented _ _ | requestRefused _ => .warn
  | adapterFound _ | adapterStatus _ | interfaceUp _ _ | datagramArrived _ _
  | channelRebound _ | channelOpened _ _ | channelEstablished _ | channelClosed _
  | requestAnswered _ _ | counterCalibrated _ => .info
  | receiveDisabled | receiveRingFull | writeIgnored _ | bindingMissing _
  | etherTypeUnknown _ | bindingLearned _ _ | requestSilent | versionUnsupported _
  | protocolIgnored _ | strangerAsked _ | echoReplying _ _ _ => .debug
  | receiveQueueEmpty | receiveTimeout _ | transmitTimeout _ | frameSent _ _
  | frameArrived _ _ | frameSending _ _ | frameProcessing _ | addressAsked _
  | addressTold _ _ | messageResolving | bindingRefreshed _ | bindingPinned _
  | packetSending _ _ _ | packetProcessing | echoProcessing | datagramSending _
  | datagramProcessing | segmentArrived _ _ _ _ _ _ _ | finAwaited _
  | segmentSending _ _ _ _ _ | requestParsing _ | resourceRequested _
  | replyCreating _ | replyTruncated _ => .trace

def message : Event → String
  | adapterFound mac => s!"e1000: MAC {mac.text}"
  | adapterStatus value => s!"e1000: status 0x{Text.hexPadded 8 value.toNat}"
  | transmitQueueFull => "e1000: transmit queue is full"
  | receiveQueueEmpty => "e1000: receive queue is empty"
  | frameIncomplete => "e1000: receive status is not EOP"
  | receiveTimeout milliseconds => s!"e1000: receive timeout ({milliseconds} ms)"
  | transmitTimeout milliseconds => s!"e1000: transmit timeout ({milliseconds} ms)"
  | frameSent length slot => s!"sim: sent {length} bytes from TX desc {slot}"
  | frameArrived length slot => s!"sim: received {length} bytes into RX desc {slot}"
  | receiveDisabled => "sim: receive disabled, dropping frame"
  | receiveRingFull => "sim: receive ring full, dropping frame"
  | writeIgnored offset =>
      s!"sim: write to 0x{Text.hex offset} outside register window ignored"
  | addressMismatch adapter configured =>
      s!"iface: adapter reports MAC {adapter.listText}, sending as {configured.listText}"
  | interfaceUp address host => s!"iface: up at {address.text} (host {host.text})"
  | frameSending length etherType => s!"eth: sending {length} byte {etherType.text} frame"
  | bindingMissing address => s!"eth: no ARP binding for {address.text}"
  | transmitFailed cause => s!"eth: transmit failed: {cause.message}"
  | frameProcessing length => s!"eth: processing frame of {length} bytes"
  | etherTypeUnknown value =>
      s!"eth: dropping frame with ethertype 0x{Text.hexPadded 4 value.toNat}"
  | addressAsked address => s!"arp: who has {address.text}?"
  | addressTold asker own => s!"arp: telling {asker.text} we are {own.text}"
  | messageResolving => "arp: resolving"
  | hardwareUnsupported => "arp: only Ethernet is supported"
  | protocolUnsupported => "arp: only IPv4 is supported"
  | bindingLearned address slot => s!"arp: learned {address.text} in slot {slot}"
  | bindingRefreshed slot => s!"arp: refreshed slot {slot}"
  | bindingPinned address => s!"arp: {address.text} is static"
  | tableFull address => s!"arp: table full, {address.text} not recorded"
  | requestSilent => "arp: keeping silent"
  | packetSending length protocol destination =>
      s!"ip: sending {length} bytes of protocol {protocol.toNat} to {destination.text}"
  | packetProcessing => "ip: processing packet"
  | versionUnsupported value =>
      s!"ip: unsupported version/length 0x{Text.hexPadded 2 value.toNat}"
  | checksumMismatch computed received =>
      s!"ip: checksum mismatch: expected 0x{Text.hexPadded 4 computed.toNat}, " ++
        s!"got 0x{Text.hexPadded 4 received.toNat}"
  | totalLengthBad total size =>
      s!"ip: total length {total} outside packet of {size} bytes"
  | protocolIgnored protocol => s!"ip: ignoring unsupported protocol {protocol.toNat}"
  | echoProcessing => "icmp: processing message"
  | strangerAsked address => s!"icmp: {address.text} is a stranger, asking for its MAC"
  | echoReplying address identifier sequence =>
      s!"icmp: echo reply to {address.text} id {identifier.toNat} seq {sequence.toNat}"
  | datagramSending length => s!"udp: sending {length} bytes"
  | datagramProcessing => "udp: processing datagram"
  | datagramArrived port payload => s!"udp: port {port.toNat}: {Text.hexDump payload}"
  | segmentShort => "tcp: IP packet too short for TCP header"
  | dataOffsetBad offset => s!"tcp: bad data offset {offset}"
  | segmentArrived sender sourcePort destinationPort flags sequence acknowledgment length =>
      s!"tcp: {sender.text}:{sourcePort.toNat} -> :{destinationPort.toNat} {flags.text} " ++
        s!"seq {sequence.toNat} ack {acknowledgment.toNat} len {length}"
  | portUnbound port => s!"tcp: no virtual channel for port {port.toNat}"
  | segmentRefused port cause state =>
      s!"tcp: port {port.toNat}: {cause.message} (state Some({state.text}))"
  | channelRebound port => s!"tcp: port {port.toNat}: closed, rebinding"
  | channelOpened port peer => s!"tcp: port {port.toNat}: SYN from {peer.text}"
  | channelEstablished port => s!"tcp: port {port.toNat}: established"
  | finAwaited port => s!"tcp: port {port.toNat}: waiting for FIN"
  | channelClosed port => s!"tcp: port {port.toNat}: closed, listening again"
  | stateUnimplemented port state =>
      s!"tcp: port {port.toNat}: unimplemented state {state.text}"
  | requestAnswered port length =>
      s!"tcp: port {port.toNat}: answered {length} bytes, closing"
  | segmentSending flags sequence acknowledgment length peer =>
      s!"tcp: sending {flags.text} seq {sequence.toNat} ack {acknowledgment.toNat} " ++
        s!"len {length} to {peer.text}"
  | answerLost port state cause =>
      s!"tcp: port {port.toNat}: send failed in Some({state.text}): {cause.message}"
  | requestParsing length => s!"http: parsing request of {length} bytes"
  | requestRefused .unknownMethod => "http: only GET requests are supported"
  | requestRefused .unknownVersion =>
      s!"http: only {Http.version} and {Http.olderVersion} are supported"
  | requestRefused .incomplete => "http: request line incomplete"
  | resourceRequested uri => s!"http: GET {Text.ofUtf8 uri}"
  | replyCreating status => s!"http: creating {status.toNat} reply"
  | replyTruncated length => s!"http: reply truncated at {length} bytes"
  | counterCalibrated frequency => s!"tsc: calibrated at {frequency.toNat} Hz"

end Event

end NetStack
