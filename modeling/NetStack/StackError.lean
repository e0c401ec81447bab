/-
Module: NetStack.StackError
Purpose: Why a frame, a packet or a segment was dropped.
Main exports:
  StackError, StackError.code, StackError.message, Failure
-/
import NetStack.Address
import NetStack.Tcp.Flags

namespace NetStack

/-!
Nothing that arrives is fatal.  Each cause here says why one frame, packet or
segment went no further, and the stack goes on with the next one.  A `Failure`
adds the outcome that no traffic may have: a fault.
-/

inductive StackError where
  | queueFull
  | timeout
  | frameTooLarge (length : Nat)
  | truncated
  | unsupportedEtherType (value : UInt16)
  | unsupportedHardwareType (value : UInt16)
  | unsupportedProtocolType (value : UInt16)
  | unsupportedVersion (value : UInt8)
  | badChecksum (received computed : UInt16)
  | unsupportedIcmpType (value : UInt8)
  | invalidIcmpCode (value : UInt8)
  | noChannel (port : UInt16)
  | wrongPeer (expected actual : Ipv4Address)
  | sequenceMismatch (sequence acknowledgment : UInt32)
  | missingFlag (state : Tcp.State) (flag : Tcp.Flags)
  | bufferOverflow
deriving Repr, Inhabited, DecidableEq

namespace StackError

/-- The number of the cause towards callers that know numbers only.  It is
negative, and different for each cause. -/
def code : StackError → Int
  | queueFull => -1
  | timeout => -2
  | frameTooLarge _ => -3
  | truncated => -4
  | unsupportedEtherType _ => -5
  | unsupportedHardwareType _ => -6
  | unsupportedProtocolType _ => -7
  | unsupportedVersion _ => -8
  | badChecksum _ _ => -9
  | unsupportedIcmpType _ => -10
  | invalidIcmpCode _ => -11
  | noChannel _ => -12
  | wrongPeer _ _ => -13
  | sequenceMismatch _ _ => -14
  | missingFlag _ _ => -15
  | bufferOverflow => -16

/-- The cause in words. -/
def message : StackError → String
  | queueFull => "transmit queue is full"
  | timeout => "timed out waiting for the adapter"
  | frameTooLarge length => s!"frame payload of {length} bytes exceeds the MTU"
  | truncated => "packet is truncated"
  | unsupportedEtherType value => s!"unsupported ethertype 0x{Text.hexPadded 4 value.toNat}"
  | unsupportedHardwareType value => s!"unsupported ARP hardware type {value.toNat}"
  | unsupportedProtocolType value =>
      s!"unsupported ARP protocol type 0x{Text.hexPadded 4 value.toNat}"
  | unsupportedVersion value =>
      s!"unsupported IP version/header length 0x{Text.hexPadded 2 value.toNat}"
  | badChecksum received computed =>
      s!"bad checksum: received 0x{Text.hexPadded 4 received.toNat}, " ++
        s!"computed 0x{Text.hexPadded 4 computed.toNat}"
  | unsupportedIcmpType value => s!"unsupported ICMP type {value.toNat}"
  | invalidIcmpCode value => s!"invalid ICMP code {value.toNat}"
  | noChannel port => s!"no virtual channel bound to port {port.toNat}"
  | wrongPeer expected actual =>
      s!"segment from {actual.text} does not belong to peer {expected.text}"
  | sequenceMismatch sequence acknowledgment =>
      s!"sequence mismatch: seq {sequence.toNat} ack {acknowledgment.toNat}"
  | missingFlag state flag => s!"flag {flag.text} required in state {state.text}"
  | bufferOverflow => "receive buffer overflow"

end StackError

/-- How an operation can end other than well. -/
inductive Failure where
  /-- The frame, packet or segment was dropped. -/
  | refused (cause : StackError)
  /-- The operation left what it was given. -/
  | fault (cause : Fault)
deriving Repr, Inhabited, DecidableEq

end NetStack
