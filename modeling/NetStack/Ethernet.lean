/-
Module: NetStack.Ethernet
Purpose: Ethernet II framing: the 14-byte header and the kinds of payload.
Main exports:
  EtherType, Ethernet.Header, Ethernet.Header.encode, Ethernet.Header.decode
-/
import NetStack.Wire

namespace NetStack

/-- What the payload of a frame is. -/
inductive EtherType where
  | ipv4
  | arp
  | other (value : UInt16)
deriving Repr, Inhabited, DecidableEq

namespace EtherType

def ofWord (value : UInt16) : EtherType :=
  if value = 0x0800 then .ipv4
  else if value = 0x0806 then .arp
  else .other value

def toWord : EtherType → UInt16
  | .ipv4 => 0x0800
  | .arp => 0x0806
  | .other value => value

/-- The name of the kind, with the number of an unnamed one in decimal. -/
def text : EtherType → String
  | .ipv4 => "Ipv4"
  | .arp => "Arp"
  | .other value => "Other(" ++ Nat.repr value.toNat ++ ")"

end EtherType

namespace Ethernet

def headerLength : Nat := 14

/-- The largest payload of one frame. -/
def maxPayload : Nat := 1500

/-- The largest frame that goes on the wire, header included. -/
def maxFrame : Nat := headerLength + maxPayload

structure Header where
  destination : MacAddress
  source : MacAddress
  etherType : EtherType
deriving Repr, Inhabited, DecidableEq

namespace Header

/-- A header whose source is filled in when the frame is sent. -/
def outgoing (destination : MacAddress) (etherType : EtherType) : Header :=
  { destination, source := .zero, etherType }

def encode (header : Header) : Bytes :=
  header.destination.toBytes ++ header.source.toBytes ++ Wire.word16 header.etherType.toWord

def reader : Wire.Reader Header := do
  let destination ← Wire.Reader.mac
  let source ← Wire.Reader.mac
  let kind ← Wire.Reader.word16
  return { destination, source, etherType := .ofWord kind }

/-- The header at the start of a frame, unless the frame is too short. -/
def decode (frame : Bytes) : Option Header :=
  reader.read frame

end Header

end Ethernet

end NetStack
