/-
Module: NetStack.Ipv4
Purpose: The fixed 20-byte IPv4 header: no options, no fragmentation.
Main exports:
  Ipv4.Header, Ipv4.Header.outgoing, Ipv4.Header.stamp, Ipv4.Header.encode,
  Ipv4.Header.decode, Ipv4.Protocol
-/
import NetStack.Checksum
import NetStack.Ethernet

namespace NetStack.Ipv4

def headerLength : Nat := 20

/-- The largest payload that one Ethernet frame has room for. -/
def maxPayload : Nat := Ethernet.maxPayload - headerLength

/-- Version 4 with a header of five words. -/
def versionAndLength : UInt8 := 0x45

def initialTimeToLive : UInt8 := 64

namespace Protocol

def icmp : UInt8 := 1

def tcp : UInt8 := 6

def udp : UInt8 := 17

end Protocol

structure Header where
  versionLength : UInt8
  service : UInt8
  totalLength : UInt16
  identification : UInt16
  fragment : UInt16
  timeToLive : UInt8
  protocol : UInt8
  checksum : UInt16
  source : Ipv4Address
  destination : Ipv4Address
deriving Repr, Inhabited, DecidableEq

namespace Header

/-- A header for `payloadLength` bytes, not yet stamped.  The total length has to
fit into its 16-bit field. -/
def outgoing (protocol : UInt8) (source destination : Ipv4Address) (payloadLength : Nat) :
    Except Fault Header :=
  let total := headerLength + payloadLength
  if total < 65536 then
    .ok {
      versionLength := versionAndLength
      service := 0
      totalLength := UInt16.ofNat total
      identification := 0
      fragment := 0
      timeToLive := initialTimeToLive
      protocol
      checksum := 0
      source
      destination }
  else
    .error (.lengthOverflow total)

def encode (header : Header) : Bytes :=
  [header.versionLength, header.service] ++ Wire.word16 header.totalLength ++
    Wire.word16 header.identification ++ Wire.word16 header.fragment ++
    [header.timeToLive, header.protocol] ++ Wire.word16 header.checksum ++
    header.source.toBytes ++ header.destination.toBytes

def reader : Wire.Reader Header := do
  let versionLength ← Wire.Reader.byte
  let service ← Wire.Reader.byte
  let totalLength ← Wire.Reader.word16
  let identification ← Wire.Reader.word16
  let fragment ← Wire.Reader.word16
  let timeToLive ← Wire.Reader.byte
  let protocol ← Wire.Reader.byte
  let checksum ← Wire.Reader.word16
  let source ← Wire.Reader.ipv4
  let destination ← Wire.Reader.ipv4
  return {
    versionLength
    service
    totalLength
    identification
    fragment
    timeToLive
    protocol
    checksum
    source
    destination }

/-- The header at the start of a packet, unless the packet is too short.  The
fields are not judged here. -/
def decode (packet : Bytes) : Option Header :=
  reader.read packet

/-- The checksum of the header with its own checksum field zeroed. -/
def computedChecksum (header : Header) : UInt16 :=
  Checksum.checksum { header with checksum := 0 }.encode

/-- Whether the stored checksum is the one that the header has. -/
def isIntact (header : Header) : Bool :=
  header.computedChecksum == header.checksum

/-- The header with its identification and checksum filled in. -/
def stamp (header : Header) (identification : UInt16) : Header :=
  let named := { header with identification }
  { named with checksum := named.computedChecksum }

/-- What the total length leaves for the payload. -/
def payloadLength (header : Header) : Nat :=
  header.totalLength.toNat - headerLength

end Header

end NetStack.Ipv4
