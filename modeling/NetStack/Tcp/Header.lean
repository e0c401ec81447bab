/-
Module: NetStack.Tcp.Header
Purpose: The fixed 20-byte segment header, and the checksum of a segment under
  the IPv4 pseudo-header.
Main exports:
  Tcp.Header, Tcp.Header.outgoing, Tcp.Header.encode, Tcp.Header.decode,
  Tcp.segmentChecksum
-/
import NetStack.Ipv4
import NetStack.Tcp.Flags

namespace NetStack.Tcp

def headerLength : Nat := 20

/-- The largest payload of one segment. -/
def maxPayload : Nat := Ipv4.maxPayload - headerLength

/-- The room of a receive window: ten full segments. -/
def windowSize : Nat := maxPayload * 10

structure Header where
  sourcePort : UInt16
  destinationPort : UInt16
  sequence : UInt32
  acknowledgment : UInt32
  /-- The header length in words, in the high four bits. -/
  dataOffset : UInt8
  flags : Flags
  window : UInt16
  checksum : UInt16
  urgent : UInt16
deriving Repr, Inhabited, DecidableEq

namespace Header

/-- The header of a segment without options, its checksum still zero. -/
def outgoing (sourcePort destinationPort : UInt16) (sequence acknowledgment : UInt32)
    (flags : Flags) : Header where
  sourcePort := sourcePort
  destinationPort := destinationPort
  sequence := sequence
  acknowledgment := acknowledgment
  dataOffset := UInt8.ofNat (headerLength / 4 * 16)
  flags := flags
  window := UInt16.ofNat windowSize
  checksum := 0
  urgent := 0

def encode (header : Header) : Bytes :=
  Wire.word16 header.sourcePort ++ Wire.word16 header.destinationPort ++
    Wire.word32 header.sequence ++ Wire.word32 header.acknowledgment ++
    [header.dataOffset, header.flags.bits] ++ Wire.word16 header.window ++
    Wire.word16 header.checksum ++ Wire.word16 header.urgent

def reader : Wire.Reader Header := do
  let sourcePort ← Wire.Reader.word16
  let destinationPort ← Wire.Reader.word16
  let sequence ← Wire.Reader.word32
  let acknowledgment ← Wire.Reader.word32
  let dataOffset ← Wire.Reader.byte
  let flags ← Wire.Reader.byte
  let window ← Wire.Reader.word16
  let checksum ← Wire.Reader.word16
  let urgent ← Wire.Reader.word16
  return {
    sourcePort
    destinationPort
    sequence
    acknowledgment
    dataOffset
    flags := ⟨flags⟩
    window
    checksum
    urgent }

/-- The header at the start of a segment, unless the segment is too short.
Options are not read. -/
def decode (segment : Bytes) : Option Header :=
  reader.read segment

/-- The length of the header in bytes, options included. -/
def length (header : Header) : Nat :=
  header.dataOffset.toNat / 16 * 4

end Header

/-- The checksum of a segment, whose own checksum field is zero, under the
pseudo-header of source, destination, protocol and length.  What lies past the
largest segment does not count. -/
def segmentChecksum (source destination : Ipv4Address) (segment : Bytes) : UInt16 :=
  let covered := segment.take Ipv4.maxPayload
  Checksum.checksum
    (source.toBytes ++ destination.toBytes ++ [0, Ipv4.Protocol.tcp] ++
      Wire.word16 (UInt16.ofNat covered.length) ++ covered)

end NetStack.Tcp
