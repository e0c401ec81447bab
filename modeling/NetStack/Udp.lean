/-
Module: NetStack.Udp
Purpose: UDP datagrams: the 8-byte header, the declared payload, and writing a
  datagram into a buffer.
Main exports:
  Udp.Header, Udp.Header.encode, Udp.Header.decode, Udp.Header.payload,
  Udp.writeDatagram
-/
import NetStack.Ipv4

namespace NetStack.Udp

def headerLength : Nat := 8

/-- The largest payload of one datagram. -/
def maxPayload : Nat := Ipv4.maxPayload - headerLength

structure Header where
  sourcePort : UInt16
  destinationPort : UInt16
  /-- The length of header and payload. -/
  length : UInt16
  checksum : UInt16
deriving Repr, Inhabited, DecidableEq

namespace Header

def encode (header : Header) : Bytes :=
  Wire.word16 header.sourcePort ++ Wire.word16 header.destinationPort ++
    Wire.word16 header.length ++ Wire.word16 header.checksum

def reader : Wire.Reader Header := do
  let sourcePort ← Wire.Reader.word16
  let destinationPort ← Wire.Reader.word16
  let length ← Wire.Reader.word16
  let checksum ← Wire.Reader.word16
  return { sourcePort, destinationPort, length, checksum }

/-- The header at the start of a datagram, unless the datagram is too short. -/
def decode (datagram : Bytes) : Option Header :=
  reader.read datagram

/-- The payload that the length field declares, as far as the datagram goes.  A
length that does not even cover the header declares no payload. -/
def payload (header : Header) (datagram : Bytes) : Bytes :=
  let stop := max headerLength (min header.length.toNat datagram.length)
  (datagram.take stop).drop headerLength

end Header

/-- Bytes written at the front of a buffer: how many, and the whole buffer
afterwards. -/
structure Written where
  length : Nat
  buffer : Bytes
deriving Repr, Inhabited, DecidableEq

/-- Write a datagram with checksum zero, which stands for none, at the front of
`out`.  The payload is cut to what a datagram and the buffer have room for; a
buffer without room for the header is a fault. -/
def writeDatagram (sourcePort destinationPort : UInt16) (payload out : Bytes) :
    Except Fault Written := do
  let carried := payload.take (min maxPayload (out.length - headerLength))
  let total := headerLength + carried.length
  let header : Header := {
    sourcePort
    destinationPort
    length := UInt16.ofNat total
    checksum := 0 }
  let headed ← Bytes.splice out 0 header.encode
  let buffer ← Bytes.splice headed headerLength carried
  return { length := total, buffer }

end NetStack.Udp
