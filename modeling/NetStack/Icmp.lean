/-
Module: NetStack.Icmp
Purpose: Echo messages: the 8-byte header, and the reply to a request.
Main exports:
  Icmp.Header, Icmp.Header.encode, Icmp.Header.decode, Icmp.echoReply
-/
import NetStack.Checksum

namespace NetStack.Icmp

def headerLength : Nat := 8

def replyKind : UInt8 := 0

def requestKind : UInt8 := 8

structure Header where
  kind : UInt8
  code : UInt8
  checksum : UInt16
  identifier : UInt16
  sequence : UInt16
deriving Repr, Inhabited, DecidableEq

namespace Header

def encode (header : Header) : Bytes :=
  [header.kind, header.code] ++ Wire.word16 header.checksum ++
    Wire.word16 header.identifier ++ Wire.word16 header.sequence

def reader : Wire.Reader Header := do
  let kind ← Wire.Reader.byte
  let code ← Wire.Reader.byte
  let checksum ← Wire.Reader.word16
  let identifier ← Wire.Reader.word16
  let sequence ← Wire.Reader.word16
  return { kind, code, checksum, identifier, sequence }

/-- The header at the start of a message, unless the message is too short. -/
def decode (message : Bytes) : Option Header :=
  reader.read message

def isEchoRequest (header : Header) : Bool :=
  header.kind == requestKind

end Header

/-- The reply to an echo request: the same message with the kind of a reply and
a checksum of its own.  Identifier, sequence number and data stay as they came
in.  A message without room for kind and checksum is a fault. -/
def echoReply (message : Bytes) : Except Fault Bytes := do
  let turned ← Bytes.splice message 0 [replyKind]
  let cleared ← Bytes.splice turned 2 [0, 0]
  Bytes.splice cleared 2 (Wire.word16 (Checksum.checksum cleared))

end NetStack.Icmp
