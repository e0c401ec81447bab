/-
Module: NetStack.Arp.Message
Purpose: Address resolution messages for IPv4 over Ethernet: their 28-byte
  form, the question and the answer.
Main exports:
  Arp.Operation, Arp.Message, Arp.Message.request, Arp.Message.reply,
  Arp.Message.encode, Arp.Message.decode
-/
import NetStack.Ethernet

namespace NetStack.Arp

inductive Operation where
  | request
  | reply
  | other (value : UInt16)
deriving Repr, Inhabited, DecidableEq

namespace Operation

def ofWord (value : UInt16) : Operation :=
  if value = 1 then .request
  else if value = 2 then .reply
  else .other value

def toWord : Operation → UInt16
  | .request => 1
  | .reply => 2
  | .other value => value

end Operation

/-- The hardware type of Ethernet. -/
def ethernetHardware : UInt16 := 1

/-- The protocol type of IPv4. -/
def ipv4Protocol : UInt16 := EtherType.ipv4.toWord

def messageLength : Nat := 28

structure Message where
  hardwareType : UInt16
  protocolType : UInt16
  operation : Operation
  senderMac : MacAddress
  senderAddress : Ipv4Address
  targetMac : MacAddress
  targetAddress : Ipv4Address
deriving Repr, Inhabited, DecidableEq

namespace Message

/-- The question which station holds `target`. -/
def request (senderMac : MacAddress) (senderAddress target : Ipv4Address) : Message :=
  { hardwareType := ethernetHardware
    protocolType := ipv4Protocol
    operation := .request
    senderMac
    senderAddress
    targetMac := .zero
    targetAddress := target }

/-- The answer that `mac` holds `address`, addressed to whoever asked. -/
def reply (question : Message) (mac : MacAddress) (address : Ipv4Address) : Message :=
  { hardwareType := question.hardwareType
    protocolType := question.protocolType
    operation := .reply
    senderMac := mac
    senderAddress := address
    targetMac := question.senderMac
    targetAddress := question.senderAddress }

/-- The two bytes between protocol type and operation give the lengths of a
hardware address and of an IPv4 address. -/
def encode (message : Message) : Bytes :=
  Wire.word16 message.hardwareType ++ Wire.word16 message.protocolType ++ [6, 4] ++
    Wire.word16 message.operation.toWord ++
    message.senderMac.toBytes ++ message.senderAddress.toBytes ++
    message.targetMac.toBytes ++ message.targetAddress.toBytes

/-- The address lengths are passed over. -/
def reader : Wire.Reader Message := do
  let hardwareType ← Wire.Reader.word16
  let protocolType ← Wire.Reader.word16
  Wire.Reader.skip 2
  let operation ← Wire.Reader.word16
  let senderMac ← Wire.Reader.mac
  let senderAddress ← Wire.Reader.ipv4
  let targetMac ← Wire.Reader.mac
  let targetAddress ← Wire.Reader.ipv4
  return {
    hardwareType
    protocolType
    operation := .ofWord operation
    senderMac
    senderAddress
    targetMac
    targetAddress }

/-- The message at the start of the data, unless that is too short. -/
def decode (data : Bytes) : Option Message :=
  reader.read data

end Message

end NetStack.Arp
