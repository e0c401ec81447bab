/-
Module: NetStack.Address
Purpose: Hardware addresses, IPv4 addresses and endpoints.
Main exports:
  MacAddress, Ipv4Address, Endpoint
-/
import NetStack.Text

namespace NetStack

/-- The six bytes of a hardware address, in the order they go on the wire. -/
structure MacAddress where
  first : UInt8
  second : UInt8
  third : UInt8
  fourth : UInt8
  fifth : UInt8
  sixth : UInt8
deriving Repr, Inhabited, DecidableEq

namespace MacAddress

/-- Every station on the link. -/
def broadcast : MacAddress :=
  ⟨0xff, 0xff, 0xff, 0xff, 0xff, 0xff⟩

/-- No station; stands for an address that is not known. -/
def zero : MacAddress :=
  ⟨0, 0, 0, 0, 0, 0⟩

def toBytes (mac : MacAddress) : Bytes :=
  [mac.first, mac.second, mac.third, mac.fourth, mac.fifth, mac.sixth]

/-- Two hexadecimal digits per byte, joined by colons. -/
def text (mac : MacAddress) : String :=
  ":".intercalate (mac.toBytes.map fun byte => Text.hexPadded 2 byte.toNat)

/-- The same digits as a bracketed list. -/
def listText (mac : MacAddress) : String :=
  "[" ++ ", ".intercalate (mac.toBytes.map fun byte => Text.hexPadded 2 byte.toNat) ++ "]"

end MacAddress

/-- The four octets of an IPv4 address. -/
structure Ipv4Address where
  first : UInt8
  second : UInt8
  third : UInt8
  fourth : UInt8
deriving Repr, Inhabited, DecidableEq

namespace Ipv4Address

/-- The address 0.0.0.0. -/
def unspecified : Ipv4Address :=
  ⟨0, 0, 0, 0⟩

def toBytes (address : Ipv4Address) : Bytes :=
  [address.first, address.second, address.third, address.fourth]

/-- Decimal octets, joined by dots. -/
def text (address : Ipv4Address) : String :=
  ".".intercalate (address.toBytes.map fun octet => Nat.repr octet.toNat)

end Ipv4Address

/-- An address with a port. -/
structure Endpoint where
  address : Ipv4Address
  port : UInt16
deriving Repr, Inhabited, DecidableEq

/-- The address, a colon and the decimal port. -/
def Endpoint.text (endpoint : Endpoint) : String :=
  endpoint.address.text ++ ":" ++ Nat.repr endpoint.port.toNat

end NetStack
