/-
Module: NetStack.Config
Purpose: The addresses and ports that the stack is brought up with.
Main exports:
  Config, Config.default
-/
import NetStack.Address

namespace NetStack

structure Config where
  /-- The hardware address written into every outgoing frame. -/
  mac : MacAddress
  address : Ipv4Address
  /-- The host at the other end of the link.  Its binding is pinned, and it
  receives every datagram that the stack sends. -/
  hostAddress : Ipv4Address
  hostMac : MacAddress
  udpSourcePort : UInt16
  udpDestinationPort : UInt16
  /-- Subtract the local port from outgoing TCP checksums.  Such segments fail
  verification at a standard peer. -/
  checksumPortBias : Bool
deriving Repr, Inhabited, DecidableEq

/-- A guest at 10.0.2.15 that talks to the host at 10.0.2.2. -/
def Config.default : Config where
  mac := ⟨0x10, 0x00, 0x00, 0x11, 0x11, 0x11⟩
  address := ⟨10, 0, 2, 15⟩
  hostAddress := ⟨10, 0, 2, 2⟩
  hostMac := ⟨0xaa, 0xaa, 0xaa, 0xaa, 0xaa, 0xaa⟩
  udpSourcePort := 8081
  udpDestinationPort := 1234
  checksumPortBias := true

end NetStack
