/-
Module: NetStack.Adapter.Rings
Purpose: The two descriptor rings that the stack and the adapter share, each
  descriptor together with its packet buffer.
Main exports:
  TransmitSlot, ReceiveSlot, Rings, packetSize
-/
import NetStack.Bytes

namespace NetStack

/-!
A slot belongs to one side at a time.  A transmit slot whose done mark is set is
free for the stack; the stack fills it and clears the mark, and the adapter sets
the mark again once the frame is sent.  A receive slot is the adapter's until it
sets the mark; the stack takes the frame out and clears the mark.  Buffers keep
their size: a shorter frame leaves the bytes of longer ones behind it.
-/

/-- The size of a packet buffer. -/
def packetSize : Nat := 2048

structure TransmitSlot where
  buffer : Bytes
  length : Nat
  done : Bool
deriving Repr, Inhabited, DecidableEq

namespace TransmitSlot

/-- A slot that is free for the stack and was never used. -/
def unused : TransmitSlot :=
  { buffer := .zeros packetSize, length := 0, done := true }

/-- The bytes that the adapter sends. -/
def frame (slot : TransmitSlot) : Bytes :=
  slot.buffer.take (min slot.length packetSize)

end TransmitSlot

structure ReceiveSlot where
  buffer : Bytes
  length : Nat
  done : Bool
  /-- Whether the frame ends in this slot. -/
  endOfPacket : Bool
deriving Repr, Inhabited, DecidableEq

namespace ReceiveSlot

/-- A slot that is the adapter's and was never used. -/
def unused : ReceiveSlot :=
  { buffer := .zeros packetSize, length := 0, done := false, endOfPacket := false }

/-- The slot with a frame put into it by the adapter, cut to the buffer. -/
def fill (slot : ReceiveSlot) (frame : Bytes) (endOfPacket : Bool) : ReceiveSlot :=
  let carried := frame.take packetSize
  { buffer := carried ++ slot.buffer.drop carried.length
    length := carried.length
    done := true
    endOfPacket }

/-- The slot handed back to the adapter. -/
def release (slot : ReceiveSlot) : ReceiveSlot :=
  { slot with done := false, endOfPacket := false }

end ReceiveSlot

/-- A transmit ring and a receive ring of the same size. -/
structure Rings (size : Nat) where
  transmit : Vector TransmitSlot size
  receive : Vector ReceiveSlot size
deriving Repr

/-- Rings that were never used. -/
def Rings.unused {size : Nat} : Rings size :=
  { transmit := Vector.replicate size .unused, receive := Vector.replicate size .unused }

end NetStack
