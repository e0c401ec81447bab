/-
Module: NetStack.Adapter.Software
Purpose: An adapter made of software: a register file, and the adapter's part in
  both descriptor rings.
Main exports:
  SoftwareAdapter, Rig, Rig.readAt, Rig.writeAt, Rig.completeTransmits,
  Rig.deliver, Rig.takeSent
-/
import NetStack.Action
import NetStack.Adapter.Register
import NetStack.Adapter.Rings

namespace NetStack

/-!
A running adapter sends every pending frame as soon as the transmit tail is
written; a stalled one sends only when told to.  Frames sent wait in a queue
until somebody takes them.  The adapter reaches the rings through its base and
length registers: while a base or a length is zero there is no ring.
-/

structure SoftwareAdapter where
  file : RegisterFile
  /-- Whether a write to the transmit tail sends what is pending. -/
  automatic : Bool
  /-- The frames sent and not yet taken, oldest first. -/
  sent : List Bytes
deriving Repr, Inhabited, DecidableEq

namespace SoftwareAdapter

/-- Link up, full duplex. -/
def linkUp : UInt32 := 0x00000003

/-- An adapter with this hardware address that sends as soon as the tail moves. -/
def running (mac : MacAddress) : SoftwareAdapter :=
  { file :=
      ((RegisterFile.zeroed.setReg .status linkUp).setReg .receiveAddressLow
        mac.receiveLow).setReg .receiveAddressHigh mac.receiveHigh
    automatic := true
    sent := [] }

/-- An adapter that sends only when told to. -/
def stalled (mac : MacAddress) : SoftwareAdapter :=
  { running mac with automatic := false }

/-- The number of slots of a ring, if there is a ring. -/
def ringCount? (adapter : SoftwareAdapter) (baseLow baseHigh length : Register) : Option Nat :=
  let count := (adapter.file.reg length).toNat / 16
  if adapter.file.reg baseLow = 0 ∧ adapter.file.reg baseHigh = 0 then none
  else if count = 0 then none
  else some count

/-- Whether an offset lies in the register window; its alignment plays no
part. -/
def covers (offset : Nat) : Bool :=
  offset / 4 < Register.windowSize / 4

/-- The word at an offset.  Outside the window everything reads as zero. -/
def readAt (adapter : SoftwareAdapter) (offset : Nat) : UInt32 :=
  if covers offset then adapter.file.get (offset / 4) else 0

end SoftwareAdapter

/-- A software adapter and the rings that its registers refer to. -/
structure Rig (ringSize : Nat) where
  adapter : SoftwareAdapter
  rings : Rings ringSize
deriving Repr

namespace Rig

variable {ringSize : Nat}

/-- Send pending frames from slot `head` on, at most `left` of them, up to the
first slot without one.  The answer is the slot where that ended. -/
def sendPending (count : Nat) : Nat → Nat → Action (Rig ringSize) Nat
  | 0, head => return head
  | left + 1, head => fun rig =>
      if inside : head < ringSize then
        let slot := rig.rings.transmit[head]
        if slot.done then
          { result := .ok head, state := rig, events := [] }
        else
          let frame := slot.frame
          let transmit := rig.rings.transmit.set head { slot with done := true }
          let rest := sendPending count left ((head + 1) % count)
            { adapter := { rig.adapter with sent := rig.adapter.sent ++ [frame] }
              rings := { rig.rings with transmit } }
          { rest with events := .frameSent frame.length head :: rest.events }
      else
        { result := .ok head, state := rig, events := [] }

/-- Send every pending frame.  The done marks decide where the pending frames
end, so a ring that is full, with head and tail at one slot, is emptied too. -/
def completeTransmits : Action (Rig ringSize) Unit := do
  let rig ← Action.get
  if rig.adapter.file.reg .transmitControl &&& Register.transmitEnable = 0 then
    return ()
  else
    match rig.adapter.ringCount? .transmitBaseLow .transmitBaseHigh .transmitLength with
    | none => return ()
    | some count =>
        let head := (rig.adapter.file.reg .transmitHead).toNat % count
        let head ← sendPending count count head
        Action.modify fun rig =>
          { rig with
            adapter :=
              { rig.adapter with
                file := rig.adapter.file.setReg .transmitHead (UInt32.ofNat head) } }

/-- Put a frame into the receive ring.  The answer is whether there was a slot
for it. -/
def deliver (frame : Bytes) (endOfPacket : Bool) : Action (Rig ringSize) Bool := do
  let rig ← Action.get
  let file := rig.adapter.file
  if file.reg .receiveControl &&& Register.receiveEnable = 0 then do
    Action.emit .receiveDisabled
    return false
  else
    match rig.adapter.ringCount? .receiveBaseLow .receiveBaseHigh .receiveLength with
    | none => return false
    | some count =>
        let head := (file.reg .receiveHead).toNat % count
        let tail := (file.reg .receiveTail).toNat % count
        if head = tail then do
          Action.emit .receiveRingFull
          return false
        else if inside : head < ringSize then do
          let slot := (rig.rings.receive[head]).fill frame endOfPacket
          Action.modify fun rig =>
            { adapter :=
                { rig.adapter with
                  file := rig.adapter.file.setReg .receiveHead
                    (UInt32.ofNat ((head + 1) % count)) }
              rings := { rig.rings with receive := rig.rings.receive.set head slot } }
          Action.emit (.frameArrived slot.length head)
          return true
        else
          return false

/-- The oldest frame sent and not yet taken. -/
def takeSent : Action (Rig ringSize) (Option Bytes) := do
  let rig ← Action.get
  match rig.adapter.sent with
  | [] => return none
  | frame :: rest =>
      Action.modify fun rig => { rig with adapter := { rig.adapter with sent := rest } }
      return some frame

/-- Take all frames sent, oldest first. -/
def drainSent : Action (Rig ringSize) (List Bytes) := do
  let rig ← Action.get
  Action.modify fun rig => { rig with adapter := { rig.adapter with sent := [] } }
  return rig.adapter.sent

/-- Write the word at an offset.  A write outside the window is ignored; one to
exactly the transmit tail makes a running adapter send. -/
def writeAt (offset : Nat) (value : UInt32) : Action (Rig ringSize) Unit := do
  if SoftwareAdapter.covers offset then do
    Action.modify fun rig =>
      { rig with
        adapter := { rig.adapter with file := rig.adapter.file.set (offset / 4) value } }
    let rig ← Action.get
    if offset = Register.transmitTail.offset ∧ rig.adapter.automatic then
      completeTransmits
    else
      return ()
  else
    Action.emit (.writeIgnored offset)

end Rig

end NetStack
