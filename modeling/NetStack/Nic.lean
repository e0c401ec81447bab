/-
Module: NetStack.Nic
Purpose: The stack's side of the adapter: attaching the rings, sending and
  taking frames, and waiting for either.
Main exports:
  Adapter, BusAddresses, Nic, Nic.attach, Nic.transmit, Nic.receive,
  Nic.receiveReady, Nic.transmitReady, Nic.awaitReceive, Nic.awaitTransmit
-/
import NetStack.Adapter.Software
import NetStack.Clock

namespace NetStack

/-- The number of descriptors in each ring. -/
def ringSize : Nat := 32

/-- What lies behind the registers. -/
inductive Adapter where
  | software (adapter : SoftwareAdapter)
  | mapped (window : MappedWindow Register.windowSize)
deriving Repr

/-- Where the adapter finds the rings. -/
structure BusAddresses where
  transmit : UInt64
  receive : UInt64
deriving Repr, Inhabited, DecidableEq

/-- An adapter with its rings, and the clock that bounds waits for it. -/
structure Nic where
  adapter : Adapter
  rings : Rings ringSize
  clock : StepClock
deriving Repr

/-- A frame copied out of the receive ring: how many bytes, and the caller's
whole buffer afterwards. -/
structure Received where
  length : Nat
  buffer : Bytes
deriving Repr, Inhabited, DecidableEq

namespace Nic

/-! ## Registers -/

/-- The value of a register. -/
def reg (nic : Nic) (register : Register) : UInt32 :=
  match nic.adapter with
  | .software adapter => adapter.file.reg register
  | .mapped window => window.file.reg register

/-- Let a software adapter do something; a mapped one has nobody to do it. -/
def onSoftware {α : Type} (otherwise : α) (action : Action (Rig ringSize) α) : Action Nic α :=
  fun nic =>
    match nic.adapter with
    | .software adapter =>
        let done := action ⟨adapter, nic.rings⟩
        { done with
          state :=
            { nic with adapter := .software done.state.adapter, rings := done.state.rings } }
    | .mapped _ => { result := .ok otherwise, state := nic, events := [] }

/-- Write a register. -/
def setReg (register : Register) (value : UInt32) : Action Nic Unit := fun nic =>
  match nic.adapter with
  | .software _ => onSoftware () (Rig.writeAt register.offset value) nic
  | .mapped window =>
      { result := .ok ()
        state := { nic with adapter := .mapped ⟨window.file.setReg register value⟩ }
        events := [] }

/-- The word at any offset of the register window. -/
def readAt (nic : Nic) (offset : Nat) : Except Fault UInt32 :=
  match nic.adapter with
  | .software adapter => .ok (adapter.readAt offset)
  | .mapped window => window.readAt offset

/-- Write the word at any offset of the register window. -/
def writeAt (offset : Nat) (value : UInt32) : Action Nic Unit := fun nic =>
  match nic.adapter with
  | .software _ => onSoftware () (Rig.writeAt offset value) nic
  | .mapped window =>
      match window.writeAt offset value with
      | .ok window =>
          { result := .ok (), state := { nic with adapter := .mapped window }, events := [] }
      | .error cause => { result := .error (.fault cause), state := nic, events := [] }

/-- The hardware address in the receive address registers. -/
def macAddress (nic : Nic) : MacAddress :=
  .ofReceiveAddress (nic.reg .receiveAddressLow) (nic.reg .receiveAddressHigh)

/-! ## Attaching -/

/-- Tell the adapter where the transmit ring is, and let it send. -/
def startTransmit (base : UInt64) : Action Nic Unit := do
  setReg .transmitBaseLow (UInt32.ofNat base.toNat)
  setReg .transmitBaseHigh (UInt32.ofNat (base.toNat / UInt32.size))
  setReg .transmitLength (UInt32.ofNat (ringSize * 16))
  setReg .transmitHead 0
  setReg .transmitTail 0
  setReg .transmitControl
    (Register.transmitEnable ||| Register.padShortPackets ||| Register.collisionThreshold |||
      Register.collisionDistance)
  setReg .interPacketGap Register.recommendedGap

/-- Tell the adapter where the receive ring is, and let it receive.  The tail
starts one slot behind the head: that slot never holds a frame. -/
def startReceive (base : UInt64) : Action Nic Unit := do
  setReg .receiveBaseLow (UInt32.ofNat base.toNat)
  setReg .receiveBaseHigh (UInt32.ofNat (base.toNat / UInt32.size))
  setReg .receiveLength (UInt32.ofNat (ringSize * 16))
  setReg .receiveHead 0
  setReg .receiveTail (UInt32.ofNat (ringSize - 1))
  setReg .receiveControl
    (Register.receiveEnable ||| Register.acceptBroadcast ||| Register.stripChecksum)

/-- Bring the adapter up. -/
def start (addresses : BusAddresses) : Action Nic Unit := do
  let nic ← Action.get
  Action.emit (.adapterFound nic.macAddress)
  setReg .multicastTable 0
  startTransmit addresses.transmit
  startReceive addresses.receive
  let nic ← Action.get
  Action.emit (.adapterStatus (nic.reg .status))

/-- An adapter with fresh rings programmed into it. -/
def attach (adapter : Adapter) (clock : StepClock) (addresses : BusAddresses) : Step Nic Unit :=
  start addresses { adapter, rings := .unused, clock }

/-! ## Frames -/

/-- Which transmit slot is at the tail. -/
def transmitIndex (nic : Nic) : Fin ringSize :=
  ⟨(nic.reg .transmitTail).toNat % ringSize, Nat.mod_lt _ (by decide)⟩

/-- Which receive slot holds the next frame to take. -/
def receiveIndex (nic : Nic) : Fin ringSize :=
  ⟨((nic.reg .receiveTail).toNat + 1) % ringSize, Nat.mod_lt _ (by decide)⟩

/-- The transmit slot at the tail. -/
def transmitSlot (nic : Nic) : TransmitSlot :=
  nic.rings.transmit[nic.transmitIndex]

/-- The receive slot of the next frame to take. -/
def receiveSlot (nic : Nic) : ReceiveSlot :=
  nic.rings.receive[nic.receiveIndex]

/-- Whether the transmit slot at the tail is free. -/
def transmitReady (nic : Nic) : Bool :=
  nic.transmitSlot.done

/-- Whether a frame is waiting. -/
def receiveReady (nic : Nic) : Bool :=
  nic.receiveSlot.done

/-- Replace one transmit slot. -/
def setTransmitSlot (index : Fin ringSize) (slot : TransmitSlot) : Action Nic Unit :=
  Action.modify fun nic =>
    { nic with rings := { nic.rings with transmit := nic.rings.transmit.set index slot } }

/-- Replace one receive slot. -/
def setReceiveSlot (index : Fin ringSize) (slot : ReceiveSlot) : Action Nic Unit :=
  Action.modify fun nic =>
    { nic with rings := { nic.rings with receive := nic.rings.receive.set index slot } }

/-- Queue a frame, cut to the packet buffer, unless the slot at the tail is
still taken. -/
def transmit (frame : Bytes) : Action Nic Unit := do
  let nic ← Action.get
  if nic.transmitReady then do
    let carried := frame.take packetSize
    let buffer ← Action.check (Bytes.splice nic.transmitSlot.buffer 0 carried)
    setTransmitSlot nic.transmitIndex { buffer, length := carried.length, done := false }
    setReg .transmitTail (UInt32.ofNat ((nic.transmitIndex.val + 1) % ringSize))
  else do
    Action.emit .transmitQueueFull
    Action.refuse .queueFull

/-- Copy the next frame into `buffer`, as far as there is room, and hand its slot
back.  No bytes are copied while no whole frame is waiting. -/
def receive (buffer : Bytes) : Action Nic Received := do
  let nic ← Action.get
  let slot := nic.receiveSlot
  if !nic.receiveReady then do
    Action.emit .receiveQueueEmpty
    return { length := 0, buffer }
  else if !slot.endOfPacket then do
    Action.emit .frameIncomplete
    return { length := 0, buffer }
  else do
    let length := min slot.length (min buffer.length packetSize)
    let frame ← Action.check (Bytes.slice slot.buffer 0 length)
    let buffer ← Action.check (Bytes.splice buffer 0 frame)
    setReceiveSlot nic.receiveIndex slot.release
    setReg .receiveTail (UInt32.ofNat nic.receiveIndex.val)
    return { length, buffer }

/-! ## Waiting -/

/-- Wait for a condition that only traffic could change, on the adapter's
clock. -/
def await (timeout : Duration) (ready : Nic → Bool) (late : Event) : Action Nic Unit := fun nic =>
  match nic.clock.wait timeout fun _ => ready nic with
  | none => { result := .error (.fault .endlessWait), state := nic, events := [] }
  | some wait =>
      let nic := { nic with clock := wait.clock }
      if wait.ready then
        { result := .ok (), state := nic, events := [] }
      else
        { result := .error (.refused .timeout), state := nic, events := [late] }

/-- Wait up to `timeout` for a frame to arrive. -/
def awaitReceive (timeout : Duration) : Action Nic Unit :=
  await timeout receiveReady (.receiveTimeout timeout.toMillis)

/-- Wait up to `timeout` for the transmit slot at the tail to come free. -/
def awaitTransmit (timeout : Duration) : Action Nic Unit :=
  await timeout transmitReady (.transmitTimeout timeout.toMillis)

/-- Wait for a frame without any limit.  Where no frame is waiting, none comes
while the stack does nothing else. -/
def listen : Action Nic Unit := do
  let nic ← Action.get
  if nic.receiveReady then
    return ()
  else
    Action.fail (.fault .endlessWait)

/-! ## The software adapter's side -/

/-- Let a frame arrive.  The answer is whether there was a slot for it. -/
def inject (frame : Bytes) : Action Nic Bool :=
  onSoftware false (Rig.deliver frame true)

/-- Let a frame arrive that its slot does not end. -/
def injectFragment (frame : Bytes) : Action Nic Bool :=
  onSoftware false (Rig.deliver frame false)

def completeTransmits : Action Nic Unit :=
  onSoftware () Rig.completeTransmits

def takeSent : Action Nic (Option Bytes) :=
  onSoftware none Rig.takeSent

def drainSent : Action Nic (List Bytes) :=
  onSoftware [] Rig.drainSent

end Nic

end NetStack
