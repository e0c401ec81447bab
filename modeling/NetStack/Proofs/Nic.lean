/-
Module: NetStack.Proofs.Nic
Purpose: The stack's side of a software adapter, told as operations on the
  frames that the adapter carries.
Main exports:
  Nic.Carries, Nic.Carries.transmit, Nic.Carries.receive_whole,
  Nic.Carries.inject, Nic.carries_attach, Nic.outbox, Nic.front?, Nic.Wired
-/
import NetStack.Nic
import NetStack.Proofs.Adapter.Traffic

namespace NetStack.Nic

/-- Behind the registers is a software adapter that carries this traffic. -/
structure Carries (nic : Nic) (traffic : Traffic) : Prop where
  rig : ∃ adapter, nic.adapter = .software adapter ∧ Rig.Carries ⟨adapter, nic.rings⟩ traffic
  prompt : traffic.Prompt

variable {nic : Nic} {traffic : Traffic}

theorem outcome_onSoftware {α : Type} (otherwise : α) (action : Action (Rig ringSize) α)
    {adapter : SoftwareAdapter} (software : nic.adapter = .software adapter) :
    (onSoftware otherwise action).outcome nic =
      let done := action.outcome ⟨adapter, nic.rings⟩
      (done.1, { nic with adapter := .software done.2.adapter, rings := done.2.rings }) := by
  simp only [Action.outcome, onSoftware, software]

/-- What an operation does to the rig, it does behind the registers. -/
theorem Carries.onSoftware {α : Type} {otherwise value : α} {action : Action (Rig ringSize) α}
    {later : Traffic} (carries : nic.Carries traffic) (prompt : later.Prompt)
    (does : ∀ rig : Rig ringSize, rig.Carries traffic →
      ∃ after, action.outcome rig = (.ok value, after) ∧ after.Carries later) :
    ∃ after, (onSoftware otherwise action).outcome nic = (.ok value, after) ∧
      after.Carries later := by
  obtain ⟨adapter, software, onRig⟩ := carries.rig
  obtain ⟨rig, done, onAfter⟩ := does _ onRig
  refine ⟨{ nic with adapter := .software rig.adapter, rings := rig.rings }, ?_, ?_⟩
  · rw [outcome_onSoftware otherwise action software, done]
  · exact ⟨⟨rig.adapter, rfl, onAfter⟩, prompt⟩

/-- The receive ring keeps one slot free, and may have no other. -/
theorem Carries.waiting_cases (carries : nic.Carries traffic) :
    traffic.waiting.length + 1 < ringSize ∨ traffic.waiting.length + 1 = ringSize := by
  obtain ⟨adapter, -, onRig⟩ := carries.rig
  have := onRig.room
  omega

/-- The transmit ring has room, or every slot of it is taken. -/
theorem Carries.pending_cases (carries : nic.Carries traffic) :
    traffic.pending.length < ringSize ∨ traffic.pending.length = ringSize := by
  obtain ⟨adapter, -, onRig⟩ := carries.rig
  have := onRig.transmitQueue.fits
  omega

/-! ## The link's side -/

theorem Carries.completeTransmits (carries : nic.Carries traffic) :
    ∃ after, Nic.completeTransmits.outcome nic = (.ok (), after) ∧ after.Carries traffic.flush :=
  carries.onSoftware (fun _ => rfl) fun _ onRig => onRig.completeTransmits

theorem Carries.flushed (carries : nic.Carries traffic) :
    (Nic.completeTransmits.outcome nic).2.Carries traffic.flush := by
  obtain ⟨after, done, onAfter⟩ := carries.completeTransmits
  rw [done]
  exact onAfter

theorem Carries.takeSent (carries : nic.Carries traffic) :
    ∃ after, Nic.takeSent.outcome nic = (.ok traffic.sent.head?, after) ∧
      after.Carries { traffic with sent := traffic.sent.tail } :=
  carries.onSoftware carries.prompt fun _ onRig => onRig.takeSent

theorem Carries.drainSent (carries : nic.Carries traffic) :
    ∃ after, Nic.drainSent.outcome nic = (.ok traffic.sent, after) ∧
      after.Carries { traffic with sent := [] } :=
  carries.onSoftware carries.prompt fun _ onRig => onRig.drainSent

/-- Up to 31 frames may wait. -/
theorem Carries.deliver (carries : nic.Carries traffic) (frame : Bytes) (whole : Bool)
    (room : traffic.waiting.length + 1 < ringSize) :
    ∃ after, (Nic.onSoftware false (Rig.deliver frame whole)).outcome nic = (.ok true, after) ∧
      after.Carries (traffic.arrive frame whole) :=
  carries.onSoftware carries.prompt fun _ onRig => onRig.deliver frame whole room

/-- The next one is dropped. -/
theorem Carries.deliver_full (carries : nic.Carries traffic) (frame : Bytes) (whole : Bool)
    (full : traffic.waiting.length + 1 = ringSize) :
    (Nic.onSoftware false (Rig.deliver frame whole)).outcome nic = (.ok false, nic) := by
  obtain ⟨adapter, software, onRig⟩ := carries.rig
  rw [outcome_onSoftware _ _ software, onRig.deliver_full frame whole full]
  simp only [← software]

theorem Carries.inject (carries : nic.Carries traffic) (frame : Bytes)
    (room : traffic.waiting.length + 1 < ringSize) :
    ∃ after, (Nic.inject frame).outcome nic = (.ok true, after) ∧
      after.Carries (traffic.arrive frame true) :=
  carries.deliver frame true room

/-! ## Sending -/

private theorem slotAt_transmit (nic : Nic) :
    nic.rings.transmit[(nic.reg .transmitTail).toNat % ringSize]? = some nic.transmitSlot :=
  Vector.getElem?_eq_getElem (Nat.mod_lt _ (by decide))

private theorem slotAt_receive (nic : Nic) :
    nic.rings.receive[((nic.reg .receiveTail).toNat + 1) % ringSize]? = some nic.receiveSlot :=
  Vector.getElem?_eq_getElem (Nat.mod_lt _ (by decide))

/-- The slot at the tail is free, or it holds the oldest frame of a full ring. -/
theorem Carries.transmitSlot (carries : nic.Carries traffic) :
    nic.transmitSlot.Holds
      (if traffic.pending.length < ringSize then none else traffic.pending.head?) := by
  obtain ⟨adapter, software, onRig⟩ := carries.rig
  have here := slotAt_transmit nic
  have tail := onRig.transmitTail
  simp only [reg, software] at here
  rw [tail] at here
  split
  · next room => exact onRig.transmitQueue.vacant_at_end room here
  · next full =>
    have length : traffic.pending.length = ringSize := by
      have := onRig.transmitQueue.fits
      omega
    rw [length, Nat.add_mod_right] at here
    exact onRig.transmitQueue.holds_head here

theorem Carries.transmitReady (carries : nic.Carries traffic) :
    nic.transmitReady = decide (traffic.pending.length < ringSize) := by
  rw [Nic.transmitReady, carries.transmitSlot.done_eq]
  by_cases room : traffic.pending.length < ringSize
  · simp [room]
  · cases pending : traffic.pending with
    | nil =>
        rw [pending] at room
        exact absurd (by decide) room
    | cons frame rest =>
        rw [pending] at room
        rw [if_neg room, decide_eq_false room]
        rfl

/-- A register write does behind the registers what it does to the rig. -/
theorem outcome_setReg_software (nic : Nic) (register : Register) (value : UInt32)
    {adapter : SoftwareAdapter} (software : nic.adapter = .software adapter) :
    (setReg register value).outcome nic =
      (onSoftware () (Rig.writeAt register.offset value)).outcome nic := by
  simp only [Action.outcome, setReg, software]

theorem outcome_setReg (nic : Nic) {register : Register} {value : UInt32}
    {adapter : SoftwareAdapter} {rig : Rig ringSize} (software : nic.adapter = .software adapter)
    (writes : (Rig.writeAt register.offset value).outcome ⟨adapter, nic.rings⟩ = (.ok (), rig)) :
    (setReg register value).outcome nic =
      (.ok (), { nic with adapter := .software rig.adapter, rings := rig.rings }) := by
  rw [outcome_setReg_software nic register value software, outcome_onSoftware _ _ software, writes]

/-- A write that sets nothing off reaches its register, and that is all. -/
theorem outcome_setReg_still (nic : Nic) {register : Register} {value : UInt32}
    {adapter : SoftwareAdapter} (software : nic.adapter = .software adapter)
    (still : ¬(register = .transmitTail ∧ adapter.automatic = true)) :
    (setReg register value).outcome nic =
      (.ok (),
        { nic with
          adapter := .software
            { adapter with file := adapter.file.setReg register value } }) := by
  have written : (Rig.writeAt register.offset value).outcome ⟨adapter, nic.rings⟩ =
      (.ok (), ⟨{ adapter with file := adapter.file.setReg register value }, nic.rings⟩) := by
    rw [Rig.outcome_writeAt]
    exact if_neg still
  exact outcome_setReg nic software written

/-- A frame is put into the transmit slot at the tail. -/
def loaded (nic : Nic) (frame : Bytes) : Nic :=
  ((setTransmitSlot nic.transmitIndex (nic.transmitSlot.load frame)).outcome nic).2

/-- To queue a frame is to put it into the slot at the tail, and to move the tail
on. -/
theorem outcome_transmit (ready : nic.transmitReady = true)
    (sized : nic.transmitSlot.buffer.length = packetSize) (frame : Bytes) :
    (Nic.transmit frame).outcome nic =
      (setReg .transmitTail (UInt32.ofNat ((nic.transmitIndex.val + 1) % ringSize))).outcome
        (nic.loaded frame) := by
  have fits : 0 + (frame.take packetSize).length ≤ nic.transmitSlot.buffer.length := by
    rw [sized, List.length_take]
    omega
  unfold Nic.transmit
  simp only [Action.outcome_get_bind, ready, if_true]
  rw [Bytes.splice_eq_ok fits, Action.check_ok, pure_bind, List.take_zero, List.nil_append,
    Nat.zero_add]
  rfl

/-- A frame is queued, and sent at once on a running adapter. -/
theorem Carries.transmit (carries : nic.Carries traffic) (frame : Bytes)
    (room : traffic.pending.length < ringSize) :
    ∃ after, (Nic.transmit frame).outcome nic = (.ok (), after) ∧
      after.Carries (traffic.enqueue (frame.take packetSize)) := by
  have ready : nic.transmitReady = true := by simpa [carries.transmitReady] using room
  have sized := carries.transmitSlot.size
  obtain ⟨adapter, software, onRig⟩ := carries.rig
  have place : nic.transmitIndex.val = (adapter.file.reg .transmitTail).toNat % ringSize := by
    simp only [transmitIndex, reg, software]
  obtain ⟨rig, moved, onAfter⟩ :=
    onRig.moveTail room nic.transmitIndex.isLt place (TransmitSlot.holds_load sized frame)
  refine ⟨{ nic with adapter := .software rig.adapter, rings := rig.rings }, ?_, ?_⟩
  · rw [outcome_transmit ready sized]
    exact outcome_setReg _ software moved
  · refine ⟨⟨rig.adapter, rfl, onAfter⟩, ?_⟩
    intro automatic
    rw [Traffic.automatic_enqueue] at automatic
    simp [Traffic.enqueue, Traffic.flush, automatic]

/-- While the slot at the tail is taken, no frame is queued. -/
theorem outcome_transmit_busy {frame : Bytes} (busy : nic.transmitReady = false) :
    (Nic.transmit frame).outcome nic = (.error (.refused .queueFull), nic) := by
  unfold Nic.transmit
  simp only [Action.outcome_get_bind, busy, Bool.false_eq_true, if_false,
    Action.outcome_emit_bind, Action.outcome_refuse]

/-- A full ring takes no frame. -/
theorem Carries.transmit_full (carries : nic.Carries traffic) (frame : Bytes)
    (full : traffic.pending.length = ringSize) :
    (Nic.transmit frame).outcome nic = (.error (.refused .queueFull), nic) := by
  apply outcome_transmit_busy
  simp [carries.transmitReady, full]

/-! ## Receiving -/

/-- The next receive slot holds the oldest waiting frame, if one waits. -/
theorem Carries.receiveSlot (carries : nic.Carries traffic) :
    nic.receiveSlot.Holds traffic.waiting.head? := by
  obtain ⟨adapter, software, onRig⟩ := carries.rig
  have here := slotAt_receive nic
  simp only [reg, software] at here
  exact onRig.receiveQueue.holds_head here

theorem Carries.receiveReady (carries : nic.Carries traffic) :
    nic.receiveReady = !traffic.waiting.isEmpty := by
  rw [Nic.receiveReady, carries.receiveSlot.done_eq]
  cases traffic.waiting <;> rfl

/-- Nothing is received while nothing waits. -/
theorem Carries.receive_none (carries : nic.Carries traffic) (buffer : Bytes)
    (idle : traffic.waiting = []) :
    (Nic.receive buffer).outcome nic = (.ok { length := 0, buffer }, nic) := by
  have unready : nic.receiveReady = false := by simp [carries.receiveReady, idle]
  unfold Nic.receive
  simp only [Action.outcome_get_bind, unready, Bool.not_false, if_true, Action.outcome_emit_bind,
    Action.outcome_pure]

/-- A frame that does not end in its slot keeps the slot. -/
theorem Carries.receive_fragment (carries : nic.Carries traffic) (buffer : Bytes)
    {oldest : Arrival} {rest : List Arrival} (waiting : traffic.waiting = oldest :: rest)
    (unfinished : oldest.whole = false) :
    (Nic.receive buffer).outcome nic = (.ok { length := 0, buffer }, nic) := by
  have ready : nic.receiveReady = true := by simp [carries.receiveReady, waiting]
  have held := carries.receiveSlot
  rw [waiting] at held
  have goesOn : nic.receiveSlot.endOfPacket = false := held.2.2.1.trans unfinished
  unfold Nic.receive
  simp only [Action.outcome_get_bind, ready, goesOn, Bool.not_true, Bool.false_eq_true,
    if_false, Bool.not_false, if_true, Action.outcome_emit_bind, Action.outcome_pure]

/-- A frame that ends in its slot is copied as far as there is room, and its slot
goes back to the adapter. -/
theorem outcome_receive {adapter : SoftwareAdapter} (software : nic.adapter = .software adapter)
    (ready : nic.receiveReady = true) (ended : nic.receiveSlot.endOfPacket = true)
    (sized : nic.receiveSlot.buffer.length = packetSize) (buffer : Bytes) :
    let slot := nic.receiveSlot
    let length := min slot.length (min buffer.length packetSize)
    (Nic.receive buffer).outcome nic =
      (.ok { length, buffer := slot.buffer.take length ++ buffer.drop length },
        { nic with
          adapter := .software
            { adapter with
              file := adapter.file.setReg .receiveTail (UInt32.ofNat nic.receiveIndex.val) }
          rings := {
            nic.rings with
            receive :=
              nic.rings.receive.set nic.receiveIndex slot.release nic.receiveIndex.isLt } }) := by
  intro slot length
  let released : Nic := {
    nic with
    rings := {
      nic.rings with
      receive := nic.rings.receive.set nic.receiveIndex slot.release nic.receiveIndex.isLt } }
  have onReleased : released.adapter = .software adapter := software
  have written : (setReg .receiveTail (UInt32.ofNat nic.receiveIndex.val)).outcome released = _ :=
    outcome_setReg_still released onReleased (by simp)
  have inside : length ≤ slot.buffer.length := by
    show min slot.length (min buffer.length packetSize) ≤ slot.buffer.length
    rw [show slot.buffer.length = packetSize from sized]
    omega
  have fits : 0 + (slot.buffer.take length).length ≤ buffer.length := by
    rw [List.length_take]
    omega
  have taken : (slot.buffer.take length).length = length := by
    rw [List.length_take, Nat.min_eq_left inside]
  unfold Nic.receive
  simp only [Action.outcome_get_bind, ready, ended, Bool.not_true, Bool.false_eq_true, if_false]
  rw [Bytes.slice_eq_ok (Nat.zero_le _) inside, Action.check_ok, pure_bind, List.drop_zero,
    Bytes.splice_eq_ok fits, Action.check_ok, pure_bind]
  simp only [setReceiveSlot, Action.outcome_modify_bind]
  refine (Action.outcome_bind_of_ok written).trans ?_
  rw [Action.outcome_pure, taken, List.take_zero, List.nil_append, Nat.zero_add]

/-- The oldest waiting frame is copied as far as there is room, and is gone. -/
theorem Carries.receive_whole (carries : nic.Carries traffic) (buffer : Bytes)
    {oldest : Arrival} {rest : List Arrival} (waiting : traffic.waiting = oldest :: rest)
    (whole : oldest.whole = true) :
    ∃ after,
      (Nic.receive buffer).outcome nic =
        (.ok {
          length := min oldest.frame.length buffer.length
          buffer := oldest.frame.take buffer.length ++
            buffer.drop (min oldest.frame.length buffer.length) }, after) ∧
      after.Carries { traffic with waiting := rest } := by
  have ready : nic.receiveReady = true := by simp [carries.receiveReady, waiting]
  have held := carries.receiveSlot
  rw [waiting] at held
  obtain ⟨sized, -, ended, length, short, content⟩ := held
  obtain ⟨adapter, software, onRig⟩ := carries.rig
  have place : nic.receiveIndex.val = ((adapter.file.reg .receiveTail).toNat + 1) % ringSize := by
    simp only [receiveIndex, reg, software]
  have released : nic.receiveSlot.release.Holds none := ⟨sized, rfl⟩
  obtain ⟨rig, moved, onAfter⟩ :=
    onRig.handBack waiting nic.receiveIndex.isLt place released
  rw [Rig.outcome_writeAt] at moved
  cases moved
  have count : min nic.receiveSlot.length (min buffer.length packetSize) =
      min oldest.frame.length buffer.length := by
    rw [length]
    omega
  have copied : nic.receiveSlot.buffer.take (min oldest.frame.length buffer.length) =
      oldest.frame.take buffer.length := by
    conv_rhs => rw [← content]
    rw [List.take_take, length, Nat.min_comm]
  have received := outcome_receive software ready (ended.trans whole) sized buffer
  dsimp only at received
  rw [count, copied] at received
  exact ⟨_, received, ⟨_, rfl, onAfter⟩, carries.prompt⟩

/-- Where no frame can be taken, the stack is told that none is waiting. -/
theorem Carries.receive_idle (carries : nic.Carries traffic) (idle : traffic.next? = none) :
    ((Nic.receive (.zeros packetSize)).outcome nic).1 =
      .ok { length := 0, buffer := .zeros packetSize } := by
  cases waiting : traffic.waiting with
  | nil => rw [carries.receive_none _ waiting]
  | cons oldest rest =>
      cases whole : oldest.whole with
      | false => rw [carries.receive_fragment _ waiting whole]
      | true =>
          have empty : oldest.frame = [] := by
            by_contra nonempty
            simp [Traffic.next?, waiting, whole, nonempty] at idle
          obtain ⟨after, received, -⟩ := carries.receive_whole (.zeros packetSize) waiting whole
          rw [received]
          simp [empty]

/-- The frame that comes next is copied whole, and is gone. -/
theorem Carries.receive_next (carries : nic.Carries traffic) {frame : Bytes}
    (next : traffic.next? = some frame) :
    frame ≠ [] ∧
      ∃ buffer, Bytes.slice buffer 0 frame.length = .ok frame ∧
        ∃ after,
          (Nic.receive (.zeros packetSize)).outcome nic =
            (.ok { length := frame.length, buffer }, after) ∧
          after.Carries traffic.advance := by
  unfold Traffic.next? at next
  cases waiting : traffic.waiting with
  | nil =>
      rw [waiting] at next
      cases next
  | cons oldest rest =>
      rw [waiting] at next
      dsimp only at next
      split at next
      · next taken =>
        cases next
        have short : oldest.frame.length ≤ packetSize := by
          have held := carries.receiveSlot
          rw [waiting] at held
          exact held.2.2.2.2.1
        obtain ⟨after, received, onAfter⟩ :=
          carries.receive_whole (.zeros packetSize) waiting taken.1
        refine ⟨taken.2, oldest.frame ++ (Bytes.zeros packetSize).drop oldest.frame.length, ?_,
          after, ?_, ?_⟩
        · rw [Bytes.slice_eq_ok (Nat.zero_le _) (by simp)]
          simp
        · rw [received]
          simp only [Bytes.length_zeros, Nat.min_eq_left short, List.take_of_length_le short]
        · rw [Traffic.advance, waiting]
          exact onAfter
      · cases next

/-! ## Attaching -/

private theorem reg_zeroed (register : Register) : RegisterFile.zeroed.reg register = 0 := rfl

/-- While sending is not enabled, a register write does nothing but write. -/
theorem outcome_setReg_bind {β : Type} (register : Register) (value : UInt32)
    (next : Unit → Action Nic β) (adapter : SoftwareAdapter) (rings : Rings ringSize)
    (clock : StepClock)
    (quiet : register = .transmitTail →
      adapter.file.reg .transmitControl &&& Register.transmitEnable = 0) :
    (setReg register value >>= next).outcome ⟨.software adapter, rings, clock⟩ =
      (next ()).outcome
        ⟨.software { adapter with file := adapter.file.setReg register value }, rings, clock⟩ := by
  have written : (Rig.writeAt register.offset value).outcome ⟨adapter, rings⟩ =
      (.ok (), ⟨{ adapter with file := adapter.file.setReg register value }, rings⟩) := by
    rw [Rig.outcome_writeAt]
    dsimp only
    split
    · next tail =>
      obtain ⟨rfl, -⟩ := tail
      unfold Rig.completeTransmits
      simp [Action.outcome_get_bind, RegisterFile.reg_setReg, quiet rfl]
    · rfl
  have done := outcome_setReg ⟨.software adapter, rings, clock⟩ rfl written
  exact Action.outcome_bind_of_ok done

/-- A 64-bit base is split over two registers, and a base other than zero shows
in one of them. -/
private theorem halves_ne_zero {base : UInt64} (mapped : base ≠ 0) :
    ¬(UInt32.ofNat base.toNat = 0 ∧ UInt32.ofNat (base.toNat / UInt32.size) = 0) := by
  rintro ⟨low, high⟩
  apply mapped
  have lowZero := congrArg UInt32.toNat low
  have highZero := congrArg UInt32.toNat high
  have bound := base.toNat_lt
  rw [UInt32.toNat_ofNat', UInt32.toNat_zero] at lowZero highZero
  rw [UInt32.size] at highZero
  apply UInt64.toNat_inj.mp
  rw [UInt64.toNat_zero]
  omega

/-- A software adapter is attached with nothing waiting, pending or sent. -/
theorem carries_attach (mac : MacAddress) (automatic : Bool) (clock : StepClock)
    {addresses : BusAddresses} (transmitMapped : addresses.transmit ≠ 0)
    (receiveMapped : addresses.receive ≠ 0) :
    (attach (.software { SoftwareAdapter.running mac with automatic }) clock addresses).state.Carries
      (.none automatic) := by
  have transmitBase := halves_ne_zero transmitMapped
  have receiveBase := halves_ne_zero receiveMapped
  unfold attach
  rw [Action.state_eq]
  unfold start
  simp only [Action.outcome_get_bind, Action.outcome_emit_bind, startTransmit, startReceive,
    bind_assoc]
  simp (disch := simp [RegisterFile.reg_setReg, SoftwareAdapter.running, reg_zeroed]) only
    [outcome_setReg_bind, Action.outcome_get_bind, Action.outcome_emit]
  refine ⟨⟨_, rfl, ?_⟩, fun _ => rfl⟩
  exact {
    automatic := rfl
    sent := rfl
    programmed := {
      transmitting := by
        simp only [RegisterFile.reg_setReg, reduceCtorEq, if_false, if_true]
        decide
      receiving := by
        simp only [RegisterFile.reg_setReg, reduceCtorEq, if_false, if_true]
        decide
      transmitRing := by
        simp only [SoftwareAdapter.ringCount?, RegisterFile.reg_setReg, reduceCtorEq, if_false,
          if_true, transmitBase]
        rfl
      receiveRing := by
        simp only [SoftwareAdapter.ringCount?, RegisterFile.reg_setReg, reduceCtorEq, if_false,
          if_true, receiveBase]
        rfl
      small := by decide }
    transmitQueue := .replicate ⟨Bytes.length_zeros _, rfl⟩ _
    transmitTail := by
      simp only [RegisterFile.reg_setReg, reduceCtorEq, if_false, if_true]
      rfl
    receiveQueue := .replicate ⟨Bytes.length_zeros _, rfl⟩ _
    receiveHead := by
      simp [RegisterFile.reg_setReg, Traffic.none, ringSize]
    room := Nat.zero_lt_succ _ }

/-! ## What an onlooker sees -/

/-- The frames sent and not yet taken off the link, oldest first. -/
def sent (nic : Nic) : List Bytes :=
  match (Nic.drainSent.outcome nic).1 with
  | .ok frames => frames
  | .error _ => []

/-- The frames that have left the stack and are not yet taken off the link: those
sent, and behind them those that the adapter still has to send. -/
def outbox (nic : Nic) : List Bytes :=
  (Nic.completeTransmits.outcome nic).2.sent

/-- The frame that the stack would receive next, as far as it fits into a packet
buffer. -/
def front? (nic : Nic) : Option Bytes :=
  match ((Nic.receive (.zeros packetSize)).outcome nic).1 with
  | .ok received =>
      if received.length = 0 then none else some (received.buffer.take received.length)
  | .error _ => none

theorem Carries.sent (carries : nic.Carries traffic) : nic.sent = traffic.sent := by
  obtain ⟨after, drained, -⟩ := carries.drainSent
  rw [Nic.sent, drained]

theorem Carries.outbox (carries : nic.Carries traffic) : nic.outbox = traffic.outbound := by
  obtain ⟨after, completed, onAfter⟩ := carries.completeTransmits
  rw [Nic.outbox, completed, onAfter.sent]
  rfl

theorem Carries.front? (carries : nic.Carries traffic) : nic.front? = traffic.next? := by
  cases next : traffic.next? with
  | none =>
      rw [Nic.front?, carries.receive_idle next]
      rfl
  | some frame =>
      obtain ⟨nonempty, buffer, front, after, received, -⟩ := carries.receive_next next
      have long : frame.length ≠ 0 := List.length_eq_zero_iff.not.mpr nonempty
      rw [Nic.front?, received]
      simp only [long, if_false]
      unfold Bytes.slice at front
      split at front
      · have shown := Except.ok.inj front
        rw [List.drop_zero] at shown
        rw [shown]
      · cases front

/-! ## Working order -/

/-- Behind the registers is a software adapter that carries some traffic. -/
def Wired (nic : Nic) (automatic : Bool) : Prop :=
  ∃ traffic, nic.Carries traffic ∧ traffic.automatic = automatic

/-- What a software adapter carries says whether it is stalled. -/
theorem Carries.automatic_eq {other : Traffic} (carries : nic.Carries traffic)
    (alsoCarries : nic.Carries other) : traffic.automatic = other.automatic := by
  obtain ⟨adapter, software, onRig⟩ := carries.rig
  obtain ⟨sameAdapter, sameSoftware, onSameRig⟩ := alsoCarries.rig
  rw [software] at sameSoftware
  cases sameSoftware
  exact onRig.automatic.symm.trans onSameRig.automatic

/-- An adapter stays in working order when the traffic changes, as long as it
stays a running or a stalled one. -/
theorem Carries.keeps_wired {later : Traffic} {after : Nic} (carries : nic.Carries traffic)
    (onAfter : after.Carries later) (same : later.automatic = traffic.automatic)
    (automatic : Bool) (wired : nic.Wired automatic) : after.Wired automatic := by
  obtain ⟨known, alsoCarries, rfl⟩ := wired
  exact ⟨later, onAfter, same.trans (carries.automatic_eq alsoCarries)⟩

namespace Wired

variable {automatic : Bool}

theorem completeTransmits (wired : nic.Wired automatic) :
    (Nic.completeTransmits.outcome nic).2.Wired automatic := by
  obtain ⟨traffic, carries, rfl⟩ := wired
  obtain ⟨after, done, onAfter⟩ := carries.completeTransmits
  rw [done]
  exact ⟨_, onAfter, rfl⟩

theorem takeSent (wired : nic.Wired automatic) :
    (Nic.takeSent.outcome nic).2.Wired automatic := by
  obtain ⟨traffic, carries, rfl⟩ := wired
  obtain ⟨after, done, onAfter⟩ := carries.takeSent
  rw [done]
  exact ⟨_, onAfter, rfl⟩

theorem drainSent (wired : nic.Wired automatic) :
    (Nic.drainSent.outcome nic).2.Wired automatic := by
  obtain ⟨traffic, carries, rfl⟩ := wired
  obtain ⟨after, done, onAfter⟩ := carries.drainSent
  rw [done]
  exact ⟨_, onAfter, rfl⟩

/-- Whether there is room for what arrives or not, and whether it ends or not. -/
theorem deliver (wired : nic.Wired automatic) (frame : Bytes) (whole : Bool) :
    ((Nic.onSoftware false (Rig.deliver frame whole)).outcome nic).2.Wired automatic := by
  obtain ⟨traffic, carries, rfl⟩ := wired
  rcases carries.waiting_cases with room | full
  · obtain ⟨after, done, onAfter⟩ := carries.deliver frame whole room
    rw [done]
    exact ⟨_, onAfter, rfl⟩
  · rw [carries.deliver_full frame whole full]
    exact ⟨traffic, carries, rfl⟩

theorem inject (wired : nic.Wired automatic) (frame : Bytes) :
    ((Nic.inject frame).outcome nic).2.Wired automatic :=
  wired.deliver frame true

theorem injectFragment (wired : nic.Wired automatic) (frame : Bytes) :
    ((Nic.injectFragment frame).outcome nic).2.Wired automatic :=
  wired.deliver frame false

theorem transmit (wired : nic.Wired automatic) (frame : Bytes) :
    ((Nic.transmit frame).outcome nic).2.Wired automatic := by
  obtain ⟨traffic, carries, rfl⟩ := wired
  rcases carries.pending_cases with room | full
  · obtain ⟨after, done, onAfter⟩ := carries.transmit frame room
    rw [done]
    exact ⟨_, onAfter, Traffic.automatic_enqueue _ _⟩
  · rw [carries.transmit_full frame full]
    exact ⟨traffic, carries, rfl⟩

theorem receive (wired : nic.Wired automatic) (buffer : Bytes) :
    ((Nic.receive buffer).outcome nic).2.Wired automatic := by
  obtain ⟨traffic, carries, rfl⟩ := wired
  cases waiting : traffic.waiting with
  | nil =>
      rw [carries.receive_none buffer waiting]
      exact ⟨traffic, carries, rfl⟩
  | cons oldest rest =>
      cases whole : oldest.whole with
      | false =>
          rw [carries.receive_fragment buffer waiting whole]
          exact ⟨traffic, carries, rfl⟩
      | true =>
          obtain ⟨after, done, onAfter⟩ := carries.receive_whole buffer waiting whole
          rw [done]
          exact ⟨_, onAfter, rfl⟩

end Wired

end NetStack.Nic
