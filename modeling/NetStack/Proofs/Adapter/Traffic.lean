/-
Module: NetStack.Proofs.Adapter.Traffic
Purpose: What a software adapter carries, as three queues of frames, and what
  each of the adapter's own operations does to them.
Main exports:
  Traffic, Rig.Carries, Rig.Carries.completeTransmits, Rig.Carries.deliver,
  Rig.Carries.takeSent, Rig.Carries.moveTail,
  Rig.Carries.handBack
-/
import NetStack.Adapter.Software
import NetStack.Proofs.Adapter.Queue
import NetStack.Proofs.Outcome

namespace NetStack

/-!
The stack and the adapter meet in registers, done marks and buffers.  None of
these matters to anybody else: what matters is which frames wait to be received,
which wait to be sent, and which were sent and not yet taken.  `Rig.Carries`
ties a rig to these three queues, and every operation on a rig is an operation
on the queues.
-/

/-- A frame in the receive ring. -/
structure Arrival where
  /-- Its bytes, as far as they fit into a packet buffer. -/
  frame : Bytes
  /-- Whether the frame ends in its slot. -/
  whole : Bool

/-- The frames an adapter carries, each queue with its oldest frame first. -/
structure Traffic where
  /-- Whether frames are sent as soon as they are queued. -/
  automatic : Bool
  /-- Arrived and not yet received by the stack. -/
  waiting : List Arrival
  /-- Queued by the stack and not yet sent. -/
  pending : List Bytes
  /-- Sent and not yet taken off the link. -/
  sent : List Bytes

namespace Traffic

/-- Nothing has happened yet. -/
def none (automatic : Bool) : Traffic :=
  { automatic, waiting := [], pending := [], sent := [] }

/-- A running adapter never leaves a frame unsent. -/
def Prompt (traffic : Traffic) : Prop :=
  traffic.automatic = true → traffic.pending = []

/-- Everything pending is sent. -/
def flush (traffic : Traffic) : Traffic :=
  { traffic with pending := [], sent := traffic.sent ++ traffic.pending }

/-- One more frame is queued. -/
def enqueue (traffic : Traffic) (frame : Bytes) : Traffic :=
  let queued := { traffic with pending := traffic.pending ++ [frame] }
  if traffic.automatic then queued.flush else queued

/-- One more frame arrives. -/
def arrive (traffic : Traffic) (frame : Bytes) (whole : Bool) : Traffic :=
  { traffic with waiting := traffic.waiting ++ [⟨frame.take packetSize, whole⟩] }

/-- The frame that the stack takes next: the oldest one, if it is whole and not
empty. -/
def next? (traffic : Traffic) : Option Bytes :=
  match traffic.waiting with
  | [] => Option.none
  | oldest :: _ =>
      if oldest.whole = true ∧ oldest.frame ≠ [] then some oldest.frame else Option.none

/-- The oldest frame is taken. -/
def advance (traffic : Traffic) : Traffic :=
  { traffic with waiting := traffic.waiting.tail }

/-- The frames that have left the stack, sent or not, and are not yet taken. -/
def outbound (traffic : Traffic) : List Bytes :=
  traffic.sent ++ traffic.pending

@[simp] theorem outbound_flush (traffic : Traffic) : traffic.flush.outbound = traffic.outbound := by
  simp [outbound, flush]

@[simp] theorem outbound_enqueue (traffic : Traffic) (frame : Bytes) :
    (traffic.enqueue frame).outbound = traffic.outbound ++ [frame] := by
  unfold enqueue
  split <;> simp [outbound, flush]

@[simp] theorem automatic_enqueue (traffic : Traffic) (frame : Bytes) :
    (traffic.enqueue frame).automatic = traffic.automatic := by
  unfold enqueue
  split <;> rfl

@[simp] theorem waiting_enqueue (traffic : Traffic) (frame : Bytes) :
    (traffic.enqueue frame).waiting = traffic.waiting := by
  unfold enqueue
  split <;> rfl

/-- A frame that arrives while no other waits is the only one. -/
theorem waiting_arrive {traffic : Traffic} (idle : traffic.waiting = []) (frame : Bytes)
    (whole : Bool) :
    (traffic.arrive frame whole).waiting = [⟨frame.take packetSize, whole⟩] := by
  rw [arrive, idle]
  rfl

/-- It is the next one to be taken. -/
theorem next?_arrive {traffic : Traffic} (idle : traffic.waiting = []) {frame : Bytes}
    (nonempty : frame.take packetSize ≠ []) :
    (traffic.arrive frame true).next? = some (frame.take packetSize) := by
  rw [next?, waiting_arrive idle]
  exact if_pos ⟨rfl, nonempty⟩

/-- Once it is taken, it is as if it had never arrived. -/
theorem advance_arrive {traffic : Traffic} (idle : traffic.waiting = []) (frame : Bytes)
    (whole : Bool) : (traffic.arrive frame whole).advance = traffic := by
  rw [advance, arrive, idle]
  dsimp only [List.nil_append, List.tail_cons]
  rw [← idle]

end Traffic

/-- A transmit slot that holds a pending frame, or is free for the stack. -/
def TransmitSlot.Holds (slot : TransmitSlot) : Option Bytes → Prop
  | none => slot.buffer.length = packetSize ∧ slot.done = true
  | some frame => slot.buffer.length = packetSize ∧ slot.done = false ∧ slot.frame = frame

theorem TransmitSlot.Holds.size {slot : TransmitSlot} {frame? : Option Bytes}
    (held : slot.Holds frame?) : slot.buffer.length = packetSize := by
  cases frame? <;> exact held.1

theorem TransmitSlot.Holds.done_eq {slot : TransmitSlot} {frame? : Option Bytes}
    (held : slot.Holds frame?) : slot.done = frame?.isNone := by
  cases frame? with
  | none => exact held.2
  | some frame => exact held.2.1

/-- The slot with a frame put into it by the stack, cut to the buffer. -/
def TransmitSlot.load (slot : TransmitSlot) (frame : Bytes) : TransmitSlot :=
  let carried := frame.take packetSize
  { buffer := carried ++ slot.buffer.drop carried.length
    length := carried.length
    done := false }

theorem TransmitSlot.holds_load {slot : TransmitSlot} (sized : slot.buffer.length = packetSize)
    (frame : Bytes) : (slot.load frame).Holds (some (frame.take packetSize)) := by
  refine ⟨?_, rfl, ?_⟩
  · simp only [load, List.length_append, List.length_drop, List.length_take]
    omega
  · simp [load, TransmitSlot.frame]

/-- A receive slot that holds a frame, or is free for the adapter. -/
def ReceiveSlot.Holds (slot : ReceiveSlot) : Option Arrival → Prop
  | none => slot.buffer.length = packetSize ∧ slot.done = false
  | some arrival =>
      slot.buffer.length = packetSize ∧ slot.done = true ∧ slot.endOfPacket = arrival.whole ∧
        slot.length = arrival.frame.length ∧ arrival.frame.length ≤ packetSize ∧
        slot.buffer.take slot.length = arrival.frame

theorem ReceiveSlot.Holds.size {slot : ReceiveSlot} {arrival? : Option Arrival}
    (held : slot.Holds arrival?) : slot.buffer.length = packetSize := by
  cases arrival? <;> exact held.1

theorem ReceiveSlot.Holds.done_eq {slot : ReceiveSlot} {arrival? : Option Arrival}
    (held : slot.Holds arrival?) : slot.done = arrival?.isSome := by
  cases arrival? with
  | none => exact held.2
  | some arrival => exact held.2.1

theorem ReceiveSlot.holds_fill {slot : ReceiveSlot} (size : slot.buffer.length = packetSize)
    (frame : Bytes) (whole : Bool) :
    (slot.fill frame whole).Holds (some ⟨frame.take packetSize, whole⟩) := by
  refine ⟨?_, rfl, rfl, rfl, ?_, ?_⟩
  · simp [fill, size]
  · simp
  · simp [fill]

theorem RegisterFile.reg_setReg (file : RegisterFile) (register other : Register)
    (value : UInt32) :
    (file.setReg register value).reg other =
      if register = other then value else file.reg other := by
  rw [reg, setReg, get_set]
  by_cases same : register = other
  · subst same
    simp
  · have differs : register.word ≠ other.word := fun words => same (Register.word_injective words)
    simp [same, differs, reg]

namespace SoftwareAdapter

/-- The adapter may send and receive, and knows both rings with all their slots. -/
structure Programmed (adapter : SoftwareAdapter) (size : Nat) : Prop where
  transmitting : adapter.file.reg .transmitControl &&& Register.transmitEnable ≠ 0
  receiving : adapter.file.reg .receiveControl &&& Register.receiveEnable ≠ 0
  transmitRing :
    adapter.ringCount? .transmitBaseLow .transmitBaseHigh .transmitLength = some size
  receiveRing : adapter.ringCount? .receiveBaseLow .receiveBaseHigh .receiveLength = some size
  /-- A register has room for the number of any slot. -/
  small : size < 4294967296

/-- The registers that move along a ring. -/
def indexRegisters : List Register :=
  [.transmitHead, .transmitTail, .receiveHead, .receiveTail]

/-- Moving an index along its ring leaves the programming alone. -/
theorem Programmed.setIndex {adapter : SoftwareAdapter} {size : Nat}
    (programmed : adapter.Programmed size) (register : Register) (value : UInt32)
    (index : register ∈ indexRegisters) :
    { adapter with file := adapter.file.setReg register value }.Programmed size := by
  have kept : ∀ other, other ∉ indexRegisters →
      (adapter.file.setReg register value).reg other = adapter.file.reg other := by
    intro other outside
    rw [RegisterFile.reg_setReg, if_neg]
    rintro rfl
    exact outside index
  constructor
  · rw [kept _ (by decide)]
    exact programmed.transmitting
  · rw [kept _ (by decide)]
    exact programmed.receiving
  · rw [ringCount?, kept _ (by decide), kept _ (by decide), kept _ (by decide)]
    exact programmed.transmitRing
  · rw [ringCount?, kept _ (by decide), kept _ (by decide), kept _ (by decide)]
    exact programmed.receiveRing
  · exact programmed.small

end SoftwareAdapter

namespace Rig

/-- The rig carries exactly this traffic: its registers, done marks and buffers
agree on the three queues. -/
structure Carries {size : Nat} (rig : Rig size) (traffic : Traffic) : Prop where
  automatic : rig.adapter.automatic = traffic.automatic
  sent : rig.adapter.sent = traffic.sent
  programmed : rig.adapter.Programmed size
  transmitQueue :
    RingShows TransmitSlot.Holds rig.rings.transmit
      (rig.adapter.file.reg .transmitHead).toNat traffic.pending
  transmitTail :
    (rig.adapter.file.reg .transmitTail).toNat % size =
      ((rig.adapter.file.reg .transmitHead).toNat + traffic.pending.length) % size
  receiveQueue :
    RingShows ReceiveSlot.Holds rig.rings.receive
      ((rig.adapter.file.reg .receiveTail).toNat + 1) traffic.waiting
  receiveHead :
    (rig.adapter.file.reg .receiveHead).toNat % size =
      ((rig.adapter.file.reg .receiveTail).toNat + 1 + traffic.waiting.length) % size
  /-- One receive slot always stays vacant. -/
  room : traffic.waiting.length < size

variable {size : Nat} {rig : Rig size} {traffic : Traffic}

/-- Sending goes through all pending frames, the ring full or not. -/
theorem sendPending_outcome (rig : Rig size) {left head : Nat} {pending : List Bytes}
    (enough : pending.length ≤ left) (inside : head < size)
    (view : RingShows TransmitSlot.Holds rig.rings.transmit head pending) :
    ∃ transmit,
      (sendPending size left head).outcome rig =
        (.ok ((head + pending.length) % size),
          { adapter := { rig.adapter with sent := rig.adapter.sent ++ pending }
            rings := { rig.rings with transmit } }) ∧
      RingShows TransmitSlot.Holds transmit (head + pending.length) [] := by
  induction left generalizing head pending rig with
  | zero =>
      obtain rfl : pending = [] := List.length_eq_zero_iff.mp (by omega)
      refine ⟨rig.rings.transmit, ?_, by simpa using view⟩
      simp [sendPending, Nat.mod_eq_of_lt inside]
  | succ left inductiveHypothesis =>
      have here : rig.rings.transmit[head % size]? = some rig.rings.transmit[head] := by
        rw [Nat.mod_eq_of_lt inside, Vector.getElem?_eq_getElem inside]
      have held := view.holds_head here
      cases pending with
      | nil =>
          have done : rig.rings.transmit[head].done = true := held.2
          refine ⟨rig.rings.transmit, ?_, by simpa using view⟩
          simp [sendPending, Action.outcome, inside, done, Nat.mod_eq_of_lt inside]
      | cons frame pending =>
          obtain ⟨sized, busy, content⟩ := held
          have vacated : { rig.rings.transmit[head] with done := true }.Holds none := ⟨sized, rfl⟩
          have popped := view.pop inside (Nat.mod_eq_of_lt inside).symm vacated
          have turned := popped.congr ((head + 1) % size) (Nat.mod_mod _ _)
          obtain ⟨transmit, rest, empty⟩ :=
            inductiveHypothesis
              { adapter := { rig.adapter with sent := rig.adapter.sent ++ [frame] }
                rings := {
                  rig.rings with
                  transmit :=
                    rig.rings.transmit.set head { rig.rings.transmit[head] with done := true } } }
              (by simpa using enough) (Nat.mod_lt _ (by omega)) turned
          refine ⟨transmit, ?_, ?_⟩
          · simp only [Action.outcome, Prod.mk.injEq] at rest
            simp only [sendPending, Action.outcome, inside, busy, content, dif_pos,
              Bool.false_eq_true, if_false, rest, Prod.mk.injEq, Except.ok.injEq,
              Nat.mod_add_mod, List.append_assoc, List.singleton_append, and_true,
              List.length_cons]
            congr 1
            omega
          · apply empty.congr
            simp only [List.length_cons, Nat.mod_add_mod]
            congr 1
            omega

private theorem toNat_ofNat_mod (programmed : rig.adapter.Programmed size) (positive : 0 < size)
    (index : Nat) : (UInt32.ofNat (index % size)).toNat = index % size := by
  have inside := Nat.mod_lt index positive
  have small := programmed.small
  rw [UInt32.toNat_ofNat', Nat.mod_eq_of_lt (by omega)]

/-- Whatever is pending gets sent, and nothing else changes. -/
theorem Carries.completeTransmits (carries : rig.Carries traffic) :
    ∃ after, Rig.completeTransmits.outcome rig = (.ok (), after) ∧ after.Carries traffic.flush := by
  have positive : 0 < size := Nat.zero_lt_of_lt carries.room
  obtain ⟨transmit, swept, empty⟩ :=
    sendPending_outcome rig carries.transmitQueue.fits
      (Nat.mod_lt (rig.adapter.file.reg .transmitHead).toNat positive)
      (carries.transmitQueue.congr _ (Nat.mod_mod _ _))
  rw [Nat.mod_add_mod] at swept
  have headValue := toNat_ofNat_mod carries.programmed positive
    ((rig.adapter.file.reg .transmitHead).toNat + traffic.pending.length)
  refine ⟨{
    adapter :=
      { rig.adapter with
        sent := rig.adapter.sent ++ traffic.pending
        file := rig.adapter.file.setReg .transmitHead (UInt32.ofNat
          (((rig.adapter.file.reg .transmitHead).toNat + traffic.pending.length) % size)) }
    rings := { rig.rings with transmit } }, ?_, ?_⟩
  · unfold Rig.completeTransmits
    simp only [Action.outcome_get_bind, carries.programmed.transmitting, if_false,
      carries.programmed.transmitRing]
    rw [Action.outcome_bind_of_ok swept]
    exact Action.outcome_modify _ _
  · exact {
      automatic := carries.automatic
      sent := by simp only [Traffic.flush, carries.sent]
      programmed := { carries.programmed.setIndex .transmitHead _ (by decide) with }
      transmitQueue := by
        simp only [RegisterFile.reg_setReg, if_true, headValue]
        apply empty.congr
        rw [Nat.mod_mod, Nat.mod_add_mod]
      transmitTail := by
        simp only [RegisterFile.reg_setReg, if_true, headValue, Traffic.flush, List.length_nil,
          Nat.add_zero, Nat.mod_mod]
        exact carries.transmitTail
      receiveQueue := by simpa [RegisterFile.reg_setReg, Traffic.flush] using carries.receiveQueue
      receiveHead := by simpa [RegisterFile.reg_setReg, Traffic.flush] using carries.receiveHead
      room := carries.room }

/-- A frame is put behind those that wait, if a slot can be spared. -/
theorem Carries.deliver (carries : rig.Carries traffic) (frame : Bytes) (whole : Bool)
    (room : traffic.waiting.length + 1 < size) :
    ∃ after, (Rig.deliver frame whole).outcome rig = (.ok true, after) ∧
      after.Carries (traffic.arrive frame whole) := by
  have positive : 0 < size := by omega
  have inside := Nat.mod_lt (rig.adapter.file.reg .receiveHead).toNat positive
  have apart : (rig.adapter.file.reg .receiveHead).toNat % size ≠
      (rig.adapter.file.reg .receiveTail).toNat % size := by
    rw [carries.receiveHead]
    intro same
    have congruent : (rig.adapter.file.reg .receiveTail).toNat + (1 + traffic.waiting.length) ≡
        (rig.adapter.file.reg .receiveTail).toNat + 0 [MOD size] := by
      simpa [Nat.ModEq, Nat.add_assoc] using same
    have := Nat.ModEq.eq_of_lt_of_lt (Nat.ModEq.add_left_cancel' _ congruent) (by omega) positive
    omega
  have vacant := carries.receiveQueue.vacant_at_end carries.room
    (by rw [← carries.receiveHead]; exact Vector.getElem?_eq_getElem inside)
  have headValue := toNat_ofNat_mod carries.programmed positive
    ((rig.adapter.file.reg .receiveHead).toNat % size + 1)
  refine ⟨{
    adapter :=
      { rig.adapter with
        file := rig.adapter.file.setReg .receiveHead
          (UInt32.ofNat (((rig.adapter.file.reg .receiveHead).toNat % size + 1) % size)) }
    rings :=
      { rig.rings with
        receive := rig.rings.receive.set _
          ((rig.rings.receive[(rig.adapter.file.reg .receiveHead).toNat % size]).fill frame whole)
          inside } }, ?_, ?_⟩
  · unfold Rig.deliver
    simp only [Action.outcome_get_bind, carries.programmed.receiving, if_false,
      carries.programmed.receiveRing, apart, inside, dif_pos]
    rfl
  · exact {
      automatic := carries.automatic
      sent := carries.sent
      programmed := carries.programmed.setIndex .receiveHead _ (by decide)
      transmitQueue := by
        simpa [RegisterFile.reg_setReg, Traffic.arrive] using carries.transmitQueue
      transmitTail := by simpa [RegisterFile.reg_setReg, Traffic.arrive] using carries.transmitTail
      receiveQueue := by
        have filled := ReceiveSlot.holds_fill vacant.size frame whole
        have pushed := carries.receiveQueue.push carries.room inside carries.receiveHead filled
        simpa [RegisterFile.reg_setReg, Traffic.arrive] using pushed
      receiveHead := by
        simp only [RegisterFile.reg_setReg, if_true, headValue, Nat.mod_mod, reduceCtorEq, if_false,
          Traffic.arrive, List.length_append, List.length_singleton]
        rw [carries.receiveHead, Nat.mod_add_mod, Nat.add_assoc _ traffic.waiting.length]
      room := by simpa [Traffic.arrive] using room }

/-- With all slots but one taken, a frame is dropped. -/
theorem Carries.deliver_full (carries : rig.Carries traffic) (frame : Bytes) (whole : Bool)
    (full : traffic.waiting.length + 1 = size) :
    (Rig.deliver frame whole).outcome rig = (.ok false, rig) := by
  have meet : (rig.adapter.file.reg .receiveHead).toNat % size =
      (rig.adapter.file.reg .receiveTail).toNat % size := by
    rw [carries.receiveHead, Nat.add_assoc, Nat.add_comm 1, full, Nat.add_mod_right]
  unfold Rig.deliver
  simp only [Action.outcome_get_bind, carries.programmed.receiving, if_false,
    carries.programmed.receiveRing, meet, if_true]
  rfl

/-- The oldest frame sent is taken off the link. -/
theorem Carries.takeSent (carries : rig.Carries traffic) :
    ∃ after, Rig.takeSent.outcome rig = (.ok traffic.sent.head?, after) ∧
      after.Carries { traffic with sent := traffic.sent.tail } := by
  cases sent : traffic.sent with
  | nil =>
      refine ⟨rig, ?_, ?_⟩
      · unfold Rig.takeSent
        simp [Action.outcome_get_bind, carries.sent, sent]
      · have same : { traffic with sent := [] } = traffic := by rw [← sent]
        simpa [same] using carries
  | cons frame rest =>
      refine ⟨{ rig with adapter := { rig.adapter with sent := rest } }, ?_, ?_⟩
      · unfold Rig.takeSent
        simp only [Action.outcome_get_bind, carries.sent, sent]
        rfl
      · exact { carries with sent := rfl, programmed := { carries.programmed with } }

/-- All frames sent are taken off the link. -/
theorem Carries.drainSent (carries : rig.Carries traffic) :
    ∃ after, Rig.drainSent.outcome rig = (.ok traffic.sent, after) ∧
      after.Carries { traffic with sent := [] } := by
  refine ⟨{ rig with adapter := { rig.adapter with sent := [] } }, ?_, ?_⟩
  · unfold Rig.drainSent
    rw [← carries.sent]
    rfl
  · exact { carries with sent := rfl, programmed := { carries.programmed with } }

/-- A register write reaches the register, and only one to the transmit tail
makes a running adapter do more. -/
theorem outcome_writeAt (register : Register) (value : UInt32) (rig : Rig size) :
    (Rig.writeAt register.offset value).outcome rig =
      let written : Rig size :=
        { rig with
          adapter := { rig.adapter with file := rig.adapter.file.setReg register value } }
      if register = .transmitTail ∧ rig.adapter.automatic = true then
        Rig.completeTransmits.outcome written
      else
        (.ok (), written) := by
  have covered : SoftwareAdapter.covers register.offset = true := by
    cases register <;> decide
  have tail : register.offset = Register.transmitTail.offset ↔ register = .transmitTail := by
    cases register <;> decide
  unfold Rig.writeAt
  simp only [covered, if_true, Action.outcome_modify_bind, Action.outcome_get_bind, tail,
    Action.outcome_ite, Action.outcome_pure]
  rfl

/-- A frame put into the slot at the tail is queued by moving the tail on. -/
theorem Carries.moveTail (carries : rig.Carries traffic) {slot : TransmitSlot} {frame : Bytes}
    {index : Nat} (room : traffic.pending.length < size) (inside : index < size)
    (place : index = (rig.adapter.file.reg .transmitTail).toNat % size)
    (filled : slot.Holds (some frame)) :
    ∃ after,
      (Rig.writeAt Register.transmitTail.offset (UInt32.ofNat ((index + 1) % size))).outcome
          { rig with rings := { rig.rings with transmit := rig.rings.transmit.set index slot } } =
        (.ok (), after) ∧
      after.Carries (traffic.enqueue frame) := by
  have positive : 0 < size := by omega
  have tailValue := toNat_ofNat_mod carries.programmed positive (index + 1)
  have moved : Rig.Carries
      { adapter :=
          { rig.adapter with
            file := rig.adapter.file.setReg .transmitTail (UInt32.ofNat ((index + 1) % size)) }
        rings := { rig.rings with transmit := rig.rings.transmit.set index slot } }
      { traffic with pending := traffic.pending ++ [frame] } := {
    automatic := carries.automatic
    sent := carries.sent
    programmed := carries.programmed.setIndex .transmitTail _ (by decide)
    transmitQueue := by
      have pushed :=
        carries.transmitQueue.push room inside (place.trans carries.transmitTail) filled
      simpa [RegisterFile.reg_setReg] using pushed
    transmitTail := by
      simp only [RegisterFile.reg_setReg, if_true, tailValue, reduceCtorEq, if_false,
        Nat.mod_mod, List.length_append, List.length_singleton]
      rw [place, carries.transmitTail, Nat.mod_add_mod, Nat.add_assoc]
    receiveQueue := by simpa [RegisterFile.reg_setReg] using carries.receiveQueue
    receiveHead := by simpa [RegisterFile.reg_setReg] using carries.receiveHead
    room := carries.room }
  rw [outcome_writeAt, Traffic.enqueue]
  dsimp only
  by_cases automatic : traffic.automatic = true
  · rw [if_pos ⟨rfl, carries.automatic.trans automatic⟩, if_pos automatic]
    exact moved.completeTransmits
  · rw [if_neg, if_neg automatic]
    · exact ⟨_, rfl, moved⟩
    · rintro ⟨_, running⟩
      exact automatic (carries.automatic.symm.trans running)

/-- Handing a slot back by moving the receive tail onto it removes the oldest
waiting frame. -/
theorem Carries.handBack (carries : rig.Carries traffic) {slot : ReceiveSlot} {oldest : Arrival}
    {rest : List Arrival} {index : Nat} (waiting : traffic.waiting = oldest :: rest)
    (inside : index < size)
    (place : index = ((rig.adapter.file.reg .receiveTail).toNat + 1) % size)
    (vacated : slot.Holds none) :
    ∃ after,
      (Rig.writeAt Register.receiveTail.offset (UInt32.ofNat index)).outcome
          { rig with rings := { rig.rings with receive := rig.rings.receive.set index slot } } =
        (.ok (), after) ∧
      after.Carries { traffic with waiting := rest } := by
  have positive : 0 < size := by omega
  have tailValue := toNat_ofNat_mod carries.programmed positive
    ((rig.adapter.file.reg .receiveTail).toNat + 1)
  rw [← place] at tailValue
  refine ⟨{
    adapter :=
      { rig.adapter with file := rig.adapter.file.setReg .receiveTail (UInt32.ofNat index) }
    rings := { rig.rings with receive := rig.rings.receive.set index slot } }, ?_, ?_⟩
  · rw [outcome_writeAt]
    rfl
  · exact {
      automatic := carries.automatic
      sent := carries.sent
      programmed := carries.programmed.setIndex .receiveTail _ (by decide)
      transmitQueue := by simpa [RegisterFile.reg_setReg] using carries.transmitQueue
      transmitTail := by simpa [RegisterFile.reg_setReg] using carries.transmitTail
      receiveQueue := by
        have view := carries.receiveQueue
        rw [waiting] at view
        simp only [RegisterFile.reg_setReg, if_true, tailValue]
        apply (view.pop inside place vacated).congr
        rw [place, Nat.mod_add_mod]
      receiveHead := by
        have head := carries.receiveHead
        rw [waiting, List.length_cons] at head
        simp only [RegisterFile.reg_setReg, if_true, tailValue, reduceCtorEq, if_false]
        rw [head, place, Nat.add_assoc (_ % size), Nat.mod_add_mod]
        congr 1
        omega
      room := by
        have room := carries.room
        rw [waiting, List.length_cons] at room
        show rest.length < size
        omega }

end Rig

end NetStack
