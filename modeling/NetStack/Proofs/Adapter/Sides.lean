/-
Module: NetStack.Proofs.Adapter.Sides
Purpose: The sending and the receiving side of a software adapter, and which
  operation touches which side.
Main exports:
  Rig.SendsAlike, Rig.ReceivesAlike, Nic.SendsAlike, Nic.ReceivesAlike,
  Nic.SendsAlike.completeTransmits, Nic.SendsAlike.outbox,
  Nic.SendsAlike.enqueue, Nic.Releases, Nic.HandsBack,
  Nic.Carries.receive_handsBack, Nic.Carries.receive_front
-/
import NetStack.Proofs.Nic

namespace NetStack

/-!
Each ring has a head, a tail and slots of its own.  What arrives and is received
leaves the sending side alone, and what is queued and sent leaves the receiving
side alone.  Moreover, what the sending side does depends on nothing but itself.
Registers that program the adapter belong to both sides, for nothing changes
them after the adapter was attached.
-/

namespace Rig

variable {size : Nat}

/-- Rigs that differ at most in the receive ring and in where they stand in
it. -/
structure SendsAlike (left right : Rig size) : Prop where
  automatic : right.adapter.automatic = left.adapter.automatic
  sent : right.adapter.sent = left.adapter.sent
  slots : right.rings.transmit = left.rings.transmit
  words : ∀ number, number ≠ Register.receiveHead.word → number ≠ Register.receiveTail.word →
    right.adapter.file.get number = left.adapter.file.get number

/-- Rigs that differ at most in what they send, in the transmit ring and in where
they stand in it. -/
structure ReceivesAlike (left right : Rig size) : Prop where
  slots : right.rings.receive = left.rings.receive
  registers : ∀ register, register ≠ .transmitHead → register ≠ .transmitTail →
    right.adapter.file.reg register = left.adapter.file.reg register

namespace SendsAlike

variable {left middle right : Rig size}

theorem refl (rig : Rig size) : SendsAlike rig rig :=
  ⟨rfl, rfl, rfl, fun _ _ _ => rfl⟩

theorem symm (alike : SendsAlike left right) : SendsAlike right left where
  automatic := alike.automatic.symm
  sent := alike.sent.symm
  slots := alike.slots.symm
  words := fun number head tail => (alike.words number head tail).symm

theorem trans (first : SendsAlike left middle) (second : SendsAlike middle right) :
    SendsAlike left right where
  automatic := second.automatic.trans first.automatic
  sent := second.sent.trans first.sent
  slots := second.slots.trans first.slots
  words := fun number head tail =>
    (second.words number head tail).trans (first.words number head tail)

theorem registers (alike : SendsAlike left right) (register : Register)
    (head : register ≠ .receiveHead) (tail : register ≠ .receiveTail) :
    right.adapter.file.reg register = left.adapter.file.reg register :=
  alike.words register.word (fun same => head (Register.word_injective same))
    (fun same => tail (Register.word_injective same))

/-- A register of the sending side may be written on both. -/
theorem setReg (alike : SendsAlike left right) (register : Register) (value : UInt32) :
    SendsAlike
      { left with
        adapter := { left.adapter with file := left.adapter.file.setReg register value } }
      { right with
        adapter := { right.adapter with file := right.adapter.file.setReg register value } } where
  automatic := alike.automatic
  sent := alike.sent
  slots := alike.slots
  words := by
    intro number head tail
    simp only [RegisterFile.setReg, RegisterFile.get_set]
    split
    · rfl
    · exact alike.words number head tail

end SendsAlike

namespace ReceivesAlike

variable {left middle right : Rig size}

theorem refl (rig : Rig size) : ReceivesAlike rig rig :=
  ⟨rfl, fun _ _ _ => rfl⟩

theorem trans (first : ReceivesAlike left middle) (second : ReceivesAlike middle right) :
    ReceivesAlike left right where
  slots := second.slots.trans first.slots
  registers := fun register head tail =>
    (second.registers register head tail).trans (first.registers register head tail)

end ReceivesAlike

/-! ## Sending what is pending -/

theorem receivesAlike_sendPending (count left head : Nat) (rig : Rig size) :
    ReceivesAlike rig ((sendPending count left head).outcome rig).2 := by
  induction left generalizing head rig with
  | zero => exact .refl rig
  | succ left inductiveHypothesis =>
      simp only [Action.outcome, sendPending]
      split
      · next inside =>
        split
        · exact .refl rig
        · let sent : Rig size := {
            adapter :=
              { rig.adapter with sent := rig.adapter.sent ++ [rig.rings.transmit[head].frame] }
            rings := {
              rig.rings with
              transmit :=
                rig.rings.transmit.set head { rig.rings.transmit[head] with done := true } } }
          have first : ReceivesAlike rig sent := ⟨rfl, fun _ _ _ => rfl⟩
          exact first.trans (inductiveHypothesis ((head + 1) % count) sent)
      · exact .refl rig

theorem SendsAlike.sendPending {left right : Rig size} (alike : SendsAlike left right)
    (count budget head : Nat) :
    ((Rig.sendPending count budget head).outcome right).1 =
        ((Rig.sendPending count budget head).outcome left).1 ∧
      SendsAlike ((Rig.sendPending count budget head).outcome left).2
        ((Rig.sendPending count budget head).outcome right).2 := by
  induction budget generalizing head left right with
  | zero => exact ⟨rfl, alike⟩
  | succ budget inductiveHypothesis =>
      simp only [Action.outcome, Rig.sendPending, alike.slots]
      split
      · next inside =>
        split
        · exact ⟨rfl, alike⟩
        · have onward : SendsAlike
              { adapter :=
                  { left.adapter with
                    sent := left.adapter.sent ++ [left.rings.transmit[head].frame] }
                rings :=
                  { left.rings with
                    transmit :=
                      left.rings.transmit.set head
                        { left.rings.transmit[head] with done := true } } }
              { adapter :=
                  { right.adapter with
                    sent := right.adapter.sent ++ [left.rings.transmit[head].frame] }
                rings :=
                  { right.rings with
                    transmit :=
                      left.rings.transmit.set head
                        { left.rings.transmit[head] with done := true } } } :=
            { automatic := alike.automatic
              sent := congrArg (· ++ _) alike.sent
              slots := rfl
              words := alike.words }
          exact inductiveHypothesis onward _
      · exact ⟨rfl, alike⟩

/-- The sweep over the pending frames, and the head that it ends at. -/
theorem outcome_completeTransmits (rig : Rig size) :
    Rig.completeTransmits.outcome rig =
      if rig.adapter.file.reg .transmitControl &&& Register.transmitEnable = 0 then (.ok (), rig)
      else
        match rig.adapter.ringCount? .transmitBaseLow .transmitBaseHigh .transmitLength with
        | none => (.ok (), rig)
        | some count =>
            let swept := (Rig.sendPending count count
              ((rig.adapter.file.reg .transmitHead).toNat % count)).outcome rig
            match swept.1 with
            | .ok head =>
                (.ok (), { swept.2 with
                  adapter :=
                    { swept.2.adapter with
                      file := swept.2.adapter.file.setReg .transmitHead (UInt32.ofNat head) } })
            | .error failure => (.error failure, swept.2) := by
  unfold Rig.completeTransmits
  simp only [Action.outcome_get_bind]
  split
  · rfl
  · cases rig.adapter.ringCount? .transmitBaseLow .transmitBaseHigh .transmitLength with
    | none => rfl
    | some count =>
        dsimp only
        rcases swept : (Rig.sendPending count count
          ((rig.adapter.file.reg .transmitHead).toNat % count)).outcome rig with ⟨answer, middle⟩
        cases answer with
        | ok head => rw [Action.outcome_bind_of_ok swept, Action.outcome_modify]
        | error failure => rw [Action.outcome_bind_of_error swept]

theorem receivesAlike_completeTransmits (rig : Rig size) :
    ReceivesAlike rig (Rig.completeTransmits.outcome rig).2 := by
  rw [outcome_completeTransmits]
  split
  · exact .refl rig
  · split
    · exact .refl rig
    · next count _ =>
      have swept := receivesAlike_sendPending count count
        ((rig.adapter.file.reg .transmitHead).toNat % count) rig
      dsimp only
      split
      · refine swept.trans ⟨rfl, ?_⟩
        intro register head _
        dsimp only
        rw [RegisterFile.reg_setReg, if_neg (Ne.symm head)]
      · exact swept

/-- What is sent, and what becomes of the sending side, depends on the sending
side alone. -/
theorem SendsAlike.completeTransmits {left right : Rig size} (alike : SendsAlike left right) :
    (Rig.completeTransmits.outcome right).1 = (Rig.completeTransmits.outcome left).1 ∧
      SendsAlike (Rig.completeTransmits.outcome left).2 (Rig.completeTransmits.outcome right).2 := by
  have register (which : Register) (head : which ≠ .receiveHead) (tail : which ≠ .receiveTail) :=
    alike.registers which head tail
  rw [outcome_completeTransmits, outcome_completeTransmits, SoftwareAdapter.ringCount?,
    SoftwareAdapter.ringCount?, register _ (by decide) (by decide),
    register .transmitLength (by decide) (by decide),
    register .transmitBaseLow (by decide) (by decide),
    register .transmitBaseHigh (by decide) (by decide),
    register .transmitHead (by decide) (by decide)]
  split
  · exact ⟨rfl, alike⟩
  · split
    · exact ⟨rfl, alike⟩
    · next count _ =>
      obtain ⟨answer, swept⟩ := alike.sendPending count count
        ((left.adapter.file.reg .transmitHead).toNat % count)
      dsimp only
      rw [answer]
      split
      · exact ⟨rfl, swept.setReg _ _⟩
      · exact ⟨rfl, swept⟩

/-- So does what a write to the transmit tail sets off. -/
theorem SendsAlike.moveTail {left right : Rig size} (alike : SendsAlike left right)
    (value : UInt32) :
    ((Rig.writeAt Register.transmitTail.offset value).outcome right).1 =
        ((Rig.writeAt Register.transmitTail.offset value).outcome left).1 ∧
      SendsAlike ((Rig.writeAt Register.transmitTail.offset value).outcome left).2
        ((Rig.writeAt Register.transmitTail.offset value).outcome right).2 := by
  have written := alike.setReg .transmitTail value
  rw [outcome_writeAt, outcome_writeAt, alike.automatic]
  dsimp only
  split
  · exact written.completeTransmits
  · exact ⟨rfl, written⟩

/-! ## What arrives -/

/-- Either nothing happens, or a receive slot is filled and the head moves on. -/
theorem deliver_cases (frame : Bytes) (whole : Bool) (rig : Rig size) :
    ((Rig.deliver frame whole).outcome rig).2 = rig ∨
      ∃ head receive, ((Rig.deliver frame whole).outcome rig).2 =
        { adapter :=
            { rig.adapter with file := rig.adapter.file.setReg .receiveHead head }
          rings := { rig.rings with receive } } := by
  unfold Rig.deliver
  simp only [Action.outcome_get_bind]
  split
  · exact .inl rfl
  · split
    · exact .inl rfl
    · split
      · exact .inl rfl
      · split
        · exact .inr ⟨_, _, rfl⟩
        · exact .inl rfl

theorem sendsAlike_deliver (frame : Bytes) (whole : Bool) (rig : Rig size) :
    SendsAlike rig ((Rig.deliver frame whole).outcome rig).2 := by
  rcases deliver_cases frame whole rig with still | ⟨value, receive, filled⟩
  · rw [still]
    exact .refl rig
  · rw [filled]
    refine ⟨rfl, rfl, rfl, ?_⟩
    intro number head _
    exact (RegisterFile.get_set _ _ _ _).trans (if_neg (Ne.symm head))

/-- What arrives moves no more than the head. -/
theorem reg_deliver (frame : Bytes) (whole : Bool) (rig : Rig size) {register : Register}
    (head : register ≠ .receiveHead) :
    ((Rig.deliver frame whole).outcome rig).2.adapter.file.reg register =
      rig.adapter.file.reg register := by
  rcases deliver_cases frame whole rig with still | ⟨value, receive, filled⟩
  · rw [still]
  · rw [filled]
    exact (RegisterFile.reg_setReg _ _ _ _).trans (if_neg (Ne.symm head))

/-- A write to the transmit tail, and all that it sets off, leaves what is
received alone. -/
theorem receivesAlike_moveTail (value : UInt32) (rig : Rig size) :
    ReceivesAlike rig
      ((Rig.writeAt Register.transmitTail.offset value).outcome rig).2 := by
  rw [outcome_writeAt]
  dsimp only
  have moved : ReceivesAlike rig
      { rig with
        adapter :=
          { rig.adapter with file := rig.adapter.file.setReg .transmitTail value } } := by
    refine ⟨rfl, ?_⟩
    intro register _ tail
    exact (RegisterFile.reg_setReg _ _ _ _).trans (if_neg (Ne.symm tail))
  split
  · exact moved.trans (receivesAlike_completeTransmits _)
  · exact moved

end Rig

namespace Nic

/-- Adapters that differ at most in the receive ring and in where they stand in
it. -/
structure SendsAlike (left right : Nic) : Prop where
  clock : right.clock = left.clock
  rigs : ∃ first second,
    left.adapter = .software first ∧ right.adapter = .software second ∧
      Rig.SendsAlike ⟨first, left.rings⟩ ⟨second, right.rings⟩

/-- Adapters that differ at most in what they send, in the transmit ring and in
where they stand in it. -/
structure ReceivesAlike (left right : Nic) : Prop where
  clock : right.clock = left.clock
  rigs : ∃ first second,
    left.adapter = .software first ∧ right.adapter = .software second ∧
      Rig.ReceivesAlike ⟨first, left.rings⟩ ⟨second, right.rings⟩

namespace SendsAlike

variable {left middle right : Nic}

theorem symm (alike : SendsAlike left right) : SendsAlike right left := by
  obtain ⟨first, second, onLeft, onRight, rigs⟩ := alike.rigs
  exact ⟨alike.clock.symm, second, first, onRight, onLeft, rigs.symm⟩

theorem trans (earlier : SendsAlike left middle) (later : SendsAlike middle right) :
    SendsAlike left right := by
  obtain ⟨first, second, onLeft, onMiddle, begun⟩ := earlier.rigs
  obtain ⟨same, third, onSame, onRight, ended⟩ := later.rigs
  rw [onMiddle] at onSame
  cases onSame
  exact ⟨later.clock.trans earlier.clock, first, third, onLeft, onRight, begun.trans ended⟩

theorem reg (alike : SendsAlike left right) (register : Register)
    (head : register ≠ .receiveHead) (tail : register ≠ .receiveTail) :
    right.reg register = left.reg register := by
  obtain ⟨first, second, onLeft, onRight, rigs⟩ := alike.rigs
  rw [Nic.reg, Nic.reg, onLeft, onRight]
  exact rigs.registers register head tail

theorem sent (alike : SendsAlike left right) : right.sent = left.sent := by
  obtain ⟨first, second, onLeft, onRight, rigs⟩ := alike.rigs
  rw [Nic.sent, Nic.sent, drainSent, outcome_onSoftware _ _ onLeft, outcome_onSoftware _ _ onRight]
  exact rigs.sent

/-- Adapters that send alike still do after they sent what was pending. -/
theorem completeTransmits (alike : SendsAlike left right) :
    SendsAlike (Nic.completeTransmits.outcome left).2 (Nic.completeTransmits.outcome right).2 := by
  obtain ⟨first, second, onLeft, onRight, rigs⟩ := alike.rigs
  rw [Nic.completeTransmits, outcome_onSoftware _ _ onLeft, outcome_onSoftware _ _ onRight]
  exact ⟨alike.clock, _, _, rfl, rfl, rigs.completeTransmits.2⟩

theorem outbox (alike : SendsAlike left right) : right.outbox = left.outbox :=
  alike.completeTransmits.sent

theorem transmitIndex_eq (alike : SendsAlike left right) :
    right.transmitIndex = left.transmitIndex := by
  simp only [transmitIndex, alike.reg .transmitTail (by decide) (by decide)]

theorem transmitSlot_eq (alike : SendsAlike left right) :
    right.transmitSlot = left.transmitSlot := by
  obtain ⟨first, second, -, -, rigs⟩ := alike.rigs
  have slots : right.rings.transmit = left.rings.transmit := rigs.slots
  simp only [transmitSlot, alike.transmitIndex_eq, slots]

/-- A frame put into the slot at the tail is put into the same slot on both. -/
theorem loaded (alike : SendsAlike left right) (frame : Bytes) :
    SendsAlike (left.loaded frame) (right.loaded frame) := by
  have index := alike.transmitIndex_eq
  have slot := alike.transmitSlot_eq
  obtain ⟨first, second, onLeft, onRight, rigs⟩ := alike.rigs
  have slots : right.rings.transmit = left.rings.transmit := rigs.slots
  have put : (right.loaded frame).rings.transmit = (left.loaded frame).rings.transmit := by
    simp only [Nic.loaded, setTransmitSlot, Action.outcome_modify, index, slot, slots]
  exact ⟨alike.clock, first, second, onLeft, onRight,
    ⟨rigs.automatic, rigs.sent, put, rigs.words⟩⟩

/-- The same frame is queued or refused on both, and sent on both if it is sent on
one. -/
theorem enqueue (alike : SendsAlike left right) {traffic : Traffic}
    (carries : left.Carries traffic) (frame : Bytes) :
    SendsAlike ((Nic.transmit frame).outcome left).2 ((Nic.transmit frame).outcome right).2 := by
  have slot := alike.transmitSlot_eq
  have sized := carries.transmitSlot.size
  have same : right.transmitReady = left.transmitReady := by
    rw [transmitReady, transmitReady, slot]
  cases ready : left.transmitReady with
  | true =>
      obtain ⟨first, second, onLeft, onRight, rigs⟩ := (alike.loaded frame).rigs
      rw [outcome_transmit ready sized, outcome_transmit (same.trans ready) (slot ▸ sized),
        alike.transmitIndex_eq, outcome_setReg_software _ _ _ onLeft,
        outcome_setReg_software _ _ _ onRight, outcome_onSoftware _ _ onLeft,
        outcome_onSoftware _ _ onRight]
      exact ⟨alike.clock, _, _, rfl, rfl, (rigs.moveTail _).2⟩
  | false =>
      rw [outcome_transmit_busy ready, outcome_transmit_busy (same.trans ready)]
      exact alike

end SendsAlike

variable {nic : Nic} {traffic : Traffic}

namespace ReceivesAlike

variable {left right : Nic}

theorem reg (alike : ReceivesAlike left right) (register : Register)
    (head : register ≠ .transmitHead) (tail : register ≠ .transmitTail) :
    right.reg register = left.reg register := by
  obtain ⟨first, second, onLeft, onRight, rigs⟩ := alike.rigs
  rw [Nic.reg, Nic.reg, onLeft, onRight]
  exact rigs.registers register head tail

theorem slots (alike : ReceivesAlike left right) :
    right.rings.receive = left.rings.receive := by
  obtain ⟨first, second, -, -, rigs⟩ := alike.rigs
  exact rigs.slots

end ReceivesAlike

/-! ## What arrives does not touch what is sent -/

theorem Carries.sendsAlike_refl (carries : nic.Carries traffic) : SendsAlike nic nic := by
  obtain ⟨adapter, software, -⟩ := carries.rig
  exact ⟨rfl, adapter, adapter, software, software, .refl _⟩

theorem Carries.sendsAlike_inject (carries : nic.Carries traffic) (frame : Bytes) :
    SendsAlike nic ((Nic.inject frame).outcome nic).2 := by
  obtain ⟨adapter, software, -⟩ := carries.rig
  rw [Nic.inject, outcome_onSoftware _ _ software]
  exact ⟨rfl, _, _, software, rfl, Rig.sendsAlike_deliver frame true _⟩

/-- What arrives leaves the tail of the receive ring where it is. -/
theorem Carries.receiveTail_deliver (carries : nic.Carries traffic) (frame : Bytes)
    (whole : Bool) :
    ((Nic.onSoftware false (Rig.deliver frame whole)).outcome nic).2.reg .receiveTail =
      nic.reg .receiveTail := by
  obtain ⟨adapter, software, -⟩ := carries.rig
  rw [outcome_onSoftware _ _ software, reg, reg, software]
  exact Rig.reg_deliver frame whole _ (by decide)

theorem Carries.receivesAlike_refl (carries : nic.Carries traffic) : ReceivesAlike nic nic := by
  obtain ⟨adapter, software, -⟩ := carries.rig
  exact ⟨rfl, adapter, adapter, software, software, .refl _⟩

/-- What is sent does not touch what arrives. -/
theorem Carries.receivesAlike_transmit (carries : nic.Carries traffic) (frame : Bytes) :
    ReceivesAlike nic ((Nic.transmit frame).outcome nic).2 := by
  obtain ⟨adapter, software, -⟩ := carries.rig
  rcases carries.pending_cases with room | full
  · have ready : nic.transmitReady = true := by simpa [carries.transmitReady] using room
    have onLoaded : (nic.loaded frame).adapter = .software adapter := software
    rw [outcome_transmit ready carries.transmitSlot.size,
      outcome_setReg_software _ _ _ onLoaded, outcome_onSoftware _ _ onLoaded]
    have moved := Rig.receivesAlike_moveTail
      (UInt32.ofNat ((nic.transmitIndex.val + 1) % ringSize)) ⟨adapter, (nic.loaded frame).rings⟩
    exact ⟨rfl, adapter, _, software, rfl, moved.slots, moved.registers⟩
  · rw [carries.transmit_full frame full]
    exact carries.receivesAlike_refl

/-- On a stalled adapter a frame that is queued moves the tail, and no other
register. -/
theorem Carries.reg_transmit (carries : nic.Carries traffic) (stalled : traffic.automatic = false)
    (room : traffic.pending.length < ringSize) (frame : Bytes) :
    let after := ((Nic.transmit frame).outcome nic).2
    after.clock = nic.clock ∧
      ∀ register, after.reg register =
        if register = .transmitTail then
          UInt32.ofNat ((nic.transmitIndex.val + 1) % ringSize)
        else
          nic.reg register := by
  intro after
  obtain ⟨adapter, software, onRig⟩ := carries.rig
  have ready : nic.transmitReady = true := by simpa [carries.transmitReady] using room
  have still : ¬((.transmitTail : Register) = .transmitTail ∧ adapter.automatic = true) := by
    rintro ⟨-, running⟩
    rw [show adapter.automatic = false from onRig.automatic.trans stalled] at running
    cases running
  have onLoaded : (nic.loaded frame).adapter = .software adapter := software
  have queued := (outcome_transmit ready carries.transmitSlot.size frame).trans
    (outcome_setReg_still _ onLoaded still)
  have becomes : after = _ := congrArg Prod.snd queued
  rw [becomes]
  refine ⟨rfl, ?_⟩
  intro register
  rw [reg, reg, software]
  refine (RegisterFile.reg_setReg _ _ _ _).trans ?_
  by_cases tail : register = .transmitTail
  · rw [if_pos tail, if_pos tail.symm]
  · rw [if_neg tail, if_neg (Ne.symm tail)]

/-- Stalled adapters that send alike stand at the same place in the transmit ring
after one more frame was queued on each, whichever it was. -/
theorem SendsAlike.transmit {left right : Nic} (alike : SendsAlike left right)
    (onLeft : left.Carries traffic) (onRight : right.Carries traffic)
    (stalled : traffic.automatic = false) (room : traffic.pending.length < ringSize)
    (frame other : Bytes) :
    let one := ((Nic.transmit frame).outcome left).2
    let another := ((Nic.transmit other).outcome right).2
    another.clock = one.clock ∧
      ∀ register, register ≠ .receiveHead → register ≠ .receiveTail →
        another.reg register = one.reg register := by
  intro one another
  obtain ⟨clockLeft, registersLeft⟩ := onLeft.reg_transmit stalled room frame
  obtain ⟨clockRight, registersRight⟩ := onRight.reg_transmit stalled room other
  constructor
  · exact clockRight.trans (alike.clock.trans clockLeft.symm)
  · intro register head tail
    rw [registersRight, registersLeft, alike.transmitIndex_eq, alike.reg register head tail]

/-- What is seen of a stalled adapter on which one more frame was queued. -/
theorem Carries.seen_queued {frame : Bytes} (carries : nic.Carries traffic)
    (stalled : traffic.automatic = false) (room : traffic.pending.length < ringSize)
    (idle : traffic.waiting = []) (fits : frame.take packetSize = frame) :
    let after := ((Nic.transmit frame).outcome nic).2
    after.receiveReady = false ∧ after.sent = traffic.sent ∧
      after.outbox = traffic.outbound ++ [frame] := by
  intro after
  obtain ⟨queued, transmitted, onQueued⟩ := carries.transmit frame room
  have here : after = queued := congrArg Prod.snd transmitted
  rw [here]
  rw [fits] at onQueued
  refine ⟨?_, ?_, ?_⟩
  · rw [onQueued.receiveReady, Traffic.waiting_enqueue, idle]
    rfl
  · rw [onQueued.sent, Traffic.enqueue, stalled]
    rfl
  · rw [onQueued.outbox, Traffic.outbound_enqueue]

/-- One receive slot, and no other, went back to the adapter with the frame that
it held. -/
structure Releases (nic after : Nic) : Prop where
  done : nic.receiveSlot.done = true
  whole : nic.receiveSlot.endOfPacket = true
  slots : after.rings.receive =
    nic.rings.receive.set nic.receiveIndex nic.receiveSlot.release nic.receiveIndex.isLt
  tail : after.reg .receiveTail = UInt32.ofNat nic.receiveIndex.val
  head : after.reg .receiveHead = nic.reg .receiveHead

/-- What is sent afterwards does not matter. -/
theorem Releases.receivesAlike {middle after : Nic} (releases : nic.Releases middle)
    (alike : ReceivesAlike middle after) : nic.Releases after where
  done := releases.done
  whole := releases.whole
  slots := alike.slots.trans releases.slots
  tail := (alike.reg .receiveTail (by decide) (by decide)).trans releases.tail
  head := (alike.reg .receiveHead (by decide) (by decide)).trans releases.head

/-- That happened, and nothing else. -/
structure HandsBack (nic after : Nic) : Prop extends Releases nic after where
  sends : SendsAlike nic after

/-- To receive a whole frame is to hand its slot back. -/
theorem Carries.receive_handsBack (carries : nic.Carries traffic) {oldest : Arrival}
    {rest : List Arrival} (waiting : traffic.waiting = oldest :: rest)
    (whole : oldest.whole = true) (buffer : Bytes) :
    HandsBack nic ((Nic.receive buffer).outcome nic).2 := by
  have ready : nic.receiveReady = true := by simp [carries.receiveReady, waiting]
  have held := carries.receiveSlot
  rw [waiting] at held
  obtain ⟨sized, -, ended, -⟩ := held
  obtain ⟨adapter, software, -⟩ := carries.rig
  rw [outcome_receive software ready (ended.trans whole) sized buffer]
  refine ⟨⟨ready, ended.trans whole, rfl, ?_, ?_⟩,
    ⟨rfl, adapter, _, software, rfl, rfl, rfl, rfl, ?_⟩⟩
  · rw [reg]
    exact (RegisterFile.reg_setReg _ _ _ _).trans (if_pos rfl)
  · rw [reg, reg, software]
    exact (RegisterFile.reg_setReg _ _ _ _).trans (if_neg (by decide))
  · intro number _ tail
    exact (RegisterFile.get_set _ _ _ _).trans (if_neg (Ne.symm tail))

/-- What waits behind it is left. -/
theorem Carries.receive_front (carries : nic.Carries traffic) {oldest : Arrival}
    {rest : List Arrival} (waiting : traffic.waiting = oldest :: rest)
    (whole : oldest.whole = true) (buffer : Bytes) :
    HandsBack nic ((Nic.receive buffer).outcome nic).2 ∧
      ((Nic.receive buffer).outcome nic).2.Carries { traffic with waiting := rest } := by
  refine ⟨carries.receive_handsBack waiting whole buffer, ?_⟩
  obtain ⟨after, received, onAfter⟩ := carries.receive_whole buffer waiting whole
  rw [received]
  exact onAfter

theorem Carries.receive_next_handsBack (carries : nic.Carries traffic) {frame : Bytes}
    (next : traffic.next? = some frame) (buffer : Bytes) :
    HandsBack nic ((Nic.receive buffer).outcome nic).2 := by
  unfold Traffic.next? at next
  cases waiting : traffic.waiting with
  | nil =>
      rw [waiting] at next
      cases next
  | cons oldest rest =>
      rw [waiting] at next
      dsimp only at next
      split at next
      · next whole => exact carries.receive_handsBack waiting whole.1 buffer
      · cases next

end Nic

end NetStack
