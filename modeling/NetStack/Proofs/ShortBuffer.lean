/-
Module: NetStack.Proofs.ShortBuffer
Purpose: A frame that is received into a short buffer is processed as the part of it that
  there was room for, and as nothing else.
Main exports:
  Nic.facing, Nic.Carries.facing, Interface.outcome_receiveFrame,
  Interface.Sound.exists_verdict, Interface.PassesOver, Setup.short_buffer_cuts_frame
-/
import NetStack.Proofs.Draining
import NetStack.Proofs.Faultless
import NetStack.Proofs.Padding

namespace NetStack

open Interface (Operation)

/-!
The payload of a frame is processed out of the caller's buffer.  Where that is short, the
layers above see a shorter payload, and each judges its lengths anew.  So it is as if a
shorter frame had arrived, and a payload that is cut inside its data is refused before
anybody acts on it.
-/

/-! ## Another frame in front -/

namespace Nic

variable {nic : Nic} {traffic : Traffic} {frame : Bytes}

/-- The adapter with another whole frame in the place of the one in front. -/
def facing (nic : Nic) (frame : Bytes) : Nic :=
  ((setReceiveSlot nic.receiveIndex (nic.receiveSlot.fill frame true)).outcome nic).2

theorem Carries.facing (carries : nic.Carries traffic) {oldest : Arrival} {rest : List Arrival}
    (waiting : traffic.waiting = oldest :: rest) (frame : Bytes) :
    (nic.facing frame).Carries
      { traffic with waiting := ⟨frame.take packetSize, true⟩ :: rest } := by
  have filled := ReceiveSlot.holds_fill carries.receiveSlot.size frame true
  obtain ⟨adapter, software, onRig⟩ := carries.rig
  have place : nic.receiveIndex.val = ((adapter.file.reg .receiveTail).toNat + 1) % ringSize := by
    simp only [receiveIndex, reg, software]
  refine ⟨⟨adapter, software, ?_⟩, carries.prompt⟩
  have queue := onRig.receiveQueue
  have head := onRig.receiveHead
  have room := onRig.room
  rw [waiting] at queue head room
  exact {
    automatic := onRig.automatic
    sent := onRig.sent
    programmed := onRig.programmed
    transmitQueue := onRig.transmitQueue
    transmitTail := onRig.transmitTail
    receiveQueue := queue.exchange nic.receiveIndex.isLt place filled
    receiveHead := head
    room := room }

theorem Carries.sendsAlike_facing (carries : nic.Carries traffic) (frame : Bytes) :
    nic.SendsAlike (nic.facing frame) := by
  obtain ⟨adapter, software, -⟩ := carries.rig
  exact ⟨rfl, adapter, adapter, software, software, rfl, rfl, rfl, fun _ _ _ => rfl⟩

end Nic

/-- A frame that is taken next has others behind it. -/
theorem Traffic.waiting_of_next? {traffic : Traffic} {frame : Bytes}
    (next : traffic.next? = some frame) :
    traffic.waiting = ⟨frame, true⟩ :: traffic.advance.waiting ∧ frame ≠ [] := by
  unfold Traffic.next? at next
  unfold Traffic.advance
  cases waiting : traffic.waiting with
  | nil =>
      rw [waiting] at next
      cases next
  | cons oldest rest =>
      rw [waiting] at next
      dsimp only at next
      split at next
      · next taken =>
        cases next
        refine ⟨?_, taken.2⟩
        rw [← taken.1]
        rfl
      · cases next

theorem Nic.Carries.length_next_le {nic : Nic} {traffic : Traffic} {frame : Bytes}
    (carries : nic.Carries traffic) (next : traffic.next? = some frame) :
    frame.length ≤ packetSize := by
  have held := carries.receiveSlot
  rw [(Traffic.waiting_of_next? next).1] at held
  exact held.2.2.2.2.1

/-! ## What is left of a payload -/

/-- A packet that is cut inside its header or inside its total length is refused. -/
theorem Ipv4.exists_objection {packet : Bytes} {kept : Nat}
    (cut : kept < max 20 (wordAt packet 2).toNat) :
    ∃ cause, objection? (packet.take kept) = some cause := by
  apply Option.ne_none_iff_exists'.mp
  intro silent
  obtain ⟨whole, -, -, -, inside⟩ := intact_iff_no_objection.mpr silent
  rw [List.length_take] at whole inside
  have same : wordAt (packet.take kept) 2 = wordAt packet 2 := by
    simp only [wordAt, byteAt, List.getD_eq_getElem?_getD]
    rw [List.getElem?_take_of_lt (by omega), List.getElem?_take_of_lt (by omega)]
  rw [same] at inside
  omega

namespace Parcel

/-- A frame that is cut where the buffer ends carries what its payload carries in that
buffer. -/
theorem ofFrame_take {frame : Bytes} (short : frame.length ≤ packetSize) (room : Nat) :
    ofFrame packetSize (frame.take
        (Ethernet.headerLength + min (frame.drop Ethernet.headerLength).length room)) =
      ofFrame room frame := by
  have decoded := Ethernet.Header.steady_reader.read_take Ethernet.Header.suffices_reader
    (Nat.le_add_right _ (min (frame.drop Ethernet.headerLength).length room)) frame
  have payload : ((frame.take
      (Ethernet.headerLength + min (frame.drop Ethernet.headerLength).length room)).drop
        Ethernet.headerLength).take packetSize =
      (frame.drop Ethernet.headerLength).take room := by
    rw [List.drop_take, Nat.add_sub_cancel_left, List.take_take, List.take_eq_take_iff,
      List.length_drop]
    omega
  unfold ofFrame
  rw [payload]
  unfold Ethernet.Header.decode
  rw [decoded]

theorem ofFrame_eq {frame : Bytes} {outer : Ethernet.Header}
    (decoded : Ethernet.Header.decode frame = some outer) (room : Nat) :
    ofFrame room frame =
      ofPayload outer.etherType ((frame.drop Ethernet.headerLength).take room) := by
  rw [ofFrame, decoded]

/-- What is left of a message is enough if it is as long as a message. -/
theorem ofResolution_take {kept : Nat} (whole : 28 ≤ kept) (data : Bytes) :
    ofResolution (data.take kept) = ofResolution data := by
  have decoded := Arp.Message.steady_reader.read_take Arp.Message.suffices_reader whole data
  unfold ofResolution Arp.Message.decode
  rw [decoded]

/-- So nothing is lost of a frame if the buffer has room for what its payload declares. -/
theorem ofFrame_of_room {frame : Bytes} {outer : Ethernet.Header}
    (decoded : Ethernet.Header.decode frame = some outer) (short : frame.length ≤ packetSize)
    {room : Nat}
    (enough : outer.etherType = .ipv4 ∧
        max 20 (Ipv4.wordAt (frame.drop Ethernet.headerLength) 2).toNat ≤ room ∨
      outer.etherType = .arp ∧ 28 ≤ room) :
    ofFrame packetSize frame = ofFrame room frame := by
  have whole : (frame.drop Ethernet.headerLength).take packetSize =
      frame.drop Ethernet.headerLength := by
    apply List.take_of_length_le
    rw [List.length_drop]
    omega
  rw [ofFrame_eq decoded, ofFrame_eq decoded, whole]
  rcases enough with ⟨packet, covered⟩ | ⟨message, covered⟩
  · rw [packet]
    exact (ofPacket_take (by omega) (by omega)).symm
  · rw [message]
    exact (ofResolution_take covered _).symm

/-- What is wrong with a packet is all that can be told about it. -/
theorem ofPacket_of_objection {packet : Bytes} {cause : StackError}
    (objects : Ipv4.objection? packet = some cause) : ofPacket packet = .unreadable cause := by
  by_cases whole : 20 ≤ packet.length
  · obtain ⟨header, rest, rfl⟩ := Ipv4.exists_header whole
    rw [Ipv4.objection_encode] at objects
    unfold ofPacket
    rw [Ipv4.Header.decode_encode]
    dsimp only
    split_ifs at objects ⊢ <;> cases objects <;> rfl
  · have short : packet.length < 20 := Nat.lt_of_not_le whole
    have missing : Ipv4.Header.decode packet = none := Ipv4.Header.decode_eq_none_iff.mpr short
    rw [Ipv4.objection?, if_pos short] at objects
    cases objects
    rw [ofPacket, missing]

section Cut

variable {frame : Bytes} {outer : Ethernet.Header} {room : Nat}

/-- Without that room, the header of a packet shows that something is missing, and nobody
is handed the rest. -/
theorem ofFrame_of_cut_packet (decoded : Ethernet.Header.decode frame = some outer)
    (packet : outer.etherType = .ipv4)
    (cut : room < max 20 (Ipv4.wordAt (frame.drop Ethernet.headerLength) 2).toNat) :
    ∃ cause, Ipv4.objection? ((frame.drop Ethernet.headerLength).take room) = some cause ∧
      ofFrame room frame = .unreadable cause := by
  obtain ⟨cause, objects⟩ := Ipv4.exists_objection cut
  refine ⟨cause, objects, ?_⟩
  rw [ofFrame_eq decoded, packet]
  exact ofPacket_of_objection objects

/-- Nor is there a message to be learned from. -/
theorem ofFrame_of_cut_message (decoded : Ethernet.Header.decode frame = some outer)
    (message : outer.etherType = .arp) (cut : room < 28) :
    Arp.Message.decode ((frame.drop Ethernet.headerLength).take room) = none ∧
      ofFrame room frame = .unreadable .truncated := by
  have missing : Arp.Message.decode ((frame.drop Ethernet.headerLength).take room) = none :=
    (Arp.Message.suffices_reader.read_eq_none_iff Arp.Message.takes_reader).mpr
      ((List.length_take_le _ _).trans_lt cut)
  refine ⟨missing, ?_⟩
  rw [ofFrame_eq decoded, message, ofPayload, ofResolution, missing]

end Cut

end Parcel

namespace Interface

variable {interface : Interface} {traffic : Traffic} {frame : Bytes} {automatic : Bool}

/-! ## Receiving into a buffer -/

/-- Whatever is to be done about what a frame carries succeeds, or is refused for a
cause. -/
theorem Sound.exists_verdict (sound : interface.Sound automatic) {nic : Nic}
    (carries : nic.Carries traffic) {parcel : Parcel} (whole : parcel.Whole) :
    ∃ verdict : Except StackError Unit,
      ((interface.handling parcel).outcome { interface with nic }).1 =
        verdict.mapError Failure.refused := by
  have onNic : Nic.Carries { interface with nic }.nic traffic := carries
  cases answer : ((interface.handling parcel).outcome { interface with nic }).1 with
  | ok value => exact ⟨.ok (), rfl⟩
  | error failure =>
      rcases Handling.outcome_error onNic answer with ⟨refuses, -⟩ | ⟨rfl, -⟩
      · obtain ⟨cause, rfl⟩ := (sound.issues whole).orderly failure refuses
        exact ⟨.error cause, rfl⟩
      · exact ⟨.error .queueFull, rfl⟩

/-- The front of a payload goes into the buffer, as far as there is room, and is
processed as it stands there. -/
theorem outcome_receiveFrame (carries : interface.nic.Carries traffic)
    (next : traffic.next? = some frame) (long : Ethernet.headerLength ≤ frame.length) (out : Bytes)
    {verdict : Except StackError Unit} {after : Interface}
    (done : (interface.handling (.ofFrame out.length frame)).outcome
      { interface with nic := interface.taken } = (verdict.mapError Failure.refused, after)) :
    let payload := frame.drop Ethernet.headerLength
    let kept := min payload.length out.length
    (receiveFrame out).outcome interface =
      (.ok {
        result := verdict.map fun () => frame.length
        buffer := payload.take kept ++ out.drop kept }, after) := by
  intro payload kept
  obtain ⟨outer, decoded⟩ := Ethernet.Header.exists_decode long
  have onTaken : Nic.Carries { interface with nic := interface.taken }.nic traffic.advance :=
    carries_taken carries next
  -- What the layers above answer is the verdict, and no fault.
  have tried : (Action.attempt (dispatchFrame outer.etherType (payload.take out.length))).outcome
      { interface with nic := interface.taken } = (.ok verdict, after) := by
    rw [Action.outcome_attempt, outcome_dispatchFrame onTaken, handling_nic,
      ← Parcel.ofFrame_eq decoded, done]
    cases verdict <;> rfl
  have written : payload.take out.length = payload.take kept :=
    List.take_eq_take_iff.mpr (by omega)
  have count : (payload.take kept).length = kept := List.length_take_of_le (Nat.min_le_left _ _)
  rw [← bind_pure (receiveFrame out), outcome_receiveFrame_bind carries next, decoded]
  dsimp only
  rw [Action.outcome_bind_of_ok tried, written, count]
  rfl

/-- One frame was taken off the adapter, and nothing else was done. -/
structure PassesOver (before after : Interface) : Prop where
  kept : after = { before with nic := after.nic }
  returned : before.nic.HandsBack after.nic

/-- The interface with another whole frame in the place of the one in front. -/
def facing (interface : Interface) (frame : Bytes) : Interface :=
  { interface with nic := interface.nic.facing frame }

/-- Whatever frame is put in front, it is polled next, off an adapter that differs in the
receive ring alone. -/
theorem poll_facing (carries : interface.nic.Carries traffic)
    (next : traffic.next? = some frame) {other : Bytes} (nonempty : other ≠ [])
    (short : other.length ≤ packetSize) :
    let facing := interface.facing other
    facing.nic.front? = some other ∧ facing.taken.Carries traffic.advance ∧
      interface.taken.SendsAlike facing.taken ∧ facing.nic.HandsBack facing.taken ∧
      poll.outcome facing =
        let done := (interface.handling (.ofFrame packetSize other)).outcome
          { interface with nic := facing.taken }
        (done.1.map fun () => other.length, done.2) := by
  intro facing
  obtain ⟨waiting, -⟩ := Traffic.waiting_of_next? next
  let later : Traffic := { traffic with waiting := ⟨other, true⟩ :: traffic.advance.waiting }
  have onFacing : facing.nic.Carries later := by
    have filled := carries.facing waiting other
    rwa [List.take_of_length_le short] at filled
  have nextFacing : later.next? = some other := if_pos ⟨rfl, nonempty⟩
  have returned := carries.receive_next_handsBack next (.zeros packetSize)
  have returnedFacing := onFacing.receive_next_handsBack nextFacing (.zeros packetSize)
  have polled := outcome_pollInto_parcel onFacing nextFacing (.zeros packetSize)
  have same : facing.handling (.ofFrame packetSize other) =
      interface.handling (.ofFrame packetSize other) := interface.handling_nic facing.nic _
  rw [Bytes.length_zeros, same] at polled
  have onTaken : facing.taken.Carries later.advance := carries_taken onFacing nextFacing
  exact ⟨onFacing.front?.trans nextFacing, onTaken,
    returned.sends.symm.trans ((carries.sendsAlike_facing other).trans returnedFacing.sends),
    returnedFacing, polled⟩

/-- A frame that the stack refuses is passed over. -/
theorem passesOver_of_refuses (carries : interface.nic.Carries traffic)
    (next : traffic.next? = some frame) {parcel : Parcel} {cause : StackError}
    {verdict : Except StackError Unit} {after : Interface}
    (carried : parcel = .unreadable cause)
    (done : (interface.handling parcel).outcome { interface with nic := interface.taken } =
      (verdict.mapError Failure.refused, after)) :
    verdict = .error cause ∧ interface.PassesOver after := by
  rw [carried] at done
  obtain ⟨answered, rfl⟩ := Prod.mk.inj done
  refine ⟨?_, rfl, carries.receive_next_handsBack next _⟩
  cases verdict <;> cases answered
  rfl

end Interface

namespace Setup

/-- A short buffer never makes the stack act on a part of a packet.  Wherever a run has
led, a whole frame with a header in front is received into any buffer as follows.  As much
of the payload as there is room for is written to the start of the buffer, and the rest of
the buffer stays as it was, whatever comes of the frame.  All else is as if the frame had
been cut there before it was polled: the verdict, what is remembered, and what is sent or
waits to be sent; and the one slot in front goes back to the adapter.  So if there is room
for all that a packet declares, or for a message, then to receive is to poll.  Otherwise
the rest of the packet fails a check on its header, and the rest of the message is none;
the frame is refused, and nothing is done but to take it off the adapter. -/
theorem short_buffer_cuts_frame (setup : Setup) (operations : List Operation) (frame : Bytes)
    (front : (setup.start.after operations).nic.front? = some frame) (long : 14 ≤ frame.length)
    (out : Bytes) :
    let reached := setup.start.after operations
    let payload := frame.drop 14
    let kept := min payload.length out.length
    let cutting := reached.facing (frame.take (14 + kept))
    let polled := Interface.poll.outcome cutting
    ∃ (outer : Ethernet.Header) (verdict : Except StackError Unit) (after : Interface),
      Ethernet.Header.decode frame = some outer ∧
      (Interface.receiveFrame out).outcome reached =
        (.ok {
          result := verdict.map fun () => frame.length
          buffer := payload.take kept ++ out.drop kept }, after) ∧
      reached.nic.Releases after.nic ∧
      cutting.nic.front? = some (frame.take (14 + kept)) ∧
      polled.1 = (verdict.mapError Failure.refused).map (fun () => 14 + kept) ∧
      after.SendsAlike polled.2 ∧
      polled.2.nic.sent = after.nic.sent ∧ polled.2.nic.outbox = after.nic.outbox ∧
      cutting.nic.Releases polled.2.nic ∧
      (outer.etherType = .ipv4 ∧ max 20 (Ipv4.wordAt payload 2).toNat ≤ out.length ∨
          outer.etherType = .arp ∧ 28 ≤ out.length →
        Interface.poll.outcome reached =
          ((verdict.mapError Failure.refused).map fun () => frame.length, after)) ∧
      (outer.etherType = .ipv4 → out.length < max 20 (Ipv4.wordAt payload 2).toNat →
        ∃ cause, Ipv4.objection? (payload.take kept) = some cause ∧
          verdict = .error cause ∧ reached.PassesOver after) ∧
      (outer.etherType = .arp → out.length < 28 →
        Arp.Message.decode (payload.take kept) = none ∧
          verdict = .error .truncated ∧ reached.PassesOver after) := by
  intro reached payload kept cutting polled
  have sound : reached.Sound setup.automatic := (setup.sound_after operations).1
  obtain ⟨traffic, carries, -⟩ := sound.wired
  have next : traffic.next? = some frame := carries.front?.symm.trans front
  have short : frame.length ≤ packetSize := carries.length_next_le next
  have onTaken : reached.taken.Carries traffic.advance := Interface.carries_taken carries next
  have returned := carries.receive_next_handsBack next (.zeros packetSize)
  obtain ⟨outer, decoded⟩ := Ethernet.Header.exists_decode long
  have written : payload.take out.length = payload.take kept :=
    List.take_eq_take_iff.mpr (by omega)
  -- What is received into the buffer is handled as what it carries there.
  let handling := reached.handling (.ofFrame out.length frame)
  obtain ⟨verdict, answered⟩ :=
    sound.exists_verdict onTaken (Parcel.whole_ofFrame out.length frame)
  let after := (handling.outcome { reached with nic := reached.taken }).2
  have done : handling.outcome { reached with nic := reached.taken } =
      (verdict.mapError Failure.refused, after) := Prod.ext answered rfl
  -- The same is to be done about the cut frame in its place.
  have size : (frame.take (14 + kept)).length = 14 + kept := by
    have inside : kept ≤ (frame.drop 14).length := Nat.min_le_left _ _
    rw [List.length_drop] at inside
    rw [List.length_take]
    omega
  have nonempty : frame.take (14 + kept) ≠ [] := by
    rw [← List.length_pos_iff, size]
    omega
  obtain ⟨frontCut, onCut, alike, returnedCut, polls⟩ :=
    Interface.poll_facing carries next nonempty ((List.length_take_le' _ _).trans short)
  have same : Parcel.ofFrame packetSize (frame.take (14 + kept)) =
      Parcel.ofFrame out.length frame := Parcel.ofFrame_take short out.length
  rw [same, size] at polls
  change polled = _ at polls
  obtain ⟨sameVerdict, sends⟩ :=
    Interface.Handling.outcome_congr reached alike onTaken onCut handling
  have onPolling : Nic.Carries { reached with nic := reached.taken }.nic traffic.advance := onTaken
  have onPollingCut : Nic.Carries { reached with nic := cutting.taken }.nic traffic.advance := onCut
  refine ⟨outer, verdict, after, decoded,
    Interface.outcome_receiveFrame carries next long out done,
    returned.toReleases.receivesAlike (handling.outcome_receiving onPolling).1,
    frontCut, ?_, ?_, ?_, ?_, ?_, ?_, ?_, ?_⟩
  · rw [polls, ← answered, ← sameVerdict]
  · rw [polls]
    exact sends
  · rw [polls]
    exact sends.nic.sent
  · rw [polls]
    exact sends.nic.outbox
  · rw [polls]
    exact returnedCut.toReleases.receivesAlike (handling.outcome_receiving onPollingCut).1
  · intro enough
    have polled := Interface.outcome_pollInto_parcel carries next (.zeros packetSize)
    rw [Bytes.length_zeros, Parcel.ofFrame_of_room decoded short enough] at polled
    refine polled.trans ?_
    rw [← answered]
  · intro packet cut
    obtain ⟨cause, objects, carried⟩ := Parcel.ofFrame_of_cut_packet decoded packet cut
    exact ⟨cause, written ▸ objects, Interface.passesOver_of_refuses carries next carried done⟩
  · intro message cut
    obtain ⟨missing, carried⟩ := Parcel.ofFrame_of_cut_message decoded message cut
    exact ⟨written ▸ missing, Interface.passesOver_of_refuses carries next carried done⟩

/-- The question of a station is too long for a buffer of 20 bytes. -/
theorem short_buffer_cuts_frame_at_question :
    let reached := (Setup.default true).start.after [.inject questionFrame]
    reached.nic.front? = some questionFrame ∧ 14 ≤ questionFrame.length ∧
      ∃ after, reached.PassesOver after ∧
        (Interface.receiveFrame (.zeros 20)).outcome reached =
          (.ok { result := .error .truncated, buffer := (questionFrame.drop 14).take 20 },
            after) := by
  intro reached
  obtain ⟨arrived, -, arrives, onArrived⟩ :=
    Interface.inject_idle (Setup.default true).carries_start rfl questionFrame
  have waits : reached = { (Setup.default true).start with nic := arrived } := arrives
  have front : reached.nic.front? = some questionFrame := by
    rw [waits]
    exact onArrived.front?.trans rfl
  obtain ⟨outer, verdict, after, decoded, received, -, -, -, -, -, -, -, -, -, message⟩ :=
    short_buffer_cuts_frame (Setup.default true) [.inject questionFrame] questionFrame front
      (by decide) (.zeros 20)
  have kind : outer.etherType = .arp := by
    cases decoded
    rfl
  obtain ⟨-, refused, passed⟩ := message kind (by decide)
  rw [refused] at received
  exact ⟨front, by decide, after, passed, received⟩

end Setup

end NetStack
