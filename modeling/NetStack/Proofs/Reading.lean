/-
Module: NetStack.Proofs.Reading
Purpose: Which bytes carry a segment, and that the interface processes exactly
  the segment that a packet or a frame carries.
Main exports:
  Tcp.Segment.ofPayload?, Tcp.Segment.ofPacket?, Tcp.Segment.ofFrame?,
  Tcp.Segment.ofPayload?_eq_some, Tcp.Segment.ofPacket?_eq_some,
  Tcp.Segment.ofFrame?_eq_some, Tcp.Message.ofFrame?, Interface.ofFrame?_segmentFrame,
  Interface.messageOfFrame?_segmentFrame, Interface.receivePacket_of_some,
  Interface.receivePacket_of_none, Interface.pollInto,
  Interface.outcome_receiveFrame_bind, Interface.outcome_pollInto,
  Interface.pollInto_of_some, Interface.pollInto_of_none
-/
import NetStack.Proofs.Sending
import NetStack.Proofs.Undisturbed

namespace NetStack

/-!
Between the adapter and a channel stand three headers, each with checks of its
own.  A frame that passes all of them carries one segment, and to process the
frame is to process that segment.  A frame that fails one, or that is for
another protocol, disturbs no channel.
-/

/-- What is asked of a packet before its payload is looked at. -/
def Ipv4.Header.Admits (header : Ipv4.Header) (packet : Bytes) : Prop :=
  header.versionLength = Ipv4.versionAndLength ∧ header.computedChecksum = header.checksum ∧
    Ipv4.headerLength ≤ header.totalLength.toNat ∧ header.totalLength.toNat ≤ packet.length

instance (header : Ipv4.Header) (packet : Bytes) : Decidable (header.Admits packet) :=
  inferInstanceAs (Decidable (_ ∧ _ ∧ _ ∧ _))

namespace Tcp.Segment

/-- The segment in the payload of a packet.  Its header says where its own
payload starts. -/
def ofPayload? (sender : Ipv4Address) (data : Bytes) : Option Segment :=
  match Header.decode data with
  | none => none
  | some header =>
      if header.length < headerLength ∨ data.length < header.length then
        none
      else
        some { header, sender, payload := data.drop header.length }

/-- The segment in a packet.  Bytes past the total length are not part of it. -/
def ofPacket? (packet : Bytes) : Option Segment :=
  match Ipv4.Header.decode packet with
  | none => none
  | some header =>
      if header.Admits packet ∧ header.protocol = Ipv4.Protocol.tcp then
        ofPayload? header.source ((packet.take header.totalLength.toNat).drop Ipv4.headerLength)
      else
        none

/-- The segment in a frame of whose payload at most `room` bytes are kept. -/
def ofFrame? (room : Nat) (frame : Bytes) : Option Segment :=
  match Ethernet.Header.decode frame with
  | none => none
  | some header =>
      if header.etherType = .ipv4 then
        ofPacket? ((frame.drop Ethernet.headerLength).take room)
      else
        none

/-- A payload with a segment in it has room for the header that it begins with, and
the rest is the payload of the segment. -/
theorem ofPayload?_eq_some {sender : Ipv4Address} {data : Bytes} {segment : Segment}
    (carried : ofPayload? sender data = some segment) :
    ∃ header, Header.decode data = some header ∧ headerLength ≤ header.length ∧
      header.length ≤ data.length ∧
      segment = { header, sender, payload := data.drop header.length } := by
  unfold ofPayload? at carried
  cases decoded : Header.decode data with
  | none =>
      rw [decoded] at carried
      cases carried
  | some header =>
      rw [decoded] at carried
      dsimp only at carried
      split at carried
      · cases carried
      · next sound =>
        cases carried
        exact ⟨header, rfl, by omega, by omega, rfl⟩

/-- A packet with a segment in it passed every check on its header. -/
theorem ofPacket?_eq_some {packet : Bytes} {segment : Segment}
    (carried : ofPacket? packet = some segment) :
    ∃ header, Ipv4.Header.decode packet = some header ∧ header.Admits packet ∧
      header.protocol = Ipv4.Protocol.tcp ∧
      ofPayload? header.source
        ((packet.take header.totalLength.toNat).drop Ipv4.headerLength) = some segment := by
  unfold ofPacket? at carried
  cases decoded : Ipv4.Header.decode packet with
  | none =>
      rw [decoded] at carried
      cases carried
  | some header =>
      rw [decoded] at carried
      dsimp only at carried
      split at carried
      · next accepted => exact ⟨header, rfl, accepted.1, accepted.2, carried⟩
      · cases carried

/-- A frame with a segment in it says that it holds a packet. -/
theorem ofFrame?_eq_some {room : Nat} {frame : Bytes} {segment : Segment}
    (carried : ofFrame? room frame = some segment) :
    ∃ header, Ethernet.Header.decode frame = some header ∧ header.etherType = .ipv4 ∧
      ofPacket? ((frame.drop Ethernet.headerLength).take room) = some segment := by
  unfold ofFrame? at carried
  cases decoded : Ethernet.Header.decode frame with
  | none =>
      rw [decoded] at carried
      cases carried
  | some header =>
      rw [decoded] at carried
      dsimp only at carried
      split at carried
      · next packet => exact ⟨header, rfl, packet, carried⟩
      · cases carried

end Tcp.Segment

/-- What one end of a connection tells the other. -/
structure Tcp.Message where
  source : Endpoint
  destination : Endpoint
  flags : Tcp.Flags
  sequence : UInt32
  acknowledgment : UInt32
  payload : Bytes
deriving Repr, Inhabited, DecidableEq

/-- The message in a frame: the segment in it, between the addresses of its
packet. -/
def Tcp.Message.ofFrame? (frame : Bytes) : Option Tcp.Message := do
  let segment ← Tcp.Segment.ofFrame? packetSize frame
  let packet ← Ipv4.Header.decode (frame.drop Ethernet.headerLength)
  return {
    source := ⟨segment.sender, segment.header.sourcePort⟩
    destination := ⟨packet.destination, segment.header.destinationPort⟩
    flags := segment.header.flags
    sequence := segment.header.sequence
    acknowledgment := segment.header.acknowledgment
    payload := segment.payload }

namespace Interface

open Tcp (Segment)

/-! ## What the stack sends reads back -/

theorem ofPayload?_segment (config : Config) (channel : Tcp.Channel) (flags : Tcp.Flags)
    (payload : Bytes) (sender : Ipv4Address) :
    Segment.ofPayload? sender (segment config channel flags payload) =
      some {
        header := segmentHeader config channel flags payload
        sender
        payload := payload.take Tcp.maxPayload } := by
  have offset : (segmentHeader config channel flags payload).length = Tcp.headerLength := by
    show (UInt8.ofNat (Tcp.headerLength / 4 * 16)).toNat / 16 * 4 = Tcp.headerLength
    decide
  have long : ¬((segmentHeader config channel flags payload).length < Tcp.headerLength ∨
      (segment config channel flags payload).length <
        (segmentHeader config channel flags payload).length) := by
    rw [offset, length_segment]
    omega
  have decoded : Tcp.Header.decode (segment config channel flags payload) =
      some (segmentHeader config channel flags payload) := Tcp.Header.decode_encode _ _
  rw [Segment.ofPayload?, decoded]
  dsimp only
  rw [if_neg long, offset, segment, List.drop_left' (Tcp.Header.length_encode _)]

theorem admits_packetHeader (interface : Interface) (protocol : UInt8)
    (destination : Ipv4Address) {payload : Bytes} (fits : payload.length ≤ Ipv4.maxPayload) :
    (interface.packetHeader protocol destination payload).totalLength.toNat =
        Ipv4.headerLength + payload.length ∧
      (interface.packetHeader protocol destination payload).Admits
        ((interface.packetHeader protocol destination payload).encode ++ payload) := by
  have total : (interface.packetHeader protocol destination payload).totalLength.toNat =
      Ipv4.headerLength + payload.length := by
    show (UInt16.ofNat (Ipv4.headerLength + payload.length)).toNat = _
    rw [UInt16.toNat_ofNat']
    apply Nat.mod_eq_of_lt
    simp only [Ipv4.maxPayload, Ethernet.maxPayload, Ipv4.headerLength] at *
    omega
  refine ⟨total, rfl, ?_, ?_, ?_⟩
  · exact Ipv4.Header.computedChecksum_stamp _ _
  · omega
  · rw [total]
    simp

theorem ofPacket?_packet (interface : Interface) {destination : Ipv4Address} {payload : Bytes}
    (fits : payload.length ≤ Ipv4.maxPayload) :
    Segment.ofPacket?
        ((interface.packetHeader Ipv4.Protocol.tcp destination payload).encode ++ payload) =
      Segment.ofPayload? interface.config.address payload := by
  obtain ⟨total, admits⟩ :=
    interface.admits_packetHeader Ipv4.Protocol.tcp destination fits
  have whole : ((interface.packetHeader Ipv4.Protocol.tcp destination payload).encode ++
      payload).length = Ipv4.headerLength + payload.length := by simp
  have accepted : (interface.packetHeader Ipv4.Protocol.tcp destination payload).Admits
        ((interface.packetHeader Ipv4.Protocol.tcp destination payload).encode ++ payload) ∧
      (interface.packetHeader Ipv4.Protocol.tcp destination payload).protocol =
        Ipv4.Protocol.tcp := ⟨admits, rfl⟩
  simp only [Segment.ofPacket?, Ipv4.Header.decode_encode, accepted, and_self, if_true]
  rw [total, List.take_of_length_le (Nat.le_of_eq whole),
    List.drop_left' (Ipv4.Header.length_encode _)]
  rfl

/-- A frame that the stack sends on a channel carries the segment that was to be
sent. -/
theorem ofFrame?_segmentFrame (interface : Interface) (channel : Tcp.Channel)
    (flags : Tcp.Flags) (payload : Bytes) {room : Nat} (large : Ethernet.maxPayload ≤ room) :
    Segment.ofFrame? room (interface.segmentFrame channel flags payload) =
      some {
        header := segmentHeader interface.config channel flags payload
        sender := interface.config.address
        payload := payload.take Tcp.maxPayload } := by
  have short := length_segment_le interface.config channel flags payload
  have decoded : Ethernet.Header.decode (interface.segmentFrame channel flags payload) =
      some {
        destination := interface.nextHop channel.guest.address
        source := interface.config.mac
        etherType := .ipv4 } :=
    Ethernet.Header.decode_encode _ rfl
  have packet : ((interface.segmentFrame channel flags payload).drop Ethernet.headerLength).take
      room = (interface.packetHeader Ipv4.Protocol.tcp channel.guest.address
        (segment interface.config channel flags payload)).encode ++
          segment interface.config channel flags payload := by
    rw [segmentFrame, packetFrame, List.drop_left' (Ethernet.Header.length_encode _)]
    apply List.take_of_length_le
    simp only [List.length_append, Ipv4.Header.length_encode]
    simp only [Ipv4.maxPayload, Ethernet.maxPayload, Ipv4.headerLength] at *
    omega
  simp only [Segment.ofFrame?, decoded, if_true]
  rw [packet, ofPacket?_packet _ short, ofPayload?_segment]

/-- A frame that the stack sends on a channel tells the channel's peer where the
channel stands. -/
theorem messageOfFrame?_segmentFrame (interface : Interface) (channel : Tcp.Channel)
    (flags : Tcp.Flags) (payload : Bytes) :
    Tcp.Message.ofFrame? (interface.segmentFrame channel flags payload) =
      some {
        source := ⟨interface.config.address, channel.host.port⟩
        destination := channel.guest
        flags
        sequence := channel.sequence
        acknowledgment := channel.acknowledgment
        payload := payload.take Tcp.maxPayload } := by
  have packet : Ipv4.Header.decode
      ((interface.segmentFrame channel flags payload).drop Ethernet.headerLength) =
        some (interface.packetHeader Ipv4.Protocol.tcp channel.guest.address
          (segment interface.config channel flags payload)) := by
    rw [segmentFrame, packetFrame, List.drop_left' (Ethernet.Header.length_encode _)]
    exact Ipv4.Header.decode_encode _ _
  unfold Tcp.Message.ofFrame?
  rw [ofFrame?_segmentFrame _ _ _ _ (by decide), packet]
  rfl

/-! ## The way up -/

theorem receiveSegment_of_some {sender : Ipv4Address} {data : Bytes} {segment : Segment}
    (carried : Segment.ofPayload? sender data = some segment) (interface : Interface) :
    (receiveSegment sender data).outcome interface =
      (processSegment segment).outcome interface := by
  obtain ⟨header, decoded, long, inside, rfl⟩ := Segment.ofPayload?_eq_some carried
  have sound : ¬(header.length < Tcp.headerLength ∨ data.length < header.length) := by omega
  unfold receiveSegment
  rw [decoded]
  dsimp only
  rw [if_neg sound, Bytes.slice_eq_ok inside (Nat.le_refl _), Action.check_ok, pure_bind,
    List.take_length]

theorem receiveSegment_of_none {sender : Ipv4Address} {data : Bytes}
    (missing : Segment.ofPayload? sender data = none) (interface : Interface) :
    Undisturbed interface ((receiveSegment sender data).outcome interface).2 := by
  unfold Segment.ofPayload? at missing
  unfold receiveSegment
  cases decoded : Tcp.Header.decode data with
  | none => exact quiet_drop _ _ interface
  | some header =>
      rw [decoded] at missing
      dsimp only at missing ⊢
      split at missing
      · next bad =>
        rw [if_pos bad]
        exact quiet_drop _ _ interface
      · cases missing

/-- A packet that passes its checks is handed to its protocol. -/
theorem receivePacket_of_admits {packet : Bytes} {header : Ipv4.Header}
    (decoded : Ipv4.Header.decode packet = some header) (admits : header.Admits packet)
    (interface : Interface) :
    (receivePacket packet).outcome interface =
      (dispatchPacket header
        ((packet.take header.totalLength.toNat).drop Ipv4.headerLength)).outcome interface := by
  obtain ⟨version, intact, long, inside⟩ := admits
  have length : ¬(header.totalLength.toNat < Ipv4.headerLength ∨
      packet.length < header.totalLength.toNat) := by omega
  unfold receivePacket
  simp only [Action.outcome_emit_bind, decoded, Action.demand_some, pure_bind, version, intact,
    ne_eq, not_true, if_false, length]
  rw [Bytes.slice_eq_ok long inside, Action.check_ok, pure_bind]

/-- A packet that fails a check is dropped. -/
theorem receivePacket_of_not_admits {packet : Bytes} {header : Ipv4.Header}
    (decoded : Ipv4.Header.decode packet = some header) (fails : ¬header.Admits packet)
    (interface : Interface) :
    Undisturbed interface ((receivePacket packet).outcome interface).2 := by
  unfold receivePacket
  simp only [Action.outcome_emit_bind, decoded, Action.demand_some, pure_bind]
  split
  · exact quiet_drop _ _ interface
  · next version =>
    split
    · exact quiet_drop _ _ interface
    · next intact =>
      split
      · exact quiet_drop _ _ interface
      · next length =>
        refine absurd ⟨not_not.mp version, not_not.mp intact, ?_, ?_⟩ fails <;> omega

theorem receivePacket_of_some {packet : Bytes} {segment : Segment}
    (carried : Segment.ofPacket? packet = some segment) (interface : Interface) :
    (receivePacket packet).outcome interface = (processSegment segment).outcome interface := by
  obtain ⟨header, decoded, admits, tcp, held⟩ := Segment.ofPacket?_eq_some carried
  rw [receivePacket_of_admits decoded admits, dispatchPacket, if_pos tcp]
  exact receiveSegment_of_some held interface

theorem receivePacket_of_none {packet : Bytes} (missing : Segment.ofPacket? packet = none)
    (interface : Interface) :
    Undisturbed interface ((receivePacket packet).outcome interface).2 := by
  unfold Segment.ofPacket? at missing
  cases decoded : Ipv4.Header.decode packet with
  | none =>
      unfold receivePacket
      simp only [Action.outcome_emit_bind, decoded, Action.demand_none, Action.outcome_refuse_bind]
      exact .refl interface
  | some header =>
      rw [decoded] at missing
      dsimp only at missing
      by_cases admits : header.Admits packet
      · rw [receivePacket_of_admits decoded admits, dispatchPacket]
        split
        · next tcp =>
          rw [if_pos ⟨admits, tcp⟩] at missing
          exact receiveSegment_of_none missing interface
        · split
          · exact quiet_receiveDatagram _ interface
          · split
            · exact quiet_receiveEcho _ _ interface
            · exact quiet_emit _ interface
      · exact receivePacket_of_not_admits decoded admits interface

/-! ## One frame off the adapter -/

/-- Process one frame if any is waiting, with a given buffer for its payload. -/
def pollInto (out : Bytes) : Action Interface Nat := do
  let delivery ← receiveFrame out
  match delivery.result with
  | .ok length => return length
  | .error cause => Action.refuse cause

theorem poll_eq_pollInto : poll = pollInto (.zeros packetSize) := rfl

variable {interface : Interface} {traffic : Traffic} {frame : Bytes}

theorem quiet_receive (buffer : Bytes) : Quiet (onNic (Nic.receive buffer)) :=
  quiet_onNic fun _ _ wired => wired.receive buffer

/-- The adapter once the frame in front was taken off it. -/
def taken (interface : Interface) : Nic :=
  ((Nic.receive (.zeros packetSize)).outcome interface.nic).2

theorem undisturbed_taken (interface : Interface) :
    Undisturbed interface { interface with nic := interface.taken } :=
  quiet_receive (.zeros packetSize) interface

/-- With nothing to take, nothing is processed. -/
theorem outcome_pollInto_idle (carries : interface.nic.Carries traffic)
    (idle : traffic.next? = none) (out : Bytes) :
    (pollInto out).outcome interface = (.ok 0, { interface with nic := interface.taken }) := by
  have begun : (Interface.onNic (Nic.receive (.zeros packetSize))).outcome interface =
      (.ok { length := 0, buffer := .zeros packetSize },
        { interface with nic := interface.taken }) := by
    rw [outcome_onNic, carries.receive_idle idle]
    rfl
  unfold pollInto receiveFrame
  rw [bind_assoc, Action.outcome_bind_of_ok begun]
  rfl

/-- The frame in front is taken off the adapter, and handed on by what its header names,
as far as its payload went into the buffer.  Without a whole header nothing goes into
it. -/
theorem outcome_receiveFrame_bind {α : Type} (carries : interface.nic.Carries traffic)
    (next : traffic.next? = some frame) (out : Bytes) (proceed : Delivery → Action Interface α) :
    let copied := (frame.drop Ethernet.headerLength).take out.length
    (receiveFrame out >>= proceed).outcome interface =
      (match Ethernet.Header.decode frame with
        | none => proceed { result := .error .truncated, buffer := out }
        | some header =>
            (dispatchFrame header.etherType copied).attempt >>= fun result =>
              proceed {
                result := result.map fun () => frame.length
                buffer := copied ++ out.drop copied.length }).outcome
        { interface with nic := interface.taken } := by
  intro copied
  obtain ⟨nonempty, buffer, front, nic, received, -⟩ := carries.receive_next next
  have begun : (Interface.onNic (Nic.receive (.zeros packetSize))).outcome interface =
      (.ok { length := frame.length, buffer }, { interface with nic := interface.taken }) := by
    rw [taken, outcome_onNic, received]
  unfold receiveFrame
  rw [bind_assoc, Action.outcome_bind_of_ok begun]
  simp only [List.length_eq_zero_iff, nonempty, if_false, bind_assoc, Action.outcome_emit_bind]
  rw [front, Action.check_ok, pure_bind]
  cases decoded : Ethernet.Header.decode frame with
  | none => rfl
  | some header =>
      have long := Ethernet.Header.length_of_decode decoded
      have fits : 0 + copied.length ≤ out.length := by
        rw [Nat.zero_add]
        exact List.length_take_le _ _
      simp only [bind_assoc]
      rw [Bytes.slice_eq_ok long (Nat.le_refl _), Action.check_ok, pure_bind, List.take_length,
        Bytes.splice_eq_ok fits, Nat.zero_add, Action.check_ok, pure_bind]
      simp only [pure_bind]
      rfl

/-- Without the buffer, that is the answer of whoever it was handed to.  A frame without a
whole header is dropped. -/
theorem outcome_pollInto (carries : interface.nic.Carries traffic)
    (next : traffic.next? = some frame) (out : Bytes) :
    (pollInto out).outcome interface =
      match Ethernet.Header.decode frame with
      | none => (.error (.refused .truncated), { interface with nic := interface.taken })
      | some header =>
          let done :=
            (dispatchFrame header.etherType
              ((frame.drop Ethernet.headerLength).take out.length)).outcome
                { interface with nic := interface.taken }
          (done.1.map fun () => frame.length, done.2) := by
  rw [pollInto, outcome_receiveFrame_bind carries next]
  cases Ethernet.Header.decode frame with
  | none => rfl
  | some header =>
      refine Action.outcome_attempt_bind ?_ ?_
      · intro middle
        rfl
      · intro cause middle
        rfl

theorem carries_taken (carries : interface.nic.Carries traffic)
    (next : traffic.next? = some frame) : interface.taken.Carries traffic.advance := by
  obtain ⟨-, buffer, -, nic, received, onNic⟩ := carries.receive_next next
  rw [taken, received]
  exact onNic

/-- To process a frame that carries a segment is to process the segment. -/
theorem pollInto_of_some (carries : interface.nic.Carries traffic)
    (next : traffic.next? = some frame) {out : Bytes} {segment : Segment}
    (carried : Segment.ofFrame? out.length frame = some segment) :
    ∃ nic, Undisturbed interface { interface with nic } ∧ nic.Carries traffic.advance ∧
      (pollInto out).outcome interface =
        let done := (processSegment segment).outcome { interface with nic }
        (done.1.map fun () => frame.length, done.2) := by
  obtain ⟨header, decoded, kind, packet⟩ := Segment.ofFrame?_eq_some carried
  refine ⟨interface.taken, interface.undisturbed_taken, carries_taken carries next, ?_⟩
  rw [outcome_pollInto carries next, decoded]
  dsimp only
  rw [kind, dispatchFrame, receivePacket_of_some packet]

/-- A frame that carries no segment disturbs no channel. -/
theorem pollInto_of_none (carries : interface.nic.Carries traffic)
    (next : traffic.next? = some frame) {out : Bytes}
    (missing : Segment.ofFrame? out.length frame = none) :
    Undisturbed interface ((pollInto out).outcome interface).2 := by
  unfold Segment.ofFrame? at missing
  rw [outcome_pollInto carries next]
  cases decoded : Ethernet.Header.decode frame with
  | none => exact interface.undisturbed_taken
  | some header =>
      rw [decoded] at missing
      dsimp only at missing ⊢
      refine interface.undisturbed_taken.trans ?_
      unfold dispatchFrame
      split
      · next packet =>
        rw [packet, if_pos rfl] at missing
        exact receivePacket_of_none missing _
      · exact quiet_resolve _ _
      · next value _ => exact quiet_drop (.etherTypeUnknown value) _ _

end Interface

end NetStack
